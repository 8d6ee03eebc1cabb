import Mathlib.Data.List.Basic
import ReleasePlanner.Proofs.Release.Progress
import ReleasePlanner.Proofs.Repository.Ranges
import ReleasePlanner.Proofs.Version.Precedence
import ReleasePlanner.Proofs.Workflow.Succession

/-!
# The ledger of stable releases

A ledger notes the stable releases in the order in which they were made, each
with the commits that were linted for it (`Recorded`).  No commit is linted for
two of them, and what can be reached from the newest release are the release
commits and the linted ones, so none is forgotten (`ledger_partitions`).

The planner does not look for the release that was made last but for the
greatest version that can be reached.  That the two are the same is part of the
invariant (`Balanced`), and so the commits that are linted for a release start
where the release before it ended (`Balanced.since_eq`).
-/

namespace ReleasePlanner

open MemoryRepository

variable {r s : MemoryRepository} {runner : CommandRunner} {c : Config} {pattern : TagPattern}
  {linter : Linter} {first : Version} {bypass : Pattern} {request : RunRequest} {date : Date}
  {p : Prepared} {plan : Plan} {branch tag name : String} {id : CommitId}

/-! ## Noting releases -/

/-- A stable release: its tag and commit, the commits that were linted for it and what came of
that. -/
structure StableRelease where
  /-- The tag. -/
  tag : String
  /-- The release commit. -/
  commit : CommitId
  /-- The commits that were linted. -/
  linted : List LoggedCommit
  /-- The verdicts on these commits. -/
  report : LintReport
  deriving DecidableEq, Repr

/-- The numbers of the commits that were linted. -/
def StableRelease.lintedIds (release : StableRelease) : List CommitId :=
  release.linted.map LoggedCommit.id

/-- The commits that are linted when a release is prepared. -/
def Prepared.linted (p : Prepared) (r : MemoryRepository) : List LoggedCommit :=
  r.between (p.lastTag.bind r.tag?) p.head

/-- A tag that the second repository has and the first has not. -/
def newTag? (r s : MemoryRepository) : Option String :=
  (s.tags.map Prod.fst).find? fun name => (r.tag? name).isNone

/-- The stable release that an action made, if it was a run on the release branch that left a new
tag. -/
def Action.stableRelease? (runner : CommandRunner) (c : Config) (r : MemoryRepository) :
    Action → Option StableRelease
  | .run request date =>
    if request.branchIn r = some c.release.branches.release then do
      let s := ((runRequest runner c request date).apply r).2
      let p ← ((Prepared.ofBranch c c.release.branches.release date).apply r).1.toOption
      let tag ← newTag? r s
      let commit ← s.tag? tag
      some ⟨tag, commit, p.linted r, p.report⟩
    else none
  | _ => none

/-- What can be reached from a repository without commits, branches and tags, with the stable
releases on the way, the newest first. -/
inductive Recorded (runner : CommandRunner) (c : Config) :
    MemoryRepository → List StableRelease → Prop where
  | start {r : MemoryRepository} :
      r.commits = [] → r.heads = [] → r.tags = [] →
      Recorded runner c r []
  | step {r : MemoryRepository} {ledger : List StableRelease} (action : Action) :
      Recorded runner c r ledger → action.Fits c r →
      Recorded runner c (action.perform runner c r)
        ((action.stableRelease? runner c r).toList ++ ledger)

/-- Everything that can be reached has a ledger. -/
theorem Reachable.exists_recorded (reachable : Reachable runner c r) :
    ∃ ledger, Recorded runner c r ledger := by
  induction reachable with
  | start commits heads tags => exact ⟨[], .start commits heads tags⟩
  | step action _ fits ih =>
      obtain ⟨ledger, recorded⟩ := ih
      exact ⟨_, .step action recorded fits⟩

/-! ## What is noted -/

theorem newTag?_of_kept (kept : Kept r s) : newTag? r s = none := by
  rw [newTag?, List.find?_eq_none]
  intro name hname
  obtain ⟨id, htag⟩ := Catalog.mem_names_iff.mp hname
  have there : r.tag? name = some id := (kept.tag?_eq name).symm.trans htag
  rw [there]
  exact Bool.false_ne_true

theorem newTag?_of_tagged (tagged : Tagged r s branch tag) : newTag? r s = some tag := by
  obtain ⟨id, head, htags, -⟩ := tagged.added
  have there : s.tag? tag = some id := (htags tag).trans (if_pos rfl)
  have found : (newTag? r s).isSome = true := by
    rw [newTag?, List.find?_isSome]
    exact ⟨tag, Catalog.mem_names_iff.mpr ⟨id, there⟩, by rw [tagged.free]; rfl⟩
  obtain ⟨name, hname⟩ := Option.isSome_iff_exists.mp found
  obtain ⟨other, hother⟩ := Catalog.mem_names_iff.mp (List.mem_of_find?_eq_some hname)
  have free := List.find?_some hname
  rw [Option.isNone_iff_eq_none] at free
  rw [hname, tagged.eq_of_new free hother]

theorem Action.stableRelease?_of_kept {action : Action}
    (kept : Kept r (action.perform runner c r)) : action.stableRelease? runner c r = none := by
  cases action with
  | run request date =>
      have none_new : newTag? r ((runRequest runner c request date).apply r).2 = none :=
        newTag?_of_kept kept
      rw [stableRelease?]
      split
      next => simp [none_new]
      next => rfl
  | _ => rfl

theorem Action.stableRelease?_of_tagged (due : Due c request date r branch p plan)
    (tagged : Tagged r ((Action.run request date).perform runner c r) branch plan.tag)
    (there : ((Action.run request date).perform runner c r).tag? plan.tag = some id) :
    (Action.run request date).stableRelease? runner c r
      = if branch = c.release.branches.release then some ⟨plan.tag, id, p.linted r, p.report⟩
        else none := by
  rw [perform] at tagged there
  simp only [stableRelease?, due.branch_eq, Option.some.injEq]
  split
  next same =>
    rw [← same, ofBranch_apply, due.prepared_ok]
    simp [newTag?_of_tagged tagged, there, Except.toOption]
  next => rfl

/-! ## The commits that are linted -/

/-- The commits are linted that can be reached from the head and not from the tag after which
commits count. -/
theorem Prepared.Describes.mem_linted_iff (known : p.Describes r c branch date pattern linter)
    (sound : r.Sound) :
    id ∈ (p.linted r).map LoggedCommit.id ↔
      Reaches r.parents p.head id ∧
        ∀ since ∈ p.lastTag.bind r.tag?, ¬Reaches r.parents since id :=
  mem_ids_between_iff sound.rooted sound.since_held
    (sound.head_held branch p.head known.head_eq)

/-! ## The invariant -/

/-- A tag names a stable version. -/
def NamesStable (pattern : TagPattern) (name : String) : Prop :=
  ∃ v, pattern.parse? name = some v ∧ v.pre = none

/-- A commit belongs to a release of the ledger, as its release commit or as a linted one. -/
def Accounts (ledger : List StableRelease) (id : CommitId) : Prop :=
  ∃ release ∈ ledger, id = release.commit ∨ id ∈ release.lintedIds

/-- The ledger holds the stable tags, and the newest of them has the greatest version.  No commit
was linted twice, and the newest release reaches the commits of the ledger and no others. -/
structure Balanced (c : Config) (pattern : TagPattern) (r : MemoryRepository)
    (ledger : List StableRelease) : Prop where
  orderly : Orderly c pattern r
  tagged : ∀ name id, r.tag? name = some id ∧ NamesStable pattern name ↔
    ∃ release ∈ ledger, release.tag = name ∧ release.commit = id
  reported : ∀ release ∈ ledger, ∃ linter, Linter.ofPolicy c.lint = .ok linter ∧
    release.report = linter.lint (labelled r release.linted)
  greatest : ∀ newest, ledger.head? = some newest → ∃ v, pattern.parse? newest.tag = some v ∧
    ∀ name id w, r.tag? name = some id → pattern.parse? name = some w → w.pre = none →
      v.below w = false
  disjoint : ledger.Pairwise fun later earlier =>
    ∀ id ∈ later.lintedIds, id ∉ earlier.lintedIds
  complete : ∀ newest, ledger.head? = some newest → ∀ id,
    Reaches r.parents newest.commit id ↔ Accounts ledger id

/-- A tag that names a stable version can be reached from the release branch. -/
theorem Orderly.namesRelease_of_stable (orderly : Orderly c pattern r)
    (promises : c.Promises pattern first bypass) {v : Version} (htag : r.tag? name = some id)
    (hparse : pattern.parse? name = some v) (stable : v.pre = none) :
    NamesRelease c pattern r name id v .release := by
  obtain ⟨w, track, names⟩ := orderly.named name id htag
  have same := Orderly.parse?_eq promises.identifier_ok names
  rw [hparse, Option.some.injEq] at same
  subst same
  have onTrack : v.OnTrack c.release.branches.prereleaseId .release := stable
  rwa [names.1.unique onTrack rfl] at names

namespace Balanced

variable {ledger : List StableRelease} {newest release : StableRelease}

theorem blank (commits : r.commits = []) (heads : r.heads = []) (tags : r.tags = []) :
    Balanced c pattern r [] where
  orderly := .blank commits heads tags
  tagged name id := by simp [tag?, tags]
  reported _ hmem := by cases hmem
  greatest _ hhead := by cases hhead
  disjoint := .nil
  complete _ hhead := by cases hhead

theorem tag?_eq (balanced : Balanced c pattern r ledger) (mem : release ∈ ledger) :
    r.tag? release.tag = some release.commit ∧ NamesStable pattern release.tag :=
  (balanced.tagged release.tag release.commit).mpr ⟨release, mem, rfl, rfl⟩

/-- A repository that grows by no stable tag keeps the balance. -/
theorem grows (balanced : Balanced c pattern r ledger) (orderly : Orderly c pattern s)
    (grows : Grows r s) (same : ∀ name, NamesStable pattern name → s.tag? name = r.tag? name) :
    Balanced c pattern s ledger where
  orderly := orderly
  tagged name id := by
    rw [← balanced.tagged]
    refine and_congr_left fun stable => ?_
    rw [same name stable]
  reported := balanced.reported
  greatest newest hnewest := by
    obtain ⟨v, hv, hmax⟩ := balanced.greatest newest hnewest
    refine ⟨v, hv, fun name id w htag hparse stable => ?_⟩
    rw [same name ⟨w, hparse, stable⟩] at htag
    exact hmax name id w htag hparse stable
  disjoint := balanced.disjoint
  complete newest hnewest id := by
    have tagged := balanced.tag?_eq (List.mem_of_mem_head? hnewest)
    have held := balanced.orderly.sound.tag_held _ _ tagged.1
    rw [grows.reaches_iff balanced.orderly.sound.rooted held]
    exact balanced.complete newest hnewest id

/-! ## A release -/

/-- Without a release in the ledger the planner sees no stable version. -/
theorem stable_of_nil (balanced : Balanced c pattern r [])
    (known : p.Describes r c branch date pattern linter) : p.history.stable = none := by
  have held := balanced.orderly.sound.head_held branch p.head known.head_eq
  have latest := History.isLatest_stable pattern c.release.branches.prereleaseId
    (r.releaseTags pattern p.head)
  rw [← known.history_eq] at latest
  cases hstable : p.history.stable with
  | none => rfl
  | some v =>
      rw [hstable] at latest
      obtain ⟨stable, named⟩ := latest.mem
      obtain ⟨tag, id, hparse, htag, -⟩ :=
        (names_releaseTags_iff balanced.orderly.sound held).mp named
      obtain ⟨release, hmem, -⟩ := (balanced.tagged tag id).mp ⟨htag, v, hparse, stable⟩
      cases hmem

/-- The stable version that the planner sees from the release branch is that of the newest
release. -/
theorem stable_of_cons (balanced : Balanced c pattern r (newest :: ledger))
    (promises : c.Promises pattern first bypass)
    (known : p.Describes r c c.release.branches.release date pattern linter) :
    ∃ v, p.history.stable = some v ∧ newest.tag = pattern.format v ∧
      Reaches r.parents p.head newest.commit := by
  have held := balanced.orderly.sound.head_held _ p.head known.head_eq
  have latest := History.isLatest_stable pattern c.release.branches.prereleaseId
    (r.releaseTags pattern p.head)
  rw [← known.history_eq] at latest
  have hnames : ∀ v, History.Names pattern (r.releaseTags pattern p.head) v ↔
      ∃ tag id, pattern.parse? tag = some v ∧ r.tag? tag = some id ∧
        Reaches r.parents p.head id :=
    fun _ => names_releaseTags_iff balanced.orderly.sound held
  obtain ⟨htag, w, hw, stable⟩ := balanced.tag?_eq List.mem_cons_self
  obtain ⟨v, hv, hmax⟩ := balanced.greatest newest rfl
  rw [hw, Option.some.injEq] at hv
  subst hv
  obtain ⟨-, -, hformat, head, hhead, hreach⟩ :=
    balanced.orderly.namesRelease_of_stable promises htag hw stable
  obtain rfl : head = p.head := Option.some.inj (hhead.symm.trans known.head_eq)
  have among := And.intro stable ((hnames w).mpr ⟨newest.tag, newest.commit, hw, htag, hreach⟩)
  cases hstable : p.history.stable with
  | none =>
      rw [hstable] at latest
      exact absurd among (latest w)
  | some u =>
      rw [hstable] at latest
      -- Neither the latest version nor that of the newest release is above the other.
      obtain ⟨hu, named⟩ := latest.mem
      obtain ⟨tag, id, hparse, htag, -⟩ := (hnames u).mp named
      have same : u = w :=
        Version.eq_of_notBelow hu stable (latest.2 w among) (hmax tag id u htag hparse hu)
      exact ⟨u, rfl, by rw [same, hformat], hreach⟩

/-- On the release branch commits count after the newest release. -/
theorem since_eq (balanced : Balanced c pattern r ledger)
    (promises : c.Promises pattern first bypass)
    (known : p.Describes r c c.release.branches.release date pattern linter)
    (track : p.track = .release) :
    p.lastTag.bind r.tag? = ledger.head?.map StableRelease.commit := by
  have hlast : p.lastTag = p.history.stable.map pattern.format := by
    rw [known.lastTag_eq, track]
    rfl
  cases ledger with
  | nil =>
      rw [hlast, balanced.stable_of_nil known]
      rfl
  | cons newest ledger =>
      obtain ⟨v, hstable, hformat, -⟩ := balanced.stable_of_cons promises known
      rw [hlast, hstable, Option.map_some, Option.bind_some, ← hformat]
      exact (balanced.tag?_eq List.mem_cons_self).1

/-- The commits of the ledger can be reached from the release branch. -/
theorem reaches_of_accounts (balanced : Balanced c pattern r ledger)
    (promises : c.Promises pattern first bypass)
    (known : p.Describes r c c.release.branches.release date pattern linter)
    (accounts : Accounts ledger id) : Reaches r.parents p.head id := by
  cases ledger with
  | nil =>
      obtain ⟨release, hmem, -⟩ := accounts
      cases hmem
  | cons newest ledger =>
      obtain ⟨v, -, -, hreach⟩ := balanced.stable_of_cons promises known
      exact hreach.trans ((balanced.complete newest rfl id).mpr accounts)

/-- The commits that are linted for the next release are those that the ledger does not know. -/
theorem mem_linted_iff (balanced : Balanced c pattern r ledger)
    (promises : c.Promises pattern first bypass)
    (known : p.Describes r c c.release.branches.release date pattern linter)
    (track : p.track = .release) :
    id ∈ (p.linted r).map LoggedCommit.id ↔
      Reaches r.parents p.head id ∧ ¬Accounts ledger id := by
  rw [known.mem_linted_iff balanced.orderly.sound, balanced.since_eq promises known track]
  refine and_congr_right fun _ => ?_
  cases ledger with
  | nil => simp [Accounts]
  | cons newest ledger => simp [← balanced.complete newest rfl id]

end Balanced

/-- A plan for the release branch, with what was known before: its version is stable, and it is
above all stable versions that were tagged before. -/
structure PlansStable (c : Config) (pattern : TagPattern) (r : MemoryRepository) (date : Date)
    (p : Prepared) (plan : Plan) (linter : Linter) : Prop where
  known : p.Describes r c c.release.branches.release date pattern linter
  track_eq : p.track = .release
  stable : plan.version.pre = none
  parse?_eq : pattern.parse? plan.tag = some plan.version
  above : ∀ name id w, r.tag? name = some id → pattern.parse? name = some w → w.pre = none →
    w.below plan.version = true

theorem Due.plansStable (due : Due c request date r c.release.branches.release p plan)
    (orderly : Orderly c pattern r) (promises : c.Promises pattern first bypass)
    (hlegal : Identifier.legal c.release.branches.prereleaseId.toList = true)
    (fits : plan.version.Fits) : ∃ linter, PlansStable c pattern r date p plan linter := by
  obtain ⟨htag, onTrack, hbranch, habove⟩ :=
    orderly.below_planned promises hlegal due.prepared_ok due.plan_eq
  obtain ⟨pattern', linter, known⟩ := Prepared.exists_describes due.prepared_ok
  obtain rfl : pattern' = pattern :=
    Except.ok.inj (known.pattern_ok.symm.trans promises.pattern_ok)
  have htrack := BranchLayout.trackOf_branchOf promises.branches_ne .release
  have planTrack : plan.track = .release := by
    cases hplan : plan.track with
    | release => rfl
    | prerelease =>
        rw [hplan] at hbranch
        exact absurd hbranch.symm promises.branches_ne
  rw [planTrack] at onTrack habove
  refine ⟨linter, known, Except.ok.inj (known.track_ok.symm.trans htrack), onTrack, ?_, ?_⟩
  · rw [htag]
    exact TagPattern.parse?_format fits (onTrack.wellNamed promises.identifier_ok)
  · intro name id w htag hparse stable
    exact habove name id w htag (orderly.namesRelease_of_stable promises htag hparse stable)

/-- The tag of a plan for the other branch names no stable version. -/
theorem Due.not_namesStable (due : Due c request date r branch p plan)
    (orderly : Orderly c pattern r) (promises : c.Promises pattern first bypass)
    (hlegal : Identifier.legal c.release.branches.prereleaseId.toList = true)
    (fits : plan.version.Fits) (other : branch ≠ c.release.branches.release) :
    ¬NamesStable pattern plan.tag := by
  rintro ⟨v, hparse, stable⟩
  obtain ⟨htag, onTrack, hbranch, -⟩ :=
    orderly.below_planned promises hlegal due.prepared_ok due.plan_eq
  rw [htag, TagPattern.parse?_format fits (onTrack.wellNamed promises.identifier_ok),
    Option.some.injEq] at hparse
  subst hparse
  have stableTrack : plan.version.OnTrack c.release.branches.prereleaseId .release := stable
  rw [onTrack.unique stableTrack rfl] at hbranch
  exact other hbranch.symm

namespace Balanced

variable {ledger : List StableRelease} {newest release : StableRelease}

theorem tagged_released (balanced : Balanced c pattern r ledger)
    (plans : PlansStable c pattern r date p plan linter)
    (tagged : Tagged r s branch plan.tag) (there : s.tag? plan.tag = some release.commit)
    (hrelease : release.tag = plan.tag) (name : String) (id : CommitId) :
    s.tag? name = some id ∧ NamesStable pattern name ↔
      ∃ noted ∈ release :: ledger, noted.tag = name ∧ noted.commit = id := by
  rw [tagged.tag?_eq there, List.exists_mem_cons_iff, ← balanced.tagged, hrelease]
  by_cases same : name = plan.tag
  · have stable : NamesStable pattern plan.tag := ⟨plan.version, plans.parse?_eq, plans.stable⟩
    simp [same, stable, tagged.free]
  · simp [same, Ne.symm same]

/-- No stable version is above that of the new release. -/
theorem greatest_released (plans : PlansStable c pattern r date p plan linter)
    (tagged : Tagged r s branch plan.tag) {w : Version} (htag : s.tag? name = some id)
    (hparse : pattern.parse? name = some w) (stable : w.pre = none) :
    plan.version.below w = false := by
  obtain ⟨new, head, htags, -⟩ := tagged.added
  rw [htags] at htag
  split at htag
  next same =>
    rw [same, plans.parse?_eq, Option.some.injEq] at hparse
    rw [hparse, Version.not_below_self]
  next =>
    have hbelow := plans.above name id w htag hparse stable
    cases habove : plan.version.below w with
    | false => rfl
    | true => rw [← Version.not_below_self w, Version.below_trans hbelow habove]

/-- The new release reaches its own commit and what its branch had before. -/
theorem reaches_released (balanced : Balanced c pattern r ledger)
    (plans : PlansStable c pattern r date p plan linter)
    (tagged : Tagged r s c.release.branches.release plan.tag)
    (there : s.tag? plan.tag = some release.commit) :
    Reaches s.parents release.commit id ↔ id = release.commit ∨ Reaches r.parents p.head id := by
  have held := balanced.orderly.sound.head_held _ p.head plans.known.head_eq
  have only : s.parents release.commit = [p.head] := by
    rw [(tagged.on_top release.commit there).2, plans.known.head_eq]
    rfl
  rw [Reaches.iff_of_parents_eq only, tagged.grows.reaches_iff balanced.orderly.sound.rooted held]

/-- A stable release that is noted keeps the balance. -/
theorem released (balanced : Balanced c pattern r ledger)
    (promises : c.Promises pattern first bypass)
    (plans : PlansStable c pattern r date p plan linter) (orderly : Orderly c pattern s)
    (tagged : Tagged r s c.release.branches.release plan.tag)
    (there : s.tag? plan.tag = some id) :
    Balanced c pattern s (⟨plan.tag, id, p.linted r, p.report⟩ :: ledger) where
  orderly := orderly
  tagged := balanced.tagged_released plans tagged there rfl
  reported := by
    rw [List.forall_mem_cons]
    exact ⟨⟨linter, plans.known.linter_ok, plans.known.report_eq⟩, balanced.reported⟩
  greatest := by
    rintro _ ⟨⟩
    refine ⟨plan.version, plans.parse?_eq, fun name other w htag hparse stable => ?_⟩
    exact greatest_released plans tagged htag hparse stable
  disjoint := by
    refine List.Pairwise.cons ?_ balanced.disjoint
    intro earlier hearlier other linted known
    have fresh := (balanced.mem_linted_iff promises plans.known plans.track_eq).mp linted
    exact fresh.2 ⟨earlier, hearlier, Or.inr known⟩
  complete := by
    rintro _ ⟨⟩ other
    have hlinted : other ∈ StableRelease.lintedIds ⟨plan.tag, id, p.linted r, p.report⟩ ↔ _ :=
      balanced.mem_linted_iff promises plans.known plans.track_eq
    have hreach : Accounts ledger other → Reaches r.parents p.head other :=
      balanced.reaches_of_accounts promises plans.known
    rw [balanced.reaches_released plans tagged there, Accounts, List.exists_mem_cons_iff, hlinted,
      ← Accounts, or_assoc]
    refine or_congr_right ?_
    -- What the branch had before was either accounted for already or is linted now.
    by_cases accounted : Accounts ledger other
    · simp [accounted, hreach accounted]
    · simp [accounted]

/-- Every action keeps the balance. -/
theorem perform (balanced : Balanced c pattern r ledger)
    (promises : c.Promises pattern first bypass)
    (hlegal : Identifier.legal c.release.branches.prereleaseId.toList = true) (action : Action)
    (fits : action.Fits c r) :
    Balanced c pattern (action.perform runner c r)
      ((action.stableRelease? runner c r).toList ++ ledger) := by
  have orderly : Orderly c pattern (action.perform runner c r) :=
    balanced.orderly.perform promises hlegal action fits
  rcases action.adds runner c balanced.orderly.sound with
    kept | ⟨request, date, branch, p, plan, rfl, due, tagged⟩
  · rw [Action.stableRelease?_of_kept kept]
    exact balanced.grows orderly kept.grows fun name _ => kept.tag?_eq name
  · obtain ⟨id, head, htags, -⟩ := tagged.added
    have there := (htags plan.tag).trans (if_pos rfl)
    rw [Action.stableRelease?_of_tagged due tagged there]
    split
    next same =>
      subst same
      obtain ⟨linter, plans⟩ :=
        due.plansStable balanced.orderly promises hlegal (RunFits.due fits due)
      exact balanced.released promises plans orderly tagged there
    next other =>
      refine balanced.grows orderly tagged.grows fun name stable => ?_
      rw [htags, if_neg]
      rintro rfl
      exact due.not_namesStable balanced.orderly promises hlegal (RunFits.due fits due) other
        stable

end Balanced

/-- The invariant holds of every ledger. -/
theorem Recorded.balanced {ledger : List StableRelease} (recorded : Recorded runner c r ledger)
    (promises : c.Promises pattern first bypass)
    (hlegal : Identifier.legal c.release.branches.prereleaseId.toList = true) :
    Balanced c pattern r ledger := by
  induction recorded with
  | start commits heads tags => exact .blank commits heads tags
  | step action _ fits ih => exact ih.perform promises hlegal action fits

/-! ## No commit twice, none forgotten -/

/-- The releases of the ledger are the stable tags, each with the commits that its run reported on.
No commit was linted for two releases.  The newest release has the greatest version, and what can be
reached from it are the release commits and the linted ones. -/
theorem ledger_partitions (valid : c.validate = .ok ())
    (hlegal : Identifier.legal c.release.branches.prereleaseId.toList = true)
    {ledger : List StableRelease} (recorded : Recorded runner c r ledger) :
    ∃ pattern linter, c.release.tagPattern = .ok pattern ∧ Linter.ofPolicy c.lint = .ok linter ∧
      (∀ name id, r.tag? name = some id ∧ NamesStable pattern name ↔
        ∃ release ∈ ledger, release.tag = name ∧ release.commit = id) ∧
      (∀ release ∈ ledger, release.report = linter.lint (labelled r release.linted)) ∧
      ledger.Pairwise (fun later earlier => ∀ id ∈ later.lintedIds, id ∉ earlier.lintedIds) ∧
      ∀ newest, ledger.head? = some newest →
        (∃ v, pattern.parse? newest.tag = some v ∧
          ∀ name id w, r.tag? name = some id → pattern.parse? name = some w → w.pre = none →
            v.below w = false) ∧
        ∀ id, Reaches r.parents newest.commit id ↔ Accounts ledger id := by
  obtain ⟨pattern, first, bypass, promises⟩ := Config.exists_promises valid
  have balanced := recorded.balanced promises hlegal
  have hlinter : Linter.ofPolicy c.lint = .ok ⟨c.lint, bypass⟩ := by
    rw [Linter.ofPolicy, promises.bypass_ok]
    rfl
  refine ⟨pattern, _, promises.pattern_ok, hlinter, balanced.tagged, ?_, balanced.disjoint,
    fun newest hnewest => ⟨balanced.greatest newest hnewest, balanced.complete newest hnewest⟩⟩
  intro release hrelease
  obtain ⟨linter, made, hreport⟩ := balanced.reported release hrelease
  rwa [Except.ok.inj (hlinter.symm.trans made)]

theorem runFits_mended : RunFits .standard ⟨none, false, false⟩ ⟨2026, 1, 9⟩ mended := by
  have known : (mended.current, ((mended.prepared .standard "release" ⟨2026, 1, 9⟩).toOption.bind
      Prepared.plan).map Plan.version) = (some "release", some (.stable 1 0 1)) := by
    decide +kernel
  obtain ⟨current, version⟩ := Prod.mk.inj known
  exact runFits_of_version current version (fits_stable (by decide) (by decide) (by decide))

theorem recorded_correction :
    ∃ r ledger, Recorded idleRunner .standard r ledger ∧
      ledger.map (fun release => (release.tag, release.commit, release.lintedIds))
        = [("v1.0.1", 4, [3]), ("v1.0.0", 2, [1])] := by
  have worked : Recorded idleRunner .standard workedOn [] :=
    .step (.checkout "release")
      (.step (.commit .release "feat: Add search.") (.start rfl rfl rfl) True.intro) True.intro
  have released := worked.step (.run ⟨none, false, false⟩ ⟨2026, 1, 9⟩) runFits_workedOn
  have corrected := released.step (.commit .release "fix: Handle nulls.") True.intro
  have recorded := corrected.step (.run ⟨none, false, false⟩ ⟨2026, 1, 9⟩) runFits_mended
  exact ⟨_, _, recorded, by decide +kernel⟩

/-- The second release covers the correction, and the first one what was there before. -/
theorem ledger_of_correction :
    ∃ r ledger, Recorded idleRunner .standard r ledger ∧
      ledger.map (fun release => (release.tag, release.commit, release.lintedIds))
        = [("v1.0.1", 4, [3]), ("v1.0.0", 2, [1])] ∧
      ∀ id, Reaches r.parents 4 id ↔ Accounts ledger id := by
  obtain ⟨r, ledger, recorded, hledger⟩ := recorded_correction
  obtain ⟨pattern, linter, -, -, -, -, -, complete⟩ :=
    ledger_partitions Config.validate_standard (by decide) recorded
  obtain ⟨newest, rest, hcons, hnewest, -⟩ := List.map_eq_cons_iff.mp hledger
  obtain ⟨-, reaches⟩ := complete newest (by rw [hcons]; rfl)
  have hcommit : newest.commit = 4 := congrArg (fun noted => noted.2.1) hnewest
  rw [hcommit] at reaches
  exact ⟨r, ledger, recorded, hledger, reaches⟩

end ReleasePlanner
