import ReleasePlanner.Proofs.Release.Progress
import ReleasePlanner.Proofs.Repository.InMemory
import ReleasePlanner.Proofs.Step
import ReleasePlanner.Workflow.Prepare

/-!
# What is known before a release

Preparing a release in memory changes nothing (`ofBranch_apply`), and what
comes out of it is told by the repository alone (`Prepared.Describes`).

The tag after which commits count is not kept but written anew from the version
of the last release.  So it is the tag of that release only where the tag was
written in the normal form (`lastTag_startsAfter_iff`).  Where it was not, no
commit is left out, and all of them are released once more.
-/

namespace ReleasePlanner

open MemoryRepository

variable {r : MemoryRepository} {c : Config} {pattern : TagPattern} {branch : String}
  {head : CommitId} {date : Date} {p : Prepared}

/-! ## Reading the repository -/

/-- The tags that follow a pattern and are reachable from a commit. -/
def MemoryRepository.releaseTags (r : MemoryRepository) (pattern : TagPattern) (head : CommitId) :
    List String :=
  (r.tags.map Prod.fst).filter fun tag =>
    pattern.accepts tag && (r.tag? tag).any fun id => r.isAncestor id head

theorem tagReaches_apply (head : CommitId) (tag : String) :
    (tagReaches head tag).apply r = (.ok ((r.tag? tag).any fun id => r.isAncestor id head), r) := by
  simp only [tagReaches, Step.apply_bind, apply_findTag]
  cases r.tag? tag with
  | none => rfl
  | some id => exact apply_isAncestor id head

theorem reachableTags_apply (tags : List String) :
    (reachableTags pattern head tags).apply r =
      (.ok (tags.filter fun tag =>
        pattern.accepts tag && (r.tag? tag).any fun id => r.isAncestor id head), r) := by
  induction tags with
  | nil => rfl
  | cons tag tags ih =>
      rw [reachableTags, List.filter_cons]
      cases accepted : pattern.accepts tag with
      | false =>
          simp only [Step.apply_bind, Step.apply_pure, ih, Bool.false_eq_true, if_false,
            Bool.false_and]
      | true =>
          simp only [Step.apply_bind, Step.apply_pure, tagReaches_apply, ih, if_true,
            Bool.true_and]

theorem reachableTags_tagNames_apply :
    (reachableTags pattern head (r.tags.map Prod.fst)).apply r
      = (.ok (r.releaseTags pattern head), r) :=
  reachableTags_apply _

theorem findOptional_apply (tag : Option String) :
    (findOptional tag).apply r = (.ok (tag.bind r.tag?), r) := by
  cases tag with
  | none => rfl
  | some tag => rfl

/-- What is known about a branch, told by the repository alone. -/
def MemoryRepository.prepared (r : MemoryRepository) (c : Config) (branch : String) (date : Date) :
    Except Error Prepared := do
  let pattern ← c.release.tagPattern.mapError .tag
  let track ← c.release.branches.trackOf branch
  let head ← r.head branch
  let history := History.ofTags pattern c.release.branches.prereleaseId (r.releaseTags pattern head)
  let lastTag := (history.last? track).map pattern.format
  let linter ← Linter.ofPolicy c.lint
  let report := linter.lint (labelled r (r.between (lastTag.bind r.tag?) head))
  let decision := Decision.ofCommits c.release report.accepted
  let plan ← planUnlessBlocked c.release branch report decision history date
  return ⟨branch, track, head, history, lastTag, report, decision, plan⟩

/-- Preparing a release only looks at the repository. -/
theorem ofBranch_apply (r : MemoryRepository) (c : Config) (branch : String) (date : Date) :
    (Prepared.ofBranch c branch date).apply r = (r.prepared c branch date, r) := by
  rw [Prepared.ofBranch, MemoryRepository.prepared]
  cases c.release.tagPattern.mapError Error.tag with
  | error e => rfl
  | ok pattern =>
      rw [Step.apply_ofExcept_bind_ok]
      cases c.release.branches.trackOf branch with
      | error e => rfl
      | ok track =>
          rw [Step.apply_ofExcept_bind_ok, Step.apply_bind, apply_branchHead]
          cases r.head branch with
          | error e => rfl
          | ok head =>
              simp only [Step.apply_bind, apply_tagNames, reachableTags_tagNames_apply,
                findOptional_apply, apply_commitsBetween, Step.apply_ofExcept]
              cases Linter.ofPolicy c.lint with
              | error e => rfl
              | ok linter =>
                  simp only [Step.apply_get, bind, Except.bind]
                  generalize planUnlessBlocked c.release branch _ _ _ date = plan
                  cases plan with
                  | error e => rfl
                  | ok plan => rfl

/-- What a branch was found to be, with the tag pattern and the linter of the configuration. -/
structure Prepared.Describes (p : Prepared) (r : MemoryRepository) (c : Config) (branch : String)
    (date : Date) (pattern : TagPattern) (linter : Linter) : Prop where
  pattern_ok : c.release.tagPattern = .ok pattern
  linter_ok : Linter.ofPolicy c.lint = .ok linter
  track_ok : c.release.branches.trackOf branch = .ok p.track
  branch_eq : p.branch = branch
  head_eq : r.head? branch = some p.head
  history_eq : p.history =
    History.ofTags pattern c.release.branches.prereleaseId (r.releaseTags pattern p.head)
  lastTag_eq : p.lastTag = (p.history.last? p.track).map pattern.format
  report_eq : p.report = linter.lint (labelled r (r.between (p.lastTag.bind r.tag?) p.head))
  decision_eq : p.decision = Decision.ofCommits c.release p.report.accepted
  plan_ok : planUnlessBlocked c.release branch p.report p.decision p.history date = .ok p.plan

theorem Prepared.exists_describes (h : r.prepared c branch date = .ok p) :
    ∃ pattern linter, p.Describes r c branch date pattern linter := by
  simp only [MemoryRepository.prepared, Result.bind_eq_ok, Result.mapError_eq_ok] at h
  obtain ⟨pattern, hpattern, track, htrack, head, hhead, linter, hlinter, plan, hplan, h⟩ := h
  cases h
  exact ⟨pattern, linter, hpattern, hlinter, htrack, rfl, head?_of_head hhead, rfl, rfl, rfl, rfl,
    hplan⟩

/-- Under a valid configuration the pattern and the linter are known. -/
theorem Prepared.describes {first : Version} {bypass : Pattern}
    (promises : c.Promises pattern first bypass) (h : r.prepared c branch date = .ok p) :
    p.Describes r c branch date pattern ⟨c.lint, bypass⟩ := by
  obtain ⟨pattern', linter, known⟩ := exists_describes h
  have hpattern : pattern' = pattern :=
    Except.ok.inj (known.pattern_ok.symm.trans promises.pattern_ok)
  have hlinter : linter = ⟨c.lint, bypass⟩ :=
    Except.ok.inj (known.linter_ok.symm.trans promises.linter_ok)
  subst hpattern hlinter
  exact known

/-- Rejected commits may not stop a release. -/
theorem planUnlessBlocked_of_lenient {p : ReleasePolicy} (lenient : p.blockOnRejected = false)
    (branch : String) (report : LintReport) (d : Decision) (h : History) (date : Date) :
    planUnlessBlocked p branch report d h date = p.plan branch d h date := by
  rw [planUnlessBlocked, lenient, Bool.false_and, if_neg Bool.false_ne_true]

/-- A branch can be prepared where something can be planned from what is found. -/
theorem prepared_eq_ok {linter : Linter} {track : Track} {history : History}
    {last : Option String} {report : LintReport} {plan : Option Plan}
    (hpattern : c.release.tagPattern = .ok pattern) (hlinter : Linter.ofPolicy c.lint = .ok linter)
    (htrack : c.release.branches.trackOf branch = .ok track) (hhead : r.head? branch = some head)
    (hhistory : History.ofTags pattern c.release.branches.prereleaseId
      (r.releaseTags pattern head) = history)
    (hlast : (history.last? track).map pattern.format = last)
    (hreport : linter.lint (labelled r (r.between (last.bind r.tag?) head)) = report)
    (hplan : planUnlessBlocked c.release branch report
      (Decision.ofCommits c.release report.accepted) history date = .ok plan) :
    r.prepared c branch date = .ok ⟨branch, track, head, history, last, report,
      Decision.ofCommits c.release report.accepted, plan⟩ := by
  subst hhistory hlast hreport
  simp only [MemoryRepository.prepared, hpattern, htrack, head_of_head? hhead, hlinter, hplan,
    Result.mapError_ok, bind, Except.bind]
  rfl

/-! ## The tags that count -/

/-- A tag counts when it names a version and can be reached. -/
theorem mem_releaseTags_iff (rooted : r.Rooted) (held : r.Holds head) {tag : String} :
    tag ∈ r.releaseTags pattern head ↔
      (∃ v, pattern.parse? tag = some v) ∧
        ∃ id, r.tag? tag = some id ∧ Reaches r.parents head id := by
  rw [releaseTags, List.mem_filter, Catalog.mem_names_iff, Bool.and_eq_true, TagPattern.accepts,
    Option.isSome_iff_exists, Option.any_eq_true_iff_get]
  constructor
  · rintro ⟨-, hnamed, hsome, hancestor⟩
    exact ⟨hnamed, _, (Option.some_get hsome).symm, (isAncestor_iff rooted held).mp hancestor⟩
  · rintro ⟨hnamed, id, htag, hreach⟩
    refine ⟨⟨id, htag⟩, hnamed, Option.isSome_of_eq_some htag, ?_⟩
    rw [isAncestor_iff rooted held]
    rwa [Option.get_of_eq_some _ htag]

/-- The versions that count are those of the tags that can be reached, also where other tags are
on no commit. -/
theorem names_releaseTags_iff_of_rooted (rooted : r.Rooted) (held : r.Holds head) {v : Version} :
    History.Names pattern (r.releaseTags pattern head) v ↔
      ∃ tag id, pattern.parse? tag = some v ∧ r.tag? tag = some id ∧
        Reaches r.parents head id := by
  constructor
  · rintro ⟨tag, hmem, hparse⟩
    obtain ⟨-, id, htag, hreach⟩ := (mem_releaseTags_iff rooted held).mp hmem
    exact ⟨tag, id, hparse, htag, hreach⟩
  · rintro ⟨tag, id, hparse, htag, hreach⟩
    exact ⟨tag, (mem_releaseTags_iff rooted held).mpr ⟨⟨v, hparse⟩, id, htag, hreach⟩, hparse⟩

theorem names_releaseTags_iff (sound : r.Sound) (held : r.Holds head) {v : Version} :
    History.Names pattern (r.releaseTags pattern head) v ↔
      ∃ tag id, pattern.parse? tag = some v ∧ r.tag? tag = some id ∧
        Reaches r.parents head id :=
  names_releaseTags_iff_of_rooted sound.rooted held

/-! ## The tag after which commits count -/

/-- Where commits count after a tag that is there, its commit is there. -/
theorem MemoryRepository.Sound.since_held (sound : r.Sound) {last : Option String} :
    ∀ id ∈ last.bind r.tag?, r.Holds id := by
  intro id hid
  obtain ⟨tag, -, htag⟩ := Option.bind_eq_some_iff.mp hid
  exact sound.tag_held tag id htag

namespace Prepared

/-- Exactly the commits were linted that can be reached from the head and not from `since?`. -/
def LintsAfter (p : Prepared) (r : MemoryRepository) (linter : Linter)
    (since? : Option CommitId) : Prop :=
  ∃ commits : List LoggedCommit,
    p.report = linter.lint (labelled r commits) ∧ (commits.map LoggedCommit.id).Nodup ∧
      ∀ commit, commit ∈ commits ↔
        r.info? commit.id = some commit ∧ Reaches r.parents p.head commit.id ∧
          ∀ id ∈ since?, ¬Reaches r.parents id commit.id

/-- There is a tag with this name, it can be reached, and exactly the commits after it were
linted. -/
def StartsAfter (p : Prepared) (r : MemoryRepository) (linter : Linter) (tag : String) : Prop :=
  ∃ id, r.tag? tag = some id ∧ Reaches r.parents p.head id ∧ p.LintsAfter r linter (some id)

theorem Describes.planned {linter : Linter} {plan : Plan}
    (known : p.Describes r c branch date pattern linter) (hplan : p.plan = some plan) :
    Planned c.release branch p.decision p.history date plan pattern := by
  have planOk := known.plan_ok
  rw [hplan, planUnlessBlocked] at planOk
  split at planOk
  next => cases planOk
  next =>
    obtain ⟨pattern', planned⟩ := exists_planned planOk
    have same : pattern' = pattern :=
      Except.ok.inj (planned.pattern_ok.symm.trans known.pattern_ok)
    rwa [same] at planned

theorem Describes.track_eq {linter : Linter} {track : Track}
    (known : p.Describes r c (c.release.branches.branchOf track) date pattern linter)
    (different : c.release.branches.release ≠ c.release.branches.prerelease) : p.track = track :=
  Except.ok.inj (known.track_ok.symm.trans (BranchLayout.trackOf_branchOf different track))

theorem Describes.planTrack_eq {linter : Linter} {plan : Plan}
    (known : p.Describes r c branch date pattern linter) (hplan : p.plan = some plan) :
    plan.track = p.track :=
  Except.ok.inj ((known.planned hplan).track_ok.symm.trans known.track_ok)

/-- A planned version belongs to the track of the branch. -/
theorem Describes.onTrack {linter : Linter} {plan : Plan} {first : Version} {bypass : Pattern}
    (known : p.Describes r c branch date pattern linter)
    (promises : c.Promises pattern first bypass) (hplan : p.plan = some plan) :
    plan.version.OnTrack c.release.branches.prereleaseId plan.track := by
  have kinds : p.history.OnTracks c.release.branches.prereleaseId := by
    rw [known.history_eq]
    exact History.onTracks_ofTags _ _ _
  exact ReleasePolicy.onTrack_nextVersion promises.first_ok promises.first_stable kinds
    (known.planned hplan).version_ok

/-- A planned version is above everything that counts on its track. -/
theorem Describes.below_planned {linter : Linter} {plan : Plan} {w : Version}
    (known : p.Describes r c branch date pattern linter) (hplan : p.plan = some plan)
    (counts : w.CountsOn c.release.branches.prereleaseId plan.track)
    (named : History.Names pattern (r.releaseTags pattern p.head) w) :
    w.below plan.version = true := by
  have planOk := known.plan_ok
  rw [hplan, planUnlessBlocked] at planOk
  split at planOk
  next => cases planOk
  next =>
    have above := below_of_plan planOk
    rw [known.history_eq] at above
    exact (History.isLatest_last? pattern c.release.branches.prereleaseId
      (r.releaseTags pattern p.head) plan.track).below_of_below above ⟨counts, named⟩

theorem Describes.lintsAfter {linter : Linter}
    (known : p.Describes r c branch date pattern linter) (sound : r.Sound) :
    p.LintsAfter r linter (p.lastTag.bind r.tag?) := by
  have held := sound.head_held branch p.head known.head_eq
  refine ⟨_, known.report_eq, ?_,
    fun commit => mem_between_iff sound.rooted sound.since_held held⟩
  rw [List.nodup_iff_pairwise_ne, List.pairwise_map]
  exact (pairwise_between r _ _).imp Nat.ne_of_lt

/-- The last release has a tag that can be reached.  The tag after which commits count is the
normal form of it, and commits count after that tag if there is one.  This is a tag of the last
release exactly if the release has a reachable tag in normal form. -/
theorem lastTag_startsAfter_iff (sound : r.Sound)
    (hp : ((ofBranch c branch date).apply r).1 = .ok p) {last : String}
    (hlast : p.lastTag = some last) :
    ∃ pattern linter v,
      c.release.tagPattern = .ok pattern ∧ Linter.ofPolicy c.lint = .ok linter ∧
      p.history.last? p.track = some v ∧ last = pattern.format v ∧
      (∃ tag id, pattern.parse? tag = some v ∧ r.tag? tag = some id ∧
        Reaches r.parents p.head id) ∧
      p.LintsAfter r linter (r.tag? last) ∧
      (p.StartsAfter r linter last ↔
        ∃ tag id, pattern.parse? tag = some v ∧ pattern.format v = tag ∧ r.tag? tag = some id ∧
          Reaches r.parents p.head id) := by
  rw [ofBranch_apply] at hp
  obtain ⟨pattern, linter, known⟩ := exists_describes hp
  have held := sound.head_held branch p.head known.head_eq
  have hformat := known.lastTag_eq
  rw [hlast, eq_comm, Option.map_eq_some_iff] at hformat
  obtain ⟨v, hv, rfl⟩ := hformat
  have hnames := hv
  rw [known.history_eq] at hnames
  have htagged := (names_releaseTags_iff sound held).mp (History.names_of_last? hnames)
  have hlints := known.lintsAfter sound
  rw [hlast, Option.bind_some] at hlints
  refine ⟨pattern, linter, v, known.pattern_ok, known.linter_ok, hv, rfl, htagged, hlints, ?_⟩
  constructor
  · rintro ⟨id, htag, hreach, -⟩
    obtain ⟨tag, -, hparse, -⟩ := htagged
    obtain ⟨fits, wellNamed⟩ := TagPattern.parse?_eq_some hparse
    exact ⟨pattern.format v, id, TagPattern.parse?_format fits wellNamed, rfl, htag, hreach⟩
  · rintro ⟨tag, id, -, rfl, htag, hreach⟩
    rw [htag] at hlints
    exact ⟨id, htag, hreach, hlints⟩

end Prepared

/-- A branch with a tag on its first commit and one commit after it. -/
def MemoryRepository.releasedOnce (tag : String) : MemoryRepository :=
  ((empty.addCommit "release" "feat: Add search.").addTag tag 1).addCommit "release"
    "fix: Handle nulls."

theorem sound_releasedOnce (tag : String) : (releasedOnce tag).Sound := by
  have first : (empty.addCommit "release" "feat: Add search.").Sound :=
    (Sound.blank rfl rfl rfl).addCommit
  exact (first.addTag ⟨by decide, by decide⟩).addCommit

theorem tag?_releasedOnce (tag name : String) :
    (releasedOnce tag).tag? name = if name = tag then some 1 else none :=
  Catalog.lookup_put tag name 1 []

theorem exists_prepared_releasedOnce (tag : String) (last : Option String) (n : Nat)
    (known : (((releasedOnce tag).prepared .standard "release" ⟨2026, 1, 9⟩).toOption.map fun p =>
      (p.lastTag, p.report.commits.length)) = some (last, n)) :
    ∃ p, ((Prepared.ofBranch .standard "release" ⟨2026, 1, 9⟩).apply (releasedOnce tag)).1 = .ok p ∧
      p.lastTag = last ∧ p.report.commits.length = n := by
  obtain ⟨p, hp, hknown⟩ := Option.map_eq_some_iff.mp known
  obtain ⟨hlast, hlength⟩ := Prod.mk.inj hknown
  refine ⟨p, ?_, hlast, hlength⟩
  rw [ofBranch_apply]
  exact Result.toOption_eq_some.mp hp

/-- Commits count after a tag in normal form. -/
theorem startsAfter_normal_tag :
    ∃ p linter, ((Prepared.ofBranch .standard "release" ⟨2026, 1, 9⟩).apply
        (releasedOnce "v1.0.0")).1 = .ok p ∧
      p.lastTag = some "v1.0.0" ∧ p.StartsAfter (releasedOnce "v1.0.0") linter "v1.0.0" := by
  obtain ⟨p, hp, hlast, -⟩ :=
    exists_prepared_releasedOnce "v1.0.0" (some "v1.0.0") 1 (by decide +kernel)
  obtain ⟨pattern, linter, v, -, -, -, hformat, ⟨tag, id, hparse, htag, hreach⟩, -, hiff⟩ :=
    Prepared.lastTag_startsAfter_iff (sound_releasedOnce "v1.0.0") hp hlast
  have hname := htag
  rw [tag?_releasedOnce] at hname
  split at hname
  next same =>
    subst same
    exact ⟨p, linter, hp, hlast, hiff.mpr ⟨"v1.0.0", id, hparse, hformat.symm, htag, hreach⟩⟩
  next => cases hname

/-- No commit is left out after a tag with a leading zero, and the tag that is reported is not
there. -/
theorem not_startsAfter_leading_zero :
    (releasedOnce "v01.0.0").Sound ∧ Config.standard.validate = .ok () ∧
      ∃ p, ((Prepared.ofBranch .standard "release" ⟨2026, 1, 9⟩).apply
          (releasedOnce "v01.0.0")).1 = .ok p ∧
        p.lastTag = some "v1.0.0" ∧ p.report.commits.length = 2 ∧
        ∀ linter, ¬p.StartsAfter (releasedOnce "v01.0.0") linter "v1.0.0" := by
  obtain ⟨p, hp, hlast, hlength⟩ :=
    exists_prepared_releasedOnce "v01.0.0" (some "v1.0.0") 2 (by decide +kernel)
  refine ⟨sound_releasedOnce _, Config.validate_standard, p, hp, hlast, hlength, ?_⟩
  rintro linter ⟨id, htag, -⟩
  rw [tag?_releasedOnce, if_neg (by decide)] at htag
  cases htag

end ReleasePlanner
