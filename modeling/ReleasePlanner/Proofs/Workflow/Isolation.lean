import ReleasePlanner.Proofs.Release.Progress
import ReleasePlanner.Proofs.Repository.Ranges
import ReleasePlanner.Proofs.Workflow.Footprint
import ReleasePlanner.Proofs.Workflow.Succession

/-!
# The release branch is kept apart

Work on the prerelease branch cannot be seen from the release branch
(`release_isolated`).  Its commits and tags go into the same graph and the same
list of tags.  But new commits are not reachable from old ones, so the ranges
and the reachable tags of the release branch stay the same, and the tag of a
pre-release is never the one under which the last stable release is looked up.

That tag is looked up by its name alone.  Where it is on no commit, it hides
nothing until the commit is made, and a commit of the prerelease branch will do
for that (`not_isolated_misplaced`).

Commits only ever come over from the release branch to the prerelease branch:
every merge that a run makes goes this way.
-/

namespace ReleasePlanner

open MemoryRepository

variable {r s t : MemoryRepository} {runner : CommandRunner} {c : Config} {pattern : TagPattern}
  {first : Version} {bypass : Pattern} {request : RunRequest} {date : Date} {p : Prepared}
  {plan : Plan} {branch tag : String} {head : CommitId}

/-! ## What cannot be seen from a branch -/

/-- Old commits see the tags that they saw before where no tag was made. -/
theorem releaseTags_of_tags_eq (grows : Grows r s) (held : r.Holds head) (tags : s.tags = r.tags) :
    s.releaseTags pattern head = r.releaseTags pattern head := by
  have same : ∀ name, s.tag? name = r.tag? name := fun name => by rw [tag?, tag?, tags]
  rw [releaseTags, releaseTags, tags]
  refine List.filter_congr fun name _ => ?_
  simp only [same, grows.isAncestor_eq held]

/-- Old commits do not see a tag on a new one. -/
theorem releaseTags_of_put (rooted : r.Rooted) (grows : Grows r s) (held : r.Holds head)
    (free : r.tag? tag = none) (tags : s.tags = Catalog.put tag r.nextId r.tags) :
    s.releaseTags pattern head = r.releaseTags pattern head := by
  have lookup : ∀ name, s.tag? name = if name = tag then some r.nextId else r.tag? name := by
    intro name
    rw [tag?, tags, Catalog.lookup_put]
    rfl
  have hidden : r.isAncestor r.nextId head = false := by
    rw [← Bool.not_eq_true, isAncestor_iff rooted held]
    intro reached
    exact Nat.lt_irrefl _ (lt_nextId (rooted.holds_of_reaches held reached))
  rw [releaseTags, releaseTags, tags, Catalog.filter_names_put]
  · refine List.filter_congr fun name hname => ?_
    have different : name ≠ tag := by
      rintro rfl
      obtain ⟨id, found⟩ := Catalog.mem_names_iff.mp hname
      rw [tag?, found] at free
      cases free
    simp only [lookup, if_neg different, grows.isAncestor_eq held]
  · simp [lookup, grows.isAncestor_eq held, hidden]

/-- The commit after which the commits of a branch count: that of the tag under which the last
release of the branch is looked up. -/
def MemoryRepository.startOf? (r : MemoryRepository) (c : Config) (branch : String) :
    Option CommitId := do
  let pattern ← c.release.tagPattern.toOption
  let track ← (c.release.branches.trackOf branch).toOption
  let head ← r.head? branch
  let history := History.ofTags pattern c.release.branches.prereleaseId (r.releaseTags pattern head)
  let last ← history.last? track
  r.tag? (pattern.format last)

/-- What was done to a repository cannot be seen from a branch: the branch has not moved, and the
tags that count on it and the tag of its last release are the same. -/
structure Unseen (c : Config) (branch : String) (r s : MemoryRepository) : Prop extends
    Extends r s where
  head?_eq : s.head? branch = r.head? branch
  releaseTags_eq : ∀ pattern head, c.release.tagPattern = .ok pattern →
    r.head? branch = some head → s.releaseTags pattern head = r.releaseTags pattern head
  since_eq : ∀ pattern track tags v, c.release.tagPattern = .ok pattern →
    c.release.branches.trackOf branch = .ok track →
    (History.ofTags pattern c.release.branches.prereleaseId tags).last? track = some v →
    s.tag? (pattern.format v) = r.tag? (pattern.format v)

namespace Unseen

theorem refl (rooted : r.Rooted) : Unseen c branch r r where
  toExtends := .refl rooted
  head?_eq := rfl
  releaseTags_eq _ _ _ _ := rfl
  since_eq _ _ _ _ _ _ _ := rfl

theorem trans (first : Unseen c branch r s) (second : Unseen c branch s t) :
    Unseen c branch r t where
  toExtends := first.toExtends.trans second.toExtends
  head?_eq := second.head?_eq.trans first.head?_eq
  releaseTags_eq pattern head hpattern hhead :=
    (second.releaseTags_eq pattern head hpattern (first.head?_eq.trans hhead)).trans
      (first.releaseTags_eq pattern head hpattern hhead)
  since_eq pattern track tags v hpattern htrack hlast :=
    (second.since_eq pattern track tags v hpattern htrack hlast).trans
      (first.since_eq pattern track tags v hpattern htrack hlast)

/-- Where the tags are the same, only a branch that has moved can be seen. -/
theorem of_tags_eq (rooted : r.Rooted) (extension : Extends r s)
    (unmoved : s.head? branch = r.head? branch) (tags : s.tags = r.tags) :
    Unseen c branch r s where
  toExtends := extension
  head?_eq := unmoved
  releaseTags_eq _ head _ hhead :=
    releaseTags_of_tags_eq extension.grows (rooted.head_held _ head hhead) tags
  since_eq _ _ _ _ _ _ _ := by rw [tag?, tag?, tags]

/-- A branch is prepared as before when nothing new can be seen from it and its commits count from
one that is there. -/
theorem prepared_eq (unseen : Unseen c branch r s) (rooted : r.Rooted)
    (held : ∀ id, r.startOf? c branch = some id → r.Holds id) (date : Date) :
    s.prepared c branch date = r.prepared c branch date := by
  have hhead : s.head branch = r.head branch := by
    rw [MemoryRepository.head, MemoryRepository.head, unseen.head?_eq]
  rw [MemoryRepository.prepared, MemoryRepository.prepared]
  cases hpattern : c.release.tagPattern with
  | error e => rfl
  | ok pattern =>
      cases htrack : c.release.branches.trackOf branch with
      | error e => rfl
      | ok track =>
          rw [hhead]
          cases found : r.head branch with
          | error e => rfl
          | ok head =>
              have old := head?_of_head found
              have htags := unseen.releaseTags_eq pattern head hpattern old
              generalize hlast : (History.ofTags pattern c.release.branches.prereleaseId
                (r.releaseTags pattern head)).last? track = last
              have hsince : (last.map pattern.format).bind s.tag?
                  = (last.map pattern.format).bind r.tag? := by
                cases last with
                | none => rfl
                | some v => exact unseen.since_eq pattern track _ v hpattern htrack hlast
              have hstart : r.startOf? c branch = (last.map pattern.format).bind r.tag? := by
                rw [startOf?, hpattern, htrack, old]
                simp only [Except.toOption, Option.bind_eq_bind, Option.bind_some, hlast]
                cases last <;> rfl
              have hrange := unseen.grows.between_eq (fun id hid => held id (hstart.trans hid))
                (rooted.head_held branch head old)
              simp only [htags, hlast, hsince, hrange, Result.mapError_ok, bind, Except.bind]
              rfl

end Unseen

/-! ## Runs on the prerelease branch -/

/-- A run on the prerelease branch plans a pre-release. -/
theorem Due.onPrerelease (promises : c.Promises pattern first bypass)
    (due : Due c request date r c.release.branches.prerelease p plan) :
    plan.track = .prerelease ∧
      plan.version.OnTrack c.release.branches.prereleaseId .prerelease := by
  have known := Prepared.describes promises due.prepared_ok
  have htrack : plan.track = .prerelease :=
    (known.planTrack_eq due.plan_eq).trans (known.track_eq promises.branches_ne)
  have onTrack := known.onTrack promises due.plan_eq
  rw [htrack] at onTrack
  exact ⟨htrack, onTrack⟩

theorem Due.isPreRelease (promises : c.Promises pattern first bypass)
    (due : Due c request date r c.release.branches.prerelease p plan) :
    plan.tag = pattern.format plan.version ∧ plan.version.isPreRelease = true := by
  have known := Prepared.describes promises due.prepared_ok
  exact ⟨(known.planned due.plan_eq).tag_eq, (due.onPrerelease promises).2.isPreRelease_iff.mpr rfl⟩

/-- Stable releases are looked up under the tags of stable versions. -/
theorem stable_of_last? (different : c.release.branches.release ≠ c.release.branches.prerelease)
    {track : Track} {tags : List String} {v : Version}
    (htrack : c.release.branches.trackOf c.release.branches.release = .ok track)
    (last : (History.ofTags pattern c.release.branches.prereleaseId tags).last? track = some v) :
    v.pre = none := by
  have released : track = .release :=
    Except.ok.inj (htrack.symm.trans (BranchLayout.trackOf_branchOf different .release))
  subst released
  exact (History.onTracks_ofTags pattern c.release.branches.prereleaseId tags).stable v last

/-- A run on the prerelease branch cannot be seen from the release branch. -/
theorem Running.unseen {result : Except Error RunResult} (rooted : r.Rooted)
    (promises : c.Promises pattern first bypass)
    (hbranch : request.branchIn r = some c.release.branches.prerelease)
    (running : Running runner c request date r result s) :
    Unseen c c.release.branches.release r s := by
  have extension := running.extension rooted
  have unmoved : s.head? c.release.branches.release = r.head? c.release.branches.release := by
    refine running.confined.head?_eq _ ?_
    rintro (same | ⟨-, same⟩)
    · exact promises.branches_ne (Option.some.inj (same.symm.trans hbranch))
    · exact promises.branches_ne same
  rcases running.tags_eq rooted with tags | ⟨branch, p, plan, due, free, tags⟩
  · exact .of_tags_eq rooted extension unmoved tags
  · obtain rfl := due.eq_branch hbranch
    obtain ⟨htag, step⟩ := due.isPreRelease promises
    refine ⟨extension, unmoved, fun pattern head _ hhead => ?_,
      fun pattern' track _ v hpattern htrack hlast => ?_⟩
    · exact releaseTags_of_put rooted extension.grows (rooted.head_held _ head hhead) free tags
    · rw [promises.pattern_ok, Except.ok.injEq] at hpattern
      subst hpattern
      have stable := stable_of_last? promises.branches_ne htrack hlast
      have different : pattern.format v ≠ plan.tag := by
        rw [htag]
        exact TagPattern.format_ne stable step
      rw [tag?, tags, Catalog.lookup_put, if_neg different]
      rfl

/-! ## Sequences of actions -/

/-- The action stays on the side of the prerelease branch: a commit on it, checking a branch out,
or a run on it. -/
def Action.Aside (c : Config) (r : MemoryRepository) : Action → Prop
  | .commit track _ => track = .prerelease
  | .checkout _ => True
  | .run request _ => request.branchIn r = some c.release.branches.prerelease
  | _ => False

/-- The action is no merge by hand. -/
def Action.Unmerged : Action → Prop
  | .merge _ => False
  | _ => True

/-- What actions of some kind lead to. -/
inductive Leads (runner : CommandRunner) (c : Config)
    (allowed : MemoryRepository → Action → Prop) (r : MemoryRepository) :
    MemoryRepository → Prop where
  | refl : Leads runner c allowed r r
  | step {s : MemoryRepository} (action : Action) :
      Leads runner c allowed r s → allowed s action →
      Leads runner c allowed r (action.perform runner c s)

theorem Leads.mono {allowed more : MemoryRepository → Action → Prop}
    (weaker : ∀ s action, allowed s action → more s action) (leads : Leads runner c allowed r s) :
    Leads runner c more r s := by
  induction leads with
  | refl => exact .refl
  | step action _ h ih => exact .step action ih (weaker _ action h)

theorem Leads.extension {allowed : MemoryRepository → Action → Prop} (rooted : r.Rooted)
    (leads : Leads runner c allowed r s) : Extends r s := by
  induction leads with
  | refl => exact .refl rooted
  | step action _ _ ih => exact ih.trans (action.extension runner c ih.rooted)

/-- Nothing can be seen from the release branch, and no merge was made. -/
structure Untouched (c : Config) (r s : MemoryRepository) : Prop extends
    Unseen c c.release.branches.release r s where
  merges_eq : s.merges = r.merges

namespace Untouched

theorem refl (rooted : r.Rooted) : Untouched c r r :=
  ⟨.refl rooted, rfl⟩

theorem trans (first : Untouched c r s) (second : Untouched c s t) : Untouched c r t :=
  ⟨first.toUnseen.trans second.toUnseen, second.merges_eq.trans first.merges_eq⟩

theorem addCommit (rooted : r.Rooted)
    (different : c.release.branches.release ≠ c.release.branches.prerelease) (message : String) :
    Untouched c r (r.addCommit c.release.branches.prerelease message) :=
  ⟨.of_tags_eq rooted (Steady.addCommit rooted _ message).toExtends
    ((head?_addCommit _ _ _ _).trans (if_neg different)) rfl, rfl⟩

theorem checkout (rooted : r.Rooted) (branch : String) : Untouched c r (r.checkout branch) :=
  ⟨.of_tags_eq rooted (.of_eq rooted rfl rfl rfl) rfl rfl, rfl⟩

theorem run (rooted : r.Rooted) (promises : c.Promises pattern first bypass)
    (hbranch : request.branchIn r = some c.release.branches.prerelease) (date : Date) :
    Untouched c r ((runRequest runner c request date).apply r).2 := by
  have running := running_runRequest runner c request date r
  refine ⟨running.unseen rooted promises hbranch, ?_⟩
  obtain ⟨new, hnew, hmerges⟩ := running.confined.merges_eq
  have nothing : new = [] := List.eq_nil_iff_forall_not_mem.mpr fun m hm =>
    promises.branches_ne (Option.some.inj ((hmerges m hm).1.symm.trans hbranch))
  rw [hnew, nothing, List.append_nil]

/-- An action on the side leaves the release branch untouched. -/
theorem perform (rooted : r.Rooted) (promises : c.Promises pattern first bypass) {action : Action}
    (aside : action.Aside c r) : Untouched c r (action.perform runner c r) := by
  cases action with
  | commit track message =>
      cases aside
      exact addCommit rooted promises.branches_ne message
  | checkout branch => exact checkout rooted branch
  | run request date => exact run rooted promises aside date
  | branchOff track => cases aside
  | merge source => cases aside
  | sabotage merges pushes fetches => cases aside

end Untouched

/-- Work on the side leaves the release branch untouched. -/
theorem Leads.untouched (promises : c.Promises pattern first bypass) (rooted : r.Rooted)
    (leads : Leads runner c (Action.Aside c) r s) : Untouched c r s := by
  induction leads with
  | refl => exact .refl rooted
  | step action _ aside ih => exact ih.trans (.perform ih.rooted promises aside)

/-- An action that is no merge by hand records merges of the release branch into the prerelease
branch only. -/
theorem Action.merges_eq (runner : CommandRunner) (c : Config) (r : MemoryRepository)
    {action : Action} (unmerged : action.Unmerged) :
    ∃ new, (action.perform runner c r).merges = r.merges ++ new ∧
      ∀ m ∈ new, m = (c.release.branches.release, c.release.branches.prerelease) := by
  have unchanged : ∀ s : MemoryRepository, s.merges = r.merges → ∃ new, s.merges = r.merges ++ new ∧
      ∀ m ∈ new, m = (c.release.branches.release, c.release.branches.prerelease) :=
    fun s same => ⟨[], by rw [same, List.append_nil], fun m hm => by cases hm⟩
  cases action with
  | commit track message => exact unchanged _ rfl
  | branchOff track =>
      refine unchanged _ ?_
      rw [perform]
      split
      next => rfl
      next =>
        rw [createBranch, Step.apply_make]
        split <;> rfl
  | checkout branch => exact unchanged _ rfl
  | merge source => cases unmerged
  | sabotage merges pushes fetches => exact unchanged _ rfl
  | run request date =>
      have running := running_runRequest runner c request date r
      obtain ⟨new, hnew, hmerges⟩ := running.confined.merges_eq
      exact ⟨new, hnew, fun m hm => (hmerges m hm).2⟩

theorem Leads.merges_eq (leads : Leads runner c (fun _ action => action.Unmerged) r s) :
    ∃ new, s.merges = r.merges ++ new ∧
      ∀ m ∈ new, m = (c.release.branches.release, c.release.branches.prerelease) := by
  induction leads with
  | refl => exact ⟨[], (List.append_nil _).symm, fun m hm => by cases hm⟩
  | step action _ unmerged ih =>
      obtain ⟨new, hnew, hmerges⟩ := ih
      obtain ⟨later, hlater, hmerges'⟩ := action.merges_eq runner c _ unmerged
      refine ⟨new ++ later, by rw [hlater, hnew, List.append_assoc], fun m hm => ?_⟩
      exact (List.mem_append.mp hm).elim (hmerges m) (hmerges' m)

/-! ## The release branch is kept apart -/

/-- Commits and runs on the prerelease branch, whether they succeed or fail, leave the release
branch where it is and record no merge.  When the tag under which the last release of the branch is
looked up is on a commit that is there, everything that is known about its next release stays as it
was.  Whatever is done, the merges that runs make go from the release branch into the prerelease
branch. -/
theorem release_isolated (valid : c.validate = .ok ()) (assembled : Assembled r) :
    (∀ s, Leads runner c (Action.Aside c) r s →
      s.head? c.release.branches.release = r.head? c.release.branches.release ∧
        s.merges = r.merges ∧
        ((∀ id, r.startOf? c c.release.branches.release = some id → r.Holds id) →
          ∀ date, ((Prepared.ofBranch c c.release.branches.release date).apply s).1
            = ((Prepared.ofBranch c c.release.branches.release date).apply r).1)) ∧
      ∀ s, Leads runner c (fun _ action => action.Unmerged) r s →
        ∃ new, s.merges = r.merges ++ new ∧
          ∀ m ∈ new, m = (c.release.branches.release, c.release.branches.prerelease) := by
  obtain ⟨pattern, first, bypass, promises⟩ := Config.exists_promises valid
  refine ⟨fun s leads => ?_, fun s leads => leads.merges_eq⟩
  have untouched := leads.untouched promises assembled.rooted
  refine ⟨untouched.head?_eq, untouched.merges_eq, fun held date => ?_⟩
  rw [ofBranch_apply, ofBranch_apply]
  exact untouched.prepared_eq assembled.rooted held date

/-- A release branch with a first commit, and a prerelease branch made from it. -/
def MemoryRepository.branchedOff : MemoryRepository :=
  Operation.perform (unreleased false) (.createBranch "release-candidate" "release")

theorem assembled_branchedOff : Assembled branchedOff :=
  .step _ (built_unreleased false).assembled

/-- The same with a tag of the first commit, and an older one on a commit that is not there. -/
def MemoryRepository.launched : MemoryRepository :=
  [Operation.addTag "v1.0.0" 1, .addTag "v0.9.0" 3].foldl Operation.perform branchedOff

/-- The same after a commit and a run on the prerelease branch. -/
def MemoryRepository.previewed : MemoryRepository :=
  Action.perform idleRunner .standard
    (Action.perform idleRunner .standard
      (Action.perform idleRunner .standard launched (.commit .prerelease "feat: Add filters."))
      (.checkout "release-candidate"))
    (.run ⟨none, false, true⟩ ⟨2026, 1, 9⟩)

/-- The same after a correction and a run on the release branch. -/
def MemoryRepository.relaunched : MemoryRepository :=
  Action.perform idleRunner .standard
    (Action.perform idleRunner .standard
      (Action.perform idleRunner .standard previewed (.commit .release "fix: Handle nulls."))
      (.checkout "release"))
    (.run ⟨none, false, true⟩ ⟨2026, 1, 9⟩)

/-- A pre-release cannot be seen from the release branch, and the release after it is merged into
the prerelease branch. -/
theorem preview_isolated :
    launched.startOf? .standard "release" = some 1 ∧ launched.Holds 1 ∧
      previewed.tag? "v1.1.0-rc.1" = some 3 ∧ previewed.head? "release" = some 1 ∧
      ((Prepared.ofBranch .standard "release" ⟨2026, 1, 9⟩).apply previewed).1
        = ((Prepared.ofBranch .standard "release" ⟨2026, 1, 9⟩).apply launched).1 ∧
      relaunched.merges.length = 1 ∧
      ∀ m ∈ relaunched.merges, m = ("release", "release-candidate") := by
  have known : (launched.startOf? .standard "release", launched.head? "release", launched.merges,
      previewed.tag? "v1.1.0-rc.1", relaunched.merges.length)
        = (some 1, some 1, [], some 3, 1) := by decide +kernel
  simp only [Prod.mk.injEq] at known
  obtain ⟨start, hhead, hmerges, tag, again⟩ := known
  have assembled : Assembled launched := assembled_branchedOff.foldl _
  have held : launched.Holds 1 := assembled.rooted.head_held "release" 1 hhead
  obtain ⟨aside, merges⟩ :=
    @release_isolated launched idleRunner .standard Config.validate_standard assembled
  obtain ⟨unmoved, -, prepared⟩ := aside previewed
    (.step _ (.step _ (.step _ .refl rfl) True.intro) rfl)
  obtain ⟨new, hnew, hall⟩ := merges relaunched
    (.step _ (.step _ (.step _ (.step _ (.step _ (.step _ .refl True.intro) True.intro) True.intro)
      True.intro) True.intro) True.intro)
  rw [hmerges, List.nil_append] at hnew
  have counted : ∀ id, launched.startOf? .standard "release" = some id → launched.Holds id := by
    intro id found
    rw [start, Option.some.injEq] at found
    exact found ▸ held
  refine ⟨start, held, tag, unmoved.trans hhead, prepared counted ⟨2026, 1, 9⟩, again, ?_⟩
  rw [hnew]
  exact hall

/-- A first commit on both branches that has its tag in another spelling, and the tag in the usual
spelling on a commit that is not there yet. -/
def MemoryRepository.misplaced : MemoryRepository :=
  [Operation.addTag "v01.0.0" 1, .addTag "v1.0.0" 3].foldl Operation.perform branchedOff

/-- The same after two commits on the prerelease branch. -/
def MemoryRepository.overtaken : MemoryRepository :=
  Action.perform idleRunner .standard
    (Action.perform idleRunner .standard misplaced (.commit .prerelease "feat: Add filters."))
    (.commit .prerelease "feat: Add export.")

/-- The tag of the last release is on no commit, so it hides nothing, and a release is due.  After
two commits on the prerelease branch the tag hides the whole release branch. -/
theorem not_isolated_misplaced :
    Config.standard.validate = .ok () ∧ Assembled misplaced ∧
      Leads idleRunner .standard (Action.Aside .standard) misplaced overtaken ∧
      ((Prepared.ofBranch .standard "release" ⟨2026, 1, 9⟩).apply overtaken).1
        ≠ ((Prepared.ofBranch .standard "release" ⟨2026, 1, 9⟩).apply misplaced).1 ∧
      (∃ p plan, ((Prepared.ofBranch .standard "release" ⟨2026, 1, 9⟩).apply misplaced).1 = .ok p ∧
        p.plan = some plan ∧ plan.tag = "v1.1.0") ∧
      ∃ p, ((Prepared.ofBranch .standard "release" ⟨2026, 1, 9⟩).apply overtaken).1 = .ok p ∧
        p.plan = none := by
  have before : ((((Prepared.ofBranch .standard "release" ⟨2026, 1, 9⟩).apply
      misplaced).1.toOption.bind Prepared.plan).map Plan.tag) = some "v1.1.0" := by decide +kernel
  have after : (((Prepared.ofBranch .standard "release" ⟨2026, 1, 9⟩).apply
      overtaken).1.toOption.map Prepared.plan) = some none := by decide +kernel
  obtain ⟨plan, planned, htag⟩ := Option.map_eq_some_iff.mp before
  obtain ⟨p, prepared, hplan⟩ := Option.bind_eq_some_iff.mp planned
  obtain ⟨q, prepared', unplanned⟩ := Option.map_eq_some_iff.mp after
  rw [Result.toOption_eq_some] at prepared prepared'
  refine ⟨Config.validate_standard, assembled_branchedOff.foldl _,
    .step _ (.step _ .refl rfl) rfl, ?_, ⟨p, plan, prepared, hplan, htag⟩, q, prepared', unplanned⟩
  rw [prepared, prepared', ne_eq, Except.ok.injEq]
  rintro rfl
  rw [hplan] at unplanned
  cases unplanned

end ReleasePlanner
