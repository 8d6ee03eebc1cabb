import ReleasePlanner.Proofs.Workflow.Growth

/-!
# What a run touches

A run moves the branch that it releases.  After a stable release, and only
then, it merges the release branch into the prerelease branch, which moves that
one as well.  Other branches stay where they are (`Running.confined`).

What a run publishes stands at the head of its branch: a new commit with the
message of the plan, on top of the old head, which carries the tag of the plan
(`Running.exists_published`).  No other tag is put on the list of tags
(`Running.tags_eq`).
-/

namespace ReleasePlanner

open MemoryRepository

variable {r s t : MemoryRepository} {runner : CommandRunner} {c : Config} {pushes : Bool}
  {request : RunRequest} {date : Date} {plan : Plan} {branch source target : String}
  {moved others : String → Prop} {merged more : String × String → Prop}

/-! ## Moving some branches only -/

/-- The same branch is checked out, no branches have moved but some, and no merges were recorded
but some. -/
structure Confined (moved : String → Prop) (merged : String × String → Prop)
    (r s : MemoryRepository) : Prop where
  current_eq : s.current = r.current
  head?_eq : ∀ branch, ¬moved branch → s.head? branch = r.head? branch
  merges_eq : ∃ new, s.merges = r.merges ++ new ∧ ∀ m ∈ new, merged m

namespace Confined

theorem of_eq (current : s.current = r.current) (heads : s.heads = r.heads)
    (merges : s.merges = r.merges) : Confined moved merged r s where
  current_eq := current
  head?_eq branch _ := by rw [head?, head?, heads]
  merges_eq := ⟨[], by rw [merges, List.append_nil], fun m hm => by cases hm⟩

theorem refl (r : MemoryRepository) : Confined moved merged r r :=
  of_eq rfl rfl rfl

theorem trans (first : Confined moved merged r s) (second : Confined moved merged s t) :
    Confined moved merged r t where
  current_eq := second.current_eq.trans first.current_eq
  head?_eq branch hnot := (second.head?_eq branch hnot).trans (first.head?_eq branch hnot)
  merges_eq := by
    obtain ⟨new, hnew, hmerged⟩ := first.merges_eq
    obtain ⟨later, hlater, hmerged'⟩ := second.merges_eq
    refine ⟨new ++ later, by rw [hlater, hnew, List.append_assoc], fun m hm => ?_⟩
    exact (List.mem_append.mp hm).elim (hmerged m) (hmerged' m)

theorem mono (confined : Confined moved merged r s)
    (hmoved : ∀ branch, moved branch → others branch)
    (hmerged : ∀ m, merged m → more m) : Confined others more r s where
  current_eq := confined.current_eq
  head?_eq branch hnot := confined.head?_eq branch fun h => hnot (hmoved branch h)
  merges_eq := by
    obtain ⟨new, hnew, hall⟩ := confined.merges_eq
    exact ⟨new, hnew, fun m hm => hmerged m (hall m hm)⟩

theorem addCommit (hmoved : moved branch) (message : String) :
    Confined moved merged r (r.addCommit branch message) where
  current_eq := rfl
  head?_eq other hnot := by
    rw [head?_addCommit, if_neg]
    rintro rfl
    exact hnot hmoved
  merges_eq := ⟨[], (List.append_nil _).symm, fun m hm => by cases hm⟩

theorem join (r : MemoryRepository) (source target : String) (a b : CommitId) :
    Confined (· = target) merged r (r.join source target a b).2 := by
  rw [MemoryRepository.join]
  split
  next => exact refl r
  next =>
    split
    all_goals
      refine ⟨rfl, fun branch hnot => ?_, [], (List.append_nil _).symm, fun m hm => by cases hm⟩
      exact (head?_setHead _ _ _ _).trans (if_neg hnot)

end Confined

/-! ## Steps of a run -/

theorem confined_withPush (wanted : Bool) (refspecs : List String) :
    Confined moved merged r (r.withPush wanted refspecs) := by
  cases wanted with
  | false => exact Confined.refl r
  | true => exact Confined.of_eq rfl rfl rfl

theorem confined_withFetch (wanted : Bool) : Confined moved merged r (r.withFetch wanted) := by
  cases wanted with
  | false => exact Confined.refl r
  | true => exact Confined.of_eq rfl rfl rfl

theorem confined_withFiles (tree : FileTree) : Confined moved merged r (r.withFiles tree) :=
  Confined.of_eq rfl rfl rfl

theorem confined_committedOn (c : Config) (plan : Plan) (prepared : FileTree)
    (hmoved : moved branch) : Confined moved merged r (committedOn c plan r prepared branch) := by
  have committed : Confined moved merged (r.withFiles prepared)
      ((r.withFiles prepared).addCommit branch plan.message) := Confined.addCommit hmoved _
  exact ((confined_withFiles prepared).trans committed).trans (Confined.of_eq rfl rfl rfl)

theorem confined_taggedOn (c : Config) (plan : Plan) (prepared : FileTree)
    (hmoved : moved branch) : Confined moved merged r (taggedOn c plan r prepared branch) :=
  (confined_committedOn c plan prepared hmoved).trans (Confined.of_eq rfl rfl rfl)

/-- Publishing moves the branch that is checked out. -/
theorem Publishing.confined {result : Except Error Unit} (current : r.current = some branch)
    (hmoved : moved branch) (ends : Publishing runner c pushes plan r result s) :
    Confined moved merged r s := by
  have same : ∀ other, r.current = some other → moved other := by
    intro other hother
    rw [current] at hother
    cases hother
    exact hmoved
  have pushed : ∀ prepared after other, moved other → Confined moved merged r
      (((taggedOn c plan r prepared other).withPush pushes plan.refspecs).withFiles after) :=
    fun prepared after other hother =>
      ((confined_taggedOn c plan prepared hother).trans (confined_withPush _ _)).trans
        (confined_withFiles after)
  cases ends with
  | noWorkTree => exact Confined.refl r
  | unwritten => exact Confined.refl r
  | unprepared => exact confined_withFiles _
  | detached => exact confined_withFiles _
  | taken _ hother => exact confined_committedOn c plan _ (same _ hother)
  | unpushed _ hother => exact confined_taggedOn c plan _ (same _ hother)
  | unannounced _ hother => exact pushed _ _ _ (same _ hother)
  | published _ hother => exact pushed _ _ _ (same _ hother)

theorem confined_mergeBranch (r : MemoryRepository) (source target : String) :
    Confined (· = target) (· = (source, target)) r ((mergeBranch source target).apply r).2 := by
  rcases mergeBranch_cases r source target with ⟨e, failed⟩ | ⟨a, b, -, -, _, rfl, merged⟩
  · rw [failed]
    exact Confined.refl r
  · have listed : Confined (· = target) (· = (source, target)) r
        { r with merges := r.merges ++ [(source, target)] } :=
      ⟨rfl, fun _ _ => rfl, _, rfl, fun m hm => List.mem_singleton.mp hm⟩
    rw [merged]
    exact listed.trans (Confined.join _ source target a b)

theorem confined_mergeBack (m : Backmerge) :
    Confined (· = m.target) (· = (m.source, m.target)) r ((mergeBack c pushes m).apply r).2 := by
  have merging := confined_mergeBranch r m.source m.target
  rw [mergeBack, Step.apply_bind, apply_mergeBranch]
  split
  next a middle h =>
    rw [h] at merging
    refine merging.trans ?_
    cases failing : pushes && middle.pushesFail with
    | true =>
        rw [pushIf_apply_of_failing failing]
        exact Confined.refl middle
    | false =>
        rw [pushIf_apply failing]
        exact confined_withPush _ _
  next e middle h =>
    rw [h] at merging
    exact merging

/-- The merge after a release moves the branch that it goes to. -/
theorem confined_mergeAfter {m : Option Backmerge} {result : Except Error MergeStatus}
    (h : (mergeAfter (collaborator runner c pushes) m).apply r = (result, s)) :
    Confined (fun b => ∃ back, m = some back ∧ b = back.target)
      (fun e => ∃ back, m = some back ∧ e = (back.source, back.target)) r s := by
  cases m with
  | none =>
      cases h
      exact Confined.refl r
  | some back =>
      have merging : Confined (fun b => ∃ m, some back = some m ∧ b = m.target)
          (fun e => ∃ m, some back = some m ∧ e = (m.source, m.target)) r
          ((mergeBack c pushes back).apply r).2 :=
        (confined_mergeBack back).mono (fun b hb => ⟨back, rfl, hb⟩) fun e he => ⟨back, rfl, he⟩
      rw [mergeAfter, Step.apply_bind, Step.apply_attempt] at h
      simp only at h
      split at h
      · cases h
        exact merging
      · cases h
        exact merging

/-! ## Whole runs -/

/-- The branches that a run may move. -/
def RunMoves (c : Config) (request : RunRequest) (r : MemoryRepository) (other : String) : Prop :=
  request.branchIn r = some other ∨
    request.branchIn r = some c.release.branches.release ∧ other = c.release.branches.prerelease

/-- The merges that a run may record. -/
def RunMerges (c : Config) (request : RunRequest) (r : MemoryRepository)
    (merge : String × String) : Prop :=
  request.branchIn r = some c.release.branches.release ∧
    merge = (c.release.branches.release, c.release.branches.prerelease)

theorem Due.exists_planned {p : Prepared} (due : Due c request date r branch p plan) :
    ∃ pattern, Planned c.release branch p.decision p.history date plan pattern := by
  obtain ⟨pattern, linter, known⟩ := Prepared.exists_describes due.prepared_ok
  exact ⟨pattern, known.planned due.plan_eq⟩

/-- The merge after a release goes from the release branch to the prerelease branch. -/
theorem Due.sync_eq_some {p : Prepared} {back : Backmerge}
    (due : Due c request date r branch p plan) (hsync : plan.sync = some back) :
    branch = c.release.branches.release ∧
      back = ⟨c.release.branches.release, c.release.branches.prerelease⟩ := by
  obtain ⟨pattern, planned⟩ := due.exists_planned
  rw [planned.plan_eq] at hsync
  have hbranch := BranchLayout.branchOf_of_trackOf planned.track_ok
  cases htrack : plan.track with
  | release =>
      rw [htrack] at hsync hbranch
      cases hsync
      exact ⟨hbranch.symm, rfl⟩
  | prerelease =>
      rw [htrack] at hsync
      cases hsync

theorem confined_runHook {point : HookPoint} {result : Except Error Unit}
    (h : (runHook runner c point plan).apply r = (result, s)) : Confined moved merged r s := by
  rcases runHook_leaves h with rfl | ⟨tree, rfl⟩
  · exact Confined.refl s
  · exact confined_withFiles tree

/-- A run moves the branch that it releases, and after a stable release the prerelease branch. -/
theorem Running.confined {result : Except Error RunResult}
    (running : Running runner c request date r result s) :
    Confined (RunMoves c request r) (RunMerges c request r) r s := by
  have fetched : Confined (RunMoves c request r) (RunMerges c request r) r
      (r.withFetch request.pushes) := confined_withFetch request.pushes
  cases running with
  | undecided => exact Confined.refl r
  | unconfigured => exact Confined.refl r
  | offTrack => exact Confined.refl r
  | detached => exact fetched
  | elsewhere => exact fetched
  | unprepared => exact fetched
  | idle => exact fetched
  | unverified due hverify => exact fetched.trans (confined_runHook hverify)
  | unpublished due hverify ends =>
      have verified := fetched.trans (confined_runHook hverify)
      have current := verified.current_eq.trans due.current_eq
      exact verified.trans (ends.confined current (Or.inl due.branch_eq))
  | released due hverify ends hmerge =>
      have verified := fetched.trans (confined_runHook hverify)
      have current := verified.current_eq.trans due.current_eq
      have published := verified.trans (ends.confined current (Or.inl due.branch_eq))
      refine published.trans ((confined_mergeAfter hmerge).mono ?_ ?_)
      · rintro other ⟨back, hsync, rfl⟩
        obtain ⟨released, rfl⟩ := due.sync_eq_some hsync
        exact Or.inr ⟨due.branch_eq.trans (congrArg some released), rfl⟩
      · rintro merge ⟨back, hsync, rfl⟩
        obtain ⟨released, rfl⟩ := due.sync_eq_some hsync
        exact ⟨due.branch_eq.trans (congrArg some released), rfl⟩

/-! ## What a release leaves -/

/-- A new commit on top of a branch, with a message and a tag, is the head of the branch. -/
structure Crowned (r s : MemoryRepository) (branch tag message : String) (id : CommitId) : Prop where
  head_eq : s.head? branch = some id
  tag_eq : s.tag? tag = some id
  commit_eq : s.commit? id = some ⟨message, (r.head? branch).toList⟩

/-- What was done before may not have moved the branches. -/
theorem Crowned.of_heads_eq {tag message : String} {id : CommitId} (heads : s.heads = r.heads)
    (crowned : Crowned s t branch tag message id) : Crowned r t branch tag message id where
  head_eq := crowned.head_eq
  tag_eq := crowned.tag_eq
  commit_eq := by rw [crowned.commit_eq, head?, head?, heads]

theorem crowned_taggedOn (c : Config) (plan : Plan) (prepared : FileTree) (branch : String) :
    Crowned r (taggedOn c plan r prepared branch) branch plan.tag plan.message r.nextId where
  head_eq := (head?_addCommit (r.withFiles prepared) branch plan.message branch).trans (if_pos rfl)
  tag_eq := (tag?_addTag _ _ _ _).trans (if_pos rfl)
  commit_eq := (commit?_insert r plan.message (r.head? branch).toList r.nextId).trans (if_pos rfl)

theorem crowned_pushed (c : Config) (plan : Plan) (prepared after : FileTree) (branch : String) :
    Crowned r (((taggedOn c plan r prepared branch).withPush pushes plan.refspecs).withFiles after)
      branch plan.tag plan.message r.nextId := by
  have crowned := crowned_taggedOn (r := r) c plan prepared branch
  cases pushes with
  | false => exact ⟨crowned.head_eq, crowned.tag_eq, crowned.commit_eq⟩
  | true => exact ⟨crowned.head_eq, crowned.tag_eq, crowned.commit_eq⟩

/-- What is published is the head of the branch that is checked out. -/
theorem Publishing.exists_crowned (sound : r.Sound)
    (ends : Publishing runner c pushes plan r (.ok ()) s) :
    ∃ branch id, r.current = some branch ∧ Tagged r s branch plan.tag ∧
      Crowned r s branch plan.tag plan.message id := by
  cases ends with
  | published _ current free =>
      exact ⟨_, r.nextId, current, tagged_pushed sound free _ _ _, crowned_pushed c plan _ _ _⟩

/-- The merge after a release leaves what was published where it is. -/
theorem Due.crowned_mergeAfter {p : Prepared} {result : Except Error MergeStatus} {id : CommitId}
    (different : c.release.branches.release ≠ c.release.branches.prerelease) (sound : s.Sound)
    (due : Due c request date r branch p plan)
    (h : (mergeAfter (collaborator runner c pushes) plan.sync).apply s = (result, t))
    (crowned : Crowned r s branch plan.tag plan.message id) :
    Crowned r t branch plan.tag plan.message id := by
  have kept := kept_mergeAfter sound h
  refine ⟨?_, ?_, commit?_of_prefix kept.grows.commits_kept crowned.commit_eq⟩
  · rw [(confined_mergeAfter h).head?_eq, crowned.head_eq]
    rintro ⟨back, hsync, same⟩
    obtain ⟨released, rfl⟩ := due.sync_eq_some hsync
    exact different (released.symm.trans same)
  · rw [kept.tag?_eq, crowned.tag_eq]

/-- A run with an outcome had a plan that was due.  The plan was published at the head of the
branch. -/
theorem Running.exists_published {result : RunResult} {outcome : Outcome} (sound : r.Sound)
    (different : c.release.branches.release ≠ c.release.branches.prerelease)
    (running : Running runner c request date r (.ok result) t)
    (published : result.outcome = some outcome) :
    ∃ branch id, Due c request date r branch result.prepared outcome.plan ∧
      Tagged r t branch outcome.plan.tag ∧
      Crowned r t branch outcome.plan.tag outcome.plan.message id := by
  cases running with
  | idle => cases published
  | released due hverify ends hmerge =>
      cases published
      obtain ⟨steady, current, heads⟩ := due.verified sound.rooted hverify
      have verified := steady.kept sound
      obtain ⟨branch, id, hbranch, tagged, crowned⟩ := ends.exists_crowned verified.sound
      rw [current, Option.some.injEq] at hbranch
      subst hbranch
      have kept := kept_mergeAfter tagged.sound hmerge
      exact ⟨_, id, due, (Tagged.of_kept verified heads tagged).trans_kept kept,
        due.crowned_mergeAfter different tagged.sound hmerge (crowned.of_heads_eq heads)⟩

/-! ## The list of tags -/

/-- Publishing puts no tag on the list, or that of the plan, which points at a new commit. -/
theorem Publishing.tags_eq {result : Except Error Unit}
    (ends : Publishing runner c pushes plan r result s) :
    s.tags = r.tags ∨
      r.tag? plan.tag = none ∧ s.tags = Catalog.put plan.tag r.nextId r.tags := by
  have pushed : ∀ prepared after other, (((taggedOn c plan r prepared other).withPush pushes
      plan.refspecs).withFiles after).tags = Catalog.put plan.tag r.nextId r.tags := by
    intro prepared after other
    cases pushes with
    | false => rfl
    | true => rfl
  cases ends with
  | noWorkTree => exact Or.inl rfl
  | unwritten => exact Or.inl rfl
  | unprepared => exact Or.inl rfl
  | detached => exact Or.inl rfl
  | taken => exact Or.inl rfl
  | unpushed _ _ free => exact Or.inr ⟨free, rfl⟩
  | unannounced _ _ free => exact Or.inr ⟨free, pushed _ _ _⟩
  | published _ _ free => exact Or.inr ⟨free, pushed _ _ _⟩

/-- The hook before publishing sees the commits and tags that were there. -/
theorem verified_eq {result : Except Error Unit} {wanted : Bool}
    (h : (runHook runner c .verifyConditions plan).apply (r.withFetch wanted) = (result, s)) :
    s.commits = r.commits ∧ s.tags = r.tags := by
  rcases runHook_leaves h with rfl | ⟨tree, rfl⟩
  all_goals
    cases wanted with
    | false => exact ⟨rfl, rfl⟩
    | true => exact ⟨rfl, rfl⟩

/-- A run puts no tag on the list, or that of its plan, which points at a new commit. -/
theorem Running.tags_eq {result : Except Error RunResult} (rooted : r.Rooted)
    (running : Running runner c request date r result s) :
    s.tags = r.tags ∨ ∃ branch p plan, Due c request date r branch p plan ∧
      r.tag? plan.tag = none ∧ s.tags = Catalog.put plan.tag r.nextId r.tags := by
  have fetched := (steady_withFetch rooted request.pushes).tags
  have listed : ∀ {plan verified result s},
      (runHook runner c .verifyConditions plan).apply (r.withFetch request.pushes)
        = (.ok (), verified) →
      Publishing runner c request.pushes plan verified result s →
      s.tags = r.tags ∨ r.tag? plan.tag = none ∧ s.tags = Catalog.put plan.tag r.nextId r.tags := by
    intro plan verified result s hverify ends
    obtain ⟨commits, tags⟩ := verified_eq hverify
    have adds := ends.tags_eq
    rwa [tag?, nextId, tags, commits, ← tag?, ← nextId] at adds
  cases running with
  | undecided => exact Or.inl rfl
  | unconfigured => exact Or.inl rfl
  | offTrack => exact Or.inl rfl
  | detached => exact Or.inl fetched
  | elsewhere => exact Or.inl fetched
  | unprepared => exact Or.inl fetched
  | idle => exact Or.inl fetched
  | unverified _ hverify => exact Or.inl (verified_eq hverify).2
  | unpublished due hverify ends =>
      exact (listed hverify ends).imp_right fun added => ⟨_, _, _, due, added⟩
  | released due hverify ends hmerge =>
      have published := ends.extension (due.verified rooted hverify).1.rooted
      rw [(steady_mergeAfter published.rooted hmerge).tags]
      exact (listed hverify ends).imp_right fun added => ⟨_, _, _, due, added⟩

end ReleasePlanner
