import ReleasePlanner.Proofs.Repository.Assembly
import ReleasePlanner.Proofs.Workflow.Runs

/-!
# What a run adds

Publishing and whole runs either keep the tags as they are (`Kept`) or make one
new tag, on a commit that the released branch has from then on (`Tagged`).  In
both cases the repository stays sound and only grows.  It grows in the same way
when tags are on commits that are not there (`Running.extension`).

A run complains that a tag is there already only if the tag of its plan was
there before (`Running.taken_inv`).
-/

namespace ReleasePlanner

open MemoryRepository

variable {r s t : MemoryRepository} {runner : CommandRunner} {c : Config} {pushes : Bool}
  {request : RunRequest} {date : Date} {plan : Plan} {branch tag name : String}

/-! ## Keeping and adding tags -/

/-- The repository has grown and has no other tags. -/
structure Kept (r s : MemoryRepository) : Prop where
  sound : s.Sound
  grows : Grows r s
  tags : s.tags = r.tags

/-- The repository has grown by a new tag on a commit of a branch.  This commit is a new one, and
it stands on top of the commits that the branch had before. -/
structure Tagged (r s : MemoryRepository) (branch tag : String) : Prop where
  sound : s.Sound
  grows : Grows r s
  free : r.tag? tag = none
  added : ∃ id head, (∀ name, s.tag? name = if name = tag then some id else r.tag? name) ∧
    s.head? branch = some head ∧ Reaches s.parents head id
  on_top : ∀ id, s.tag? tag = some id → ¬r.Holds id ∧ s.parents id = (r.head? branch).toList

/-- Where every tag is on a commit, it stays so while there are no other tags. -/
theorem MemoryRepository.Steady.kept (sound : r.Sound) (steady : Steady r s) : Kept r s := by
  refine ⟨steady.rooted.sound fun name id there => ?_, steady.grows, steady.tags⟩
  rw [tag?, steady.tags] at there
  exact steady.grows.holds (sound.tag_held name id there)

namespace Kept

theorem refl (sound : r.Sound) : Kept r r :=
  (Steady.refl sound.rooted).kept sound

theorem of_eq (sound : r.Sound) (commits : s.commits = r.commits) (heads : s.heads = r.heads)
    (tags : s.tags = r.tags) : Kept r s :=
  (Steady.of_eq sound.rooted commits heads tags).kept sound

theorem trans (first : Kept r s) (second : Kept s t) : Kept r t :=
  ⟨second.sound, first.grows.trans second.grows, second.tags.trans first.tags⟩

theorem tag?_eq (kept : Kept r s) (name : String) : s.tag? name = r.tag? name := by
  rw [tag?, tag?, kept.tags]

theorem addCommit (sound : r.Sound) (branch message : String) :
    Kept r (r.addCommit branch message) :=
  (Steady.addCommit sound.rooted branch message).kept sound

end Kept

namespace Tagged

theorem trans_kept (tagged : Tagged r s branch tag) (kept : Kept s t) :
    Tagged r t branch tag where
  sound := kept.sound
  grows := tagged.grows.trans kept.grows
  free := tagged.free
  added := by
    obtain ⟨id, head, htags, hhead, hreach⟩ := tagged.added
    obtain ⟨new, hnew, hmoved⟩ := kept.grows.head_moves branch head hhead
    refine ⟨id, new, ?_, hnew, hmoved.trans (kept.grows.reaches hreach)⟩
    intro name
    rw [kept.tag?_eq, htags]
  on_top id htag := by
    rw [kept.tag?_eq] at htag
    rw [kept.grows.parents_kept (tagged.sound.tag_held tag id htag)]
    exact tagged.on_top id htag

/-- What was done before the tag was made may not have moved the branches. -/
theorem of_kept (kept : Kept r s) (heads : s.heads = r.heads) (tagged : Tagged s t branch tag) :
    Tagged r t branch tag where
  sound := tagged.sound
  grows := kept.grows.trans tagged.grows
  free := by
    rw [← kept.tag?_eq]
    exact tagged.free
  added := by
    obtain ⟨id, head, htags, hhead, hreach⟩ := tagged.added
    refine ⟨id, head, ?_, hhead, hreach⟩
    intro name
    rw [htags, kept.tag?_eq]
  on_top id htag := by
    obtain ⟨new, hparents⟩ := tagged.on_top id htag
    rw [head?, heads] at hparents
    exact ⟨fun held => new (kept.grows.holds held), hparents⟩

/-- All tags, where it is known at which commit the new one is. -/
theorem tag?_eq (tagged : Tagged r s branch tag) {id : CommitId} (there : s.tag? tag = some id)
    (name : String) : s.tag? name = if name = tag then some id else r.tag? name := by
  obtain ⟨new, head, htags, -⟩ := tagged.added
  rw [htags, if_pos rfl, Option.some.injEq] at there
  rw [htags, there]

/-- There is no other new tag. -/
theorem eq_of_new (tagged : Tagged r s branch tag) {id : CommitId} (free : r.tag? name = none)
    (there : s.tag? name = some id) : name = tag := by
  obtain ⟨new, head, htags, -⟩ := tagged.added
  rw [htags] at there
  split at there
  next same => exact same
  next =>
    rw [free] at there
    cases there

end Tagged

/-! ## Steps of publishing -/

theorem steady_withFiles (rooted : r.Rooted) (tree : FileTree) : Steady r (r.withFiles tree) :=
  .of_eq rooted rfl rfl rfl

theorem steady_withFetch (rooted : r.Rooted) (wanted : Bool) : Steady r (r.withFetch wanted) := by
  cases wanted with
  | false => exact .refl rooted
  | true => exact .of_eq rooted rfl rfl rfl

theorem steady_withPush (rooted : r.Rooted) (wanted : Bool) (refspecs : List String) :
    Steady r (r.withPush wanted refspecs) := by
  cases wanted with
  | false => exact .refl rooted
  | true => exact .of_eq rooted rfl rfl rfl

theorem steady_committedOn (c : Config) (plan : Plan) (rooted : r.Rooted) (prepared : FileTree)
    (branch : String) : Steady r (committedOn c plan r prepared branch) := by
  have written := steady_withFiles rooted prepared
  have committed := Steady.addCommit written.rooted branch plan.message
  exact (written.trans committed).trans (.of_eq committed.rooted rfl rfl rfl)

theorem tagged_taggedOn (sound : r.Sound) (free : r.tag? plan.tag = none) (prepared : FileTree)
    (branch : String) : Tagged r (taggedOn c plan r prepared branch) branch plan.tag := by
  have committed := (steady_committedOn c plan sound.rooted prepared branch).kept sound
  have head : (committedOn c plan r prepared branch).head? branch = some r.nextId :=
    (head?_addCommit (r.withFiles prepared) branch plan.message branch).trans (if_pos rfl)
  have held := committed.sound.head_held branch _ head
  have htags : ∀ name, (taggedOn c plan r prepared branch).tag? name
      = if name = plan.tag then some r.nextId else r.tag? name := by
    intro name
    rw [taggedOn, tag?_addTag, committed.tag?_eq]
  refine ⟨committed.sound.addTag held, committed.grows.trans (Grows.addTag free), free,
    ⟨r.nextId, r.nextId, htags, head, Reaches.refl _⟩, ?_⟩
  intro id htag
  rw [htags, if_pos rfl, Option.some.injEq] at htag
  subst htag
  refine ⟨fun old => Nat.lt_irrefl _ (lt_nextId old), ?_⟩
  exact (parents_insert _ _ _ _).trans (if_pos rfl)

/-- What follows the tag keeps it. -/
theorem tagged_pushed (sound : r.Sound) (free : r.tag? plan.tag = none)
    (prepared after : FileTree) (branch : String) :
    Tagged r (((taggedOn c plan r prepared branch).withPush pushes plan.refspecs).withFiles after)
      branch plan.tag := by
  have tagged := tagged_taggedOn (c := c) sound free prepared branch
  have pushed := steady_withPush tagged.sound.rooted pushes plan.refspecs
  exact tagged.trans_kept ((pushed.trans (steady_withFiles pushed.rooted after)).kept tagged.sound)

/-- A hook changes nothing but files. -/
theorem runHook_leaves {point : HookPoint} {result : Except Error Unit}
    (h : (runHook runner c point plan).apply r = (result, s)) :
    s = r ∨ ∃ tree, s = r.withFiles tree := by
  cases found : r.files with
  | none =>
      rw [runHook, onWorkTree_apply_of_none _ found] at h
      cases h
      exact Or.inl rfl
  | some tree =>
      rw [runHook_apply found] at h
      cases h
      exact Or.inr ⟨_, rfl⟩

/-- Publishing keeps the tags, or makes the tag of the plan on the branch that is checked out. -/
theorem Publishing.adds {result : Except Error Unit} (sound : r.Sound)
    (ends : Publishing runner c pushes plan r result s) :
    Kept r s ∨ ∃ branch, r.current = some branch ∧ Tagged r s branch plan.tag := by
  cases ends with
  | noWorkTree => exact Or.inl (Kept.refl sound)
  | unwritten => exact Or.inl (Kept.refl sound)
  | unprepared => exact Or.inl ((steady_withFiles sound.rooted _).kept sound)
  | detached => exact Or.inl ((steady_withFiles sound.rooted _).kept sound)
  | taken => exact Or.inl ((steady_committedOn c plan sound.rooted _ _).kept sound)
  | unpushed _ current free => exact Or.inr ⟨_, current, tagged_taggedOn sound free _ _⟩
  | unannounced _ current free => exact Or.inr ⟨_, current, tagged_pushed sound free _ _ _⟩
  | published _ current free => exact Or.inr ⟨_, current, tagged_pushed sound free _ _ _⟩

/-! ## The merge after a release -/

theorem steady_pushIf (rooted : r.Rooted) (wanted : Bool) (remote : String)
    (refspecs : List String) : Steady r ((pushIf wanted remote refspecs).apply r).2 := by
  cases failing : wanted && r.pushesFail with
  | true =>
      rw [pushIf_apply_of_failing failing]
      exact .refl rooted
  | false =>
      rw [pushIf_apply failing]
      exact steady_withPush rooted wanted refspecs

theorem steady_mergeBack (rooted : r.Rooted) (m : Backmerge) :
    Steady r ((mergeBack c pushes m).apply r).2 := by
  have merged := Steady.mergeBranch rooted m.source m.target
  rw [mergeBack, Step.apply_bind, apply_mergeBranch]
  split
  next a middle h =>
    rw [h] at merged
    exact merged.trans (steady_pushIf merged.rooted _ _ _)
  next e middle h =>
    rw [h] at merged
    exact merged

theorem steady_mergeAfter {m : Option Backmerge} {result : Except Error MergeStatus}
    (rooted : r.Rooted)
    (h : (mergeAfter (collaborator runner c pushes) m).apply r = (result, s)) : Steady r s := by
  cases m with
  | none =>
      cases h
      exact .refl rooted
  | some m =>
      rw [mergeAfter, Step.apply_bind, Step.apply_attempt] at h
      simp only at h
      split at h
      · cases h
        exact steady_mergeBack rooted m
      · cases h
        exact steady_mergeBack rooted m

theorem kept_mergeAfter {m : Option Backmerge} {result : Except Error MergeStatus}
    (sound : r.Sound)
    (h : (mergeAfter (collaborator runner c pushes) m).apply r = (result, s)) : Kept r s :=
  (steady_mergeAfter sound.rooted h).kept sound

/-! ## Whole runs -/

/-- What was done before publishing keeps the tags and branches and the one that is checked out. -/
theorem Due.verified {p : Prepared} {result : Except Error Unit} (rooted : r.Rooted)
    (due : Due c request date r branch p plan)
    (hverify : (runHook runner c .verifyConditions plan).apply (r.withFetch request.pushes)
      = (result, s)) :
    Steady r s ∧ s.current = some branch ∧ s.heads = r.heads := by
  have fetched := steady_withFetch rooted request.pushes
  have current : (r.withFetch request.pushes).current = some branch :=
    (current_withFetch request.pushes).trans due.current_eq
  have heads : (r.withFetch request.pushes).heads = r.heads := heads_withFetch request.pushes
  rcases runHook_leaves hverify with rfl | ⟨tree, rfl⟩
  · exact ⟨fetched, current, heads⟩
  · exact ⟨fetched.trans (steady_withFiles fetched.rooted tree), current, heads⟩

/-- A run keeps the tags, or makes the tag of its plan on the branch that it releases. -/
theorem Running.adds {result : Except Error RunResult} (sound : r.Sound)
    (running : Running runner c request date r result s) :
    Kept r s ∨ ∃ branch p plan, Due c request date r branch p plan ∧
      Tagged r s branch plan.tag := by
  have fetched := (steady_withFetch sound.rooted request.pushes).kept sound
  cases running with
  | undecided => exact Or.inl (Kept.refl sound)
  | unconfigured => exact Or.inl (Kept.refl sound)
  | offTrack => exact Or.inl (Kept.refl sound)
  | detached => exact Or.inl fetched
  | elsewhere => exact Or.inl fetched
  | unprepared => exact Or.inl fetched
  | idle => exact Or.inl fetched
  | unverified due hverify => exact Or.inl ((due.verified sound.rooted hverify).1.kept sound)
  | unpublished due hverify ends =>
      obtain ⟨steady, current, heads⟩ := due.verified sound.rooted hverify
      have verified := steady.kept sound
      rcases ends.adds verified.sound with kept | ⟨branch, hbranch, tagged⟩
      · exact Or.inl (verified.trans kept)
      · rw [current] at hbranch
        cases hbranch
        exact Or.inr ⟨_, _, _, due, Tagged.of_kept verified heads tagged⟩
  | released due hverify ends hmerge =>
      obtain ⟨steady, current, heads⟩ := due.verified sound.rooted hverify
      have verified := steady.kept sound
      rcases ends.adds verified.sound with kept | ⟨branch, hbranch, tagged⟩
      · exact Or.inl ((verified.trans kept).trans (kept_mergeAfter kept.sound hmerge))
      · rw [current] at hbranch
        cases hbranch
        have published := Tagged.of_kept verified heads tagged
        exact Or.inr ⟨_, _, _, due,
          published.trans_kept (kept_mergeAfter published.sound hmerge)⟩

/-! ## Tags on no commit -/

theorem extends_taggedOn (c : Config) (rooted : r.Rooted) (free : r.tag? plan.tag = none)
    (prepared : FileTree) (branch : String) : Extends r (taggedOn c plan r prepared branch) := by
  have committed := steady_committedOn c plan rooted prepared branch
  exact committed.toExtends.trans (.addTag committed.rooted free)

theorem Publishing.extension {result : Except Error Unit} (rooted : r.Rooted)
    (ends : Publishing runner c pushes plan r result s) : Extends r s := by
  have pushed : ∀ prepared after branch, r.tag? plan.tag = none → Extends r
      (((taggedOn c plan r prepared branch).withPush pushes plan.refspecs).withFiles after) := by
    intro prepared after branch free
    have tagged := extends_taggedOn c rooted free prepared branch
    have pushed := steady_withPush tagged.rooted pushes plan.refspecs
    exact tagged.trans (pushed.trans (steady_withFiles pushed.rooted after)).toExtends
  cases ends with
  | noWorkTree => exact .refl rooted
  | unwritten => exact .refl rooted
  | unprepared => exact (steady_withFiles rooted _).toExtends
  | detached => exact (steady_withFiles rooted _).toExtends
  | taken => exact (steady_committedOn c plan rooted _ _).toExtends
  | unpushed _ _ free => exact extends_taggedOn c rooted free _ _
  | unannounced _ _ free => exact pushed _ _ _ free
  | published _ _ free => exact pushed _ _ _ free

theorem Running.extension {result : Except Error RunResult} (rooted : r.Rooted)
    (running : Running runner c request date r result s) : Extends r s := by
  have fetched := (steady_withFetch rooted request.pushes).toExtends
  cases running with
  | undecided => exact .refl rooted
  | unconfigured => exact .refl rooted
  | offTrack => exact .refl rooted
  | detached => exact fetched
  | elsewhere => exact fetched
  | unprepared => exact fetched
  | idle => exact fetched
  | unverified due hverify => exact (due.verified rooted hverify).1.toExtends
  | unpublished due hverify ends =>
      have verified := (due.verified rooted hverify).1
      exact verified.toExtends.trans (ends.extension verified.rooted)
  | released due hverify ends hmerge =>
      have verified := (due.verified rooted hverify).1
      have published := verified.toExtends.trans (ends.extension verified.rooted)
      exact published.trans (steady_mergeAfter published.rooted hmerge).toExtends

/-! ## Complaints about a tag -/

theorem hookEnd_error {point : HookPoint} {tree : FileTree} {e : Error}
    (h : (hookEnd runner c point plan tree).1 = .error e) : ∃ he, e = .hook he := by
  have ends := ends_hookEnd runner c point plan tree
  rw [h] at ends
  exact ends.exists_hookError

theorem runHook_error {point : HookPoint} {e : Error}
    (h : (runHook runner c point plan).apply r = (.error e, s)) :
    e = .branch .noWorkTreeInMemory ∨ ∃ he, e = .hook he := by
  cases found : r.files with
  | none =>
      rw [runHook, onWorkTree_apply_of_none _ found] at h
      cases h
      exact Or.inl rfl
  | some tree =>
      rw [runHook_apply found] at h
      exact Or.inr (hookEnd_error (Prod.mk.inj h).1)

/-- Publishing complains about the tag of the plan, and only if the tag was there. -/
theorem Publishing.taken_inv
    (ends : Publishing runner c pushes plan r (.error (.tag (.alreadyExists name))) s) :
    name = plan.tag ∧ ∃ id, r.tag? plan.tag = some id := by
  cases ends with
  | unprepared _ _ hhook =>
      obtain ⟨he, h⟩ := hookEnd_error (congrArg Prod.fst hhook)
      cases h
  | taken _ _ there => exact ⟨rfl, _, there⟩
  | unannounced _ _ _ _ hhook =>
      obtain ⟨he, h⟩ := hookEnd_error (congrArg Prod.fst hhook)
      cases h

theorem tagPattern_error {p : ReleasePolicy} {e : TagError} (h : p.tagPattern = .error e) :
    ∃ text, e = .placeholders text := by
  rw [ReleasePolicy.tagPattern, TagPattern.ofText, TagPattern.ofChars] at h
  split at h
  next =>
    split at h
    next => cases h
    next =>
      cases h
      exact ⟨_, rfl⟩
  next =>
    cases h
    exact ⟨_, rfl⟩

theorem trackOf_error {b : BranchLayout} {e : Error} (h : b.trackOf branch = .error e) :
    ∃ be, e = .branch be := by
  rw [BranchLayout.trackOf] at h
  split at h
  next => cases h
  next =>
    cases h
    exact ⟨_, rfl⟩

theorem nextVersion_error {p : ReleasePolicy} {track : Track} {level : Level} {h : History}
    {e : Error} (herror : p.nextVersion track level h = .error e) : ∃ ve, e = .version ve := by
  rcases Result.bind_eq_error.mp herror with htarget | ⟨target, -, herror⟩
  · rw [ReleasePolicy.target] at htarget
    split at htarget
    next => cases htarget
    next =>
      obtain ⟨ve, -, he⟩ := Result.mapError_eq_error.mp htarget
      exact ⟨ve, he.symm⟩
  · cases track with
    | release => cases herror
    | prerelease => cases herror

theorem checkAbove_error {previous : Option Version} {v : Version} {e : Error}
    (h : ReleasePolicy.checkAbove previous v = .error e) : ∃ ve, e = .version ve := by
  cases previous with
  | none => cases h
  | some w =>
      rw [ReleasePolicy.checkAbove] at h
      split at h
      next =>
        cases h
        exact ⟨_, rfl⟩
      next => cases h

theorem plan_ne_taken {p : ReleasePolicy} {d : Decision} {h : History} :
    p.plan branch d h date ≠ .error (.tag (.alreadyExists name)) := by
  intro herror
  simp only [ReleasePolicy.plan, Result.bind_eq_error, Result.mapError_eq_error] at herror
  rcases herror with ⟨e, hpattern, he⟩ | ⟨pattern, -, herror⟩
  · obtain ⟨text, rfl⟩ := tagPattern_error hpattern
    cases he
  rcases herror with htrack | ⟨track, -, herror⟩
  · obtain ⟨be, h⟩ := trackOf_error htrack
    cases h
  split at herror
  next =>
    rcases Result.bind_eq_error.mp herror with hversion | ⟨v, -, herror⟩
    · obtain ⟨e, h⟩ := nextVersion_error hversion
      cases h
    rcases Result.bind_eq_error.mp herror with habove | ⟨-, -, herror⟩
    · obtain ⟨e, h⟩ := checkAbove_error habove
      cases h
    · cases herror
  next => cases herror

theorem prepared_ne_taken :
    r.prepared c branch date ≠ .error (.tag (.alreadyExists name)) := by
  intro h
  simp only [MemoryRepository.prepared, Result.bind_eq_error, Result.mapError_eq_error] at h
  rcases h with ⟨e, hpattern, he⟩ | ⟨pattern, -, h⟩
  · obtain ⟨text, rfl⟩ := tagPattern_error hpattern
    cases he
  rcases h with htrack | ⟨track, -, h⟩
  · obtain ⟨be, h⟩ := trackOf_error htrack
    cases h
  rcases h with hhead | ⟨head, -, h⟩
  · rw [MemoryRepository.head] at hhead
    split at hhead <;> cases hhead
  rcases h with hlinter | ⟨linter, -, h⟩
  · obtain ⟨e, -, he⟩ := Result.mapError_eq_error.mp hlinter
    cases he
  rcases h with hplan | ⟨plan, -, h⟩
  · rw [planUnlessBlocked] at hplan
    split at hplan
    · cases hplan
    · exact plan_ne_taken hplan
  · cases h

/-- A run complains about the tag of its plan, and only if the tag was there. -/
theorem Running.taken_inv (sound : r.Sound)
    (running : Running runner c request date r (.error (.tag (.alreadyExists name))) s) :
    ∃ branch p plan id, Due c request date r branch p plan ∧ name = plan.tag ∧
      r.tag? plan.tag = some id := by
  cases running with
  | unconfigured hpattern =>
      obtain ⟨text, h⟩ := tagPattern_error hpattern
      cases h
  | offTrack _ htrack =>
      obtain ⟨be, h⟩ := trackOf_error htrack
      cases h
  | unprepared _ h => exact absurd h prepared_ne_taken
  | unverified due hverify =>
      rcases runHook_error hverify with h | ⟨he, h⟩
      · cases h
      · cases h
  | unpublished due hverify ends =>
      have verified := (due.verified sound.rooted hverify).1.kept sound
      obtain ⟨hname, id, there⟩ := ends.taken_inv
      rw [verified.tag?_eq] at there
      exact ⟨_, _, _, id, due, hname, there⟩

end ReleasePlanner
