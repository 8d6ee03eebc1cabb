import ReleasePlanner.Proofs.Workflow.Effects

/-!
# Effects in sequence

The effects of a release (`releaseEffects`), and after them those of the merge
that the plan asks for (`mergingEffects`).  They are performed one after the
other (`Performed`).  The first that fails ends the list, and it leaves the
repository as the effects before it left it, but for what a command did to the
files before it failed (`StopsAt`).

What an effect adds that works (`Effect.Adds`) is read off what it leaves, and a
list of them adds what its effects add (`Performed.adds`).
-/

namespace ReleasePlanner

open MemoryRepository

/-! ## The effects of a release -/

/-- The push, if anything is to be pushed. -/
def pushEffects (pushes : Bool) (refspecs : List String) : List Effect :=
  if pushes then [.push refspecs] else []

/-- The effects that follow the prepare hook, where the release commit gets the given number. -/
def committingEffects (pushes : Bool) (plan : Plan) (commit : CommitId) : List Effect :=
  .commit :: .tag commit :: (pushEffects pushes plan.refspecs ++ [.hook .publish])

/-- The effects of publishing a plan. -/
def publishingEffects (pushes : Bool) (plan : Plan) (commit : CommitId) : List Effect :=
  .changelog :: .hook .prepare :: committingEffects pushes plan commit

/-- The effects of a release: publishing follows the hook that may stop it. -/
def releaseEffects (pushes : Bool) (plan : Plan) (commit : CommitId) : List Effect :=
  .hook .verifyConditions :: publishingEffects pushes plan commit

/-- The effects of the merge after a release. -/
def mergingEffects (pushes : Bool) (m : Backmerge) : List Effect :=
  .merge m :: pushEffects pushes [branchRefspec m.target]

/-! ## One effect after the other -/

section Sequence

variable (runner : CommandRunner) (c : Config) (plan : Plan)

/-- Performs some effects, one after the other. -/
def performAll : List Effect → Step MemoryRepository Unit
  | [] => return
  | effect :: rest => do
    effect.step runner c plan
    performAll rest

/-- All of some effects were performed, and each left what it leaves when it works. -/
inductive Performed : List Effect → MemoryRepository → MemoryRepository → Prop where
  | nil {r : MemoryRepository} : Performed [] r r
  | cons {effect : Effect} {rest : List Effect} {r s t : MemoryRepository} :
      effect.Leaves runner c plan r (.ok ()) s →
      Performed rest s t →
      Performed (effect :: rest) r t

/-- Of some effects, those before `effect` were performed and led to `before`. -/
def ComesTo (effects : List Effect) (start : MemoryRepository) (effect : Effect)
    (before : MemoryRepository) : Prop :=
  ∃ done rest, effects = done ++ effect :: rest ∧ Performed runner c plan done start before

/-- Some effects come to `effect`, which fails.  Nothing is done after it, and only the files can be
other than before it, where a command did not leave them as they were. -/
structure StopsAt (effects : List Effect) (start : MemoryRepository) (effect : Effect) (e : Error)
    (before after : MemoryRepository) : Prop where
  comes : ComesTo runner c plan effects start effect before
  failed : effect.Leaves runner c plan before (.error e) after
  files_only : after = { before with files := after.files }
  spared : ∀ {α : Type} (look : FileTree → α), runner.Spares look →
    after.files.map look = before.files.map look

/-- The effects end: all were performed, or they stop at one. -/
inductive Ends (effects : List Effect) (start : MemoryRepository) :
    Except Error Unit → MemoryRepository → Prop where
  | performed {s : MemoryRepository} :
      Performed runner c plan effects start s →
      Ends effects start (.ok ()) s
  | stopped {effect : Effect} {e : Error} {before s : MemoryRepository} :
      StopsAt runner c plan effects start effect e before s →
      Ends effects start (.error e) s

end Sequence

variable {r s t start before after : MemoryRepository} {runner : CommandRunner}
  {c : Config} {plan : Plan} {effect : Effect} {effects done : List Effect} {e : Error}
  {result : Except Error Unit}

/-! ## Effects that fail -/

/-- An effect that fails leaves everything as it was, but for the files. -/
theorem Effect.Leaves.files_only (leaves : effect.Leaves runner c plan before (.error e) after) :
    after = { before with files := after.files } := by
  cases leaves with
  | noWorkTree | unwritten | hook | detached | taken | rejected | conflicting | noSource
  | noTarget => rfl

/-- An effect that fails leaves of the files what every command leaves. -/
theorem Effect.Leaves.spared {α : Type} {look : FileTree → α}
    (leaves : effect.Leaves runner c plan before (.error e) after) (spares : runner.Spares look) :
    after.files.map look = before.files.map look := by
  cases leaves with
  | hook found ends =>
      rw [found]
      exact congrArg some (ends.spared spares)
  | noWorkTree | unwritten | detached | taken | rejected | conflicting | noSource | noTarget => rfl

theorem Performed.append_inv {rest : List Effect}
    (performed : Performed runner c plan (done ++ rest) r t) :
    ∃ s, Performed runner c plan done r s ∧ Performed runner c plan rest s t := by
  induction done generalizing r with
  | nil => exact ⟨r, .nil, performed⟩
  | cons effect done ih =>
      cases performed with
      | cons leaves performed =>
      obtain ⟨s, first, second⟩ := ih performed
      exact ⟨s, .cons leaves first, second⟩

/-- The effects stop at one that fails after those before it. -/
theorem Performed.stopsAt (performed : Performed runner c plan done start before)
    (failed : effect.Leaves runner c plan before (.error e) after) (rest : List Effect) :
    StopsAt runner c plan (done ++ effect :: rest) start effect e before after where
  comes := ⟨done, rest, rfl, performed⟩
  failed := failed
  files_only := failed.files_only
  spared _ spares := failed.spared spares

/-- Where commands leave the files as they are, an effect that fails leaves everything as it was. -/
theorem StopsAt.eq_before (stops : StopsAt runner c plan effects start effect e before after)
    (spares : runner.Spares id) : after = before := by
  have files : after.files = before.files := by simpa using stops.spared id spares
  rw [stops.files_only, files]

/-! ## What effects add -/

/-- The refspecs that an effect pushes. -/
def Effect.refspecs : Effect → List String
  | push refspecs => refspecs
  | _ => []

/-- The merges that an effect makes. -/
def Effect.merges : Effect → List (String × String)
  | merge m => [(m.source, m.target)]
  | _ => []

/-- What some effects add that were performed. -/
structure Effect.Adds (plan : Plan) (done : List Effect) (r s : MemoryRepository) : Prop where
  pushed_eq : s.pushed = r.pushed ++ done.flatMap refspecs
  merges_eq : s.merges = r.merges ++ done.flatMap merges
  tag_kept : ∀ name id, r.tag? name = some id → s.tag? name = some id
  tag_eq : ∀ id, .tag id ∈ done → s.tag? plan.tag = some id
  files_only : (∀ effect ∈ done, effect.onFiles = true) → s = { r with files := s.files }

namespace Effect.Adds

theorem nothing (plan : Plan) (r : MemoryRepository) : Adds plan [] r r where
  pushed_eq := by simp
  merges_eq := by simp
  tag_kept _ _ there := there
  tag_eq := by simp
  files_only _ := rfl

theorem append (first : Adds plan done r s) (second : Adds plan effects s t) :
    Adds plan (done ++ effects) r t where
  pushed_eq := by simp [second.pushed_eq, first.pushed_eq]
  merges_eq := by simp [second.merges_eq, first.merges_eq]
  tag_kept name id there := second.tag_kept name id (first.tag_kept name id there)
  tag_eq id made := by
    rcases List.mem_append.mp made with made | made
    · exact second.tag_kept plan.tag id (first.tag_eq id made)
    · exact second.tag_eq id made
  files_only only := by
    have before := first.files_only fun effect listed =>
      only effect (List.mem_append_left effects listed)
    have after := second.files_only fun effect listed =>
      only effect (List.mem_append_right done listed)
    rw [after, before]

/-- An effect that makes no tag adds what it pushes and merges. -/
theorem of_tags_eq (untagged : ∀ id, effect ≠ .tag id)
    (pushed : s.pushed = r.pushed ++ effect.refspecs)
    (merged : s.merges = r.merges ++ effect.merges) (tags : s.tags = r.tags)
    (files : effect.onFiles = true → s = { r with files := s.files }) : Adds plan [effect] r s where
  pushed_eq := by simp [pushed]
  merges_eq := by simp [merged]
  tag_kept name id there := by rwa [tag?, tags]
  tag_eq id made := absurd (List.mem_singleton.mp made).symm (untagged id)
  files_only only := files (only effect (List.mem_singleton_self effect))

theorem of_labelled {id : CommitId} (free : r.tag? plan.tag = none)
    (labelled : Labelled plan.tag id r s) : Adds plan [.tag id] r s where
  pushed_eq := by
    rw [labelled.rest_eq]
    simp [refspecs]
  merges_eq := by
    rw [labelled.rest_eq]
    simp [merges]
  tag_kept name other there := by
    rw [labelled.others_eq, there]
    rintro rfl
    rw [free] at there
    cases there
  tag_eq other made := by
    simp only [List.mem_singleton, Effect.tag.injEq] at made
    rw [labelled.tag_eq, made]
  files_only := by simp [onFiles]

end Effect.Adds

/-- What an effect adds that works. -/
theorem Effect.Leaves.adds (leaves : effect.Leaves runner c plan r (.ok ()) s) :
    Adds plan [effect] r s := by
  cases leaves with
  | written | hook =>
      exact .of_tags_eq nofun (List.append_nil _).symm (List.append_nil _).symm rfl fun _ => rfl
  | committed _ released =>
      rw [released.rest_eq]
      exact .of_tags_eq nofun (List.append_nil _).symm (List.append_nil _).symm rfl nofun
  | tagged free labelled => exact .of_labelled free labelled
  | pushed => exact .of_tags_eq nofun rfl (List.append_nil _).symm rfl nofun
  | merged _ _ _ joined =>
      rw [joined.rest_eq]
      exact .of_tags_eq nofun (List.append_nil _).symm rfl rfl nofun

theorem Performed.adds (performed : Performed runner c plan done r s) :
    Effect.Adds plan done r s := by
  induction performed with
  | nil => exact .nothing plan _
  | cons leaves _ ih => exact leaves.adds.append ih

/-! ## Lists of effects -/

theorem apply_performAll_cons (effect : Effect) (rest : List Effect) (r : MemoryRepository) :
    (performAll runner c plan (effect :: rest)).apply r
      = match (effect.step runner c plan).apply r with
        | (.ok _, s) => (performAll runner c plan rest).apply s
        | (.error e, s) => (.error e, s) := by
  rw [performAll, Step.apply_bind]
  rcases (effect.step runner c plan).apply r with ⟨_ | _, s⟩ <;> rfl

/-- An effect that works goes before a list of effects. -/
theorem Ends.cons (leaves : effect.Leaves runner c plan r (.ok ()) s)
    (ends : Ends runner c plan effects s result t) :
    Ends runner c plan (effect :: effects) r result t := by
  cases ends with
  | performed performed => exact .performed (.cons leaves performed)
  | stopped stops =>
      obtain ⟨done, rest, rfl, performed⟩ := stops.comes
      exact .stopped ((Performed.cons leaves performed).stopsAt stops.failed rest)

/-- Effects that are performed one after the other end when all are, or at the first that fails. -/
theorem ends_performAll (runner : CommandRunner) (c : Config) (plan : Plan) (effects : List Effect)
    (start : MemoryRepository) :
    Ends runner c plan effects start ((performAll runner c plan effects).apply start).1
      ((performAll runner c plan effects).apply start).2 := by
  induction effects generalizing start with
  | nil => exact .performed .nil
  | cons effect rest ih =>
      have leaves := effect.leaves runner c plan start
      rw [apply_performAll_cons]
      cases worked : (effect.step runner c plan).apply start with
      | mk result s =>
      rw [worked] at leaves
      cases result with
      | error e => exact .stopped (Performed.nil.stopsAt leaves rest)
      | ok _ => exact (ih s).cons leaves

theorem performAll_append (first rest : List Effect) :
    performAll runner c plan (first ++ rest)
      = (do performAll runner c plan first; performAll runner c plan rest) := by
  induction first with
  | nil => exact (pure_bind _ _).symm
  | cons effect first ih => simp only [List.cons_append, performAll, ih, bind_assoc]

end ReleasePlanner
