import ReleasePlanner.Proofs.Repository.Operations

/-!
# Repositories with stray tags

A tag can be put on any number, whether there is a commit or not.  What is
assembled from nothing by any operations is still rooted (`Assembled.rooted`),
so it is known how far its branches reach.

Most operations extend a repository: it stays rooted and only grows
(`Extends`), and most of these keep its tags (`Steady`).
-/

namespace ReleasePlanner.MemoryRepository

variable {r s t : MemoryRepository} {a b id : CommitId} {branch source target name message : String}

/-! ## Extending a repository -/

/-- The repository has grown, and every branch points at a commit that is there. -/
structure Extends (r s : MemoryRepository) : Prop where
  rooted : s.Rooted
  grows : Grows r s

/-- The repository was extended, and it has no other tags. -/
structure Steady (r s : MemoryRepository) : Prop extends Extends r s where
  tags : s.tags = r.tags

namespace Extends

theorem refl (rooted : r.Rooted) : Extends r r :=
  ⟨rooted, Grows.refl r⟩

theorem trans (first : Extends r s) (second : Extends s t) : Extends r t :=
  ⟨second.rooted, first.grows.trans second.grows⟩

theorem of_eq (rooted : r.Rooted) (commits : s.commits = r.commits) (heads : s.heads = r.heads)
    (tags : s.tags = r.tags) : Extends r s :=
  ⟨rooted.congr commits heads, Grows.of_eq commits heads tags⟩

theorem addTag (rooted : r.Rooted) (fresh : r.tag? name = none) : Extends r (r.addTag name id) :=
  ⟨⟨rooted.descending, rooted.head_held⟩, Grows.addTag fresh⟩

/-- A commit that a branch reaches stays reachable from the branch. -/
theorem exists_head (extension : Extends r s) {head : CommitId}
    (hhead : r.head? branch = some head) (hreach : Reaches r.parents head id) :
    ∃ new, s.head? branch = some new ∧ Reaches s.parents new id := by
  obtain ⟨new, hnew, hmoved⟩ := extension.grows.head_moves branch head hhead
  exact ⟨new, hnew, hmoved.trans (extension.grows.reaches hreach)⟩

end Extends

namespace Steady

theorem refl (rooted : r.Rooted) : Steady r r :=
  ⟨.refl rooted, rfl⟩

theorem trans (first : Steady r s) (second : Steady s t) : Steady r t :=
  ⟨first.toExtends.trans second.toExtends, second.tags.trans first.tags⟩

theorem of_eq (rooted : r.Rooted) (commits : s.commits = r.commits) (heads : s.heads = r.heads)
    (tags : s.tags = r.tags) : Steady r s :=
  ⟨.of_eq rooted commits heads tags, tags⟩

theorem addCommit (rooted : r.Rooted) (branch message : String) :
    Steady r (r.addCommit branch message) :=
  ⟨⟨rooted.addCommit, Grows.addCommit r branch message⟩, rfl⟩

/-- A missing branch is made. -/
theorem createBranch (rooted : r.Rooted) (missing : r.head? branch = none) (source : String) :
    Steady r ((MemoryRepository.createBranch branch source).apply r).2 := by
  rw [MemoryRepository.createBranch, Step.apply_make]
  split
  next id hhead =>
    refine ⟨⟨rooted.setHead (rooted.head_held source id (head?_of_head hhead)), ?_⟩, rfl⟩
    refine Grows.setHead fun old hold => ?_
    rw [missing] at hold
    cases hold
  next => exact refl rooted

theorem join (rooted : r.Rooted) (ha : r.head? source = some a) (hb : r.head? target = some b) :
    Steady r (r.join source target a b).2 := by
  have held := rooted.head_held source a ha
  refine ⟨⟨rooted.join held (rooted.head_held target b hb), Grows.join rooted held hb⟩, ?_⟩
  rw [MemoryRepository.join]
  split
  next => rfl
  next => split <;> rfl

theorem mergeBranch (rooted : r.Rooted) (source target : String) :
    Steady r ((MemoryRepository.mergeBranch source target).apply r).2 := by
  rcases mergeBranch_cases r source target with ⟨e, failed⟩ | ⟨a, b, ha, hb, _, rfl, merged⟩
  · rw [failed]
    exact refl rooted
  · have listed : Steady r { r with merges := r.merges ++ [(source, target)] } :=
      of_eq rooted rfl rfl rfl
    rw [merged]
    exact listed.trans (join listed.rooted ha hb)

end Steady

/-! ## Assembling a repository -/

/-- What can be made of nothing by any operations. -/
inductive Assembled : MemoryRepository → Prop where
  | empty : Assembled .empty
  | step {r : MemoryRepository} (operation : Operation) :
      Assembled r → Assembled (operation.perform r)

theorem Built.assembled (built : Built r) : Assembled r := by
  induction built with
  | empty => exact .empty
  | step operation _ _ ih => exact .step operation ih

/-- Operations may be added to what was assembled. -/
theorem Assembled.foldl (assembled : Assembled r) (operations : List Operation) :
    Assembled (operations.foldl Operation.perform r) := by
  induction operations generalizing r with
  | nil => exact assembled
  | cons operation rest ih => exact ih (.step operation assembled)

theorem SameGraph.rooted (same : SameGraph r s) (rooted : r.Rooted) : s.Rooted :=
  rooted.congr same.commits same.heads

theorem Rooted.perform (rooted : r.Rooted) (operation : Operation) :
    (operation.perform r).Rooted := by
  have does := operation.does r
  generalize operation.perform r = s at does ⊢
  cases does with
  | nothing same => exact same.rooted rooted
  | commit branch message same => exact same.rooted rooted.addCommit
  | branch branch source id _ hhead => exact rooted.setHead (rooted.head_held source id hhead)
  | tag name id _ => exact rooted.congr rfl rfl
  | merge source target a b same ha hb =>
      have listed := same.rooted rooted
      exact listed.join (listed.head_held source a ha) (listed.head_held target b hb)

theorem Assembled.rooted (assembled : Assembled r) : r.Rooted := by
  induction assembled with
  | empty => exact .blank rfl rfl
  | step operation _ ih => exact ih.perform operation

end ReleasePlanner.MemoryRepository
