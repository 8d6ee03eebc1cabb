import ReleasePlanner.Proofs.Repository.Merges
import ReleasePlanner.Proofs.Repository.Ranges

/-!
# The order of a range

A list of commits spans a range when it has each of its commits once, and no
commit before one of its parents (`Spans`).  In whatever repository was
assembled, the commits between two others span their range, and a range that
is cut at a commit on the way falls into the two ranges there
(`commitsBetween_spans`).

Parents are older than their children, so the order of the numbers is all that
has to be known of the list.
-/

namespace ReleasePlanner.MemoryRepository

variable {r : MemoryRepository} {upTo : CommitId} {since? : Option CommitId}
  {commits before after : List LoggedCommit} {c : LoggedCommit} {parent : CommitId}

/-- The commits that are reached from `upTo` and not from `since?`, each of them once, in the order
of their numbers and with parents before their children. -/
structure Spans (r : MemoryRepository) (since? : Option CommitId) (upTo : CommitId)
    (commits : List LoggedCommit) : Prop where
  recorded : ∀ c ∈ commits, r.info? c.id = some c
  once : (commits.map LoggedCommit.id).Nodup
  mem_iff : ∀ id, id ∈ commits.map LoggedCommit.id ↔
    Reaches r.parents upTo id ∧ ∀ first ∈ since?, ¬Reaches r.parents first id
  numbered : commits.Pairwise fun c d => c.id < d.id
  parents_first : ∀ before c after, commits = before ++ c :: after →
    ∀ parent ∈ r.parents c.id, parent ∈ commits.map LoggedCommit.id →
      parent ∈ before.map LoggedCommit.id

/-- In the order of the numbers a smaller number stands in front. -/
theorem mem_before_of_lt (numbered : commits.Pairwise fun c d => c.id < d.id)
    (hsplit : commits = before ++ c :: after) (hlt : parent < c.id)
    (hmem : parent ∈ commits.map LoggedCommit.id) : parent ∈ before.map LoggedCommit.id := by
  subst hsplit
  obtain ⟨d, hd, rfl⟩ := List.mem_map.mp hmem
  have later := (List.pairwise_cons.mp (List.pairwise_append.mp numbered).2.1).1
  rw [List.mem_append, List.mem_cons] at hd
  rcases hd with early | same | late
  · exact List.mem_map_of_mem early
  · rw [same] at hlt
    exact absurd hlt (Nat.lt_irrefl c.id)
  · exact absurd (later d late) (Nat.lt_asymm hlt)

theorem spans_between (rooted : r.Rooted) (hsince : ∀ first ∈ since?, r.Holds first)
    (held : r.Holds upTo) : r.Spans since? upTo (r.between since? upTo) where
  recorded := by
    intro c hc
    exact ((mem_between_iff rooted hsince held).mp hc).1
  once := by
    rw [List.nodup_iff_pairwise_ne, List.pairwise_map]
    exact (pairwise_between r since? upTo).imp Nat.ne_of_lt
  mem_iff := by
    intro id
    exact mem_ids_between_iff rooted hsince held
  numbered := pairwise_between r since? upTo
  parents_first := by
    intro before c after hsplit parent hparent hmem
    have older := (rooted.descending c.id parent hparent).2
    exact mem_before_of_lt (pairwise_between r since? upTo) hsplit older hmem

/-- The commits between two others are found without fail and without a change, and they span their
range.  At a commit on the way the range falls into two. -/
theorem commitsBetween_spans (assembled : Assembled r) (hsince : ∀ first ∈ since?, r.Holds first)
    (held : r.Holds upTo) :
    (Repository.commitsBetween since? upTo : Step MemoryRepository (List LoggedCommit)).apply r
        = (.ok (r.between since? upTo), r) ∧
      r.Spans since? upTo (r.between since? upTo) ∧
      ∀ mid, Reaches r.parents upTo mid → (∀ first ∈ since?, Reaches r.parents mid first) →
        (r.between since? upTo).Perm (r.between since? mid ++ r.between (some mid) upTo) := by
  have rooted := assembled.rooted
  refine ⟨apply_commitsBetween since? upTo, spans_between rooted hsince held, ?_⟩
  intro mid reached past
  exact perm_between rooted held reached past

/-- The two branches after their merge. -/
def diamond : MemoryRepository :=
  Operation.perform forked (.mergeBranch "topic" "release")

theorem assembled_diamond : Assembled diamond :=
  assembled_forked.step _

/-- The merge comes after both of its parents, and the first commit is in no part of the range that
starts after it. -/
theorem diamond_spans :
    (diamond.between (some 1) 4).map LoggedCommit.id = [2, 3, 4] ∧
      diamond.Spans (some 1) 4 (diamond.between (some 1) 4) ∧
      (diamond.between (some 1) 4).Perm
        (diamond.between (some 1) 2 ++ diamond.between (some 2) 4) := by
  have hsince : ∀ first ∈ some 1, diamond.Holds first := by
    simp only [Option.mem_def, Option.some.injEq, forall_eq']
    exact ⟨by decide, by decide +kernel⟩
  have held : diamond.Holds 4 := ⟨by decide, by decide +kernel⟩
  have merged : Reaches diamond.parents 4 2 := .of_parent (by decide +kernel)
  have forked : Reaches diamond.parents 2 1 := .of_parent (by decide +kernel)
  obtain ⟨-, spans, cut⟩ := commitsBetween_spans assembled_diamond hsince held
  exact ⟨by decide +kernel, spans, cut 2 merged (by simpa using forked)⟩

end ReleasePlanner.MemoryRepository
