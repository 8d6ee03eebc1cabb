import Mathlib.Algebra.BigOperators.Group.Finset.Basic
import Mathlib.Order.Interval.Finset.Nat
import ReleasePlanner.Proofs.Repository.InMemory

/-!
# Walks with a stack

A walk keeps the commits that it has still to look at on a stack, and a list of
those it has seen.  In a round it takes one commit off the stack.  A commit
that was seen before is left alone.  Another one is seen now, and its parents
go on the stack, the last one on top (`Walk.step`).

No order of the commits is needed for a walk.  A round is one unit of work, and
the parents of a commit go on the stack only once (`work_of_step`).  So a walk
ends in every repository (`leads_finish`).  What it has seen then are the
commits that can be reached, each of them once (`mem_traverse_iff`,
`nodup_traverse`).  Where parents are older than their children, the sweep over
the numbers collects the same commits (`perm_traverse_history`).
-/

namespace ReleasePlanner

/-! ## Rounds -/

/-- A walk that is under way. -/
structure Walk where
  /-- The commits to look at, the next one first. -/
  stack : List CommitId
  /-- The commits that were seen. -/
  seen : List CommitId
  deriving DecidableEq, Repr

namespace Walk

variable {parents : CommitId → List CommitId} {start x : CommitId} {v w : Walk}

/-- A walk that has to look at one commit. -/
def startAt (id : CommitId) : Walk :=
  ⟨[id], []⟩

/-- One round.  There is none when the stack is empty. -/
def step (parents : CommitId → List CommitId) (w : Walk) : Option Walk :=
  match w.stack with
  | [] => none
  | next :: rest =>
    some <|
      if next ∈ w.seen then ⟨rest, w.seen⟩
      else ⟨(parents next).reverse ++ rest, next :: w.seen⟩

/-- What a round can do. -/
theorem step_cases (round : w.step parents = some v) :
    ∃ next rest, w.stack = next :: rest ∧
      ((next ∈ w.seen ∧ v = ⟨rest, w.seen⟩) ∨
        (next ∉ w.seen ∧ v = ⟨(parents next).reverse ++ rest, next :: w.seen⟩)) := by
  rw [step] at round
  split at round
  next => cases round
  next next rest hstack =>
    refine ⟨next, rest, hstack, ?_⟩
    split at round
    next known => exact Or.inl ⟨known, (Option.some.inj round).symm⟩
    next fresh => exact Or.inr ⟨fresh, (Option.some.inj round).symm⟩

theorem stack_eq_nil_of_step (ended : w.step parents = none) : w.stack = [] := by
  rw [step] at ended
  split at ended
  next hstack => exact hstack
  next => cases ended

/-- The second walk comes after the first in some rounds. -/
def Leads (parents : CommitId → List CommitId) : Walk → Walk → Prop :=
  Relation.ReflTransGen fun w v => w.step parents = some v

/-! ## What stays true during a walk -/

/-- A walk from `start` knows of it and of the parents of all it has seen.  It knows nothing that
cannot be reached, and it has seen nothing twice. -/
structure Explores (parents : CommitId → List CommitId) (start : CommitId) (w : Walk) : Prop where
  start_known : start ∈ w.seen ∨ start ∈ w.stack
  reached : ∀ id, id ∈ w.seen ∨ id ∈ w.stack → Reaches parents start id
  parents_known : ∀ child ∈ w.seen, ∀ parent ∈ parents child, parent ∈ w.seen ∨ parent ∈ w.stack
  once : w.seen.Nodup

namespace Explores

theorem startAt (parents : CommitId → List CommitId) (start : CommitId) :
    Explores parents start (.startAt start) where
  start_known := Or.inr (List.mem_singleton_self start)
  reached := by
    rintro id (hseen | hstack)
    · cases hseen
    · rw [List.mem_singleton.mp hstack]
      exact .refl start
  parents_known child hseen := by cases hseen
  once := List.nodup_nil

/-- A commit that was seen before is taken off the stack. -/
theorem skip {next : CommitId} {rest seen : List CommitId}
    (explores : Explores parents start ⟨next :: rest, seen⟩) (known : next ∈ seen) :
    Explores parents start ⟨rest, seen⟩ := by
  have stays : ∀ id, id ∈ seen ∨ id ∈ next :: rest → id ∈ seen ∨ id ∈ rest := by
    rintro id (hseen | hstack)
    · exact Or.inl hseen
    · rcases List.mem_cons.mp hstack with rfl | hrest
      · exact Or.inl known
      · exact Or.inr hrest
  refine ⟨stays start explores.start_known, ?_, ?_, explores.once⟩
  · intro id hid
    exact explores.reached id (hid.imp_right (List.mem_cons_of_mem next))
  · intro child hchild parent hparent
    exact stays parent (explores.parents_known child hchild parent hparent)

/-- A commit that is new is seen, and its parents are to be looked at. -/
theorem look {next : CommitId} {rest seen : List CommitId}
    (explores : Explores parents start ⟨next :: rest, seen⟩) (fresh : next ∉ seen) :
    Explores parents start ⟨(parents next).reverse ++ rest, next :: seen⟩ := by
  have stays : ∀ id, id ∈ seen ∨ id ∈ next :: rest →
      id ∈ next :: seen ∨ id ∈ (parents next).reverse ++ rest := by
    rintro id (hseen | hstack)
    · exact Or.inl (List.mem_cons_of_mem next hseen)
    · rcases List.mem_cons.mp hstack with rfl | hrest
      · exact Or.inl List.mem_cons_self
      · exact Or.inr (List.mem_append_right _ hrest)
  have here : Reaches parents start next := explores.reached next (Or.inr List.mem_cons_self)
  refine ⟨stays start explores.start_known, ?_, ?_, ?_⟩
  · rintro id (hseen | hstack)
    · rcases List.mem_cons.mp hseen with rfl | hseen
      · exact here
      · exact explores.reached id (Or.inl hseen)
    · rcases List.mem_append.mp hstack with hparent | hrest
      · exact here.trans (.of_parent (List.mem_reverse.mp hparent))
      · exact explores.reached id (Or.inr (List.mem_cons_of_mem next hrest))
  · intro child hchild parent hparent
    rcases List.mem_cons.mp hchild with rfl | hchild
    · exact Or.inr (List.mem_append_left rest (List.mem_reverse.mpr hparent))
    · exact stays parent (explores.parents_known child hchild parent hparent)
  · exact List.nodup_cons.mpr ⟨fresh, explores.once⟩

theorem step (explores : Explores parents start w) (round : w.step parents = some v) :
    Explores parents start v := by
  obtain ⟨stack, seen⟩ := w
  obtain ⟨next, rest, rfl, ⟨known, rfl⟩ | ⟨fresh, rfl⟩⟩ := step_cases round
  · exact explores.skip known
  · exact explores.look fresh

theorem leads (explores : Explores parents start w) (rounds : Leads parents w v) :
    Explores parents start v := by
  induction rounds with
  | refl => exact explores
  | tail _ round ih => exact ih.step round

/-- When nothing is left on the stack, exactly what can be reached was seen. -/
theorem mem_seen_iff (explores : Explores parents start w) (ended : w.stack = []) :
    x ∈ w.seen ↔ Reaches parents start x := by
  have known : ∀ id, id ∈ w.seen ∨ id ∈ w.stack → id ∈ w.seen := by
    intro id hid
    simpa [ended] using hid
  constructor
  · intro hx
    exact explores.reached x (Or.inl hx)
  · intro hreach
    induction hreach with
    | refl => exact known start explores.start_known
    | tail _ hparent ih => exact known _ (explores.parents_known _ ih _ hparent)

end Explores

end Walk

/-! ## Walks come to an end -/

namespace MemoryRepository

variable {r : MemoryRepository} {v w : Walk} {id x : CommitId} {seen : List CommitId}

/-- The numbers of all commits. -/
def ids (r : MemoryRepository) : List CommitId :=
  List.range' 1 r.commits.length

theorem mem_ids_iff : id ∈ r.ids ↔ r.Holds id := by
  rw [ids, List.mem_range'_1, Nat.add_comm, Nat.lt_succ_iff]
  rfl

/-- How many parents the commits have that were not seen. -/
def linksLeft (r : MemoryRepository) (seen : List CommitId) : Nat :=
  ∑ id ∈ r.ids.toFinset.filter (· ∉ seen), (r.parents id).length

/-- The links of a commit count until it is seen. -/
theorem linksLeft_cons (fresh : id ∉ seen) :
    r.linksLeft (id :: seen) + (r.parents id).length = r.linksLeft seen := by
  have fewer : r.ids.toFinset.filter (· ∉ id :: seen)
      = (r.ids.toFinset.filter (· ∉ seen)).erase id := by
    ext other
    simp only [Finset.mem_filter, Finset.mem_erase, List.mem_cons, not_or]
    exact ⟨fun ⟨hmem, hne, hseen⟩ => ⟨hne, hmem, hseen⟩,
      fun ⟨hne, hmem, hseen⟩ => ⟨hmem, hne, hseen⟩⟩
  rw [linksLeft, fewer]
  by_cases held : r.Holds id
  · refine Finset.sum_erase_add _ _ (Finset.mem_filter.mpr ⟨?_, fresh⟩)
    exact List.mem_toFinset.mpr (mem_ids_iff.mpr held)
  · -- The sum is over the commits that are there, and others have no links.
    have none : r.parents id = [] := by
      refine List.eq_nil_iff_forall_not_mem.mpr fun parent hparent => ?_
      exact held (holds_of_parent hparent)
    rw [Finset.sum_erase _ (by rw [none]; rfl), none]
    rfl

/-- The work that is left: what is on the stack, and what may still be put there. -/
def work (r : MemoryRepository) (w : Walk) : Nat :=
  w.stack.length + r.linksLeft w.seen

/-- A round is one unit of work. -/
theorem work_of_step (round : w.step r.parents = some v) : r.work v + 1 = r.work w := by
  obtain ⟨stack, seen⟩ := w
  obtain ⟨next, rest, rfl, ⟨known, rfl⟩ | ⟨fresh, rfl⟩⟩ := Walk.step_cases round
  · exact Nat.add_right_comm rest.length (r.linksLeft seen) 1
  · have links : r.linksLeft (next :: seen) + (r.parents next).length = r.linksLeft seen :=
      linksLeft_cons fresh
    have stack : ((r.parents next).reverse ++ rest).length
        = (r.parents next).length + rest.length := by
      rw [List.length_append, List.length_reverse]
    show ((r.parents next).reverse ++ rest).length + r.linksLeft (next :: seen) + 1
      = rest.length + 1 + r.linksLeft seen
    omega

/-- The walk after its last round. -/
def finish (r : MemoryRepository) (w : Walk) : Walk :=
  match _round : w.step r.parents with
  | none => w
  | some next => r.finish next
termination_by r.work w
decreasing_by
  have unit := work_of_step _round
  omega

/-- The commits that a walk from a commit sees. -/
def traverse (r : MemoryRepository) (id : CommitId) : List CommitId :=
  (r.finish (.startAt id)).seen

/-- A walk comes to its end in some rounds, and then there is nothing left on the stack. -/
theorem leads_finish (r : MemoryRepository) (w : Walk) :
    Walk.Leads r.parents w (r.finish w) ∧ (r.finish w).stack = [] := by
  fun_induction finish r w with
  | case1 w ended => exact ⟨.refl, Walk.stack_eq_nil_of_step ended⟩
  | case2 w next round ih => exact ⟨.head round ih.1, ih.2⟩

theorem explores_finish (r : MemoryRepository) (id : CommitId) :
    Walk.Explores r.parents id (r.finish (.startAt id)) :=
  (Walk.Explores.startAt r.parents id).leads (leads_finish r (.startAt id)).1

/-- A walk sees exactly what can be reached. -/
theorem mem_traverse_iff : x ∈ r.traverse id ↔ Reaches r.parents id x :=
  (explores_finish r id).mem_seen_iff (leads_finish r (.startAt id)).2

/-- A walk sees nothing twice. -/
theorem nodup_traverse (r : MemoryRepository) (id : CommitId) : (r.traverse id).Nodup :=
  (explores_finish r id).once

/-- Where parents are older than their children, a walk and a sweep find the same. -/
theorem perm_traverse_history (rooted : r.Rooted) (held : r.Holds id) :
    (r.traverse id).Perm (r.history id) := by
  have once : (r.history id).Nodup := (pairwise_ancestors id).imp Nat.ne_of_gt
  refine (List.perm_ext_iff_of_nodup (nodup_traverse r id) once).mpr fun x => ?_
  rw [mem_traverse_iff, history, mem_ancestors_iff rooted.descending held.1]

end MemoryRepository

end ReleasePlanner
