import Mathlib.Data.List.Nodup
import ReleasePlanner.Proofs.Repository.InMemory

/-!
# Ranges of commits

A range is what can be reached from one commit and not from another.  It stays
the same when the repository grows (`Grows.between_eq`), nothing lies between a
commit and itself (`between_self`), and a range can be cut at a commit on the
way (`perm_between`).  A new commit on a branch comes last in its ranges
(`between_addCommit`).
-/

namespace ReleasePlanner.MemoryRepository

variable {r s : MemoryRepository} {a b d id head : CommitId} {since? : Option CommitId}

/-! ## Ranges of a growing repository -/

/-- Commits stay what they are when others are added. -/
theorem commit?_eq_of_prefix (kept : r.commits <+: s.commits) (old : id ≤ r.commits.length) :
    s.commit? id = r.commit? id := by
  cases id with
  | zero => rfl
  | succ n =>
      obtain ⟨c, found⟩ := holds_iff.mp (And.intro (Nat.succ_pos n) old)
      rw [found, commit?_of_prefix kept found]

/-- What can be reached from an old commit stays the same. -/
theorem history_eq_of_prefix (kept : r.commits <+: s.commits) (old : id ≤ r.commits.length) :
    s.history id = r.history id := by
  refine sweep_congr (fun i _ hle => ?_) [id]
  rw [parents, parents, commit?_eq_of_prefix kept (Nat.le_trans hle old)]

namespace Grows

theorem commit?_eq (grows : Grows r s) (old : id ≤ r.commits.length) :
    s.commit? id = r.commit? id :=
  commit?_eq_of_prefix grows.commits_kept old

theorem history_eq (grows : Grows r s) (old : id ≤ r.commits.length) :
    s.history id = r.history id :=
  history_eq_of_prefix grows.commits_kept old

theorem isAncestor_eq (grows : Grows r s) (held : r.Holds b) :
    s.isAncestor a b = r.isAncestor a b := by
  rw [isAncestor, isAncestor, grows.history_eq held.2]

/-- The commits between two old ones stay the same. -/
theorem between_eq (grows : Grows r s) (hsince : ∀ id ∈ since?, r.Holds id) (held : r.Holds b) :
    s.between since? b = r.between since? b := by
  have hhidden : since?.map s.history = since?.map r.history := by
    cases since? with
    | none => rfl
    | some first => exact congrArg some (grows.history_eq (hsince first rfl).2)
  rw [between, between, hhidden, grows.history_eq held.2]
  refine List.filterMap_congr fun id hid => ?_
  have reached := (List.mem_filter.mp (List.mem_reverse.mp hid)).1
  rw [info?, info?, grows.commit?_eq (Nat.le_trans (le_of_mem_sweep reached) held.2)]

end Grows

/-! ## Empty, cut and longer ranges -/

/-- Nothing lies between a commit and itself. -/
theorem between_self (r : MemoryRepository) (id : CommitId) : r.between (some id) id = [] := by
  have hidden : withoutAll (r.history id) (r.history id) = [] := by
    rw [withoutAll, List.filter_eq_nil_iff]
    intro x hx
    simpa using hx
  rw [between, Option.map_some, Option.getD_some, hidden]
  rfl

theorem nodup_between (r : MemoryRepository) (since? : Option CommitId) (head : CommitId) :
    (r.between since? head).Nodup :=
  (pairwise_between r since? head).imp fun hlt heq =>
    Nat.ne_of_lt hlt (congrArg LoggedCommit.id heq)

theorem mem_between_some_iff (rooted : r.Rooted) (ha : r.Holds a) (hb : r.Holds b)
    {c : LoggedCommit} :
    c ∈ r.between (some a) b ↔
      r.info? c.id = some c ∧ Reaches r.parents b c.id ∧ ¬Reaches r.parents a c.id := by
  rw [mem_between_iff rooted (by simp [ha]) hb]
  simp

/-- The numbers of a range are those that are reached from its end and not from its start. -/
theorem mem_ids_between_iff (rooted : r.Rooted) (hsince : ∀ first ∈ since?, r.Holds first)
    (held : r.Holds b) :
    id ∈ (r.between since? b).map LoggedCommit.id ↔
      Reaches r.parents b id ∧ ∀ first ∈ since?, ¬Reaches r.parents first id := by
  rw [List.mem_map]
  constructor
  · rintro ⟨c, hc, rfl⟩
    exact ((mem_between_iff rooted hsince held).mp hc).2
  · intro reached
    obtain ⟨c, found⟩ := holds_iff.mp (rooted.holds_of_reaches held reached.1)
    have info : r.info? id = some ⟨id, c.message, author⟩ := by simp [info?, found]
    exact ⟨⟨id, c.message, author⟩, (mem_between_iff rooted hsince held).mpr ⟨info, reached⟩, rfl⟩

/-- A range is cut in two at a commit on the way. -/
theorem perm_between (rooted : r.Rooted) (held : r.Holds d) (hdb : Reaches r.parents d b)
    (hpast : ∀ first ∈ since?, Reaches r.parents b first) :
    (r.between since? d).Perm (r.between since? b ++ r.between (some b) d) := by
  have hb := rooted.holds_of_reaches held hdb
  have hsince : ∀ first ∈ since?, r.Holds first := by
    intro first hfirst
    exact rooted.holds_of_reaches hb (hpast first hfirst)
  have disjoint : (r.between since? b).Disjoint (r.between (some b) d) := by
    intro c first second
    rw [mem_between_iff rooted hsince hb] at first
    rw [mem_between_some_iff rooted hb held] at second
    exact second.2.2 first.2.1
  rw [List.perm_ext_iff_of_nodup (nodup_between r _ _)
    (List.nodup_append'.mpr ⟨nodup_between r _ _, nodup_between r _ _, disjoint⟩)]
  intro c
  rw [List.mem_append, mem_between_iff rooted hsince held, mem_between_iff rooted hsince hb,
    mem_between_some_iff rooted hb held]
  constructor
  · rintro ⟨found, reached, hidden⟩
    by_cases early : Reaches r.parents b c.id
    · exact Or.inl ⟨found, early, hidden⟩
    · exact Or.inr ⟨found, reached, early⟩
  · rintro (⟨found, reached, hidden⟩ | ⟨found, reached, late⟩)
    · exact ⟨found, hdb.trans reached, hidden⟩
    · exact ⟨found, reached, fun first hfirst back => late ((hpast first hfirst).trans back)⟩

theorem perm_between_some (rooted : r.Rooted) (held : r.Holds d) (hdb : Reaches r.parents d b)
    (hba : Reaches r.parents b a) :
    (r.between (some a) d).Perm (r.between (some a) b ++ r.between (some b) d) := by
  have past : ∀ first ∈ some a, Reaches r.parents b first := by simpa using hba
  exact perm_between rooted held hdb past

/-- A commit on top of the last one of a range belongs to the longer range. -/
theorem perm_between_child (rooted : r.Rooted) (held : r.Holds d) (only : r.parents d = [b])
    (hba : Reaches r.parents b a) {c : LoggedCommit} (found : r.info? d = some c) :
    (r.between (some a) d).Perm (c :: r.between (some a) b) := by
  have hdb : Reaches r.parents d b := .of_parent (by rw [only]; exact List.mem_singleton_self b)
  have hb := rooted.holds_of_reaches held hdb
  have last : r.between (some b) d = [c] := by
    have same := info?_eq_some found
    have older : ¬Reaches r.parents b d := by
      intro back
      have parent : b ∈ r.parents d := by
        rw [only]
        exact List.mem_singleton_self b
      exact Nat.lt_irrefl d (Nat.lt_of_le_of_lt (back.le rooted.descending)
        (rooted.descending d b parent).2)
    rw [← List.perm_singleton, List.perm_ext_iff_of_nodup (nodup_between r _ _)
      (List.nodup_singleton c)]
    intro x
    rw [mem_between_some_iff rooted hb held, Reaches.iff_of_parents_eq only, List.mem_singleton]
    constructor
    · rintro ⟨hx, reached | reached, hidden⟩
      · rw [reached, found] at hx
        exact (Option.some.inj hx).symm
      · exact absurd reached hidden
    · rintro rfl
      rw [same]
      exact ⟨found, Or.inl rfl, older⟩
  have cut := perm_between_some rooted held hdb hba
  rw [last] at cut
  exact cut.trans List.perm_append_comm

/-! ## One more commit -/

variable {branch message : String}

/-- A new commit on a branch reaches itself and what the branch reached before. -/
theorem reaches_addCommit (sound : r.Sound) (hhead : r.head? branch = some head) :
    Reaches (r.addCommit branch message).parents r.nextId id ↔
      id = r.nextId ∨ Reaches r.parents head id := by
  have only : (r.addCommit branch message).parents r.nextId = [head] := by
    refine (parents_insert r message _ r.nextId).trans ?_
    rw [if_pos rfl, hhead]
    rfl
  rw [Reaches.iff_of_parents_eq only,
    (Grows.addCommit r branch message).reaches_iff sound.rooted (sound.head_held branch head hhead)]

/-- A new commit sees of the old ones what the branch saw before. -/
theorem isAncestor_addCommit (sound : r.Sound) (hhead : r.head? branch = some head)
    (held : r.Holds id) :
    (r.addCommit branch message).isAncestor id r.nextId = r.isAncestor id head := by
  have after : (r.addCommit branch message).Holds r.nextId := holds_insert_iff.mpr (Or.inl rfl)
  have old : id ≠ r.nextId := Nat.ne_of_lt (lt_nextId held)
  rw [Bool.eq_iff_iff, isAncestor_iff sound.addCommit.rooted after, reaches_addCommit sound hhead,
    isAncestor_iff sound.rooted (sound.head_held branch head hhead), or_iff_right old]

/-- A range of a branch with a new commit is the range before and the new commit. -/
theorem between_addCommit (sound : r.Sound) (hhead : r.head? branch = some head)
    (hsince : ∀ id ∈ since?, r.Holds id) :
    (r.addCommit branch message).between since? r.nextId
      = r.between since? head ++ [⟨r.nextId, message, author⟩] := by
  have grows := Grows.addCommit r branch message
  have held := sound.head_held branch head hhead
  have found : (r.addCommit branch message).info? r.nextId = some ⟨r.nextId, message, author⟩ := by
    rw [info?, show (r.addCommit branch message).commit? r.nextId
      = (r.insert message (r.head? branch).toList).commit? r.nextId from rfl, commit?_insert,
      if_pos rfl]
    rfl
  have hinfo : ∀ id, r.Holds id → (r.addCommit branch message).info? id = r.info? id :=
    fun id hid => by rw [info?, info?, grows.commit?_eq hid.2]
  have hseen : ∀ id ∈ since?, ∀ x, Reaches (r.addCommit branch message).parents id x ↔
      Reaches r.parents id x := fun id hid x => grows.reaches_iff sound.rooted (hsince id hid)
  have older : ∀ commit ∈ r.between since? head, r.Holds commit.id := fun commit hcommit =>
    sound.holds_of_reaches held ((mem_between_iff sound.rooted hsince held).mp hcommit).2.1
  -- Both lists come in the order of the numbers, so it is enough that they have the same members.
  refine List.Perm.eq_of_pairwise (fun x y _ _ hxy hyx => absurd hxy (Nat.lt_asymm hyx))
    (pairwise_between _ _ _) ?_ ?_
  · refine List.pairwise_append.mpr
      ⟨pairwise_between _ _ _, List.pairwise_singleton _ _, fun x hx y hy => ?_⟩
    rw [List.mem_singleton.mp hy]
    exact lt_nextId (older x hx)
  · have fresh : (⟨r.nextId, message, author⟩ : LoggedCommit) ∉ r.between since? head := fun old =>
      Nat.lt_irrefl _ (lt_nextId (older _ old))
    refine (List.perm_ext_iff_of_nodup (nodup_between _ _ _) ?_).mpr fun commit => ?_
    · exact List.nodup_append'.mpr ⟨nodup_between _ _ _, List.nodup_singleton _,
        List.disjoint_singleton.mpr fresh⟩
    · rw [List.mem_append, List.mem_singleton, mem_between_iff sound.addCommit.rooted
        (fun id hid => grows.holds (hsince id hid)) (holds_insert_iff.mpr (Or.inl rfl)),
        mem_between_iff sound.rooted hsince held, reaches_addCommit sound hhead]
      constructor
      · rintro ⟨hcommit, new | reached, hidden⟩
        · rw [new, found] at hcommit
          exact Or.inr (Option.some.inj hcommit).symm
        · have hid := sound.holds_of_reaches held reached
          rw [hinfo _ hid] at hcommit
          exact Or.inl ⟨hcommit, reached, fun id hid => (hseen id hid _).not.mp (hidden id hid)⟩
      · rintro (⟨hcommit, reached, hidden⟩ | rfl)
        · have hid := sound.holds_of_reaches held reached
          refine ⟨(hinfo _ hid).trans hcommit, Or.inr reached, fun id hid => ?_⟩
          exact (hseen id hid _).not.mpr (hidden id hid)
        · refine ⟨found, Or.inl rfl, fun id hid back => ?_⟩
          have early := (hseen id hid _).mp back
          exact Nat.lt_irrefl _ (lt_nextId (sound.holds_of_reaches (hsince id hid) early))

end ReleasePlanner.MemoryRepository
