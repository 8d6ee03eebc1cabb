import ReleasePlanner.Proofs.Repository.Assembly

/-!
# What a merge joins

A merge that works gives the target a head from which both old heads are
reached, and beyond what they reach at most the new head itself.  Where one
head was reached from the other, it is the later one, and there is no new
commit.  Everything else stays, and the same merge again finds nothing to do
(`Joins`).

`mergeBranch_joins` says so of every repository that can be assembled.  It also
says when a merge works, and that it changes nothing when it does not.
-/

namespace ReleasePlanner.MemoryRepository

variable {r s : MemoryRepository} {a b h id : CommitId} {source target : String}

/-- The repository with a merge on its list. -/
def withMerge (r : MemoryRepository) (source target : String) : MemoryRepository :=
  { r with merges := r.merges ++ [(source, target)] }

/-! ## When a merge works -/

theorem mergeBranch_apply (working : r.mergesFail = false) (ha : r.head? source = some a)
    (hb : r.head? target = some b) :
    (mergeBranch source target).apply r
      = (.ok ((r.withMerge source target).join source target a b).1,
        ((r.withMerge source target).join source target a b).2) := by
  simp [mergeBranch, working, head_of_head? ha, head_of_head? hb, withMerge]

/-- A merge that works has two heads to join. -/
theorem exists_heads_of_mergeBranch (merged : (mergeBranch source target).apply r = (.ok h, s)) :
    r.mergesFail = false ∧ ∃ a b, r.head? source = some a ∧ r.head? target = some b := by
  rw [mergeBranch, Step.apply_make] at merged
  split at merged
  next => cases merged
  next working =>
    refine ⟨by simpa using working, ?_⟩
    split at merged
    next => cases merged
    next => cases merged
    next a b ha hb => exact ⟨a, b, head?_of_head ha, head?_of_head hb⟩

/-! ## What it leaves -/

/-- Two heads were joined on the target: what can be reached from the new head, and what else is
different. -/
structure Joins (r : MemoryRepository) (source target : String) (a b h : CommitId)
    (s : MemoryRepository) : Prop where
  head_eq : s.head? target = some h
  reaches_iff : ∀ id,
    Reaches s.parents h id ↔ id = h ∨ Reaches r.parents a id ∨ Reaches r.parents b id
  forward : Reaches r.parents b a ∨ Reaches r.parents a b →
    s.commits = r.commits ∧ (h = a ∨ h = b) ∧ Reaches r.parents h a ∧ Reaches r.parents h b
  diverged : ¬Reaches r.parents b a → ¬Reaches r.parents a b →
    h = r.nextId ∧ s.commits = r.commits ++ [⟨mergeMessage source target, [b, a]⟩]
  others_eq : ∀ branch, branch ≠ target → s.head? branch = r.head? branch
  commit?_eq : ∀ id, r.Holds id → s.commit? id = r.commit? id
  rest_eq : s = { r.withMerge source target with commits := s.commits, heads := s.heads }

namespace Joins

/-- The head of the source is part of the target already. -/
theorem nothing (hb : r.head? target = some b) (there : Reaches r.parents b a) :
    Joins r source target a b b (r.withMerge source target) where
  head_eq := hb
  reaches_iff id := by
    constructor
    · intro reached
      exact Or.inr (Or.inr reached)
    · rintro (rfl | reached | reached)
      · exact .refl _
      · exact there.trans reached
      · exact reached
  forward _ := ⟨rfl, Or.inr rfl, there, .refl b⟩
  diverged apart _ := absurd there apart
  others_eq _ _ := rfl
  commit?_eq _ _ := rfl
  rest_eq := rfl

/-- The target is behind the source and moves on to it. -/
theorem fastForward (behind : Reaches r.parents a b) :
    Joins r source target a b a ((r.withMerge source target).setHead target a) where
  head_eq := (head?_setHead _ _ _ _).trans (if_pos rfl)
  reaches_iff id := by
    constructor
    · intro reached
      exact Or.inr (Or.inl reached)
    · rintro (rfl | reached | reached)
      · exact .refl _
      · exact reached
      · exact behind.trans reached
  forward _ := ⟨rfl, Or.inl rfl, .refl a, behind⟩
  diverged _ apart := absurd behind apart
  others_eq branch hne := (head?_setHead _ _ _ _).trans (if_neg hne)
  commit?_eq _ _ := rfl
  rest_eq := rfl

/-- Neither is part of the other, so a commit on top of both is made. -/
theorem mergeCommit (rooted : r.Rooted) (ha : r.Holds a) (hb : r.Holds b)
    (notThere : ¬Reaches r.parents b a) (notBehind : ¬Reaches r.parents a b) :
    Joins r source target a b r.nextId
      (((r.withMerge source target).insert (mergeMessage source target) [b, a]).setHead target
        r.nextId) where
  head_eq := (head?_setHead _ _ _ _).trans (if_pos rfl)
  reaches_iff id := by
    have grows := Grows.insert r (mergeMessage source target) [b, a]
    have parents : (r.insert (mergeMessage source target) [b, a]).parents r.nextId = [b, a] :=
      (parents_insert _ _ _ _).trans (if_pos rfl)
    show Reaches (r.insert (mergeMessage source target) [b, a]).parents r.nextId id ↔ _
    rw [Reaches.iff_exists_parent, parents]
    simp [grows.reaches_iff rooted ha, grows.reaches_iff rooted hb, or_comm]
  forward joined := absurd joined (not_or.mpr ⟨notThere, notBehind⟩)
  diverged _ _ := ⟨rfl, rfl⟩
  others_eq branch hne := (head?_setHead _ _ _ _).trans (if_neg hne)
  commit?_eq id held :=
    (commit?_insert r _ _ id).trans (if_neg (Nat.ne_of_lt (lt_nextId held)))
  rest_eq := rfl

/-- However two heads are joined. -/
theorem join (rooted : r.Rooted) (ha : r.head? source = some a) (hb : r.head? target = some b) :
    Joins r source target a b ((r.withMerge source target).join source target a b).1
      ((r.withMerge source target).join source target a b).2 := by
  have held := rooted.head_held source a ha
  have held' := rooted.head_held target b hb
  have listed : (r.withMerge source target).Rooted := rooted.congr rfl rfl
  have there : (r.withMerge source target).isAncestor a b = true ↔ Reaches r.parents b a :=
    isAncestor_iff listed held'
  have behind : (r.withMerge source target).isAncestor b a = true ↔ Reaches r.parents a b :=
    isAncestor_iff listed held
  rw [MemoryRepository.join]
  split
  next h => exact nothing hb (there.mp h)
  next apart =>
    split
    next h => exact fastForward (behind.mp h)
    next apart' =>
      exact mergeCommit rooted held held' (fun h => apart (there.mpr h)) fun h =>
        apart' (behind.mpr h)

theorem of_mergeBranch (rooted : r.Rooted) (ha : r.head? source = some a)
    (hb : r.head? target = some b) (merged : (mergeBranch source target).apply r = (.ok h, s)) :
    Joins r source target a b h s := by
  have working := (exists_heads_of_mergeBranch merged).1
  rw [mergeBranch_apply working ha hb, Prod.mk.injEq, Except.ok.injEq] at merged
  obtain ⟨rfl, rfl⟩ := merged
  exact join rooted ha hb

/-- What the source points at afterwards can be reached from the new head. -/
theorem exists_source (joins : Joins r source target a b h s) (ha : r.head? source = some a) :
    ∃ a', s.head? source = some a' ∧ Reaches s.parents h a' := by
  by_cases same : source = target
  · rw [same]
    exact ⟨h, joins.head_eq, .refl h⟩
  · refine ⟨a, (joins.others_eq source same).trans ha, ?_⟩
    exact (joins.reaches_iff a).mpr (Or.inr (Or.inl (.refl a)))

/-- The same merge again finds the source in the target, and is only put on the list. -/
theorem again (joins : Joins r source target a b h s) (rooted : s.Rooted)
    (working : r.mergesFail = false) (ha : r.head? source = some a) :
    (mergeBranch source target).apply s = (.ok h, s.withMerge source target) := by
  have works : s.mergesFail = false := by
    rw [joins.rest_eq]
    exact working
  obtain ⟨a', ha', reached⟩ := joins.exists_source ha
  have held : s.Holds h := rooted.head_held target h joins.head_eq
  have listed : (s.withMerge source target).Rooted := rooted.congr rfl rfl
  have there : (s.withMerge source target).isAncestor a' h = true :=
    (isAncestor_iff listed held).mpr reached
  rw [mergeBranch_apply works ha' joins.head_eq, MemoryRepository.join, if_pos there]

end Joins

/-- After a merge that works the target reaches what the source points at. -/
theorem exists_head_of_mergeBranch (rooted : r.Rooted)
    (merged : (mergeBranch source target).apply r = (.ok h, s)) (ha : r.head? source = some a) :
    ∃ new, s.head? target = some new ∧ Reaches s.parents new a := by
  obtain ⟨-, -, b, -, hb⟩ := exists_heads_of_mergeBranch merged
  have joins := Joins.of_mergeBranch rooted ha hb merged
  exact ⟨h, joins.head_eq, (joins.reaches_iff a).mpr (Or.inr (Or.inl (.refl a)))⟩

/-! ## Every merge -/

/-- A merge works when merges do not fail and both branches are there, and when it does not work it
changes nothing.  When it works, the heads of the branches are joined on the target, and the same
merge again leads to the same head and adds no commit. -/
theorem mergeBranch_joins (assembled : Assembled r) (source target : String) :
    ((∃ h s, (mergeBranch source target).apply r = (.ok h, s)) ↔
        r.mergesFail = false ∧ ∃ a b, r.head? source = some a ∧ r.head? target = some b) ∧
      (∀ e s, (mergeBranch source target).apply r = (.error e, s) → s = r) ∧
      ∀ a b h s, r.head? source = some a → r.head? target = some b →
        (mergeBranch source target).apply r = (.ok h, s) →
        Joins r source target a b h s ∧
          (mergeBranch source target).apply s = (.ok h, s.withMerge source target) := by
  have rooted := assembled.rooted
  refine ⟨⟨?_, ?_⟩, ?_, ?_⟩
  · rintro ⟨h, s, merged⟩
    exact exists_heads_of_mergeBranch merged
  · rintro ⟨working, a, b, ha, hb⟩
    exact ⟨_, _, mergeBranch_apply working ha hb⟩
  · intro e s failed
    rcases mergeBranch_cases r source target with ⟨e', failed'⟩ | ⟨_, _, _, _, _, _, merged⟩
    · rw [failed] at failed'
      exact (Prod.mk.inj failed').2
    · rw [failed] at merged
      cases merged
  · intro a b h s ha hb merged
    have working := (exists_heads_of_mergeBranch merged).1
    have after := (Steady.mergeBranch rooted source target).rooted
    rw [merged] at after
    have joins := Joins.of_mergeBranch rooted ha hb merged
    exact ⟨joins, joins.again after working ha⟩

/-- Two branches with a commit each after a common one, and a tag on no commit. -/
def forked : MemoryRepository :=
  [Operation.addCommit "release" "feat: Add search.", .createBranch "topic" "release",
    .addCommit "release" "fix: Handle nulls.", .addCommit "topic" "feat: Add filters.",
    .addTag "v0.9.0" 40].foldl Operation.perform .empty

theorem assembled_forked : Assembled forked :=
  Assembled.empty.foldl _

/-- A topic that has left the release branch is joined to it by a new commit, the fourth, and once
only. -/
theorem forked_joins :
    ∃ s, (mergeBranch "topic" "release").apply forked = (.ok 4, s) ∧
      Joins forked "topic" "release" 3 2 4 s ∧
      (mergeBranch "topic" "release").apply s = (.ok 4, s.withMerge "topic" "release") := by
  obtain ⟨-, -, joined⟩ := mergeBranch_joins assembled_forked "topic" "release"
  have merged : (mergeBranch "topic" "release").apply forked
      = (.ok 4, ((mergeBranch "topic" "release").apply forked).2) :=
    Result.eq_ok_of_toOption_fst (by decide +kernel)
  exact ⟨_, merged, joined 3 2 4 _ (by decide +kernel) (by decide +kernel) merged⟩

end ReleasePlanner.MemoryRepository
