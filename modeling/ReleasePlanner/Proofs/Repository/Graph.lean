import Mathlib.Order.Defs.Unbundled
import ReleasePlanner.Proofs.Repository.Assembly
import ReleasePlanner.Proofs.Repository.Traversal

/-!
# The commit graph

The commits of a repository are numbered one after the other, and different
numbers are written differently (`idText_injective`).  In whatever was built by
operations, commits, branches and tags mention only commits that are there, and
a parent has a smaller number than its child (`WellFormed`).  So being an
ancestor orders the commits (`isPartialOrder`).

Operations only add to the graph.  No commit is lost or changed, and every
branch moves on to commits from which its old head can be reached
(`Operation.advances_or_makes`).  Only making a branch can take a branch
elsewhere, and it leaves the commits.

`built_wellFormed_grows` says all of this of every repository that can be
built, together with what walks find in it.
-/

namespace ReleasePlanner.MemoryRepository

variable {r s : MemoryRepository} {a b id : CommitId} {branch : String}

/-! ## Numbers as they are written -/

/-- The value of hexadecimal digits. -/
def hexNumber (cs : List Char) : Nat :=
  cs.foldl (fun n c => n * 16 + (Text.hexValue? c).getD 0) 0

theorem hexValue?_digitChar : ∀ d < 16, Text.hexValue? d.digitChar = some d := by
  decide

theorem hexNumber_concat (cs : List Char) (d : Nat) (small : d < 16) :
    hexNumber (cs ++ [d.digitChar]) = hexNumber cs * 16 + d := by
  rw [hexNumber, List.foldl_append, List.foldl_cons, hexValue?_digitChar d small]
  rfl

theorem hexNumber_toDigits (n : Nat) : hexNumber (Nat.toDigits 16 n) = n := by
  induction n using Nat.strongRecOn with
  | ind n ih =>
      rw [Nat.toDigits_eq_if (by decide)]
      split
      next small =>
        have value := hexNumber_concat [] n small
        rwa [List.nil_append, show hexNumber [] * 16 + n = n from Nat.zero_add n] at value
      next large =>
        have shorter : n / 16 < n := Nat.div_lt_self (by omega) (by decide)
        rw [hexNumber_concat _ _ (Nat.mod_lt n (by decide)), ih (n / 16) shorter]
        omega

/-- Zeros in front do not count. -/
theorem hexNumber_padZeros (width : Nat) (cs : List Char) :
    hexNumber (Text.padZeros width cs) = hexNumber cs := by
  have zeros : ∀ n, hexNumber (List.replicate n '0') = 0 := by
    intro n
    induction n with
    | zero => rfl
    | succ n ih => exact ih
  rw [Text.padZeros, hexNumber, List.foldl_append]
  rw [show List.foldl _ 0 (List.replicate (width - cs.length) '0') = 0 from zeros _]
  rfl

/-- Different numbers are written differently. -/
theorem idText_injective : Function.Injective idText := by
  intro a b same
  have digits : Text.padZeros 40 (Nat.toDigits 16 a) = Text.padZeros 40 (Nat.toDigits 16 b) :=
    String.ofList_injective same
  have value := congrArg hexNumber digits
  rwa [hexNumber_padZeros, hexNumber_padZeros, hexNumber_toDigits, hexNumber_toDigits] at value

/-! ## What is mentioned is there -/

/-- The commits are numbered one after the other, each of them is found under its number, and only
such numbers are mentioned.  A parent has a smaller number than its child. -/
structure WellFormed (r : MemoryRepository) : Prop where
  commits_found : r.ids.map r.commit? = r.commits.map some
  texts_distinct : (r.ids.map idText).Nodup
  below_next : ∀ id ∈ r.ids, id < r.nextId
  parent_mem : ∀ child ∈ r.ids, ∀ parent ∈ r.parents child, parent ∈ r.ids
  parent_lt : ∀ child ∈ r.ids, ∀ parent ∈ r.parents child, parent < child
  head_mem : ∀ branch id, r.head? branch = some id → id ∈ r.ids
  tag_mem : ∀ name id, r.tag? name = some id → id ∈ r.ids

theorem map_commit?_ids (r : MemoryRepository) : r.ids.map r.commit? = r.commits.map some := by
  refine List.ext_getElem? fun i => ?_
  rw [List.getElem?_map, List.getElem?_map, ids]
  by_cases there : i < r.commits.length
  · rw [List.getElem?_range' there, Option.map_some, Nat.one_mul, Nat.add_comm, commit?_succ,
      List.getElem?_eq_getElem there]
    rfl
  · have behind := Nat.not_lt.mp there
    rw [List.getElem?_eq_none (by rwa [List.length_range']), List.getElem?_eq_none behind]
    rfl

theorem Sound.wellFormed (sound : r.Sound) : r.WellFormed where
  commits_found := map_commit?_ids r
  texts_distinct := (List.nodup_range' ..).map idText_injective
  below_next id hid := lt_nextId (mem_ids_iff.mp hid)
  parent_mem child hchild parent hparent :=
    mem_ids_iff.mpr (sound.holds_of_reaches (mem_ids_iff.mp hchild) (.of_parent hparent))
  parent_lt child _ parent hparent := (sound.descending child parent hparent).2
  head_mem branch id hhead := mem_ids_iff.mpr (sound.head_held branch id hhead)
  tag_mem name id htag := mem_ids_iff.mpr (sound.tag_held name id htag)

/-! ## The order of the commits -/

/-- An ancestor is what a walk from the other commit sees. -/
theorem isAncestor_eq_contains_traverse (rooted : r.Rooted) (held : r.Holds b) :
    r.isAncestor a b = (r.traverse b).contains a := by
  rw [Bool.eq_iff_iff, isAncestor_iff rooted held, List.contains_iff_mem, mem_traverse_iff]

/-- Being an ancestor orders the commits that are there. -/
theorem isPartialOrder (rooted : r.Rooted) :
    IsPartialOrder {id // id ∈ r.ids} fun a b => r.isAncestor a b = true := by
  have iff : ∀ a b : {id // id ∈ r.ids},
      r.isAncestor a b = true ↔ Reaches r.parents b.val a.val :=
    fun a b => isAncestor_iff rooted (mem_ids_iff.mp b.property)
  refine { refl := ?_, trans := ?_, antisymm := ?_ }
  · intro a
    exact (iff a a).mpr (.refl a.val)
  · intro a b c hab hbc
    exact (iff a c).mpr (((iff b c).mp hbc).trans ((iff a b).mp hab))
  · intro a b hab hba
    exact Subtype.ext (((iff b a).mp hba).antisymm rooted.descending ((iff a b).mp hab))

/-! ## What operations keep -/

/-- Commits stay, and every branch moves on from its head.  Tags may go elsewhere. -/
structure Advances (r s : MemoryRepository) : Prop where
  commits_kept : r.commits <+: s.commits
  head_moves : ∀ branch old, r.head? branch = some old →
    ∃ new, s.head? branch = some new ∧ Reaches s.parents new old

namespace Advances

theorem of_grows (grows : Grows r s) : Advances r s :=
  ⟨grows.commits_kept, grows.head_moves⟩

/-- Only commits and heads count. -/
theorem of_eq (commits : s.commits = r.commits) (heads : s.heads = r.heads) : Advances r s where
  commits_kept := commits ▸ List.prefix_refl r.commits
  head_moves branch old hhead := by
    refine ⟨old, ?_, .refl old⟩
    rwa [head?, heads]

/-- The old head of a branch is an ancestor of its new one. -/
theorem head_advances (advances : Advances r s) (rooted : s.Rooted)
    (hhead : r.head? branch = some id) :
    ∃ new, s.head? branch = some new ∧ s.isAncestor id new = true := by
  obtain ⟨new, hnew, hreach⟩ := advances.head_moves branch id hhead
  exact ⟨new, hnew, (isAncestor_iff rooted (rooted.head_held branch new hnew)).mpr hreach⟩

end Advances

theorem SameGraph.grows (same : SameGraph r s) : Grows r s :=
  .of_eq same.commits same.heads same.tags

/-- An operation lets every branch move on, or it makes a branch and leaves the commits. -/
theorem Operation.advances_or_makes (rooted : r.Rooted) (operation : Operation) :
    Advances r (operation.perform r) ∨
      operation.MakesBranch ∧ (operation.perform r).commits = r.commits := by
  have does := operation.does r
  generalize operation.perform r = s at does ⊢
  cases does with
  | nothing same => exact Or.inl (.of_grows same.grows)
  | commit branch message same =>
      exact Or.inl (.of_grows ((Grows.addCommit r branch message).trans same.grows))
  | branch branch source id makes _ => exact Or.inr ⟨makes, rfl⟩
  | tag name id _ => exact Or.inl (.of_eq rfl rfl)
  | merge source target a b same ha hb =>
      have listed := same.rooted rooted
      exact Or.inl (.of_grows (same.grows.trans (Steady.join listed ha hb).grows))

/-! ## Every repository that was built -/

/-- What was built is well formed.  A walk in it ends, whichever commit it starts from, and it has
seen what can be reached, as the sweep over the numbers has.  Being an ancestor orders the commits.
Every operation keeps the commits, and only making a branch takes a branch away from its head. -/
theorem built_wellFormed_grows (built : Built r) :
    r.WellFormed ∧
      (∀ id, Walk.Leads r.parents (.startAt id) ⟨[], r.traverse id⟩ ∧ (r.traverse id).Nodup ∧
        ∀ x, x ∈ r.traverse id ↔ Reaches r.parents id x) ∧
      (∀ id ∈ r.ids, (r.traverse id).Perm (r.history id) ∧
        ∀ a, r.isAncestor a id = (r.traverse id).contains a) ∧
      IsPartialOrder {id // id ∈ r.ids} (fun a b => r.isAncestor a b = true) ∧
      ∀ operation : Operation, r.commits <+: (operation.perform r).commits ∧
        (¬operation.MakesBranch → ∀ branch old, r.head? branch = some old →
          ∃ new, (operation.perform r).head? branch = some new ∧
            (operation.perform r).isAncestor old new = true) := by
  have sound := built.sound
  have rooted := sound.rooted
  refine ⟨sound.wellFormed, ?_, ?_, isPartialOrder rooted, ?_⟩
  · intro id
    obtain ⟨rounds, ended⟩ := leads_finish r (.startAt id)
    have last : r.finish (.startAt id) = ⟨[], r.traverse id⟩ := by
      rw [traverse, ← ended]
    exact ⟨last ▸ rounds, nodup_traverse r id, fun x => mem_traverse_iff⟩
  · intro id hid
    have held := mem_ids_iff.mp hid
    exact ⟨perm_traverse_history rooted held, fun a =>
      isAncestor_eq_contains_traverse rooted held⟩
  · intro operation
    rcases operation.advances_or_makes rooted with advances | ⟨makes, same⟩
    · refine ⟨advances.commits_kept, fun _ branch old hhead => ?_⟩
      exact advances.head_advances (rooted.perform operation) hhead
    · exact ⟨same ▸ List.prefix_refl r.commits, fun other => absurd makes other⟩

/-- Two branches that were joined. -/
def joined : MemoryRepository :=
  [Operation.addCommit "release" "feat: Add search.", .createBranch "topic" "release",
    .addCommit "release" "fix: Handle nulls.", .addCommit "topic" "feat: Add filters.",
    .mergeBranch "topic" "release"].foldl Operation.perform .empty

theorem built_joined : Built joined :=
  .step (.mergeBranch "topic" "release")
    (.step (.addCommit "topic" "feat: Add filters.")
      (.step (.addCommit "release" "fix: Handle nulls.")
        (.step (.createBranch "topic" "release")
          (.step (.addCommit "release" "feat: Add search.") .empty True.intro)
          True.intro)
        True.intro)
      True.intro)
    True.intro

/-- The same with a tag on the merge.  The tag was made twice, and a branch that is not there was to
be merged. -/
def tagged : MemoryRepository :=
  [Operation.createTag "v1.0.0" 4, .createTag "v1.0.0" 1, .mergeBranch "gone" "release"].foldl
    Operation.perform joined

theorem built_tagged : Built tagged :=
  .step (.mergeBranch "gone" "release")
    (.step (.createTag "v1.0.0" 1)
      (.step (.createTag "v1.0.0" 4) built_joined ⟨by decide, by decide +kernel⟩)
      ⟨by decide, by decide +kernel⟩)
    True.intro

/-- A walk from the merge sees the first commit once, and a commit on top of the topic has the old
head of the topic as an ancestor. -/
theorem tagged_wellFormed_grows :
    tagged.WellFormed ∧ tagged.ids = [1, 2, 3, 4] ∧ tagged.traverse 4 = [2, 1, 3, 4] ∧
      (tagged.traverse 4).Perm (tagged.history 4) ∧ tagged.isAncestor 1 4 = true ∧
      ∃ new, (Operation.perform tagged (.addCommit "topic" "fix: Sort filters.")).head? "topic"
          = some new ∧
        (Operation.perform tagged (.addCommit "topic" "fix: Sort filters.")).isAncestor 3 new
          = true := by
  obtain ⟨wellFormed, -, same, -, grows⟩ := built_wellFormed_grows built_tagged
  have ids : tagged.ids = [1, 2, 3, 4] := by decide +kernel
  have last : 4 ∈ tagged.ids := by
    rw [ids]
    decide
  have advances := (grows (.addCommit "topic" "fix: Sort filters.")).2 not_false "topic" 3
    (by decide +kernel)
  exact ⟨wellFormed, ids, by decide +kernel, (same 4 last).1, by decide +kernel, advances⟩

end ReleasePlanner.MemoryRepository
