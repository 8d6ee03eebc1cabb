import ReleasePlanner.Proofs.Catalog
import ReleasePlanner.Proofs.Repository.Reachability
import ReleasePlanner.Proofs.Step
import ReleasePlanner.Repository.InMemory

/-!
# Sound repositories

A repository is sound when every commit it mentions is there and parents come
before their children (`Sound`).  Then reachability in it is what its walks
compute (`isAncestor_iff`, `mem_between_iff`).  Walks from branches need less:
only tags may be on commits that are not there (`Rooted`).

Every operation keeps a repository sound, and it only adds: commits and tags
stay, and a branch moves on to commits from which its old head can be reached
(`Grows`).
-/

namespace ReleasePlanner.MemoryRepository

variable {r s t : MemoryRepository} {a b id : CommitId} {branch other name message : String}
  {ps : List CommitId}

/-! ## What single effects leave -/

/-- Other files in the working tree. -/
def withFiles (r : MemoryRepository) (tree : FileTree) : MemoryRepository :=
  { r with files := some tree }

/-- A release commit on top of a branch. -/
def withRelease (r : MemoryRepository) (branch : String) (paths : List String) (message : String) :
    MemoryRepository :=
  { r.addCommit branch message with committed := r.committed ++ [(paths, message)] }

/-- Some refspecs pushed, if anything is to be pushed. -/
def withPush (r : MemoryRepository) (wanted : Bool) (refspecs : List String) : MemoryRepository :=
  if wanted then { r with pushed := r.pushed ++ refspecs } else r

/-- A fetch tried, if one was wanted. -/
def withFetch (r : MemoryRepository) (wanted : Bool) : MemoryRepository :=
  if wanted then { r with fetches := r.fetches + 1 } else r

@[simp] theorem current_withFiles (r : MemoryRepository) (tree : FileTree) :
    (r.withFiles tree).current = r.current := rfl

@[simp] theorem tag?_withFiles (r : MemoryRepository) (tree : FileTree) :
    (r.withFiles tree).tag? = r.tag? := rfl

@[simp] theorem tag?_withRelease (r : MemoryRepository) (branch : String) (paths : List String)
    (message : String) : (r.withRelease branch paths message).tag? = r.tag? := rfl

/-! ## The operations as steps -/

@[simp] theorem apply_branchHead (branch : String) :
    (Repository.branchHead branch : Step MemoryRepository CommitId).apply r
      = (r.head branch, r) := rfl

@[simp] theorem apply_findTag (name : String) :
    (Repository.findTag name : Step MemoryRepository (Option CommitId)).apply r
      = (.ok (r.tag? name), r) := rfl

@[simp] theorem apply_tagNames :
    (Repository.tagNames : Step MemoryRepository (List String)).apply r
      = (.ok (r.tags.map Prod.fst), r) := rfl

@[simp] theorem apply_isAncestor (a b : CommitId) :
    (Repository.isAncestor a b : Step MemoryRepository Bool).apply r
      = (.ok (r.isAncestor a b), r) := rfl

@[simp] theorem apply_commitsBetween (since? : Option CommitId) (upTo : CommitId) :
    (Repository.commitsBetween since? upTo : Step MemoryRepository (List LoggedCommit)).apply r
      = (.ok (r.between since? upTo), r) := rfl

@[simp] theorem apply_workTree :
    (Repository.workTree : Step MemoryRepository FileTree).apply r
      = (match r.files with
        | some tree => .ok tree
        | none => .error (.branch .noWorkTreeInMemory), r) := rfl

@[simp] theorem apply_setWorkTree (tree : FileTree) :
    (Repository.setWorkTree tree : Step MemoryRepository Unit).apply r
      = (.ok (), r.withFiles tree) := rfl

@[simp] theorem apply_currentBranch :
    (Repository.currentBranch : Step MemoryRepository String).apply r
      = (match r.current with
        | some branch => .ok branch
        | none => .error (.branch .noCurrent), r) := rfl

@[simp] theorem apply_commitPaths (paths : List String) (message : String) :
    (Repository.commitPaths paths message : Step MemoryRepository CommitId).apply r
      = match r.current with
        | none => (.error (.branch .noCurrent), r)
        | some branch =>
          (.ok r.nextId, r.withRelease branch paths message) :=
  rfl

@[simp] theorem apply_createTag (name : String) (id : CommitId) :
    (Repository.createTag name id : Step MemoryRepository Unit).apply r
      = match r.tag? name with
        | some _ => (.error (.tag (.alreadyExists name)), r)
        | none => (.ok (), r.addTag name id) := rfl

@[simp] theorem apply_push (remote : String) (refspecs : List String) :
    (Repository.push remote refspecs : Step MemoryRepository Unit).apply r
      = if r.pushesFail then (.error (.remote (.rejected remote)), r)
        else (.ok (), r.withPush true refspecs) := rfl

@[simp] theorem apply_fetch (remote : String) :
    (Repository.fetch remote : Step MemoryRepository Unit).apply r
      = if r.fetchesFail then (.error (.remote (.unreachable remote)), r.withFetch true)
        else (.ok (), r.withFetch true) := rfl

@[simp] theorem apply_mergeBranch (source target : String) :
    (Repository.mergeBranch source target : Step MemoryRepository CommitId).apply r
      = (mergeBranch source target).apply r := rfl

/-! ## Looking at what was changed -/

theorem commit?_succ (r : MemoryRepository) (n : Nat) : r.commit? (n + 1) = r.commits[n]? := rfl

theorem commit?_insert (r : MemoryRepository) (message : String) (ps : List CommitId)
    (id : CommitId) :
    (r.insert message ps).commit? id
      = if id = r.nextId then some ⟨message, ps⟩ else r.commit? id := by
  cases id with
  | zero => rfl
  | succ n =>
      rw [commit?_succ, commit?_succ, insert, nextId]
      split
      next last =>
        rw [Nat.succ.inj last]
        exact List.getElem?_concat_length
      next earlier =>
        have hne : n ≠ r.commits.length := fun heq => earlier (congrArg Nat.succ heq)
        rcases Nat.lt_or_gt_of_ne hne with hlt | hgt
        · exact List.getElem?_append_left hlt
        · rw [List.getElem?_eq_none (Nat.le_of_lt hgt), List.getElem?_eq_none]
          simpa using Nat.succ_le_of_lt hgt

theorem parents_insert (r : MemoryRepository) (message : String) (ps : List CommitId)
    (id : CommitId) :
    (r.insert message ps).parents id = if id = r.nextId then ps else r.parents id := by
  rw [parents, parents, commit?_insert]
  split <;> rfl

theorem head?_of_head (h : r.head branch = .ok id) : r.head? branch = some id := by
  rw [MemoryRepository.head] at h
  split at h
  next found =>
    cases h
    exact found
  next => cases h

theorem head_of_head? (h : r.head? branch = some id) : r.head branch = .ok id := by
  rw [MemoryRepository.head, h]

/-- A merge fails and leaves everything as it was, or it is listed and joins the two branches. -/
theorem mergeBranch_cases (r : MemoryRepository) (source target : String) :
    (∃ e, (mergeBranch source target).apply r = (.error e, r)) ∨
      ∃ a b, r.head? source = some a ∧ r.head? target = some b ∧
        ∃ joined, { r with merges := r.merges ++ [(source, target)] }.join source target a b
            = joined ∧
          (mergeBranch source target).apply r = (.ok joined.1, joined.2) := by
  rw [mergeBranch, Step.apply_make]
  split
  next => exact Or.inl ⟨_, rfl⟩
  next =>
    split
    next => exact Or.inl ⟨_, rfl⟩
    next => exact Or.inl ⟨_, rfl⟩
    next a b ha hb =>
      exact Or.inr ⟨a, b, head?_of_head ha, head?_of_head hb, _, rfl, rfl⟩

theorem head?_setHead (r : MemoryRepository) (branch : String) (id : CommitId) (other : String) :
    (r.setHead branch id).head? other = if other = branch then some id else r.head? other := by
  rw [head?, head?, setHead]
  induction r.heads with
  | nil => exact Catalog.lookup_cons_eq_ite other (branch, id) []
  | cons e es ih =>
      simp only at ih ⊢
      rw [assign]
      split
      next same =>
        rw [Catalog.lookup_cons_eq_ite, Catalog.lookup_cons_eq_ite, same]
        split <;> rfl
      next different =>
        rw [Catalog.lookup_cons_eq_ite, Catalog.lookup_cons_eq_ite, ih]
        by_cases found : other = e.1
        · have hne : other ≠ branch := fun same => different (found.symm.trans same)
          rw [if_pos found, if_pos found, if_neg hne]
        · rw [if_neg found, if_neg found]

theorem head?_addCommit (r : MemoryRepository) (branch message other : String) :
    (r.addCommit branch message).head? other
      = if other = branch then some r.nextId else r.head? other :=
  head?_setHead _ branch r.nextId other

theorem tag?_addTag (r : MemoryRepository) (name : String) (id : CommitId) (other : String) :
    (r.addTag name id).tag? other = if other = name then some id else r.tag? other :=
  Catalog.lookup_put name other id r.tags

/-! ## Commits that are there -/

/-- The repository has a commit with this number. -/
def Holds (r : MemoryRepository) (id : CommitId) : Prop :=
  0 < id ∧ id ≤ r.commits.length

theorem holds_iff : r.Holds id ↔ ∃ c, r.commit? id = some c := by
  cases id with
  | zero => simp [Holds, commit?]
  | succ n =>
      rw [Holds, commit?_succ, Nat.succ_le_iff]
      constructor
      · rintro ⟨-, hlt⟩
        exact ⟨_, List.getElem?_eq_getElem hlt⟩
      · rintro ⟨c, found⟩
        exact ⟨Nat.succ_pos n, (List.getElem?_eq_some_iff.mp found).1⟩

/-- Only a commit that is there has parents. -/
theorem holds_of_parent (hparent : a ∈ r.parents id) : r.Holds id := by
  rw [parents] at hparent
  cases found : r.commit? id with
  | none => simp [found] at hparent
  | some c => exact holds_iff.mpr ⟨c, found⟩

theorem holds_insert_iff : (r.insert message ps).Holds id ↔ id = r.nextId ∨ r.Holds id := by
  rw [holds_iff, holds_iff, commit?_insert]
  split
  next new => simp [new]
  next old => simp [old]

theorem lt_nextId (held : r.Holds id) : id < r.nextId :=
  Nat.lt_succ_of_le held.2

/-! ## Rooted repositories -/

/-- Every branch points at a commit that is there, and parents come before their children. -/
structure Rooted (r : MemoryRepository) : Prop where
  descending : Descending r.parents
  head_held : ∀ branch id, r.head? branch = some id → r.Holds id

namespace Rooted

/-- A repository without commits and branches has no roots to miss. -/
theorem blank (commits : r.commits = []) (heads : r.heads = []) : r.Rooted where
  descending := by
    intro child parent hparent
    have held := holds_of_parent hparent
    rw [Holds, commits] at held
    exact absurd held.1 (Nat.not_lt.mpr held.2)
  head_held branch id hhead := by
    rw [head?, heads] at hhead
    cases hhead

/-- Only commits and heads count. -/
theorem congr (rooted : r.Rooted) (commits : s.commits = r.commits) (heads : s.heads = r.heads) :
    s.Rooted := by
  have hparents : s.parents = r.parents := by
    funext id
    rw [parents, parents, commit?, commit?, commits]
  refine ⟨by rw [hparents]; exact rooted.descending, ?_⟩
  intro branch id hhead
  rw [Holds, commits]
  rw [head?, heads] at hhead
  exact rooted.head_held branch id hhead

theorem insert (rooted : r.Rooted) (hps : ∀ p ∈ ps, r.Holds p) : (r.insert message ps).Rooted where
  descending := by
    intro child parent hparent
    rw [parents_insert] at hparent
    split at hparent
    next new =>
      rw [new]
      exact ⟨(hps parent hparent).1, lt_nextId (hps parent hparent)⟩
    next => exact rooted.descending child parent hparent
  head_held branch id hhead := holds_insert_iff.mpr (Or.inr (rooted.head_held branch id hhead))

theorem setHead (rooted : r.Rooted) (held : r.Holds id) : (r.setHead branch id).Rooted where
  descending := rooted.descending
  head_held other found hhead := by
    rw [head?_setHead] at hhead
    split at hhead
    next =>
      cases hhead
      exact held
    next => exact rooted.head_held other found hhead

theorem addCommit (rooted : r.Rooted) : (r.addCommit branch message).Rooted := by
  refine Rooted.setHead (rooted.insert ?_) (holds_insert_iff.mpr (Or.inl rfl))
  intro p hp
  exact rooted.head_held branch p (Option.mem_toList.mp hp)

theorem join (rooted : r.Rooted) (ha : r.Holds a) (hb : r.Holds b) :
    (r.join branch other a b).2.Rooted := by
  rw [MemoryRepository.join]
  split
  next => exact rooted
  next =>
    split
    next => exact rooted.setHead ha
    next =>
      refine Rooted.setHead (rooted.insert ?_) (holds_insert_iff.mpr (Or.inl rfl))
      intro p hp
      rcases List.mem_cons.mp hp with rfl | hp
      · exact hb
      · rw [List.mem_singleton.mp hp]
        exact ha

/-- What can be reached from a commit that is there is there. -/
theorem holds_of_reaches (rooted : r.Rooted) (held : r.Holds a) (h : Reaches r.parents a b) :
    r.Holds b :=
  ⟨h.pos rooted.descending held.1, Nat.le_trans (h.le rooted.descending) held.2⟩

end Rooted

/-! ## Sound repositories -/

/-- Every commit that is mentioned is there, and parents come before their children. -/
structure Sound (r : MemoryRepository) : Prop where
  descending : Descending r.parents
  head_held : ∀ branch id, r.head? branch = some id → r.Holds id
  tag_held : ∀ name id, r.tag? name = some id → r.Holds id

/-- Where every branch points at a commit, soundness is a matter of the tags. -/
theorem Rooted.sound (rooted : r.Rooted) (held : ∀ name id, r.tag? name = some id → r.Holds id) :
    r.Sound :=
  ⟨rooted.descending, rooted.head_held, held⟩

namespace Sound

theorem rooted (sound : r.Sound) : r.Rooted :=
  ⟨sound.descending, sound.head_held⟩

/-- A repository without commits, branches and tags mentions nothing. -/
theorem blank (commits : r.commits = []) (heads : r.heads = []) (tags : r.tags = []) :
    r.Sound := by
  refine (Rooted.blank commits heads).sound ?_
  intro name id htag
  rw [tag?, tags] at htag
  cases htag

theorem holds_of_reaches (sound : r.Sound) (held : r.Holds a) (h : Reaches r.parents a b) :
    r.Holds b :=
  sound.rooted.holds_of_reaches held h

/-- Only commits, heads and tags count. -/
theorem congr (sound : r.Sound) (commits : s.commits = r.commits) (heads : s.heads = r.heads)
    (tags : s.tags = r.tags) : s.Sound := by
  refine (sound.rooted.congr commits heads).sound ?_
  intro name id htag
  rw [Holds, commits]
  rw [tag?, tags] at htag
  exact sound.tag_held name id htag

theorem setHead (sound : r.Sound) (held : r.Holds id) : (r.setHead branch id).Sound :=
  (sound.rooted.setHead held).sound sound.tag_held

theorem addTag (sound : r.Sound) (held : r.Holds id) : (r.addTag name id).Sound where
  descending := sound.descending
  head_held := sound.head_held
  tag_held other found htag := by
    rw [tag?_addTag] at htag
    split at htag
    next =>
      cases htag
      exact held
    next => exact sound.tag_held other found htag

theorem addCommit (sound : r.Sound) : (r.addCommit branch message).Sound :=
  sound.rooted.addCommit.sound fun name id htag =>
    holds_insert_iff.mpr (Or.inr (sound.tag_held name id htag))

theorem join (sound : r.Sound) (ha : r.Holds a) (hb : r.Holds b) :
    (r.join branch other a b).2.Sound := by
  refine (sound.rooted.join ha hb).sound ?_
  rw [MemoryRepository.join]
  split
  next => exact sound.tag_held
  next =>
    split
    next => exact sound.tag_held
    next =>
      exact fun name id htag => holds_insert_iff.mpr (Or.inr (sound.tag_held name id htag))

end Sound

/-! ## What the walks compute -/

/-- The second commit is an ancestor when it can be reached. -/
theorem isAncestor_iff (rooted : r.Rooted) (held : r.Holds b) :
    r.isAncestor a b = true ↔ Reaches r.parents b a := by
  rw [isAncestor, List.contains_iff_mem, history, mem_ancestors_iff rooted.descending held.1]

theorem info?_eq_some {c : LoggedCommit} (found : r.info? id = some c) : c.id = id := by
  obtain ⟨commit, -, rfl⟩ := Option.map_eq_some_iff.mp found
  rfl

/-- The commits between two others are those that can be reached from the second and not from the
first. -/
theorem mem_between_iff (rooted : r.Rooted) {since? : Option CommitId}
    (hsince : ∀ id ∈ since?, r.Holds id) (held : r.Holds b) {c : LoggedCommit} :
    c ∈ r.between since? b ↔
      r.info? c.id = some c ∧ Reaches r.parents b c.id ∧
        ∀ id ∈ since?, ¬Reaches r.parents id c.id := by
  have hhidden : ∀ id, id ∈ (since?.map r.history).getD [] ↔
      ∃ first ∈ since?, Reaches r.parents first id := by
    intro id
    cases since? with
    | none => simp
    | some first =>
        have positive := (hsince first rfl).1
        simp [history, mem_ancestors_iff rooted.descending positive]
  have hmem : ∀ id, id ∈ (withoutAll ((since?.map r.history).getD []) (r.history b)).reverse ↔
      Reaches r.parents b id ∧ ∀ first ∈ since?, ¬Reaches r.parents first id := by
    intro id
    rw [List.mem_reverse, withoutAll, List.mem_filter, history,
      mem_ancestors_iff rooted.descending held.1, Bool.not_eq_true', ← Bool.not_eq_true,
      List.contains_iff_mem, hhidden]
    simp
  rw [between, List.mem_filterMap]
  constructor
  · rintro ⟨id, hid, found⟩
    have same := info?_eq_some found
    subst same
    exact ⟨found, (hmem _).mp hid⟩
  · rintro ⟨found, hid⟩
    exact ⟨c.id, (hmem _).mpr hid, found⟩

/-- The commits between two others come in the order of their numbers. -/
theorem pairwise_between (r : MemoryRepository) (since? : Option CommitId) (b : CommitId) :
    (r.between since? b).Pairwise fun c d => c.id < d.id := by
  have hids : ((withoutAll ((since?.map r.history).getD []) (r.history b)).reverse).Pairwise
      (· < ·) :=
    List.pairwise_reverse.mpr ((pairwise_ancestors b).filter _)
  refine List.Pairwise.filterMap r.info? ?_ hids
  intro x y hxy c hc d hd
  rw [info?_eq_some hc, info?_eq_some hd]
  exact hxy

/-! ## Growing repositories -/

/-- Commits and tags stay, and every branch moves on from its head. -/
structure Grows (r s : MemoryRepository) : Prop where
  commits_kept : r.commits <+: s.commits
  tags_kept : ∀ name id, r.tag? name = some id → s.tag? name = some id
  head_moves : ∀ branch id, r.head? branch = some id →
    ∃ new, s.head? branch = some new ∧ Reaches s.parents new id

theorem commit?_of_prefix (kept : r.commits <+: s.commits) {c : MemoryCommit}
    (found : r.commit? id = some c) : s.commit? id = some c := by
  cases id with
  | zero => cases found
  | succ n =>
      rw [commit?_succ] at found ⊢
      obtain ⟨hlt, rfl⟩ := List.getElem?_eq_some_iff.mp found
      exact List.prefix_iff_getElem?.mp kept n hlt

namespace Grows

theorem holds (grows : Grows r s) (held : r.Holds id) : s.Holds id :=
  ⟨held.1, Nat.le_trans held.2 grows.commits_kept.length_le⟩

theorem parents_kept (grows : Grows r s) (held : r.Holds id) : s.parents id = r.parents id := by
  obtain ⟨c, found⟩ := holds_iff.mp held
  rw [parents, parents, found, commit?_of_prefix grows.commits_kept found]

theorem reaches (grows : Grows r s) (reach : Reaches r.parents a b) : Reaches s.parents a b := by
  refine reach.mono ?_
  intro child parent hparent
  rwa [grows.parents_kept (holds_of_parent hparent)]

/-- Old commits reach what they reached before. -/
theorem reaches_iff (grows : Grows r s) (rooted : r.Rooted) (held : r.Holds a) :
    Reaches s.parents a b ↔ Reaches r.parents a b := by
  refine ⟨fun h => ?_, grows.reaches⟩
  induction h with
  | refl => exact Reaches.refl a
  | tail _ hparent ih =>
      rw [grows.parents_kept (rooted.holds_of_reaches held ih)] at hparent
      exact ih.trans (Reaches.of_parent hparent)

theorem refl (r : MemoryRepository) : Grows r r where
  commits_kept := List.prefix_refl _
  tags_kept _ _ htag := htag
  head_moves _ id hhead := ⟨id, hhead, Reaches.refl id⟩

theorem trans (first : Grows r s) (second : Grows s t) : Grows r t where
  commits_kept := first.commits_kept.trans second.commits_kept
  tags_kept name id htag := second.tags_kept name id (first.tags_kept name id htag)
  head_moves branch id hhead := by
    obtain ⟨middle, hmiddle, hreach⟩ := first.head_moves branch id hhead
    obtain ⟨new, hnew, hreach'⟩ := second.head_moves branch middle hmiddle
    exact ⟨new, hnew, hreach'.trans (second.reaches hreach)⟩

/-- Only commits, heads and tags count. -/
theorem of_eq (commits : s.commits = r.commits) (heads : s.heads = r.heads)
    (tags : s.tags = r.tags) : Grows r s where
  commits_kept := commits ▸ List.prefix_refl r.commits
  tags_kept name id htag := by
    rwa [tag?, tags]
  head_moves branch id hhead := by
    refine ⟨id, ?_, Reaches.refl id⟩
    rwa [head?, heads]

theorem insert (r : MemoryRepository) (message : String) (ps : List CommitId) :
    Grows r (r.insert message ps) where
  commits_kept := List.prefix_append _ _
  tags_kept _ _ htag := htag
  head_moves _ id hhead := ⟨id, hhead, Reaches.refl id⟩

theorem addTag (fresh : r.tag? name = none) : Grows r (r.addTag name id) where
  commits_kept := List.prefix_refl _
  tags_kept other found htag := by
    rw [tag?_addTag, if_neg]
    · exact htag
    · rintro rfl
      rw [fresh] at htag
      cases htag
  head_moves _ id hhead := ⟨id, hhead, Reaches.refl id⟩

/-- A branch may move to a commit from which its head can be reached. -/
theorem setHead (hmove : ∀ old, r.head? branch = some old → Reaches r.parents id old) :
    Grows r (r.setHead branch id) where
  commits_kept := List.prefix_refl _
  tags_kept _ _ htag := htag
  head_moves other old hhead := by
    rw [head?_setHead]
    split
    next same =>
      rw [same] at hhead
      exact ⟨id, rfl, hmove old hhead⟩
    next => exact ⟨old, hhead, Reaches.refl old⟩

theorem addCommit (r : MemoryRepository) (branch message : String) :
    Grows r (r.addCommit branch message) := by
  refine (Grows.insert r message (r.head? branch).toList).trans (Grows.setHead ?_)
  intro old hhead
  refine Reaches.of_parent ?_
  rw [parents_insert, if_pos rfl]
  exact Option.mem_toList.mpr hhead

theorem join (rooted : r.Rooted) (ha : r.Holds a) (hhead : r.head? other = some b) :
    Grows r (r.join branch other a b).2 := by
  rw [MemoryRepository.join]
  split
  next => exact Grows.refl r
  next =>
    split
    next behind =>
      refine Grows.setHead ?_
      intro old hold
      rw [hhead] at hold
      cases hold
      exact (isAncestor_iff rooted ha).mp behind
    next =>
      refine (Grows.insert r _ _).trans (Grows.setHead ?_)
      intro old hold
      rw [show (r.insert (mergeMessage branch other) [b, a]).head? other = r.head? other from rfl,
        hhead] at hold
      cases hold
      refine Reaches.of_parent ?_
      rw [parents_insert, if_pos rfl]
      exact List.mem_cons_self

end Grows

end ReleasePlanner.MemoryRepository
