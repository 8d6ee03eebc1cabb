import ReleasePlanner.Proofs.Step
import ReleasePlanner.Workflow.Publish

/-!
# The changelog as a file

A file that is put at a place is found there (`FileTree.node?_put`), and put in a
directory it leaves everything else as it was (`FileTree.node?_put_of_ne`).  So the
path of the file leads to the same place afterwards (`FileTree.locate_put`).

A changelog that can be found, or made, is therefore updated in its place, with
one fragment after the other.  Each update writes what `Changelog.prepend` makes
of the text before, and a changelog that is not there counts as an empty one
(`Changelog.Holds.exists_updates`).  No other changelog can be updated
(`Changelog.exists_holds_of_update`).

When nothing is configured, the changelog lies in the working tree itself, where
only a directory of its name is in the way.  Where it was written once it can be
written again (`Changelog.exists_update_again`).
-/

namespace ReleasePlanner

variable {t u written : FileTree} {path first : String} {place q start found : Place} {n : Node}
  {text : Option String}

namespace FileTree

/-! ## Putting something at a place -/

theorem find?_map_put {nodes : List (Place × Node)}
    (there : (nodes.any fun m => m.1 == place) = true) (n : Node) :
    (nodes.map fun m => if m.1 == place then (place, n) else m).find? (fun m => m.1 == place)
      = some (place, n) := by
  induction nodes with
  | nil => cases there
  | cons m nodes ih =>
      rw [List.map_cons, List.find?_cons]
      cases here : m.1 == place with
      | true => simp
      | false =>
          rw [List.any_cons, here, Bool.false_or] at there
          simp only [Bool.false_eq_true, if_false, here]
          exact ih there

/-- What is put at a place is found there. -/
theorem node?_put (t : FileTree) (hne : place ≠ []) (n : Node) :
    (t.put place n).node? place = some n := by
  have filled : ¬place.isEmpty = true := by simpa using hne
  rw [node?, if_neg filled, put]
  cases there : t.nodes.any fun m => m.1 == place with
  | true =>
      rw [if_pos rfl]
      simp only [find?_map_put there]
  | false =>
      have absent : t.nodes.find? (fun m => m.1 == place) = none := by
        rw [List.find?_eq_none]
        intro m hm here
        have found : (t.nodes.any fun m => m.1 == place) = true :=
          List.any_eq_true.mpr ⟨m, hm, here⟩
        rw [there] at found
        cases found
      rw [if_neg Bool.false_ne_true]
      simp [List.find?_append, absent]

theorem find?_map_put_of_ne {nodes : List (Place × Node)} (other : q ≠ place) (n : Node) :
    (nodes.map fun m => if m.1 == place then (place, n) else m).find? (fun m => m.1 == q)
      = nodes.find? fun m => m.1 == q := by
  have elsewhere : (place == q) = false := beq_eq_false_iff_ne.mpr (Ne.symm other)
  induction nodes with
  | nil => rfl
  | cons m nodes ih =>
      rw [List.map_cons, List.find?_cons, List.find?_cons, ih]
      cases here : m.1 == place with
      | true =>
          rw [eq_of_beq here, if_pos rfl, elsewhere]
      | false => rw [if_neg Bool.false_ne_true]

theorem any_map_put (test : Place → Bool) (nodes : List (Place × Node)) (n : Node) :
    ((nodes.map fun m => if m.1 == place then (place, n) else m).any fun m => test m.1)
      = nodes.any fun m => test m.1 := by
  rw [List.any_map]
  congr 1
  funext m
  by_cases here : m.1 = place
  · simp [here]
  · simp [here]

theorem isBelow_iff {dir : Place} : isBelow dir place = true ↔ dir <+: place ∧ dir ≠ place := by
  rw [isBelow, Bool.and_eq_true, List.isPrefixOf_iff_prefix, decide_eq_true_eq]
  constructor
  · rintro ⟨starts, shorter⟩
    refine ⟨starts, ?_⟩
    rintro rfl
    exact Nat.lt_irrefl _ shorter
  · rintro ⟨starts, other⟩
    refine ⟨starts, Nat.lt_of_le_of_ne starts.length_le fun same => ?_⟩
    exact other (starts.eq_of_length same)

/-- What is above a place is its directory or above it. -/
theorem isPrefix_dropLast {dir : Place} (above : dir <+: place) (other : dir ≠ place) :
    dir <+: place.dropLast := by
  have filled : place ≠ [] := by
    rintro rfl
    exact other (List.prefix_nil.mp above)
  rw [← List.dropLast_concat_getLast filled] at above other
  exact (List.prefix_concat_iff.mp above).resolve_left other

/-- Something lies below what is above a directory. -/
theorem any_isBelow_of_directory (there : t.node? place = some .directory)
    (above : q <+: place) (filled : q ≠ [])
    (unlisted : t.nodes.find? (fun m => m.1 == q) = none) :
    (t.nodes.any fun m => isBelow q m.1) = true := by
  by_cases same : q = place
  · subst same
    rw [node?, if_neg (by simpa using filled), unlisted] at there
    simpa using there
  · have inside : place ≠ [] := by
      rintro rfl
      exact filled (List.prefix_nil.mp above)
    rw [node?, if_neg (by simpa using inside)] at there
    rw [List.any_eq_true]
    split at there
    next m listed =>
      have here : m.1 = place := by simpa using List.find?_some listed
      exact ⟨m, List.mem_of_find?_eq_some listed, isBelow_iff.mpr (here ▸ ⟨above, same⟩)⟩
    next =>
      split at there
      next deeper =>
        obtain ⟨m, hm, below⟩ := List.any_eq_true.mp deeper
        obtain ⟨starts, other⟩ := isBelow_iff.mp below
        refine ⟨m, hm, isBelow_iff.mpr ⟨above.trans starts, ?_⟩⟩
        rintro rfl
        exact other (starts.eq_of_length (Nat.le_antisymm starts.length_le above.length_le))
      next => cases there

/-- What is put in a directory leaves everything else as it was. -/
theorem node?_put_of_ne (inside : t.node? place.dropLast = some .directory) (other : q ≠ place)
    (n : Node) : (t.put place n).node? q = t.node? q := by
  have elsewhere : (place == q) = false := beq_eq_false_iff_ne.mpr (Ne.symm other)
  rw [node?, node?]
  by_cases root : q.isEmpty = true
  · rw [if_pos root, if_pos root]
  · rw [if_neg root, if_neg root, put]
    cases known : t.nodes.any fun m => m.1 == place with
    | true => simp only [if_true, find?_map_put_of_ne other, any_map_put]
    | false =>
        simp only [Bool.false_eq_true, if_false, List.find?_append, List.find?_singleton, elsewhere,
          List.any_append, List.any_cons, List.any_nil, Bool.or_false]
        cases hfind : t.nodes.find? fun m => m.1 == q with
        | some m => rfl
        | none =>
            cases below : isBelow q place with
            | false =>
                rw [Bool.or_false]
                rfl
            | true =>
                -- What is above the place was a directory before.
                obtain ⟨starts, apart⟩ := isBelow_iff.mp below
                have above := isPrefix_dropLast starts apart
                rw [any_isBelow_of_directory inside above (by simpa using root) hfind,
                  Bool.or_true]
                rfl

/-! ## Finding the place again -/

/-- Where every directory stays one, a path can be gone along as before. -/
theorem walk_of_kept {names : List String}
    (kept : ∀ q, t.node? q = some .directory → u.node? q = some .directory)
    (walked : t.walk start names = .ok found) : u.walk start names = .ok found := by
  induction names generalizing start with
  | nil => exact walked
  | cons name names ih =>
      rw [walk] at walked ⊢
      split at walked
      next => cases walked
      next => cases walked
      next here =>
        rw [kept start here]
        by_cases stays : name = "."
        · simp only [if_pos stays] at walked ⊢
          exact ih walked
        · simp only [if_neg stays] at walked ⊢
          by_cases up : name = ".."
          · simp only [if_pos up] at walked ⊢
            split at walked
            next => cases walked
            next inside => exact (if_neg inside).trans (ih walked)
          · simp only [if_neg up] at walked ⊢
            split at walked
            next => cases walked
            next short => exact (if_neg short).trans (ih walked)

/-- Everything above a place that was walked to is a directory. -/
theorem directory_of_walk {names : List String}
    (above : ∀ q, q <+: start ∧ q ≠ start → t.node? q = some .directory)
    (walked : t.walk start names = .ok found) (q : Place) (below : q <+: found ∧ q ≠ found) :
    t.node? q = some .directory := by
  induction names generalizing start with
  | nil =>
      cases walked
      exact above q below
  | cons name names ih =>
      rw [walk] at walked
      split at walked
      next => cases walked
      next => cases walked
      next here =>
        have upTo : ∀ q, q <+: start → t.node? q = some .directory := by
          intro q starts
          by_cases same : q = start
          · rw [same, here]
          · exact above q ⟨starts, same⟩
        by_cases stays : name = "."
        · rw [if_pos stays] at walked
          exact ih above walked
        rw [if_neg stays] at walked
        by_cases up : name = ".."
        · rw [if_pos up] at walked
          split at walked
          next => cases walked
          next => exact ih (fun q h => upTo q (h.1.trans (List.dropLast_prefix start))) walked
        rw [if_neg up] at walked
        split at walked
        next => cases walked
        next =>
          refine ih (fun q h => upTo q ?_) walked
          exact (List.prefix_concat_iff.mp h.1).resolve_left h.2

/-- A path leads where its names do, which is a directory where the path ends in a slash. -/
theorem locate_eq_ok :
    t.locate start path = .ok place ↔
      ¬(path.toList.head? == some '/' || path = "") = true ∧
        t.walk start (pathNames path) = .ok place ∧
        (t.node? place = some .directory ∨ (path.toList.getLast? == some '/') = false) := by
  rw [locate]
  split
  next refused => simp [refused]
  next relative =>
    rw [Result.bind_eq_ok]
    constructor
    · rintro ⟨reached, walked, h⟩
      have settled : reached = place ∧ (t.node? reached = some .directory ∨
          (path.toList.getLast? == some '/') = false) := by
        simp only at h
        split at h
        next =>
          split at h
          next => cases h
          next file => exact ⟨Except.ok.inj h, .inr ((Bool.not_eq_true _).mp file)⟩
        next here => exact ⟨Except.ok.inj h, .inl here⟩
        next =>
          split at h
          next => cases h
          next file => exact ⟨Except.ok.inj h, .inr ((Bool.not_eq_true _).mp file)⟩
      obtain ⟨rfl, ending⟩ := settled
      exact ⟨relative, walked, ending⟩
    · rintro ⟨-, walked, here | file⟩
      · exact ⟨place, walked, by simp only [here]⟩
      · refine ⟨place, walked, ?_⟩
        simp only [file, Bool.false_eq_true, if_false]
        split <;> rfl

/-- A path leads to a place in a directory. -/
theorem parent_of_locate (located : t.locate [] path = .ok place) :
    t.node? place.dropLast = some .directory := by
  by_cases root : place = []
  · rw [root]
    rfl
  · have starts : ∀ q : Place, q <+: [] ∧ q ≠ [] → t.node? q = some .directory :=
      fun q h => absurd (List.prefix_nil.mp h.1) h.2
    refine directory_of_walk starts (locate_eq_ok.mp located).2.1 _
      ⟨List.dropLast_prefix place, fun same => ?_⟩
    have shorter := congrArg List.length same
    rw [List.length_dropLast] at shorter
    exact root (List.eq_nil_of_length_eq_zero (by omega))

/-- A file that is written lies where its path led before. -/
theorem locate_put (located : t.locate start path = .ok place)
    (inside : t.node? place.dropLast = some .directory) (there : t.node? place ≠ some .directory)
    (text : String) : (t.put place (.file text)).locate start path = .ok place := by
  have kept : ∀ q, t.node? q = some .directory →
      (t.put place (.file text)).node? q = some .directory := fun q hq =>
    (node?_put_of_ne inside (by rintro rfl; exact there hq) _).trans hq
  obtain ⟨relative, walked, ending⟩ := locate_eq_ok.mp located
  exact locate_eq_ok.mpr ⟨relative, walk_of_kept kept walked, .inr (ending.resolve_left there)⟩

end FileTree

/-! ## One update after the other -/

namespace Changelog

/-- The path leads to a place in a directory, and there is a changelog with this text, or
nothing. -/
structure Holds (t : FileTree) (path : String) (place : Place) (text : Option String) : Prop where
  located : t.locate [] path = .ok place
  parent : t.node? place.dropLast = some .directory
  node_eq : t.node? place = text.map .file

/-- A changelog with one more fragment on top. -/
def putOnTop (text : Option String) (fragment : String) : Option String :=
  some (prepend (text.getD "") fragment)

namespace Holds

theorem node_ne (h : Holds t path place text) : t.node? place ≠ some .directory := by
  rw [h.node_eq]
  cases text with
  | none => simp
  | some text => simp

theorem path_ne (h : Holds t path place text) : path ≠ "" := by
  rintro rfl
  have located := h.located
  rw [FileTree.locate, if_pos (by decide)] at located
  cases located

theorem place_ne (h : Holds t path place text) : place ≠ [] := by
  rintro rfl
  exact h.node_ne rfl

theorem update_eq (h : Holds t path place text) (fragment : String) :
    update t path fragment = .ok (t.put place (.file (prepend (text.getD "") fragment))) := by
  rw [update, if_neg h.path_ne, h.located]
  cases text with
  | none => simp [bind, Except.bind, existingAt, FileTree.write, h.node_eq, h.parent]
  | some text => simp [bind, Except.bind, existingAt, FileTree.read, FileTree.write, h.node_eq]

/-- A changelog that is written lies where it was. -/
theorem put (h : Holds t path place text) (new : String) :
    Holds (t.put place (.file new)) path place (some new) := by
  have parent : place.dropLast ≠ place := fun same =>
    h.node_ne (same ▸ h.parent)
  exact ⟨FileTree.locate_put h.located h.parent h.node_ne _,
    (FileTree.node?_put_of_ne h.parent parent _).trans h.parent, FileTree.node?_put t h.place_ne _⟩

/-- The changelog is updated where it is. -/
theorem exists_update (h : Holds t path place text) (fragment : String) :
    ∃ after, update t path fragment = .ok after ∧
      Holds after path place (putOnTop text fragment) :=
  ⟨_, h.update_eq fragment, h.put _⟩

/-- Any number of fragments can be put on top of the changelog. -/
theorem exists_updates (h : Holds t path place text) (fragments : List String) :
    ∃ after, fragments.foldlM (fun t fragment => update t path fragment) t = .ok after ∧
      Holds after path place (fragments.foldl putOnTop text) := by
  induction fragments generalizing t text with
  | nil => exact ⟨t, rfl, h⟩
  | cons fragment fragments ih =>
      obtain ⟨next, updated, hnext⟩ := h.exists_update fragment
      obtain ⟨after, run, hafter⟩ := ih hnext
      rw [List.foldlM_cons, updated]
      exact ⟨after, run, hafter⟩

end Holds

/-- What was updated is a changelog, or the place of one. -/
theorem exists_holds_of_update (updated : update t path first = .ok written) :
    ∃ place text, Holds t path place text := by
  rw [update] at updated
  split at updated
  next =>
    -- The empty path leads to the working tree itself, which is a directory.
    simp [bind, Except.bind, pure, Except.pure, existingAt, FileTree.read, FileTree.node?]
      at updated
  next =>
    obtain ⟨place, located, h⟩ := Result.bind_eq_ok.mp updated
    obtain ⟨existing, there, -⟩ := Result.bind_eq_ok.mp h
    have parent := FileTree.parent_of_locate located
    cases found : t.node? place with
    | none => exact ⟨place, none, located, parent, found⟩
    | some node =>
        cases node with
        | file text => exact ⟨place, some text, located, parent, found⟩
        | directory => simp [existingAt, FileTree.read, found] at there

/-! ## The place when nothing is configured -/

/-- Nothing keeps the changelog from being found, since it lies in the working tree itself. -/
theorem locate_standard (t : FileTree) :
    t.locate [] Config.standard.release.changelogFile = .ok ["CHANGELOG.md"] := by
  have names : FileTree.pathNames Config.standard.release.changelogFile = ["CHANGELOG.md"] := by
    decide
  have short : ¬255 < "CHANGELOG.md".utf8ByteSize := by decide
  refine FileTree.locate_eq_ok.mpr ⟨by decide, ?_, .inr (by decide)⟩
  simp [names, FileTree.walk, FileTree.node?, short]

/-- The changelog was written only where no directory has its name. -/
theorem node_ne_of_update
    (h : update t Config.standard.release.changelogFile first = .ok written) :
    t.node? ["CHANGELOG.md"] ≠ some .directory := by
  intro directory
  rw [update, if_neg (by decide), locate_standard] at h
  simp [bind, Except.bind, existingAt, FileTree.read, directory] at h

theorem exists_holds_standard (h : t.node? ["CHANGELOG.md"] ≠ some .directory) :
    ∃ text, Holds t Config.standard.release.changelogFile ["CHANGELOG.md"] text := by
  cases found : t.node? ["CHANGELOG.md"] with
  | none => exact ⟨none, locate_standard t, rfl, found⟩
  | some node =>
      cases node with
      | directory => exact absurd found h
      | file text => exact ⟨some text, locate_standard t, rfl, found⟩

/-- What could be written once can be written again. -/
theorem exists_update_again
    (h : update t Config.standard.release.changelogFile first = .ok written) (second : String) :
    ∃ again, update written Config.standard.release.changelogFile second = .ok again := by
  obtain ⟨text, before⟩ := exists_holds_standard (node_ne_of_update h)
  obtain ⟨after, updated, holds⟩ := before.exists_update first
  obtain rfl : written = after := Except.ok.inj (h.symm.trans updated)
  obtain ⟨again, updated, -⟩ := holds.exists_update second
  exact ⟨again, updated⟩

end Changelog

end ReleasePlanner
