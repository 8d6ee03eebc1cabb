import ReleasePlanner.Proofs.Changelog
import ReleasePlanner.Proofs.Text.Line

/-!
# The title of a changelog

A changelog keeps its history when nothing is taken from it but a first line
that is the title, and the line feeds behind this line (`Changelog.history`).

An update looks for the words of the title and not for the line.  So the history
is kept exactly when no other character than a line feed follows these words at
the start of the text.  Of a longer first line the words are cut off
(`Changelog.update_keeps_history_iff`, `Changelog.longer_title_cut`).

An update works exactly where there is a place for a changelog.  It puts the
fragment on top of what is left of the old text (`Changelog.Topped`).
-/

namespace ReleasePlanner.Changelog

open Text (line trimEnd allBlank dropWord?)

variable {t u : FileTree} {path existing : String} {place : Place} {text rest : List Char} {c : Char}

/-! ## What is kept -/

/-- A text without a first line that is the title and without the line feeds behind it. -/
def history (text : List Char) : List Char :=
  if line text = title.toList then (text.drop title.toList.length).dropWhile (· == '\n') else text

/-- A fragment below the title and a rest below the fragment, unless the rest is blank. -/
def onTop (fragment rest : List Char) : List Char :=
  title.toList ++ '\n' :: '\n'
    :: (trimEnd fragment ++ (if allBlank rest then [] else '\n' :: '\n' :: trimEnd rest) ++ ['\n'])

theorem toList_prepend (existing fragment : String) :
    (prepend existing fragment).toList = onTop fragment.toList (body existing.toList) :=
  String.toList_ofList

theorem newline_notMem_title : '\n' ∉ title.toList := by decide

theorem line_title_append (rest : List Char) :
    line (title.toList ++ rest) = title.toList ++ line rest :=
  Text.line_append newline_notMem_title rest

/-- Where the title is a line of its own, or the text starts otherwise, the history is kept. -/
theorem body_eq_history (line_end : ∀ c rest, text = title.toList ++ c :: rest → c = '\n') :
    body text = history text := by
  rw [body]
  cases found : dropWord? title.toList text with
  | none =>
      have other : line text ≠ title.toList := by
        intro same
        refine Text.dropWord?_eq_none.mp found ?_
        rcases Text.eq_line_or text with h | ⟨rest, h⟩
        · exact ⟨[], by rw [List.append_nil, ← same, ← h]⟩
        · exact ⟨'\n' :: rest, by rw [← same, ← h]⟩
      rw [history, if_neg other]
  | some rest =>
      obtain rfl := Text.dropWord?_eq_some.mp found
      have own : line rest = [] := by
        cases rest with
        | nil => rfl
        | cons c rest =>
            rw [line_end c rest rfl]
            rfl
      rw [history, line_title_append, own, List.append_nil, if_pos rfl, List.drop_left]

theorem body_of_longer (other : c ≠ '\n') : body (title.toList ++ c :: rest) = c :: rest := by
  rw [body, Text.dropWord?_append]
  simp [other]

theorem history_of_longer (other : c ≠ '\n') :
    history (title.toList ++ c :: rest) = title.toList ++ c :: rest := by
  have longer : line (title.toList ++ c :: rest) ≠ title.toList := by
    rw [line_title_append, Text.line_cons, if_neg other]
    simp
  rw [history, if_neg longer]

/-- What is left of a text below a new fragment: its history, unless it goes on behind the title on
its first line.  Of such a line the words of the title are missing. -/
inductive Older : List Char → List Char → Prop where
  | kept {text : List Char} :
      (∀ c rest, text = title.toList ++ c :: rest → c = '\n') →
      Older text (history text)
  | cut {c : Char} {rest : List Char} :
      c ≠ '\n' →
      Older (title.toList ++ c :: rest) (c :: rest)

theorem older_body (text : List Char) : Older text (body text) := by
  by_cases line_end : ∀ c rest, text = title.toList ++ c :: rest → c = '\n'
  · rw [body_eq_history line_end]
    exact .kept line_end
  · push Not at line_end
    obtain ⟨c, rest, rfl, other⟩ := line_end
    rw [body_of_longer other]
    exact .cut other

/-- A text that goes on behind the title is not what is left of it. -/
theorem onTop_longer_ne (fragment rest : List Char) (c : Char) :
    onTop fragment (c :: rest) ≠ onTop fragment (title.toList ++ c :: rest) := by
  have trimmed : trimEnd title.toList = title.toList := by decide
  have filled : allBlank (title.toList ++ c :: rest) = false := rfl
  intro same
  have below := (List.cons.inj (List.cons.inj (List.append_cancel_left same)).2).2
  have older := List.append_cancel_left (List.append_cancel_right below)
  have lengths := congrArg List.length older
  rw [filled, Text.trimEnd_append trimmed] at lengths
  split at lengths
  next => cases lengths
  next =>
    simp only [Bool.false_eq_true, if_false, List.length_cons, List.length_append] at lengths
    have words : title.toList.length = 11 := by decide
    omega

/-! ## Updating -/

/-- A fragment was put on top of the changelog at a place: below the title there is the fragment,
and below the fragment what is left of the text before.  Everything else in the tree is as it
was. -/
structure Topped (path fragment : String) (place : Place) (text : Option String)
    (t u : FileTree) : Prop where
  before : Holds t path place text
  after : ∃ rest, Older (text.getD "").toList rest ∧
    Holds u path place (some (String.ofList (onTop fragment.toList rest)))
  elsewhere : ∀ q, q ≠ place → u.node? q = t.node? q

theorem Holds.topped {text : Option String} (holds : Holds t path place text) (fragment : String) :
    Topped path fragment place text t
      (t.put place (.file (prepend (text.getD "") fragment))) where
  before := holds
  after := ⟨_, older_body _, holds.put _⟩
  elsewhere _ other := FileTree.node?_put_of_ne holds.parent other _

/-- An update that works puts the fragment on top. -/
theorem exists_topped {fragment : String} (updated : update t path fragment = .ok u) :
    ∃ place text, Topped path fragment place text t u := by
  obtain ⟨place, text, holds⟩ := exists_holds_of_update updated
  obtain rfl := Except.ok.inj (updated.symm.trans (holds.update_eq fragment))
  exact ⟨place, text, holds.topped fragment⟩

/-- An update that fails finds no changelog and no place for one. -/
theorem not_holds_of_error {fragment : String} {e : FileError} {text : Option String}
    (failed : update t path fragment = .error e) : ¬Holds t path place text := by
  intro holds
  rw [holds.update_eq fragment] at failed
  cases failed

/-- An existing changelog is updated, whatever it holds.  The new text is the title, the fragment and
the history exactly when the old text does not go on behind the title on its first line.  Otherwise
the words of the title are missing from that line. -/
theorem update_keeps_history_iff (holds : Holds t path place (some existing)) (fragment : String) :
    ∃ after new, update t path fragment = .ok after ∧ after.node? place = some (.file new) ∧
      (new.toList = onTop fragment.toList (history existing.toList) ↔
        ∀ c rest, existing.toList = title.toList ++ c :: rest → c = '\n') ∧
      ∀ c rest, existing.toList = title.toList ++ c :: rest → c ≠ '\n' →
        new.toList = onTop fragment.toList (c :: rest) := by
  obtain ⟨after, updated, hafter⟩ := holds.exists_update fragment
  refine ⟨after, _, updated, hafter.node_eq, ⟨?_, ?_⟩, ?_⟩
  · intro kept c rest longer
    by_contra other
    rw [Option.getD_some, toList_prepend, longer, body_of_longer other, history_of_longer other]
      at kept
    exact onTop_longer_ne _ _ _ kept
  · intro line_end
    rw [Option.getD_some, toList_prepend, body_eq_history line_end]
  · intro c rest longer other
    rw [Option.getD_some, toList_prepend, longer, body_of_longer other]

/-- A working tree with a changelog and nothing else. -/
def holding (existing : String) : FileTree :=
  .ofFiles [(["CHANGELOG.md"], existing)]

theorem holds_holding (existing : String) :
    Holds (holding existing) "CHANGELOG.md" ["CHANGELOG.md"] (some existing) :=
  ⟨locate_standard _, rfl, rfl⟩

/-- A title of its own is replaced, and the history is kept. -/
theorem titled_history_kept :
    Holds (holding "# Changelog\n\n## 1.0.0\n") "CHANGELOG.md" ["CHANGELOG.md"]
        (some "# Changelog\n\n## 1.0.0\n") ∧
      ∃ after new, update (holding "# Changelog\n\n## 1.0.0\n") "CHANGELOG.md" "## 1.0.1\n"
          = .ok after ∧ after.node? ["CHANGELOG.md"] = some (.file new) ∧
        new.toList = "# Changelog\n\n## 1.0.1\n\n## 1.0.0\n".toList := by
  refine ⟨holds_holding _, ?_⟩
  obtain ⟨after, new, updated, there, kept, -⟩ :=
    update_keeps_history_iff (holds_holding "# Changelog\n\n## 1.0.0\n") "## 1.0.1\n"
  refine ⟨after, new, updated, there, (kept.mpr fun c rest longer => ?_).trans (by decide +kernel)⟩
  have behind := List.append_cancel_left
    ((show title.toList ++ "\n\n## 1.0.0\n".toList = title.toList ++ c :: rest from longer))
  exact (List.cons.inj behind).1.symm

/-- Of a title with more words the first are cut off. -/
theorem longer_title_cut :
    ∃ after new, update (holding "# Changelog of X\n\nold\n") "CHANGELOG.md"
        "## 1.0.1 (2026-10-18)\n\n* Fix.\n" = .ok after ∧
      after.node? ["CHANGELOG.md"] = some (.file new) ∧
      new.toList ≠ onTop "## 1.0.1 (2026-10-18)\n\n* Fix.\n".toList
        (history "# Changelog of X\n\nold\n".toList) ∧
      new = "# Changelog\n\n## 1.0.1 (2026-10-18)\n\n* Fix.\n\n of X\n\nold\n" := by
  obtain ⟨after, updated, hafter⟩ := (holds_holding "# Changelog of X\n\nold\n").exists_update
    "## 1.0.1 (2026-10-18)\n\n* Fix.\n"
  exact ⟨after, _, updated, hafter.node_eq, by decide +kernel, by decide +kernel⟩

end ReleasePlanner.Changelog
