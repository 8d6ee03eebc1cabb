import ReleasePlanner.Proofs.Regex.Quoting
import ReleasePlanner.Proofs.Version.Shape

/-!
# Reading tags

A pattern reads exactly the tags that spell a version between its fixed parts,
and of these only the ones whose numbers fit (`reads_tags`).  So the tag of a
version is read back as that version, and different versions have different
tags.

The same tags are found with a regular expression (`TagPattern.expression`).
The pattern is quoted for it, and an expression for versions takes the place of
the quoted placeholder.  No special character of the pattern makes a
difference, since quoting neither hides a placeholder nor makes one up
(`TagPattern.toList_expression`), and what the placeholder stands for is bound
by the fixed parts on both sides (`TagPattern.parse?_iff_isMatch`).
-/

namespace ReleasePlanner

open Regex Regex.Re

/-! ## The expression of a pattern -/

namespace TagPattern

/-- The regular expression for the tags of a pattern.  The text of the pattern is quoted, and an
expression for versions takes the place of the quoted placeholder. -/
def expression (text : String) : String :=
  String.ofList ('^' :: (Text.fill (quote Text.versionWord) Version.shapeText (quote text.toList)
    ++ ['$']))

variable {text : String} {pattern : TagPattern}

/-- What the expression is put together from. -/
def items (pattern : TagPattern) : List Nested :=
  ⟨look false .textStart, 0⟩ :: ((spell pattern.lead).map (fun a => ⟨a, 0⟩)
    ++ ⟨Version.shapeRe, 7⟩ :: ((spell pattern.tail).map (fun a => ⟨a, 0⟩)
      ++ [⟨look false .textEnd, 0⟩]))

theorem items_re (pattern : TagPattern) :
    pattern.items.map Nested.re = look false .textStart :: (spell pattern.lead
      ++ Version.shapeRe :: (spell pattern.tail ++ [look false .textEnd])) := by
  simp [items, Function.comp_def]

theorem toList_expression (made : ofText text = .ok pattern) :
    (expression text).toList = ['^'] ++ (quote pattern.lead ++ (Version.shapeText
      ++ (quote pattern.tail ++ ['$']))) := by
  obtain ⟨found, absent⟩ := around?_of_ofChars made
  have filled := fill_quote (by decide) (by decide) found absent Version.shapeText
  rw [expression, String.toList_ofList, Text.versionWord, filled]
  simp

theorem items_expression (made : ofText text = .ok pattern) :
    Items (expression text).toList pattern.items := by
  have start : Item ['^'] ⟨look false .textStart, 0⟩ := .of_primitive (by decide) fun _ => rfl
  have finish : Item ['$'] ⟨look false .textEnd, 0⟩ := .of_primitive (by decide) fun _ => rfl
  rw [toList_expression made]
  exact .cons start ((items_quote _).append
    (.cons Version.item_shapeText ((items_quote _).append (.single finish))))

/-- What the expression is read as, if it is read at all. -/
theorem re_of_expression {p : Pattern} (made : ofText text = .ok pattern)
    (read : Pattern.ofText? (expression text) = some p) :
    p.re = bound pattern.lead Version.shapeRe pattern.tail := by
  obtain ⟨re, parsed, rfl⟩ := Option.map_eq_some_iff.mp read
  have same := (items_expression made).eq_of_parse? parsed
  rwa [items_re] at same

/-- The expression is read unless the pattern is very long. -/
theorem exists_expression (made : ofText text = .ok pattern)
    (short : pattern.lead.length + pattern.tail.length ≤ 80000) :
    ∃ p, Pattern.ofText? (expression text) = some p := by
  have shallow : ∀ a ∈ pattern.items, a.depth < maxDepth := by
    have literal : ∀ (word : List Char), ∀ a ∈ (spell word).map (fun re => Nested.mk re 0),
        a.depth < maxDepth := by
      intro word a ha
      obtain ⟨re, -, rfl⟩ := List.mem_map.mp ha
      exact (by decide : 0 < maxDepth)
    simp only [items, List.forall_mem_cons, List.forall_mem_append]
    exact ⟨by decide, literal _, by decide, literal _, by decide, nofun⟩
  have light : (Re.seq (pattern.items.map Nested.re)).weight ≤ maxWeight := by
    have whole := weight_bound_le (a := Version.shapeRe) pattern.lead pattern.tail
    have shape : Version.shapeRe.weight = 820 := by decide
    rw [items_re, maxWeight]
    rw [bound] at whole
    omega
  exact ⟨_, by rw [Pattern.ofText?, (items_expression made).parse?_eq_some shallow light]; rfl⟩

/-- The tags that the expression matches and whose middle part is read as a version are those that
are read. -/
theorem parse?_iff_isMatch {p : Pattern} {tag : String} {v : Version}
    (made : ofText text = .ok pattern) (read : Pattern.ofText? (expression text) = some p) :
    pattern.parse? tag = some v ↔ p.isMatch tag = true ∧
      ∃ middle, tag.toList = pattern.lead ++ middle ++ pattern.tail ∧
        Version.parse (String.ofList middle) = .ok v := by
  rw [parse?_eq_some_iff, Pattern.isMatch, re_of_expression made read, matchesIn_bound_iff]
  simp only [Version.takes_shapeRe_iff, Version.parse, String.toList_ofList, Spells]
  constructor
  · rintro ⟨⟨middle, htag, spelled⟩, fits⟩
    have shaped := spelled.shaped
    exact ⟨⟨middle, by simpa using htag, shaped⟩, middle, htag,
      shaped.parse_eq_ok_iff.mpr ⟨spelled, fits⟩⟩
  · rintro ⟨⟨middle, htag, shaped⟩, middle', htag', parsed⟩
    obtain rfl : middle = middle' := by
      rw [htag'] at htag
      simpa using htag.symm
    obtain ⟨spelled, fits⟩ := shaped.parse_eq_ok_iff.mp parsed
    exact ⟨⟨middle, htag', spelled⟩, fits⟩

end TagPattern

/-! ## Tags -/

/-- A tag is read exactly when it spells a version between the fixed parts of the pattern, whose
numbers fit.  It is also read exactly when the expression of the pattern matches it and what stands
between the fixed parts is read as a version.  A version that can be written is read back from its
tag, and no other version has this tag. -/
theorem reads_tags {lead tail : List Char} {pattern : TagPattern}
    (made : TagPattern.ofText (String.ofList (lead ++ Text.versionWord ++ tail)) = .ok pattern) :
    (∀ (tag : String) (v : Version), pattern.parse? tag = some v ↔
      ∃ text, tag.toList = lead ++ text ++ tail ∧ Version.Spelled text v ∧ v.Fits) ∧
    (∀ expression, Pattern.ofText? (TagPattern.expression
        (String.ofList (lead ++ Text.versionWord ++ tail))) = some expression →
      ∀ (tag : String) (v : Version), pattern.parse? tag = some v ↔
        expression.isMatch tag = true ∧ ∃ text, tag.toList = lead ++ text ++ tail ∧
          Version.parse (String.ofList text) = .ok v) ∧
    (∀ v : Version, v.Fits → v.WellNamed →
      (pattern.format v).toList = lead ++ v.chars ++ tail ∧
        pattern.parse? (pattern.format v) = some v) ∧
    ∀ v w : Version, v.Fits → v.WellNamed → w.Fits → w.WellNamed →
      pattern.format v = pattern.format w → v = w := by
  have parts : pattern = ⟨lead, tail⟩ := by
    rw [TagPattern.ofText, String.toList_ofList] at made
    exact TagPattern.eq_of_ofChars made
  subst parts
  refine ⟨fun tag v => ?_, fun p read tag v => TagPattern.parse?_iff_isMatch made read,
    fun v fits named => ⟨?_, TagPattern.parse?_format fits named⟩,
    fun _ _ => TagPattern.format_injective⟩
  · rw [TagPattern.parse?_eq_some_iff]
    simp only [TagPattern.Spells, ← exists_and_right, and_assoc]
  · rw [TagPattern.format, String.toList_ofList]

/-- A pattern of special characters, with a digit in front and a hyphen behind. -/
theorem reads_tags_special :
    ∃ pattern expression, TagPattern.ofText "2\\.\x7bversion\x7d-(x)" = .ok pattern ∧
      Pattern.ofText? (TagPattern.expression "2\\.\x7bversion\x7d-(x)") = some expression ∧
      pattern.parse? "2\\.1.02.3-rc.1-(x)" = some ⟨1, 2, 3, some ⟨"rc", 1⟩⟩ ∧
      expression.isMatch "2\\.1.02.3-rc.1-(x)" = true := by
  have made : TagPattern.ofText (String.ofList ("2\\.".toList ++ Text.versionWord ++ "-(x)".toList))
      = .ok ⟨"2\\.".toList, "-(x)".toList⟩ := by rfl
  obtain ⟨expression, read⟩ := TagPattern.exists_expression made (by decide)
  obtain ⟨reads, agrees, -⟩ := reads_tags made
  have strict : Version.strict? "1.02.3-rc.1".toList = some ⟨1, 2, 3, some ⟨"rc", 1⟩⟩ := by decide
  obtain ⟨spelled, fits⟩ := Version.strict?_eq_some_iff.mp strict
  have parsed := (reads "2\\.1.02.3-rc.1-(x)" _).mpr ⟨_, by decide, spelled, fits⟩
  have matched := ((agrees expression read _ _).mp parsed).1
  exact ⟨_, expression, made, read, parsed, matched⟩

end ReleasePlanner
