import StyleSnapshot.Proofs.Comparison.Deferral
import StyleSnapshot.Proofs.Text.Words

/-! The layout of values.

Values are compared by their words, but what defers to a custom property is read from the
actual value as it is laid out. A reference has no blanks, so it is found in either form. A
calculation is found on one line only: where it breaks over lines the collapsed value is
accepted and the value itself is not. `valuesMatch_collapse_iff` says that layout matters
there and nowhere else. -/
namespace StyleSnapshot.Equivalence

theorem normalForm_collapse (t : Text) : normalForm (Text.collapse t) = normalForm t := by
  rw [normalForm, Text.collapse_collapse, ← normalForm]

/-! ### References in collapsed text -/

theorem not_blank_of_isNameChar {c : Char} (h : isNameChar c = true) : isBlank c = false := by
  simp only [isNameChar, Bool.or_eq_true, decide_eq_true_eq] at h
  obtain (h | rfl) | rfl := h
  · have hranges : c.isAlphanum = ((decide (c.val ≥ 'A'.val ∧ c.val ≤ 'Z'.val) ||
        c.val ≥ 'a'.val && c.val ≤ 'z'.val) || c.val ≥ '0'.val && c.val ≤ '9'.val) := rfl
    simp only [hranges, Bool.or_eq_true, Bool.and_eq_true, decide_eq_true_eq,
      UInt32.le_iff_toNat_le, ge_iff_le] at h
    simp only [isBlank, Bool.or_eq_false_iff, Bool.and_eq_false_iff, decide_eq_false_iff_not,
      beq_eq_false_iff_ne]
    have : c.toNat = c.val.toNat := rfl
    have : '0'.val.toNat = 48 ∧ '9'.val.toNat = 57 := ⟨rfl, rfl⟩
    have : 'A'.val.toNat = 65 ∧ 'Z'.val.toNat = 90 := ⟨rfl, rfl⟩
    have : 'a'.val.toNat = 97 ∧ 'z'.val.toNat = 122 := ⟨rfl, rfl⟩
    omega
  · decide
  · decide

namespace Reference
variable (r : Reference)

theorem not_blank : ∀ c ∈ r.text, isBlank c = false := by
  intro c hc
  simp only [text_eq, List.mem_append, List.mem_singleton] at hc
  obtain hc | hc | rfl := hc
  · exact Text.not_blank_of_any (by decide) c hc
  · exact not_blank_of_isNameChar (r.plain c hc)
  · decide

/-- The beginning of a calculation. -/
def head : Text := "calc(".toList ++ r.text

theorem not_blank_head : ∀ c ∈ r.head, isBlank c = false := by
  intro c hc
  obtain hc | hc := List.mem_append.1 hc
  · exact Text.not_blank_of_any (by decide) c hc
  · exact r.not_blank c hc

theorem calculation_eq_head (rest : Text) : r.calculation rest = r.head ++ (rest ++ [')']) := by
  rw [calculation_eq, head, List.append_assoc]

/-- A reference is one word. -/
theorem collapse_eq_text_iff {t : Text} : Text.collapse t = r.text ↔ Text.trim t = r.text := by
  have hiff := Text.collapse_eq_append_iff (t := t) (s := []) r.not_blank
  rw [List.append_nil] at hiff
  rw [hiff]
  constructor
  · rintro ⟨u, ht, hu⟩
    have hlast := Text.getLast?_collapseBehind ht
    rw [hu, List.getLast?_nil] at hlast
    rw [ht, List.getLast?_eq_none_iff.1 hlast.symm, List.append_nil]
  · intro h
    exact ⟨[], by rw [h, List.append_nil], rfl⟩

/-- A calculation is one, however it is laid out. -/
theorem collapse_eq_calculation_iff {t : Text} :
    (∃ rest, Text.collapse t = r.calculation rest) ↔ ∃ rest, Text.trim t = r.calculation rest := by
  simp only [calculation_eq_head, Text.collapse_eq_append_iff r.not_blank_head]
  constructor
  · rintro ⟨rest, u, ht, hu⟩
    have hlast := Text.getLast?_collapseBehind ht
    rw [hu, List.getLast?_concat] at hlast
    obtain ⟨rest', rfl⟩ := List.getLast?_eq_some_iff.1 hlast.symm
    exact ⟨rest', ht⟩
  · rintro ⟨rest, ht⟩
    have hlast := Text.getLast?_collapseBehind ht
    rw [List.getLast?_concat] at hlast
    obtain ⟨rest', hrest⟩ := List.getLast?_eq_some_iff.1 hlast
    exact ⟨rest', _, ht, hrest⟩

end Reference

/-- A collapsed text is one line. -/
theorem newline_not_mem_collapse (t : Text) : '\n' ∉ Text.collapse t := fun h =>
  absurd ((Text.spaced_collapse t).space _ h (by decide)) (by decide)

/-- On one line a calculation is accepted even if it was laid out over several. -/
theorem isDynamicReference_collapse (t : Text) : isDynamicReference (Text.collapse t) = true ↔
    isDynamicReference (Text.trim t) = true ∨
      ∃ (r : Reference) (rest : Text), '\n' ∈ rest ∧ Text.trim t = r.calculation rest := by
  have hline : ∀ (r : Reference) (rest : Text), Text.collapse t = r.calculation rest → '\n' ∉ rest := by
    intro r rest h hmem
    refine newline_not_mem_collapse t ?_
    rw [h, r.calculation_eq_head]
    simp [hmem]
  rw [isDynamicReference_iff, isDynamicReference_iff]
  simp only [Reference.collapse_eq_text_iff]
  constructor
  · intro h
    obtain h | ⟨r, rest, -, h⟩ := h
    · exact .inl (.inl h)
    · obtain ⟨rest', h'⟩ := r.collapse_eq_calculation_iff.1 ⟨rest, h⟩
      by_cases hmem : '\n' ∈ rest'
      · exact .inr ⟨r, rest', hmem, h'⟩
      · exact .inl (.inr ⟨r, rest', hmem, h'⟩)
  · intro h
    have hcalc : (∃ r : Reference, Text.trim t = r.text) ∨
        ∃ (r : Reference) (rest : Text), Text.trim t = r.calculation rest := by
      obtain (h | ⟨r, rest, -, h⟩) | ⟨r, rest, -, h⟩ := h
      · exact .inl h
      · exact .inr ⟨r, rest, h⟩
      · exact .inr ⟨r, rest, h⟩
    obtain h | ⟨r, rest, h⟩ := hcalc
    · exact .inl h
    · obtain ⟨rest', h'⟩ := r.collapse_eq_calculation_iff.2 ⟨rest, h⟩
      exact .inr ⟨r, rest', hline r rest' h', h'⟩

/-- What is accepted for a reference stands on one line. -/
theorem newline_not_mem_of_isDynamicReference {t : Text} (h : isDynamicReference t = true) :
    '\n' ∉ t := by
  have plain {u : Text} (hu : ∀ c ∈ u, isBlank c = false) : '\n' ∉ u := fun hmem =>
    absurd (hu _ hmem) (by decide)
  obtain ⟨r, rfl⟩ | ⟨r, rest, hrest, rfl⟩ := isDynamicReference_iff.1 h
  · exact plain r.not_blank
  · simp [r.calculation_eq_head, plain r.not_blank_head, hrest]

/-! ### Matching -/

theorem valuesMatch_iff {expected actual : Text} : valuesMatch expected actual = true ↔
    normalForm expected = normalForm actual ∨ isDynamicReference (Text.trim actual) = true := by
  by_cases hexact : expected = actual
  · simp [valuesMatch, ofValues, isMatch, hexact]
  · by_cases hnormal : normalForm expected = normalForm actual
    · simp [valuesMatch, ofValues, isMatch, hexact, hnormal]
    · by_cases hdynamic : isDynamicReference (Text.trim actual) = true <;>
        simp [valuesMatch, ofValues, isMatch, hexact, hnormal, hdynamic]

theorem valuesMatch_collapse (expected actual : Text) :
    valuesMatch (Text.collapse expected) (Text.collapse actual) = true ↔
      valuesMatch expected actual = true ∨
        ∃ (r : Reference) (rest : Text), '\n' ∈ rest ∧ Text.trim actual = r.calculation rest := by
  rw [valuesMatch_iff, valuesMatch_iff, normalForm_collapse, normalForm_collapse,
    (Text.spaced_collapse actual).trimmed, isDynamicReference_collapse, or_assoc]

/-- Layout matters just where the values differ in their words and the actual one is a
calculation over several lines, and then the collapsed values match alone. -/
theorem valuesMatch_collapse_iff (expected actual : Text) :
    (valuesMatch (Text.collapse expected) (Text.collapse actual) = valuesMatch expected actual ↔
      normalForm expected = normalForm actual ∨
        ∀ (r : Reference) (rest : Text), Text.trim actual = r.calculation rest → '\n' ∉ rest) ∧
    (valuesMatch expected actual = true →
      valuesMatch (Text.collapse expected) (Text.collapse actual) = true) := by
  have hcollapse := valuesMatch_collapse expected actual
  refine ⟨?_, fun h => hcollapse.2 (.inl h)⟩
  rw [Bool.eq_iff_iff, hcollapse]
  constructor
  · intro h
    by_cases hnormal : normalForm expected = normalForm actual
    · exact .inl hnormal
    · refine .inr fun r rest hr hmem => ?_
      -- The actual value is then not accepted as it stands.
      obtain hn | hdynamic := valuesMatch_iff.1 (h.1 (.inr ⟨r, rest, hmem, hr⟩))
      · exact hnormal hn
      · refine newline_not_mem_of_isDynamicReference hdynamic ?_
        rw [hr, r.calculation_eq_head]
        simp [hmem]
  · intro h
    refine ⟨fun hmatch => ?_, .inl⟩
    obtain hmatch | ⟨r, rest, hmem, hr⟩ := hmatch
    · exact hmatch
    · obtain hnormal | hline := h
      · exact valuesMatch_iff.2 (.inl hnormal)
      · exact absurd hmem (hline r rest hr)

/-- A calculation over two lines is refused, and accepted on one. -/
theorem divided_calculation_refused :
    valuesMatch "1px".toList "calc(var(--a)\n  + 1px)".toList = false ∧
      valuesMatch (Text.collapse "1px".toList) (Text.collapse "calc(var(--a)\n  + 1px)".toList) = true := by
  decide

end StyleSnapshot.Equivalence
