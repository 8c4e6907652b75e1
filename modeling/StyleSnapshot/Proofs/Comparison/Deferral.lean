import StyleSnapshot.Comparison.Equivalence
import StyleSnapshot.Proofs.Delimiter
import StyleSnapshot.Proofs.Text.Parts

/-! Values that defer to a custom property.

Such a value is accepted whatever is expected, so it matters what passes for one.
`ofValues_eq_dynamicReference_iff` says which values do: a reference, and any line that begins
like a calculation with a reference and ends in a parenthesis. The parentheses between are
not looked at. A value is one reference or one call (`OneReference`) just when they balance
(`oneReference_iff_balances`); where they do not, other components stand behind the call, or it
is never closed. -/
namespace StyleSnapshot.Equivalence

/-- A reference to a custom property. -/
structure Reference where
  name : Text
  ne : name ≠ []
  plain : ∀ c ∈ name, isNameChar c = true

namespace Reference

def text (r : Reference) : Text := "var(--".toList ++ (r.name ++ [')'])

/-- What begins like a calculation with a reference and ends in a parenthesis. -/
def calculation (r : Reference) (rest : Text) : Text := "calc(".toList ++ (r.text ++ (rest ++ [')']))

theorem text_eq (r : Reference) : r.text = "var(--".toList ++ (r.name ++ [')']) := rfl

theorem calculation_eq (r : Reference) (rest : Text) :
    r.calculation rest = "calc(".toList ++ (r.text ++ (rest ++ [')'])) := rfl

end Reference

theorem afterReference?_eq_some_iff {t rest : Text} :
    afterReference? t = some rest ↔ ∃ r : Reference, t = r.text ++ rest := by
  constructor
  · intro h
    simp only [afterReference?] at h
    split at h
    · simp at h
    · next name hname =>
      split at h
      · simp at h
      · next hne =>
        refine ⟨⟨name.takeWhile isNameChar, hne, fun c hc => List.mem_takeWhile_imp hc⟩, ?_⟩
        have hclose := Text.after?_eq_some_iff.1 h
        rw [Text.after?_eq_some_iff.1 hname, Reference.text_eq, List.append_assoc, List.append_assoc,
          ← hclose, List.takeWhile_append_dropWhile]
  · rintro ⟨r, rfl⟩
    have hclose : isNameChar ')' = false := by decide
    have htake := Text.takeWhile_run hclose r.plain rest
    have hdrop := Text.dropWhile_run hclose r.plain rest
    have htext : r.text ++ rest = "var(--".toList ++ (r.name ++ ')' :: rest) := by
      simp [Reference.text_eq]
    rw [htext, afterReference?, Text.after?_self]
    simp only [htake, r.ne, if_false, hdrop]
    rfl

/-- What follows the reference with which a calculation begins. -/
theorem bind_afterReference?_eq_some_iff {t tail : Text} :
    (Text.after? "calc(".toList t).bind afterReference? = some tail ↔
      ∃ r : Reference, t = "calc(".toList ++ (r.text ++ tail) := by
  simp only [Option.bind_eq_some_iff, Text.after?_eq_some_iff, afterReference?_eq_some_iff]
  constructor
  · rintro ⟨_, rfl, r, rfl⟩
    exact ⟨r, rfl⟩
  · rintro ⟨r, rfl⟩
    exact ⟨_, rfl, r, rfl⟩

theorem isDynamicReference_iff {t : Text} : isDynamicReference t = true ↔
    (∃ r : Reference, t = r.text) ∨
      ∃ (r : Reference) (rest : Text), '\n' ∉ rest ∧ t = r.calculation rest := by
  rw [isDynamicReference, Bool.or_eq_true, decide_eq_true_iff, afterReference?_eq_some_iff]
  simp only [List.append_nil]
  refine or_congr Iff.rfl ?_
  constructor
  · intro h
    split at h
    · exact absurd h Bool.false_ne_true
    · next tail htail =>
      obtain ⟨r, rfl⟩ := bind_afterReference?_eq_some_iff.1 htail
      simp only [Bool.and_eq_true, decide_eq_true_eq, Bool.not_eq_true', List.contains_eq_mem,
        decide_eq_false_iff_not] at h
      obtain ⟨hlast, hline⟩ := h
      obtain ⟨rest, rfl⟩ := List.getLast?_eq_some_iff.1 hlast
      exact ⟨r, rest, fun hmem => hline (List.mem_append_left _ hmem), rfl⟩
  · rintro ⟨r, rest, hline, rfl⟩
    have htail : (Text.after? "calc(".toList (r.calculation rest)).bind afterReference? =
        some (rest ++ [')']) := bind_afterReference?_eq_some_iff.2 ⟨r, rfl⟩
    rw [htail]
    simp [hline]

theorem ofValues_eq_dynamicReference_iff {expected actual : Text} :
    ofValues expected actual = .dynamicReference ↔
      expected ≠ actual ∧ normalForm expected ≠ normalForm actual ∧
        ((∃ r : Reference, Text.trim actual = r.text) ∨ ∃ (r : Reference) (rest : Text),
          '\n' ∉ rest ∧ Text.trim actual = r.calculation rest) := by
  rw [← isDynamicReference_iff, ofValues]
  split
  · next h => simp [h]
  · next hexact =>
    split
    · next h => simp [h]
    · next hnormal => split <;> simp [*]

/-! ### One call or more -/

namespace Reference

theorem not_mem_name (r : Reference) {c : Char} (h : isNameChar c = false) : c ∉ r.name := fun hmem =>
  Bool.false_ne_true (h.symm.trans (r.plain c hmem))

/-- A reference closes the parenthesis that it opens. -/
theorem closes_text (r : Reference) (depth : Nat) (t : Text) :
    Closes .round depth (r.text ++ t) ↔ Closes .round depth t := by
  have hne : Brackets.round.opening ≠ Brackets.round.closing := by decide
  have hplain : '(' ∉ "--".toList ++ r.name ∧ ')' ∉ "--".toList ++ r.name := by
    constructor
    · simp [r.not_mem_name (c := '(') (by decide)]
    · simp [r.not_mem_name (c := ')') (by decide)]
  calc Closes .round depth (r.text ++ t)
      ↔ Closes .round depth ("var".toList ++ '(' :: (("--".toList ++ r.name) ++ ')' :: t)) := by
        simp [text_eq]
    _ ↔ Closes .round depth ('(' :: (("--".toList ++ r.name) ++ ')' :: t)) :=
        closes_append_of_not_mem (by decide) (by decide)
    _ ↔ Closes .round (depth + 1) (("--".toList ++ r.name) ++ ')' :: t) := closes_opening hne
    _ ↔ Closes .round (depth + 1) (')' :: t) := closes_append_of_not_mem hplain.1 hplain.2
    _ ↔ ∃ outer, depth + 1 = outer + 1 ∧ Closes .round outer t := closes_closing hne
    _ ↔ Closes .round depth t := by simp

/-- The parenthesis behind `calc` is closed by the last character just when those between
balance. -/
theorem calculation_closed_iff (r : Reference) (rest : Text) :
    closingAt? (Marks.chars.under .literal) .round (r.calculation rest) 4 =
      some ((r.calculation rest).length - 1) ↔ Balances .round rest := by
  have hne : Brackets.round.opening ≠ Brackets.round.closing := by decide
  have hdrop : (r.calculation rest).drop 4 = '(' :: ((r.text ++ rest) ++ [')']) := by
    simp [calculation_eq]
  have hlast : (r.calculation rest).length - 1 = 5 + (r.text ++ rest).length := by
    simp [calculation_eq]
    omega
  have hscan : closing? (Marks.chars.under .literal) .round .plain 0 ((r.text ++ rest) ++ [')']) =
      some (r.text ++ rest).length ↔ Closes .round 0 (r.text ++ rest) := by
    rw [closing?_eq_some_iff _ hne]
    constructor
    · rintro ⟨body, behind, heq, hlen, hbody⟩
      rwa [(List.append_inj heq hlen.symm).1]
    · exact fun hbody => ⟨r.text ++ rest, [], rfl, rfl, hbody⟩
  have hclosing : closingAt? (Marks.chars.under .literal) .round (r.calculation rest) 4 =
      (closing? (Marks.chars.under .literal) .round .plain 0 ((r.text ++ rest) ++ [')'])).map (5 + ·) := by
    rw [closingAt?, hdrop]
    rfl
  rw [Balances, ← closes_text r, ← hscan, hclosing, hlast]
  simp only [Option.map_eq_some_iff, Nat.add_left_cancel_iff, exists_eq_right]

end Reference

/-- A reference, or one call of `calc` that begins with a reference: its last character
closes the parenthesis behind the name of the function. -/
def OneReference (t : Text) : Prop :=
  (∃ r : Reference, t = r.text) ∨ ∃ (r : Reference) (rest : Text), t = r.calculation rest ∧
    closingAt? (Marks.chars.under .literal) .round t 4 = some (t.length - 1)

/-- A value is accepted for a reference without being one just when the parentheses behind the
reference in a calculation do not balance. -/
theorem oneReference_iff_balances {expected actual : Text}
    (h : ofValues expected actual = .dynamicReference) : OneReference (Text.trim actual) ↔
      ∀ (r : Reference) (rest : Text), Text.trim actual = r.calculation rest → Balances .round rest := by
  constructor
  · rintro (⟨r, hr⟩ | ⟨-, -, -, hclosed⟩) s rest hs
    · rw [hr] at hs
      simp [Reference.text_eq, Reference.calculation_eq] at hs
    · rw [hs] at hclosed
      exact (s.calculation_closed_iff rest).1 hclosed
  · intro hbalances
    obtain ⟨-, -, ⟨r, hr⟩ | ⟨r, rest, -, hr⟩⟩ := ofValues_eq_dynamicReference_iff.1 h
    · exact .inl ⟨r, hr⟩
    · refine .inr ⟨r, rest, hr, ?_⟩
      rw [hr]
      exact (r.calculation_closed_iff rest).2 (hbalances r rest hr)

theorem oneReference_product :
    ofValues "1px".toList " calc(var(--a) * (2))".toList = .dynamicReference ∧
      OneReference (Text.trim " calc(var(--a) * (2))".toList) ∧ Balances .round " * (2)".toList := by
  have hone : OneReference (Text.trim " calc(var(--a) * (2))".toList) :=
    .inr ⟨⟨['a'], by decide, by simp; decide⟩, " * (2)".toList, by decide, by decide⟩
  have hdynamic : ofValues "1px".toList " calc(var(--a) * (2))".toList = .dynamicReference := by
    decide
  exact ⟨hdynamic, hone, (oneReference_iff_balances hdynamic).1 hone ⟨['a'], by decide, by simp; decide⟩
    " * (2)".toList (by decide)⟩

/-- A second component behind the call, and a call that is never closed. -/
theorem more_than_one_reference :
    (ofValues "1px".toList "calc(var(--a)) calc(2px)".toList = .dynamicReference ∧
      ¬ OneReference (Text.trim "calc(var(--a)) calc(2px)".toList)) ∧
    ofValues "1px".toList "calc(var(--a) + (1px)".toList = .dynamicReference ∧
      ¬ OneReference (Text.trim "calc(var(--a) + (1px)".toList) := by
  have calls {t : Text} (hcalc : t.head? = some 'c')
      (hopen : closingAt? (Marks.chars.under .literal) .round t 4 ≠ some (t.length - 1)) :
      ¬ OneReference t := by
    rintro (⟨r, rfl⟩ | ⟨-, -, -, hclosed⟩)
    · simp [Reference.text_eq] at hcalc
    · exact hopen hclosed
  exact ⟨⟨by decide, calls (by decide) (by decide)⟩, by decide, calls (by decide) (by decide)⟩

end StyleSnapshot.Equivalence
