import StyleSnapshot.Proofs.Quotation
import StyleSnapshot.Proofs.Text.Bytes
import StyleSnapshot.Snapshot.Template

/-! Texts in template literals.

A text can be written in a template literal in several ways, since a dollar sign may be escaped
or not (`Spells`). Where the literal ends and what it stands for are read by two scans that know
nothing of each other; `literal_ends_and_decodes` says that they agree on what a backslash
escapes, in every way to write a text. -/
namespace StyleSnapshot.Snapshot

/-- The text is written with a backslash in front of every backslash and every backtick, and in
front of any of its dollar signs. -/
inductive Spells : (text written : Text) → Prop
  | nil : Spells [] []
  | escaped {c : Char} {t written : Text} : isEscapable c = true → Spells t written →
      Spells (c :: t) ('\\' :: c :: written)
  | plain {c : Char} {t written : Text} : c ≠ '\\' → c ≠ '\x60' → Spells t written →
      Spells (c :: t) (c :: written)

theorem unescape_cons {c : Char} (h : c ≠ '\\') (t : Text) : unescape (c :: t) = c :: unescape t := by
  cases t with
  | nil => rfl
  | cons d t => simp [unescape, h]

namespace Spells
variable {t written : Text}

theorem unescape_append (h : Spells t written) (x : Text) :
    unescape (written ++ x) = t ++ unescape x := by
  induction h with
  | nil => rfl
  | escaped hc _ ih =>
    simp only [List.cons_append, unescape, hc, decide_true, Bool.and_self, if_true, ih]
  | plain hc _ _ ih => rw [List.cons_append, unescape_cons hc, ih, List.cons_append]

/-- What is written may stand in a literal. -/
theorem enclosed (h : Spells t written) : Enclosed '\\' '\x60' written := by
  induction h with
  | nil => exact .nil
  | escaped _ _ ih => exact ih.escaped
  | plain h1 h2 _ ih => exact ih.plain h1 h2

/-- No way to write a text ends the literal that it stands in. -/
theorem closingQuote?_append (h : Spells t written) (x : Text) :
    closingQuote? '\\' '\x60' false (written ++ x) =
      (closingQuote? '\\' '\x60' false x).map (written.length + ·) :=
  h.enclosed.closingQuote?_append x

end Spells

/-- **A template literal ends where it was made to end, and stands for the text it was made
from**, however the text is written: the closing backtick is found at its byte offset, and at its
place counted in characters. -/
theorem literal_ends_and_decodes {t written : Text} (h : Spells t written) (before behind : Text) :
    closingQuoteAt? Marks.bytes.escape
        (Text.utf8 (before ++ '\x60' :: (written ++ '\x60' :: behind))) (Text.byteLength before) =
      some (Text.byteLength before + 1 + Text.byteLength written) ∧
    closingQuote? '\\' '\x60' false (written ++ '\x60' :: behind) = some written.length ∧
    unescape written = t := by
  have hend : closingQuote? '\\' '\x60' false (written ++ '\x60' :: behind) = some written.length := by
    rw [h.closingQuote?_append]
    rfl
  refine ⟨?_, hend, ?_⟩
  · rw [closingQuoteAt?_utf8 (by decide), hend, Option.map_some, List.take_left]
  · have hdecode := h.unescape_append []
    rwa [List.append_nil, unescape, List.append_nil] at hdecode

/-- A longer character behind an escaped backslash, and a dollar sign written in both ways. -/
theorem literal_of_dollar_signs :
    let written := "\\\\\\\\é$\\$\\\x60".toList
    Spells "\\\\é$$\x60".toList written ∧
    closingQuoteAt? Marks.bytes.escape (Text.utf8 ("ü".toList ++ '\x60' :: (written ++ '\x60' :: "\x60".toList)))
        (Text.byteLength "ü".toList) =
      some (Text.byteLength "ü".toList + 1 + Text.byteLength written) ∧
    closingQuote? '\\' '\x60' false (written ++ '\x60' :: "\x60".toList) = some written.length ∧
    unescape written = "\\\\é$$\x60".toList := by
  intro written
  have h : Spells "\\\\é$$\x60".toList written :=
    .escaped rfl (.escaped rfl (.plain (by decide) (by decide) (.plain (by decide) (by decide)
      (.escaped rfl (.escaped rfl .nil)))))
  exact ⟨h, literal_ends_and_decodes h "ü".toList "\x60".toList⟩

end StyleSnapshot.Snapshot
