import StyleSnapshot.Delimiter
import StyleSnapshot.Text.Blank
import StyleSnapshot.Text.Word

/-! Reference blocks.

The reference compiler wraps its output in blocks that only set up its environment:
registered properties, root variables, and probes of what an engine can do. A compiler
under test owes none of them, so an expectation is compared without them. A reference
block begins with one of four keywords, has a prelude without `;` and `}`, and reaches
from its brace to the matching one; with it goes the run of ASCII blanks that follows. -/
namespace StyleSnapshot.Snapshot

/-- What may begin a reference block. -/
inductive Keyword where
  /-- A layer of registered properties. -/
  | layer
  /-- One registered property. -/
  | property
  /-- A conditional block, which counts only when its condition is a capability probe. -/
  | supports
  /-- Variables of the root element, at the beginning of a line. -/
  | root
  deriving DecidableEq, Repr

/-- Whether a line begins here, `before` being the character in front if there is one. -/
def atLineStart (before : Option Char) : Bool := before.all (· = '\n')

/-- What follows `lead`, if the text begins with it and a word may end there. -/
def afterWord? (lead t : Text) : Option Text :=
  (Text.after? lead t).filter atWordEnd

/-- What follows the keyword of a layer of registered properties. -/
def afterLayer? (t : Text) : Option Text :=
  match Text.after? "@layer".toList t with
  | some (c :: rest) =>
    if isBlank c then afterWord? "properties".toList (Text.trimStart rest) else none
  | _ => none

/-- What follows the root selector, if one stands here behind spaces and tabs only. -/
def afterRoot? (before : Option Char) (t : Text) : Option Text :=
  if atLineStart before then
    afterWord? ":root".toList (t.dropWhile fun c => c = ' ' || c = '\t')
  else none

/-- The keyword that begins here and what follows it. -/
def keyword? (before : Option Char) (t : Text) : Option (Keyword × Text) :=
  ((afterLayer? t).map (Keyword.layer, ·))
    <|> ((afterWord? "@property".toList t).map (Keyword.property, ·))
    <|> ((afterWord? "@supports".toList t).map (Keyword.supports, ·))
    <|> ((afterRoot? before t).map (Keyword.root, ·))

/-- Conditions that only probe an engine. -/
def capabilityProbes : List Text :=
  ["-webkit-hyphens".toList, "-moz-orient".toList, "color-mix(".toList]

/-- Whether the text between the keyword and the brace is that of a reference block. -/
def isPrelude (keyword : Keyword) (prelude : Text) : Bool :=
  !prelude.contains ';' && !prelude.contains '\x7d' &&
    (keyword != .supports || capabilityProbes.any fun probe => Text.mentions probe prelude)

/-- The number of characters before the brace that closes the block whose inside begins here. -/
def closingBrace? (t : Text) : Option Nat :=
  closing? (Marks.chars.under .literal) .braces .plain 0 t

/-- What follows a block and its trailing blanks, given the text behind its keyword. -/
def afterBlock? (keyword : Keyword) (t : Text) : Option Text :=
  match t.dropWhile (· ≠ '\x7b') with
  | [] => none
  | _ :: inside =>
    if isPrelude keyword (t.takeWhile (· ≠ '\x7b')) then
      (closingBrace? inside).map fun n => (inside.drop (n + 1)).dropWhile isAsciiBlank
    else none

/-- What follows the reference block that begins here, if one does. -/
def afterReference? (before : Option Char) (t : Text) : Option Text :=
  (keyword? before t).bind fun found => afterBlock? found.1 found.2

/-! ### Every removal makes the text shorter -/

theorem afterWord?_length {lead t rest : Text} (h : afterWord? lead t = some rest) :
    t.length = lead.length + rest.length :=
  Text.after?_length (Option.filter_eq_some_iff.1 h).1

theorem keyword?_length {before : Option Char} {t rest : Text} {keyword : Keyword}
    (h : keyword? before t = some (keyword, rest)) : rest.length < t.length := by
  simp only [keyword?, Option.orElse_eq_orElse, Option.orElse_eq_or, Option.or_eq_some_iff,
    Option.map_eq_some_iff, Prod.mk.injEq] at h
  rcases h with ⟨r, hr, -, rfl⟩ | ⟨-, ⟨r, hr, -, rfl⟩ | ⟨-, ⟨r, hr, -, rfl⟩ | ⟨-, r, hr, -, rfl⟩⟩⟩
  · simp only [afterLayer?] at hr
    split at hr
    · next c rest' h' =>
      split at hr
      · have h1 := afterWord?_length hr
        have h2 := Text.after?_length h'
        have h3 := Text.length_dropWhile_le isBlank rest'
        simp only [Text.trimStart, List.length_cons] at h1 h2
        have : "properties".toList.length = 10 := rfl
        omega
      · simp at hr
    · simp at hr
  · have h1 := afterWord?_length hr
    have : "@property".toList.length = 9 := rfl
    omega
  · have h1 := afterWord?_length hr
    have : "@supports".toList.length = 9 := rfl
    omega
  · simp only [afterRoot?] at hr
    split at hr
    · have h1 := afterWord?_length hr
      have h2 := Text.length_dropWhile_le (fun c => decide (c = ' ') || decide (c = '\t')) t
      have : ":root".toList.length = 5 := rfl
      omega
    · simp at hr

theorem afterBlock?_length {keyword : Keyword} {t rest : Text}
    (h : afterBlock? keyword t = some rest) : rest.length < t.length := by
  simp only [afterBlock?] at h
  split at h
  · simp at h
  · next c inside hi =>
    split at h
    · obtain ⟨n, -, rfl⟩ := Option.map_eq_some_iff.1 h
      have h1 := Text.length_dropWhile_le (fun x => decide (x ≠ '\x7b')) t
      have h2 := Text.length_dropWhile_le isAsciiBlank (inside.drop (n + 1))
      rw [hi] at h1
      simp only [List.length_cons, List.length_drop] at h1 h2
      omega
    · simp at h

theorem afterReference?_length {before : Option Char} {t rest : Text}
    (h : afterReference? before t = some rest) : rest.length < t.length := by
  obtain ⟨⟨keyword, middle⟩, hk, hb⟩ := Option.bind_eq_some_iff.1 h
  exact Nat.lt_trans (afterBlock?_length hb) (keyword?_length hk)

/-- A text without its reference blocks. `before` is the last character that was kept in
front of it. -/
def stripReferences (before : Option Char) : Text → Text
  | [] => []
  | c :: rest =>
    match _h : afterReference? before (c :: rest) with
    | some following => stripReferences before following
    | none => c :: stripReferences (some c) rest
termination_by t => t.length
decreasing_by
  · exact afterReference?_length _h
  · simp

theorem stripReferences_nil (before : Option Char) : stripReferences before [] = [] := by
  rw [stripReferences]

/-- A reference block at the front is dropped. -/
theorem stripReferences_of_some {before : Option Char} {t rest : Text}
    (h : afterReference? before t = some rest) :
    stripReferences before t = stripReferences before rest := by
  cases t with
  | nil => exact absurd (afterReference?_length h) (Nat.not_lt_zero _)
  | cons c t =>
    rw [stripReferences]
    split
    · next h' => rw [Option.some.inj (h.symm.trans h')]
    · next h' => exact absurd (h.symm.trans h') (Option.some_ne_none _)

/-- Any other character stays. -/
theorem stripReferences_of_none {before : Option Char} {c : Char} {t : Text}
    (h : afterReference? before (c :: t) = none) :
    stripReferences before (c :: t) = c :: stripReferences (some c) t := by
  rw [stripReferences]
  split
  · next h' => exact absurd (h'.symm.trans h) (Option.some_ne_none _)
  · rfl

end StyleSnapshot.Snapshot
