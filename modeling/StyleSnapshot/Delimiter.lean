import StyleSnapshot.Text.Basic

/-! Where an opening delimiter is closed.

A scanner walks a text once. At every element it is in plain text, inside a quotation,
or just behind an escape inside a quotation. In plain text the delimiters nest, and the
answer is the number of elements before the one that closes the delimiter the scan began
behind. Inside a quotation nothing counts but the escape, which hides the element behind
it, and the quote that opened it.

The alphabet is a parameter. Fixtures and stylesheets are scanned as characters; asked
for byte offsets, the same scanner runs on the bytes of the UTF-8 form, where every mark
it looks for is a single byte. -/
namespace StyleSnapshot

/-- Whether a delimiter inside a quotation counts. -/
inductive Quoting where
  /-- Every delimiter counts. -/
  | literal
  /-- Quotations are passed over. -/
  | skipStrings
  deriving DecidableEq, Repr

/-- The elements that are special to a scanner besides the delimiters. -/
structure Marks (α : Type) where
  /-- Inside a quotation it hides the element behind it. -/
  escape : α
  /-- Each of these opens a quotation that the same one closes. -/
  quotes : List α

namespace Marks

def chars : Marks Char := ⟨'\\', ['\'', '"', '\x60']⟩

def bytes : Marks UInt8 := ⟨0x5C, [0x27, 0x22, 0x60]⟩

/-- The marks in force under a quoting rule. -/
def under (marks : Marks α) : Quoting → Marks α
  | .literal => { marks with quotes := [] }
  | .skipStrings => marks

end Marks

/-- A pair of delimiters. -/
structure Brackets (α : Type) where
  opening : α
  closing : α
  deriving DecidableEq, Repr

namespace Brackets

def braces : Brackets Char := ⟨'\x7b', '\x7d'⟩

def square : Brackets Char := ⟨'[', ']'⟩

def round : Brackets Char := ⟨'(', ')'⟩

end Brackets

/-- Where a scanner stands. -/
inductive Place (α : Type) where
  | plain
  | quoted (quote : α)
  | escaped (quote : α)
  deriving DecidableEq, Repr

section Scan
variable {α : Type} [DecidableEq α]

/-- The number of elements before the first `quote` that no escape hides. The flag says
whether the element at the front is hidden. -/
def closingQuote? (escape quote : α) : Bool → List α → Option Nat
  | _, [] => none
  | true, _ :: rest => (closingQuote? escape quote false rest).map (· + 1)
  | false, c :: rest =>
    if c = escape then (closingQuote? escape quote true rest).map (· + 1)
    else if c = quote then some 0
    else (closingQuote? escape quote false rest).map (· + 1)

theorem closingQuote?_lt_length {escape quote : α} {hidden : Bool} {t : List α} {n : Nat}
    (h : closingQuote? escape quote hidden t = some n) : n < t.length := by
  fun_induction closingQuote? escape quote hidden t generalizing n with
  | case1 => simp at h
  | case2 c rest ih | case3 rest ih | case5 c rest _ _ ih =>
    obtain ⟨m, hm, rfl⟩ := Option.map_eq_some_iff.1 h
    exact Nat.succ_lt_succ (ih hm)
  | case4 =>
    obtain rfl := Option.some.inj h
    exact Nat.succ_pos _

/-- The place behind the element `c`. -/
def Place.next (marks : Marks α) (c : α) : Place α → Place α
  | .plain => if c ∈ marks.quotes then .quoted c else .plain
  | .quoted q => if c = marks.escape then .escaped q else if c = q then .plain else .quoted q
  | .escaped q => .quoted q

/-- The number of elements before the closing delimiter, for a scan that begins behind
the opening one. The counter says how many further delimiters are open. -/
def closing? (marks : Marks α) (pair : Brackets α) : Place α → Nat → List α → Option Nat
  | _, _, [] => none
  | .plain, nested, c :: rest =>
    if c ∈ marks.quotes then (closing? marks pair (.quoted c) nested rest).map (· + 1)
    else if c = pair.opening then (closing? marks pair .plain (nested + 1) rest).map (· + 1)
    else if c = pair.closing then
      match nested with
      | 0 => some 0
      | outer + 1 => (closing? marks pair .plain outer rest).map (· + 1)
    else (closing? marks pair .plain nested rest).map (· + 1)
  | place, nested, c :: rest =>
    (closing? marks pair (place.next marks c) nested rest).map (· + 1)

theorem closing?_lt_length {marks : Marks α} {pair : Brackets α} {place : Place α} {nested : Nat}
    {t : List α} {n : Nat} (h : closing? marks pair place nested t = some n) : n < t.length := by
  induction t generalizing place nested n with
  | nil => simp [closing?] at h
  | cons c rest ih =>
    have step {place nested} (h : (closing? marks pair place nested rest).map (· + 1) = some n) :
        n < (c :: rest).length := by
      obtain ⟨m, hm, rfl⟩ := Option.map_eq_some_iff.1 h
      exact Nat.succ_lt_succ (ih hm)
    cases place with
    | plain =>
      simp only [closing?] at h
      split at h
      · exact step h
      · split at h
        · exact step h
        · split at h
          · split at h
            · obtain rfl := Option.some.inj h
              exact Nat.succ_pos _
            · exact step h
          · exact step h
    | quoted q => exact step h
    | escaped q => exact step h

/-- The index of the next element equal to the one at `start` that no escape hides. -/
def closingQuoteAt? (escape : α) (text : List α) (start : Nat) : Option Nat :=
  match text.drop start with
  | [] => none
  | quote :: rest => (closingQuote? escape quote false rest).map (start + 1 + ·)

/-- The index of the delimiter that closes the one at `start`. There is none when
`start` holds no opening delimiter. Equal delimiters close like a quotation. -/
def closingAt? (marks : Marks α) (pair : Brackets α) (text : List α) (start : Nat) :
    Option Nat :=
  match text.drop start with
  | [] => none
  | c :: rest =>
    if c ≠ pair.opening then none
    else if pair.opening = pair.closing then closingQuoteAt? marks.escape text start
    else (closing? marks pair .plain 0 rest).map (start + 1 + ·)

end Scan

/-- How much deeper in braces a text ends than it begins. -/
def braceBalance (t : Text) : Int := (t.count '\x7b' : Int) - t.count '\x7d'

end StyleSnapshot
