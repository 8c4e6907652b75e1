import StyleSnapshot.Text.Basic

/-! Blank characters.

Blanks are the characters of the Unicode property White_Space. The sanitizer alone
speaks of the smaller set of ASCII blanks, which lacks the vertical tab. -/
namespace StyleSnapshot

/-- The Unicode property White_Space. -/
def isBlank (c : Char) : Bool :=
  let n := c.toNat
  (0x09 ≤ n && n ≤ 0x0D) || n == 0x20 || n == 0x85 || n == 0xA0 || n == 0x1680 ||
    (0x2000 ≤ n && n ≤ 0x200A) || n == 0x2028 || n == 0x2029 || n == 0x202F ||
    n == 0x205F || n == 0x3000

/-- Space, tab, line feed, form feed and carriage return. -/
def isAsciiBlank (c : Char) : Bool :=
  c = ' ' || c = '\t' || c = '\n' || c = '\x0c' || c = '\r'

namespace Text

def trimStart (t : Text) : Text := t.dropWhile isBlank

def trimEnd (t : Text) : Text := dropEndWhile isBlank t

/-- A text without the blanks at either end. -/
def trim (t : Text) : Text := trimEnd (trimStart t)

/-- The maximal runs of characters that are not blank. -/
def words (t : Text) : List Text := (t.splitOnP isBlank).filter fun w => !w.isEmpty

/-- Blanks at the ends dropped, and every other run of blanks made one space. -/
def collapse (t : Text) : Text := join [' '] (words t)

end Text
end StyleSnapshot
