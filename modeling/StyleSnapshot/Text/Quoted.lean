import StyleSnapshot.Text.Printable

/-! Quoted texts, as failure reports show them.

Between double quotes every character stands for itself, except that the quote, the
backslash, the line breaks, the tab and the null character have a two-character escape
and every other character that is not printable is written by its code point. -/
namespace StyleSnapshot.Text

/-- A number in hexadecimal with lower-case digits. -/
def hex (n : Nat) : Text := Nat.toDigits 16 n

/-- One character between the quotes. -/
def escaped (c : Char) : Text :=
  if c = '"' || c = '\\' then ['\\', c]
  else if c = '\n' then ['\\', 'n']
  else if c = '\r' then ['\\', 'r']
  else if c = '\t' then ['\\', 't']
  else if c = '\x00' then ['\\', '0']
  else if isExtender c || !isPrintable c then ['\\', 'u', '\x7b'] ++ hex c.toNat ++ ['\x7d']
  else [c]

def quoted (t : Text) : Text := '"' :: t.flatMap escaped ++ ['"']

end StyleSnapshot.Text
