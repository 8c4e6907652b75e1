import StyleSnapshot.Text.Decode

/-! Texts of bytes.

Scripts and the commands they call work on bytes and give a meaning only to those of
ASCII. Here each byte is the character of the same number, so that a text of bytes is an
ordinary text whose characters are all below 256. -/
namespace StyleSnapshot

/-- A text in which every character stands for the byte of its number. -/
abbrev Octets := Text

namespace Octets

def ofBytes (bytes : List UInt8) : Octets := bytes.map fun b => Char.ofNat b.toNat

def toBytes (t : Octets) : List UInt8 := t.map fun c => UInt8.ofNat c.toNat

/-- The bytes of the UTF-8 form of a text. -/
def ofText (t : Text) : Octets := ofBytes (Text.utf8 t)

/-- The text that the bytes write in UTF-8; faulty bytes are replaced. -/
def toText (t : Octets) : Text := Text.decodeLenient (toBytes t)

/-! ### Classes of bytes -/

def isSpace (c : Char) : Bool := c = ' ' || (9 ≤ c.toNat && c.toNat ≤ 13)

def isLower (c : Char) : Bool := 'a' ≤ c && c ≤ 'z'

def isUpper (c : Char) : Bool := 'A' ≤ c && c ≤ 'Z'

def isPunctuation (c : Char) : Bool :=
  33 ≤ c.toNat && c.toNat ≤ 126 && !c.isAlphanum

def toLower (c : Char) : Char := if isUpper c then Char.ofNat (c.toNat + 32) else c

def toUpper (c : Char) : Char := if isLower c then Char.ofNat (c.toNat - 32) else c

/-- Whether a byte belongs to the class of the given name; there may be no such class. -/
def inClass? (name : Octets) (c : Char) : Option Bool :=
  match String.ofList name with
  | "alpha" => some c.isAlpha
  | "digit" => some c.isDigit
  | "alnum" => some c.isAlphanum
  | "upper" => some (isUpper c)
  | "lower" => some (isLower c)
  | "space" => some (isSpace c)
  | "blank" => some (c = ' ' || c = '\t')
  | "punct" => some (isPunctuation c)
  | "print" => some (32 ≤ c.toNat && c.toNat ≤ 126)
  | "graph" => some (33 ≤ c.toNat && c.toNat ≤ 126)
  | "cntrl" => some (c.toNat < 32 || c.toNat = 127)
  | "xdigit" => some (c.isDigit || ('a' ≤ toLower c && toLower c ≤ 'f'))
  | _ => none

/-! ### Lines -/

/-- The lines without the breaks that end them. -/
def lines (t : Octets) : List Octets :=
  (Text.lines t).map fun line => if line.getLast? = some '\n' then line.dropLast else line

/-- The lines one under the other, each ended by a break. -/
def unlines (ls : List Octets) : Octets := ls.flatMap fun line => line ++ ['\n']

/-! ### Numbers -/

/-- The value of a digit in bases up to 36. -/
def digitValue? (c : Char) : Option Nat :=
  if c.isDigit then some (c.toNat - 48)
  else if c.isAlpha then some ((toLower c).toNat - 87)
  else none

/-- The value of the digits of a base at the front, at most `most` of them, added to what
was read so far, and the text behind them. -/
def digits (base : Nat) (soFar : Nat) : (most : Nat) → Octets → Nat × Octets
  | 0, t => (soFar, t)
  | _ + 1, [] => (soFar, [])
  | most + 1, c :: rest =>
    match (digitValue? c).filter (· < base) with
    | some d => digits base (soFar * base + d) most rest
    | none => (soFar, c :: rest)

/-- The number that decimal digits alone write. -/
def natural? (t : Octets) : Option Nat :=
  if t ≠ [] && t.all Char.isDigit then some (digits 10 0 t.length t).1 else none

/-- A number without sign at the front. In base zero a leading `0x` announces base 16 and
a leading zero base 8. -/
def leadingNatural? (base : Nat) (t : Octets) : Option (Nat × Octets) :=
  let plain (base : Nat) : Option (Nat × Octets) :=
    match t with
    | c :: _ =>
      if ((digitValue? c).filter (· < base)).isSome then some (digits base 0 t.length t) else none
    | [] => none
  match t with
  | '0' :: x :: d :: rest =>
    if (base = 0 || base = 16) && (x = 'x' || x = 'X') && ((digitValue? d).filter (· < 16)).isSome
    then some (digits 16 0 t.length (d :: rest))
    else plain (if base = 0 then 8 else base)
  | '0' :: _ => plain (if base = 0 then 8 else base)
  | _ => plain (if base = 0 then 10 else base)

/-- A number at the front, behind blanks and with a sign that may be missing. -/
def leadingInteger? (base : Nat) (t : Octets) : Option (Int × Octets) :=
  match t.dropWhile isSpace with
  | '-' :: rest => (leadingNatural? base rest).map fun r => (-(r.1 : Int), r.2)
  | '+' :: rest => (leadingNatural? base rest).map fun r => (r.1, r.2)
  | rest => (leadingNatural? base rest).map fun r => (r.1, r.2)

/-- The least number above those of 64 bits with sign. -/
def wordBound : Int := 0x8000000000000000

/-- Whether a number fits in 64 bits with sign. -/
def isWord (n : Int) : Bool := -wordBound ≤ n && n < wordBound

/-- The number of 64 bits nearest to a number. -/
def clamp (n : Int) : Int :=
  if n < -wordBound then -wordBound else if wordBound ≤ n then wordBound - 1 else n

/-- The number of 64 bits with sign that a number leaves when its higher bits are lost. -/
def wrap (n : Int) : Int := Int.bmod n (2 * wordBound).toNat

def ofInt (n : Int) : Octets := (toString n).toList

/-- The digits of a number in a base. -/
def inBase (base : Nat) (n : Nat) : Octets := Nat.toDigits base n

end Octets
end StyleSnapshot
