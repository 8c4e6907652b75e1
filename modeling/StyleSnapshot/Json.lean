import StyleSnapshot.Text.Quoted

/-! Structured output.

A value is written either on one line, without any spaces, or spread over lines with two
spaces for each level. Members keep the order they are given in. Only the quote, the
backslash and control characters are escaped in a text. -/
namespace StyleSnapshot

inductive Json where
  | null
  | bool (b : Bool)
  /-- A number by its digits. -/
  | number (digits : Text)
  | string (t : Text)
  | array (items : List Json)
  | object (members : List (Text × Json))

namespace Json

def ofNat (n : Nat) : Json := .number (Text.ofNat n)

def ofTexts (ts : List Text) : Json := .array (ts.map .string)

/-- An object whose member names are given as literals. -/
def record (members : List (String × Json)) : Json :=
  .object (members.map fun m => (m.1.toList, m.2))

/-- A control character by its code point in four digits. -/
def codePoint (c : Char) : Text :=
  let digits := Text.hex c.toNat
  ['\\', 'u'] ++ List.replicate (4 - digits.length) '0' ++ digits

/-- One character of a text. -/
def escaped (c : Char) : Text :=
  if c = '"' || c = '\\' then ['\\', c]
  else if c = '\x08' then ['\\', 'b']
  else if c = '\x0c' then ['\\', 'f']
  else if c = '\n' then ['\\', 'n']
  else if c = '\r' then ['\\', 'r']
  else if c = '\t' then ['\\', 't']
  else if c.toNat < 0x20 then codePoint c
  else [c]

def quoted (t : Text) : Text := '"' :: t.flatMap escaped ++ ['"']

/-! ### One line -/

mutual

/-- A value on one line. -/
def compact : Json → Text
  | .null => "null".toList
  | .bool b => (toString b).toList
  | .number digits => digits
  | .string t => quoted t
  | .array items => '[' :: compactItems items ++ [']']
  | .object members => '\x7b' :: compactMembers members ++ ['\x7d']

def compactItems : List Json → Text
  | [] => []
  | [item] => compact item
  | item :: more => compact item ++ ',' :: compactItems more

def compactMembers : List (Text × Json) → Text
  | [] => []
  | [(name, value)] => quoted name ++ ':' :: compact value
  | (name, value) :: more => quoted name ++ ':' :: compact value ++ ',' :: compactMembers more

end

/-! ### Many lines -/

/-- A line break and the indentation of a level. -/
def newline (level : Nat) : Text := '\n' :: List.replicate (2 * level) ' '

mutual

/-- A value spread over lines, inside something at the given level. An empty array or
object is closed at once. -/
def pretty (level : Nat) : Json → Text
  | .null => "null".toList
  | .bool b => (toString b).toList
  | .number digits => digits
  | .string t => quoted t
  | .array [] => ['[', ']']
  | .array (item :: more) =>
    '[' :: prettyItems (level + 1) (item :: more) ++ newline level ++ [']']
  | .object [] => ['\x7b', '\x7d']
  | .object (member :: more) =>
    '\x7b' :: prettyMembers (level + 1) (member :: more) ++ newline level ++ ['\x7d']

def prettyItems (level : Nat) : List Json → Text
  | [] => []
  | [item] => newline level ++ pretty level item
  | item :: more => newline level ++ pretty level item ++ ',' :: prettyItems level more

def prettyMembers (level : Nat) : List (Text × Json) → Text
  | [] => []
  | [(name, value)] => newline level ++ quoted name ++ [':', ' '] ++ pretty level value
  | (name, value) :: more =>
    newline level ++ quoted name ++ [':', ' '] ++ pretty level value ++
      ',' :: prettyMembers level more

end

end Json
end StyleSnapshot
