import StyleSnapshot.Toml.Fraction
import StyleSnapshot.Toml.Moment

/-! Reading a TOML document.

Every reader answers with what it has read and the text behind it, or not at all. Arrays
and inline tables stand at most so deep inside each other, and a dotted key has at most
so many parts, as a limit says. Readers that call each other carry fuel, of which each
call that reads a character takes one, so the length of the text bounds them. -/
namespace StyleSnapshot.Toml

/-! ### Blanks and comments -/

def isSpace (c : Char) : Bool := c = ' ' || c = '\t'

/-- Whether a character may stand in a comment or a text on one line. -/
def isAllowed (c : Char) : Bool := c = '\t' || (0x20 ≤ c.toNat && c.toNat ≠ 0x7F)

def skipSpaces (t : Text) : Text := t.dropWhile isSpace

/-- The text behind a comment, which ends before a line break. -/
def skipComment (t : Text) : Text :=
  match t with
  | '#' :: rest => rest.dropWhile isAllowed
  | _ => t

/-- The text behind a line break. -/
def afterNewline? : Text → Option Text
  | '\n' :: rest => some rest
  | '\r' :: '\n' :: rest => some rest
  | _ => none

/-- The text behind spaces, comments and line breaks. -/
def skipLines (fuel : Nat) (t : Text) : Text :=
  let behind := skipComment (skipSpaces t)
  match fuel with
  | 0 => behind
  | fuel + 1 =>
    match afterNewline? behind with
    | some rest => skipLines fuel rest
    | none => behind

/-- The text behind the end of a line: spaces, perhaps a comment, and a line break or the
end of the document. -/
def endLine? (t : Text) : Option Text :=
  match skipComment (skipSpaces t) with
  | [] => some []
  | behind => afterNewline? behind

/-! ### Texts -/

/-- The number that exactly `count` hexadecimal digits write. -/
def hexNumber? : Nat → Nat → Text → Option (Nat × Text)
  | 0, soFar, t => some (soFar, t)
  | _ + 1, _, [] => none
  | n + 1, soFar, c :: rest =>
    if c.isDigit then hexNumber? n (soFar * 16 + (c.toNat - 48)) rest
    else if 'a' ≤ c && c ≤ 'f' then hexNumber? n (soFar * 16 + (c.toNat - 87)) rest
    else if 'A' ≤ c && c ≤ 'F' then hexNumber? n (soFar * 16 + (c.toNat - 55)) rest
    else none

/-- The character of a code point, unless it is a surrogate or too large. -/
def character? (code : Nat × Text) : Option (Char × Text) :=
  if code.1.isValidChar then some (Char.ofNat code.1, code.2) else none

/-- The character that an escape stands for, given the text behind the backslash. -/
def escape? : Text → Option (Char × Text)
  | 'b' :: rest => some ('\x08', rest)
  | 't' :: rest => some ('\t', rest)
  | 'n' :: rest => some ('\n', rest)
  | 'f' :: rest => some ('\x0c', rest)
  | 'r' :: rest => some ('\r', rest)
  | '"' :: rest => some ('"', rest)
  | '\\' :: rest => some ('\\', rest)
  | 'u' :: rest => (hexNumber? 4 0 rest).bind character?
  | 'U' :: rest => (hexNumber? 8 0 rest).bind character?
  | _ => none

/-- A text on one line between double quotes, from behind the first. -/
def basicText? : Nat → Text → Option (Text × Text)
  | _, [] => none
  | 0, _ => none
  | fuel + 1, c :: rest =>
    if c = '"' then some ([], rest)
    else if c = '\\' then do
      let (d, behind) ← escape? rest
      let (more, behind) ← basicText? fuel behind
      some (d :: more, behind)
    else if isAllowed c then (basicText? fuel rest).map fun r => (c :: r.1, r.2)
    else none

/-- A text on one line between single quotes, from behind the first. -/
def literalText? : Text → Option (Text × Text)
  | [] => none
  | c :: rest =>
    if c = '\'' then some ([], rest)
    else if isAllowed c then (literalText? rest).map fun r => (c :: r.1, r.2)
    else none

/-- The text behind a line break that a backslash hides: more blanks and line breaks. -/
def skipFolded : Nat → Text → Text
  | 0, t => t
  | fuel + 1, t =>
    match afterNewline? (skipSpaces t) with
    | some rest => skipFolded fuel rest
    | none => skipSpaces t

/-- A text over several lines, from behind the three quotes that open it. Of up to five
quotes in a row the last three close it. Only double quotes know escapes. -/
def multilineText? (quote : Char) : Nat → Text → Option (Text × Text)
  | _, [] => none
  | 0, _ => none
  | fuel + 1, c :: rest =>
    if c = quote then
      let run := (c :: rest).takeWhile (· = quote)
      let behind := (c :: rest).dropWhile (· = quote)
      if run.length < 3 then
        (multilineText? quote fuel behind).map fun r => (run ++ r.1, r.2)
      else if run.length < 6 then some (run.drop 3, behind)
      else none
    else if c = '\\' && quote = '"' then
      match afterNewline? (skipSpaces rest) with
      | some behind => multilineText? quote fuel (skipFolded fuel behind)
      | none => do
        let (d, behind) ← escape? rest
        let (more, behind) ← multilineText? quote fuel behind
        some (d :: more, behind)
    else
      match afterNewline? (c :: rest) with
      | some behind => (multilineText? quote fuel behind).map fun r => ('\n' :: r.1, r.2)
      | none =>
        if isAllowed c then (multilineText? quote fuel rest).map fun r => (c :: r.1, r.2)
        else none

/-- A line break directly behind the opening quotes is no part of the text. -/
def skipFirstNewline (t : Text) : Text := (afterNewline? t).getD t

/-- A text in any of the four notations. -/
def text? (fuel : Nat) : Text → Option (Text × Text)
  | '"' :: '"' :: '"' :: rest => multilineText? '"' fuel (skipFirstNewline rest)
  | '\'' :: '\'' :: '\'' :: rest => multilineText? '\'' fuel (skipFirstNewline rest)
  | '"' :: rest => basicText? fuel rest
  | '\'' :: rest => literalText? rest
  | _ => none

/-! ### Keys -/

def isBareKeyChar (c : Char) : Bool := c.isAlphanum || c = '_' || c = '-'

/-- One part of a key. -/
def keyPart? (fuel : Nat) : Text → Option (Text × Text)
  | '"' :: rest => basicText? fuel rest
  | '\'' :: rest => literalText? rest
  | t =>
    match t.takeWhile isBareKeyChar with
    | [] => none
    | bare => some (bare, t.dropWhile isBareKeyChar)

/-- The parts of a key: those before its last dot, the last, and the text behind it. -/
def keyParts? (fuel : Nat) (t : Text) : Option (List Text × Text × Text) :=
  match fuel with
  | 0 => none
  | fuel + 1 => do
    let (part, behind) ← keyPart? fuel (skipSpaces t)
    match skipSpaces behind with
    | '.' :: rest =>
      let (path, last, behind) ← keyParts? fuel rest
      some (part :: path, last, behind)
    | behind => some ([], part, behind)

/-- How deep values may be nested, and how many parts a key may have. -/
def depthLimit : Nat := 79

/-- A key as the part before its last dot, the last part, and the text behind it. -/
def key? (fuel : Nat) (t : Text) : Option (List Text × Text × Text) :=
  (keyParts? fuel t).filter fun r => r.1.length < depthLimit

/-! ### Numbers and truth values -/

/-- The value of a digit. -/
def digit? (base : Nat) (c : Char) : Option Nat :=
  (hexNumber? 1 0 [c]).bind fun r => if r.1 < base then some r.1 else none

/-- The number that digits write, single underscores between them aside. -/
def digits? (base : Nat) (soFar : Nat) : Text → Option Nat
  | [] => none
  | [c] => (digit? base c).map (soFar * base + ·)
  | c :: '_' :: rest => (digit? base c).bind fun d => digits? base (soFar * base + d) rest
  | c :: rest => (digit? base c).bind fun d => digits? base (soFar * base + d) rest

/-- A decimal number without sign; only zero itself begins with a zero. -/
def decimal? (t : Text) : Option Nat :=
  if t.head? = some '0' ∧ t ≠ ['0'] then none else digits? 10 0 t

/-- The least number that is too large for 64 bits with a sign. -/
def integerBound : Int := 0x8000000000000000

/-- A whole number of 64 bits. -/
def integer? (t : Text) : Option Int :=
  let n : Option Int :=
    match t with
    | '+' :: rest => (decimal? rest).map Int.ofNat
    | '-' :: rest => (decimal? rest).map fun n => -(n : Int)
    | '0' :: 'x' :: rest => (digits? 16 0 rest).map Int.ofNat
    | '0' :: 'o' :: rest => (digits? 8 0 rest).map Int.ofNat
    | '0' :: 'b' :: rest => (digits? 2 0 rest).map Int.ofNat
    | _ => (decimal? t).map Int.ofNat
  n.filter fun n => -integerBound ≤ n && n < integerBound

/-- The characters of numbers, truth values and dates. -/
def isScalarChar (c : Char) : Bool :=
  c.isAlphanum || c = '+' || c = '-' || c = '_' || c = '.' || c = ':'

/-- The value that a word writes: a number, a truth value, a date or a time. -/
def word? (word : Text) : Option Value :=
  if word = "true".toList then some (.boolean true)
  else if word = "false".toList then some (.boolean false)
  else
    match integer? word with
    | some n => some (.integer n)
    | none => (fraction? word).or (moment? word)

/-- A value that is written as a word. A space may join a date and a time. -/
def scalar? (t : Text) : Option (Value × Text) :=
  let word := t.takeWhile isScalarChar
  let behind := t.dropWhile isScalarChar
  let time := behind.tail.takeWhile isScalarChar
  if isDate word && behind.head? = some ' ' && isZonedTime time then
    some (.moment (word ++ ' ' :: time), behind.tail.dropWhile isScalarChar)
  else (word? word).map fun v => (v, behind)

/-! ### Values -/

mutual

/-- A value that begins here and is nested at most `depth` deep. -/
def value? (fuel depth : Nat) (t : Text) : Option (Value × Text) :=
  match fuel with
  | 0 => none
  | fuel + 1 =>
    match t with
    | '[' :: rest =>
      if depth = 0 then none
      else (items? fuel (depth - 1) rest).map fun r => (.array r.1, r.2)
    | '\x7b' :: rest =>
      if depth = 0 then none
      else
        match skipSpaces rest with
        | '\x7d' :: behind => some (.table .inline [], behind)
        | inside =>
          (pairs? fuel (depth - 1) .inline [] inside).map fun r => (.table .inline r.1, r.2)
    | c :: rest =>
      if c = '"' || c = '\'' then (text? fuel (c :: rest)).map fun r => (.string r.1, r.2)
      else scalar? (c :: rest)
    | [] => none

/-- The items of an array up to and including the closing bracket. -/
def items? (fuel depth : Nat) (t : Text) : Option (List Value × Text) :=
  match fuel with
  | 0 => none
  | fuel + 1 =>
    match skipLines fuel t with
    | ']' :: rest => some ([], rest)
    | inside => do
      let (item, behind) ← value? fuel depth inside
      match skipLines fuel behind with
      | ']' :: rest => some ([item], rest)
      | ',' :: rest =>
        let (more, behind) ← items? fuel depth rest
        some (item :: more, behind)
      | _ => none

/-- The pairs of an inline table up to and including the closing brace. -/
def pairs? (fuel depth : Nat) (origin : Origin) (ms : Members) (t : Text) :
    Option (Members × Text) :=
  match fuel with
  | 0 => none
  | fuel + 1 => do
    let (path, key, behind) ← key? fuel t
    match behind with
    | '=' :: rest =>
      let (value, behind) ← value? fuel depth (skipSpaces rest)
      let (origin, ms) ← (assignPath path key value origin ms).toOption
      match skipSpaces behind with
      | '\x7d' :: rest => some (ms, rest)
      | ',' :: rest => pairs? fuel depth origin ms rest
      | _ => none
    | _ => none

end

/-! ### Statements -/

/-- The statement that begins here and the text behind its line. -/
def statement? (fuel : Nat) (t : Text) : Option (Statement × Text) :=
  match t with
  | '[' :: '[' :: rest => do
    let (path, key, behind) ← key? fuel rest
    match behind with
    | ']' :: ']' :: rest => (endLine? rest).map fun rest => (.arrayHeader path key, rest)
    | _ => none
  | '[' :: rest => do
    let (path, key, behind) ← key? fuel rest
    match behind with
    | ']' :: rest => (endLine? rest).map fun rest => (.tableHeader path key, rest)
    | _ => none
  | _ => do
    let (path, key, behind) ← key? fuel t
    match behind with
    | '=' :: rest =>
      let (value, behind) ← value? fuel depthLimit (skipSpaces rest)
      (endLine? behind).map fun rest => (.pair path key value, rest)
    | _ => none

/-- Reads the statements from here to the end. -/
def statements? (fuel : Nat) (d : Document) (t : Text) : Option Document :=
  match fuel with
  | 0 => none
  | fuel + 1 =>
    match skipLines fuel t with
    | [] => some d
    | inside => do
      let (statement, rest) ← statement? fuel inside
      let d ← (d.add statement).toOption
      statements? fuel d rest

/-- Reads a document; a byte order mark in front is no part of it. -/
def parse? (t : Text) : Option Members :=
  let t := (Text.after? ['\uFEFF'] t).getD t
  (statements? (3 * t.length + 3) .empty t).map (·.members)

end StyleSnapshot.Toml
