import StyleSnapshot.Shell.Syntax

/-! The position of a reader in a script.

A reader moves a cursor and may give up with an error. The cursor counts lines for the
sake of messages, and it remembers the documents in the script: one that was announced
follows behind the next line break, so its announcement is kept until then. -/
namespace StyleSnapshot.Shell

/-- Why a text is no script, and the line on which that was found out. -/
structure SyntaxError where
  line : Nat
  message : Octets
  deriving DecidableEq, Repr

/-- The announcement of a document that is still to come. -/
structure Announcement where
  number : Nat
  /-- The line that ends the document. -/
  marker : Octets
  isQuoted : Bool
  /-- Whether tabs in front of the lines are dropped. -/
  isIndented : Bool
  deriving DecidableEq, Repr

/-- A word and whether any part of it was quoted. -/
structure Written where
  word : Word
  isQuoted : Bool

inductive Token where
  | ending
  | newline
  | operator (t : Octets)
  /-- A redirection, which the name of its target follows. -/
  | redirection (descriptor : Nat) (sign : Octets)
  | word (w : Written)
  | reserved (t : Octets)

/-- The text of an alias that was put into the script. It ends where so many characters of
the script are left. -/
structure Replacement where
  name : Octets
  left : Nat
  /-- Whether the word behind the text may be an alias as well. -/
  goesOn : Bool

structure Cursor where
  rest : Octets
  line : Nat
  /-- A token that has been read but is still to be used. -/
  pushed : Option Token := none
  announced : List Announcement := []
  documents : List (Nat × Word) := []
  /-- The number of the next document. -/
  next : Nat
  /-- The line of the command that runs while this is read. -/
  outer : Nat
  aliases : List (Octets × Octets) := []
  replacements : List Replacement := []

/-- Something that is read from a script. -/
abbrev Reader := StateT Cursor (Except SyntaxError)

namespace Reader

/-- Gives up at the line at hand. -/
def fail (message : String) : Reader α := do
  throw ⟨(← get).line, message.toList⟩

def unread (c : Char) : Reader Unit :=
  modify fun k => { k with rest := c :: k.rest, line := if c = '\n' then k.line - 1 else k.line }

/-- The next character. -/
def raw : Reader (Option Char) := do
  let k ← get
  match k.rest with
  | [] => pure none
  | c :: rest =>
    set { k with rest := rest, line := if c = '\n' then k.line + 1 else k.line }
    pure (some c)

/-- The text behind backslashes that hide line breaks, and the number of the breaks. -/
def joinLines (count : Nat) : Octets → Octets × Nat
  | '\\' :: '\n' :: rest => joinLines (count + 1) rest
  | t => (t, count)

/-- The next character behind backslashes that hide line breaks. -/
def next : Reader (Option Char) := do
  modify fun k =>
    let (rest, count) := joinLines 0 k.rest
    { k with rest := rest, line := k.line + count }
  raw

/-- Repeats a step until it has a result. The script bounds the number of steps. -/
def untilDone (step : σ → Reader (σ ⊕ β)) : Nat → σ → Reader β
  | 0, _ => fail "too deep"
  | fuel + 1, s => do
    match ← step s with
    | .inl s => untilDone step fuel s
    | .inr b => pure b

/-- Repeats a step that reads a character each time. -/
def loop (step : σ → Reader (σ ⊕ β)) (s : σ) : Reader β := do
  untilDone step (2 * (← get).rest.length + 8) s

end Reader

/-- How a message speaks of a token. -/
def Token.description : Token → Octets
  | .ending => "end of file".toList
  | .newline => "newline".toList
  | .redirection .. => "redirection".toList
  | .word _ => "word".toList
  | .operator t | .reserved t => '"' :: t ++ ['"']

/-- What a sequence of commands is part of. -/
inductive Scope where
  /-- A line of a script. -/
  | line
  /-- A part of a compound command, which may not be empty. -/
  | block
  /-- A substitution or an arm of a choice, which may be empty. -/
  | optional
  deriving DecidableEq, Repr

/-- How the characters of a word are to be understood. -/
inductive Quoting where
  | none
  | double
  /-- In a document: only substitutions are special. -/
  | document
  deriving DecidableEq, Repr

/-- The readers that a construct needs for what is nested in it. -/
structure Nested where
  commands : Scope → Reader (Option Command)
  /-- The word in a substitution, up to its closing brace. -/
  braced : Quoting → Reader Word

end StyleSnapshot.Shell
