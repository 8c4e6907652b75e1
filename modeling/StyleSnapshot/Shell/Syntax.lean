import StyleSnapshot.Shell.Octets

/-! Shell scripts as data.

A compiler under test is often a small script. A script is read command by command; a
command is a call of a program, or other commands put together by operators and reserved
words. Words are kept in parts, because each kind of part is expanded in its own way. -/
namespace StyleSnapshot.Shell

/-- How a file is opened for a redirection. -/
inductive OpenMode where
  | input
  | output
  /-- Output that replaces a file even when files are protected. -/
  | replace
  | append
  | both
  deriving DecidableEq, Repr

/-- What a substitution makes of the value of a parameter. A parameter is missing when it
is unset, or also when it is empty if the flag says so. -/
inductive Adjustment where
  | plain
  | length
  /-- The word stands in for a missing value. -/
  | fallback (emptyIsMissing : Bool)
  /-- The word becomes the value that is missing. -/
  | assign (emptyIsMissing : Bool)
  /-- A missing value is an error, and the word tells which. -/
  | demand (emptyIsMissing : Bool)
  /-- The word stands in for a value that is not missing. -/
  | alternative (emptyIsMissing : Bool)
  /-- The word is a pattern of which a match at one end is left out. -/
  | trim (atEnd longest : Bool)
  /-- No substitution; this is found out only when it is wanted. -/
  | malformed
  deriving DecidableEq, Repr

mutual

/-- A part of a word. A part that was not quoted may be split at blanks after expansion,
and its wildcards are active. -/
inductive Part where
  | literal (t : Octets) (isQuoted : Bool)
  | parameter (name : Octets) (adjustment : Adjustment) (word : List Part) (isQuoted : Bool)
  /-- What commands write to their standard output. -/
  | output (commands : Option Command) (isQuoted : Bool)
  /-- The value of an expression. -/
  | value (expression : List Part) (isQuoted : Bool)

inductive Redirection where
  | file (descriptor : Nat) (mode : OpenMode) (name : List Part)
  /-- To where another descriptor leads, or nowhere. -/
  | copy (descriptor : Nat) (source : List Part)
  /-- From a document in the script, by its number. -/
  | document (descriptor : Nat) (number : Nat)

inductive Command where
  | simple (line : Nat) (assignments : List (Octets × List Part)) (words : List (List Part))
      (redirections : List Redirection)
  | redirected (line : Nat) (body : Command) (redirections : List Redirection)
  | sequence (first second : Command)
  /-- The second command runs when the first succeeds, or when it fails. -/
  | conditional (onSuccess : Bool) (first second : Command)
  | negation (command : Command)
  | pipeline (commands : List Command)
  /-- A command that nobody waits for. -/
  | background (command : Command)
  /-- A command whose variables and directory are its own. -/
  | subshell (line : Nat) (body : Command) (redirections : List Redirection)
  | branch (condition yes : Command) (no : Option Command)
  /-- Repeats the body as long as the condition succeeds, or as long as it fails. -/
  | loop (onSuccess : Bool) (condition body : Command)
  | each (line : Nat) (name : Octets) (words : List (List Part)) (body : Command)
  | choice (line : Nat) (subject : List Part) (arms : List (List (List Part) × Option Command))
  | definition (name : Octets) (body : Command)

end

abbrev Word := List Part

/-! ### Names -/

def isNameStart (c : Char) : Bool := c.isAlpha || c = '_'

def isNameChar (c : Char) : Bool := c.isAlphanum || c = '_'

/-- A parameter that one character names. -/
def isSpecial (c : Char) : Bool :=
  c = '#' || c = '?' || c = '$' || c = '!' || c = '-' || c = '*' || c = '@'

def isName (t : Octets) : Bool :=
  match t with
  | c :: rest => isNameStart c && rest.all isNameChar
  | [] => false

/-- The name that is assigned to here and the text behind the equals sign. -/
def assignment? (t : Octets) : Option (Octets × Octets) :=
  match Text.cut? ['='] t with
  | some (name, value) => if isName name then some (name, value) else none
  | none => none

end StyleSnapshot.Shell
