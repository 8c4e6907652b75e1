import StyleSnapshot.Shell.Pattern

/-! Regular expressions of the programs that search lines, and what they are looked for in.

The parts that say something of a single place are kept apart from those that join others:
a single character (`Single`), and an edge between two of them (`Edge`). -/
namespace StyleSnapshot.Shell.Tool

namespace Regex

/-- What one character can be. -/
inductive Single where
  | char (c : Char)
  | any
  | member (isNegated : Bool) (members : List Pattern.Member)
  deriving DecidableEq, Repr

/-- What is said of a place between characters. -/
inductive Edge where
  | lineStart
  | lineEnd
  | textStart
  | textEnd
  /-- The edge of a word, or what is no such edge. -/
  | word (isEdge : Bool)
  | wordStart
  | wordEnd
  deriving DecidableEq, Repr

end Regex

inductive Regex where
  | nothing
  | single (x : Regex.Single)
  | edge (e : Regex.Edge)
  | group (number : Nat) (r : Regex)
  /-- The text that a group stands for. -/
  | again (number : Nat)
  | both (a b : Regex)
  | either (a b : Regex)
  | repetition (r : Regex) (least : Nat) (most : Option Nat)
  deriving DecidableEq, Repr

namespace Regex

/-- Whether an expression refers to what a group stands for. -/
def refersBack : Regex → Bool
  | .nothing | .single _ | .edge _ => false
  | .again _ => true
  | .group _ r | .repetition r _ _ => r.refersBack
  | .both a b | .either a b => a.refersBack || b.refersBack

/-- The highest number of a group. -/
def mostGroup : Regex → Nat
  | .nothing | .single _ | .edge _ | .again _ => 0
  | .group n r => max n r.mostGroup
  | .repetition r _ _ => r.mostGroup
  | .both a b | .either a b => max a.mostGroup b.mostGroup

/-! ### Subjects -/

def isWordChar (c : Char) : Bool := c.isAlphanum || c = '_'

/-- What a match is looked for in. -/
structure Subject where
  text : Array Char
  ignoresCase : Bool := false
  /-- Whether each line of the text has ends of its own. -/
  hasLines : Bool := false
  /-- Whether the text before the first character is a line's end. -/
  startsLine : Bool := true

namespace Subject

def isWordAt (s : Subject) (i : Nat) : Bool := (s.text[i]?.map isWordChar).getD false

def isWordBefore (s : Subject) (i : Nat) : Bool := 0 < i && s.isWordAt (i - 1)

def folded (s : Subject) (c : Char) : Char := if s.ignoresCase then Octets.toLower c else c

/-- Whether a character belongs to a class. -/
def holds (s : Subject) (members : List Pattern.Member) (c : Char) : Bool :=
  members.any (·.holds c) ||
    (s.ignoresCase &&
      (members.any (·.holds (Octets.toLower c)) || members.any (·.holds (Octets.toUpper c))))

def accepts (s : Subject) (x : Single) (c : Char) : Bool :=
  match x with
  | .char d => s.folded c = s.folded d
  | .any => true
  | .member isNegated members => s.holds members c != isNegated

/-- Whether an edge lies in front of the character at a place. -/
def isAt (s : Subject) (e : Edge) (i : Nat) : Bool :=
  match e with
  | .lineStart => (i = 0 && s.startsLine) || (s.hasLines && 0 < i && s.text[i - 1]? = some '\n')
  | .lineEnd => i = s.text.size || (s.hasLines && s.text[i]? = some '\n')
  | .textStart => i = 0
  | .textEnd => i = s.text.size
  | .word isEdge => (s.isWordBefore i != s.isWordAt i) = isEdge
  | .wordStart => !s.isWordBefore i && s.isWordAt i
  | .wordEnd => s.isWordBefore i && !s.isWordAt i

def slice (s : Subject) (first last : Nat) : List Char := (s.text.extract first last).toList

end Subject

/-- Where a match ends, and what each group stands for. -/
structure Match where
  position : Nat
  groups : List (Nat × Nat × Nat) := []
  deriving DecidableEq

end Regex
end StyleSnapshot.Shell.Tool
