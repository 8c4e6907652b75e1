import StyleSnapshot.Shell.Pattern

/-! Fields.

When a word has been expanded, the results of substitutions that were not quoted are split
into fields. Separators are the bytes of a set; those of them that are blank stand
together for one separator, also around one that is not blank. The null character never
occurs in a value, so it stands between values that are always separated. -/
namespace StyleSnapshot.Shell

/-- A piece of an expanded word. -/
inductive Piece where
  /-- Text that is kept together, and makes a field even if it is empty. -/
  | fixed (t : Marked)
  /-- Text to be split. -/
  | loose (t : Marked)
  /-- The end of a field. -/
  | cut
  deriving DecidableEq, Repr

namespace Fields

/-- The separators of a script that sets none. -/
def separators : Octets := [' ', '\t', '\n']

def isBlank (c : Char) : Bool := c ∈ separators || c = '\x00'

/-- What stands behind the last separator. -/
inductive Edge where
  | inside
  /-- Only blanks so far, so a separator that is not blank still belongs to it. -/
  | blank
  | full
  deriving DecidableEq, Repr

/-- The fields so far, the last first, and the field in the making, backwards. -/
structure Draft where
  done : List Marked := []
  field : Option Marked := none
  edge : Edge := .inside

namespace Draft

/-- Ends the field in the making, which may be empty. -/
def cut (d : Draft) (edge : Edge) : Draft :=
  { done := (d.field.getD []).reverse :: d.done, edge := edge }

/-- Adds a character that may separate. -/
def addLoose (ifs : Octets) (d : Draft) (c : Char × Bool) : Draft :=
  if c.1 ∉ ifs && c.1 ≠ '\x00' then { d with field := some (c :: d.field.getD []), edge := .inside }
  else if isBlank c.1 then
    if d.field.isNone then d else d.cut .blank
  else if d.field.isNone && d.edge = .blank then { d with edge := .full }
  else d.cut .full

def add (ifs : Octets) (d : Draft) : Piece → Draft
  | .fixed t => { d with field := some (t.reverse ++ d.field.getD []) }
  | .cut => d.cut .inside
  | .loose t => t.foldl (addLoose ifs) { d with edge := .inside }

end Draft

/-- The fields of an expanded word. -/
def split (ifs : Octets) (ps : List Piece) : List Marked :=
  let d := ps.foldl (Draft.add ifs) {}
  (d.done.reverse) ++ (d.field.map (·.reverse)).toList

/-- An expanded word that is not split. -/
def whole (ps : List Piece) : Marked :=
  ps.flatMap fun
    | .fixed t | .loose t => t
    | .cut => [(' ', true)]

/-! ### Reading a line -/

def isSeparating (ifs : Octets) (c : Char × Bool) : Bool := !c.2 && c.1 ∈ ifs

def isBlankSeparator (ifs : Octets) (c : Char × Bool) : Bool := isSeparating ifs c && isBlank c.1

/-- The text of the last name: a single field without its separator, and several fields
with all separators but the blanks at the end. -/
def remainder (ifs : Octets) (t : Marked) : Marked :=
  let t := (t.reverse.dropWhile (isBlankSeparator ifs)).reverse
  match t.reverse with
  | [] => []
  | c :: before =>
    let field := (before.dropWhile (isBlankSeparator ifs)).reverse
    if isSeparating ifs c && !field.any (isSeparating ifs) then field else t

/-- Deals the text of a line out to as many names. -/
def deal (ifs : Octets) : (count : Nat) → Marked → List Marked
  | 0, _ => []
  | count + 1, t =>
    let t := t.dropWhile (isBlankSeparator ifs)
    if count = 0 then [remainder ifs t]
    else
      let field := t.takeWhile fun c => !isSeparating ifs c
      let behind := (t.drop field.length).dropWhile (isBlankSeparator ifs)
      field :: deal ifs count
        (if behind.head?.any (isSeparating ifs) then behind.tail else behind)

end Fields
end StyleSnapshot.Shell
