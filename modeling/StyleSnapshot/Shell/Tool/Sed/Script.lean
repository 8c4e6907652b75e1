import StyleSnapshot.Shell.Tool.Regex.Match

/-! Editing scripts.

A script is a row of commands, each with the lines it applies to. Blocks are kept as marks
in the row, so that a jump is a place in it. -/
namespace StyleSnapshot.Shell.Tool.Sed

/-- A search: no expression stands for the one that was used last. -/
structure Search where
  matcher : Option Matcher
  ignoresCase : Bool := false
  hasLines : Bool := false

inductive Address where
  | line (n : Nat)
  | last
  | search (s : Search)
  /-- Every so many lines from one on. -/
  | every (first step : Nat)

/-- Where a range ends. -/
inductive RangeEnd where
  | address (a : Address)
  | count (n : Nat)
  | multiple (n : Nat)

/-- The lines a command applies to. -/
inductive Span where
  | all
  | at (a : Address)
  /-- A range; before the first line it may already be open. -/
  | range (first : Option Address) (last : RangeEnd)

inductive CaseChange where
  | upper
  | lower
  | upperNext
  | lowerNext
  | off
  deriving DecidableEq, Repr

inductive Replacement where
  | text (t : Octets)
  /-- What a group stands for; the whole match is group zero. -/
  | group (n : Nat)
  | case (c : CaseChange)

/-- Where lines are written. -/
inductive Destination where
  | output
  /-- A standard stream by its name among the devices. -/
  | standard (n : Nat)
  | file (path : Octets)
  deriving DecidableEq, Repr

structure Substitution where
  search : Search
  replacement : List Replacement
  /-- The first match that is replaced, if one is named, and whether those behind it are too. -/
  number : Option Nat := none
  isGlobal : Bool := false
  prints : Bool := false
  copy : Option Destination := none

inductive Action where
  | opening
  | closing
  | substitute (s : Substitution)
  | transliterate (table : List (Char × Char))
  | append (t : Octets)
  | insert (t : Octets)
  | change (t : Octets)
  | delete
  | deleteFirst
  | print
  | printFirst
  | next
  | appendNext
  | get
  | getAppend
  | hold
  | holdAppend
  | exchange
  | clear
  | number
  | name
  /-- Shows what does not print, in lines of a width if there is one. -/
  | list (width : Option Nat)
  | quit (isSilent : Bool) (status : Nat)
  | label (t : Octets)
  | branch (t : Octets)
  | branchIf (wanted : Bool) (t : Octets)
  | readFile (path : Octets)
  | readLine (path : Octets)
  | write (isFirst : Bool) (d : Destination)

structure Command where
  span : Span
  isNegated : Bool
  action : Action

/-- The command that a jump to a label leads to, or the end of the script. -/
def labelled? (cs : Array Command) (t : Octets) : Option Nat :=
  if t = [] then some cs.size
  else
    cs.findIdx? fun c => match c.action with
      | .label l => l = t
      | _ => false

/-- The first label that a jump misses. -/
def missingLabel? (cs : Array Command) : Option Octets :=
  cs.findSome? fun c => match c.action with
    | .branch t | .branchIf _ t => if (labelled? cs t).isNone then some t else none
    | _ => none

/-- Where commands write besides the output, each once. -/
def destinations (cs : Array Command) : List Destination :=
  (cs.toList.filterMap fun c => match c.action with
    | .write _ d => some d
    | .substitute s => s.copy
    | _ => none).eraseDups

end StyleSnapshot.Shell.Tool.Sed
