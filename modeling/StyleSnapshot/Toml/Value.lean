import StyleSnapshot.Text.Basic

/-! Values of a TOML document, and how its statements build them.

A document is a sequence of statements: headers, which choose the table that what follows
belongs to, and pairs of a key and a value. A key may be dotted and then reaches through
tables. Each table remembers how it came to be, because that decides which later
statements may still add to it. -/
namespace StyleSnapshot.Toml

/-- How a table came to be. -/
inductive Origin where
  /-- Written as a value, and complete. -/
  | inline
  /-- Named by a header of its own. -/
  | header
  /-- Passed through by the header of a table inside it. -/
  | implied
  /-- Passed through by a dotted key. -/
  | dotted
  deriving DecidableEq, Repr

inductive Value where
  | string (t : Text)
  | integer (n : Int)
  | boolean (b : Bool)
  /-- A fractional number, an infinity or no number, as it was written. -/
  | fraction (literal : Text)
  /-- A date, a time of day or both, as it was written. -/
  | moment (literal : Text)
  | array (items : List Value)
  /-- An array whose tables have a header each. -/
  | tables (items : List Value)
  | table (origin : Origin) (members : List (Text × Value))

/-- The members of a table in the order of their first appearance. -/
abbrev Members := List (Text × Value)

/-- The members with a value at a key, in place of the value that was there. -/
def Members.set (ms : Members) (key : Text) (value : Value) : Members :=
  match ms with
  | [] => [(key, value)]
  | (k, v) :: rest => if k = key then (k, value) :: rest else (k, v) :: Members.set rest key value

/-- Why a key cannot be reached or given a value. -/
inductive Conflict where
  /-- The key has a value already. -/
  | duplicate (key : Text)
  /-- The key holds something that is no open table. -/
  | notExtensible (key : Text)
  deriving DecidableEq, Repr

/-- The value at a key; of several equal keys the first counts. -/
def get? (key : Text) (ms : Members) : Option Value := ms.lookup key

/-- Changes the table that a path of keys leads to, making tables on the way. Through an
array of tables the path leads into the last of them. `dotted` says whether the keys
belong to a dotted key, which may not pass through a table with a header of its own. -/
def reach (dotted : Bool) (change : Origin → Members → Except Conflict (Origin × Members)) :
    List Text → Origin → Members → Except Conflict (Origin × Members)
  | [], origin, ms => change origin ms
  | key :: path, origin, ms =>
    match get? key ms with
    | none =>
      (reach dotted change path (if dotted then .dotted else .implied) []).map fun inner =>
        (origin, Members.set ms key (.table inner.1 inner.2))
    | some (.table o inner) =>
      if o = .inline ∨ (dotted ∧ o = .header) then .error (.notExtensible key)
      else (reach dotted change path o inner).map fun inner =>
        (origin, Members.set ms key (.table inner.1 inner.2))
    | some (.tables items) =>
      match items.getLast? with
      | some (.table o inner) =>
        (reach dotted change path o inner).map fun inner =>
          (origin, Members.set ms key (.tables (items.dropLast ++ [.table inner.1 inner.2])))
      | _ => .error (.notExtensible key)
    | some _ => .error (.notExtensible key)

/-- Gives a key of the table at hand a value. A table is filled either by dotted keys or
directly. -/
def assign (throughDots : Bool) (key : Text) (value : Value) (origin : Origin) (ms : Members) :
    Except Conflict (Origin × Members) :=
  if decide (origin = .dotted) != throughDots then .error (.notExtensible key)
  else
    match get? key ms with
    | some _ => .error (.duplicate key)
    | none => .ok (origin, Members.set ms key value)

/-- Gives a dotted key a value in the table at hand. -/
def assignPath (path : List Text) (key : Text) (value : Value) (origin : Origin) (ms : Members) :
    Except Conflict (Origin × Members) :=
  reach true (assign (!path.isEmpty) key value) path origin ms

/-- Opens a table by its header: it must be new or have been implied only. -/
def openTable (key : Text) (origin : Origin) (ms : Members) :
    Except Conflict (Origin × Members) :=
  match get? key ms with
  | none => .ok (origin, Members.set ms key (.table .header []))
  | some (.table .implied inner) => .ok (origin, Members.set ms key (.table .header inner))
  | some _ => .error (.duplicate key)

/-- Adds a table to an array of tables by its header. -/
def appendTable (key : Text) (origin : Origin) (ms : Members) :
    Except Conflict (Origin × Members) :=
  match get? key ms with
  | none => .ok (origin, Members.set ms key (.tables [.table .header []]))
  | some (.tables items) =>
    .ok (origin, Members.set ms key (.tables (items ++ [.table .header []])))
  | some _ => .error (.duplicate key)

/-! ### Statements -/

inductive Statement where
  /-- A key, the part before its last dot given apart, and its value. -/
  | pair (path : List Text) (key : Text) (value : Value)
  | tableHeader (path : List Text) (key : Text)
  | arrayHeader (path : List Text) (key : Text)

/-- A document so far, and the table that pairs go to. -/
structure Document where
  members : Members
  current : List Text

def Document.empty : Document := ⟨[], []⟩

/-- The document with one more statement. -/
def Document.add (d : Document) : Statement → Except Conflict Document
  | .pair path key value =>
    (reach false (assignPath path key value) d.current .header d.members).map fun root =>
      ⟨root.2, d.current⟩
  | .tableHeader path key =>
    (reach false (openTable key) path .header d.members).map fun root =>
      ⟨root.2, path ++ [key]⟩
  | .arrayHeader path key =>
    (reach false (appendTable key) path .header d.members).map fun root =>
      ⟨root.2, path ++ [key]⟩

end StyleSnapshot.Toml
