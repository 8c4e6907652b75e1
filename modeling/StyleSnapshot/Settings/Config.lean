import StyleSnapshot.Fixture.Assertion
import StyleSnapshot.Path
import StyleSnapshot.Stylesheet.Basic
import StyleSnapshot.Toml.Reader

/-! The configuration file.

Every key is optional, an unknown key or a value of the wrong kind is an error, and a
relative fixture directory is relative to the directory of the file. A record is
normally written as a table, but an array of its fields in order will do. The name of a
policy is normally a text, but a table whose only member has that name and is empty will
do. -/
namespace StyleSnapshot

/-- A program to run and its arguments. -/
structure Command where
  program : Text
  arguments : List Text
  deriving DecidableEq, Repr

structure Config where
  fixtureDirectory : Option Path := none
  fixtureGlob : Option Text := none
  proximity : Option Nat := none
  lookahead : Option Nat := none
  failureLimit : Option Nat := none
  duplicates : Option DuplicatePolicy := none
  compiler : Option Command := none
  deriving DecidableEq, Repr

/-- Why a text is no configuration. -/
inductive ConfigError where
  /-- The text is no document. -/
  | malformed
  | unknownKey (key : Text)
  /-- The value of a key is of the wrong kind. -/
  | wrongValue (key : Text)
  deriving DecidableEq, Repr

def ConfigError.message : ConfigError → Text
  | .malformed => "malformed document".toList
  | .unknownKey key => "unknown key \x60".toList ++ key ++ "\x60".toList
  | .wrongValue key => "wrong value for \x60".toList ++ key ++ "\x60".toList

namespace DuplicatePolicy

def name : DuplicatePolicy → Text
  | .merge => "merge".toList
  | .lastWins => "last-wins".toList

/-- The policy of a name. -/
def ofName? (t : Text) : Option DuplicatePolicy :=
  [merge, lastWins].find? (·.name = t)

end DuplicatePolicy

namespace Config
open Toml (Value)

def text? : Value → Option Text
  | .string t => some t
  | _ => none

def size? : Value → Option Nat
  | .integer (.ofNat n) => some n
  | _ => none

def texts? : Value → Option (List Text)
  | .array items => items.mapM text?
  | _ => none

def policy? : Value → Option DuplicatePolicy
  | .string t => DuplicatePolicy.ofName? t
  | .table _ [(t, .table _ [])] | .table _ [(t, .array [])] => DuplicatePolicy.ofName? t
  | _ => none

/-- A command as a table. -/
def commandTable? (ms : Toml.Members) : Option Command := do
  if ms.all fun m => m.1 = "program".toList || m.1 = "args".toList then
    let program ← (Toml.get? "program".toList ms).bind text?
    match Toml.get? "args".toList ms with
    | none => some ⟨program, []⟩
    | some arguments => (texts? arguments).map fun arguments => ⟨program, arguments⟩
  else none

def command? : Value → Option Command
  | .table _ ms => commandTable? ms
  | .array [program] => (text? program).map fun program => ⟨program, []⟩
  | .array (program :: arguments :: _) => do some ⟨← text? program, ← texts? arguments⟩
  | _ => none

/-- The configuration with the value of one more key. -/
def set (c : Config) (key : Text) (value : Value) : Except ConfigError Config :=
  let wanted {β : Type} (read : Option β) (put : β → Config) : Except ConfigError Config :=
    match read with
    | some b => .ok (put b)
    | none => .error (.wrongValue key)
  if key = "fixture_dir".toList then
    wanted (text? value) fun t => { c with fixtureDirectory := some t }
  else if key = "fixture_glob".toList then
    wanted (text? value) fun t => { c with fixtureGlob := some t }
  else if key = "proximity_window".toList then
    wanted (size? value) fun n => { c with proximity := some n }
  else if key = "lookahead_window".toList then
    wanted (size? value) fun n => { c with lookahead := some n }
  else if key = "failure_limit".toList then
    wanted (size? value) fun n => { c with failureLimit := some n }
  else if key = "duplicate_selectors".toList then
    wanted (policy? value) fun p => { c with duplicates := some p }
  else if key = "compiler".toList then
    wanted (command? value) fun command => { c with compiler := some command }
  else .error (.unknownKey key)

/-- The configuration with its fixture directory seen from the directory of its file. -/
def relativeTo (path : Path) (c : Config) : Config :=
  match c.fixtureDirectory, Path.parent? path with
  | some directory, some base => { c with fixtureDirectory := some (Path.join base directory) }
  | _, _ => c

/-- Reads the configuration file at a path. -/
def parse (path : Path) (t : Text) : Except ConfigError Config :=
  match Toml.parse? t with
  | none => .error .malformed
  | some ms => (ms.foldlM (fun c m => set c m.1 m.2) ({} : Config)).map (relativeTo path)

end Config
end StyleSnapshot
