import StyleSnapshot.Settings.Basic

/-! The arguments of a command.

The first argument that is no option names the command. An option with a value takes the
next argument or what stands behind an equals sign; a value may not look like an option,
unless the option says so. Behind two dashes everything is positional. A text that is no
command line has no reading. -/
namespace StyleSnapshot.CommandLine

/-! ### Options -/

/-- What an option is followed by. -/
inductive Arity where
  | flag
  | value
  /-- A value that may begin with a dash. -/
  | anyValue
  deriving DecidableEq, Repr

/-- The options a command knows, by name. -/
abbrev Options := List (Text × Arity)

def corpusOptions : Options :=
  [("config".toList, .value), ("glob".toList, .value), ("filter".toList, .value),
    ("proximity-window".toList, .value), ("lookahead-window".toList, .value),
    ("json".toList, .flag), ("verbose".toList, .flag)]

def verifyOptions : Options :=
  corpusOptions ++ [("compiler".toList, .value), ("compiler-arg".toList, .anyValue),
    ("failure-limit".toList, .value), ("duplicate-selectors".toList, .value)]

/-- The options and positional arguments that were given, in order. A flag has no value. -/
structure Given where
  options : List (Text × Option Text) := []
  positional : List Text := []
  deriving DecidableEq, Repr

namespace Given

def addOption (g : Given) (name : Text) (value : Option Text) : Given :=
  { g with options := g.options ++ [(name, value)] }

def addPositional (g : Given) (t : Text) : Given := { g with positional := g.positional ++ [t] }

/-- The values of an option, in order. -/
def values (g : Given) (name : Text) : List Text :=
  g.options.filterMap fun o => if o.1 = name then o.2 else none

/-- The value of an option that may be given once. -/
def value? (g : Given) (name : Text) : Option (Option Text) :=
  match g.values name with
  | [] => some none
  | [t] => some (some t)
  | _ => none

/-- Whether a flag that may be given once is given. -/
def flag? (g : Given) (name : Text) : Option Bool :=
  match (g.options.filter (·.1 = name)).length with
  | 0 => some false
  | 1 => some true
  | _ => none

end Given

/-- Whether an argument looks like an option. A single dash does not. -/
def looksLikeOption (t : Text) : Bool := t.head? = some '-' && t ≠ ['-']

/-- A cluster of short options, of which only the one for verbosity is known. -/
def isVerbosity (t : Text) : Bool :=
  match t with
  | '-' :: letters => letters ≠ [] && letters.all (· = 'v')
  | _ => false

/-- Reads arguments behind the name of a command. -/
def readGiven (known : Options) (g : Given) : List Text → Option Given
  | [] => some g
  | argument :: more =>
    if argument = ['-', '-'] then some (more.foldl Given.addPositional g)
    else
      match Text.after? ['-', '-'] argument with
      | none =>
        if isVerbosity argument then readGiven known g more
        else if looksLikeOption argument then none
        else readGiven known (g.addPositional argument) more
      | some body =>
        match Text.cut? ['='] body with
        | some (name, value) =>
          match known.lookup name with
          | some .value | some .anyValue => readGiven known (g.addOption name (some value)) more
          | some .flag | none => none
        | none =>
          match known.lookup body, more with
          | some .flag, more => readGiven known (g.addOption body none) more
          | some .value, value :: more =>
            if looksLikeOption value then none
            else readGiven known (g.addOption body (some value)) more
          | some .anyValue, value :: more => readGiven known (g.addOption body (some value)) more
          | some .value, [] | some .anyValue, [] | none, _ => none

/-! ### Values -/

/-- A path, which may not be empty. -/
def path? (t : Text) : Option Path := if t = [] then none else some t

/-- A size of at most 64 bits; a plus sign in front is allowed. -/
def size? (t : Text) : Option Nat :=
  let digits := (Text.after? ['+'] t).getD t
  if digits ≠ [] ∧ digits.all Char.isDigit then
    ((String.ofList digits).toNat?).filter (· < UInt64.size)
  else none

/-- Reads the value of an option, if it is given. -/
def Given.read? (g : Given) (name : String) (read : Text → Option β) : Option (Option β) :=
  match g.value? name.toList with
  | none => none
  | some none => some none
  | some (some t) => (read t).map some

/-! ### Commands -/

/-- What both commands may be told about the corpus. -/
structure CorpusArguments where
  directory : Option Path := none
  config : Option Path := none
  glob : Option Text := none
  filter : Option Text := none
  proximity : Option Nat := none
  lookahead : Option Nat := none
  deriving DecidableEq, Repr

namespace CorpusArguments

def overrides (a : CorpusArguments) : Overrides where
  fixtureDirectory := a.directory
  fixtureGlob := a.glob
  groupFilter := a.filter
  proximity := a.proximity
  lookahead := a.lookahead

def ofGiven? (g : Given) : Option CorpusArguments := do
  let directory ← match g.positional with
    | [] => some none
    | [t] => (path? t).map some
    | _ => none
  some {
    directory := directory
    config := ← g.read? "config" path?
    glob := ← g.read? "glob" some
    filter := ← g.read? "filter" some
    proximity := ← g.read? "proximity-window" size?
    lookahead := ← g.read? "lookahead-window" size? }

end CorpusArguments

structure ExtractArguments where
  corpus : CorpusArguments := {}
  json : Bool := false
  deriving DecidableEq, Repr

structure VerifyArguments where
  corpus : CorpusArguments := {}
  compiler : Option Text := none
  compilerArguments : List Text := []
  failureLimit : Option Nat := none
  duplicates : Option DuplicatePolicy := none
  json : Bool := false
  deriving DecidableEq, Repr

/-- A command and its arguments. -/
inductive Invocation where
  | extract (arguments : ExtractArguments)
  | verify (arguments : VerifyArguments)
  deriving DecidableEq, Repr

def extract? (arguments : List Text) : Option ExtractArguments := do
  let g ← readGiven corpusOptions {} arguments
  some { corpus := ← CorpusArguments.ofGiven? g, json := ← g.flag? "json".toList }

def verify? (arguments : List Text) : Option VerifyArguments := do
  let g ← readGiven verifyOptions {} arguments
  some {
    corpus := ← CorpusArguments.ofGiven? g
    compiler := ← g.read? "compiler" some
    compilerArguments := g.values "compiler-arg".toList
    failureLimit := ← g.read? "failure-limit" size?
    duplicates := ← g.read? "duplicate-selectors" DuplicatePolicy.ofName?
    json := ← g.flag? "json".toList }

/-- Reads a command line. Only options for verbosity may stand before the command. -/
def invocation? : List Text → Option Invocation
  | [] => none
  | argument :: more =>
    if argument = "extract".toList then (extract? more).map .extract
    else if argument = "verify".toList then (verify? more).map .verify
    else if isVerbosity argument || argument = "--verbose".toList then invocation? more
    else none

end StyleSnapshot.CommandLine
