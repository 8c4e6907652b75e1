import StyleSnapshot.Shell.Process
import StyleSnapshot.Shell.Quoted

/-! Programs that scripts call.

A program is a step of a process that knows the name it was called by and may end early.
It reads its arguments as options and operands, in any order, and says what is wrong with
them under its name. -/
namespace StyleSnapshot.Shell

/-- A step of a program. -/
abbrev Tool := ReaderT Octets (ExceptT ExitStatus (StateM Process))

namespace Tool

/-! ### Output -/

/-- Writes to the standard error output. -/
def tell (t : Octets) : Tool Unit := modify fun p => p.tell 2 t

/-- Says what is wrong under the name of the program. -/
def complain (t : Octets) : Tool Unit := do
  tell ((← read) ++ ": ".toList ++ t ++ ['\n'])

/-- Ends the program. -/
def stop (status : Nat) : Tool α := throw (.exited status)

/-- Ends the program and says why. -/
def fail (status : Nat) (t : Octets) : Tool α := do
  complain t
  stop status

/-- Ends the program because of the way it was called. -/
def misuse (status : Nat) (t : Octets) : Tool α := do
  complain t
  tell ("Try '".toList ++ (← read) ++ " --help' for more information.\n".toList)
  stop status

/-- Writes to standard output. -/
def print (t : Octets) : Tool Unit := do
  match (← get).write 1 t with
  | .ok p => set p
  | .error .badDescriptor => fail 1 "write error: Bad file descriptor".toList
  | .error .brokenPipe =>
    if Signal.brokenPipe ∈ (← get).ignored then fail 1 "write error: Broken pipe".toList
    else throw (.signalled Signal.brokenPipe)

/-- A text in single quotes, as messages have it. -/
def quoted (t : Octets) : Octets := Quoted.name t

/-! ### Input -/

/-- Whether a path stands for standard input. -/
def isStandardInput (path : Octets) : Bool :=
  path = ['-'] || Process.descriptorAt? path = some 0

/-- All that is left of standard input, or why it cannot be read. -/
def standardInput : Tool (Except Octets Octets) := do
  let p ← get
  match p.pending 0 with
  | none => return .error "Bad file descriptor".toList
  | some (.error e) => return .error (Octets.ofText e.reason)
  | some (.ok t) =>
    set (p.readAll 0).2
    return .ok t

/-- Gives back the end of standard input, which only a file takes. -/
def giveBack (count : Nat) : Tool Unit := modify fun p => p.giveBack 0 count

/-- What is in a file, or why it cannot be read. -/
def content (path : Octets) : Tool (Except Octets Octets) := do
  if isStandardInput path then standardInput
  else
    let p ← get
    match p.tree.readBytesFrom p.directory (Octets.toText path) with
    | .ok bytes => return .ok (Octets.ofBytes bytes)
    | .error e => return .error (Octets.ofText e.reason)

/-- Whether a path leads to a directory. -/
def isDirectory (path : Octets) : Tool Bool := do
  let p ← get
  match p.tree.locateFrom p.directory (Octets.toText path) with
  | .ok (_, .directory) => return true
  | _ => return false

/-- The operands of a program that reads standard input without any. -/
def orStandardInput (paths : List Octets) : List Octets := if paths = [] then [['-']] else paths

/-- What is said of a file that cannot be read. -/
def unreadable (path reason : Octets) : Octets := Quoted.file path ++ ": ".toList ++ reason

/-- Goes through the contents of files that can be read and yields the status in view of the
others, for each of which there is a message. -/
def throughFiles (message : (path reason : Octets) → Octets) (paths : List Octets) (s : σ)
    (step : σ → Octets → Tool σ) : Tool (σ × Nat) :=
  (orStandardInput paths).foldlM (fun (s, status) path => do
    match ← content path with
    | .ok t => return (← step s t, status)
    | .error reason =>
      complain (message path reason)
      return (s, 1)) (s, 0)

/-- Does something with the content of each file that can be read. -/
def eachFile (message : (path reason : Octets) → Octets) (paths : List Octets)
    (step : Octets → Tool Unit) : Tool Nat :=
  return (← throughFiles message paths () fun _ t => step t).2

/-- The contents of the files that can be read, and the status in view of the others. -/
def contents (paths : List Octets) : Tool (List Octets × Nat) := do
  let (texts, status) ← throughFiles unreadable paths [] fun texts t => return t :: texts
  return (texts.reverse, status)

/-! ### Options -/

/-- An option with a name in full, which stands for a letter. -/
structure LongOption where
  name : String
  letter : Char
  hasArgument : Bool := false

/-- The options that a program knows. -/
structure Options where
  letters : String := ""
  /-- Letters of options that take an argument. -/
  withArgument : String := ""
  /-- Letters of options that may do without their argument, which can only stand right behind
  them. -/
  withoutArgument : String := ""
  long : List LongOption := []
  /-- The status of a program that was called wrongly. -/
  status : Nat := 1
  /-- Whether everything behind the first operand is an operand. -/
  stopsAtOperand : Bool := false
  /-- What a call looks like behind the name, for programs that say so when called wrongly. -/
  usage : String := ""

/-- Options as they were given, in order, and the operands. -/
structure Parsed where
  options : List (Char × Octets)
  operands : List Octets

namespace Parsed

def has (p : Parsed) (c : Char) : Bool := p.options.any (·.1 = c)

/-- The argument of the last option with a letter. -/
def last? (p : Parsed) (c : Char) : Option Octets := (p.options.reverse.find? (·.1 = c)).map (·.2)

def withOption (p : Parsed) (c : Char) (a : Octets) : Parsed :=
  { p with options := (c, a) :: p.options }

def withOperand (p : Parsed) (a : Octets) : Parsed := { p with operands := a :: p.operands }

end Parsed

/-- Ends a program that cannot make sense of its arguments. -/
def Options.refuse (o : Options) (t : Octets) : Tool α := do
  complain t
  if o.usage ≠ "" then tell ("Usage: ".toList ++ (← read) ++ o.usage.toList ++ ['\n'])
  tell ("Try '".toList ++ (← read) ++ " --help' for more information.\n".toList)
  stop o.status

/-- The option in full that a name, perhaps shortened, stands for. -/
def longOption? (o : Options) (name : Octets) : Option LongOption :=
  match o.long.find? fun l => l.name.toList = name with
  | some l => some l
  | none =>
    match o.long.filter fun l => Text.startsWith name l.name.toList with
    | [l] => some l
    | _ => none

/-- Reads arguments as options and operands. -/
def parse (o : Options) : Nat → List Octets → Tool Parsed
  | 0, ws => return ⟨[], ws⟩
  | _, [] => return ⟨[], []⟩
  | fuel + 1, w :: ws => do
    match w with
    | ['-', '-'] => return ⟨[], ws⟩
    | '-' :: '-' :: long =>
      let (name, value) := match Text.cut? ['='] long with
        | some (name, value) => (name, some value)
        | none => (long, none)
      let shown (l : LongOption) : Octets := "option ".toList ++ quoted ("--".toList ++ l.name.toList)
      match longOption? o name with
      | none => o.refuse ("unrecognized option ".toList ++ quoted w)
      | some l =>
        match value, ws with
        | none, ws =>
          if !l.hasArgument || l.letter ∈ o.withoutArgument.toList then
            return (← parse o fuel ws).withOption l.letter []
          else
            match ws with
            | value :: ws => return (← parse o fuel ws).withOption l.letter value
            | [] => o.refuse (shown l ++ " requires an argument".toList)
        | some value, ws =>
          if l.hasArgument then return (← parse o fuel ws).withOption l.letter value
          else o.refuse (shown l ++ " doesn't allow an argument".toList)
    | '-' :: c :: more =>
      if c ∈ o.withArgument.toList then
        match more, ws with
        | [], [] =>
          o.refuse ("option requires an argument -- ".toList ++ quoted [c])
        | [], a :: ws => return (← parse o fuel ws).withOption c a
        | a, ws => return (← parse o fuel ws).withOption c a
      else if c ∈ o.letters.toList && c ∈ o.withoutArgument.toList then
        return (← parse o fuel ws).withOption c more
      else if c ∈ o.letters.toList then
        let ws := if more = [] then ws else ('-' :: more) :: ws
        return (← parse o fuel ws).withOption c []
      else o.refuse ("invalid option -- ".toList ++ quoted [c])
    | w =>
      if o.stopsAtOperand then return ⟨[], w :: ws⟩
      else return (← parse o fuel ws).withOperand w

/-- Reads arguments as options and operands. -/
def parsed (o : Options) (ws : List Octets) : Tool Parsed :=
  parse o (ws.foldl (fun n w => n + w.length + 1) 1) ws

/-! ### Changes to files -/

/-- Writes a file anew. -/
def store (path content : Octets) : Tool (Except Octets Unit) := do
  let p ← get
  if let some n := Process.descriptorAt? path then
    if (p.descriptors.lookup n).isNone then return .error (Octets.ofText AccessError.notFound.reason)
    set (p.tell n content)
    return .ok ()
  match p.tree.placeOf true p.directory (Octets.toText path) with
  | .error e => return .error (Octets.ofText e.reason)
  | .ok place =>
    match p.tree.content? place with
    | some .directory => return .error "Is a directory".toList
    | some .device => return .ok ()
    | _ =>
      set { p with tree := p.tree.put place (.file (Octets.toBytes content)) }
      return .ok ()

/-- Runs a program as it was called. -/
def start (tool : Tool Nat) (name : Octets) (p : Process) : Process × ExitStatus :=
  match ((tool.run name).run).run p with
  | (.ok status, p) => (p, .exited status)
  | (.error status, p) => (p, status)

end Tool
end StyleSnapshot.Shell
