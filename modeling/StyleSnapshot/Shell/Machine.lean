import StyleSnapshot.Shell.Process
import StyleSnapshot.Shell.Syntax

/-! The state of a running script.

A script is run by a machine: a process that also knows parameters, functions, options,
traps and commands in the background. A step changes the machine and may stop what goes on
around it: a loop, a function, or the script. -/
namespace StyleSnapshot.Shell

/-- What a name stands for. A name may be marked before it has a value. -/
structure Binding where
  value : Option Octets
  isExported : Bool := false
  isReadOnly : Bool := false

/-- The bindings in which a name stands for something else, or for nothing. A name keeps its
position; a new one comes last. -/
def Binding.replace (name : Octets) (b : Option Binding) :
    List (Octets × Binding) → List (Octets × Binding)
  | [] => (b.map fun b => (name, b)).toList
  | entry :: more =>
    if entry.1 = name then (b.map fun b => (name, b)).toList ++ more
    else entry :: replace name b more

/-- A command that nobody has waited for. It runs when somebody does, or at the end. -/
structure Job where
  number : Nat
  finish : World → World × ExitStatus

structure Machine extends Process where
  /-- The name under which the script runs, and its arguments. -/
  name : Octets
  arguments : List Octets
  bindings : List (Octets × Binding)
  functions : List (Octets × Command) := []
  /-- Words that stand for other text where a command begins. -/
  aliases : List (Octets × Octets) := []
  documents : List (Nat × Word) := []
  /-- The number of the next document. -/
  next : Nat := 0
  options : List Char := []
  status : Nat := 0
  /-- The line of the command that runs, and how messages speak of that command. -/
  line : Nat := 0
  caller : Option Octets := none
  /-- What is done on a signal, where zero stands for the end of the script. An empty
  action ignores the signal. -/
  traps : List (Nat × Octets) := []
  /-- Signals whose actions are still to be done. -/
  caught : List Nat := []
  /-- Signals to the shell from which this one was split off. -/
  sent : List Nat := []
  jobs : List Job := []
  /-- How the jobs ended that are over. -/
  ended : List (Nat × ExitStatus) := []
  lastJob : Option Nat := none
  /-- The number of the next job. -/
  nextJob : Nat := 101
  /-- How many loops and functions the command at hand is in. -/
  loops : Nat := 0
  calls : Nat := 0
  /-- What names stood for outside the calls that go on, the innermost first. -/
  hidden : List (List (Octets × Option Binding)) := []
  /-- Whether this shell was split off from another one. -/
  isSplitOff : Bool := false
  /-- The status of the last substitution in the command at hand. -/
  substituted : Nat := 0
  /-- The status before the trap that runs. -/
  beforeTrap : Option Nat := none
  /-- How far into a group of options the last search for options came. -/
  optionOffset : Nat := 0

/-- Why a step stops what goes on around it. -/
inductive Halt where
  /-- The script ends with the status at hand. -/
  | exit
  /-- Something is wrong. The script ends unless the step is part of a command that may
  fail. -/
  | error
  /-- The given number of loops ends. -/
  | leave (loops : Nat)
  /-- All but one of the given number of loops end, and that one goes on. -/
  | again (loops : Nat)
  /-- The function ends. -/
  | result
  | signal (number : Nat)
  deriving DecidableEq, Repr

/-- A step of a machine. -/
abbrev Run := ExceptT Halt (StateM Machine)

/-- The number by which a script knows itself. -/
def Machine.ownNumber : Nat := 100

namespace Run

/-! ### Messages -/

/-- Writes a message to the standard error output. -/
def complain (message : Octets) : Run Unit :=
  modify fun m =>
    let caller := match m.caller with
      | some c => c ++ ": ".toList
      | none => []
    let text := m.name ++ ": ".toList ++ Octets.ofInt m.line ++ ": ".toList ++ caller ++ message
    { m with toProcess := m.toProcess.tell 2 (text ++ ['\n']) }

def setStatus (status : Nat) : Run Unit := modify fun m => { m with status := status }

/-- Gives up with a message. -/
def fail (message : Octets) : Run α := do
  complain message
  setStatus 2
  throw .error

/-- The natural number that a text writes. -/
def natural (t : Octets) : Run Nat := do
  match Octets.leadingInteger? 10 t with
  | some (n, rest) =>
    if rest.all Octets.isSpace && 0 ≤ n && n < 0x80000000 then pure n.toNat
    else fail ("Illegal number: ".toList ++ t)
  | none => fail ("Illegal number: ".toList ++ t)

/-- Writes to standard output, and tells whether that was possible. -/
def print (t : Octets) : Run Bool := do
  let m ← get
  match m.toProcess.write 1 t with
  | .ok p =>
    set { m with toProcess := p }
    pure true
  | .error .badDescriptor => pure false
  | .error .brokenPipe => throw (.signal Signal.brokenPipe)

/-! ### Names -/

def binding? (name : Octets) : Run (Option Binding) := return (← get).bindings.lookup name

/-- The value of a name, if it has one. -/
def value? (name : Octets) : Run (Option Octets) := return (← binding? name).bind (·.value)

/-- Replaces what a name stands for. -/
def setBinding (name : Octets) (b : Option Binding) : Run Unit :=
  modify fun m =>
    { m with bindings := Binding.replace name b m.bindings }

/-- Changes what a name stands for, unless the name is protected. -/
def change (name : Octets) (f : Binding → Binding) : Run Unit := do
  let b := (← binding? name).getD ⟨none, false, false⟩
  if b.isReadOnly then fail (name ++ ": is read only".toList)
  else
    let isMarked := 'a' ∈ (← get).options
    setBinding name (some (f { b with isExported := b.isExported || isMarked }))
    if name = "OPTIND".toList then modify fun m => { m with optionOffset := 0 }

def assign (name value : Octets) : Run Unit := change name fun b => { b with value := some value }

/-- Remembers what a name stands for until the innermost call ends. -/
def hide (name : Octets) : Run Unit := do
  let b ← binding? name
  modify fun m =>
    match m.hidden with
    | [] => m
    | frame :: more =>
      if frame.any (·.1 = name) then m else { m with hidden := ((name, b) :: frame) :: more }

/-! ### Steps that leave no trace -/

/-- Takes a step and, however it ends, brings back something of the machine before it. -/
def restoring (restore : (before after : Machine) → Machine) (step : Run α) : Run α :=
  ExceptT.mk do
    let before ← get
    let stopped ← step.run
    modify (restore before)
    return stopped

/-- Runs a call, after which the names hidden in it stand for what they stood for before. -/
def inCall (step : Run α) : Run α := do
  modify fun m => { m with hidden := [] :: m.hidden }
  let reveal (m : Machine) (hidden : Octets × Option Binding) : Machine :=
    { m with bindings := Binding.replace hidden.1 hidden.2 m.bindings }
  restoring (fun _ after =>
    { (after.hidden.headD []).foldl reveal after with hidden := after.hidden.tail }) step

/-- Takes a step under the name by which messages speak of it. -/
def speakingOf (caller : Octets) (step : Run α) : Run α :=
  restoring (fun before after => { after with caller := before.caller }) do
    modify fun m => { m with caller := some caller }
    step

end Run

namespace Machine

/-- In how many groups names are kept. -/
def groups : Nat := 39

/-- The group of a name. Names are handed over group by group. -/
def groupOf (name : Octets) : Nat :=
  (name.foldl (fun n c => n + c.toNat) ((name.headD '\x00').toNat * 16)) % groups

/-- The names that programs are handed, with their values. -/
def exported (m : Machine) : List (Octets × Octets) :=
  let handed := m.bindings.filterMap fun b =>
    if b.2.isExported then b.2.value.map fun value => (b.1, value) else none
  (List.range groups).flatMap fun n => handed.filter fun b => groupOf b.1 = n

/-- The process of a program that is about to start. -/
def child (m : Machine) : Process :=
  let silenced := m.traps.filterMap fun t => if t.2 = [] then some t.1 else none
  { m.toProcess with environment := m.exported, ignored := m.ignored ++ silenced }

/-- The machine of a shell that is split off. Signals that are ignored stay so. -/
def splitOff (m : Machine) : Machine :=
  { m with
    traps := m.traps.filter (·.2 = []), caught := [], sent := [], jobs := [], isSplitOff := true }

/-- Runs the jobs that are left. -/
def settled (m : Machine) : Machine :=
  let world := m.jobs.foldl (fun w job => (job.finish w).1) m.toWorld
  { m with toProcess := m.toProcess.within world, jobs := [] }

end Machine
end StyleSnapshot.Shell
