import StyleSnapshot.Shell.Fields
import StyleSnapshot.Shell.Machine

/-! What the parts of a script need of each other.

Commands expand words, words hold commands, and both may start programs, which may be
scripts again. An `Evaluator` stands for what is nested in the part at hand; it is built
from the inside, for scripts nested more and more deeply. -/
namespace StyleSnapshot.Shell

/-- What a word is expanded for. -/
inductive Purpose where
  /-- Words of a command, which are split. -/
  | fields
  /-- A value that is assigned. -/
  | assignment
  /-- A text that is kept together. -/
  | text
  deriving DecidableEq, Repr

structure Evaluator where
  /-- Runs a command. A failure of a tested command is nothing unusual. -/
  command : (isTested : Bool) → Command → Run Unit
  expand : Purpose → Word → Run (List Piece)
  /-- Runs the script that a text writes, whose first line has the given number. -/
  script : (isTested : Bool) → (line : Nat) → Octets → Run Unit
  /-- Starts a program that exists, under some name. -/
  launch : (program name : Octets) → (arguments : List Octets) → Process → Process × ExitStatus

namespace Evaluator

/-! ### Signals -/

/-- What is said of a program that a signal ended. -/
def obituary? (n : Nat) : Option Octets :=
  if n = 2 || n = Signal.brokenPipe then none
  else if 34 ≤ n then some ("Real-time signal ".toList ++ Octets.ofInt (n - 34))
  else Signal.descriptions.lookup n

/-- Takes note of how a program ended that was waited for. -/
def mourn (status : ExitStatus) : Run Unit := do
  match status with
  | .exited _ => pure ()
  | .signalled n =>
    match obituary? n with
    | some t => modify fun m => { m with toProcess := m.toProcess.tell 2 (t ++ ['\n']) }
    | none => pure ()
  Run.setStatus status.code

/-- Hands a signal to the shell that the script knows as itself. -/
def deliver (n : Nat) : Run Unit := do
  let m ← get
  if n = 0 then pure ()
  else if m.isSplitOff then set { m with sent := m.sent ++ [n] }
  else
    let isFinal := n = 9 || n = 19
    match if isFinal then none else if n ∈ m.ignored then some [] else m.traps.lookup n with
    | some [] => pure ()
    | some _ => set { m with caught := m.caught ++ [n] }
    | none => if n ∈ Signal.harmless then pure () else throw (.signal n)

/-- Does what is to be done on the signals that were caught. -/
def runTraps (e : Evaluator) : Run Unit := do
  let m ← get
  match m.caught with
  | [] => pure ()
  | caught =>
    set { m with caught := [], beforeTrap := some m.status }
    for n in caught do
      e.script false m.line ((m.traps.lookup n).getD [])
      Run.setStatus m.status
    modify fun m' => { m' with beforeTrap := m.beforeTrap }

/-! ### Shells of their own -/

/-- How a shell ends that stopped for a reason. What it left for its end is done first. -/
def finish (e : Evaluator) (stopped : Except Halt Unit) (m : Machine) : Machine × ExitStatus :=
  match stopped, m.traps.lookup 0 with
  | .error (.signal n), _ => (m.settled, .signalled n)
  | _, none | _, some [] => (m.settled, .exited (m.status % 256))
  | _, some action =>
    let (stopped, after) := (e.script false m.line action).run
      { m with traps := m.traps.filter (·.1 ≠ 0), beforeTrap := some m.status }
    match stopped with
    | .error .exit | .error .error => (after.settled, .exited (after.status % 256))
    | .error (.signal n) => (after.settled, .signalled n)
    | _ => (after.settled, .exited (m.status % 256))

/-- The world that a shell leaves behind that was split off to take a step, the signals it
sent, and how it ended. -/
def splitOff (e : Evaluator) (m : Machine) (step : Run Unit) : Machine × ExitStatus :=
  let (stopped, m) := step.run m.splitOff
  e.finish stopped m

/-- Takes a step in a shell that is split off. -/
def apart (e : Evaluator) (prepare : Process → Process) (step : Run Unit) : Run ExitStatus := do
  let m ← get
  let (after, status) := e.splitOff { m with toProcess := prepare m.toProcess } step
  set { m with toProcess := m.toProcess.within after.toWorld }
  for n in after.sent do deliver n
  return status

/-- What a command writes to standard output, without the line breaks at its end. -/
def outputOf (e : Evaluator) (c : Option Command) : Run Octets := do
  let m ← get
  let (world, stream) := m.toWorld.opened (.sink [] 0 none)
  set { m with toProcess := m.toProcess.within world }
  let step : Run Unit := match c with
    | some c => e.command false c
    | none => pure ()
  let status ← e.apart (·.withStream 1 stream) do
    Run.setStatus m.status
    step
  mourn status
  modify fun m' => { m' with status := m.status, substituted := status.code }
  let t := (← get).toWorld.written stream
  return Text.dropEndWhile (· = '\n') (t.filter (· ≠ '\x00'))

end Evaluator
end StyleSnapshot.Shell
