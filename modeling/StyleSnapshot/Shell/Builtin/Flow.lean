import StyleSnapshot.Shell.Builtin.Programs
import StyleSnapshot.Shell.Redirection

/-! Commands of a script about what runs next: ends, loops, nested scripts, signals and
jobs. -/
namespace StyleSnapshot.Shell.Builtin

/-! ### Ends -/

/-- Ends the script. In a trap the status is the one from before it, unless another one is
given. -/
def exiting (ws : List Octets) : Run Nat := do
  let m ← get
  let status ← match ws with
    | [] => pure (m.beforeTrap.getD m.status)
    | w :: _ => Run.natural w
  Run.setStatus status
  throw .exit

/-- Ends a function or a script that was read in. -/
def returning (ws : List Octets) : Run Nat := do
  let status ← match ws with
    | [] => pure (← get).status
    | w :: _ => Run.natural w
  Run.setStatus status
  throw .result

/-- Ends loops, or goes on with one, if there are any. -/
def leave (halt : Nat → Halt) (ws : List Octets) : Run Nat := do
  let count ← match ws with
    | [] => pure 1
    | w :: _ => do
      let n ← Run.natural w
      if n = 0 then Run.fail ("Illegal number: ".toList ++ w) else pure n
  let count := min count (← get).loops
  if count = 0 then return 0
  Run.setStatus 0
  throw (halt count)

/-! ### Nested scripts -/

/-- Runs the script that the words write. -/
def eval (e : Evaluator) (isTested : Bool) (ws : List Octets) : Run Nat := do
  Run.setStatus 0
  e.script isTested (← get).line (Text.join [' '] ws)
  return (← get).status

/-- The path of a script that is to be read in. -/
def scriptNamed (name : Octets) : Run Octets := do
  if '/' ∈ name then return name
  let m ← get
  let isFile (path : Octets) : Bool :=
    match m.tree.locateFrom m.directory (Octets.toText path) with
    | .ok (_, .file _) => true
    | _ => false
  match ((searched m).map fun directory => inDirectory directory name).find? isFile with
  | some path => return path
  | none => Run.fail (name ++ ": not found".toList)

/-- Reads in a script, which may end by returning. -/
def readIn (e : Evaluator) (ws : List Octets) : Run Nat := do
  match ← operands ws with
  | [] => return 0
  | name :: _ =>
    let path ← scriptNamed name
    let m ← get
    match m.tree.locateFrom m.directory (Octets.toText path) with
    | .error reason =>
      Run.fail ("cannot open ".toList ++ path ++ ": ".toList ++ Redirection.reasonOf true reason)
    | .ok (place, _) =>
      let text := m.toWorld.contentAt place
      Run.setStatus 0
      Run.speakingOf path do
        try e.script false 1 text catch h =>
          match h with
          | .result => pure ()
          | h => throw h
      modify fun m' => { m' with line := m.line }
      return (← get).status

/-! ### Traps -/

def trapListing (m : Machine) : Octets :=
  let signals := (List.range Signal.bound).filter fun n => m.traps.any (·.1 = n)
  signals.flatMap fun n =>
    "trap -- ".toList ++ quoted ((m.traps.lookup n).getD []) ++ ' ' :: Signal.scriptName n ++ ['\n']

/-- Sets what is done on signals, or nothing special without an action. -/
def setTraps (action : Option Octets) : List Octets → Run Nat
  | [] => return 0
  | w :: ws => do
    match Signal.ofScript? 0 w with
    | none =>
      modify fun m =>
        { m with toProcess := m.toProcess.tell 2 ("trap: ".toList ++ w ++ ": bad trap\n".toList) }
      return 1
    | some n =>
      modify fun m =>
        { m with
          traps := (action.map fun a => (n, a)).toList ++ m.traps.filter (·.1 ≠ n) }
      setTraps action ws

def trap (ws : List Octets) : Run Nat := do
  match ← operands ws with
  | [] => output "trap".toList (trapListing (← get))
  | [w] => setTraps none [w]
  | a :: ws =>
    if a ≠ [] && a.all Char.isDigit && (Signal.ofScript? 0 a).isSome then setTraps none (a :: ws)
    else setTraps (if a = ['-'] then none else some a) ws

/-! ### Jobs -/

/-- Waits for the job of a number, and for those before it. -/
def finishJob (number : Nat) : Run Unit := do
  let m ← get
  match m.jobs.find? (·.number = number) with
  | none => pure ()
  | some job =>
    let (world, status) := job.finish m.toWorld
    set { m with
      toProcess := m.toProcess.within world
      jobs := m.jobs.filter (·.number ≠ number)
      ended := (number, status) :: m.ended }

/-- The number of the job that a word names. -/
def jobNumber (w : Octets) : Run Nat := do
  match w with
  | '%' :: _ => Run.fail ("No such job: ".toList ++ w)
  | w => Run.natural w

def wait (ws : List Octets) : Run Nat := do
  match ← operands ws with
  | [] =>
    for job in (← get).jobs do finishJob job.number
    return 0
  | ws =>
    ws.foldlM (fun _ w => do
      let number ← jobNumber w
      finishJob number
      match (← get).ended.lookup number with
      | some (.signalled n) =>
        Evaluator.mourn (.signalled n)
        return 128 + n
      | some (.exited code) => return code
      | none => return 127) 0

def killUsage : Octets :=
  "Usage: kill [-s sigspec | -signum | -sigspec] [pid | job]... or\nkill -l [exitstatus]".toList

/-- Sends a signal to the process of a number. -/
def signal (n number : Nat) : Run Bool := do
  let m ← get
  if number = Machine.ownNumber then
    Evaluator.deliver n
    return true
  else if m.jobs.any (·.number = number) then
    if n ≠ 0 && n ∉ Signal.harmless then
      set { m with
        jobs := m.jobs.filter (·.number ≠ number)
        ended := (number, .signalled n) :: m.ended }
    return true
  else
    Run.complain "No such process\n".toList
    return false

def sendAll (n : Nat) (ws : List Octets) : Run Nat := do
  if ws = [] then Run.fail killUsage
  ws.foldlM (fun status w => do
    return if ← signal n (← jobNumber w) then status else 1) 0

/-- The signals by number, or the one that a status tells of. -/
def killListing (ws : List Octets) : Run Nat := do
  match ws with
  | [] =>
    let names := (List.range Signal.bound).map fun n =>
      if n = 0 then ['0'] else Signal.scriptName n
    output "kill".toList (Octets.unlines names)
  | w :: _ =>
    let n ← Run.natural w
    let n := if 128 < n then n - 128 else n
    if 0 < n && n < Signal.bound then output "kill".toList (Signal.scriptName n ++ ['\n'])
    else Run.fail ("invalid signal number or exit status: ".toList ++ w)

def kill (ws : List Octets) : Run Nat := do
  match ws with
  | [] => Run.fail killUsage
  | ['-', '-'] :: ws => sendAll 15 ws
  | ('-' :: o) :: ws =>
    match if o = [] then none else Signal.ofScript? 1 o with
    | some n => sendAll n ws
    | none =>
      match ← options ['l'] ['s'] (ws.length + 1) (('-' :: o) :: ws) with
      | (('l', _) :: _, ws) => killListing ws
      | (('s', name) :: _, ws) =>
        match Signal.ofScript? 1 name with
        | some n => sendAll n ws
        | none => Run.fail ("invalid signal number or name: ".toList ++ name)
      | (_, ws) => sendAll 15 ws
  | ws => sendAll 15 ws

/-! ### All commands -/

def noJob (_ : List Octets) : Run Nat := Run.fail "No current job".toList

/-- The command of a name, which yields its status. -/
def ofName? (e : Evaluator) (isTested : Bool) (name : Octets) : Option (List Octets → Run Nat) :=
  match String.ofList name with
  | ":" | "true" => some fun _ => return 0
  | "false" => some fun _ => return 1
  | "echo" => some echo
  | "printf" => some printf
  | "test" => some test
  | "[" => some bracket
  | "read" => some read
  | "export" => some exportNames
  | "readonly" => some protectNames
  | "unset" => some unsetNames
  | "local" => some hideNames
  | "shift" => some shift
  | "set" => some settings
  | "getopts" => some getopts
  | "exec" => some (exec e)
  | "type" => some type
  | "hash" => some hash
  | "cd" | "chdir" => some cd
  | "pwd" => some pwd
  | "umask" => some umask
  | "ulimit" => some ulimit
  | "exit" => some exiting
  | "return" => some returning
  | "break" => some (leave .leave)
  | "continue" => some (leave .again)
  | "eval" => some (eval e isTested)
  | "." => some (readIn e)
  | "trap" => some trap
  | "wait" => some wait
  | "kill" => some kill
  | "fg" | "bg" => some noJob
  | "jobs" | "times" => some fun _ => return 0
  | "alias" => some aliasNames
  | "unalias" => some unaliasNames
  | _ => none

end StyleSnapshot.Shell.Builtin
