import StyleSnapshot.Shell.Builtin.Names
import StyleSnapshot.Shell.Mode

/-! Finding programs, and commands of a script about directories and programs. -/
namespace StyleSnapshot.Shell.Builtin

/-! ### Programs -/

/-- The directories that a script searches that was told nothing about them. -/
def usualPath : Octets :=
  "/usr/local/sbin:/usr/local/bin:/usr/sbin:/usr/bin:/sbin:/bin".toList

/-- Why a program cannot be started, and the status that tells so. -/
structure Refusal where
  reason : Octets
  status : Nat

def Refusal.notFound : Refusal := ⟨"not found".toList, 127⟩

/-- Whether what is at a place can be started. -/
def isProgram (tree : FileTree) (place : Location) (content : FileContent) : Bool :=
  match content with
  | .program => true
  | .file _ => place ∈ tree.executables
  | .directory | .device => false

/-- Whether a path leads to a program. -/
def programAt (p : Process) (path : Octets) : Except AccessError Unit :=
  match p.tree.locateFrom p.directory (Octets.toText path) with
  | .error e => .error e
  | .ok (place, content) => if isProgram p.tree place content then .ok () else .error .denied

/-- The directories to search, where no name is the directory at hand. -/
def searched (m : Machine) : List Octets :=
  (((m.bindings.lookup "PATH".toList).bind (·.value)).getD []).splitOn ':'

/-- The path of a name in a directory. -/
def inDirectory (directory name : Octets) : Octets :=
  if directory = [] then name else directory ++ '/' :: name

/-- The path of a program that a name stands for. -/
def find (m : Machine) (name : Octets) : Except Refusal Octets :=
  if '/' ∈ name then
    match programAt m.toProcess name with
    | .ok () => .ok name
    | .error e =>
      if e = .notFound || e = .notDirectory then .error .notFound
      else .error ⟨Octets.ofText e.reason, 126⟩
  else
    let tried := (searched m).map fun directory =>
      let path := inDirectory directory name
      (path, programAt m.toProcess path)
    match tried.find? fun r => r.2.toOption.isSome with
    | some (path, _) => .ok path
    | none =>
      let isDenied := tried.any fun r =>
        match r.2 with
        | .error .denied => true
        | _ => false
      .error (if isDenied then ⟨"Permission denied".toList, 127⟩ else .notFound)

/-- Runs a program that exists and yields how it ended. -/
def launch (e : Evaluator) (program name : Octets) (arguments : List Octets) : Run ExitStatus := do
  let m ← get
  let (p, status) := e.launch program name arguments m.child
  set { m with toProcess := m.toProcess.within p.toWorld }
  return status

/-- Puts a program in the place of the script. -/
def exec (e : Evaluator) (ws : List Octets) : Run Nat := do
  match ws with
  | [] => return (← get).status
  | name :: arguments =>
    match find (← get) name with
    | .ok program =>
      let status ← launch e program name arguments
      modify fun m => { m with status := status.code, traps := m.traps.filter (·.1 ≠ 0) }
      match status with
      | .signalled n => throw (.signal n)
      | .exited _ => throw .exit
    | .error r =>
      Run.complain (name ++ ": ".toList ++ r.reason)
      Run.setStatus r.status
      throw .exit

/-! ### Descriptions -/

/-- The commands of a script, those that are part of the language apart. -/
def ordinaryNames : List Octets :=
  ["[", "alias", "bg", "cd", "chdir", "command", "echo", "false", "fg", "getopts", "hash",
    "jobs", "kill", "printf", "pwd", "read", "test", "true", "type", "ulimit", "umask",
    "unalias", "wait"].map (·.toList)

/-- The special commands; one of them makes sense in a function only. -/
def specialNames : List Octets := "local".toList :: Reader.specialNames

/-- What a name stands for as a command, in full or in short. -/
def description? (m : Machine) (isFull : Bool) (name : Octets) : Option Octets :=
  let tell (kind : String) : Octets := if isFull then name ++ kind.toList else name
  if name ∈ Reader.reservedWords then some (tell " is a shell keyword")
  else if m.functions.any (·.1 = name) then some (tell " is a shell function")
  else if name ∈ specialNames then some (tell " is a special shell builtin")
  else if name ∈ ordinaryNames then some (tell " is a shell builtin")
  else
    match find m name with
    | .ok path => some (if isFull then name ++ " is ".toList ++ path else path)
    | .error _ => none

/-- Describes what names stand for. -/
def describe (isFull : Bool) (ws : List Octets) : Run Nat := do
  let m ← get
  let told := ws.map (description? m isFull)
  let lines := (ws.zip told).map fun (name, t) =>
    match t with
    | some t => t ++ ['\n']
    | none => if isFull then name ++ ": not found\n".toList else []
  let _ ← Run.print lines.flatten
  return if told.all (·.isSome) then 0 else 127

def type (ws : List Octets) : Run Nat := do describe true (← operands ws)

def hash (ws : List Octets) : Run Nat := do
  let (_, ws) ← options ['r'] [] ws.length ws
  let m ← get
  let unknown := ws.filter fun w => (description? m true w).isNone
  for w in unknown do Run.complain (w ++ ": not found".toList)
  return if unknown = [] then 0 else 1

/-! ### Directories -/

/-- The path of a place from the root. -/
def pathOf (place : Location) : Octets :=
  if place = [] then ['/'] else place.flatMap fun name => '/' :: Octets.ofText name

/-- Whether a path says by itself from where it starts. -/
def isAnchored (path : Octets) : Bool :=
  path.head? = some '/' || ['.'] = path.takeWhile (· ≠ '/') ||
    ['.', '.'] = path.takeWhile (· ≠ '/')

/-- The path of a directory that is looked for in the directories that the script names, and
whether one of these was needed. -/
def directoryNamed (target : Octets) : Run (Octets × Bool) := do
  let m ← get
  let isDirectory (path : Octets) : Bool :=
    match m.tree.locateFrom m.directory (Octets.toText path) with
    | .ok (_, .directory) => true
    | _ => false
  let listed := if isAnchored target then []
    else ((m.bindings.lookup "CDPATH".toList).bind (·.value)).getD []
  let candidates : List (Octets × Bool) := (listed.splitOn ':').map fun directory =>
    (inDirectory directory target, !directory.isEmpty)
  return (candidates.find? fun c => isDirectory c.1).getD (target, false)

def cd (ws : List Octets) : Run Nat := do
  let (_, ws) ← options ['L', 'P'] [] ws.length ws
  let target ← match ws with
    | [] => Run.value? "HOME".toList
    | ['-'] :: _ => Run.value? "OLDPWD".toList
    | w :: _ => pure (some w)
  let target := (target.filter (· ≠ [])).getD ['.']
  let (path, isFound) ← directoryNamed target
  let m ← get
  match m.tree.locateFrom m.directory (Octets.toText path) with
  | .ok (place, .directory) =>
    set { m with directory := place }
    Run.assign "OLDPWD".toList (pathOf m.directory)
    Run.assign "PWD".toList (pathOf place)
    if isFound || ws.head? = some ['-'] then output "cd".toList (pathOf place ++ ['\n'])
    else return 0
  | _ => Run.fail ("can't cd to ".toList ++ target)

def pwd (ws : List Octets) : Run Nat := do
  let _ ← options ['L', 'P'] [] ws.length ws
  output "pwd".toList (pathOf (← get).directory ++ ['\n'])

/-! ### Limits -/

/-- Shows or sets the permissions that a new file does not get. -/
def umask (ws : List Octets) : Run Nat := do
  let (found, ws) ← options ['S'] [] ws.length ws
  let m ← get
  let hold (mask : Nat) : Run Nat := do
    set { m with mask := mask % 512 }
    return 0
  match ws with
  | [] =>
    let shown := if found = [] then '0' :: Mode.digits m.mask else Mode.letters (511 - m.mask)
    output "umask".toList (shown ++ ['\n'])
  | w :: _ =>
    if w.all Char.isDigit then
      match Mode.ofDigits? w with
      | some mask => hold mask
      | none => Run.fail ("Illegal number: ".toList ++ w)
    else
      match Mode.change? 0 w (511 - m.mask) with
      | some granted => hold (511 - granted)
      | none => Run.fail ("Illegal mode: ".toList ++ w)

/-- Shows a limit of the process. There are none, save that nothing is kept of a program
that breaks down. A limit that is set is taken note of by nobody. -/
def ulimit (ws : List Octets) : Run Nat := do
  let (found, ws) ← options "HSatfdscmlpnvwr".toList [] ws.length ws
  match ws with
  | [] =>
    let isCore := found.getLast?.any fun o => o.1 = 'c'
    output "ulimit".toList (if isCore then "0\n".toList else "unlimited\n".toList)
  | [w] =>
    if w = "unlimited".toList || (w ≠ [] && w.all Char.isDigit) then return 0
    else Run.fail "bad number".toList
  | _ => Run.fail "too many arguments".toList

end StyleSnapshot.Shell.Builtin
