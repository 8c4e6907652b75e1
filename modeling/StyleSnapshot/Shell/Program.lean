import StyleSnapshot.Shell.Run
import StyleSnapshot.Shell.Tool.Start

/-! Programs by name.

A program is one that the system has, or a file that may be executed, which is then read as
a script. A name with a slash is a path; any other name is looked for in the directories
for programs. -/
namespace StyleSnapshot.Shell

/-! ### Scripts as programs -/

/-- What the arguments of a shell ask for. -/
structure Start where
  /-- The script that is among the arguments. -/
  hasCommand : Bool := false
  /-- Whether the script is read from standard input. -/
  readsInput : Bool := false
  options : List Char := []

/-- Why a shell does not start. -/
abbrev StartError := Octets

/-- The options at the front of the arguments, and the arguments behind them. -/
def startOptions : Nat → Start → List Octets → Except StartError (Start × List Octets)
  | 0, s, ws => .ok (s, ws)
  | fuel + 1, s, ws =>
    match ws with
    | [] => .ok (s, [])
    | ['-'] :: ws | ['-', '-'] :: ws => .ok (s, ws)
    | (sign :: letters) :: ws =>
      if (sign = '-' || sign = '+') && letters ≠ [] then do
        let (s, ws) ← letters.foldlM (fun (s, ws) c => letter (sign = '-') c s ws) (s, ws)
        startOptions fuel s ws
      else .ok (s, (sign :: letters) :: ws)
    | ws => .ok (s, ws)
where
  switch (isOn : Bool) (c : Char) (s : Start) : Start :=
    let others := s.options.filter (· ≠ c)
    { s with options := if isOn then c :: others else others }
  letter (isOn : Bool) (c : Char) (s : Start) (ws : List Octets) :
      Except StartError (Start × List Octets) :=
    if c = 'c' then .ok ({ s with hasCommand := true }, ws)
    else if c = 'l' then .ok (s, ws)
    else if c = 's' then .ok ({ switch isOn c s with readsInput := isOn }, ws)
    else if c = 'o' then
      match ws with
      | [] => .ok (s, [])
      | name :: ws =>
        match Expansion.optionNames.find? fun o => o.2 = name with
        | some (c, _) => .ok (if c = '\x00' then s else switch isOn c s, ws)
        | none => .error ("Illegal option -o ".toList ++ name)
    else if Expansion.optionNames.any (·.1 = c) then .ok (switch isOn c s, ws)
    else .error ("Illegal option -".toList ++ [c])

/-- A machine that was handed a process. -/
def machineOf (p : Process) (name : Octets) (arguments : List Octets) (options : List Char) :
    Machine :=
  let handed := p.environment.filterMap fun e =>
    if isName e.1 then some (e.1, (⟨some e.2, true, false⟩ : Binding)) else none
  let plain (value : Octets) : Binding := ⟨some value, false, false⟩
  let own : List (Octets × Binding) :=
    [("IFS".toList, plain Fields.separators), ("OPTIND".toList, plain ['1']),
      ("PATH".toList, (handed.lookup "PATH".toList).getD (plain Builtin.usualPath)),
      ("PPID".toList, plain ['1']), ("PS1".toList, plain "# ".toList),
      ("PS2".toList, plain "> ".toList), ("PS4".toList, plain "+ ".toList)]
  let others := handed.filter fun b => own.all fun o => o.1 ≠ b.1
  { toProcess := p, name := name, arguments := arguments, bindings := own ++ others
    options := options }

/-- Runs a script as a program of its own. -/
def runScript (e : Evaluator) (m : Machine) (script : Octets) : Process × ExitStatus :=
  let (stopped, m) := (e.script false 1 script).run m
  let (m, status) := e.finish stopped m
  (m.toProcess, status)

/-- Runs a shell: a script is given as an argument, as a file, or as the input. A directory
reads as an empty script. -/
def runShell (e : Evaluator) (name : Octets) (arguments : List Octets) (p : Process) :
    Process × ExitStatus :=
  let refuse (reason : Octets) : Process × ExitStatus :=
    (p.tell 2 (name ++ ": 0: ".toList ++ reason ++ ['\n']), .exited 2)
  match startOptions (arguments.length + 1) {} arguments with
  | .error reason => refuse reason
  | .ok (s, rest) =>
    if s.hasCommand then
      match rest with
      | [] => refuse "-c requires an argument".toList
      | script :: rest =>
        runScript e (machineOf p (rest.headD name) rest.tail s.options) script
    else
      match rest with
      | path :: more =>
        if s.readsInput then
          let (script, p) := p.readAll 0
          runScript e (machineOf p name rest s.options) script
        else
          match p.tree.locateFrom p.directory (Octets.toText path) with
          | .error reason =>
            refuse ("cannot open ".toList ++ path ++ ": ".toList ++
              Redirection.reasonOf true reason)
          | .ok (place, _) =>
            runScript e (machineOf p path more s.options) (p.toWorld.contentAt place)
      | [] =>
        let (script, p) := p.readAll 0
        let options := if 's' ∈ s.options then s.options else 's' :: s.options
        runScript e (machineOf p name [] options) script

/-! ### Finding and starting programs -/

/-- The directories for programs in a process, in the order in which they are searched. -/
def searchedIn (p : Process) : List Octets :=
  ((p.environment.lookup "PATH".toList).getD "/bin:/usr/bin".toList).splitOn ':'

/-- The path of the program that a name stands for. What keeps a program in one directory
from being started matters only if no directory has one that can be. -/
def findProgram (p : Process) (name : Octets) : Except AccessError Octets :=
  if name = [] then .error .notFound
  else if '/' ∈ name then (Builtin.programAt p name).map fun _ => name
  else
    let tried := (searchedIn p).map fun directory =>
      let path := Builtin.inDirectory directory name
      (path, Builtin.programAt p path)
    match tried.find? fun r => r.2.toOption.isSome with
    | some (path, _) => .ok path
    | none =>
      let reasons := tried.filterMap fun r =>
        match r.2 with
        | .error e => if e = .notFound || e = .notDirectory then none else some e
        | .ok _ => none
      .error (reasons.headD .notFound)

/-- Runs the program at a path. -/
def launch (e : Evaluator) (program name : Octets) (arguments : List Octets) (p : Process) :
    Process × ExitStatus :=
  match p.tree.locateFrom p.directory (Octets.toText program) with
  | .ok (place, .program) =>
    let tool := Octets.ofText (place.getLastD [])
    if tool = "sh".toList || tool = "dash".toList then runShell e name arguments p
    else
      match Tool.ofName? ⟨findProgram, e.launch⟩ tool name with
      | some run => Tool.start (run arguments) name p
      | none => (p, .exited 127)
  | .ok _ => runShell e name (program :: arguments) p
  | .error _ => (p, .exited 127)

/-- The evaluator for scripts that are nested at most so deep. -/
def evaluator : Nat → Evaluator
  | 0 =>
    { command := fun _ _ => throw (.signal 11)
      expand := fun _ _ => throw (.signal 11)
      script := fun _ _ _ => throw (.signal 11)
      launch := fun _ _ _ p => (p, .signalled 11) }
  | depth + 1 =>
    let e := evaluator depth
    { command := Run.command e
      expand := Expansion.ofWord e
      script := Run.script e
      launch := launch e }

/-- How deep scripts may be nested. -/
def nestingLimit : Nat := 5000

/-- Runs a program with some input in a tree of files, which it may change. -/
def runProgram (tree : FileTree) (name : Text) (arguments : List Text) (input : List UInt8) :
    Except AccessError (Completion × FileTree) :=
  if (name :: arguments).any (·.contains '\x00') then .error .nullInCommand
  else
    let p := Process.start tree (Octets.ofBytes input)
    let called := Octets.ofText name
    match findProgram p called with
    | .error e => .error e
    | .ok program =>
      let (p, status) :=
        (evaluator nestingLimit).launch program called (arguments.map Octets.ofText) p
      .ok (⟨status, Octets.toBytes (p.toWorld.written 1), Octets.toBytes (p.toWorld.written 2)⟩,
        p.tree)

end StyleSnapshot.Shell
