import StyleSnapshot.Shell.Tool.Columns
import StyleSnapshot.Shell.Tool.Compute
import StyleSnapshot.Shell.Tool.Dump
import StyleSnapshot.Shell.Tool.Files
import StyleSnapshot.Shell.Tool.Search
import StyleSnapshot.Shell.Tool.Sed.Program
import StyleSnapshot.Shell.Tool.Sort
import StyleSnapshot.Shell.Tool.Test
import StyleSnapshot.Shell.Tool.Translate

/-! Programs that start programs, and all programs by name. -/
namespace StyleSnapshot.Shell.Tool

/-- How a program is found by its name and started. -/
structure Starter where
  find : Process → Octets → Except AccessError Octets
  launch : (program name : Octets) → (arguments : List Octets) → Process → Process × ExitStatus

/-- Runs a program and yields how it ended. -/
def run (s : Starter) (name : Octets) (arguments : List Octets) :
    Tool (Except AccessError ExitStatus) := do
  let p ← get
  match s.find p name with
  | .error e => return .error e
  | .ok program =>
    let (after, status) := s.launch program name arguments p
    set (p.within after.toWorld)
    return .ok status

/-- The status for a program that cannot be started. -/
def refusalStatus (e : AccessError) : Nat :=
  if e = .notFound || e = .notDirectory then 127 else 126

/-- Puts a program in the place of this one. -/
def become (s : Starter) (quote : Octets → Octets) (name : Octets) (arguments : List Octets) :
    Tool Nat := do
  match ← run s name arguments with
  | .ok status => throw status
  | .error e =>
    complain (quote name ++ ": ".toList ++ Octets.ofText e.reason)
    if e = .notFound && name.any Octets.isSpace then
      complain "use -[v]S to pass options in shebang lines".toList
    return refusalStatus e

/-! ### Surroundings -/

def env (s : Starter) (ws : List Octets) : Tool Nat := do
  let p ← parsed
    { letters := "i0v", withArgument := "uC", status := 125, stopsAtOperand := true
      long := [⟨"ignore-environment", 'i', false⟩, ⟨"unset", 'u', true⟩, ⟨"chdir", 'C', true⟩] } ws
  let operands := if p.operands.head? = some ['-'] then p.operands.tail else p.operands
  let unset := (p.options.filter (·.1 = 'u')).map (·.2)
  let isCleared := p.has 'i' || p.operands.head? = some ['-']
  modify fun process =>
    { process with
      environment :=
        if isCleared then [] else process.environment.filter fun e => e.1 ∉ unset }
  let assignments := operands.takeWhile fun w => '=' ∈ w
  for w in assignments do
    match Text.cut? ['='] w with
    | some (name, value) =>
      modify fun process =>
        { process with
          environment := process.environment.filter (·.1 ≠ name) ++ [(name, value)] }
    | none => pure ()
  match operands.drop assignments.length with
  | [] =>
    print (Octets.unlines ((← get).environment.map fun e => e.1 ++ '=' :: e.2))
    return 0
  | name :: arguments => become s quoted name arguments

def nohup (s : Starter) (ws : List Octets) : Tool Nat := do
  match if ws.head? = some "--".toList then ws.tail else ws with
  | [] => misuse 125 "missing operand".toList
  | name :: arguments =>
    modify fun process => { process with ignored := Signal.hangup :: process.ignored }
    match ← run s name arguments with
    | .ok status => throw status
    | .error e =>
      complain ("failed to run command ".toList ++ Quoted.word name ++ ": ".toList ++
        Octets.ofText e.reason)
      return refusalStatus e

def timeout (s : Starter) (ws : List Octets) : Tool Nat := do
  let p ← parsed
    { letters := "vfp", withArgument := "ks", status := 125, stopsAtOperand := true
      long := [⟨"signal", 's', true⟩, ⟨"kill-after", 'k', true⟩, ⟨"foreground", 'f', false⟩,
        ⟨"preserve-status", 'p', false⟩] } ws
  match p.operands with
  | duration :: name :: arguments =>
    let body := if duration.getLast?.any (· ∈ "smhd".toList) then duration.dropLast else duration
    if (Numeral.read? body).isNone then
      misuse 125 ("invalid time interval ".toList ++ quoted duration)
    match ← run s name arguments with
    | .ok (.exited status) => return status
    | .ok (.signalled n) => throw (.signalled n)
    | .error e =>
      complain ("failed to run command ".toList ++ quoted name ++ ": ".toList ++
        Octets.ofText e.reason)
      return refusalStatus e
  | _ => do
    tell ("Try '".toList ++ (← read) ++ " --help' for more information.\n".toList)
    return 125

/-! ### Arguments from input -/

/-- The words of a text. Quotes and backslashes keep blanks; the fault is a quote that has no
end. -/
def inputWords : Nat → (word : Option Octets) → Octets → Except Octets (List Octets)
  | 0, word, _ => .ok word.toList
  | _, word, [] => .ok ((word.map (·.reverse)).toList)
  | fuel + 1, word, c :: rest =>
    if Octets.isSpace c then
      (inputWords fuel none rest).map fun more => (word.map (·.reverse)).toList ++ more
    else if c = '\'' || c = '"' then
      let inside := rest.takeWhile fun d => d ≠ c && d ≠ '\n'
      match rest.drop inside.length with
      | d :: behind =>
        if d = c then inputWords fuel (some (inside.reverse ++ word.getD [])) behind
        else .error (if c = '"' then "double".toList else "single".toList)
      | [] => .error (if c = '"' then "double".toList else "single".toList)
    else if c = '\\' then
      match rest with
      | d :: behind => inputWords fuel (some (d :: word.getD [])) behind
      | [] => .ok ((word.map (·.reverse)).toList)
    else inputWords fuel (some (c :: word.getD [])) rest

/-- Groups of at most so many. -/
def chunks (size : Nat) : Nat → List α → List (List α)
  | 0, _ => []
  | fuel + 1, xs =>
    if xs.isEmpty then [] else xs.take size :: chunks size fuel (xs.drop size)

/-- A text with something else in place of each mark. -/
def substituted (mark value : Octets) : Nat → Octets → Octets
  | 0, t => t
  | fuel + 1, t =>
    match if mark = [] then none else Text.cut? mark t with
    | some (before, behind) => before ++ value ++ substituted mark value fuel behind
    | none => t

/-- The number that an option with a letter asks for, at least one. -/
def amount? (p : Parsed) (c : Char) : Tool (Option Nat) := do
  match p.last? c with
  | none => return none
  | some t =>
    match Octets.leadingInteger? 10 t with
    | some (n, []) =>
      if n < 1 then
        misuse 1 ("value ".toList ++ t ++ " for -".toList ++ c :: " option should be >= 1".toList)
      return some n.toNat
    | _ => misuse 1 ("invalid number \"".toList ++ t ++ "\" for -".toList ++ c :: " option".toList)

def xargs (s : Starter) (ws : List Octets) : Tool Nat := do
  let p ← parsed
    { letters := "0rtxi", withArgument := "nLIdaPsE", withoutArgument := "i"
      stopsAtOperand := true
      long := [⟨"null", '0', false⟩, ⟨"no-run-if-empty", 'r', false⟩, ⟨"max-args", 'n', true⟩,
        ⟨"replace", 'I', true⟩, ⟨"delimiter", 'd', true⟩] } ws
  let words? ← amount? p 'n'
  let lines? ← amount? p 'L'
  let t ← match p.last? 'a' with
    | none => pure ((← standardInput).toOption.getD [])
    | some path =>
      match ← content path with
      | .ok t => pure t
      | .error reason =>
        fail 1 ("Cannot open input file ".toList ++ quoted path ++ ": ".toList ++ reason)
  let mark := (p.last? 'I').or
    ((p.last? 'i').map fun a => if a = [] then "\x7b\x7d".toList else a)
  let lines := (Octets.lines t).map fun line => line.dropWhile fun c => c = ' ' || c = '\t'
  let separator := if p.has '0' then some '\x00' else (p.last? 'd').map fun d =>
    match d with
    | ['\\', 'n'] => '\n'
    | ['\\', 't'] => '\t'
    | ['\\', '0'] => '\x00'
    | d => d.headD '\n'
  let words ← match separator, mark with
    | some c, _ =>
      let parts := t.splitOn c
      pure (if parts.getLast? = some [] then parts.dropLast else parts)
    | none, some _ => pure (lines.filter (· ≠ []))
    | none, none =>
      match inputWords (t.length + 1) none t with
      | .ok words => pure words
      | .error kind =>
        fail 1 ("unmatched ".toList ++ kind ++
          " quote; by default quotes are special to xargs unless you use the -0 option".toList)
  let command := if p.operands = [] then ["echo".toList] else p.operands
  let words := match separator, p.last? 'E' with
    | none, some last => words.takeWhile (· ≠ last)
    | _, _ => words
  let calls : List (List Octets) := match mark with
    | some mark =>
      words.map fun w => command.map fun t => substituted mark w t.length t
    | none =>
      let groups := chunks ((words?.or lines?).getD 100000) words.length words
      let groups := if groups = [] && !p.has 'r' then [[]] else groups
      groups.map (command ++ ·)
  let nothing ← modifyGet fun process =>
    let (world, n) := process.toWorld.opened .nothing
    (n, process.within world)
  let before := (← get).descriptors
  modify fun process => process.withStream 0 nothing
  let mut status := 0
  for call in calls do
    let name := call.headD []
    if p.has 't' then tell (Text.join [' '] (call.map Quoted.file) ++ ['\n'])
    match ← run s name call.tail with
    | .error e =>
      complain (name ++ ": ".toList ++ Octets.ofText e.reason)
      stop (refusalStatus e)
    | .ok (.signalled n) =>
      complain (name ++ ": terminated by signal ".toList ++ Octets.ofInt n)
      stop 125
    | .ok (.exited 255) =>
      complain (name ++ ": exited with status 255; aborting".toList)
      stop 124
    | .ok (.exited 0) => pure ()
    | .ok (.exited _) => status := 123
  modify fun process => { process with descriptors := before }
  return status

/-! ### All programs -/

/-- The program of a name, as it is called by some name. -/
def ofName? (s : Starter) (name calledAs : Octets) : Option (List Octets → Tool Nat) :=
  match String.ofList name with
  | "[" | "test" => some (Test.main (lastComponent calledAs))
  | "base64" => some base64
  | "basename" => some basename
  | "cat" => some cat
  | "chmod" => some chmod
  | "comm" => some comm
  | "cp" => some cp
  | "cut" => some cut
  | "dirname" => some dirname
  | "echo" => some echo
  | "egrep" => some (grepOnly 'E')
  | "env" => some (env s)
  | "expr" => some expr
  | "false" => some (constant 1)
  | "fgrep" => some (grepOnly 'F')
  | "fold" => some fold
  | "grep" => some grep
  | "head" => some head
  | "ls" => some ls
  | "mkdir" => some mkdir
  | "mktemp" => some mktemp
  | "mv" => some mv
  | "nl" => some nl
  | "nohup" => some (nohup s)
  | "od" => some Dump.main
  | "paste" => some paste
  | "printenv" => some printenv
  | "printf" => some printf
  | "pwd" => some pwd
  | "rev" => some rev
  | "rm" => some rm
  | "rmdir" => some rmdir
  | "sed" => some Sed.main
  | "seq" => some seq
  | "sleep" => some sleep
  | "sort" => some sort
  | "sync" | "true" => some (constant 0)
  | "tac" => some tac
  | "tail" => some tail
  | "tee" => some tee
  | "timeout" => some (timeout s)
  | "touch" => some touch
  | "tr" => some Translate.main
  | "uniq" => some uniq
  | "wc" => some wc
  | "xargs" => some (xargs s)
  | "yes" => some yes
  | _ => none

end StyleSnapshot.Shell.Tool
