import StyleSnapshot.Shell.Condition
import StyleSnapshot.Shell.Expansion
import StyleSnapshot.Shell.Format.Basic

/-! Commands of a script about texts: printing, reading and comparing. Each yields its
status. -/
namespace StyleSnapshot.Shell.Builtin

/-- Writes to standard output; the status tells whether that was possible. -/
def output (name t : Octets) : Run Nat := do
  if ← Run.print t then return 0
  else
    Run.complain (name ++ ": I/O error".toList)
    return 1

/-! ### Options -/

/-- The options at the front of the arguments, each with its argument if it takes one, and
the arguments behind them. -/
def options (known withArgument : Octets) : Nat → List Octets →
    Run (List (Char × Octets) × List Octets)
  | 0, ws => pure ([], ws)
  | _, [] => pure ([], [])
  | fuel + 1, w :: ws =>
    match w with
    | ['-', '-'] => pure ([], ws)
    | '-' :: c :: more =>
      if c ∈ withArgument then do
        match more, ws with
        | [], [] => Run.fail ("No arg for -".toList ++ c :: " option".toList)
        | [], a :: ws =>
          let (found, rest) ← options known withArgument fuel ws
          return ((c, a) :: found, rest)
        | a, ws =>
          let (found, rest) ← options known withArgument fuel ws
          return ((c, a) :: found, rest)
      else if c ∈ known then do
        let (found, rest) ← options known withArgument fuel
          (if more = [] then ws else ('-' :: more) :: ws)
        return ((c, []) :: found, rest)
      else Run.fail ("Illegal option -".toList ++ [c])
    | w => pure ([], w :: ws)

/-- The arguments behind options, of which there are none. -/
def operands (ws : List Octets) : Run (List Octets) := return (← options [] [] ws.length ws).2

/-! ### Printing -/

def echo (ws : List Octets) : Run Nat :=
  match ws with
  | ['-', 'n'] :: ws => output "echo".toList (Format.echo .script true false ws)
  | ws => output "echo".toList (Format.echo .script true true ws)

def printf (ws : List Octets) : Run Nat := do
  match ← operands ws with
  | [] => Run.fail "usage: printf format [arg ...]".toList
  | format :: arguments =>
    let printed := Format.print .script format arguments
    let before := (← get).toProcess.write 1 printed.output
    for c in printed.complaints do Run.complain c
    match before with
    | .ok _ =>
      let _ ← Run.print printed.output
      return printed.status
    | .error _ => output "printf".toList printed.output

/-! ### Comparing -/

def facts (m : Machine) : Condition.Facts where
  content? t := (m.tree.locateFrom m.directory (Octets.toText t)).toOption
  isExecutable place := place ∈ m.tree.executables

def test (ws : List Octets) : Run Nat := do
  match Condition.holds (facts (← get)) ws with
  | .ok holds => return if holds then 0 else 1
  | .error message => Run.fail message

def bracket (ws : List Octets) : Run Nat := do
  if ws.getLast? = some [']'] then test ws.dropLast else Run.fail "missing ]".toList

/-! ### Reading -/

/-- A line of a text, whether a break ended it, and the number of bytes it took. Unless it
is raw, a backslash quotes a byte and hides a break. -/
def lineOf (isRaw : Bool) : Octets → Marked × Bool × Nat
  | [] => ([], false, 0)
  | '\n' :: _ => ([], true, 1)
  | [c] => if c = '\\' && !isRaw then ([], false, 1) else ([(c, false)], false, 1)
  | c :: d :: rest =>
    if c = '\\' && !isRaw then
      let (line, isEnded, count) := lineOf isRaw rest
      (if d = '\n' then line else (d, true) :: line, isEnded, count + 2)
    else
      let (line, isEnded, count) := lineOf isRaw (d :: rest)
      (if c = '\x00' then line else (c, false) :: line, isEnded, count + 1)

/-- Takes a line from standard input. -/
def takeLine (isRaw : Bool) : Run (Marked × Bool) := do
  let m ← get
  match m.descriptors.lookup 0 with
  | none => return ([], false)
  | some stream =>
    let t := match m.toWorld.pending stream with
      | .ok t => t
      | .error _ => []
    let (line, isEnded, count) := lineOf isRaw t
    set { m with toProcess := m.toProcess.within (m.toWorld.consume stream count) }
    return (line, isEnded)

def read (ws : List Octets) : Run Nat := do
  let (found, names) ← options ['r'] ['p'] ws.length ws
  if names = [] then Run.fail "arg count".toList
  let (line, isEnded) ← takeLine (found.any (·.1 = 'r'))
  let fields := Fields.deal (Expansion.separators (← get)) names.length line
  for (name, field) in names.zip fields do
    if isName name then Run.assign name field.text
    else Run.fail (name ++ ": bad variable name".toList)
  return if isEnded then 0 else 1

end StyleSnapshot.Shell.Builtin
