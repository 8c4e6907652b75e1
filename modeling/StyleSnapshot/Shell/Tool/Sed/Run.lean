import StyleSnapshot.Shell.Tool.Basic
import StyleSnapshot.Shell.Tool.Sed.Substitution

/-! Running editing scripts.

A script is run once for each line, which it finds in the pattern space; a second space
holds text from line to line. What is in the pattern space at the end is printed. A line
that no break ends is printed without one, which is made up for as soon as more follows. -/
namespace StyleSnapshot.Shell.Tool.Sed

/-- A line and whether a break ends it. -/
structure Line where
  text : Octets := []
  isEnded : Bool := true

/-- How a script is run. -/
structure Setting where
  commands : Array Command
  isQuiet : Bool := false
  /-- The character that ends lines. -/
  lineEnd : Char := '\n'
  /-- The width in which lines are listed. -/
  width : Nat := 70
  /-- Whether each file is edited on its own. -/
  isSeparate : Bool := false
  /-- Whether files are replaced by what is printed, and what their backups are called by. -/
  suffix : Option Octets := none
  /-- How many expressions the script was given in. -/
  expressions : Nat := 1

/-- A range: none is closed, and an open one may have a number for its last line. -/
abbrev Opened := Option (Option Nat)

/-- What is printed behind a line. -/
inductive Queued where
  | text (t : Octets)
  | file (path : Octets)
  | line (path : Octets)

/-- Why a script ends early. -/
inductive Halt where
  | quit (status : Nat)
  | failed (status : Nat)

structure Editor where
  setting : Setting
  /-- The files that have not been opened yet. -/
  paths : List Octets
  path : Octets := ['-']
  left : List Line := []
  number : Nat := 0
  pattern : Line := {}
  held : Line := {}
  ranges : Array Opened
  queue : List Queued := []
  hasReplaced : Bool := false
  lastSearch : Option (Matcher × Search) := none
  /-- The pieces written to standard output so far, the last first. -/
  printed : List Octets := []
  /-- The pieces of the file that is edited in place, the last first. -/
  edited : Option (List Octets) := none
  /-- Where a line end is missing. -/
  lacking : List Destination := []
  /-- Files that are read line by line: all their lines, and those left. -/
  readers : List (Octets × List Line × List Line) := []
  status : Nat := 0

abbrev Step := ExceptT Halt (StateT Editor Tool)

/-- The ranges that are open in front of the first line. -/
def openedFirst (cs : Array Command) : Array Opened :=
  cs.map fun c => match c.span with
    | .range none _ => some none
    | _ => none

def Editor.start (s : Setting) (paths : List Octets) : Editor where
  setting := s
  paths := paths
  ranges := openedFirst s.commands

/-! ### Output -/

/-- Adds to a file. -/
def extend (path t : Octets) : Tool Unit := do
  let p ← get
  match p.tree.readBytesFrom p.directory (Octets.toText path) with
  | .ok bytes => let _ ← store path (Octets.ofBytes bytes ++ t)
  | .error _ => let _ ← store path t

def put (d : Destination) (t : Octets) : Step Unit := do
  match d with
  | .output =>
    modify fun m => match m.edited with
      | some pieces => { m with edited := some (t :: pieces) }
      | none => { m with printed := t :: m.printed }
  | .standard 2 => tell t
  | .standard _ => modify fun m => { m with printed := t :: m.printed }
  | .file path => extend path t

/-- Ends a line that lacks its end. -/
def complete (d : Destination) : Step Unit := do
  let m ← get
  if d ∈ m.lacking then
    put d [m.setting.lineEnd]
    set { ← get with lacking := m.lacking.filter (· ≠ d) }

/-- Writes a text that has its line ends already. -/
def writeWhole (d : Destination) (t : Octets) : Step Unit := do
  complete d
  put d t

/-- A line with its end. -/
def Line.whole (l : Line) (lineEnd : Char) : Octets :=
  if l.isEnded then l.text ++ [lineEnd] else l.text

def write (d : Destination) (l : Line) : Step Unit := do
  writeWhole d (l.whole (← get).setting.lineEnd)
  if !l.isEnded then modify fun m => { m with lacking := d :: m.lacking }

def printPattern : Step Unit := do write .output (← get).pattern

/-- The first line in the pattern space. -/
def firstLine : Step Line := do
  let m ← get
  let t := m.pattern.text.takeWhile (· ≠ m.setting.lineEnd)
  return if t.length < m.pattern.text.length then { text := t } else m.pattern

/-! ### Input -/

/-- The lines of a text. -/
def linesOf (lineEnd : Char) (t : Octets) : List Line :=
  let pieces := t.splitOnP (· = lineEnd)
  let ended : List Line := pieces.dropLast.map fun text => { text := text }
  match pieces.getLast? with
  | some [] | none => ended
  | some rest => ended ++ [⟨rest, false⟩]

/-- What is in a file by its name alone, where a dash is a name like any other. -/
def namedContent (path : Octets) : Tool (Except Octets Octets) :=
  content (if path = ['-'] then "./-".toList else path)

/-- The name of the backup of a file: a star stands for the file's name, and a suffix without
one is added to it. A name with a slash is a path of its own. -/
def backupPath (suffix path : Octets) : Octets :=
  let base := (path.reverse.takeWhile (· ≠ '/')).reverse
  let folder := path.take (path.length - base.length)
  let name := if '*' ∈ suffix then suffix.flatMap fun c => if c = '*' then base else [c]
    else base ++ suffix
  if '/' ∈ name then name else folder ++ name

/-- Replaces the file that is edited in place. -/
def finishFile : Step Unit := do
  let m ← get
  match m.setting.suffix, m.edited with
  | some suffix, some pieces =>
    if suffix ≠ [] then
      match ← namedContent m.path with
      | .ok t =>
        match ← store (backupPath suffix m.path) t with
        | .ok () => pure ()
        | .error reason =>
          complain ("cannot rename ".toList ++ m.path ++ ": ".toList ++ reason)
          throw (.failed 4)
      | .error _ => pure ()
    let _ ← store m.path pieces.reverse.flatten
    modify fun m => { m with edited := none, lacking := m.lacking.filter (· ≠ .output) }
  | _, _ => return

/-- Forgets what holds only in one of the files that are edited on their own. -/
def forgetFile : Step Unit := do
  finishFile
  let m ← get
  if m.setting.isSeparate && m.setting.suffix.isNone then complete .output
  if m.setting.isSeparate then
    modify fun m =>
      { m with
        number := 0, held := {}, ranges := openedFirst m.setting.commands
        readers := m.readers.map fun (path, lines, _) => (path, lines, lines) }

/-- Opens a file whose lines come next. One that cannot be read is passed over; a directory
ends the run, unless it is only looked at to learn whether more lines follow. -/
def openFile (path : Octets) (isAhead : Bool) : Step Unit := do
  let isEdited := (← get).setting.suffix.isSome
  let isInput := path = ['-'] && !isEdited
  match ← if isInput then standardInput else namedContent path with
  | .ok t =>
    modify fun m =>
      { m with
        path := path, left := linesOf m.setting.lineEnd t
        edited := if isEdited then some [] else none }
  | .error reason =>
    if (← isDirectory path) || (isInput && reason = "Is a directory".toList) then
      if isEdited then
        complain ("couldn't edit ".toList ++ path ++ ": not a regular file".toList)
        throw (.failed 4)
      if !isAhead then
        complain ("read error on ".toList ++ (if isInput then "stdin".toList else path) ++
          ": ".toList ++ reason)
        throw (.failed 4)
    else
      complain ("can't read ".toList ++ path ++ ": ".toList ++ reason)
      modify fun m => { m with status := 2 }

/-- Opens files until there is a line. -/
def openFrom (isAhead : Bool) : Nat → Step Unit
  | 0 => return
  | fuel + 1 => do
    let m ← get
    match m.left, m.paths with
    | [], path :: paths =>
      set { m with paths := paths }
      if !isAhead then forgetFile
      openFile path isAhead
      openFrom isAhead fuel
    | _, _ => return

/-- Whether the line in the pattern space is the last one. -/
def isLast : Step Bool := do
  let m ← get
  if m.left ≠ [] then return false
  if m.setting.isSeparate then return true
  openFrom true (m.paths.length + 1)
  return (← get).left.isEmpty

def flushQueue : Step Unit := do
  let m ← get
  set { m with queue := [] }
  for entry in m.queue do
    match entry with
    | .text t => writeWhole .output t
    | .file path =>
      match ← namedContent path with
      | .ok t => writeWhole .output t
      | .error _ => complete .output
    | .line path =>
      let m ← get
      let (lines, left) ← match m.readers.lookup path with
        | some reader => pure reader
        | none =>
          match ← namedContent path with
          | .ok t => pure (linesOf m.setting.lineEnd t, linesOf m.setting.lineEnd t)
          | .error _ => pure ([], [])
      modify fun m =>
        { m with readers := (path, lines, left.tail) :: m.readers.filter (·.1 ≠ path) }
      match left with
      | l :: _ => writeWhole .output (l.whole m.setting.lineEnd)
      | [] => pure ()

/-- Puts the next line into the pattern space, if there is one. -/
def readLine (isAdded : Bool) : Step Bool := do
  flushQueue
  openFrom false ((← get).paths.length + 1)
  let m ← get
  match m.left with
  | [] => return false
  | line :: left =>
    let text :=
      if isAdded then m.pattern.text ++ m.setting.lineEnd :: line.text else line.text
    set { m with
      left := left, number := m.number + 1, pattern := ⟨text, line.isEnded⟩
      hasReplaced := false }
    return true

/-! ### Searching -/

/-- The expression that a search stands for. -/
def regexOf (s : Search) : Step (Matcher × Search) := do
  let m ← get
  match s.matcher, m.lastSearch with
  | some r, _ =>
    set { m with lastSearch := some (r, s) }
    return (r, s)
  | none, some previous => return previous
  | none, none =>
    complain ("-e expression #".toList ++ Octets.ofInt m.setting.expressions ++
      ", char 0: no previous regular expression".toList)
    throw (.failed 1)

def subjectOf (m : Editor) (s : Search) : Regex.Subject where
  text := m.pattern.text.toArray
  ignoresCase := s.ignoresCase
  hasLines := s.hasLines && m.setting.lineEnd = '\n'

def isFound (s : Search) : Step Bool := do
  let (r, s) ← regexOf s
  return (r.matchFrom? (subjectOf (← get) s) 0).isSome

def isAt (a : Address) : Step Bool := do
  match a with
  | .line n => return (← get).number = n
  | .last => isLast
  | .search s => isFound s
  | .every first step =>
    let n := (← get).number
    return first ≤ n && (n - first) % step = 0

/-- The range that begins on a line. -/
def RangeEnd.opened (e : RangeEnd) (number : Nat) : Opened :=
  match e with
  | .address (.line n) => if n ≤ number then none else some (some n)
  | .address _ => some none
  | .count n => if n = 0 then none else some (some (number + n))
  | .multiple n => if n = 0 then none else some (some ((number / n + 1) * n))

/-- Whether an open range still has its line that is past the last one: a number of a line
does not wait for it. -/
def RangeEnd.reachesBehind : RangeEnd → Bool
  | .address _ => false
  | .count _ | .multiple _ => true

/-- Whether a command applies to the line. -/
def applies (index : Nat) (span : Span) : Step Bool := do
  match span with
  | .all => return true
  | .at a => isAt a
  | .range first e =>
    let remember (o : Opened) : Step Unit :=
      modify fun m => { m with ranges := m.ranges.set! index o }
    let m ← get
    match m.ranges[index]?.join, first with
    | none, none => return false
    | none, some a =>
      if ← isAt a then
        remember (e.opened m.number)
        return true
      else return false
    | some (some n), _ =>
      if n ≤ m.number then remember none
      return m.number ≤ n || e.reachesBehind
    | some none, _ =>
      let isEnd ← match e with
        | .address a => isAt a
        | _ => pure false
      if isEnd then remember none
      return true

/-! ### Commands -/

/-- How a command goes on. -/
inductive Flow where
  | next
  | jump (index : Nat)
  /-- The line is done, and printed unless that is unwanted. -/
  | done (prints : Bool)
  /-- The script is run again without a new line. -/
  | again

/-- The text with what does not print in escapes, in lines of a width unless that is zero. -/
def listed (width : Nat) (lineEnd : Char) (t : Octets) : Octets :=
  let shown (c : Char) : Octets :=
    if c = '\\' then "\\\\".toList
    else if c = '\x07' then "\\a".toList
    else if c = '\x08' then "\\b".toList
    else if c = '\x0c' then "\\f".toList
    else if c = '\n' then "\\n".toList
    else if c = '\r' then "\\r".toList
    else if c = '\t' then "\\t".toList
    else if c = '\x0b' then "\\v".toList
    else if 32 ≤ c.toNat && c.toNat < 127 then [c]
    else
      let digits := Octets.inBase 8 c.toNat
      '\\' :: List.replicate (3 - digits.length) '0' ++ digits
  let add (lines : List Octets) (piece : Octets) : List Octets :=
    match lines with
    | line :: more =>
      if width ≠ 0 && width - 1 < line.length + piece.length then
        piece :: (line ++ ['\\']) :: more
      else (line ++ piece) :: more
    | [] => [piece]
  Text.join [lineEnd] ((t.map shown).foldl add [[]]).reverse ++ "$".toList

def substitute (s : Substitution) : Step Unit := do
  let (r, search) ← regexOf s.search
  let m ← get
  match s.apply? r (subjectOf m search) with
  | none => return
  | some t =>
    set { m with pattern := { m.pattern with text := t }, hasReplaced := true }
    if s.prints then printPattern
    match s.copy with
    | some d => write d (← get).pattern
    | none => return

/-- Changes the pattern space in view of what is held. -/
def setPattern (f : (pattern held : Line) → Line) : Step Unit :=
  modify fun m => { m with pattern := f m.pattern m.held }

/-- A line below another one. -/
def Line.under (above : Line) (lineEnd : Char) (l : Line) : Line :=
  ⟨above.text ++ lineEnd :: l.text, l.isEnded⟩

/-- The place behind the end of the block that opens at an index. -/
def behindBlock (cs : Array Command) : Nat → (depth index : Nat) → Nat
  | 0, _, index => index
  | fuel + 1, depth, index =>
    match cs[index]?.map Command.action with
    | none => index
    | some .opening => behindBlock cs fuel (depth + 1) (index + 1)
    | some .closing =>
      if depth ≤ 1 then index + 1 else behindBlock cs fuel (depth - 1) (index + 1)
    | some _ => behindBlock cs fuel depth (index + 1)

def jumpTo (cs : Array Command) (t : Octets) : Flow := .jump ((labelled? cs t).getD cs.size)

/-- Writes a text whose last line is ended like any other. -/
def writeInserted (t : Octets) : Step Unit := do
  if t = [] then complete .output else write .output { text := t.dropLast }

def enqueue (entry : Queued) : Step Flow := do
  modify fun m => { m with queue := m.queue ++ [entry] }
  return .next

/-- Takes the action of a command that applies. -/
def act (index : Nat) (a : Action) : Step Flow := do
  let m ← get
  let s := m.setting
  match a with
  | .opening | .closing | .label _ => return .next
  | .substitute s =>
    substitute s
    return .next
  | .transliterate table =>
    let table := table.reverse
    setPattern fun p _ => { p with text := p.text.map fun c => (table.lookup c).getD c }
    return .next
  | .append t => enqueue (.text t)
  | .insert t =>
    writeInserted t
    return .next
  | .change t =>
    if m.ranges[index]?.join.isNone then writeInserted t
    return .done false
  | .delete => return .done false
  | .deleteFirst =>
    if s.lineEnd ∈ m.pattern.text then
      setPattern fun p _ => { p with text := (p.text.dropWhile (· ≠ s.lineEnd)).tail }
      return .again
    else return .done false
  | .print =>
    printPattern
    return .next
  | .printFirst =>
    write .output (← firstLine)
    return .next
  | .next =>
    if ← isLast then return .done true
    if !s.isQuiet then printPattern
    let _ ← readLine false
    return .next
  | .appendNext =>
    if ← isLast then return .done true
    let _ ← readLine true
    return .next
  | .get =>
    setPattern fun _ h => h
    return .next
  | .getAppend =>
    setPattern fun p h => p.under s.lineEnd h
    return .next
  | .hold =>
    set { m with held := m.pattern }
    return .next
  | .holdAppend =>
    set { m with held := m.held.under s.lineEnd m.pattern }
    return .next
  | .exchange =>
    set { m with held := m.pattern, pattern := m.held }
    return .next
  | .clear =>
    setPattern fun p _ => { p with text := [] }
    return .next
  | .number =>
    write .output { text := Octets.ofInt m.number }
    return .next
  | .name =>
    write .output { text := m.path }
    return .next
  | .list width =>
    write .output { text := listed (width.getD s.width) s.lineEnd m.pattern.text }
    return .next
  | .quit isSilent status =>
    if !isSilent then
      if !s.isQuiet then printPattern
      complete .output
      flushQueue
    if m.path = ['-'] then
      giveBack ((m.left.map fun l => (l.whole s.lineEnd).length).foldl (· + ·) 0)
    throw (.quit status)
  | .branch t => return jumpTo s.commands t
  | .branchIf wanted t =>
    if m.hasReplaced then set { m with hasReplaced := false }
    return if m.hasReplaced = wanted then jumpTo s.commands t else .next
  | .readFile path => enqueue (.file path)
  | .readLine path => enqueue (.line path)
  | .write isFirst d =>
    let first ← firstLine
    write d (if isFirst then first else m.pattern)
    return .next

/-- Runs the commands from an index on. -/
def runFrom (cs : Array Command) : Nat → Nat → Step Flow
  | 0, _ => return .done true
  | fuel + 1, index => do
    match cs[index]? with
    | none => return .done true
    | some c =>
      let isChosen := (← applies index c.span) != c.isNegated
      let flow ← match c.action, isChosen with
        | .opening, false => pure (.jump (behindBlock cs cs.size 0 index))
        | _, false => pure .next
        | a, true => act index a
      match flow with
      | .next => runFrom cs fuel (index + 1)
      | .jump place => runFrom cs fuel place
      | .done _ | .again => return flow

/-- How many commands are run for a line before it is given up. -/
def mostCommands : Nat := 10000000

/-- How many rounds there are at most, each for a line or for what is left of one. -/
def mostRounds : Nat := 10000000

/-- Runs the script for line after line. -/
def rounds (cs : Array Command) : Nat → (isNew : Bool) → Step Unit
  | 0, _ => return
  | fuel + 1, isNew => do
    if isNew then
      if !(← readLine false) then return
    match ← runFrom cs mostCommands 0 with
    | .done prints =>
      if prints && !(← get).setting.isQuiet then printPattern
      rounds cs fuel true
    | .again => rounds cs fuel false
    | .next | .jump _ => rounds cs fuel true

/-- Edits files; yields the status. -/
def edit (s : Setting) (paths : List Octets) : Tool Nat := do
  let (halt, m) ← (do rounds s.commands mostRounds true; finishFile : Step Unit).run.run
    (Editor.start s paths)
  let (status, m) ← match halt with
    | .ok () => pure (m.status, m)
    | .error (.failed status) => pure (status, m)
    | .error (.quit status) =>
      let (_, m) ← (finishFile : Step Unit).run.run m
      pure (if m.status ≠ 0 then m.status else status, m)
  Tool.print m.printed.reverse.flatten
  return status

end StyleSnapshot.Shell.Tool.Sed
