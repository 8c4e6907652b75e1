import StyleSnapshot.Shell.Tool.Basic
import StyleSnapshot.Shell.Tool.Regex.Match
import StyleSnapshot.Shell.Tool.Regex.Reader

/-! Searching lines.

What is searched for decides which lines of a file are selected (`LineSearch`). How they are
reported is a `Layout`: lines, with the lines around them and what leads to them, or only
their parts that match; names of files; numbers of lines; or nothing but the status. -/
namespace StyleSnapshot.Shell.Tool

/-! ### Matching lines -/

/-- The expression that stands for a text itself. -/
def Regex.ofText (t : Octets) : Regex := t.foldr (fun c r => .both (.single (.char c)) r) .nothing

/-- The expressions as one. -/
def Regex.oneOf : List Regex → Regex
  | [] => .single (.member false [])
  | [r] => r
  | r :: more => .either r (oneOf more)

/-- What is searched for, and how a match has to lie. -/
structure LineSearch where
  matcher : Matcher
  ignoresCase : Bool
  wholeWord : Bool
  wholeLine : Bool

namespace LineSearch

def subject (s : LineSearch) (line : Octets) : Regex.Subject :=
  { text := line.toArray, ignoresCase := s.ignoresCase }

/-- Where matches end that begin at a place. -/
def endsAt (s : LineSearch) (subject : Regex.Subject) (start : Nat) : Option Nat :=
  let ends := s.matcher.ends subject start
  let ends := if s.wholeWord then
      ends.filter fun i => !subject.isWordBefore start && !subject.isWordAt i
    else ends
  let ends := if s.wholeLine then ends.filter fun i => start = 0 && i = subject.text.size else ends
  match ends with
  | [] => none
  | i :: more => some (more.foldl max i)

/-- The first match at one of so many places from one on. -/
def findWithin? (s : LineSearch) (subject : Regex.Subject) : Nat → (start : Nat) → Option (Nat × Nat)
  | 0, _ => none
  | count + 1, start =>
    match s.endsAt subject start with
    | some i => some (start, i)
    | none => findWithin? s subject count (start + 1)

/-- The first match at a place or behind it. -/
def find? (s : LineSearch) (subject : Regex.Subject) (start : Nat) : Option (Nat × Nat) :=
  s.findWithin? subject (subject.text.size + 1 - start) start

def holds (s : LineSearch) (line : Octets) : Bool := (s.find? (s.subject line) 0).isSome

/-- Where the matches of a line lie that are not empty. -/
def matchesFrom (s : LineSearch) (subject : Regex.Subject) : Nat → Nat → List (Nat × Nat)
  | 0, _ => []
  | fuel + 1, start =>
    match s.find? subject start with
    | none => []
    | some (i, j) =>
      if j = i then matchesFrom s subject fuel (i + 1)
      else (i, j) :: matchesFrom s subject fuel j

end LineSearch

/-- The search that patterns ask for, one to a line. -/
def lineSearch (p : Parsed) (matcher : Char) (patterns : List Octets) : Tool LineSearch := do
  let regexes ← (patterns.flatMap (·.splitOn '\n')).mapM fun t => do
    if matcher = 'F' then return Regex.ofText t
    else
      match Regex.read { isExtended := matcher ≠ 'G' } t with
      | .ok found =>
        for warning in found.warnings do complain ("warning: ".toList ++ warning.toList)
        return found.regex
      | .error e => fail 2 e.toList
  return ⟨(Regex.oneOf regexes).matcher, p.has 'i' || p.has 'y', p.has 'w', p.has 'x'⟩

/-! ### Reporting lines -/

/-- What is said of a file. -/
inductive Reported where
  | lines
  | parts
  | count
  | nameIfFound
  | nameIfNotFound
  | nothing
  deriving DecidableEq

/-- How files are reported. -/
structure Layout where
  reported : Reported
  selectsOthers : Bool
  most : Option Nat
  showsName : Bool
  showsNumber : Bool
  showsOffset : Bool
  showsTab : Bool
  /-- Whether names end in the null character. -/
  endsName : Bool
  /-- How many lines around selected ones are shown; none if no line asks for its surroundings. -/
  around : Option (Nat × Nat)
  /-- What stands between groups of lines. -/
  between : Option Octets
  lineEnd : Char
  isText : Bool
  skipsBinary : Bool
  isSilent : Bool

/-- A line of a file, where it begins, and whether it is selected. -/
structure FileLine where
  text : Octets
  number : Nat
  offset : Nat
  isSelected : Bool

/-- The lines of a text, each with the place where it begins. -/
def placed (parts : List Octets) : List (Octets × Nat) :=
  (parts.foldl (fun (found, offset) t => ((t, offset) :: found, offset + t.length + 1))
    (([], 0) : List (Octets × Nat) × Nat)).1.reverse

/-- The pieces between ends, without the one behind the last end if nothing is there. -/
def pieces (isEnd : Char → Bool) (t : Octets) : List Octets :=
  let parts := t.splitOnP isEnd
  if parts.getLast? = some [] then parts.dropLast else parts

/-- Selects lines, at most so many. -/
def select (s : LineSearch) (l : Layout) (parts : List Octets) : List FileLine :=
  ((placed parts).zipIdx.foldl (fun (found, count) ((t, offset), i) =>
    let isSelected := !l.most.any (· ≤ count) && s.holds t != l.selectsOthers
    (⟨t, i, offset, isSelected⟩ :: found, if isSelected then count + 1 else count))
    (([], 0) : List FileLine × Nat)).1.reverse

/-- What leads to a line or a part of it. -/
def Layout.lead (l : Layout) (name : Octets) (line : FileLine) (offset : Nat) : Octets :=
  let mark : Octets := if line.isSelected then [':'] else ['-']
  let lead := (if l.showsName then name ++ (if l.endsName then ['\x00'] else mark) else []) ++
    (if l.showsNumber then Octets.ofInt (line.number + 1) ++ mark else []) ++
    (if l.showsOffset then Octets.ofInt offset ++ mark else [])
  if l.showsTab && lead ≠ [] && line.text ≠ [] then lead ++ ['\t'] else lead

/-- What is printed of a line. -/
def Layout.shown (l : Layout) (s : LineSearch) (name : Octets) (line : FileLine) : Octets :=
  if l.reported = .parts then
    if l.selectsOthers || !line.isSelected then []
    else
      let subject := s.subject line.text
      (s.matchesFrom subject (line.text.length + 2) 0).flatMap fun (i, j) =>
        l.lead name line (line.offset + i) ++ subject.slice i j ++ [l.lineEnd]
  else l.lead name line line.offset ++ line.text ++ [l.lineEnd]

/-- What is printed of the lines of a file, where something may have been printed before. -/
def Layout.report (l : Layout) (s : LineSearch) (name : Octets) (hasBefore : Bool)
    (lines : List FileLine) : Octets :=
  let (before, behind) := l.around.getD (0, 0)
  let chosen := (lines.filter (·.isSelected)).map (·.number)
  let isShown (line : FileLine) : Bool :=
    line.isSelected ||
      (l.around.isSome && chosen.any fun j => line.number ≤ j + behind && j ≤ line.number + before)
  let step (t : Octets × Bool × Bool) (line : FileLine) : Octets × Bool × Bool :=
    let (printed, wasShown, hasBefore) := t
    if !isShown line then (printed, false, hasBefore)
    else
      let gap := match l.between with
        | some mark => if l.around.isSome && hasBefore && !wasShown then mark ++ ['\n'] else []
        | none => []
      (printed ++ gap ++ l.shown s name line, true, true)
  (lines.foldl step ([], false, hasBefore)).1

/-- What has been found so far. -/
structure Findings where
  hasFound : Bool := false
  hasFailed : Bool := false
  hasPrinted : Bool := false

/-- Reports what a search finds in the content of a file. -/
def Layout.search (l : Layout) (s : LineSearch) (name t : Octets) (f : Findings) :
    Tool Findings := do
  let isBinary := !l.isText && l.lineEnd ≠ '\x00' && '\x00' ∈ t
  if isBinary && l.skipsBinary then return f
  let lines := select s l (pieces (fun c => c = l.lineEnd || (isBinary && c = '\x00')) t)
  let selected := lines.filter (·.isSelected)
  let isFound := selected ≠ []
  let f := { f with hasFound := f.hasFound || isFound }
  let named : Octets := name ++ [if l.endsName then '\x00' else '\n']
  match l.reported with
  | .nothing => if isFound then stop 0
  | .nameIfFound => if isFound then print named
  | .nameIfNotFound => if !isFound then print named
  | .count =>
    print ((if l.showsName then name ++ [if l.endsName then '\x00' else ':'] else []) ++
      Octets.ofInt selected.length ++ ['\n'])
  | .lines | .parts =>
    if isBinary then
      if isFound then complain (name ++ ": binary file matches".toList)
    else
      print (l.report s name f.hasPrinted lines)
      return { f with hasPrinted := f.hasPrinted || isFound }
  return f

/-! ### The program -/

/-- The files below a path, in the order of the tree. -/
def filesBelow : Nat → Octets → Tool (List Octets)
  | 0, path => return [path]
  | fuel + 1, path => do
    let p ← get
    match p.tree.locateFrom p.directory (Octets.toText path) with
    | .ok (place, .directory) =>
      let lead := if path.getLast? = some '/' then path else path ++ ['/']
      let found ← (p.tree.children place).mapM fun l => filesBelow fuel (lead ++ Octets.ofText l.name)
      return found.flatten
    | _ => return [path]

def searchOptions : Options :=
  { letters := "EFGPbcHhiyLlnoqRrsUuvwxzZTaI0123456789", withArgument := "efmABCDd", withoutArgument := "K"
    status := 2
    usage := " [OPTION]... PATTERNS [FILE]..."
    long := [⟨"regexp", 'e', true⟩, ⟨"file", 'f', true⟩,
      ⟨"ignore-case", 'i', false⟩, ⟨"no-ignore-case", '\x00', false⟩,
      ⟨"invert-match", 'v', false⟩, ⟨"word-regexp", 'w', false⟩,
      ⟨"line-regexp", 'x', false⟩, ⟨"count", 'c', false⟩,
      ⟨"color", 'K', true⟩, ⟨"colour", 'K', true⟩,
      ⟨"files-without-match", 'L', false⟩, ⟨"files-with-matches", 'l', false⟩,
      ⟨"max-count", 'm', true⟩, ⟨"only-matching", 'o', false⟩,
      ⟨"quiet", 'q', false⟩, ⟨"silent", 'q', false⟩,
      ⟨"no-messages", 's', false⟩, ⟨"byte-offset", 'b', false⟩,
      ⟨"with-filename", 'H', false⟩, ⟨"no-filename", 'h', false⟩,
      ⟨"label", 'N', true⟩, ⟨"line-number", 'n', false⟩,
      ⟨"initial-tab", 'T', false⟩, ⟨"null", 'Z', false⟩,
      ⟨"after-context", 'A', true⟩, ⟨"before-context", 'B', true⟩,
      ⟨"context", 'C', true⟩, ⟨"group-separator", 'S', true⟩,
      ⟨"no-group-separator", 'W', false⟩, ⟨"text", 'a', false⟩,
      ⟨"recursive", 'r', false⟩, ⟨"dereference-recursive", 'r', false⟩,
      ⟨"line-buffered", '\x00', false⟩, ⟨"binary", 'U', false⟩,
      ⟨"null-data", 'z', false⟩, ⟨"extended-regexp", 'E', false⟩,
      ⟨"fixed-strings", 'F', false⟩, ⟨"basic-regexp", 'G', false⟩,
      ⟨"perl-regexp", 'P', false⟩, ⟨"devices", 'D', true⟩,
      ⟨"directories", 'd', true⟩] }

/-- The number of lines around others that an option asks for. -/
def contextLength (p : Parsed) (letter : Char) : Tool (Option Nat) := do
  match p.last? letter with
  | none => return none
  | some t =>
    match Octets.natural? t with
    | some n => return some n
    | none => fail 2 (t ++ ": invalid context length argument".toList)

/-- How the options want files to be reported. -/
def layoutOf (p : Parsed) (showsName : Bool) : Tool Layout := do
  let digits := (p.options.map (·.1)).filter Char.isDigit
  let context ← contextLength p 'C'
  let all := if digits = [] then context else context.or (Octets.natural? digits)
  let before ← contextLength p 'B'
  let behind ← contextLength p 'A'
  let most ← match p.last? 'm' with
    | none => pure none
    | some ('-' :: t) => if (Octets.natural? t).isSome then pure none else fail 2 "invalid max count".toList
    | some t =>
      match Octets.natural? t with
      | some n => pure (some n)
      | none => fail 2 "invalid max count".toList
  let named := (p.options.filter fun o => o.1 = 'l' || o.1 = 'L').getLast?
  let names := (p.options.filter fun o => o.1 = 'h' || o.1 = 'H').getLast?
  return {
    reported :=
      if p.has 'q' then .nothing
      else match named with
        | some ('l', _) => .nameIfFound
        | some _ => .nameIfNotFound
        | none => if p.has 'c' then .count else if p.has 'o' then .parts else .lines
    selectsOthers := p.has 'v'
    most := most
    showsName := match names with
      | some ('H', _) => true
      | some _ => false
      | none => showsName
    showsNumber := p.has 'n'
    showsOffset := p.has 'b'
    showsTab := p.has 'T'
    endsName := p.has 'Z'
    around := match before.or all, behind.or all with
      | none, none => none
      | before, behind => some (before.getD 0, behind.getD 0)
    between := if p.has 'W' then none else some ((p.last? 'S').getD "--".toList)
    lineEnd := if p.has 'z' then '\x00' else '\n'
    isText := p.has 'a'
    skipsBinary := p.has 'I'
    isSilent := p.has 's' }

/-- What the options and the operands give as patterns, and the operands that are left. -/
def patternsOf (o : Options) (p : Parsed) : Tool (List Octets × List Octets) := do
  if p.has 'e' || p.has 'f' then
    let found ← (p.options.filter fun o => o.1 = 'e' || o.1 = 'f').mapM fun (c, a) => do
      if c = 'e' then return [a]
      else
        match ← content a with
        | .ok t => return Octets.lines t
        | .error reason => fail 2 (a ++ ": ".toList ++ reason)
    return (found.flatten, p.operands)
  else
    match p.operands with
    | pattern :: paths => return ([pattern], paths)
    | [] =>
      tell ("Usage: ".toList ++ (← read) ++ o.usage.toList ++
        "\nTry '".toList ++ (← read) ++ " --help' for more information.\n".toList)
      stop 2

/-- Searches files; `preset` is the letter of the way patterns are written. -/
def grepAs (preset : Option Char) (ws : List Octets) : Tool Nat := do
  let p ← parsed searchOptions ws
  let matchers := (preset.toList ++ (p.options.map (·.1)).filter (· ∈ "EFGP".toList)).eraseDups
  let matcher ← match matchers with
    | [] => pure 'G'
    | [c] => pure c
    | _ => fail 2 "conflicting matchers specified".toList
  let recurses := p.has 'r' || p.has 'R' || p.last? 'd' = some "recurse".toList
  let layout ← layoutOf p false
  let (patterns, paths) ← patternsOf searchOptions p
  let areDirectories ← paths.mapM isDirectory
  let showsName := 1 < paths.length || (recurses && (paths = [] || areDirectories.any id))
  let layout := if p.has 'h' || p.has 'H' then layout else { layout with showsName := showsName }
  let s ←
    if patterns = [] then pure ⟨(Regex.oneOf []).matcher, false, false, false⟩
    else lineSearch p matcher patterns
  if layout.most = some 0 && layout.reported ≠ .nameIfNotFound then return 1
  let inputs ←
    if !recurses then pure (orStandardInput paths)
    else if paths = [] then
      (·.map (·.drop 2)) <$> filesBelow 100 ['.']
    else List.flatten <$> paths.mapM (filesBelow 100)
  let f ← inputs.foldlM (fun (f : Findings) path => do
    if p.last? 'd' = some "skip".toList && (← isDirectory path) then return f
    match ← content path with
    | .error reason =>
      if !layout.isSilent then complain (path ++ ": ".toList ++ reason)
      return { f with hasFailed := true }
    | .ok t =>
      let name := if path = ['-'] then (p.last? 'N').getD "(standard input)".toList else path
      layout.search s name t f) {}
  return if f.hasFailed then 2 else if f.hasFound then 0 else 1

def grep (ws : List Octets) : Tool Nat := grepAs none ws

/-- Searches with patterns of one kind, under the name of the program that takes any. -/
def grepOnly (matcher : Char) (ws : List Octets) : Tool Nat := fun _ => grepAs (some matcher) ws "grep".toList

end StyleSnapshot.Shell.Tool
