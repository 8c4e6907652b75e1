import StyleSnapshot.Shell.Tool.Regex.Reader
import StyleSnapshot.Shell.Tool.Sed.Script

/-! Reading editing scripts.

A script is given in parts, which are read one after the other: a block that one part opens
another may close, and a command that adds text takes it from the next part if its own ends
right behind the backslash. A fault is told with the part and how far it had been read. -/
namespace StyleSnapshot.Shell.Tool.Sed

/-- Where a part of a script comes from. -/
inductive Origin where
  /-- The expression of a number among the arguments. -/
  | argument (n : Nat)
  | file (name : Octets)

/-- What is left of a part. -/
structure Cursor where
  rest : Octets
  isExtended : Bool

/-- A step of a reader, which stays where a fault is found. -/
abbrev Reader := ExceptT String (StateM Cursor)

def take : Reader (Option Char) := do
  let k ← get
  match k.rest with
  | [] => return none
  | c :: rest =>
    set { k with rest := rest }
    return some c

/-- Goes back before a character that was taken. -/
def putBack (c : Option Char) : Reader Unit :=
  modify fun k => { k with rest := c.toList ++ k.rest }

def skip (p : Char → Bool) : Reader Unit :=
  modify fun k => { k with rest := k.rest.dropWhile p }

def isBlank (c : Char) : Bool := c = ' ' || c = '\t'

def takeNonblank : Reader (Option Char) := do
  skip isBlank
  take

/-- The number that stands here; zero without digits. -/
def number : Reader Nat := do
  let k ← get
  let digits := k.rest.takeWhile Char.isDigit
  set { k with rest := k.rest.drop digits.length }
  return (Octets.natural? digits).getD 0

/-! ### Texts in a script -/

/-- The character that stands for an escape, given what is behind its backslash, and what is
left then. -/
def escape? : Octets → Option (Char × Octets)
  | [] => none
  | c :: rest =>
    let coded (base most : Nat) : Char × Octets :=
      let (n, behind) := Octets.digits base 0 most rest
      if behind.length = rest.length then (c, rest) else (Char.ofNat (n % 256), behind)
    match c, rest with
    | 'a', _ => some ('\x07', rest)
    | 'f', _ => some ('\x0c', rest)
    | 'n', _ => some ('\n', rest)
    | 'r', _ => some ('\r', rest)
    | 't', _ => some ('\t', rest)
    | 'v', _ => some ('\x0b', rest)
    | 'd', _ => some (coded 10 3)
    | 'o', _ => some (coded 8 3)
    | 'x', _ => some (coded 16 2)
    | 'c', d :: behind => some (Char.ofNat ((Octets.toUpper d).toNat ^^^ 64), behind)
    | _, _ => none

/-- A text with its escapes replaced; `other` says what becomes of a backslash that begins
none. -/
def unescaped (other : Char → Octets) : Nat → Octets → Octets
  | 0, t => t
  | _, [] => []
  | _, ['\\'] => ['\\']
  | fuel + 1, '\\' :: c :: rest =>
    match escape? (c :: rest) with
    | some (d, behind) => d :: unescaped other fuel behind
    | none => other c ++ unescaped other fuel rest
  | fuel + 1, c :: rest => c :: unescaped other fuel rest

/-- How far a class between brackets has been read: a bracket that may open a name, the sign
of a name, and that sign once more. -/
inductive ClassState where
  | plain
  | opened
  | named (sign : Char)
  | closing (sign : Char)
  deriving DecidableEq

namespace ClassState

/-- The state behind a character that means nothing in it. -/
def passed : ClassState → ClassState
  | .plain | .opened => .plain
  | .named sign | .closing sign => .named sign

def next (s : ClassState) (c : Char) : ClassState :=
  match s with
  | .opened => if c ∈ ".:=".toList then .named c else if c = '[' then .opened else s.passed
  | .named sign => if c = sign then .closing sign else s
  | .closing sign => if c = ']' then .plain else if c = '[' then s else .named sign
  | .plain => if c = '[' then .opened else s

end ClassState

/-- The number of characters of a class up to its closing bracket; none if its line ends
before. -/
def classLength? : ClassState → Octets → Option Nat
  | _, [] => none
  | s, c :: rest =>
    if c = '\n' then none
    else if c = ']' && (s = .plain || s = .opened) then some 1
    else (classLength? (s.next c) rest).map (· + 1)

/-- The number of characters of a class behind its opening bracket. -/
def bracketLength? (t : Octets) : Option Nat :=
  let lead := if t.head? = some '^' then 1 else 0
  let lead := if (t.drop lead).head? = some ']' then lead + 1 else lead
  (classLength? .plain (t.drop lead)).map (· + lead)

/-- The text up to a delimiter on the same line, if there is one. A backslash takes the
delimiter's meaning away, and so does a class in a pattern. -/
def delimited (delimiter : Char) (isPattern : Bool) : Nat → Reader (Option Octets)
  | 0 => return none
  | fuel + 1 => do
    let more (t : Octets) : Reader (Option Octets) :=
      return (← delimited delimiter isPattern fuel).map (t ++ ·)
    match ← take with
    | none => return none
    | some c =>
      if c = delimiter then return some []
      else if c = '\n' then
        putBack c
        return none
      else if c = '\\' then
        match ← take with
        | none => return none
        | some d =>
          if d = 'n' && isPattern then more ['\n']
          else if d = '\n' || (d = delimiter && (isPattern || d ≠ '&')) then more [d]
          else more ['\\', d]
      else if c = '[' && isPattern then
        let k ← get
        match bracketLength? k.rest with
        | some n =>
          set { k with rest := k.rest.drop n }
          more (c :: k.rest.take n)
        | none =>
          skip (· ≠ '\n')
          return none
      else more [c]

def untilDelimiter (delimiter : Option Char) (isPattern : Bool) (missing : String) :
    Reader Octets := do
  match delimiter with
  | none => throw missing
  | some c =>
    if c = '\n' then
      skip (· ≠ '\n')
      throw missing
    match ← delimited c isPattern ((← get).rest.length + 1) with
    | some t => return t
    | none => throw missing

/-- The search that a text writes, and the number of its groups. -/
def searchOf (t : Octets) (ignoresCase hasLines : Bool) : Reader (Search × Nat) := do
  if t = [] then
    if ignoresCase || hasLines then throw "cannot specify modifiers on empty regexp"
    return (⟨none, ignoresCase, hasLines⟩, 9)
  else
    let pattern := unescaped (fun c => ['\\', c]) t.length t
    match Regex.read { isExtended := (← get).isExtended, isStrict := true } pattern with
    | .ok found => return (⟨some found.regex.matcher, ignoresCase, hasLines⟩, found.groups)
    | .error e => throw e

/-! ### Addresses -/

/-- The flags behind a search in an address. -/
def searchFlags : Nat → Bool × Bool → Reader (Bool × Bool)
  | 0, flags => return flags
  | fuel + 1, (ignoresCase, hasLines) => do
    match ← takeNonblank with
    | some 'I' => searchFlags fuel (true, hasLines)
    | some 'M' => searchFlags fuel (ignoresCase, true)
    | c =>
      putBack c
      return (ignoresCase, hasLines)

/-- What an address can be: one of a line, or one that only ends a range. -/
abbrev AddressRead := Except RangeEnd Address

/-- The address that begins with a character, if it begins one. -/
def address? (c : Option Char) : Reader (Option AddressRead) := do
  match c with
  | some '$' => return some (.ok .last)
  | some '+' => do
    skip isBlank
    return some (.error (.count (← number)))
  | some '~' => do
    skip isBlank
    return some (.error (.multiple (← number)))
  | some c =>
    if c = '/' || c = '\\' then
      let delimiter ← if c = '/' then pure (some c) else take
      let t ← untilDelimiter delimiter true "unterminated address regex"
      let (ignoresCase, hasLines) ← searchFlags ((← get).rest.length + 1) (false, false)
      return some (.ok (.search (← searchOf t ignoresCase hasLines).1))
    else if c.isDigit then
      putBack c
      let n ← number
      match ← takeNonblank with
      | some '~' =>
        skip isBlank
        let step ← number
        return some (.ok (if step = 0 then .line n else .every n step))
      | c =>
        putBack c
        return some (.ok (.line n))
    else return none
  | none => return none

/-- The lines that a command applies to, and the character behind them. -/
def span (c : Option Char) : Reader (Span × Option Char) := do
  match ← address? c with
  | none => return (.all, c)
  | some (.error _) => throw "invalid usage of +N or ~N as first address"
  | some (.ok a) =>
    let c ← takeNonblank
    if c = some ',' then
      let e ← match ← address? (← takeNonblank) with
        | some (.ok b) => pure (RangeEnd.address b)
        | some (.error e) => pure e
        | none => throw "unexpected \x60,'"
      let c ← takeNonblank
      match a, e with
      | .line 0, .address (.search _) => return (.range none e, c)
      | .line 0, _ => throw "invalid usage of line address 0"
      | a, e => return (.range (some a) e, c)
    else
      match a with
      | .line 0 => throw "invalid usage of line address 0"
      | a => return (.at a, c)

/-! ### Texts of commands -/

/-- The parts of a replacement. -/
def replacement : Nat → Octets → List Replacement
  | 0, _ | _, [] => []
  | fuel + 1, '\\' :: c :: rest =>
    let case (change : CaseChange) : List Replacement := .case change :: replacement fuel rest
    if c.isDigit then .group (c.toNat - 48) :: replacement fuel rest
    else if c = 'U' then case .upper
    else if c = 'L' then case .lower
    else if c = 'u' then case .upperNext
    else if c = 'l' then case .lowerNext
    else if c = 'E' then case .off
    else
      match escape? (c :: rest) with
      | some (d, behind) => .text [d] :: replacement fuel behind
      | none => .text [c] :: replacement fuel rest
  | fuel + 1, '&' :: rest => .group 0 :: replacement fuel rest
  | fuel + 1, c :: rest => .text [c] :: replacement fuel rest

/-- The text up to the end of its line, where a backslash goes on with the next line. -/
def lineText : Nat → Reader Octets
  | 0 => return []
  | fuel + 1 => do
    match ← take with
    | none | some '\n' => return ['\n']
    | some '\\' =>
      match ← take with
      | none => return ['\n']
      | some c => return '\\' :: c :: (← lineText fuel)
    | some c => return c :: (← lineText fuel)

/-- The lines of text that stand here. -/
def text : Reader Octets := do
  let t ← lineText ((← get).rest.length + 1)
  return unescaped (fun c => [c]) t.length t

/-- The text of a command that adds lines. None is known yet if the part ends behind the
backslash. -/
def addedText : Reader (Option Octets) := do
  match ← takeNonblank with
  | none => throw "expected \\ after \x60a', \x60c' or \x60i'"
  | some '\\' =>
    match ← take with
    | none => return none
    | some '\n' => some <$> text
    | c =>
      putBack c
      some <$> text
  | some '\n' => return some ['\n']
  | c =>
    putBack c
    some <$> text

/-- The label that stands here. -/
def label : Reader Octets := do
  skip isBlank
  let k ← get
  let t := k.rest.takeWhile fun c => !Octets.isSpace c && c ≠ ';' && c ≠ '\x7d'
  set { k with rest := k.rest.drop t.length }
  return t

/-- The name of a file, up to the end of the line. -/
def fileName : Reader Octets := do
  skip isBlank
  let k ← get
  let t := k.rest.takeWhile (· ≠ '\n')
  set { k with rest := k.rest.drop (t.length + 1) }
  if t = [] then throw "missing filename in r/R/w/W commands"
  return t

def destination : Reader Destination := do
  let path ← fileName
  if path = "/dev/stdout".toList then return .standard 1
  else if path = "/dev/stderr".toList then return .standard 2
  else return .file path

/-! ### Commands -/

/-- The flags of a substitution. -/
def substitutionFlags : Nat → Substitution → Reader Substitution
  | 0, s => return s
  | fuel + 1, s => do
    match ← take with
    | none | some '\n' | some ';' => return s
    | some '\x7d' =>
      putBack '\x7d'
      return s
    | some '#' =>
      putBack '#'
      return s
    | some c =>
      if isBlank c then substitutionFlags fuel s
      else if c = 'g' then
        if s.isGlobal then throw "multiple \x60g' options to \x60s' command"
        substitutionFlags fuel { s with isGlobal := true }
      else if c = 'p' then
        if s.prints then throw "multiple \x60p' options to \x60s' command"
        substitutionFlags fuel { s with prints := true }
      else if c = 'i' || c = 'I' then
        substitutionFlags fuel { s with search := { s.search with ignoresCase := true } }
      else if c = 'm' || c = 'M' then
        substitutionFlags fuel { s with search := { s.search with hasLines := true } }
      else if c = 'w' then return { s with copy := some (← destination) }
      else if c.isDigit then
        if s.number.isSome then throw "multiple number options to \x60s' command"
        putBack c
        let n ← number
        if n = 0 then throw "number option to \x60s' command may not be zero"
        substitutionFlags fuel { s with number := some n }
      else throw "unknown option to \x60s'"

/-- The highest group that a replacement refers to. -/
def highestGroup (rs : List Replacement) : Nat :=
  (rs.map fun r => match r with
    | .group n => n
    | _ => 0).foldl max 0

def substitution : Reader Action := do
  let missing : String := "unterminated \x60s' command"
  let delimiter ← take
  let pattern ← untilDelimiter delimiter true missing
  let t ← untilDelimiter delimiter false missing
  let rs := replacement t.length t
  let s ← substitutionFlags ((← get).rest.length + 1)
    { search := ⟨none, false, false⟩, replacement := rs }
  let (search, groups) ← searchOf pattern s.search.ignoresCase s.search.hasLines
  if groups < highestGroup rs then
    throw ("invalid reference \\" ++ toString (highestGroup rs) ++ " on \x60s' command's RHS")
  return .substitute { s with search := search }

def transliteration : Reader Action := do
  let missing : String := "unterminated \x60y' command"
  let delimiter ← take
  let row (t : Octets) : Octets := unescaped (fun c => [c]) t.length t
  let source := row (← untilDelimiter delimiter false missing)
  let target := row (← untilDelimiter delimiter false missing)
  if source.length ≠ target.length then
    throw "strings for \x60y' command are different lengths"
  return .transliterate (source.zip target)

/-- Passes what ends a command. -/
def commandEnd : Reader Unit := do
  match ← takeNonblank with
  | none | some '\n' | some ';' => return
  | some c =>
    if c = '\x7d' || c = '#' then putBack c else throw "extra characters after command"

/-- An action without arguments. -/
def simple (a : Action) : Reader Action := do
  commandEnd
  return a

/-- The number behind a command letter, if there is one. -/
def argument? : Reader (Option Nat) := do
  match ← takeNonblank with
  | some c =>
    putBack c
    if c.isDigit then some <$> number else return none
  | none => return none

/-- What a command letter stands for. -/
def action (c : Char) : Reader Action := do
  if c = '\x7b' then return .opening
  else if c = '\x7d' then simple .closing
  else if c = 's' then substitution
  else if c = 'y' then simple (← transliteration)
  else if c = 'd' then simple .delete
  else if c = 'D' then simple .deleteFirst
  else if c = 'p' then simple .print
  else if c = 'P' then simple .printFirst
  else if c = 'n' then simple .next
  else if c = 'N' then simple .appendNext
  else if c = 'g' then simple .get
  else if c = 'G' then simple .getAppend
  else if c = 'h' then simple .hold
  else if c = 'H' then simple .holdAppend
  else if c = 'x' then simple .exchange
  else if c = 'z' then simple .clear
  else if c = '=' then simple .number
  else if c = 'F' then simple .name
  else if c = 'l' then simple (.list (← argument?))
  else if c = 'q' || c = 'Q' then simple (.quit (c = 'Q') ((← argument?).getD 0))
  else if c = ':' then
    let t ← label
    if t = [] then throw "\":\" lacks a label"
    return .label t
  else if c = 'b' then return .branch (← label)
  else if c = 't' || c = 'T' then return .branchIf (c = 't') (← label)
  else if c = 'r' then return .readFile (← fileName)
  else if c = 'R' then return .readLine (← fileName)
  else if c = 'w' || c = 'W' then return .write (c = 'W') (← destination)
  else throw ("unknown command: \x60" ++ String.ofList [c] ++ "'")

/-- A command that adds lines, as its letter and its text have it. -/
def adding (c : Char) (t : Octets) : Action :=
  if c = 'a' then .append t else if c = 'i' then .insert t else .change t

/-- What has been read of a script: its commands, the last first; where the blocks that are
open begin; and the letter of a last command whose text is still to come. -/
structure Draft where
  commands : List Command := []
  blocks : List Origin := []
  pending : Option Char := none

/-- Reads one command from its first character on. -/
def command (origin : Origin) (c : Char) (d : Draft) : Reader Draft := do
  let (span, c) ← span (some c)
  let isNegated := c = some '!'
  let c ← if isNegated then takeNonblank else pure c
  if isNegated && c = some '!' then throw "multiple \x60!'s"
  let hasSpan := match span with
    | .all => false
    | _ => true
  match c with
  | none => throw "missing command"
  | some '#' =>
    if hasSpan then throw "comments don't accept any addresses"
    skip (· ≠ '\n')
    return d
  | some c =>
    if c = '\x7d' && d.blocks.isEmpty then throw "unexpected \x60\x7d'"
    if c = '\x7d' && hasSpan then throw "\x60\x7d' doesn't want any addresses"
    if c = ':' && hasSpan then throw ": doesn't want any addresses"
    let isRange := match span with
      | .range _ _ => true
      | _ => false
    if (c = 'q' || c = 'Q') && isRange then throw "command only uses one address"
    let add (a : Action) (pending : Option Char) (blocks : List Origin) : Draft :=
      ⟨⟨span, isNegated, a⟩ :: d.commands, blocks, pending⟩
    if c = 'a' || c = 'i' || c = 'c' then
      match ← addedText with
      | some t => return add (adding c t) none d.blocks
      | none => return add (adding c []) (some c) d.blocks
    else
      let a ← action c
      return add a none
        (if c = '\x7b' then origin :: d.blocks else if c = '\x7d' then d.blocks.tail else d.blocks)

/-- Reads the commands of a part. -/
def commands (origin : Origin) : Nat → Draft → Reader Draft
  | 0, d => return d
  | fuel + 1, d => do
    skip fun c => c = ';' || Octets.isSpace c
    match ← take with
    | none => return d
    | some c => commands origin fuel (← command origin c d)

/-- Reads a part, whose first lines may be the text of the last command. -/
def part (origin : Origin) (d : Draft) : Reader Draft := do
  match d.pending, d.commands with
  | some c, unfinished :: before =>
    let t ← text
    commands origin ((← get).rest.length + 1)
      { d with commands := { unfinished with action := adding c t } :: before, pending := none }
  | _, _ => commands origin ((← get).rest.length + 1) d

/-! ### Scripts -/

/-- What is wrong with a script, and where. -/
structure Fault where
  origin : Origin
  /-- The characters and the lines that were read before the fault. -/
  characters : Nat
  lines : Nat
  reason : String

def Fault.message (f : Fault) : Octets :=
  let place : Octets := match f.origin with
    | .argument n =>
      "-e expression #".toList ++ Octets.ofInt n ++ ", char ".toList ++ Octets.ofInt f.characters
    | .file name => "file ".toList ++ name ++ " line ".toList ++ Octets.ofInt (f.lines + 1)
  place ++ ": ".toList ++ f.reason.toList

/-- Reads the parts of a script in order. -/
def readParts (isExtended : Bool) : List (Origin × Octets) → Draft → Except Fault Draft
  | [], d => .ok d
  | (origin, t) :: more, d =>
    match (part origin d).run.run { rest := t, isExtended := isExtended } with
    | (.error e, k) =>
      let passed := t.take (t.length - k.rest.length)
      .error ⟨origin, passed.length, passed.count '\n', e⟩
    | (.ok d, _) => readParts isExtended more d

/-- The script that its parts write. -/
def read (isExtended : Bool) (parts : List (Origin × Octets)) : Except Fault (Array Command) := do
  let d ← readParts isExtended parts {}
  match d.blocks with
  | origin :: _ => .error ⟨origin, 0, 0, "unmatched \x60\x7b'"⟩
  | [] => .ok d.commands.reverse.toArray

end StyleSnapshot.Shell.Tool.Sed
