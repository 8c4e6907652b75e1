import StyleSnapshot.Shell.Tool.Basic

/-! Programs that pass on lines of files: all of them, some of them, or their number. -/
namespace StyleSnapshot.Shell.Tool

/-! ### Whole files -/

/-- What is shown of a byte that does not print. -/
def visible (hasTabs : Bool) (c : Char) : Octets :=
  let low (n : Nat) : Octets :=
    if n < 32 then ['^', Char.ofNat (n + 64)] else if n = 127 then ['^', '?'] else [Char.ofNat n]
  if c = '\n' || (c = '\t' && !hasTabs) then [c]
  else if c.toNat < 128 then low c.toNat
  else "M-".toList ++ low (c.toNat - 128)

/-- How `cat` shows lines. -/
structure CatStyle where
  numbersAll : Bool := false
  numbersFilled : Bool := false
  squeezes : Bool := false
  showsEnds : Bool := false
  showsTabs : Bool := false
  showsHidden : Bool := false

namespace CatStyle

def isPlain (s : CatStyle) : Bool :=
  !(s.numbersAll || s.numbersFilled || s.squeezes || s.showsEnds || s.showsTabs || s.showsHidden)

def body (s : CatStyle) (line : Octets) : Octets :=
  line.flatMap fun c =>
    if c = '\n' then if s.showsEnds then "$\n".toList else [c]
    else if c = '\t' then if s.showsTabs then "^I".toList else [c]
    else if s.showsHidden then visible false c
    else [c]

/-- A number in front of a line. -/
def numbered (n : Nat) (line : Octets) : Octets :=
  let digits := Octets.ofInt n
  List.replicate (6 - digits.length) ' ' ++ digits ++ '\t' :: line

/-- Where the output stands: the number of the next line, and what the line before it was
like. -/
structure Position where
  number : Nat := 1
  isBehindBlank : Bool := false
  /-- Whether the line before has no end yet. -/
  isInside : Bool := false

/-- A line as it is shown at a position, and the position behind it. -/
def shown (s : CatStyle) (p : Position) (line : Octets) : Position × Octets :=
  let isInside := line.getLast? ≠ some '\n'
  if p.isInside then ({ p with isInside := isInside }, s.body line)
  else
    let isBlank := line = ['\n']
    if s.squeezes && isBlank && p.isBehindBlank then (p, [])
    else
      let isNumbered := if s.numbersFilled then !isBlank else s.numbersAll
      let body := s.body line
      (⟨if isNumbered then p.number + 1 else p.number, isBlank, isInside⟩,
        if isNumbered then numbered p.number body else body)

end CatStyle

def cat (ws : List Octets) : Tool Nat := do
  let p ← parsed
    { letters := "AbeEnstTuv"
      long := [⟨"show-all", 'A', false⟩, ⟨"number-nonblank", 'b', false⟩,
        ⟨"show-ends", 'E', false⟩, ⟨"number", 'n', false⟩, ⟨"squeeze-blank", 's', false⟩,
        ⟨"show-tabs", 'T', false⟩, ⟨"show-nonprinting", 'v', false⟩] } ws
  let has (letters : String) : Bool := letters.toList.any p.has
  let style : CatStyle :=
    { numbersAll := has "n", numbersFilled := has "b", squeezes := has "s",
      showsEnds := has "AeE", showsTabs := has "AtT", showsHidden := has "Aetv" }
  if ((← get).descriptors.lookup 1).isNone then
    fail 1 "standard output: Bad file descriptor".toList
  if style.isPlain then eachFile unreadable p.operands print
  else
    let (_, status) ← throughFiles unreadable p.operands ({} : CatStyle.Position) fun s t => do
      let (s, lines) := (Text.lines t).foldl (fun (s, lines) line =>
        let (s, shown) := style.shown s line
        (s, shown :: lines)) (s, [])
      print lines.reverse.flatten
      return s
    return status

def tee (ws : List Octets) : Tool Nat := do
  let p ← parsed { letters := "ai", long := [⟨"append", 'a', false⟩] } ws
  let t := ((← standardInput).toOption).getD []
  let mut status := 0
  for path in p.operands do
    let before ← if p.has 'a' then content path else pure (.ok [])
    match ← store path (before.toOption.getD [] ++ t) with
    | .ok () => pure ()
    | .error reason =>
      complain (unreadable path reason)
      status := 1
  print t
  return status

/-! ### The beginning and the end -/

/-- How much of a file is meant. -/
structure Extent where
  inBytes : Bool := false
  count : Nat := 10
  /-- Whether it is counted from the other end than usual. -/
  isReverse : Bool := false

/-- The factor that letters behind a number stand for. -/
def factor? (t : Octets) : Option Nat :=
  match String.ofList t with
  | "" => some 1
  | "b" => some 512
  | "k" | "K" => some 1024
  | "kB" => some 1000
  | "m" | "M" => some 0x100000
  | _ => none

/-- The extent that an argument asks for. -/
def extent (inBytes : Bool) (sign : Char) (t : Octets) : Tool Extent := do
  let digits := if t.head? = some '-' || t.head? = some '+' then t.tail else t
  let number := digits.takeWhile Char.isDigit
  match factor? (digits.drop number.length), number with
  | some factor, _ :: _ =>
    let n := (Octets.digits 10 0 number.length number).1
    return ⟨inBytes, n * factor, t.head? = some sign⟩
  | _, _ =>
    let kind := if inBytes then "bytes: " else "lines: "
    fail 1 ("invalid number of ".toList ++ kind.toList ++ quoted t)

/-- The old way to write a number of lines, as the option it stands for. -/
def modernized (sign : Char) (ws : List Octets) : List Octets :=
  match ws with
  | (s :: d :: digits) :: more =>
    if (s = '-' || s = sign) && d.isDigit && digits.all Char.isDigit then
      "-n".toList :: (if s = '-' then d :: digits else s :: d :: digits) :: more
    else ws
  | ws => ws

/-- Prints a part of each file, under its name if that is wanted. -/
def parts (sign : Char) (part : Extent → Octets → Octets) (ws : List Octets) : Tool Nat := do
  let p ← parsed
    { letters := "qvfz", withArgument := "nc"
      long := [⟨"lines", 'n', true⟩, ⟨"bytes", 'c', true⟩, ⟨"quiet", 'q', false⟩,
        ⟨"silent", 'q', false⟩, ⟨"verbose", 'v', false⟩] } (modernized sign ws)
  let e ← match p.options.reverse.find? fun o => o.1 = 'n' || o.1 = 'c' with
    | some (c, a) => extent (c = 'c') sign a
    | none => pure {}
  let paths := orStandardInput p.operands
  let showsName := !p.has 'q' && (p.has 'v' || 1 < paths.length)
  let (_, status) ← paths.foldlM (fun (isFirst, status) path => do
    if ← (if isStandardInput path then pure false else isDirectory path) then
      if showsName then
        print ((if isFirst then [] else ['\n']) ++ "==> ".toList ++ path ++ " <==\n".toList)
      complain ("error reading ".toList ++ Quoted.word path ++ ": Is a directory".toList)
      return (false, 1)
    match ← content path with
    | .error reason =>
      if isStandardInput path then
        complain ("error reading ".toList ++ quoted "standard input".toList ++ ": ".toList ++ reason)
      else
        complain ("cannot open ".toList ++ Quoted.word path ++ " for reading: ".toList ++ reason)
      return (isFirst, 1)
    | .ok t =>
      let name := if path = ['-'] then "standard input".toList else path
      if showsName then
        print ((if isFirst then [] else ['\n']) ++ "==> ".toList ++ name ++ " <==\n".toList)
      let printed := part e t
      print printed
      if isStandardInput path && sign = '-' && !e.isReverse then
        giveBack (t.length - printed.length)
      return (false, status)) (true, 0)
  return status

def head (ws : List Octets) : Tool Nat :=
  parts '-' (fun e t =>
    if e.inBytes then t.take (if e.isReverse then t.length - e.count else e.count)
    else
      let lines := Text.lines t
      (lines.take (if e.isReverse then lines.length - e.count else e.count)).flatten) ws

def tail (ws : List Octets) : Tool Nat :=
  parts '+' (fun e t =>
    if e.inBytes then t.drop (if e.isReverse then e.count - 1 else t.length - e.count)
    else
      let lines := Text.lines t
      (lines.drop (if e.isReverse then e.count - 1 else lines.length - e.count)).flatten) ws

/-! ### Other orders -/

def tac (ws : List Octets) : Tool Nat := do
  let p ← parsed {} ws
  eachFile (fun path reason =>
    "failed to open ".toList ++ Quoted.word path ++ " for reading: ".toList ++ reason) p.operands
    fun t => print (Text.lines t).reverse.flatten

def rev (ws : List Octets) : Tool Nat := do
  let p ← parsed {} ws
  eachFile (fun path reason => "cannot open ".toList ++ path ++ ": ".toList ++ reason) p.operands
    fun t => print ((Text.lines t).flatMap fun line =>
      if line.getLast? = some '\n' then line.dropLast.reverse ++ ['\n'] else line.reverse)

/-! ### Numbers -/

def nl (ws : List Octets) : Tool Nat := do
  let p ← parsed { letters := "p", withArgument := "bdfhilnsvw" } ws
  let numbersAll := p.last? 'b' = some ['a']
  let numbersNone := p.last? 'b' = some ['n']
  let natural (c : Char) (usual : Nat) : Nat := ((p.last? c).bind Octets.natural?).getD usual
  let width := natural 'w' 6
  let separator := (p.last? 's').getD ['\t']
  let place (digits : Octets) : Octets :=
    let blanks := width - digits.length
    match p.last? 'n' with
    | some ['l', 'n'] => digits ++ List.replicate blanks ' '
    | some ['r', 'z'] => List.replicate blanks '0' ++ digits
    | _ => List.replicate blanks ' ' ++ digits
  let (_, status) ← throughFiles unreadable p.operands (natural 'v' 1) fun n t => do
    let (n, shown) := (Octets.lines t).foldl (fun (n, shown) line =>
      if !numbersNone && (numbersAll || line ≠ []) then
        (n + natural 'i' 1, (place (Octets.ofInt n) ++ separator ++ line ++ ['\n']) :: shown)
      else
        (n, (List.replicate (width + separator.length) ' ' ++ line ++ ['\n']) :: shown))
      (n, [])
    print shown.reverse.flatten
    return n
  return status

/-- Whether a byte separates words. -/
def words (t : Octets) : Nat :=
  (t.foldl (fun (n, isInside) c =>
    if Octets.isSpace c then (n, false) else (if isInside then n else n + 1, true))
    (0, false)).1

/-- What is counted in a text. -/
structure Counts where
  lines : Nat := 0
  words : Nat := 0
  characters : Nat := 0
  bytes : Nat := 0
  longest : Nat := 0

namespace Counts

def ofText (t : Octets) : Counts where
  lines := Text.newlines t
  words := Tool.words t
  characters := t.length
  bytes := t.length
  longest := ((Octets.lines t).map (·.length)).foldl max 0

def add (a b : Counts) : Counts :=
  ⟨a.lines + b.lines, a.words + b.words, a.characters + b.characters, a.bytes + b.bytes,
    max a.longest b.longest⟩

/-- The counts that are asked for. -/
def chosen (p : Parsed) (c : Counts) : List Nat :=
  let all := [('l', c.lines), ('w', c.words), ('m', c.characters), ('c', c.bytes),
    ('L', c.longest)]
  let letters := if p.options = [] then ['l', 'w', 'c'] else p.options.map (·.1)
  (all.filter fun entry => entry.1 ∈ letters).map (·.2)

end Counts

def wc (ws : List Octets) : Tool Nat := do
  let p ← parsed
    { letters := "clmwL"
      long := [⟨"bytes", 'c', false⟩, ⟨"chars", 'm', false⟩, ⟨"lines", 'l', false⟩,
        ⟨"words", 'w', false⟩, ⟨"max-line-length", 'L', false⟩] } ws
  let paths := orStandardInput p.operands
  let rows ← paths.mapM fun path => do
    match path with
    | [] => return (path, .error "invalid zero-length file name".toList)
    | path =>
      match ← content path with
      | .ok t => return (path, Except.ok (Counts.ofText t))
      | .error reason => return (path, .error (unreadable path reason))
  let total := rows.foldl (fun sum row => sum.add (row.2.toOption.getD {})) ({} : Counts)
  let isRegular ← paths.mapM fun path => do
    return !isStandardInput path && !(← isDirectory path)
  let least := if isRegular.all id then 0 else 7
  let columns := (total.chosen p).length
  let width :=
    if columns = 1 && paths.length = 1 then 1 else max least (Octets.ofInt total.bytes).length
  let row (c : Counts) (name : Option Octets) : Octets :=
    let numbers := (c.chosen p).map fun (n : Nat) =>
      let digits := Octets.ofInt n
      List.replicate (width - digits.length) ' ' ++ digits
    Text.join [' '] (numbers ++ name.toList) ++ ['\n']
  let mut status := 0
  for (path, r) in rows do
    let name := if p.operands = [] then none else some path
    match r with
    | .ok c => print (row c name)
    | .error reason =>
      complain reason
      status := 1
      if ← isDirectory path then print (row {} name)
  if 1 < paths.length then print (row total (some "total".toList))
  return status

end StyleSnapshot.Shell.Tool
