import StyleSnapshot.Shell.Format.Basic
import StyleSnapshot.Shell.Tool.Basic

/-! Programs that print what they are given. -/
namespace StyleSnapshot.Shell.Tool

/-! ### Words -/

def echo (ws : List Octets) : Tool Nat := do
  let isOption (w : Octets) : Bool :=
    match w with
    | '-' :: letters => letters ≠ [] && letters.all fun c => c = 'n' || c = 'e' || c = 'E'
    | _ => false
  let letters := (ws.takeWhile isOption).flatMap (·.tail)
  let isEscaped := (letters.filter (· ≠ 'n')).getLast? = some 'e'
  print (Format.echo .program isEscaped ('n' ∉ letters) (ws.dropWhile isOption))
  return 0

def printf (ws : List Octets) : Tool Nat := do
  match if ws.head? = some "--".toList then ws.tail else ws with
  | [] => misuse 1 "missing operand".toList
  | format :: arguments =>
    let printed := Format.print .program format arguments
    for entry in printed.entries do
      match entry with
      | .text t => print t
      | .complaint t => complain t
    return printed.status

/-- Prints a line until nobody takes it. -/
def yes (ws : List Octets) : Tool Nat := do
  let p ← parsed {} ws
  let line := (if p.operands = [] then ['y'] else Text.join [' '] p.operands) ++ ['\n']
  let lines := Stream.pipeBound / line.length + 2
  print (List.replicate lines line).flatten
  print line
  return 1

/-- A program that only has a status. -/
def constant (status : Nat) (_ : List Octets) : Tool Nat := return status

/-! ### Numbers -/

/-- A decimal number: its value in units of its last place, and the number of places. -/
structure Numeral where
  units : Int
  places : Nat

/-- The numeral that a text writes, perhaps with an exponent. -/
def Numeral.read? (t : Octets) : Option Numeral :=
  let (isNegative, digits) := match t with
    | '-' :: rest => (true, rest)
    | '+' :: rest => (false, rest)
    | rest => (false, rest)
  let whole := digits.takeWhile Char.isDigit
  let behind := digits.drop whole.length
  let (part, rest) := match behind with
    | '.' :: more => (more.takeWhile Char.isDigit, more.dropWhile Char.isDigit)
    | more => ([], more)
  let exponent? : Option Int := match rest with
    | [] => some 0
    | e :: more =>
      if e = 'e' || e = 'E' then
        match more with
        | '-' :: digits => (Octets.natural? digits).map fun n => -n
        | '+' :: digits => (Octets.natural? digits).map Int.ofNat
        | digits => (Octets.natural? digits).map Int.ofNat
      else none
  if whole = [] && part = [] then none
  else
    exponent?.map fun exponent =>
      let n : Int := (Octets.digits 10 0 t.length (whole ++ part)).1
      let n := if isNegative then -n else n
      let places : Int := part.length - exponent
      ⟨n * (Nat.pow 10 (-places).toNat : Nat), places.toNat⟩

/-- The value in units of a finer place. -/
def Numeral.unitsAt (places : Nat) (n : Numeral) : Int :=
  n.units * (Nat.pow 10 (places - n.places) : Nat)

/-- A value in units of a place as it is written. -/
def numeral (places : Nat) (units : Int) : Octets :=
  let digits := units.natAbs
  let t := if places = 0 then Octets.ofInt digits else Decimal.point places digits
  if units < 0 then '-' :: t else t

/-- Fills the digits of a number with zeros. -/
def zeroed (width : Nat) (t : Octets) : Octets :=
  match t with
  | '-' :: digits => '-' :: List.replicate (width - t.length) '0' ++ digits
  | digits => List.replicate (width - t.length) '0' ++ digits

def progression (first step last : Int) : Nat → List Int
  | 0 => []
  | fuel + 1 =>
    if (0 < step && last < first) || (step < 0 && first < last) then []
    else first :: progression (first + step) step last fuel

/-- Whether a word is a negative number and no option. -/
def isNegativeNumeral (w : Octets) : Bool :=
  w.head? = some '-' && (w.tail.head?.any fun c => c.isDigit || c = '.')

/-- What is behind the percent signs of a format that do not stand for themselves. -/
def directives : Octets → List Octets
  | [] => []
  | '%' :: '%' :: rest => directives rest
  | '%' :: rest => rest :: directives rest
  | _ :: rest => directives rest

/-- Why a format does not show exactly one number. -/
def formatFault? (t : Octets) : Option Octets :=
  match directives t with
  | [] => some "has no % directive".toList
  | d :: more =>
    let d := (d.dropWhile (· ∈ "-+#0 '".toList)).dropWhile Char.isDigit
    let d := if d.head? = some '.' then d.tail.dropWhile Char.isDigit else d
    match if d.head? = some 'L' then d.tail else d with
    | [] => some "ends in %".toList
    | c :: _ =>
      if c ∉ "efgaEFGA".toList then some ("has unknown %".toList ++ c :: " directive".toList)
      else if more ≠ [] then some "has too many % directives".toList
      else none

def seq (ws : List Octets) : Tool Nat := do
  let behind := ws.dropWhile fun w => !isNegativeNumeral w
  let before := ws.takeWhile fun w => !isNegativeNumeral w
  let p ← parsed
    { letters := "w", withArgument := "sf", stopsAtOperand := true
      long := [⟨"equal-width", 'w', false⟩, ⟨"separator", 's', true⟩, ⟨"format", 'f', true⟩] }
    before
  let operands := p.operands ++ behind
  let numbers ← operands.mapM fun w => do
    match Numeral.read? w with
    | some n => return n
    | none => misuse 1 ("invalid floating point argument: ".toList ++ quoted w)
  let (first, step, last) ← match numbers with
    | [] => misuse 1 "missing operand".toList
    | [last] => pure (Numeral.mk 1 0, Numeral.mk 1 0, last)
    | [first, last] => pure (first, Numeral.mk 1 0, last)
    | [first, step, last] => pure (first, step, last)
    | _ => misuse 1 ("extra operand ".toList ++ quoted (operands.getD 3 []))
  match p.last? 'f' with
  | some format =>
    match formatFault? format with
    | some fault => fail 1 ("format ".toList ++ quoted format ++ ' ' :: fault)
    | none =>
      if p.has 'w' then
        misuse 1 "format string may not be specified when printing equal width strings".toList
  | none => pure ()
  if step.units = 0 then
    misuse 1 ("invalid Zero increment value: ".toList ++ quoted (operands.getD 1 []))
  let places := max first.places step.places
  let finest := max places last.places
  let units := progression (first.unitsAt finest) (step.unitsAt finest) (last.unitsAt finest)
    10000000
  let scale : Nat := Nat.pow 10 (finest - places)
  let plain := units.map fun n => numeral places (n / scale)
  let shown ← match p.last? 'f' with
    | none =>
      let ends := [numeral places (first.unitsAt places), numeral places (last.unitsAt finest / scale)]
      let width := (ends.map (·.length)).foldl max 0
      pure (if p.has 'w' then plain.map (zeroed width) else plain)
    | some format => pure (plain.map fun t => (Format.print .program format [t]).output)
  let separator := (p.last? 's').getD ['\n']
  if shown ≠ [] then print (Text.join separator shown ++ ['\n'])
  return 0

/-! ### Paths -/

/-- The path without slashes at its end, which the root keeps. -/
def trimmed (path : Octets) : Octets :=
  let t := Text.dropEndWhile (· = '/') path
  if t = [] && path ≠ [] then ['/'] else t

/-- The last component of a path. -/
def lastComponent (path : Octets) : Octets :=
  let t := trimmed path
  if t = ['/'] then t else (t.reverse.takeWhile (· ≠ '/')).reverse

def basename (ws : List Octets) : Tool Nat := do
  let p ← parsed
    { letters := "az", withArgument := "s", stopsAtOperand := true
      long := [⟨"multiple", 'a', false⟩, ⟨"suffix", 's', true⟩] } ws
  let isMany := p.has 'a' || p.has 's'
  let without (suffix name : Octets) : Octets :=
    if suffix ≠ [] && name ≠ suffix && Text.endsWith suffix name then
      name.take (name.length - suffix.length)
    else name
  match p.operands with
  | [] => misuse 1 "missing operand".toList
  | path :: more =>
    if isMany then
      print (Octets.unlines (p.operands.map fun path =>
        without ((p.last? 's').getD []) (lastComponent path)))
    else
      match more with
      | _ :: extra :: _ => misuse 1 ("extra operand ".toList ++ quoted extra)
      | _ => print (without (more.headD []) (lastComponent path) ++ ['\n'])
    return 0

/-- A path without its last component. -/
def directoryOf (path : Octets) : Octets :=
  let t := trimmed path
  if t = ['/'] then t
  else if '/' ∈ t then
    trimmed (t.take (t.length - (lastComponent t).length))
  else ['.']

def dirname (ws : List Octets) : Tool Nat := do
  let p ← parsed { letters := "z" } ws
  if p.operands = [] then misuse 1 "missing operand".toList
  print (Octets.unlines (p.operands.map directoryOf))
  return 0

/-! ### Surroundings -/

def pathOf (place : Location) : Octets :=
  if place = [] then ['/'] else place.flatMap fun name => '/' :: Octets.ofText name

def pwd (ws : List Octets) : Tool Nat := do
  let p ← parsed { letters := "LP" } ws
  if p.operands ≠ [] then complain "ignoring non-option arguments".toList
  print (pathOf (← get).directory ++ ['\n'])
  return 0

def sleep (ws : List Octets) : Tool Nat := do
  let p ← parsed {} ws
  if p.operands = [] then misuse 1 "missing operand".toList
  let isInterval (w : Octets) : Bool :=
    let body := if w.getLast?.any (· ∈ "smhd".toList) then w.dropLast else w
    w = "infinity".toList || (body.head? ≠ some '-' && (Numeral.read? body).isSome)
  for w in p.operands do
    if !isInterval w then misuse 1 ("invalid time interval ".toList ++ quoted w)
  return 0

def printenv (ws : List Octets) : Tool Nat := do
  let p ← parsed {} ws
  let environment := (← get).environment
  if p.operands = [] then
    print (Octets.unlines (environment.map fun e => e.1 ++ '=' :: e.2))
    return 0
  else
    let found := p.operands.map fun name => environment.lookup name
    print (Octets.unlines (found.filterMap id))
    return if found.all (·.isSome) then 0 else 1

end StyleSnapshot.Shell.Tool
