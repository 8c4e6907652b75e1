import StyleSnapshot.Shell.Format.Real
import StyleSnapshot.Shell.Quoted

/-! Printing by a format.

A format is copied to the output, except that escapes stand for characters and directives
for arguments. It is used again as long as arguments are left. The command of a script and
the program of the same name differ in some escapes, in their messages, and in what they
take for a directive. -/
namespace StyleSnapshot.Shell.Format

inductive Dialect where
  | script
  | program
  deriving DecidableEq, Repr

def Dialect.precision : Dialect → Precision
  | .script => .double
  | .program => .extended

/-! ### Layout -/

/-- How a value is laid out. -/
structure Layout where
  isLeft : Bool := false
  isZeroed : Bool := false
  hasPlus : Bool := false
  hasBlank : Bool := false
  isMarked : Bool := false
  width : Nat := 0
  precision : Option Nat := none

namespace Layout

/-- Fills a text up to the width. -/
def pad (l : Layout) (t : Octets) : Octets :=
  let blanks := List.replicate (l.width - t.length) ' '
  if l.isLeft then t ++ blanks else blanks ++ t

/-- Fills a number up to the width, where zeros go between the lead and the digits. -/
def number (l : Layout) (mayBeZeroed : Bool) (lead digits : Octets) : Octets :=
  if l.isZeroed && !l.isLeft && mayBeZeroed then
    lead ++ List.replicate (l.width - lead.length - digits.length) '0' ++ digits
  else l.pad (lead ++ digits)

def sign (l : Layout) (isNegative : Bool) : Octets :=
  if isNegative then ['-'] else if l.hasPlus then ['+'] else if l.hasBlank then [' '] else []

/-- The digits of a whole number, at least as many as the precision asks for. -/
def digits (l : Layout) (base n : Nat) : Octets :=
  let t := if n = 0 && l.precision = some 0 then [] else Octets.inBase base n
  List.replicate (l.precision.getD 0 - t.length) '0' ++ t

def text (l : Layout) (t : Octets) : Octets :=
  l.pad (match l.precision with
    | some n => t.take n
    | none => t)

def signed (l : Layout) (n : Int) : Octets :=
  l.number l.precision.isNone (l.sign (n < 0)) (l.digits 10 n.natAbs)

def unsigned (l : Layout) (conversion : Char) (n : Nat) : Octets :=
  let isPlain := l.precision.isNone
  if conversion = 'o' then
    let t := l.digits 8 n
    l.number isPlain [] (if l.isMarked && t.head? ≠ some '0' then '0' :: t else t)
  else if conversion = 'x' then
    l.number isPlain (if l.isMarked && n ≠ 0 then "0x".toList else []) (l.digits 16 n)
  else if conversion = 'X' then
    l.number isPlain (if l.isMarked && n ≠ 0 then "0X".toList else [])
      ((l.digits 16 n).map Octets.toUpper)
  else l.number isPlain [] (l.digits 10 n)

def real (l : Layout) (conversion : Char) (isNegative : Bool) (x : Real) : Octets :=
  let kind := Octets.toLower conversion
  let places := l.precision.getD 6
  let (isPlain, t) : Bool × Octets := match x with
    | .infinite => (false, "inf".toList)
    | .undefined => (false, "nan".toList)
    | .finite num den =>
      (true,
        if kind = 'e' then Real.scientific places l.isMarked num den
        else if kind = 'g' then Real.general places l.isMarked num den
        else Real.fixed places l.isMarked num den)
  l.number isPlain (l.sign isNegative) (if kind = conversion then t else t.map Octets.toUpper)

end Layout

/-! ### Escapes -/

/-- The character that a letter stands for behind a backslash. -/
def letter? (d : Dialect) (c : Char) : Option Char :=
  if c = 'a' then some '\x07'
  else if c = 'b' then some '\x08'
  else if c = 'f' then some '\x0c'
  else if c = 'n' then some '\n'
  else if c = 'r' then some '\r'
  else if c = 't' then some '\t'
  else if c = 'v' then some '\x0b'
  else if c = '\\' then some '\\'
  else if c = 'e' then some '\x1b'
  else if c = '"' && d = .program then some '"'
  else none

/-- What an escape stands for; no text if it ends all output. -/
structure Escape where
  text : Option Octets
  rest : Octets

/-- The byte that at most so many digits of a base write. -/
def code (base most : Nat) (t : Octets) : Escape :=
  let (n, rest) := Octets.digits base 0 most t
  ⟨some [Char.ofNat (n % 256)], rest⟩

def isOctal (c : Char) : Bool := '0' ≤ c && c ≤ '7'

/-- The escape behind a backslash. In an argument a zero may go in front of the digits of a
code, and the command of a script knows the end of all output only there. -/
def escape (d : Dialect) (isArgument : Bool) (t : Octets) : Escape :=
  let isEnding (c : Char) : Bool := c = 'c' && (isArgument || d = .program)
  match t with
  | [] => ⟨some ['\\'], []⟩
  | 'x' :: h :: rest =>
    if d = .program && ((Octets.digitValue? h).filter (· < 16)).isSome then code 16 2 (h :: rest)
    else ⟨some ['\\', 'x'], h :: rest⟩
  | '0' :: o :: rest =>
    if isArgument && isOctal o then code 8 3 (o :: rest) else code 8 3 ('0' :: o :: rest)
  | c :: rest =>
    if isEnding c then ⟨none, []⟩
    else if isOctal c then code 8 3 (c :: rest)
    else
      match letter? d c with
      | some e => ⟨some [e], rest⟩
      | none => ⟨some ['\\', c], rest⟩

/-- A text with its escapes replaced, and whether all output ends with it. -/
def unescaped (d : Dialect) : Nat → Octets → Octets × Bool
  | 0, t => (t, false)
  | _, [] => ([], false)
  | fuel + 1, '\\' :: rest =>
    match escape d true rest with
    | ⟨none, _⟩ => ([], true)
    | ⟨some e, rest⟩ =>
      let (t, isEnd) := unescaped d fuel rest
      (e ++ t, isEnd)
  | fuel + 1, c :: rest =>
    let (t, isEnd) := unescaped d fuel rest
    (c :: t, isEnd)

/-! ### Arguments -/

/-- Something that is printed, or a message about it. -/
inductive Entry where
  | text (t : Octets)
  | complaint (t : Octets)

/-- What is printed, told and left over. -/
structure Draft where
  /-- What is printed and told, the last first. -/
  entries : List Entry := []
  arguments : List Octets
  /-- Whether nothing more is printed. -/
  isOver : Bool := false
  /-- Whether the format itself is at fault. -/
  isFatal : Bool := false

namespace Draft

def print (f : Draft) (t : Octets) : Draft := { f with entries := .text t :: f.entries }

def complain (f : Draft) (t : Octets) : Draft := { f with entries := .complaint t :: f.entries }

def giveUp (f : Draft) (t : Octets) : Draft := { f.complain t with isOver := true, isFatal := true }

/-- The next argument; an empty one stands in where there is none. -/
def next (f : Draft) : Option Octets × Draft :=
  (f.arguments.head?, { f with arguments := f.arguments.tail })

end Draft

def notNumeric (d : Dialect) (t : Octets) : Octets :=
  match d with
  | .script => t ++ ": expected numeric value".toList
  | .program => Quoted.name t ++ ": expected a numeric value".toList

def notConverted (d : Dialect) (t : Octets) : Octets :=
  match d with
  | .script => t ++ ": not completely converted".toList
  | .program => Quoted.name t ++ ": value not completely converted".toList

def outOfRange (d : Dialect) (t : Octets) : Octets :=
  (match d with
    | .script => t
    | .program => Quoted.name t) ++ ": Numerical result out of range".toList

/-- The code of the character behind a quote. -/
def characterCode? (t : Octets) : Option Nat :=
  match t with
  | q :: c :: _ => if q = '\'' || q = '"' then some c.toNat else none
  | _ => none

/-- What the rest of an argument behind a number gives rise to. -/
def checkRest (d : Dialect) (t rest : Octets) (f : Draft) : Draft :=
  if rest = [] then f
  else if rest = t then f.complain (notNumeric d t)
  else f.complain (notConverted d t)

/-- The next argument as a whole number between bounds. Without sign, a negative number
stands for what it leaves in 64 bits. -/
def integer (d : Dialect) (isSigned : Bool) (f : Draft) : Int × Draft :=
  match f.next with
  | (none, f) => (0, f)
  | (some t, f) =>
    match characterCode? t with
    | some n => (n, f)
    | none =>
      if d = .script && (t = ['\''] || t = ['"']) then (0, f)
      else
        match Octets.leadingInteger? 0 t with
        | none => (0, checkRest d t t f)
        | some (n, rest) =>
          let (low, high) : Int × Int :=
            if isSigned then (-Octets.wordBound, Octets.wordBound - 1)
            else (-(2 * Octets.wordBound - 1), 2 * Octets.wordBound - 1)
          let f := checkRest d t rest f
          if n < low || high < n then
            (if isSigned && n < low then low else high,
              if rest = [] then f.complain (outOfRange d t) else f)
          else (n, f)

/-- The next argument as a real number and its sign. -/
def real (d : Dialect) (f : Draft) : Bool × Real × Draft :=
  match f.next with
  | (none, f) => (false, .zero, f)
  | (some t, f) =>
    match characterCode? t with
    | some n => (false, .finite n 1, f)
    | none =>
      let (isNegative, digits) := match t.dropWhile Octets.isSpace with
        | '-' :: rest => (true, rest)
        | '+' :: rest => (false, rest)
        | rest => (false, rest)
      match Real.leading? d.precision digits with
      | none => (false, .zero, checkRest d t t f)
      | some (x, rest) =>
        let f := checkRest d t rest f
        let isTooLarge := x = .infinite && digits.head?.any Char.isDigit
        (isNegative, x, if isTooLarge && rest = [] then f.complain (outOfRange d t) else f)

/-! ### Directives -/

/-- The flags at the front of a directive. -/
def flags (l : Layout) : Octets → Layout × Octets
  | c :: rest =>
    if c = '-' then flags { l with isLeft := true } rest
    else if c = '0' then flags { l with isZeroed := true } rest
    else if c = '+' then flags { l with hasPlus := true } rest
    else if c = ' ' then flags { l with hasBlank := true } rest
    else if c = '#' then flags { l with isMarked := true } rest
    else (l, c :: rest)
  | [] => (l, [])

/-- A number in a directive, or the argument that a star asks for. -/
def measure (d : Dialect) (f : Draft) (t : Octets) : Int × Draft × Octets :=
  match t with
  | '*' :: rest =>
    let (n, f) := integer d true f
    (n, f, rest)
  | t =>
    let ds := t.takeWhile Char.isDigit
    ((Octets.digits 10 0 ds.length ds).1, f, t.drop ds.length)

/-- The layout that a directive writes, up to its conversion. -/
def layout (d : Dialect) (f : Draft) (t : Octets) : Layout × Draft × Octets :=
  let (l, t) := flags {} t
  let (width, f, t) := measure d f t
  let l := { l with width := width.natAbs, isLeft := l.isLeft || width < 0 }
  match t with
  | '.' :: t =>
    let (precision, f, t) := measure d f t
    ({ l with precision := if precision < 0 then none else some precision.toNat }, f, t)
  | t => (l, f, t)

/-- Words for the size of a number, which programs let pass. -/
def afterSize (d : Dialect) (t : Octets) : Octets :=
  match d with
  | .script => t
  | .program => t.dropWhile fun c => c ∈ "hjlLqtz".toList

/-- Prints the argument of a conversion, which the given directive asks for. -/
def convert (d : Dialect) (directive : Octets) (l : Layout) (isPlain : Bool) (conversion : Char)
    (f : Draft) : Draft :=
  if conversion ∈ "di".toList then
    let (n, f) := integer d true f
    f.print (l.signed n)
  else if conversion ∈ "ouxX".toList then
    let (n, f) := integer d false f
    f.print (l.unsigned conversion (n % (2 * Octets.wordBound)).toNat)
  else if conversion ∈ "eEfFgG".toList then
    let (isNegative, x, f) := real d f
    f.print (l.real conversion isNegative x)
  else if conversion = 's' then
    let (t, f) := f.next
    f.print (l.text (t.getD []))
  else if conversion = 'c' then
    let (t, f) := f.next
    f.print (l.pad [((t.getD []).headD '\x00')])
  else if conversion = 'b' && (d = .script || isPlain) then
    let (t, f) := f.next
    let t := t.getD []
    let (t, isEnd) := unescaped d t.length t
    { f.print (l.text t) with isOver := isEnd }
  else
    f.giveUp (directive ++ match d with
      | .script => ": invalid directive".toList
      | .program => ": invalid conversion specification".toList)

/-- Goes through the format once. -/
def pass (d : Dialect) : Nat → Octets → Draft → Draft
  | 0, _, f => f
  | _, [], f => f
  | fuel + 1, '\\' :: rest, f =>
    match escape d false rest with
    | ⟨none, _⟩ => { f with isOver := true }
    | ⟨some t, rest⟩ => pass d fuel rest (f.print t)
  | fuel + 1, '%' :: '%' :: rest, f => pass d fuel rest (f.print ['%'])
  | fuel + 1, '%' :: t, f =>
    let (l, f, behind) := layout d f t
    match afterSize d behind with
    | [] =>
      f.giveUp (match d with
        | .script => "missing format character".toList
        | .program => '%' :: t ++ ": invalid conversion specification".toList)
    | conversion :: rest =>
      let directive := '%' :: t.take (t.length - rest.length)
      let f := convert d directive l (t.head? = some conversion) conversion f
      if f.isOver then f else pass d fuel rest f
  | fuel + 1, c :: rest, f => pass d fuel rest (f.print [c])

/-- Goes through the format until no arguments are left, or none are used up. -/
def passes (d : Dialect) (format : Octets) : Nat → Draft → Draft
  | 0, f => f
  | fuel + 1, f =>
    let after := pass d format.length format f
    if after.isOver || after.arguments = [] || after.arguments.length = f.arguments.length then
      after
    else passes d format fuel after

/-- What a printing command leaves, in order. -/
structure Printed where
  entries : List Entry
  status : Nat

namespace Printed

def output (p : Printed) : Octets :=
  p.entries.flatMap fun
    | .text t => t
    | .complaint _ => []

def complaints (p : Printed) : List Octets :=
  p.entries.filterMap fun
    | .text _ => none
    | .complaint t => some t

end Printed

/-- Prints arguments by a format. -/
def print (d : Dialect) (format : Octets) (arguments : List Octets) : Printed :=
  let f := passes d format (arguments.length + 1) { arguments := arguments }
  let excess := match d, f.isOver, f.arguments with
    | .program, false, a :: _ =>
      [.complaint ("warning: ignoring excess arguments, starting with ".toList ++ Quoted.name a)]
    | _, _, _ => []
  let isWhole := f.entries.all fun
    | .text _ => true
    | .complaint _ => false
  let status := if isWhole then 0 else if d = .script && f.isFatal then 2 else 1
  ⟨f.entries.reverse ++ excess, status⟩

/-- The words of an echo, where escapes may be replaced. -/
def echo (d : Dialect) (isEscaped endsLine : Bool) (words : List Octets) : Octets :=
  let t := Text.join [' '] words
  let (t, isEnd) := if isEscaped then unescaped d t.length t else (t, false)
  if isEnd || !endsLine then t else t ++ ['\n']

end StyleSnapshot.Shell.Format
