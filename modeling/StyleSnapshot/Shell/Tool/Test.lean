import StyleSnapshot.Shell.Condition
import StyleSnapshot.Shell.Tool.Basic

/-! The program that tests conditions.

It takes the same conditions as the command of a script, but reads them by rules of its
own: up to four words by their number, and more of them by precedence. Numbers may have any
size, and the length of a text may stand for a number. -/
namespace StyleSnapshot.Shell.Tool.Test

/-- A condition to read: the words that are left. -/
abbrev Reading := StateT (List Octets) (Except Octets)

/-- What a condition is about: the files, and the last of all words for messages. -/
structure Subject where
  facts : Condition.Facts
  last : Octets

namespace Subject

def missing (s : Subject) : Reading α := throw ("missing argument after ".toList ++ quoted s.last)

/-- Passes a word, and makes sure that there is another one if that is needed. -/
def pass (s : Subject) (needsMore : Bool) : Reading Unit := do
  let rest := (← get).tail
  set rest
  if needsMore && rest = [] then s.missing

/-- The next word. -/
def take (s : Subject) : Reading Octets := do
  match ← get with
  | w :: rest =>
    set rest
    return w
  | [] => s.missing

/-! ### Single tests -/

def number (t : Octets) : Reading Int := do
  match Octets.leadingInteger? 10 t with
  | some (n, rest) =>
    if rest.all Octets.isSpace then return n else throw ("invalid integer ".toList ++ quoted t)
  | none => throw ("invalid integer ".toList ++ quoted t)

def unary (s : Subject) : Reading Bool := do
  let operator ← s.take
  match operator with
  | ['-', c] =>
    if c ∉ "eGNOSLbcdfghknprstuwxz".toList then
      throw (quoted operator ++ ": unary operator expected".toList)
    let operand ← s.take
    if c = 't' then
      let _ ← number operand
      return false
    else if c = 'N' then return (s.facts.content? operand).isSome
    else
      match Condition.unary s.facts operator operand with
      | .ok holds => return holds
      | .error message => throw message
  | _ => s.missing

def isBinary (w : Octets) : Bool :=
  w ∈ ["=", "==", "!=", "-eq", "-ne", "-ge", "-gt", "-le", "-lt", "-nt", "-ot", "-ef"].map (·.toList)

/-- The number that a word of a comparison writes, or the length of the word behind it. -/
def operand (s : Subject) : Reading (Octets × Bool) := do
  let w ← s.take
  match ← get with
  | next :: _ :: _ => if w = "-l".toList && !isBinary next then return (← s.take, true)
  | [next] => if w = "-l".toList && !isBinary next then return (← s.take, true)
  | [] => pure ()
  return (w, false)

def binary (s : Subject) : Reading Bool := do
  let (a, isLengthOfA) ← s.operand
  let operator ← s.take
  let (b, isLengthOfB) ← s.operand
  let size (t : Octets) (isLength : Bool) : Reading Int :=
    if isLength then pure t.length else number t
  let compared (holds : Int → Int → Bool) : Reading Bool := do
    let x ← size a isLengthOfA
    let y ← size b isLengthOfB
    return holds x y
  let aboutFiles : Reading Bool := do
    if isLengthOfA || isLengthOfB then throw (operator ++ " does not accept -l".toList)
    match Condition.binary s.facts operator a b with
    | .ok holds => return holds
    | .error message => throw message
  match String.ofList operator with
  | "=" | "==" => return a = b
  | "!=" => return a ≠ b
  | "-eq" => compared fun x y => x = y
  | "-ne" => compared fun x y => x ≠ y
  | "-ge" => compared fun x y => y ≤ x
  | "-gt" => compared fun x y => y < x
  | "-le" => compared fun x y => x ≤ y
  | "-lt" => compared fun x y => x < y
  | _ => aboutFiles

def isNotEmpty (s : Subject) : Reading Bool := return (← s.take) ≠ []

/-! ### Rows of words -/

mutual

/-- The condition of a given number of words. -/
def ofCount (s : Subject) (fuel count : Nat) : Reading Bool := do
  match fuel with
  | 0 => s.missing
  | fuel + 1 =>
    let ws ← get
    match count, ws with
    | 1, _ => s.isNotEmpty
    | 2, ['!'] :: _ => do
      s.pass false
      return !(← s.isNotEmpty)
    | 2, ['-', _] :: _ => s.unary
    | 2, _ => s.missing
    | 3, _ => s.ofThree fuel
    | 4, ['!'] :: _ => do
      s.pass true
      return !(← s.ofThree fuel)
    | 4, ['('] :: _ :: _ :: [')'] :: _ => do
      s.pass false
      let holds ← s.ofCount fuel 2
      s.pass false
      return holds
    | _, _ => s.disjunction fuel

def ofThree (s : Subject) (fuel : Nat) : Reading Bool := do
  match fuel with
  | 0 => s.missing
  | fuel + 1 =>
    match ← get with
    | a :: b :: more =>
      if isBinary b then s.binary
      else if a = ['!'] then
        s.pass true
        return !(← s.ofCount fuel 2)
      else if a = ['('] && more.head? = some [')'] then
        s.pass false
        let holds ← s.isNotEmpty
        s.pass false
        return holds
      else if b = "-a".toList || b = "-o".toList then s.disjunction fuel
      else throw (quoted b ++ ": binary operator expected".toList)
    | _ => s.missing

def disjunction (s : Subject) (fuel : Nat) : Reading Bool := do
  match fuel with
  | 0 => s.missing
  | fuel + 1 =>
    let first ← s.conjunction fuel
    if (← get).head? = some "-o".toList then
      s.pass false
      return (← s.disjunction fuel) || first
    else return first

def conjunction (s : Subject) (fuel : Nat) : Reading Bool := do
  match fuel with
  | 0 => s.missing
  | fuel + 1 =>
    let first ← s.term fuel
    if (← get).head? = some "-a".toList then
      s.pass false
      return (← s.conjunction fuel) && first
    else return first

def term (s : Subject) (fuel : Nat) : Reading Bool := do
  match fuel with
  | 0 => s.missing
  | fuel + 1 =>
    match ← get with
    | [] => s.missing
    | ['!'] :: _ => do
      s.pass true
      return !(← s.term fuel)
    | ['('] :: _ => do
      s.pass true
      let ws ← get
      let inside := 1 + (ws.tail.takeWhile (· ≠ [')'])).length
      let holds ← s.ofCount fuel (if inside ≤ 4 then inside else ws.length)
      match ← get with
      | [')'] :: _ => s.pass false
      | w :: _ => throw (quoted [')'] ++ " expected, found ".toList ++ quoted w)
      | [] => throw (quoted [')'] ++ " expected".toList)
      return holds
    | ws =>
      let isLength := 4 ≤ ws.length && ws.head? = some "-l".toList && ws[2]?.any isBinary
      if isLength || (3 ≤ ws.length && ws[1]?.any isBinary) then s.binary
      else
        match ws with
        | ['-', _] :: _ => s.unary
        | _ => s.isNotEmpty

end

end Subject

/-- Whether a condition holds. -/
def holds (facts : Condition.Facts) (ws : List Octets) : Except Octets Bool :=
  match ws.getLast? with
  | none => .ok false
  | some last => do
    let s : Subject := ⟨facts, last⟩
    let (holds, rest) ← (s.ofCount (4 * ws.length + 8) ws.length).run ws
    match rest with
    | [] => return holds
    | w :: _ => throw ("extra argument ".toList ++ quoted w)

def main (name : Octets) (ws : List Octets) : Tool Nat := do
  if name = ['['] && ws.getLast? ≠ some [']'] then fail 2 "missing ']'".toList
  let p ← get
  let facts : Condition.Facts :=
    { content? := fun t => (p.tree.locateFrom p.directory (Octets.toText t)).toOption
      isExecutable := fun place => place ∈ p.tree.executables }
  match holds facts (if name = ['['] then ws.dropLast else ws) with
  | .ok holds => return if holds then 0 else 1
  | .error message => fail 2 message

end StyleSnapshot.Shell.Tool.Test
