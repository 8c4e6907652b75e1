import StyleSnapshot.FileTree
import StyleSnapshot.Shell.Octets

/-! Conditions about texts, numbers and files.

A condition is written as a row of words: texts, and operators before or between them. A
word that looks like an operator is a text where its neighbours leave no other reading. A
reader passes on the row from the last word that it used. -/
namespace StyleSnapshot.Shell.Condition

/-- How files look to a condition. -/
structure Facts where
  content? : Octets → Option (Location × FileContent)
  isExecutable : Location → Bool

/-! ### Operators -/

inductive Kind where
  | nothing
  | operand
  | unary
  | binary
  | negation
  | conjunction
  | disjunction
  | opening
  | closing
  deriving DecidableEq, Repr

def unaryOperators : List Octets :=
  ["-r", "-w", "-x", "-e", "-f", "-d", "-c", "-b", "-p", "-u", "-g", "-k", "-s", "-t", "-z",
    "-n", "-h", "-O", "-G", "-L", "-S"].map (·.toList)

def binaryOperators : List Octets :=
  ["=", "!=", "<", ">", "-eq", "-ne", "-ge", "-gt", "-le", "-lt", "-nt", "-ot", "-ef"].map
    (·.toList)

/-- The kind of a word taken for itself. -/
def kindOf (w : Octets) : Kind :=
  if w ∈ unaryOperators then .unary
  else if w ∈ binaryOperators then .binary
  else if w = ['!'] then .negation
  else if w = "-a".toList then .conjunction
  else if w = "-o".toList then .disjunction
  else if w = ['('] then .opening
  else if w = [')'] then .closing
  else .operand

/-- The kind of the first word in view of the words behind it. -/
def kindAt : List Octets → Kind
  | [] => .nothing
  | w :: more =>
    let isOperand : Bool := match more with
      | [] => true
      | [_] => false
      | next :: _ => kindOf next = .binary
    match kindOf w with
    | .unary => if isOperand then .operand else .unary
    | .opening => if more = [] then .operand else .opening
    | kind => kind

/-! ### Single tests -/

/-- The number that a text writes. -/
def number (t : Octets) : Except Octets Int :=
  match Octets.leadingInteger? 10 t with
  | some (n, rest) =>
    if rest.all Octets.isSpace && Octets.isWord n then .ok n
    else .error ("Illegal number: ".toList ++ t)
  | none => .error ("Illegal number: ".toList ++ t)

def isOfSize : FileContent → Bool
  | .file bytes => bytes ≠ []
  | .directory | .program => true
  | .device => false

def unary (f : Facts) (operator operand : Octets) : Except Octets Bool :=
  let there := f.content? operand
  match String.ofList operator with
  | "-z" => .ok (operand = [])
  | "-n" => .ok (operand ≠ [])
  | "-t" => (number operand).map fun _ => false
  | "-e" | "-r" | "-w" | "-O" | "-G" => .ok there.isSome
  | "-f" => .ok (there.any fun c => c.2 ≠ .directory && c.2 ≠ .device)
  | "-d" => .ok (there.any fun c => c.2 = .directory)
  | "-c" => .ok (there.any fun c => c.2 = .device)
  | "-s" => .ok (there.any fun c => isOfSize c.2)
  | "-x" =>
    .ok (there.any fun c => c.2 = .directory || c.2 = .program || f.isExecutable c.1)
  | _ => .ok false

def compareNumbers (holds : Int → Int → Bool) (a b : Octets) : Except Octets Bool := do
  let x ← number a
  let y ← number b
  return holds x y

def binary (f : Facts) (operator a b : Octets) : Except Octets Bool :=
  match String.ofList operator with
  | "=" => .ok (a = b)
  | "!=" => .ok (a ≠ b)
  | "<" => .ok (a < b)
  | ">" => .ok (b < a)
  | "-eq" => compareNumbers (fun x y => x = y) a b
  | "-ne" => compareNumbers (fun x y => x ≠ y) a b
  | "-ge" => compareNumbers (fun x y => y ≤ x) a b
  | "-gt" => compareNumbers (fun x y => y < x) a b
  | "-le" => compareNumbers (fun x y => x ≤ y) a b
  | "-lt" => compareNumbers (fun x y => x < y) a b
  | "-ef" => .ok ((f.content? a).isSome && (f.content? a).map (·.1) = (f.content? b).map (·.1))
  | _ => .ok false

/-! ### Rows of words -/

/-- The truth of a condition at the front of a row, and the row from its last word on. -/
abbrev Reading := Except Octets (Bool × List Octets)

/-- Conditions joined by an operator, of which the first has the given kind. -/
def joined (joint : Kind) (join : Bool → Bool → Bool) (next : Kind → List Octets → Reading) :
    Nat → Bool → Kind → List Octets → Reading
  | 0, soFar, _, ws => .ok (soFar, ws)
  | fuel + 1, soFar, kind, ws => do
    let (holds, ws) ← next kind ws
    let soFar := join soFar holds
    if kindAt ws.tail = joint then
      let ws := ws.tail.tail
      joined joint join next fuel soFar (kindAt ws) ws
    else .ok (soFar, ws)

def missing (operator : Octets) : Octets := operator ++ ": argument expected".toList

mutual

def disjunction (f : Facts) (fuel : Nat) (kind : Kind) (ws : List Octets) : Reading :=
  match fuel with
  | 0 => .ok (false, ws)
  | fuel + 1 =>
    let conjunction := joined .conjunction (· && ·) (negation f fuel) (ws.length + 1) true
    joined .disjunction (· || ·) conjunction (ws.length + 1) false kind ws

def negation (f : Facts) (fuel : Nat) (kind : Kind) (ws : List Octets) : Reading :=
  match fuel with
  | 0 => .ok (false, ws)
  | fuel + 1 =>
    if kind ≠ .negation then primary f fuel kind ws
    else
      let kind := kindAt ws.tail
      (negation f fuel kind (if kind = .nothing then ws else ws.tail)).map fun r => (!r.1, r.2)

def primary (f : Facts) (fuel : Nat) (kind : Kind) (ws : List Octets) : Reading :=
  match fuel with
  | 0 => .ok (false, ws)
  | fuel + 1 =>
    match ws with
    | [] => .ok (false, ws)
    | w :: more =>
      match kind with
      | .nothing => .ok (false, ws)
      | .opening =>
        if kindAt more = .closing then .ok (false, more)
        else do
          let (holds, ws) ← disjunction f fuel (kindAt more) more
          if kindAt ws.tail = .closing then .ok (holds, ws.tail)
          else .error "closing paren expected".toList
      | .unary =>
        match more with
        | [] => .error (missing w)
        | operand :: _ => (unary f w operand).map fun holds => (holds, more)
      | _ =>
        match more with
        | [] => .ok (w ≠ [], ws)
        | operator :: behind =>
          if kindAt more = .binary then
            match behind with
            | [] => .error (missing operator)
            | b :: _ => (binary f operator w b).map fun holds => (holds, behind)
          else .ok (w ≠ [], ws)

end

/-- Whether the condition holds that makes up the row; the first word has the given kind. -/
def whole (f : Facts) (kind : Kind) (ws : List Octets) : Except Octets Bool := do
  let (holds, ws) ← disjunction f (4 * ws.length + 4) kind ws
  match ws with
  | w :: _ :: _ =>
    .error (if w = [] then "unexpected operator".toList else w ++ ": unexpected operator".toList)
  | _ => .ok holds

/-- Whether a condition holds. Rows of up to four words are read by their length. -/
def holds (f : Facts) : List Octets → Except Octets Bool
  | [] => .ok false
  | ['!'] :: a :: more@(_ :: rest) =>
    if kindOf a = .binary && rest = [] then whole f .operand (['!'] :: a :: more)
    else if rest.length ≤ 1 then (holds f (a :: more)).map (!·)
    else whole f .negation (['!'] :: a :: more)
  | [a, b, c] =>
    if kindOf b = .binary then whole f .operand [a, b, c]
    else if a = ['('] && c = [')'] then whole f (kindAt [b]) [b]
    else whole f (kindAt [a, b, c]) [a, b, c]
  | [['('], b, c, [')']] => whole f (kindAt [b, c]) [b, c]
  | ws => whole f (kindAt ws) ws

end StyleSnapshot.Shell.Condition
