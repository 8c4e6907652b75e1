import StyleSnapshot.Shell.Syntax

/-! Arithmetic in scripts.

Numbers are whole and have 64 bits; what does not fit is lost at the top. A name stands for
the number its value writes. Operators have the precedence they have in C. -/
namespace StyleSnapshot.Shell.Arithmetic

/-- An expression. Operators are kept as they are written. -/
inductive Expression where
  | number (n : Int)
  | name (t : Octets)
  | unary (operator : Octets) (a : Expression)
  | binary (operator : Octets) (a b : Expression)
  | both (a b : Expression)
  | either (a b : Expression)
  | choice (condition yes no : Expression)
  /-- Sets a name, where an operator takes its old value into account. -/
  | assign (name : Octets) (operator : Option Octets) (a : Expression)

/-! ### Tokens -/

inductive Token where
  | number (n : Int)
  | name (t : Octets)
  | operator (t : Octets)
  deriving DecidableEq, Repr

/-- The operators, those that begin with others in front of them. -/
def operators : List Octets :=
  ["<<=".toList, ">>=".toList, "<<".toList, ">>".toList, "<=".toList, ">=".toList,
    "==".toList, "!=".toList, "&&".toList, "||".toList, "+=".toList, "-=".toList,
    "*=".toList, "/=".toList, "%=".toList, "&=".toList, "|=".toList, "^=".toList]

/-- The operator at the front, and the text behind it. -/
def operatorAt (c : Char) (rest : Octets) : Octets × Octets :=
  (operators.findSome? fun o => (Text.after? o (c :: rest)).map fun behind => (o, behind)).getD
    ([c], rest)

def tokens : Nat → Octets → List Token
  | 0, _ => []
  | _, [] => []
  | fuel + 1, c :: rest =>
    if c = ' ' || c = '\t' || c = '\n' then tokens fuel rest
    else if c.isDigit then
      match Octets.leadingNatural? 0 (c :: rest) with
      | some (n, behind) => .number (Octets.clamp n) :: tokens fuel behind
      | none => [.operator [c]]
    else if isNameStart c then
      .name ((c :: rest).takeWhile isNameChar) :: tokens fuel ((c :: rest).dropWhile isNameChar)
    else
      let (o, behind) := operatorAt c rest
      .operator o :: tokens fuel behind

/-! ### Reading -/

/-- What is read from tokens: an expression and the tokens behind it, or what was missed. -/
abbrev Parse := Except String (Expression × List Token)

/-- The binary operators by precedence, the loosest first. -/
def levels : List (List String) :=
  [["|"], ["^"], ["&"], ["==", "!="], ["<", ">", "<=", ">="], ["<<", ">>"], ["+", "-"],
    ["*", "/", "%"]]

/-- The operator of an assignment without its equals sign. -/
def assignment? (o : Octets) : Option (Option Octets) :=
  if o = ['='] then some none
  else if o.getLast? = some '=' && o.length ≥ 2 && ["==", "!=", "<=", ">="].all (·.toList ≠ o) then
    some (some o.dropLast)
  else none

/-- Goes on with binary operators of one level. -/
def continued (level : List String) (next : List Token → Parse) :
    Nat → Expression → List Token → Parse
  | 0, a, ts => .ok (a, ts)
  | fuel + 1, a, ts =>
    match ts with
    | .operator o :: more =>
      if level.any (·.toList = o) then do
        let (b, behind) ← next more
        continued level next fuel (.binary o a b) behind
      else .ok (a, ts)
    | ts => .ok (a, ts)

/-- Reads an expression of binary operators of the given levels. -/
def binary (primary : List Token → Parse) : List (List String) → List Token → Parse
  | [], ts => primary ts
  | level :: more, ts => do
    let (a, behind) ← binary primary more ts
    continued level (binary primary more) behind.length a behind

/-- Goes on with one of the operators that may leave out their second operand. -/
def joined (operator : String) (join : Expression → Expression → Expression)
    (next : List Token → Parse) : Nat → List Token → Parse
  | 0, ts => next ts
  | fuel + 1, ts => do
    let (a, behind) ← next ts
    match behind with
    | .operator o :: more =>
      if o = operator.toList then
        let (b, behind) ← joined operator join next fuel more
        .ok (join a b, behind)
      else .ok (a, behind)
    | behind => .ok (a, behind)

def unaryOperators : List String := ["+", "-", "!", "~"]

mutual

/-- A number, a name, or an expression with a sign in front or in parentheses. -/
def primary (fuel : Nat) (ts : List Token) : Parse :=
  match fuel with
  | 0 => .error "expecting primary"
  | fuel + 1 =>
    match ts with
    | .number n :: more => .ok (.number n, more)
    | .name t :: more => .ok (.name t, more)
    | .operator o :: more =>
      if o = ['('] then
        match expression fuel more with
        | .error e => .error e
        | .ok (a, .operator [')'] :: behind) => .ok (a, behind)
        | .ok _ => .error "expecting ')'"
      else if unaryOperators.any (·.toList = o) then
        (primary fuel more).map fun r => (.unary o r.1, r.2)
      else .error "expecting primary"
    | [] => .error "expecting primary"

/-- An expression that may be an assignment or a choice. -/
def expression (fuel : Nat) (ts : List Token) : Parse :=
  match fuel with
  | 0 => .error "expecting primary"
  | fuel + 1 =>
    match ts with
    | .name t :: .operator o :: more =>
      match assignment? o with
      | some operator => (expression fuel more).map fun r => (.assign t operator r.1, r.2)
      | none => conditional fuel ts
    | ts => conditional fuel ts

def conditional (fuel : Nat) (ts : List Token) : Parse :=
  match fuel with
  | 0 => .error "expecting primary"
  | fuel + 1 => do
    let conjunction := joined "&&" .both (binary (primary fuel) levels) ts.length
    let (a, behind) ← joined "||" .either conjunction ts.length ts
    match behind with
    | .operator ['?'] :: more =>
      let (yes, behind) ← expression fuel more
      match behind with
      | .operator [':'] :: more =>
        let (no, behind) ← conditional fuel more
        .ok (.choice a yes no, behind)
      | _ => .error "expecting ':'"
    | behind => .ok (a, behind)

end

/-- Reads an expression that makes up the whole text. -/
def read (t : Octets) : Except String Expression :=
  let ts := tokens t.length t
  match expression (3 * ts.length + 3) ts with
  | .error e => .error e
  | .ok (a, []) => .ok a
  | .ok (_, _ :: _) => .error "expecting EOF"

/-! ### Values -/

/-- A truth value as a number. -/
def ofBool (b : Bool) : Int := if b then 1 else 0

/-- The bits of a number as a natural number. -/
def bits (n : Int) : Nat := (n % (2 * Octets.wordBound)).toNat

/-- The value of a binary operator; none for a division by zero. -/
def combined? (operator : Octets) (a b : Int) : Option Int :=
  match String.ofList operator with
  | "+" => some (Octets.wrap (a + b))
  | "-" => some (Octets.wrap (a - b))
  | "*" => some (Octets.wrap (a * b))
  | "/" => if b = 0 then none else some (Octets.wrap (Int.tdiv a b))
  | "%" => if b = 0 then none else some (Int.tmod a b)
  | "<<" => some (Octets.wrap (a * Nat.pow 2 (bits b % 64)))
  | ">>" => some (Int.fdiv a (Nat.pow 2 (bits b % 64)))
  | "<" => some (ofBool (a < b))
  | ">" => some (ofBool (b < a))
  | "<=" => some (ofBool (a ≤ b))
  | ">=" => some (ofBool (b ≤ a))
  | "==" => some (ofBool (a = b))
  | "!=" => some (ofBool (a ≠ b))
  | "&" => some (Octets.wrap (Nat.land (bits a) (bits b)))
  | "^" => some (Octets.wrap (Nat.xor (bits a) (bits b)))
  | "|" => some (Octets.wrap (Nat.lor (bits a) (bits b)))
  | _ => some 0

def applyUnary (operator : Octets) (a : Int) : Int :=
  match String.ofList operator with
  | "-" => Octets.wrap (-a)
  | "!" => ofBool (a = 0)
  | "~" => -a - 1
  | _ => a

/-- What an expression needs to be evaluated: the values of names, how to change them, and
what becomes of a division by zero. -/
structure Context (m : Type → Type) where
  get : Octets → m Int
  set : Octets → Int → m Unit
  divisionByZero : m Int

/-- The value of an expression. What is left out of an operand is not evaluated. -/
def Expression.value {m : Type → Type} [Monad m] (k : Context m) : Expression → m Int
  | .number n => pure n
  | .name t => k.get t
  | .unary o a => do return applyUnary o (← a.value k)
  | .binary o a b => do
    let x ← a.value k
    let y ← b.value k
    match combined? o x y with
    | some z => pure z
    | none => k.divisionByZero
  | .both a b => do
    if (← a.value k) = 0 then pure 0 else return ofBool ((← b.value k) ≠ 0)
  | .either a b => do
    if (← a.value k) ≠ 0 then pure 1 else return ofBool ((← b.value k) ≠ 0)
  | .choice condition yes no => do
    if (← condition.value k) ≠ 0 then yes.value k else no.value k
  | .assign t operator a => do
    let y ← a.value k
    let value ← match operator with
      | none => pure y
      | some o => do
        match combined? o (← k.get t) y with
        | some z => pure z
        | none => k.divisionByZero
    k.set t value
    pure value

end StyleSnapshot.Shell.Arithmetic
