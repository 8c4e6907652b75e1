import StyleSnapshot.Shell.Tool.Basic
import StyleSnapshot.Shell.Tool.Regex.Match
import StyleSnapshot.Shell.Tool.Regex.Reader

/-! Computing with arguments.

The arguments write one expression, a value or an operator to an argument. Operators of
higher precedence bind tighter, and all of them group to the left. -/
namespace StyleSnapshot.Shell.Tool

/-- A value and the words behind its expression, or the reason why there is none. -/
abbrev Computed := Except String (Octets × List Octets)

/-- The number that a text writes. -/
def integer? (t : Octets) : Option Int :=
  match t with
  | '-' :: digits => (Octets.natural? digits).map fun n => -(n : Int)
  | digits => (Octets.natural? digits).map fun n => (n : Int)

def isNull (t : Octets) : Bool := integer? t = some 0 || t = []

/-- The part of a text at its front for which an expression stands: what its first group
stands for if it has one, and the length otherwise. -/
def matchedPart (t pattern : Octets) : Except String Octets := do
  let found ← Regex.read { checksBrackets := false } pattern
  let groups := found.groups
  let subject : Regex.Subject := { text := t.toArray }
  match found.regex.matcher.matchAt? subject 0 with
  | none => return if groups = 0 then ['0'] else []
  | some p =>
    if groups = 0 then return Octets.ofInt p.position
    else
      match p.groups.lookup 1 with
      | some (first, last) => return subject.slice first last
      | none => return []

/-- The value of an operator between values. -/
def computed (operator a b : Octets) : Except String Octets := do
  let ofBool (holds : Bool) : Octets := if holds then ['1'] else ['0']
  let numbers : Except String (Int × Int) :=
    match integer? a, integer? b with
    | some x, some y => .ok (x, y)
    | _, _ => .error "non-integer argument"
  let compared (byNumber : Int → Int → Bool) (byText : Octets → Octets → Bool) : Octets :=
    match integer? a, integer? b with
    | some x, some y => ofBool (byNumber x y)
    | _, _ => ofBool (byText a b)
  match String.ofList operator with
  | "|" => return if isNull a then if isNull b then ['0'] else b else a
  | "&" => return if isNull a || isNull b then ['0'] else a
  | "<" => return compared (fun x y => x < y) (fun x y => x < y)
  | "<=" => return compared (fun x y => x ≤ y) (fun x y => !decide (y < x))
  | "=" | "==" => return compared (fun x y => x = y) (fun x y => x = y)
  | "!=" => return compared (fun x y => x ≠ y) (fun x y => x ≠ y)
  | ">=" => return compared (fun x y => y ≤ x) (fun x y => !decide (x < y))
  | ">" => return compared (fun x y => y < x) (fun x y => y < x)
  | "+" => return Octets.ofInt ((← numbers).1 + (← numbers).2)
  | "-" => return Octets.ofInt ((← numbers).1 - (← numbers).2)
  | "*" => return Octets.ofInt ((← numbers).1 * (← numbers).2)
  | "/" =>
    let (x, y) ← numbers
    if y = 0 then throw "division by zero" else return Octets.ofInt (Int.tdiv x y)
  | "%" =>
    let (x, y) ← numbers
    if y = 0 then throw "division by zero" else return Octets.ofInt (Int.tmod x y)
  | _ => matchedPart a b

/-- The operators by precedence, the loosest first. -/
def operatorLevels : List (List String) :=
  [["|"], ["&"], ["<", "<=", "=", "==", "!=", ">=", ">"], ["+", "-"], ["*", "/", "%"], [":"]]

/-- Goes on with operators of one level. -/
def computeMore (level : List String) (next : List Octets → Computed) :
    Nat → Octets → List Octets → Computed
  | 0, a, ws => .ok (a, ws)
  | fuel + 1, a, ws =>
    match ws with
    | [] => .ok (a, [])
    | o :: more =>
      if level.any (·.toList = o) then
        if more = [] then
          .error ("syntax error: missing argument after '" ++ String.ofList o ++ "'")
        else do
          let (b, behind) ← next more
          computeMore level next fuel (← computed o a b) behind
      else .ok (a, ws)

def computeLevels (primary : List Octets → Computed) : List (List String) → List Octets → Computed
  | [], ws => primary ws
  | level :: more, ws => do
    let (a, behind) ← computeLevels primary more ws
    computeMore level (computeLevels primary more) behind.length a behind

/-- A word, a function of words, or an expression in parentheses. -/
def computePrimary : Nat → List Octets → Computed
  | 0, _ => .error "syntax error"
  | _, [] => .error "syntax error: missing argument"
  | fuel + 1, w :: more => do
    let missing (w : Octets) : Computed :=
      .error ("syntax error: missing argument after '" ++ String.ofList w ++ "'")
    match String.ofList w, more with
    | "(", _ =>
      if more = [] then missing w
      else
        let (a, behind) ← computeLevels (computePrimary fuel) operatorLevels more
        match behind with
        | [')'] :: behind => return (a, behind)
        | other :: _ =>
          .error ("syntax error: expecting ')' instead of '" ++ String.ofList other ++ "'")
        | [] => .error ("syntax error: expecting ')' after '" ++
            String.ofList (more.getLastD []) ++ "'")
    | ")", _ => .error "syntax error: unexpected ')'"
    | "+", a :: behind => return (a, behind)
    | "length", _ :: _ =>
      let (a, behind) ← computePrimary fuel more
      return (Octets.ofInt a.length, behind)
    | "match", _ :: _ =>
      let (a, behind) ← computePrimary fuel more
      let (b, behind) ← computePrimary fuel behind
      return (← matchedPart a b, behind)
    | "index", _ :: _ =>
      let (a, behind) ← computePrimary fuel more
      let (b, behind) ← computePrimary fuel behind
      return (Octets.ofInt ((a.findIdx? (· ∈ b)).elim 0 (· + 1) : Nat), behind)
    | "substr", _ :: _ =>
      let (a, behind) ← computePrimary fuel more
      let (b, behind) ← computePrimary fuel behind
      let (c, behind) ← computePrimary fuel behind
      match integer? b, integer? c with
      | some first, some count =>
        return (if 0 < first && 0 < count then (a.drop (first.toNat - 1)).take count.toNat else [],
          behind)
      | _, _ => return ([], behind)
    | _, _ => return (w, more)

def expr (ws : List Octets) : Tool Nat := do
  let ws := if ws.head? = some "--".toList then ws.tail else ws
  if ws = [] then misuse 2 "missing operand".toList
  match computeLevels (computePrimary (ws.length + 1)) operatorLevels ws with
  | .error e => fail 2 e.toList
  | .ok (_, w :: _) => fail 2 ("syntax error: unexpected argument ".toList ++ quoted w)
  | .ok (a, []) =>
    print (a ++ ['\n'])
    return if isNull a then 1 else 0

end StyleSnapshot.Shell.Tool
