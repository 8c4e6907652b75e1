import StyleSnapshot.Shell.Format.Basic
import StyleSnapshot.Shell.Tool.Basic

/-! Replacing, deleting and squeezing bytes. -/
namespace StyleSnapshot.Shell.Tool.Translate

/-- A piece of a set of bytes. -/
inductive Piece where
  | char (c : Char)
  | range (first last : Char)
  | named (name : Octets)
  /-- A byte so often, or as often as it takes if no number is given. -/
  | repeated (c : Char) (count : Nat)
  deriving DecidableEq, Repr

/-- A character and whether it was written by an escape. -/
abbrev Written := Char × Bool

/-- The characters of a text with its escapes replaced. -/
def unescaped : Nat → Octets → List Written
  | 0, _ => []
  | _, [] => []
  | fuel + 1, '\\' :: c :: rest =>
    if Format.isOctal c then
      let e := Format.code 8 3 (c :: rest)
      (e.text.getD []).map (fun c => (c, true)) ++ unescaped fuel e.rest
    else ((Format.letter? .script c).getD c, true) :: unescaped fuel rest
  | fuel + 1, c :: rest => (c, false) :: unescaped fuel rest

/-- The class or the byte between brackets and signs at the front. -/
def bracketed? (sign : Char) (t : List Written) : Option (Octets × List Written) :=
  match t with
  | ('[', false) :: (s, false) :: rest =>
    if s ≠ sign then none
    else
      let name := rest.takeWhile (· ≠ (sign, false))
      match rest.drop name.length with
      | _ :: (']', false) :: behind => some (name.map (·.1), behind)
      | _ => none
  | _ => none

/-- The number behind a star in brackets. -/
def count (t : Octets) : Nat :=
  (Octets.digits (if t.head? = some '0' then 8 else 10) 0 t.length t).1

/-- The pieces of a set. -/
def pieces : Nat → List Written → Except Octets (List Piece)
  | 0, _ => .ok []
  | _, [] => .ok []
  | fuel + 1, c :: rest => do
    match bracketed? ':' (c :: rest), bracketed? '=' (c :: rest), c, rest with
    | some (name, behind), _, _, _ =>
      if (Octets.inClass? name 'a').isNone then
        .error ("invalid character class ".toList ++ quoted name)
      else return .named name :: (← pieces fuel behind)
    | none, some ([d], behind), _, _ => return .char d :: (← pieces fuel behind)
    | none, _, ('[', false), (d, _) :: ('*', false) :: behind =>
      let digits := (behind.takeWhile fun c => c.1.isDigit).map (·.1)
      match behind.drop digits.length with
      | (']', false) :: behind => return .repeated d (count digits) :: (← pieces fuel behind)
      | _ => return .char '[' :: (← pieces fuel rest)
    | _, _, (c, _), ('-', false) :: (d, _) :: behind =>
      if d < c then
        .error ("range-endpoints of ".toList ++ quoted [c, '-', d] ++
          " are in reverse collating sequence order".toList)
      else return .range c d :: (← pieces fuel behind)
    | _, _, (c, _), rest => return .char c :: (← pieces fuel rest)

def bytes : List Char := (List.range 256).map Char.ofNat

/-- The bytes of a piece, where `fill` is the number that a star without number stands
for. -/
def Piece.chars (fill : Nat) : Piece → List Char
  | .char c => [c]
  | .range first last => bytes.filter fun c => first ≤ c && c ≤ last
  | .named name => bytes.filter fun c => (Octets.inClass? name c).getD false
  | .repeated c 0 => List.replicate fill c
  | .repeated c count => List.replicate count c

/-- The bytes of a set in order. -/
def expand (fill : Nat) (ps : List Piece) : List Char := ps.flatMap (·.chars fill)

/-- The bytes that a set lacks. -/
def complement (cs : List Char) : List Char := bytes.filter (· ∉ cs)

/-- What the bytes of the first set become. A second set that is too short goes on with its
last byte. -/
def table (first second : List Char) (isTruncated : Bool) : List (Char × Char) :=
  let first := if isTruncated then first.take second.length else first
  match second.getLast? with
  | none => []
  | some last => first.zip (second ++ List.replicate (first.length - second.length) last)

/-- What a byte becomes: what its last place in the table says. -/
def replaced (t : List (Char × Char)) (c : Char) : Char := (t.reverse.lookup c).getD c

/-- Leaves one of several equal bytes in a row that belong to a set. -/
def squeezed (cs : List Char) : Octets → Octets
  | [] => []
  | [c] => [c]
  | c :: d :: rest =>
    if c = d && c ∈ cs then squeezed cs (d :: rest) else c :: squeezed cs (d :: rest)

/-- Whether a piece stands for letters of one case. -/
def isCase (p : Piece) : Bool := p = .named "lower".toList || p = .named "upper".toList

/-- The bytes of both sets, where cases go with each other. -/
def paired (first second : List Piece) (isComplemented : Bool) : List Char × List Char :=
  let a := expand 0 first
  let a := if isComplemented then complement a else a
  let b := expand 0 second
  (a, expand (a.length - b.length) second)

def main (ws : List Octets) : Tool Nat := do
  let p ← parsed
    { letters := "cCdst", stopsAtOperand := true
      long := [⟨"complement", 'c', false⟩, ⟨"delete", 'd', false⟩,
        ⟨"squeeze-repeats", 's', false⟩, ⟨"truncate-set1", 't', false⟩] } ws
  let (deletes, squeezes) := (p.has 'd', p.has 's')
  let needsTwo := deletes = squeezes
  let (a, b) ← match p.operands with
    | [] => misuse 1 "missing operand".toList
    | [a] =>
      if needsTwo then do
        complain ("missing operand after ".toList ++ quoted a)
        tell (if deletes then
            "Two strings must be given when both deleting and squeezing repeats.\n".toList
          else "Two strings must be given when translating.\n".toList)
        tell "Try 'tr --help' for more information.\n".toList
        stop 1
      else pure (a, none)
    | [a, b] =>
      if deletes && !squeezes then do
        complain ("extra operand ".toList ++ quoted b)
        tell "Only one string may be given when deleting without squeezing repeats.\n".toList
        tell "Try 'tr --help' for more information.\n".toList
        stop 1
      else pure (a, some b)
    | _ :: _ :: c :: _ => misuse 1 ("extra operand ".toList ++ quoted c)
  let setOf (t : Octets) : Tool (List Piece) := do
    match pieces t.length (unescaped t.length t) with
    | .ok ps => return ps
    | .error message => fail 1 message
  let first ← setOf a
  let second ← setOf (b.getD [])
  let (x, y) := paired first second (p.has 'c' || p.has 'C')
  let translates := !deletes && b.isSome
  if translates && y = [] && !p.has 't' then
    fail 1 "when not truncating set1, string2 must be non-empty".toList
  let t ← match ← standardInput with
    | .ok t => pure t
    | .error reason => fail 1 ("read error: ".toList ++ reason)
  let map := table x y (p.has 't')
  let t := if deletes then t.filter (· ∉ x) else if translates then t.map (replaced map) else t
  print (if squeezes then squeezed (if b.isSome then y else x) t else t)
  return 0

end StyleSnapshot.Shell.Tool.Translate
