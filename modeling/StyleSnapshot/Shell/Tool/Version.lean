import StyleSnapshot.Shell.Octets

/-! The order of names with numbers in them.

Names are compared part by part, texts with texts and numbers with numbers, so that the
tenth comes behind the ninth. What looks like the suffix of a file counts only if the rest
is the same. -/
namespace StyleSnapshot.Shell.Tool.Version

/-- The rank of the first character of a text among texts; a number or the end is lower than
all but a tilde. -/
def rank (t : Octets) : Int :=
  match t with
  | [] => -1
  | c :: _ =>
    if c.isDigit then 0
    else if c.isAlpha then c.toNat
    else if c = '~' then -2
    else c.toNat + 256

def startsNumber (t : Octets) : Bool := t.head?.any Char.isDigit

/-- Compares what stands before the next numbers, and yields what is left of both texts if
that is the same. -/
def beforeNumbers : Nat → Octets → Octets → Except Ordering (Octets × Octets)
  | 0, a, b => .ok (a, b)
  | fuel + 1, a, b =>
    if (a = [] || startsNumber a) && (b = [] || startsNumber b) then .ok (a, b)
    else if rank a = rank b then beforeNumbers fuel a.tail b.tail
    else .error (compare (rank a) (rank b))

/-- The order of parts. -/
def byParts : Nat → Octets → Octets → Ordering
  | 0, _, _ => .eq
  | fuel + 1, a, b =>
    if a = [] && b = [] then .eq
    else
      match beforeNumbers (a.length + b.length + 1) a b with
      | .error order => order
      | .ok (a, b) =>
        let x := a.takeWhile Char.isDigit
        let y := b.takeWhile Char.isDigit
        let value (t : Octets) : Nat := (Octets.digits 10 0 t.length t).1
        match compare (value x) (value y) with
        | .eq => byParts fuel (a.drop x.length) (b.drop y.length)
        | order => order

/-- Whether a text is made of suffixes of files. -/
def isSuffix : Nat → Octets → Bool
  | 0, t => t = []
  | fuel + 1, t =>
    match t with
    | [] => true
    | '.' :: c :: rest =>
      (c.isAlpha || c = '~') &&
        isSuffix fuel (rest.dropWhile fun d => d.isAlphanum || d = '~')
    | _ => false

/-- A text without the suffixes at its end; something is always left. -/
def stem (t : Octets) : Octets :=
  match ((List.range t.length).drop 1).find? fun i => isSuffix t.length (t.drop i) with
  | some i => t.take i
  | none => t

def order (a b : Octets) : Ordering :=
  let parts (a b : Octets) : Ordering := byParts (a.length + b.length + 1) a b
  if a = b then .eq
  else if a = [] then .lt
  else if b = [] then .gt
  else
    let isHidden (t : Octets) : Bool := t.head? = some '.'
    let isDot (t : Octets) : Bool := t = ['.'] || t = ['.', '.']
    if isHidden a && !isHidden b then .lt
    else if isHidden b && !isHidden a then .gt
    else if isDot a && !isDot b then .lt
    else if isDot b && !isDot a then .gt
    else if isDot a && isDot b then compare a.length b.length
    else
      match parts (stem a) (stem b) with
      | .eq => parts a b
      | order => order

end StyleSnapshot.Shell.Tool.Version
