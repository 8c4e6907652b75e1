import StyleSnapshot.Toml.Value

/-! Fractional numbers of a TOML document.

A fractional number has a whole part, and behind it a point with digits, an exponent, or
both. Single underscores may stand between digits. A number is refused when it is so
large that it would round to the positive infinity of 64 bits. -/
namespace StyleSnapshot.Toml

/-- Digits that begin here, without the underscores between them, and the text behind. -/
def digitRun? : Text → Option (Text × Text)
  | [] => none
  | c :: '_' :: rest =>
    if c.isDigit then (digitRun? rest).map fun r => (c :: r.1, r.2) else none
  | c :: d :: rest =>
    if !c.isDigit then none
    else if d.isDigit then (digitRun? (d :: rest)).map fun r => (c :: r.1, r.2)
    else some ([c], d :: rest)
  | [c] => if c.isDigit then some ([c], []) else none

/-- The text behind a sign, and whether the sign is a minus. -/
def afterSign : Text → Bool × Text
  | '+' :: rest => (false, rest)
  | '-' :: rest => (true, rest)
  | t => (false, t)

/-- The number that decimal digits write. -/
def decimalOf (digits : Text) : Nat :=
  digits.foldl (fun n c => 10 * n + (c.toNat - 48)) 0

/-- Whether `mantissa` times the power of ten with the given exponent rounds to infinity
among the numbers of 64 bits. The bound is half a step above the greatest of them. -/
def isTooLarge (mantissa : Nat) (exponent : Int) : Bool :=
  let bound := Nat.pow 2 1024 - Nat.pow 2 970
  let places := (Text.ofNat mantissa).length
  if mantissa = 0 then false
  else if exponent + places > 310 then true
  else if exponent + places < 300 then false
  else decide (bound * Nat.pow 10 (-exponent).toNat ≤ mantissa * Nat.pow 10 exponent.toNat)

/-- The digits behind a point, if a point stands here. -/
def fractionPart? : Text → Option (Text × Text)
  | '.' :: rest => digitRun? rest
  | t => some ([], t)

/-- The exponent, if one stands here. -/
def exponentPart? : Text → Option (Int × Text)
  | c :: rest =>
    if c = 'e' || c = 'E' then
      let (isNegative, unsigned) := afterSign rest
      (digitRun? unsigned).map fun r =>
        (if isNegative then -(decimalOf r.1 : Int) else decimalOf r.1, r.2)
    else some (0, c :: rest)
  | [] => some (0, [])

/-- Whether a word writes a finite number with a point or an exponent. -/
def isFinite (word : Text) : Bool :=
  let (isNegative, unsigned) := afterSign word
  match digitRun? unsigned with
  | none => false
  | some (whole, behind) =>
    match fractionPart? behind with
    | none => false
    | some (places, behindPlaces) =>
      match exponentPart? behindPlaces with
      | none => false
      | some (exponent, rest) =>
        behind ≠ [] && rest = [] && (whole = ['0'] || whole.head? ≠ some '0') &&
          (isNegative ||
            !isTooLarge (decimalOf (whole ++ places)) (exponent - places.length))

/-- Whether a word writes an infinity or stands for no number. -/
def isSpecialNumber (word : Text) : Bool :=
  let unsigned := (afterSign word).2
  unsigned = "inf".toList || unsigned = "nan".toList

/-- A fractional number. -/
def fraction? (word : Text) : Option Value :=
  if isFinite word || isSpecialNumber word then some (.fraction word) else none

end StyleSnapshot.Toml
