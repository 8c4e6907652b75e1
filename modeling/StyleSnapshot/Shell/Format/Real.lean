import StyleSnapshot.Decimal.Digits
import StyleSnapshot.Shell.Octets

/-! Real numbers in formats.

A number is read to the precision of whoever prints it and written with a fixed number of
places, in powers of ten, or in whichever of the two is shorter. Between the two it is an
exact quotient, so the digits that are written are those of the number itself. -/
namespace StyleSnapshot.Shell.Format

/-- How exactly numbers are kept: as whole numbers of some bits, times a power of two between
two bounds. -/
structure Precision where
  bits : Nat
  least : Int
  bound : Nat

namespace Precision

def double : Precision := ⟨53, -1074, 1024⟩

def extended : Precision := ⟨64, -16445, 16384⟩

end Precision

/-- A number without sign. -/
inductive Real where
  | finite (num den : Nat)
  | infinite
  | undefined
  deriving DecidableEq, Repr

namespace Real

def zero : Real := .finite 0 1

/-! ### Reading -/

/-- The number of a precision that is nearest to a quotient of positive numbers. -/
def nearest (p : Precision) (num den : Nat) : Real :=
  let guess : Int := (num.log2 : Int) - den.log2 - (p.bits - 1 : Nat)
  let (n, d) := Double.scaled num den (-guess)
  let exponent := max p.least (if n / d < Nat.pow 2 (p.bits - 1) then guess - 1 else guess)
  let (n, d) := Double.scaled num den (-exponent)
  let num := roundDiv n d * Nat.pow 2 exponent.toNat
  let den := Nat.pow 2 (-exponent).toNat
  if Nat.pow 2 p.bound * den ≤ num then .infinite else .finite num den

/-- The number that digits of a base with a power of a radix behind them write. -/
def ofDigits (p : Precision) (digits radix : Nat) (exponent : Int) : Real :=
  if digits = 0 then zero
  else if 20000 < exponent then .infinite
  else if exponent < -20000 then zero
  else nearest p (digits * Nat.pow radix exponent.toNat) (Nat.pow radix (-exponent).toNat)

/-- The power at the front of a text behind one of two letters, and the text behind it. -/
def exponentAt (letter : Char) (t : Octets) : Int × Octets :=
  match t with
  | e :: rest =>
    if Octets.toLower e = letter then
      let (sign, digits) : Int × Octets := match rest with
        | '-' :: more => (-1, more)
        | '+' :: more => (1, more)
        | more => (1, more)
      let count := (digits.takeWhile Char.isDigit).length
      if count = 0 then (0, t)
      else
        let (n, behind) := Octets.digits 10 0 count digits
        (sign * n, behind)
    else (0, t)
  | [] => (0, t)

/-- Digits of a base, perhaps with a point among them: their value, the number of places
behind the point, and the text behind them. None if there are no digits. -/
def digitsAt? (base : Nat) (t : Octets) : Option (Nat × Nat × Octets) :=
  let isDigit (c : Char) : Bool := ((Octets.digitValue? c).filter (· < base)).isSome
  let whole := t.takeWhile isDigit
  let behind := t.drop whole.length
  let (part, behind) := match behind with
    | '.' :: more => (more.takeWhile isDigit, more.dropWhile isDigit)
    | more => ([], more)
  if whole = [] && part = [] then none
  else some ((Octets.digits base 0 t.length (whole ++ part)).1, part.length, behind)

/-- A number without sign at the front of a text, and the text behind it. -/
def leading? (p : Precision) (t : Octets) : Option (Real × Octets) :=
  let starts (word : String) : Bool := Text.startsWith word.toList (t.map Octets.toLower)
  let decimal : Option (Real × Octets) :=
    (digitsAt? 10 t).map fun (n, places, behind) =>
      let (exponent, behind) := exponentAt 'e' behind
      (ofDigits p n 10 (exponent - places), behind)
  if starts "infinity" then some (.infinite, t.drop 8)
  else if starts "inf" then some (.infinite, t.drop 3)
  else if starts "nan" then some (.undefined, t.drop 3)
  else if starts "0x" then
    match digitsAt? 16 (t.drop 2) with
    | some (n, places, behind) =>
      let (exponent, behind) := exponentAt 'p' behind
      some (ofDigits p n 2 (exponent - 4 * places), behind)
    | none => decimal
  else decimal

/-! ### Writing -/

/-- A quotient divided by a power of ten and rounded to a whole number. -/
def inUnits (num den : Nat) (power : Int) : Nat :=
  roundDiv (num * Nat.pow 10 (-power).toNat) (den * Nat.pow 10 power.toNat)

/-- The digits of a number with some places behind the point. -/
def fixed (places : Nat) (isMarked : Bool) (num den : Nat) : Octets :=
  let t := Decimal.point places (inUnits num den (-(places : Int)))
  if places = 0 && !isMarked then t.dropLast else t

/-- The power of ten of the first digit. -/
def magnitude (num den : Nat) : Int :=
  let count (n : Nat) : Int := (Octets.inBase 10 n).length
  if num = 0 then 0
  else if den ≤ num then count (num / den) - 1
  else
    let least := (den + num - 1) / num
    if least = Nat.pow 10 (count least - 1).toNat then 1 - count least else -count least

/-- The digits of a number, one of them before the point, and its power of ten. -/
def rounded (places : Nat) (num den : Nat) : Nat × Int :=
  let power := magnitude num den
  let digits := inUnits num den (power - places)
  if digits = Nat.pow 10 (places + 1) then (Nat.pow 10 places, power + 1) else (digits, power)

/-- A power of ten as it is written behind digits. -/
def power (n : Int) : Octets :=
  let digits := Octets.ofInt n.natAbs
  'e' :: (if n < 0 then '-' else '+') :: (if digits.length < 2 then '0' :: digits else digits)

def scientific (places : Nat) (isMarked : Bool) (num den : Nat) : Octets :=
  let (digits, n) := rounded places num den
  let t := Decimal.point places digits
  (if places = 0 && !isMarked then t.dropLast else t) ++ power n

/-- The digits without zeros at the end and without a point that nothing follows. -/
def shortened (t : Octets) : Octets :=
  if '.' ∈ t then
    let t := Text.dropEndWhile (· = '0') t
    if t.getLast? = some '.' then t.dropLast else t
  else t

def general (digits : Nat) (isMarked : Bool) (num den : Nat) : Octets :=
  let digits := max digits 1
  let (ds, n) := rounded (digits - 1) num den
  let tidy (t : Octets) := if isMarked then t else shortened t
  if n < -4 || (digits : Int) ≤ n then
    let t := Decimal.point (digits - 1) ds
    tidy (if digits = 1 && !isMarked then t.dropLast else t) ++ power n
  else tidy (fixed (digits - 1 - n).toNat isMarked num den)

end Real
end StyleSnapshot.Shell.Format
