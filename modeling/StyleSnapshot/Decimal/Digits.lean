import StyleSnapshot.Decimal.Binary
import StyleSnapshot.Text.Basic

/-! Doubles in decimal.

The short form has the fewest digits that still read back as the same double: for one
digit, two digits and so on the two neighbours of the number on that decimal grid are
tried, and the first grid with a neighbour closer to this double than to any other wins.
The fixed form has one digit behind the point, rounded from the exact binary value. -/
namespace StyleSnapshot

/-- The number `digits * 10 ^ exponent`. -/
structure Decimal where
  digits : Nat
  exponent : Int
  deriving DecidableEq, Repr

namespace Decimal

/-- The last `places` of a row of digits behind a point. -/
def point (places digits : Nat) : Text :=
  let all := Text.ofNat digits
  let padded := List.replicate (places + 1 - all.length) '0' ++ all
  let whole := padded.length - places
  padded.take whole ++ '.' :: padded.drop whole

/-- A decimal written out, with at least one digit behind the point. -/
def toText (d : Decimal) : Text :=
  if 0 ≤ d.exponent then point 1 (d.digits * Nat.pow 10 d.exponent.toNat * 10)
  else point (-d.exponent).toNat d.digits

end Decimal

namespace Double

/-- Whether the decimal lies among the numbers that round to the double. Distances are
in quarters of the mantissa's unit, since below a power of two the gap is half as wide. -/
def readsBack (x : Double) (d : Decimal) : Bool :=
  let low := if x.mantissa = leastMantissa then 4 * x.mantissa - 1 else 4 * x.mantissa - 2
  let high := 4 * x.mantissa + 2
  let unit := x.exponent - 2
  let value := d.digits * Nat.pow 10 d.exponent.toNat * Nat.pow 2 (-unit).toNat
  let scale := Nat.pow 2 unit.toNat * Nat.pow 10 (-d.exponent).toNat
  if x.mantissa % 2 = 0 then low * scale ≤ value && value ≤ high * scale
  else low * scale < value && value < high * scale

/-- The double divided by a power of ten, as numerator and denominator. -/
def dividedBy (x : Double) (exponent : Int) : Nat × Nat :=
  (x.mantissa * Nat.pow 2 x.exponent.toNat * Nat.pow 10 (-exponent).toNat,
    Nat.pow 2 (-x.exponent).toNat * Nat.pow 10 exponent.toNat)

/-- The number of digits before the point, at most the given one. -/
def wholeDigits (x : Double) : Nat → Nat
  | 0 => 0
  | n + 1 =>
    let (num, den) := dividedBy x n
    if den ≤ num then n + 1 else wholeDigits x n

/-- The digits below the point that are zero before the first that is not, at most the
given number. -/
def leadingZeros (x : Double) : Nat → Nat
  | 0 => 0
  | n + 1 =>
    let (num, den) := dividedBy x (-1)
    if den ≤ num then 0 else leadingZeros ⟨x.mantissa * 10, x.exponent⟩ n + 1

/-- The power of ten of the last of `count` digits. -/
def lastPlace (x : Double) (count : Nat) : Int :=
  let whole := wholeDigits x 20
  (if whole = 0 then -(leadingZeros x 20 : Int) else whole) - count

/-- The neighbour on the grid of `count` digits that reads back, the nearer one of two. -/
def neighbour? (x : Double) (count : Nat) : Option Decimal :=
  let place := lastPlace x count
  let (num, den) := dividedBy x place
  let below : Decimal := ⟨num / den, place⟩
  let above : Decimal := ⟨num / den + 1, place⟩
  match readsBack x below, readsBack x above with
  | true, true => if roundDiv num den = num / den then some below else some above
  | true, false => some below
  | false, true => some above
  | false, false => none

/-- The shortest decimal that reads back; seventeen digits always do. -/
def shortest (x : Double) : Decimal :=
  if x.mantissa = 0 then ⟨0, 0⟩
  else ((List.range 17).findSome? fun n => neighbour? x (n + 1)).getD ⟨0, 0⟩

/-- The short form. -/
def toText (x : Double) : Text := (shortest x).toText

/-- The form with one digit behind the point. -/
def toTenths (x : Double) : Text :=
  let (num, den) := dividedBy x (-1)
  Decimal.point 1 (roundDiv num den)

end Double
end StyleSnapshot
