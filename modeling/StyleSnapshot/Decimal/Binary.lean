/-! Quotients in double precision.

A double is a whole number of 53 bits times a power of two. The numbers here are shares of
counts, far from the ends of the range of exponents, so no limit on the exponent is kept.
Rounding goes to the nearest number, and from a tie to the even one. -/
namespace StyleSnapshot

/-- The whole number nearest to a quotient, the even one of two. -/
def roundDiv (num den : Nat) : Nat :=
  let q := num / den
  let twice := 2 * (num % den)
  if den < twice || (twice = den && q % 2 = 1) then q + 1 else q

/-- The number `mantissa * 2 ^ exponent`. -/
structure Double where
  mantissa : Nat
  exponent : Int
  deriving DecidableEq, Repr

namespace Double

def zero : Double := ⟨0, 0⟩

/-- The least number of 53 bits. -/
def leastMantissa : Nat := 0x10000000000000

/-- A quotient scaled by a power of two, as numerator and denominator. -/
def scaled (num den : Nat) (exponent : Int) : Nat × Nat :=
  (num * Nat.pow 2 exponent.toNat, den * Nat.pow 2 (-exponent).toNat)

/-- The double nearest to a quotient of positive numbers. -/
def ofQuotient (num den : Nat) : Double :=
  if num = 0 || den = 0 then zero
  else
    let guess : Int := (num.log2 : Int) - den.log2 - 52
    let (n, d) := scaled num den (-guess)
    let exponent := if n / d < leastMantissa then guess - 1 else guess
    let (n, d) := scaled num den (-exponent)
    let mantissa := roundDiv n d
    if mantissa = 2 * leastMantissa then ⟨leastMantissa, exponent + 1⟩ else ⟨mantissa, exponent⟩

end Double
end StyleSnapshot
