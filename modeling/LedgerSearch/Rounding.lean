/-!
# Rounding

Exact numbers are rounded to the nearest integer, or to the nearest number that
has so many significant binary digits. What lies half way between two neighbours
goes to the even one or away from zero.
-/

namespace LedgerSearch.Rounding

/-! ## Integers -/

/-- The nearest integer; half way between two integers, the even one. -/
def toEven (x : Rat) : Int :=
  let twiceRest := 2 * (x - x.floor)
  if twiceRest < 1 ∨ twiceRest = 1 ∧ x.floor % 2 = 0 then x.floor else x.floor + 1

/-- The nearest integer; half way between two integers, the one farther from zero. -/
def awayFromZero (x : Rat) : Int :=
  if x < 0 then (x - 1 / 2).ceil else (x + 1 / 2).floor

/-! ## Binary digits -/

def powerOfTwo (e : Int) : Rat :=
  if 0 ≤ e then (1 <<< e.toNat : Nat) else mkRat 1 (1 <<< (-e).toNat)

/-- The exponent of the leading binary digit of a number other than zero. The lengths of numerator
and denominator tell it up to one. -/
def leadingExponent (x : Rat) : Int :=
  let e : Int := x.num.natAbs.log2 - x.den.log2
  if x.abs < powerOfTwo e then e - 1 else e

/-- The value of the last digit, if so many are significant. -/
def lastUnit (digits : Nat) (x : Rat) : Rat :=
  powerOfTwo (leadingExponent x - digits + 1)

/-- The nearest number with so many significant binary digits; half way between two of them, the one
whose last digit is even. -/
def toBinary (digits : Nat) (x : Rat) : Rat :=
  let unit := lastUnit digits x
  toEven (x / unit) * unit

end LedgerSearch.Rounding
