/-!
# Decimal numbers

A decimal keeps its sign, its coefficient and its exponent as they were written,
so `1.50` and `1.5` are different decimals of the same value. A numeral is a
decimal, an infinity or no number at all.
-/

namespace LedgerSearch

/-- The number `± coefficient · 10 ^ exponent`. -/
structure Decimal where
  negative : Bool
  coefficient : Nat
  exponent : Int
  deriving DecidableEq

namespace Decimal

/-- How many digits the coefficient has; zero has one. -/
def digitCount (d : Decimal) : Nat :=
  (Nat.toDigits 10 d.coefficient).length

/-- The exponent of the most significant digit. -/
def adjusted (d : Decimal) : Int :=
  d.exponent + d.digitCount - 1

/-- The least exponent that a decimal may have. -/
def minExponent : Int := -1999999999999999997

/-- The greatest exponent that a most significant digit may have. -/
def maxAdjusted : Int := 999999999999999999

/-- Whether the exponent lies within the limits of decimals. -/
def InRange (d : Decimal) : Prop :=
  minExponent ≤ d.exponent ∧ d.adjusted ≤ maxAdjusted

instance (d : Decimal) : Decidable d.InRange :=
  inferInstanceAs (Decidable (_ ∧ _))

/-- Whether the number is below zero; the negative zero is not. -/
def IsBelowZero (d : Decimal) : Prop :=
  d.negative = true ∧ d.coefficient ≠ 0

instance (d : Decimal) : Decidable d.IsBelowZero :=
  inferInstanceAs (Decidable (_ ∧ _))

/-- The number that the decimal stands for. -/
def value (d : Decimal) : Rat :=
  let size : Rat :=
    if 0 ≤ d.exponent then (d.coefficient * Nat.pow 10 d.exponent.toNat : Nat)
    else mkRat d.coefficient (Nat.pow 10 (-d.exponent).toNat)
  if d.negative then -size else size

def magnitude (d : Decimal) : Decimal :=
  { d with negative := false }

theorem not_isBelowZero_magnitude (d : Decimal) : ¬ d.magnitude.IsBelowZero := by
  simp [IsBelowZero, magnitude]

end Decimal

/-- What the text of a number may stand for. A number that is not one may carry a payload; zero
stands for none. -/
inductive Numeral where
  | finite (d : Decimal)
  | infinite (negative : Bool)
  | notANumber (negative signalling : Bool) (payload : Nat)
  deriving DecidableEq

/-- A decimal that is not below zero: the size of a sum of money. -/
structure Amount where
  toDecimal : Decimal
  not_isBelowZero : ¬ toDecimal.IsBelowZero
  deriving DecidableEq

def Amount.ofDecimal (d : Decimal) : Amount :=
  ⟨d.magnitude, d.not_isBelowZero_magnitude⟩

end LedgerSearch
