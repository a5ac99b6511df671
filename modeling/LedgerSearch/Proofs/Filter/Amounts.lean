import Mathlib.Algebra.Order.Ring.Rat
import LedgerSearch.Proofs.Interpretation.Slot

/-!
# Amounts of drafts

A draft takes any numeral as an amount, and a filter only those that are finite
and not below zero. All others are reported together, one issue for each field, and
they are the only reason for a draft to make no filter.

* `Decimal.isBelowZero_iff`: the sign of a decimal is that of its value.
* `Numeral.IsAmount.exists_amount`: an amount is kept as it was written.
* `Draft.toFilter_cases`: a draft makes a filter, or it has the issues of its amounts.
-/

namespace LedgerSearch

/-- The field of an amount. -/
def AmountBound.field : AmountBound → String
  | .equals => "amount_equals"
  | .atLeast => "amount_min"
  | .atMost => "amount_max"

/-- Whether a numeral is finite and not below zero. -/
def Numeral.IsAmount : Numeral → Prop
  | .finite d => 0 ≤ d.value
  | .infinite _ | .notANumber .. => False

/-- What is wrong with a numeral as an amount, if anything is. -/
def Numeral.flaw? : Numeral → Option Flaw
  | .finite d => if d.value < 0 then some .tooSmall else none
  | .infinite _ | .notANumber .. => some .notFinite

/-- A decimal has a size, which its sign is put before. -/
theorem Decimal.exists_value_eq (d : Decimal) :
    ∃ size : Rat, 0 ≤ size ∧ (size = 0 ↔ d.coefficient = 0) ∧
      d.value = if d.negative then -size else size := by
  have hpow (n : Nat) : Nat.pow 10 n ≠ 0 := Nat.pos_iff_ne_zero.mp (Nat.pow_pos (by decide))
  by_cases he : 0 ≤ d.exponent
  · refine ⟨(d.coefficient * Nat.pow 10 d.exponent.toNat : Nat), Rat.natCast_nonneg, ?_, ?_⟩
    · rw [Nat.cast_eq_zero, Nat.mul_eq_zero]
      exact or_iff_left (hpow _)
    · simp only [value, he, if_true]
  · refine ⟨mkRat d.coefficient (Nat.pow 10 (-d.exponent).toNat), ?_, ?_, ?_⟩
    · exact Rat.mkRat_nonneg (Int.natCast_nonneg _) _
    · rw [Rat.mkRat_eq_zero (hpow _), Int.natCast_eq_zero]
    · simp only [value, he, if_false]

/-- A decimal is below zero if its value is. -/
theorem Decimal.isBelowZero_iff {d : Decimal} : d.IsBelowZero ↔ d.value < 0 := by
  obtain ⟨size, hnonneg, hzero, hvalue⟩ := d.exists_value_eq
  rw [hvalue, IsBelowZero]
  cases d.negative with
  | false => simpa using hnonneg
  | true =>
    simp only [true_and, if_true, Left.neg_neg_iff, ne_eq, ← hzero]
    exact ⟨fun h => lt_of_le_of_ne hnonneg (Ne.symm h), ne_of_gt⟩

theorem Numeral.flaw?_eq_none_iff {n : Numeral} : n.flaw? = none ↔ n.IsAmount := by
  cases n with
  | finite d =>
    simp only [flaw?, IsAmount]
    split
    · rename_i h
      exact iff_of_false nofun (not_le.mpr h)
    · rename_i h
      exact iff_of_true rfl (not_lt.mp h)
  | infinite => exact iff_of_false nofun id
  | notANumber => exact iff_of_false nofun id

/-- A numeral that is an amount makes one of the same writing. -/
theorem Numeral.IsAmount.exists_amount {n : Numeral} (h : n.IsAmount) :
    ∃ a : Amount, Draft.amountOf? n = some a ∧ n = .finite a.toDecimal := by
  cases n with
  | finite d =>
    have hd : ¬ d.IsBelowZero := fun hbelow => not_lt.mpr h (Decimal.isBelowZero_iff.mp hbelow)
    exact ⟨⟨d, hd⟩, dif_neg hd, rfl⟩
  | infinite => exact h.elim
  | notANumber => exact h.elim

namespace Draft

/-- The amount of a draft, whether a filter takes it or not. -/
def number (d : Draft) : AmountBound → Option Numeral
  | .equals => d.amountEquals
  | .atLeast => d.amountMin
  | .atMost => d.amountMax

/-- The issues of amounts, one for each that a filter does not take. -/
def amountIssues (amounts : AmountBound → Option Numeral) : List Issue :=
  [AmountBound.equals, .atLeast, .atMost].filterMap fun bound =>
    ((amounts bound).bind Numeral.flaw?).map fun flaw => ⟨[.field bound.field], flaw⟩

theorem checkAmountField_eq (name : String) (n : Option Numeral) :
    checkAmountField name n =
      match n.bind Numeral.flaw? with
      | none => .ok (n.bind amountOf?)
      | some flaw => .issues [⟨[.field name], flaw⟩] := by
  cases n with
  | none => rfl
  | some n =>
    cases n with
    | finite d =>
      by_cases hd : d.IsBelowZero
      · simp only [checkAmountField, checkAmount, Option.bind_some, Numeral.flaw?, dif_pos hd,
          if_pos (Decimal.isBelowZero_iff.mp hd)]
        rfl
      · simp only [checkAmountField, checkAmount, Option.bind_some, Numeral.flaw?, amountOf?,
          dif_neg hd, if_neg (mt Decimal.isBelowZero_iff.mpr hd)]
        rfl
    | infinite => rfl
    | notANumber => rfl

/-- A draft makes a filter, or it has the issues of its amounts. -/
theorem toFilter_cases (d : Draft) :
    (amountIssues d.number = [] ∧ ∃ f, d.toFilter = .ok f) ∨
      (amountIssues d.number ≠ [] ∧ d.toFilter = .issues (amountIssues d.number)) := by
  unfold toFilter amountIssues
  simp only [checkAmountField_eq, number, List.filterMap_cons, List.filterMap_nil]
  cases d.amountEquals.bind Numeral.flaw? <;> cases d.amountMin.bind Numeral.flaw? <;>
    cases d.amountMax.bind Numeral.flaw?
  case none.none.none => exact .inl ⟨rfl, _, rfl⟩
  all_goals exact .inr ⟨List.cons_ne_nil _ _, rfl⟩

theorem amountIssues_eq_nil_iff {amounts : AmountBound → Option Numeral} :
    amountIssues amounts = [] ↔ ∀ bound, ∀ n ∈ amounts bound, n.IsAmount := by
  simp only [amountIssues, List.filterMap_eq_nil_iff, Option.map_eq_none_iff,
    Option.bind_eq_none_iff, Numeral.flaw?_eq_none_iff]
  constructor
  · intro h bound
    exact h bound (by cases bound <;> simp)
  · intro h bound _
    exact h bound

end Draft

end LedgerSearch
