import Mathlib.Tactic.Ring
import LedgerSearch.Proofs.Decimal.Printing

/-!
# Numbers and their digits

The digits of a number say how large it can be, and the number says which its digits
are, zeros in front apart. A digit of any script has a value below ten.

* `numberOfDigits_append`: digits that follow a number move it up by as many places.
* `numberOfDigits_lt`: the bound on a number of so many digits.
* `toDigits_numberOfDigits`: the digits of a number are those it was written with.
* `asciiNumber_take_drop`: cutting a number into two parts divides it by a power of ten.
-/

namespace LedgerSearch.Text

/-! ## Values -/

theorem digitValue?_lt {c : Char} {d : Nat} (h : digitValue? c = some d) : d < 10 := by
  unfold digitValue? at h
  dsimp only at h
  split at h
  · split at h
    · rename_i hdigit
      obtain ⟨-, hhigh⟩ := toNat_of_isDigit hdigit
      cases h
      omega
    · cases h
  · obtain ⟨z, hz, rfl⟩ := Option.map_eq_some_iff.mp h
    have hrun := List.find?_some hz
    simp only [Bool.and_eq_true, decide_eq_true_eq] at hrun
    omega

theorem isDigit_digitChar {d : Nat} (h : d < 10) : d.digitChar.isDigit = true := by
  have hcode : d.digitChar.toNat = 48 + d := Nat.toNat_digitChar_of_lt_ten h
  refine Char.isDigit_iff_toNat.mpr ⟨?_, ?_⟩
  · change 48 ≤ _
    omega
  · change _ ≤ 57
    omega

/-! ## Numbers -/

theorem foldl_digits (n : Nat) (ds : List Nat) :
    ds.foldl (fun n d => 10 * n + d) n = n * 10 ^ ds.length + numberOfDigits ds := by
  induction ds generalizing n with
  | nil => simp
  | cons d ds ih =>
    have hfirst : numberOfDigits (d :: ds) = d * 10 ^ ds.length + numberOfDigits ds := by
      rw [numberOfDigits, List.foldl_cons, ih, Nat.mul_zero, Nat.zero_add]
    rw [List.foldl_cons, ih, hfirst, List.length_cons, Nat.pow_succ]
    ring

/-- Digits that follow a number move it up by as many places. -/
theorem numberOfDigits_append (as bs : List Nat) :
    numberOfDigits (as ++ bs) = numberOfDigits as * 10 ^ bs.length + numberOfDigits bs := by
  rw [numberOfDigits, List.foldl_append, foldl_digits]
  rfl

theorem numberOfDigits_cons (d : Nat) (ds : List Nat) :
    numberOfDigits (d :: ds) = d * 10 ^ ds.length + numberOfDigits ds := by
  rw [numberOfDigits, List.foldl_cons, Nat.mul_zero, Nat.zero_add, foldl_digits]

/-- A number is less than the first one with more digits. -/
theorem numberOfDigits_lt {ds : List Nat} (h : ∀ d ∈ ds, d < 10) :
    numberOfDigits ds < 10 ^ ds.length := by
  induction ds with
  | nil => decide
  | cons d ds ih =>
    obtain ⟨hd, hds⟩ := List.forall_mem_cons.mp h
    calc numberOfDigits (d :: ds)
        = d * 10 ^ ds.length + numberOfDigits ds := numberOfDigits_cons d ds
      _ < d * 10 ^ ds.length + 10 ^ ds.length := Nat.add_lt_add_left (ih hds) _
      _ = (d + 1) * 10 ^ ds.length := (Nat.succ_mul _ _).symm
      _ ≤ 10 * 10 ^ ds.length := Nat.mul_le_mul_right _ hd
      _ = 10 ^ (d :: ds).length := by rw [List.length_cons, Nat.pow_succ, Nat.mul_comm]

theorem toDigits_foldl {n : Nat} {ds : List Nat} (hn : 0 < n) (hds : ∀ d ∈ ds, d < 10) :
    Nat.toDigits 10 (ds.foldl (fun n d => 10 * n + d) n) =
      Nat.toDigits 10 n ++ ds.map Nat.digitChar := by
  induction ds generalizing n with
  | nil => simp
  | cons d ds ih =>
    obtain ⟨hd, hds⟩ := List.forall_mem_cons.mp hds
    rw [List.foldl_cons, ih (by omega) hds, ← Nat.toDigits_append_toDigits (by decide) hn hd,
      Nat.toDigits_of_lt_base hd, List.append_assoc, List.map_cons, List.singleton_append]

/-- The digits without the zeros in front of them; the last digit is kept. -/
def withoutLeadingZeros : List Nat → List Nat
  | 0 :: d :: ds => withoutLeadingZeros (d :: ds)
  | ds => ds

/-- The digits of a number are those it was written with, zeros in front left out. -/
theorem toDigits_numberOfDigits {ds : List Nat} (hne : ds ≠ []) (hds : ∀ d ∈ ds, d < 10) :
    Nat.toDigits 10 (numberOfDigits ds) = (withoutLeadingZeros ds).map Nat.digitChar := by
  fun_induction withoutLeadingZeros ds with
  | case1 d ds ih =>
    have hzero : numberOfDigits (0 :: d :: ds) = numberOfDigits (d :: ds) := rfl
    rw [hzero]
    exact ih (List.cons_ne_nil _ _) fun e he => hds e (List.mem_cons_of_mem _ he)
  | case2 ds hfirst =>
    obtain ⟨d, ds, rfl⟩ := List.exists_cons_of_ne_nil hne
    obtain ⟨hd, hds⟩ := List.forall_mem_cons.mp hds
    rw [numberOfDigits, List.foldl_cons, Nat.mul_zero, Nat.zero_add, List.map_cons]
    cases ds with
    | nil => exact Nat.toDigits_of_lt_base hd
    | cons e es =>
      -- Only a lone digit may be zero here.
      have hpos : 0 < d := by
        rcases Nat.eq_zero_or_pos d with rfl | hpos
        · exact absurd rfl (hfirst e es)
        · exact hpos
      rw [toDigits_foldl hpos hds, Nat.toDigits_of_lt_base hd, List.singleton_append]

end LedgerSearch.Text

namespace LedgerSearch.Numeral

open Text

/-! ## Numbers of ASCII digits -/

theorem asciiNumber_append (as bs : List Char) :
    asciiNumber (as ++ bs) = asciiNumber as * 10 ^ bs.length + asciiNumber bs := by
  rw [asciiNumber, List.map_append, numberOfDigits_append, List.length_map]
  rfl

theorem asciiNumber_lt {cs : List Char} (h : ∀ c ∈ cs, c.isDigit = true) :
    asciiNumber cs < 10 ^ cs.length := by
  have hvalues : ∀ d ∈ cs.map fun c => c.toNat - 0x30, d < 10 := by
    rw [List.forall_mem_map]
    intro c hc
    obtain ⟨-, hhigh⟩ := toNat_of_isDigit (h c hc)
    omega
  have hlt := numberOfDigits_lt hvalues
  rwa [List.length_map] at hlt

/-- The two parts of a number are its quotient and its remainder. -/
theorem asciiNumber_take_drop {cs : List Char} (h : ∀ c ∈ cs, c.isDigit = true) (k : Nat) :
    asciiNumber (cs.take k) = asciiNumber cs / 10 ^ (cs.length - k) ∧
      asciiNumber (cs.drop k) = asciiNumber cs % 10 ^ (cs.length - k) := by
  have hlt : asciiNumber (cs.drop k) < 10 ^ (cs.drop k).length :=
    asciiNumber_lt fun c hc => h c (List.mem_of_mem_drop hc)
  have happend := asciiNumber_append (cs.take k) (cs.drop k)
  rw [List.take_append_drop, List.length_drop, Nat.mul_comm] at happend
  rw [List.length_drop] at hlt
  have hpos : 0 < 10 ^ (cs.length - k) := Nat.pow_pos (by decide)
  rw [happend]
  constructor
  · rw [Nat.mul_add_div hpos, Nat.div_eq_of_lt hlt, Nat.add_zero]
  · rw [Nat.mul_add_mod, Nat.mod_eq_of_lt hlt]

end LedgerSearch.Numeral
