import Mathlib.Data.List.Basic
import LedgerSearch.Distinct

/-!
# First occurrences in a list

Dropping repeats leaves of each item its first occurrence. That can be done before
or after the items are mapped without loss or those of a kind are taken out.

* `distinctBy_eq_firstOccurrences`: what is left when repeats are dropped.
* `map_distinct`, `filter_distinct`: mapping and filtering.
-/

namespace LedgerSearch

/-- The items whose key no item before them has. -/
def firstOccurrences {α κ : Type} [DecidableEq κ] (key : α → κ) (l : List α) : List α :=
  (l.zipIdx.filter fun (a, i) => key a ∉ (l.take i).map key).map Prod.fst

theorem distinctBy_eq_firstOccurrences {α κ : Type} [DecidableEq κ] (key : α → κ) (l : List α) :
    distinctBy key l = firstOccurrences key l := by
  unfold firstOccurrences
  induction l with
  | nil => rfl
  | cons a as ih =>
    rw [distinctBy, ih, List.zipIdx_cons', List.filter_cons_of_pos (by simp), List.map_cons,
      List.filter_map, List.filter_map, List.map_map, List.filter_filter]
    simp [Function.comp_def]

theorem filter_distinct {α : Type} [DecidableEq α] (p : α → Bool) (l : List α) :
    (distinctBy id l).filter p = distinctBy id (l.filter p) := by
  induction l with
  | nil => rfl
  | cons a as ih =>
    rw [distinctBy, List.filter_cons, List.filter_cons]
    by_cases ha : p a = true
    · rw [if_pos ha, if_pos ha, distinctBy, ← ih, List.filter_filter, List.filter_filter]
      simp only [Bool.and_comm]
    · -- What is taken out with the first item would not have stayed.
      rw [if_neg ha, if_neg ha, ← ih, List.filter_filter]
      refine List.filter_congr fun b _ => ?_
      by_cases hb : b = a
      · simp [hb, ha]
      · simp [hb]

theorem map_distinct {α β : Type} [DecidableEq α] [DecidableEq β] {f : α → β}
    (hf : Function.Injective f) (l : List α) :
    (distinctBy id l).map f = distinctBy id (l.map f) := by
  induction l with
  | nil => rfl
  | cons a as ih =>
    rw [distinctBy, List.map_cons, List.map_cons, distinctBy, ← ih, List.filter_map]
    simp [Function.comp_def, hf.eq_iff]

end LedgerSearch
