/-!
# First occurrences

A list without the items whose key an earlier item has.

* `distinctBy_sublist`, `mem_of_mem_distinctBy`: no item is new, and their order is kept.
* `mem_distinct`: no item is lost when the items are their own keys.
* `distinctBy_nodup`: the keys that remain do not repeat.
-/

namespace LedgerSearch

variable {α κ : Type} [DecidableEq κ]

/-- The items whose key no earlier item has, in order. -/
def distinctBy (key : α → κ) : List α → List α
  | [] => []
  | a :: as => a :: (distinctBy key as).filter (key · ≠ key a)

theorem distinctBy_sublist (key : α → κ) (l : List α) : (distinctBy key l).Sublist l := by
  induction l with
  | nil => exact List.Sublist.refl []
  | cons a as ih => exact (List.filter_sublist.trans ih).cons_cons a

theorem mem_of_mem_distinctBy {key : α → κ} {l : List α} {x : α} (h : x ∈ distinctBy key l) :
    x ∈ l :=
  (distinctBy_sublist key l).subset h

theorem mem_distinct {l : List κ} {x : κ} : x ∈ distinctBy id l ↔ x ∈ l := by
  refine ⟨mem_of_mem_distinctBy, fun h => ?_⟩
  induction l with
  | nil => cases h
  | cons a as ih =>
    rw [distinctBy, List.mem_cons]
    by_cases hx : x = a
    · exact Or.inl hx
    · refine Or.inr (List.mem_filter.mpr ⟨ih ?_, by simpa using hx⟩)
      exact (List.mem_cons.mp h).resolve_left hx

theorem distinctBy_nodup (key : α → κ) (l : List α) : ((distinctBy key l).map key).Nodup := by
  induction l with
  | nil => simp [distinctBy]
  | cons a as ih =>
    rw [distinctBy, List.map_cons, List.nodup_cons]
    refine ⟨?_, ih.sublist (List.Sublist.map key List.filter_sublist)⟩
    simp [List.mem_map, List.mem_filter]

theorem distinct_nodup (l : List κ) : (distinctBy id l).Nodup := by
  simpa using distinctBy_nodup id l

end LedgerSearch
