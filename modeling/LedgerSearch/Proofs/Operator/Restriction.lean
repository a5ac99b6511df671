import LedgerSearch.Operator.Registry

/-!
# Narrowed registries

A registry can be narrowed to names that are all registered, in any order and
with repeats. The narrowed one knows these names and no other, and each of them
stands for the same operator as before.

* `exists_restrict_iff`: when a registry can be narrowed.
* `get?_restrict`: what is found in a narrowed registry.
-/

namespace LedgerSearch.Registry

theorem contains_iff {r : Registry} {name : String} : r.contains name = true ↔ name ∈ r.names := by
  simp only [contains, names, List.any_eq_true, List.mem_map, beq_iff_eq]

theorem get?_eq_some_iff {r : Registry} {name : String} {op : Operator} :
    r.get? name = some op ↔ op ∈ r.operators ∧ op.name = name := by
  constructor
  · exact mem_operators_of_get?
  · rintro ⟨hmem, rfl⟩
    exact get?_name hmem

theorem restrict_eq_ok_iff {r narrowed : Registry} {names : List String} :
    r.restrict names = .ok narrowed ↔
      (∀ name ∈ names, name ∈ r.names) ∧
        narrowed.operators = distinctBy id (names.filterMap r.get?) := by
  have hunknown : (distinctBy id names).filter (!r.contains ·) = [] ↔
      ∀ name ∈ names, name ∈ r.names := by
    simp only [List.filter_eq_nil_iff, mem_distinct, Bool.not_eq_true, Bool.not_eq_false',
      contains_iff]
  rw [← hunknown]
  simp only [restrict]
  cases (distinctBy id names).filter (!r.contains ·) with
  | nil =>
    rw [and_iff_right rfl]
    constructor
    · intro h
      cases h
      rfl
    · intro h
      cases narrowed
      cases h
      rfl
  | cons name unknown =>
    constructor
    · intro h
      cases h
    · rintro ⟨h, -⟩
      cases h

theorem exists_restrict_iff {r : Registry} {names : List String} :
    (∃ narrowed, r.restrict names = .ok narrowed) ↔ ∀ name ∈ names, name ∈ r.names := by
  constructor
  · rintro ⟨narrowed, h⟩
    exact (restrict_eq_ok_iff.mp h).1
  · intro h
    exact ⟨⟨_, distinct_nodup _⟩, restrict_eq_ok_iff.mpr ⟨h, rfl⟩⟩

/-- A narrowed registry knows the names it was narrowed to, as before, and no other. -/
theorem get?_restrict {r narrowed : Registry} {names : List String}
    (h : r.restrict names = .ok narrowed) (name : String) :
    narrowed.get? name = if name ∈ names then r.get? name else none := by
  have hmem : ∀ op, op ∈ narrowed.operators ↔ ∃ n ∈ names, r.get? n = some op := by
    intro op
    rw [(restrict_eq_ok_iff.mp h).2, mem_distinct, List.mem_filterMap]
  ext op
  rw [get?_eq_some_iff, hmem]
  constructor
  · rintro ⟨⟨n, hn, hop⟩, rfl⟩
    rw [(get?_eq_some_iff.mp hop).2, if_pos hn, hop]
  · intro hop
    split at hop
    · rename_i hname
      exact ⟨⟨name, hname, hop⟩, (get?_eq_some_iff.mp hop).2⟩
    · cases hop

end LedgerSearch.Registry
