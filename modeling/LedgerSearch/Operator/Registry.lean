import LedgerSearch.Operator
import LedgerSearch.Distinct

/-!
# Registries of operators

A registry holds the operators that a search accepts, in order and without
repeats. It can only be narrowed, by the names to keep.

* `names_nodup`: no name is repeated.
* `mem_operators_of_get?`, `get?_name`: what is found stands in the registry under its
  name, and what stands there is found.
* `get?_eq_none_iff`: what is not found is not registered.
-/

namespace LedgerSearch

/-- The operators that a search accepts. -/
structure Registry where
  operators : List Operator
  nodup : operators.Nodup
  deriving DecidableEq

/-- Why a registry cannot be narrowed. -/
inductive RegistryError where
  /-- These names are not registered. -/
  | unknownOperators (names : List String)
  deriving DecidableEq

/-- The wording of a registry error. -/
def RegistryError.message : RegistryError → String
  | .unknownOperators names => "unknown search operator(s): " ++ ", ".intercalate names

namespace Registry

/-- The registry of all operators. -/
def full : Registry :=
  ⟨Operator.all, Operator.all_nodup⟩

/-- The operator registered under a name. -/
def get? (r : Registry) (name : String) : Option Operator :=
  r.operators.find? (·.name == name)

/-- Whether an operator is registered under a name. -/
def contains (r : Registry) (name : String) : Bool :=
  r.operators.any (·.name == name)

/-- The names of the registered operators, in order. -/
def names (r : Registry) : List String :=
  r.operators.map (·.name)

/-- The number of registered operators. -/
def size (r : Registry) : Nat :=
  r.operators.length

/-- The registry narrowed to the given names, in their order. Every name has to be registered. -/
def restrict (r : Registry) (names : List String) : Except RegistryError Registry :=
  match (distinctBy id names).filter (!r.contains ·) with
  | [] => .ok ⟨distinctBy id (names.filterMap r.get?), distinct_nodup _⟩
  | unknown => .error (.unknownOperators unknown)

theorem names_nodup (r : Registry) : r.names.Nodup :=
  List.Pairwise.map _ (fun _ _ hne h => hne (Operator.name_injective h)) r.nodup

theorem mem_operators_of_get? {r : Registry} {name : String} {op : Operator}
    (h : r.get? name = some op) : op ∈ r.operators ∧ op.name = name :=
  ⟨List.mem_of_find?_eq_some h, by simpa using List.find?_some h⟩

theorem get?_eq_none_iff {r : Registry} {name : String} : r.get? name = none ↔ name ∉ r.names := by
  simp only [get?, names, List.find?_eq_none, List.mem_map, beq_iff_eq, not_exists, not_and]

theorem get?_name {r : Registry} {op : Operator} (h : op ∈ r.operators) :
    r.get? op.name = some op := by
  cases hget : r.get? op.name with
  | none => exact absurd (List.mem_map_of_mem h) (get?_eq_none_iff.mp hget)
  | some found => rw [Operator.name_injective (mem_operators_of_get? hget).2]

end Registry

end LedgerSearch
