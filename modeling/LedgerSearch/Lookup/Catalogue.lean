import LedgerSearch.Lookup
import LedgerSearch.Text.Case
import LedgerSearch.Text.Infix

/-!
# Catalogues

A catalogue holds the entities of each kind and answers lookups from them: those
whose names hold the term without regard to case, ordered by name and number, up
to the limit.

* `Catalogue.mem_find`: what is found is in the catalogue and holds the term.
-/

namespace LedgerSearch

/-- The entities of a ledger. -/
structure Catalogue where
  accounts : List Account := []
  categories : List Entity := []
  budgets : List Entity := []
  bills : List Entity := []
  tags : List Entity := []

namespace Catalogue

/-- The entities of a kind. -/
def entitiesOf (c : Catalogue) : EntityKind → List Entity
  | .category => c.categories
  | .budget => c.budgets
  | .bill => c.bills
  | .tag => c.tags

/-- Whether a name holds a term without regard to case. -/
def holds (name term : String) : Bool :=
  Text.isInfix (Text.foldChars term.toList) (Text.foldChars name.toList)

/-- The items up to a limit; a negative limit leaves that many off the end. -/
def upTo {α : Type} (limit : Option Int) (items : List α) : List α :=
  match limit with
  | none => items
  | some n => if n < 0 then items.take (items.length - n.natAbs) else items.take n.toNat

/-- The items whose names hold the term, in order, up to the limit. -/
def find {α : Type} (entity : α → Entity) (items : List α) (term : String)
    (limit : Option Int) : List α :=
  upTo limit <|
    (items.filter fun a => holds (entity a).name term).mergeSort
      fun a b => (entity a).precedes (entity b)

/-- Answers lookups from the catalogue. -/
def resolver (c : Catalogue) : Resolver where
  accounts kinds term limit :=
    .ok (find Account.toEntity (c.accounts.filter (kinds.contains ·.kind)) term limit)
  entities kind term limit := .ok (find id (c.entitiesOf kind) term limit)

theorem mem_of_mem_upTo {α : Type} {limit : Option Int} {items : List α} {x : α}
    (h : x ∈ upTo limit items) : x ∈ items := by
  unfold upTo at h
  split at h
  · exact h
  · split at h <;> exact List.mem_of_mem_take h

/-- What is found is among the items and holds the term. -/
theorem mem_find {α : Type} {entity : α → Entity} {items : List α} {term : String}
    {limit : Option Int} {x : α} (h : x ∈ find entity items term limit) :
    x ∈ items ∧ holds (entity x).name term = true := by
  have := mem_of_mem_upTo h
  rw [List.mem_mergeSort, List.mem_filter] at this
  exact this

end Catalogue

end LedgerSearch
