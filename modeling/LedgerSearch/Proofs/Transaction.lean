import Mathlib.Algebra.Order.Ring.Rat
import LedgerSearch.Filter
import LedgerSearch.Proofs.Calendar.Instant

/-!
# What a filter means for a transaction

A transaction satisfies a filter when it satisfies each of its constraints. This
says nothing of statements and their texts: an amount counts with its size, a
point in time with its day in universal time, and characters are compared
through a fold.
-/

namespace LedgerSearch

open Calendar

/-- A transaction as it is stored. It may refer to no entity, and have no texts of its own. -/
structure Transaction where
  id : Int
  date : Instant
  description : String
  amount : Rat
  type : String
  sourceAccount : Option Int
  destinationAccount : Option Int
  category : Option Int
  budget : Option Int
  bill : Option Int
  externalId : Option String
  internalReference : Option String
  createdAt : Instant
  updatedAt : Instant

/-- A transaction has a tag. -/
structure TagLink where
  transaction : Int
  tag : Int
  deriving DecidableEq

/-- The key is one of these entities', if there are any. -/
def RefersTo (ids : List Int) (key : Option Int) : Prop :=
  ids ≠ [] → ∃ id ∈ ids, key = some id

/-- The transaction satisfies the filter, given the tags of all transactions. -/
structure Filter.Accepts (fold : Char → Char) (links : List TagLink) (f : Filter)
    (t : Transaction) : Prop where
  words : ∀ word ∈ f.words, word.toList.map fold <:+: t.description.toList.map fold
  sourceAccounts : RefersTo (f.sourceAccounts.map (·.id)) t.sourceAccount
  destinationAccounts : RefersTo (f.destinationAccounts.map (·.id)) t.destinationAccount
  categories : RefersTo (f.categories.map (·.id)) t.category
  budgets : RefersTo (f.budgets.map (·.id)) t.budget
  bills : RefersTo (f.bills.map (·.id)) t.bill
  tags : f.tags ≠ [] → ∃ tag ∈ f.tags, ⟨t.id, tag.id⟩ ∈ links
  amountEquals : ∀ a ∈ f.amountEquals, |t.amount| = a.toDecimal.value
  amountMin : ∀ a ∈ f.amountMin, a.toDecimal.value ≤ |t.amount|
  amountMax : ∀ a ∈ f.amountMax, |t.amount| ≤ a.toDecimal.value
  dateRange : ∀ range ∈ f.dateRange, (range.first.dayNumber : Int) ≤ t.date.dayNumber ∧
    t.date.dayNumber ≤ range.last.dayNumber
  dateBefore : ∀ day ∈ f.dateBefore, t.date.dayNumber ≤ day.dayNumber
  dateAfter : ∀ day ∈ f.dateAfter, (day.dayNumber : Int) ≤ t.date.dayNumber
  createdOn : ∀ day ∈ f.createdOn, t.createdAt.dayNumber = day.dayNumber
  updatedOn : ∀ day ∈ f.updatedOn, t.updatedAt.dayNumber = day.dayNumber
  types : f.types ≠ [] → t.type ∈ f.types
  externalId : ∀ s ∈ f.externalId, t.externalId = some s
  internalReference : ∀ s ∈ f.internalReference, t.internalReference = some s

end LedgerSearch
