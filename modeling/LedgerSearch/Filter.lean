import LedgerSearch.Calendar.Date
import LedgerSearch.Decimal
import LedgerSearch.Entity

/-!
# Filters

What a transaction has to satisfy to be found. Every constraint is optional, and
a transaction has to satisfy all that are set: it holds each of the words, refers
to one of the entities of each list that is not empty, and so on.
-/

namespace LedgerSearch

open Calendar

/-- The days from a first to a last one. -/
structure DateRange where
  first : Date
  last : Date
  first_le_last : first ≤ last
  deriving DecidableEq

/-- Why two days make no range. -/
inductive RangeError where
  | reversed
  deriving DecidableEq

/-- The wording of a range error. -/
def RangeError.message : RangeError → String
  | .reversed => "start_date must be <= end_date"

/-- The range between two days. -/
def DateRange.between (first last : Date) : Except RangeError DateRange :=
  if h : first ≤ last then .ok ⟨first, last, h⟩ else .error .reversed

/-- The range of one day. -/
def DateRange.single (day : Date) : DateRange :=
  ⟨day, day, Nat.le_refl _⟩

/-- The constraints of a search. -/
structure Filter where
  words : List String := []
  sourceAccounts : List Account := []
  destinationAccounts : List Account := []
  categories : List Entity := []
  budgets : List Entity := []
  tags : List Entity := []
  bills : List Entity := []
  amountEquals : Option Amount := none
  amountMin : Option Amount := none
  amountMax : Option Amount := none
  dateRange : Option DateRange := none
  dateBefore : Option Date := none
  dateAfter : Option Date := none
  createdOn : Option Date := none
  updatedOn : Option Date := none
  types : List String := []
  externalId : Option String := none
  internalReference : Option String := none
  deriving DecidableEq

/-- The filter that constrains nothing. -/
def Filter.empty : Filter := {}

/-- Whether a filter constrains nothing. -/
def Filter.isEmpty (f : Filter) : Bool :=
  f == Filter.empty

theorem Filter.isEmpty_iff {f : Filter} : f.isEmpty = true ↔ f = Filter.empty :=
  beq_iff_eq

end LedgerSearch
