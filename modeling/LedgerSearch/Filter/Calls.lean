import LedgerSearch.Filter.Draft

/-!
# Calls of drafts

A draft is called to add a word, to set a slot or to make a filter. A setter hands
its value on as it stands, and only that of the days makes a range first, which
must not end before it begins. A call that fails leaves the draft as it is.
-/

namespace LedgerSearch

open Calendar

/-- The constraints of a filter, its words apart. -/
inductive Slot where
  | sourceAccounts
  | destinationAccounts
  | categories
  | budgets
  | tags
  | bills
  | amountEquals
  | amountMin
  | amountMax
  | dateRange
  | dateBefore
  | dateAfter
  | createdOn
  | updatedOn
  | types
  | externalId
  | internalReference
  deriving DecidableEq

/-- What the setter of a slot is given. -/
def Slot.Given : Slot → Type
  | sourceAccounts | destinationAccounts => List Account
  | categories | budgets | tags | bills => List Entity
  | amountEquals | amountMin | amountMax => Numeral
  | dateRange => Date × Date
  | dateBefore | dateAfter | createdOn | updatedOn => Date
  | types => List String
  | externalId | internalReference => String

/-- The change that the setter of a slot makes, or why it makes none. -/
def Slot.change : (s : Slot) → s.Given → Except RangeError Change
  | .sourceAccounts, accounts => .ok (.sourceAccounts accounts)
  | .destinationAccounts, accounts => .ok (.destinationAccounts accounts)
  | .categories, found => .ok (.entities .category found)
  | .budgets, found => .ok (.entities .budget found)
  | .tags, found => .ok (.entities .tag found)
  | .bills, found => .ok (.entities .bill found)
  | .amountEquals, n => .ok (.amount .equals n)
  | .amountMin, n => .ok (.amount .atLeast n)
  | .amountMax, n => .ok (.amount .atMost n)
  | .dateRange, (first, last) => (DateRange.between first last).map .dateRange
  | .dateBefore, day => .ok (.dateBefore day)
  | .dateAfter, day => .ok (.dateAfter day)
  | .createdOn, day => .ok (.createdOn day)
  | .updatedOn, day => .ok (.updatedOn day)
  | .types, names => .ok (.types names)
  | .externalId, text => .ok (.externalId text)
  | .internalReference, text => .ok (.internalReference text)

namespace Draft

/-- A call of a draft. -/
inductive Call where
  | addWord (text : String)
  | set (s : Slot) (value : s.Given)
  | snapshot

/-- The answer to a call. -/
inductive Answer where
  | done
  | refused (e : RangeError)
  | filter (f : Filter)
  | invalid (issues : List Issue)

/-- The draft after a call, and the answer. -/
def call (d : Draft) : Call → Draft × Answer
  | .addWord text => (d.apply (.addWord text), .done)
  | .set s value =>
    match s.change value with
    | .ok c => (d.apply c, .done)
    | .error e => (d, .refused e)
  | .snapshot =>
    match d.toFilter with
    | .ok f => (d, .filter f)
    | .issues is => (d, .invalid is)

end Draft

end LedgerSearch
