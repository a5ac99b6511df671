import LedgerSearch.Distinct
import LedgerSearch.Document.Checked
import LedgerSearch.Filter
import LedgerSearch.Operator

/-!
# Drafts of filters

A filter is collected change by change. Words add up, and every other change
replaces what was there; of entities with the same number the first one is kept.
A draft takes any number as an amount, and only a filter made from it requires
amounts to be finite and not below zero.

* `Draft.toFilter_empty`: the empty draft makes the empty filter.
-/

namespace LedgerSearch

open Calendar

/-- One change of a draft. -/
inductive Change where
  | addWord (text : String)
  | sourceAccounts (accounts : List Account)
  | destinationAccounts (accounts : List Account)
  | entities (kind : EntityKind) (entities : List Entity)
  | amount (bound : AmountBound) (value : Numeral)
  | dateRange (range : DateRange)
  | dateBefore (day : Date)
  | dateAfter (day : Date)
  | createdOn (day : Date)
  | updatedOn (day : Date)
  | types (types : List String)
  | externalId (text : String)
  | internalReference (text : String)
  deriving DecidableEq

/-- The constraints collected so far. -/
structure Draft where
  words : List String := []
  sourceAccounts : List Account := []
  destinationAccounts : List Account := []
  categories : List Entity := []
  budgets : List Entity := []
  tags : List Entity := []
  bills : List Entity := []
  amountEquals : Option Numeral := none
  amountMin : Option Numeral := none
  amountMax : Option Numeral := none
  dateRange : Option DateRange := none
  dateBefore : Option Date := none
  dateAfter : Option Date := none
  createdOn : Option Date := none
  updatedOn : Option Date := none
  types : List String := []
  externalId : Option String := none
  internalReference : Option String := none
  deriving DecidableEq

namespace Draft

/-- The draft that constrains nothing. -/
def empty : Draft := {}

/-- The draft after a change. -/
def apply (d : Draft) : Change → Draft
  | .addWord text => { d with words := d.words ++ [text] }
  | .sourceAccounts accounts => { d with sourceAccounts := distinctBy (·.id) accounts }
  | .destinationAccounts accounts => { d with destinationAccounts := distinctBy (·.id) accounts }
  | .entities .category entities => { d with categories := distinctBy (·.id) entities }
  | .entities .budget entities => { d with budgets := distinctBy (·.id) entities }
  | .entities .bill entities => { d with bills := distinctBy (·.id) entities }
  | .entities .tag entities => { d with tags := distinctBy (·.id) entities }
  | .amount .equals value => { d with amountEquals := some value }
  | .amount .atLeast value => { d with amountMin := some value }
  | .amount .atMost value => { d with amountMax := some value }
  | .dateRange range => { d with dateRange := some range }
  | .dateBefore day => { d with dateBefore := some day }
  | .dateAfter day => { d with dateAfter := some day }
  | .createdOn day => { d with createdOn := some day }
  | .updatedOn day => { d with updatedOn := some day }
  | .types types => { d with types := types }
  | .externalId text => { d with externalId := some text }
  | .internalReference text => { d with internalReference := some text }

/-- Expects a finite number that is not below zero. -/
def checkAmount : Numeral → Checked Amount
  | .finite d => if h : d.IsBelowZero then .flaw .tooSmall else .ok ⟨d, h⟩
  | _ => .flaw .notFinite

/-- Expects the amount of a field, if there is one, to be one. -/
def checkAmountField (name : String) : Option Numeral → Checked (Option Amount)
  | none => .ok none
  | some n => some <$> (checkAmount n).under (.field name)

/-- The filter of a draft, or the amounts that are none. -/
def toFilter (d : Draft) : Checked Filter :=
  let withAmounts (equals least most : Option Amount) : Filter :=
    { words := d.words
      sourceAccounts := d.sourceAccounts
      destinationAccounts := d.destinationAccounts
      categories := d.categories
      budgets := d.budgets
      tags := d.tags
      bills := d.bills
      amountEquals := equals
      amountMin := least
      amountMax := most
      dateRange := d.dateRange
      dateBefore := d.dateBefore
      dateAfter := d.dateAfter
      createdOn := d.createdOn
      updatedOn := d.updatedOn
      types := d.types
      externalId := d.externalId
      internalReference := d.internalReference }
  withAmounts <$> checkAmountField "amount_equals" d.amountEquals
    <*> checkAmountField "amount_min" d.amountMin
    <*> checkAmountField "amount_max" d.amountMax

/-- The empty draft makes the empty filter. -/
theorem toFilter_empty : empty.toFilter = .ok Filter.empty := rfl

end Draft

end LedgerSearch
