import LedgerSearch.Calendar.Moment
import LedgerSearch.Decimal.Notation
import LedgerSearch.Document.Checked
import LedgerSearch.Filter.Draft

/-!
# Filters as documents

A filter is written as an object with a field for each constraint that is set, in
a fixed order. Amounts and days are texts, entities and ranges are objects. A
document is read back with all its parts checked; a constraint without a field,
and an optional one whose field holds nothing, is not set.
-/

namespace LedgerSearch

open Calendar

/-! ## Writing -/

def Entity.toDocument (e : Entity) : Document :=
  .object [("id", .integer e.id), ("name", .text e.name)]

def Account.toDocument (a : Account) : Document :=
  .object [("id", .integer a.id), ("name", .text a.name), ("kind", .text a.kind.name)]

def Amount.toDocument (a : Amount) : Document :=
  .text a.toDecimal.print

def Calendar.Date.toDocument (d : Date) : Document :=
  .text d.print

def DateRange.toDocument (r : DateRange) : Document :=
  .object [("start_date", r.first.toDocument), ("end_date", r.last.toDocument)]

namespace Filter

/-- The field of a list, unless it is empty. -/
def listField {α : Type} (name : String) (write : α → Document) :
    List α → List (String × Document)
  | [] => []
  | items => [(name, .list (items.map write))]

/-- The field of an optional value, if there is one. -/
def optionField {α : Type} (name : String) (write : α → Document) :
    Option α → List (String × Document)
  | none => []
  | some a => [(name, write a)]

/-- The fields of the constraints that are set. -/
def toFields (f : Filter) : List (String × Document) :=
  listField "free_text_words" .text f.words ++
  listField "source_accounts" Account.toDocument f.sourceAccounts ++
  listField "destination_accounts" Account.toDocument f.destinationAccounts ++
  listField "categories" Entity.toDocument f.categories ++
  listField "budgets" Entity.toDocument f.budgets ++
  listField "tags" Entity.toDocument f.tags ++
  listField "bills" Entity.toDocument f.bills ++
  optionField "amount_equals" Amount.toDocument f.amountEquals ++
  optionField "amount_min" Amount.toDocument f.amountMin ++
  optionField "amount_max" Amount.toDocument f.amountMax ++
  optionField "date_range" DateRange.toDocument f.dateRange ++
  optionField "date_before" Date.toDocument f.dateBefore ++
  optionField "date_after" Date.toDocument f.dateAfter ++
  optionField "created_on" Date.toDocument f.createdOn ++
  optionField "updated_on" Date.toDocument f.updatedOn ++
  listField "types" .text f.types ++
  optionField "external_id" .text f.externalId ++
  optionField "internal_reference" .text f.internalReference

def toDocument (f : Filter) : Document :=
  .object f.toFields

end Filter

/-! ## Reading -/

namespace Document

def checkAccountKind : Document → Checked AccountKind
  | .text s => .ofOption .notEnumerated (AccountKind.ofName? s)
  | _ => .flaw .notEnumerated

def checkEntity : Document → Checked Entity :=
  checkObject fields
where
  fields (fields : List (String × Document)) : Checked Entity :=
    (fun id name _ => ⟨id, name⟩)
      <$> checkRequired fields "id" checkInteger
      <*> checkRequired fields "name" checkText
      <*> checkClosed fields ["id", "name"]

def checkAccount : Document → Checked Account :=
  checkObject fields
where
  fields (fields : List (String × Document)) : Checked Account :=
    (fun id name kind _ => ⟨⟨id, name⟩, kind⟩)
      <$> checkRequired fields "id" checkInteger
      <*> checkRequired fields "name" checkText
      <*> checkRequired fields "kind" checkAccountKind
      <*> checkClosed fields ["id", "name", "kind"]

/-- Expects a decimal, as a text or an integer, that is finite and not below zero. -/
def checkAmount : Document → Checked Amount
  | .text s => (Checked.ofOption .decimalText (Numeral.read? s)).andThen Draft.checkAmount
  | .integer n => Draft.checkAmount (.finite ⟨n < 0, n.natAbs, 0⟩)
  | _ => .flaw .notDecimal

/-- Expects the beginning of a day. -/
def checkMidnight (m : Moment) : Checked Date :=
  if m.isMidnight then .ok m.day else .flaw .notMidnight

/-- Expects a day, as a text or as a count of seconds or milliseconds since 1970. -/
def checkDate : Document → Checked Date
  | .text s => (Checked.ofOption .dateText (Moment.read? s)).andThen checkMidnight
  | .integer n => (Checked.ofOption .dateText (Moment.ofCount? n)).andThen checkMidnight
  | _ => .flaw .notDate

/-- Expects a range of days. The order of the days is looked at when both are fine. -/
def checkDateRange : Document → Checked DateRange :=
  checkObject fun fields =>
    let days : Checked (Date × Date) :=
      (fun first last _ => (first, last))
        <$> checkRequired fields "start_date" checkDate
        <*> checkRequired fields "end_date" checkDate
        <*> checkClosed fields ["start_date", "end_date"]
    days.andThen fun (first, last) =>
      match DateRange.between first last with
      | .ok range => .ok range
      | .error e => .flaw (.rule e.message)

end Document

open Document in
/-- The filter of a document, or all issues of the document. -/
def Filter.ofDocument : Document → Checked Filter :=
  checkObject fun fields =>
    let tuple {α : Type} (name : String) (check : Document → Checked α) : Checked (List α) :=
      checkDefaulted fields name [] (checkTuple check)
    let optional {α : Type} (name : String) (check : Document → Checked α) :
        Checked (Option α) :=
      checkDefaulted fields name none (checkOptional check)
    (fun words sources destinations categories budgets tags bills equals least most range before
        after created updated types externalId internalReference _ =>
      { words := words
        sourceAccounts := sources
        destinationAccounts := destinations
        categories := categories
        budgets := budgets
        tags := tags
        bills := bills
        amountEquals := equals
        amountMin := least
        amountMax := most
        dateRange := range
        dateBefore := before
        dateAfter := after
        createdOn := created
        updatedOn := updated
        types := types
        externalId := externalId
        internalReference := internalReference })
      <$> tuple "free_text_words" checkText
      <*> tuple "source_accounts" checkAccount
      <*> tuple "destination_accounts" checkAccount
      <*> tuple "categories" checkEntity
      <*> tuple "budgets" checkEntity
      <*> tuple "tags" checkEntity
      <*> tuple "bills" checkEntity
      <*> optional "amount_equals" checkAmount
      <*> optional "amount_min" checkAmount
      <*> optional "amount_max" checkAmount
      <*> optional "date_range" checkDateRange
      <*> optional "date_before" checkDate
      <*> optional "date_after" checkDate
      <*> optional "created_on" checkDate
      <*> optional "updated_on" checkDate
      <*> tuple "types" checkText
      <*> optional "external_id" checkText
      <*> optional "internal_reference" checkText
      <*> checkClosed fields
        ["free_text_words", "source_accounts", "destination_accounts", "categories", "budgets",
          "tags", "bills", "amount_equals", "amount_min", "amount_max", "date_range",
          "date_before", "date_after", "created_on", "updated_on", "types", "external_id",
          "internal_reference"]

end LedgerSearch
