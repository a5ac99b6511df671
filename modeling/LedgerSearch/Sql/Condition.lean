import LedgerSearch.Calendar.Window
import LedgerSearch.Filter
import LedgerSearch.Sql.Pattern
import LedgerSearch.Sql.Statement

/-!
# Conditions on transactions

A condition is a predicate on the rows of the table of transactions with one
placeholder, and the value for it. The constraints of a filter become conditions
in a fixed order, none, one or two for each of them. Amounts are stored with a
sign, so their sizes are compared; days are compared through the windows of time
that they cover.
-/

namespace LedgerSearch.Sql

open Calendar

/-- The columns that refer to one entity. -/
inductive KeyColumn where
  | sourceAccount
  | destinationAccount
  | category
  | budget
  | bill
  deriving DecidableEq

/-- The columns that hold a point in time. -/
inductive TimeColumn where
  | date
  | createdAt
  | updatedAt
  deriving DecidableEq

/-- The columns that are compared with a text as it stands. -/
inductive TextColumn where
  | externalId
  | internalReference
  deriving DecidableEq

/-- How the size of an amount is compared. -/
inductive Comparison where
  | equal
  | atLeast
  | atMost
  deriving DecidableEq

def KeyColumn.name : KeyColumn → String
  | .sourceAccount => "source_account_id"
  | .destinationAccount => "destination_account_id"
  | .category => "category_id"
  | .budget => "budget_id"
  | .bill => "bill_id"

def TimeColumn.name : TimeColumn → String
  | .date => "date"
  | .createdAt => "created_at"
  | .updatedAt => "updated_at"

def TextColumn.name : TextColumn → String
  | .externalId => "external_id"
  | .internalReference => "internal_reference"

def Comparison.sign : Comparison → String
  | .equal => "="
  | .atLeast => ">="
  | .atMost => "<="

/-- A predicate on transactions with one placeholder. -/
inductive Predicate where
  /-- The description matches a pattern without regard to case. -/
  | description
  | key (column : KeyColumn)
  | tag
  /-- The size of the amount compares with a number. -/
  | size (comparison : Comparison)
  /-- A point in time is no earlier than another. -/
  | notBefore (column : TimeColumn)
  /-- A point in time is earlier than another. -/
  | before (column : TimeColumn)
  | type
  | text (column : TextColumn)
  deriving DecidableEq

def Predicate.sql : Predicate → String
  | .description => "t.description ILIKE %s"
  | .key column => "t." ++ column.name ++ " = ANY(%s)"
  | .tag =>
    "EXISTS (SELECT 1 FROM transaction_tags tt WHERE tt.transaction_id = t.id AND tt.tag_id = ANY(%s))"
  | .size comparison => "ABS(t.amount) " ++ comparison.sign ++ " %s"
  | .notBefore column => "t." ++ column.name ++ " >= %s"
  | .before column => "t." ++ column.name ++ " < %s"
  | .type => "t.type = ANY(%s)"
  | .text column => "t." ++ column.name ++ " = %s"

/-- A predicate and the value for its placeholder. -/
structure Condition where
  predicate : Predicate
  param : Param
  deriving DecidableEq

namespace Condition

/-- A word occurs in the description. -/
def ofWord (word : String) : Condition :=
  ⟨.description, .text (Pattern.holding word)⟩

/-- A column refers to one of the entities, if there are any. -/
def ofKeys (column : KeyColumn) : List Int → List Condition
  | [] => []
  | ids => [⟨.key column, .integers ids⟩]

/-- One of the tags is among the entities, if there are any. -/
def ofTags : List Int → List Condition
  | [] => []
  | ids => [⟨.tag, .integers ids⟩]

/-- The size compares with an amount, if there is one. -/
def ofAmount (comparison : Comparison) : Option Amount → List Condition
  | none => []
  | some amount => [⟨.size comparison, .decimal amount.toDecimal⟩]

/-- A point in time does not lie before a day, if there is one. -/
def fromDay (column : TimeColumn) : Option Date → Except DateError (List Condition)
  | none => .ok []
  | some day => do
    let window ← Window.ofDays day day
    return [⟨.notBefore column, .midnight window.start⟩]

/-- A point in time does not lie after a day, if there is one. -/
def upToDay (column : TimeColumn) : Option Date → Except DateError (List Condition)
  | none => .ok []
  | some day => do
    let window ← Window.ofDays day day
    return [⟨.before column, .midnight window.stop⟩]

/-- A point in time lies between two days, where there are such. -/
def ofDays (column : TimeColumn) (first last : Option Date) :
    Except DateError (List Condition) := do
  return (← fromDay column first) ++ (← upToDay column last)

/-- The type is among the given ones, if there are any. -/
def ofTypes : List String → List Condition
  | [] => []
  | types => [⟨.type, .texts types⟩]

/-- A column holds a text, if there is one. -/
def ofText (column : TextColumn) : Option String → List Condition
  | none => []
  | some s => [⟨.text column, .text s⟩]

def ofFilter (f : Filter) : Except DateError (List Condition) := do
  let range ← ofDays .date (f.dateRange.map (·.first)) (f.dateRange.map (·.last))
  let bounds ← ofDays .date f.dateAfter f.dateBefore
  let created ← ofDays .createdAt f.createdOn f.createdOn
  let updated ← ofDays .updatedAt f.updatedOn f.updatedOn
  return f.words.map ofWord ++
    ofKeys .sourceAccount (f.sourceAccounts.map (·.id)) ++
    ofKeys .destinationAccount (f.destinationAccounts.map (·.id)) ++
    ofKeys .category (f.categories.map (·.id)) ++
    ofKeys .budget (f.budgets.map (·.id)) ++
    ofKeys .bill (f.bills.map (·.id)) ++
    ofTags (f.tags.map (·.id)) ++
    ofAmount .equal f.amountEquals ++
    ofAmount .atLeast f.amountMin ++
    ofAmount .atMost f.amountMax ++
    range ++ bounds ++ created ++ updated ++
    ofTypes f.types ++
    ofText .externalId f.externalId ++
    ofText .internalReference f.internalReference

end Condition

end LedgerSearch.Sql
