/-!
# Ledger entities

What a transaction refers to by number and a person by name: accounts, which
have a kind, and categories, budgets, bills and tags. Entities are ordered by
name, character by character, and then by number.
-/

namespace LedgerSearch

/-- The kinds of accounts. -/
inductive AccountKind where
  | asset
  | mortgage
  | loan
  | debt
  | revenue
  | expense
  | cash
  | initialBalance
  | reconciliation
  deriving DecidableEq

namespace AccountKind

/-- All kinds. -/
def all : List AccountKind :=
  [asset, mortgage, loan, debt, revenue, expense, cash, initialBalance, reconciliation]

/-- The name of a kind. -/
def name : AccountKind → String
  | asset => "asset"
  | mortgage => "mortgage"
  | loan => "loan"
  | debt => "debt"
  | revenue => "revenue"
  | expense => "expense"
  | cash => "cash"
  | initialBalance => "initial_balance"
  | reconciliation => "reconciliation"

/-- The kind of a name. -/
def ofName? (s : String) : Option AccountKind :=
  all.find? (·.name == s)

/-- The kinds of accounts that money comes from. -/
def sources : List AccountKind :=
  [asset, mortgage, loan, debt, revenue]

/-- The kinds of accounts that money goes to. -/
def destinations : List AccountKind :=
  [asset, mortgage, loan, debt, expense]

theorem mem_all (k : AccountKind) : k ∈ all := by
  cases k <;> decide

@[simp] theorem ofName?_name (k : AccountKind) : ofName? k.name = some k := by
  cases k <;> rfl

end AccountKind

/-- A named entity of the ledger. -/
structure Entity where
  id : Int
  name : String
  deriving DecidableEq

/-- An account. -/
structure Account extends Entity where
  kind : AccountKind
  deriving DecidableEq

/-- The kinds of entities that are no accounts. -/
inductive EntityKind where
  | category
  | budget
  | bill
  | tag
  deriving DecidableEq

def EntityKind.name : EntityKind → String
  | .category => "category"
  | .budget => "budget"
  | .bill => "bill"
  | .tag => "tag"

/-- Whether one entity comes no later than another: by name, then by number. -/
def Entity.precedes (a b : Entity) : Bool :=
  a.name < b.name || (a.name == b.name && a.id ≤ b.id)

end LedgerSearch
