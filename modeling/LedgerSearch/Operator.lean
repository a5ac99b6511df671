import LedgerSearch.Entity

/-!
# Operators

The names that may stand before the colon of a field, and what each of them
constrains. Several names may constrain the same thing, and one constrains
nothing: it is accepted and has no effect.
-/

namespace LedgerSearch

/-- The operators, in the order in which they are listed. -/
inductive Operator where
  | fromAccount
  | source
  | fromAccountContains
  | fromAccountStarts
  | fromAccountEnds
  | toAccount
  | destination
  | category
  | bill
  | tag
  | budget
  | amount
  | amountIs
  | amountMax
  | amountLess
  | amountMin
  | amountMore
  | type
  | date
  | on
  | dateBefore
  | before
  | dateAfter
  | after
  | createdOn
  | updatedOn
  | externalId
  | internalReference
  | userAction
  deriving DecidableEq

/-- How the name of a looked up account has to agree with the value, beyond holding it without
regard to case. -/
inductive NameRule where
  | holds
  | startsWith
  | endsWith
  deriving DecidableEq

inductive AmountBound where
  | equals
  | atLeast
  | atMost
  deriving DecidableEq

inductive DayBound where
  /-- The transaction took place on that day. -/
  | on
  /-- The transaction took place no later. -/
  | before
  /-- The transaction took place no earlier. -/
  | after
  /-- The transaction was entered on that day. -/
  | created
  /-- The transaction was last changed on that day. -/
  | updated
  deriving DecidableEq

/-- What is compared with the value as it stands. -/
inductive LiteralTarget where
  | type
  | externalId
  | internalReference
  deriving DecidableEq

/-- What an operator constrains. -/
inductive Effect where
  | sourceAccounts (rule : NameRule)
  | destinationAccounts
  | entities (kind : EntityKind)
  | amount (bound : AmountBound)
  | day (bound : DayBound)
  | literal (target : LiteralTarget)
  | nothing
  deriving DecidableEq

/-- The classes of operators. -/
inductive Handling where
  | entity
  | numeric
  | date
  | literal
  | ignored
  deriving DecidableEq

def Handling.name : Handling → String
  | .entity => "entity"
  | .numeric => "numeric"
  | .date => "date"
  | .literal => "literal"
  | .ignored => "ignored"

/-- The class of operators with an effect. -/
def Effect.handling : Effect → Handling
  | .sourceAccounts _ => .entity
  | .destinationAccounts => .entity
  | .entities _ => .entity
  | .amount _ => .numeric
  | .day _ => .date
  | .literal _ => .literal
  | .nothing => .ignored

namespace Operator

/-- All operators, in the order in which they are listed. -/
def all : List Operator :=
  [fromAccount, source, fromAccountContains, fromAccountStarts, fromAccountEnds, toAccount,
    destination, category, bill, tag, budget, amount, amountIs, amountMax, amountLess, amountMin,
    amountMore, type, date, on, dateBefore, before, dateAfter, after, createdOn, updatedOn,
    externalId, internalReference, userAction]

def name : Operator → String
  | fromAccount => "from"
  | source => "source"
  | fromAccountContains => "from_account_contains"
  | fromAccountStarts => "from_account_starts"
  | fromAccountEnds => "from_account_ends"
  | toAccount => "to"
  | destination => "destination"
  | category => "category"
  | bill => "bill"
  | tag => "tag"
  | budget => "budget"
  | amount => "amount"
  | amountIs => "amount_is"
  | amountMax => "amount_max"
  | amountLess => "amount_less"
  | amountMin => "amount_min"
  | amountMore => "amount_more"
  | type => "type"
  | date => "date"
  | on => "on"
  | dateBefore => "date_before"
  | before => "before"
  | dateAfter => "date_after"
  | after => "after"
  | createdOn => "created_on"
  | updatedOn => "updated_on"
  | externalId => "external_id"
  | internalReference => "internal_reference"
  | userAction => "user_action"

/-- What an operator constrains. -/
def effect : Operator → Effect
  | fromAccount => .sourceAccounts .holds
  | source => .sourceAccounts .holds
  | fromAccountContains => .sourceAccounts .holds
  | fromAccountStarts => .sourceAccounts .startsWith
  | fromAccountEnds => .sourceAccounts .endsWith
  | toAccount => .destinationAccounts
  | destination => .destinationAccounts
  | category => .entities .category
  | bill => .entities .bill
  | tag => .entities .tag
  | budget => .entities .budget
  | amount => .amount .equals
  | amountIs => .amount .equals
  | amountMax => .amount .atMost
  | amountLess => .amount .atMost
  | amountMin => .amount .atLeast
  | amountMore => .amount .atLeast
  | type => .literal .type
  | date => .day .on
  | on => .day .on
  | dateBefore => .day .before
  | before => .day .before
  | dateAfter => .day .after
  | after => .day .after
  | createdOn => .day .created
  | updatedOn => .day .updated
  | externalId => .literal .externalId
  | internalReference => .literal .internalReference
  | userAction => .nothing

def handling (op : Operator) : Handling :=
  op.effect.handling

def ofName? (s : String) : Option Operator :=
  all.find? (·.name == s)

theorem mem_all (op : Operator) : op ∈ all := by
  cases op <;> decide

theorem all_nodup : all.Nodup := by
  decide

@[simp] theorem ofName?_name (op : Operator) : ofName? op.name = some op := by
  cases op <;> rfl

theorem name_injective {a b : Operator} (h : a.name = b.name) : a = b :=
  Option.some.inj (by rw [← ofName?_name a, ← ofName?_name b, h])

end Operator

end LedgerSearch
