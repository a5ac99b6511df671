import LedgerSearch.Sql.Condition
import LedgerSearch.Text.Split

/-!
# Statements on transactions

A filter gives two statements over the same conditions: one selects a page of
the transactions that satisfy it, the latest first, and one counts them all.
-/

namespace LedgerSearch.Sql

open Calendar

inductive PageError where
  | page
  | pageSize
  deriving DecidableEq

def PageError.message : PageError → String
  | .page => "page must be >= 1"
  | .pageSize => "page_size must be >= 1"

/-- Why a filter and a page give no statement. -/
inductive StatementError where
  | page (error : PageError)
  | date (error : DateError)
  deriving DecidableEq

def StatementError.message : StatementError → String
  | .page e => e.message
  | .date e => e.message

def selectedColumns : List String :=
  ["id", "date", "description", "amount", "type", "source_account_id", "destination_account_id",
    "category_id", "budget_id", "bill_id", "external_id", "internal_reference", "created_at",
    "updated_at"]

/-- The clause that restricts the rows; there is none without conditions. -/
def whereClause (conditions : List Condition) : String :=
  match conditions with
  | [] => ""
  | _ => "WHERE " ++ " AND ".intercalate (conditions.map (·.predicate.sql))

/-- Selects a page. Where the clause is missing, the spaces around it become one. -/
def selectStatement (conditions : List Condition) (page pageSize : Int) : Statement where
  text :=
    Text.singleSpaced
      ("SELECT " ++ ", ".intercalate (selectedColumns.map ("t." ++ ·)) ++
        " FROM transactions t " ++ whereClause conditions ++
        " ORDER BY t.date DESC, t.id DESC LIMIT %s OFFSET %s")
  params := conditions.map (·.param) ++ [.integer pageSize, .integer ((page - 1) * pageSize)]

/-- Counts all rows. Where the clause is missing, the space before it goes as well. -/
def countStatement (conditions : List Condition) : Statement where
  text :=
    Text.trim ("SELECT COUNT(*)::bigint FROM transactions t " ++ whereClause conditions)
  params := conditions.map (·.param)

/-- The statement that selects a page of the transactions that satisfy a filter. Pages and their
sizes start at 1. -/
def selectPage (f : Filter) (page pageSize : Int) : Except StatementError Statement :=
  if page < 1 then .error (.page .page)
  else if pageSize < 1 then .error (.page .pageSize)
  else
    match Condition.ofFilter f with
    | .ok conditions => .ok (selectStatement conditions page pageSize)
    | .error e => .error (.date e)

/-- The statement that counts the transactions that satisfy a filter. -/
def countAll (f : Filter) : Except DateError Statement :=
  (Condition.ofFilter f).map countStatement

end LedgerSearch.Sql
