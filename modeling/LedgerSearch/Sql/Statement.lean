import LedgerSearch.Calendar.Date
import LedgerSearch.Decimal
import LedgerSearch.Document

/-!
# Statements

A statement is a text with placeholders and the values for them, in order. No
value ever becomes part of the text.
-/

namespace LedgerSearch.Sql

open Calendar

/-- A value for a placeholder. -/
inductive Param where
  | integer (n : Int)
  | text (s : String)
  | integers (ns : List Int)
  | texts (ss : List String)
  | decimal (d : Decimal)
  /-- The beginning of a day in universal time. -/
  | midnight (day : Date)
  /-- Any other value. -/
  | document (d : Document)
  deriving DecidableEq

/-- A statement for the database. -/
structure Statement where
  text : String
  params : List Param
  deriving DecidableEq

end LedgerSearch.Sql
