import LedgerSearch.Database.Session
import LedgerSearch.Document.Json
import LedgerSearch.Filter.Document
import LedgerSearch.Search
import LedgerSearch.Sql.Transactions

/-!
# Reports

What the command prints: the interpretation of the query with the time that it
took, the statement if it is asked for, and the rows of an answer, one a line. A
statement with a number of too many digits cannot be printed.
-/

namespace LedgerSearch.CommandLine

open Sql

/-! ## Statements -/

/-- A value of a statement, as it is displayed. -/
def displayParam : Param → Except Text.IntegerError String
  | .integer n => Text.printInteger n
  | .text s => .ok s
  | .integers ns => do return "[" ++ ", ".intercalate (← ns.mapM Text.printInteger) ++ "]"
  | .texts ss => .ok (Document.list (ss.map .text)).literal
  | .decimal d => .ok d.print
  | .midnight day => .ok (day.printMidnight ' ')
  | .document d => .ok d.display

/-- A statement with its values as they are displayed. -/
structure ShownStatement where
  text : String
  values : List String
  deriving DecidableEq

def ShownStatement.ofStatement (s : Statement) : Except Text.IntegerError ShownStatement := do
  return ⟨s.text, ← s.params.mapM displayParam⟩

/-! ## Interpretations -/

/-- A report on an interpretation that took so many microseconds. -/
structure Report where
  words : String
  modifiers : List Modifier
  filter : Filter
  unfiltered : Bool
  microseconds : Nat
  statement : Option ShownStatement
  deriving DecidableEq

/-- The report on an interpretation, with a statement if one is to be shown. -/
def report (i : Interpretation) (microseconds : Nat) (statement : Option Statement) :
    Except Text.IntegerError Report := do
  let shown ← statement.mapM ShownStatement.ofStatement
  return ⟨i.text, i.modifiers, i.filter, i.filter.isEmpty, microseconds, shown⟩

/-! ## Printing -/

/-- Digits without the zeros at their end. -/
def dropZeros (digits : List Char) : List Char :=
  (digits.reverse.dropWhile (· == '0')).reverse

/-- Digits behind a point; a zero if there are none. -/
def fractionDigits (digits : List Char) : List Char :=
  '.' :: if digits.isEmpty then ['0'] else digits

/-- A number of microseconds as a decimal number of seconds, with an exponent below a ten thousandth
of a second. It has at most fifteen digits. -/
def printSeconds (microseconds : Nat) : String :=
  String.ofList <|
    if microseconds = 0 ∨ 100 ≤ microseconds then
      Nat.toDigits 10 (microseconds / 1000000) ++
        fractionDigits (dropZeros (Calendar.Date.padded 6 (microseconds % 1000000)))
    else if microseconds < 10 then
      Nat.toDigits 10 microseconds ++ ['e', '-', '0', '6']
    else
      Nat.toDigits 10 (microseconds / 10) ++
        (if microseconds % 10 = 0 then [] else '.' :: Nat.toDigits 10 (microseconds % 10)) ++
          ['e', '-', '0', '5']

def modifierDocument (m : Modifier) : Document :=
  .object [("type", .text m.operator.name), ("value", .text m.value)]

namespace Report

/-- The fields on the interpretation. -/
def interpretationFields (r : Report) : List (String × Document) :=
  [("words", .text r.words), ("modifiers", .list (r.modifiers.map modifierDocument)),
    ("filters", r.filter.toDocument), ("unfiltered", .bool r.unfiltered)]

/-- The fields on the statement. -/
def statementFields (r : Report) : List (String × Document) :=
  match r.statement with
  | none => []
  | some s => [("sql", .text s.text), ("params", .list (s.values.map .text))]

/-- A report in JSON. -/
def toJson (r : Report) : String :=
  Document.block 0 "\x7b" "\x7d"
    (Document.jsonFields 1 r.interpretationFields ++
      ("\"search_time\": " ++ printSeconds r.microseconds) ::
        Document.jsonFields 1 r.statementFields)

end Report

/-! ## Rows -/

/-- A cell of a row; an absent value leaves it empty. -/
def displayCell : Document → String
  | .null => ""
  | d => d.display

/-- A row of an answer, with tabs between its cells. -/
def displayRow (row : Database.Row) : String :=
  "\t".intercalate (row.map displayCell)

end LedgerSearch.CommandLine
