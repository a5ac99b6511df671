import LedgerSearch.Document.Literal
import LedgerSearch.Sql.Statement
import LedgerSearch.Text.Blank
import LedgerSearch.Text.Infix
import LedgerSearch.Text.Integer

/-!
# Database sessions

A database answers a statement with rows, or refuses it. What a session does to it
is a list of events. A session begins by connecting, giving up the right to write
and setting the time zone in which days are compared.
-/

namespace LedgerSearch.Database

/-- A row of an answer. -/
abbrev Row := List Document

/-- What happens to a database in a session. -/
inductive Event where
  /-- The session connects to a place, which may take so many seconds. -/
  | connect (url : String) (timeout : Int)
  /-- The session gives up the right to write. -/
  | readOnly
  /-- A command without values is executed, unprepared. -/
  | command (text : String)
  | statement (statement : Sql.Statement)
  deriving DecidableEq

/-- How long connecting may take, in seconds. -/
def defaultTimeout : Int := 10

/-- The events at the beginning of a session. -/
def opening (url : String) (timeout : Int) : List Event :=
  [.connect url timeout, .readOnly, .command "SET TIME ZONE 'UTC'"]

end Database

/-- Why a database does not answer a statement. -/
structure DatabaseError where
  message : String
  deriving DecidableEq

/-- A database: the rows that answer each statement, or why it is refused. -/
structure Database where
  rows : Sql.Statement → Except DatabaseError (List Database.Row)

namespace Database

/-! ## Databases that do not change -/

/-- A table: its name and its rows. -/
abbrev Table := String × List Row

/-- Whether a character may be part of a name: an ASCII letter or digit, a low line, or a character
outside ASCII that is not blank. -/
def isNameChar (c : Char) : Bool :=
  c.isAlphanum || c == '_' || (0x80 ≤ c.toNat && !Text.isBlank c)

/-- The name that directly follows `part`, at the first place where one does. -/
def nameAfter? (part : List Char) : List Char → Option (List Char)
  | [] => none
  | c :: cs =>
    let name := ((c :: cs).drop part.length).takeWhile isNameChar
    if part.isPrefixOf (c :: cs) && !name.isEmpty then some name else nameAfter? part cs

/-- The name of the table that a statement reads: the first one after `FROM`. Counting reads a table
of its own. -/
def tableOf? (text : String) : Option String :=
  let cs := text.toList
  if Text.isInfix "COUNT(*)".toList cs then some "count"
  else (nameAfter? " FROM ".toList cs).map String.ofList

/-- The database that answers every statement with all rows of the table that it reads. -/
def ofTables (tables : List Table) : Database where
  rows s := .ok (((tableOf? s.text).bind fun name => tables.lookup name).getD [])

/-! ## Reading answers -/

/-- Why an answer is no number. -/
inductive ScalarError where
  | notInteger (error : Text.IntegerError)
  /-- The value is composite, a list or an object. -/
  | composite (kind : String)
  deriving DecidableEq

def ScalarError.message : ScalarError → String
  | .notInteger e => e.message
  | .composite kind =>
    "int() argument must be a string, a bytes-like object or a real number, not '" ++ kind ++ "'"

/-- The integer of a value; zero if there is none. -/
def integerOf : Document → Except ScalarError Int
  | .integer n => .ok n
  | .bool b => .ok (if b then 1 else 0)
  | .null => .ok 0
  | .text s =>
    match Text.parseInteger s with
    | .ok n => .ok n
    | .error e => .error (.notInteger e)
  | .list _ => .error (.composite "list")
  | .object _ => .error (.composite "dict")

/-- The integer in the first column of the first row; zero without one. -/
def scalar (rows : List Row) : Except ScalarError Int :=
  match rows with
  | (d :: _) :: _ => integerOf d
  | _ => .ok 0

end LedgerSearch.Database
