import LedgerSearch.Database.Session
import LedgerSearch.Filter.Document
import LedgerSearch.Logging
import LedgerSearch.Lookup
import LedgerSearch.Sql.Pattern

/-!
# Lookups in the database

A lookup is one statement on the table of its kind: the rows whose names match
the pattern of the term, in the order of names and numbers, up to the limit. A
lookup of accounts always states its limit, which is nothing if there is none;
the others leave it out then. The rows of the answer are read as entities; the
first row that is none fails the lookup. How many rows there are is recorded before
they are read.
-/

namespace LedgerSearch.Database

open Sql

def tableName : EntityKind → String
  | .category => "categories"
  | .budget => "budgets"
  | .bill => "bills"
  | .tag => "tags"

/-- The names of account kinds in alphabetical order. -/
def kindNames (kinds : List AccountKind) : List String :=
  (kinds.map (·.name)).mergeSort fun a b => a ≤ b

/-- The limit of a lookup as a value; nothing if there is none. -/
def limitParam : Option Int → Param
  | some n => .integer n
  | none => .document .null

def lookupStatement (l : Lookup) : Statement :=
  match l.target with
  | .accounts kinds =>
    { text :=
        "SELECT id, name, account_type FROM accounts " ++
          "WHERE name ILIKE %s AND account_type = ANY(%s) ORDER BY name, id LIMIT %s"
      params := [.text (Pattern.holding l.term), .texts (kindNames kinds), limitParam l.limit] }
  | .entities kind =>
    let text :=
      "SELECT id, name FROM " ++ tableName kind ++ " WHERE name ILIKE %s ORDER BY name, id"
    let pattern := Param.text (Pattern.holding l.term)
    match l.limit with
    | some n => { text := text ++ " LIMIT %s", params := [pattern, .integer n] }
    | none => { text := text, params := [pattern] }

/-- A checked value as an answer to a lookup. -/
def ofChecked {α : Type} : Checked α → Except LookupError α
  | .ok a => .ok a
  | .issues is => .error (.badRow is)

def entityOfRow : Row → Except LookupError Entity
  | id :: name :: _ => ofChecked (Document.checkEntity (.object [("id", id), ("name", name)]))
  | _ => .error .shortRow

/-- The account of a row. The kind is looked at first. -/
def accountOfRow : Row → Except LookupError Account
  | id :: name :: kind :: _ =>
    match Document.checkAccountKind kind with
    | .ok _ =>
      ofChecked (Document.checkAccount (.object [("id", id), ("name", name), ("kind", kind)]))
    | .issues _ => .error (.unknownKind kind.literal)
  | _ => .error .shortRow

/-- The rows that answer a lookup. -/
def answer (db : Database) (l : Lookup) : Except LookupError (List Row) :=
  (db.rows (lookupStatement l)).mapError fun e => .refused e.message

/-- Answers lookups from the database. -/
def resolver (db : Database) : Resolver where
  accounts kinds term limit := do
    (← db.answer ⟨.accounts kinds, term, limit⟩).mapM accountOfRow
  entities kind term limit := do
    (← db.answer ⟨.entities kind, term, limit⟩).mapM entityOfRow

/-! ## Records -/

/-- What is looked for, as it is recorded. -/
def describe : LookupTarget → String → String
  | .accounts kinds, term =>
    "search accounts term=" ++ Text.quoted term ++ " kinds=" ++
      (Document.list ((kindNames kinds).map .text)).literal
  | .entities kind, term => "search " ++ kind.name ++ " term=" ++ Text.quoted term

/-- The records on a lookup: how many rows there are, if it is answered. -/
def recordsOf (db : Database) (l : Lookup) : List LogRecord :=
  match db.answer l with
  | .ok rows =>
    [⟨.debug, "src.db.resolvers", describe l.target l.term ++ " found=" ++ toString rows.length⟩]
  | .error _ => []

end LedgerSearch.Database
