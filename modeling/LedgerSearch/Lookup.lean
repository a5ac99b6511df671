import LedgerSearch.Document.Checked
import LedgerSearch.Entity
import LedgerSearch.Text.Quoted

/-!
# Looking names up

A lookup asks for the entities of one kind whose names hold a term. Who answers
it decides on the order of the answer. Finding nothing is an answer; a lookup
that cannot be answered fails.
-/

namespace LedgerSearch

/-- What a lookup asks for. -/
inductive LookupTarget where
  /-- Accounts of the given kinds. -/
  | accounts (kinds : List AccountKind)
  | entities (kind : EntityKind)
  deriving DecidableEq

/-- A question for entities by partial name. A limit counts from the end if it is negative. -/
structure Lookup where
  target : LookupTarget
  term : String
  limit : Option Int
  deriving DecidableEq

/-- Why a lookup cannot be answered. -/
inductive LookupError where
  /-- Nobody is there to answer. -/
  | unavailable
  /-- The database refuses the statement of the lookup. -/
  | refused (message : String)
  /-- The kind of an account is none of the known ones; it is given as a literal. -/
  | unknownKind (literal : String)
  /-- A row of the answer has too few columns. -/
  | shortRow
  /-- A row of the answer is no entity. -/
  | badRow (issues : List Issue)
  deriving DecidableEq

/-- The wording of a lookup error. Issues of rows are not spelled out. -/
def LookupError.message : LookupError → String
  | .unavailable => "lookup backend unavailable"
  | .refused message => message
  | .unknownKind literal => literal ++ " is not a valid AccountKind"
  | .shortRow => "tuple index out of range"
  | .badRow _ => "invalid row"

/-- The kind of a name, or why there is none. -/
def AccountKind.parse (s : String) : Except LookupError AccountKind :=
  match AccountKind.ofName? s with
  | some k => .ok k
  | none => .error (.unknownKind (Text.quoted s))

/-- Someone who answers lookups. -/
structure Resolver where
  accounts : List AccountKind → String → Option Int → Except LookupError (List Account)
  entities : EntityKind → String → Option Int → Except LookupError (List Entity)

/-- The resolver that fails at every lookup. -/
def Resolver.unavailable : Resolver where
  accounts _ _ _ := .error .unavailable
  entities _ _ _ := .error .unavailable

/-- The number of entities that a search asks for; tags are not limited. -/
def searchLimit : Int := 25

end LedgerSearch
