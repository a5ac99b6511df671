import LedgerSearch.Calendar.Date
import LedgerSearch.Document.Checked
import LedgerSearch.Logging
import LedgerSearch.Lookup
import LedgerSearch.Query.Lexer

/-!
# Steps of an interpretation

A query is interpreted in steps. In each of them lookups may be made and records
may be written, and at its end there is a value or a failure. Steps are put
together in order, and nothing happens after one that fails.

* `outcome_bind`, `trace_bind`: how steps are put together.
-/

namespace LedgerSearch

open Calendar

/-- What may be wrong with a query. -/
inductive SearchError where
  | malformed (error : Query.SyntaxError)
  /-- A search does not handle nodes of this kind. -/
  | unsupportedNode (kind : String)
  /-- No operator is registered under this name. -/
  | unknownOperator (name : String)
  /-- The value is no amount or no day. -/
  | invalidValue (operator value : String)
  deriving DecidableEq

def SearchError.message : SearchError → String
  | .malformed e => e.message
  | .unsupportedNode kind => "search cannot handle \"" ++ kind ++ "\" nodes"
  | .unknownOperator name => "unsupported search operator: \"" ++ name ++ "\""
  | .invalidValue operator value =>
    "invalid value for search operator \"" ++ operator ++ "\": \"" ++ value ++ "\""

/-- Why a query has no interpretation. -/
inductive Failure where
  | query (error : SearchError)
  | date (error : DateError)
  | lookup (error : LookupError)
  /-- The collected constraints make no filter. -/
  | filter (issues : List Issue)
  deriving DecidableEq

/-- What happens while a query is interpreted. -/
inductive Happening where
  | lookup (lookup : Lookup)
  | record (record : LogRecord)
  deriving DecidableEq

def Happening.lookup? : Happening → Option Lookup
  | .lookup l => some l
  | .record _ => none

/-- A step of an interpretation: what happens in it, in order, and how it ends. -/
structure Traced (α : Type) where
  trace : List Happening
  outcome : Except Failure α

namespace Traced

variable {α β : Type}

/-- A step that fails, in which nothing happens. -/
def fail (e : Failure) : Traced α :=
  ⟨[], .error e⟩

/-- A step after which another one follows, unless it fails. -/
def andThen (t : Traced α) (next : α → Traced β) : Traced β :=
  match t.outcome with
  | .ok a => ⟨t.trace ++ (next a).trace, (next a).outcome⟩
  | .error e => ⟨t.trace, .error e⟩

instance : Monad Traced where
  pure a := ⟨[], .ok a⟩
  bind := andThen

/-- A record is written. -/
def note (level : LogLevel) (logger message : String) : Traced Unit :=
  ⟨[.record ⟨level, logger, message⟩], .ok ()⟩

/-- A lookup is made, and answered. -/
def ask (l : Lookup) (answer : Except LookupError α) : Traced α :=
  ⟨[.lookup l], answer.mapError .lookup⟩

/-- The lookups that are made. -/
def lookups (t : Traced α) : List Lookup :=
  t.trace.filterMap Happening.lookup?

section

variable (t : Traced α) (next : α → Traced β)

@[simp] theorem outcome_pure (a : α) : (pure a : Traced α).outcome = .ok a := rfl

@[simp] theorem outcome_fail (e : Failure) : (fail e : Traced α).outcome = .error e := rfl

@[simp] theorem outcome_note (level : LogLevel) (logger message : String) :
    (note level logger message).outcome = .ok () := rfl

@[simp] theorem outcome_ask (l : Lookup) (answer : Except LookupError α) :
    (ask l answer).outcome = answer.mapError .lookup := rfl

theorem outcome_bind :
    (t >>= next).outcome = t.outcome >>= fun a => (next a).outcome := by
  simp only [Bind.bind, andThen]
  cases t.outcome <;> rfl

theorem trace_bind : (t >>= next).trace = t.trace ++
    match t.outcome with
    | .ok a => (next a).trace
    | .error _ => [] := by
  simp only [Bind.bind, andThen]
  cases t.outcome with
  | ok a => rfl
  | error e => exact (List.append_nil _).symm

@[simp] theorem lookups_pure (a : α) : (pure a : Traced α).lookups = [] := rfl

@[simp] theorem lookups_fail (e : Failure) : (fail e : Traced α).lookups = [] := rfl

@[simp] theorem lookups_note (level : LogLevel) (logger message : String) :
    (note level logger message).lookups = [] := rfl

@[simp] theorem lookups_ask (l : Lookup) (answer : Except LookupError α) :
    (ask l answer).lookups = [l] := rfl

theorem lookups_bind : (t >>= next).lookups = t.lookups ++
    match t.outcome with
    | .ok a => (next a).lookups
    | .error _ => [] := by
  rw [lookups, trace_bind, List.filterMap_append]
  cases t.outcome <;> rfl

/-- A record is written first. -/
@[simp] theorem outcome_note_bind (level : LogLevel) (logger message : String)
    (next : Unit → Traced β) :
    (note level logger message >>= next).outcome = (next ()).outcome := rfl

@[simp] theorem lookups_note_bind (level : LogLevel) (logger message : String)
    (next : Unit → Traced β) :
    (note level logger message >>= next).lookups = (next ()).lookups := rfl

end

end Traced

end LedgerSearch
