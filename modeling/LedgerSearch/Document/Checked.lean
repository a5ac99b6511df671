import LedgerSearch.Document
import LedgerSearch.Text.WholeNumber

/-!
# Checking documents

A document is checked against what is expected of it part by part. All parts are
looked at, and every flaw is reported together with the path to the part that
has it.
-/

namespace LedgerSearch

/-- A step from a document to one of its parts. -/
inductive Step where
  | field (name : String)
  | index (i : Nat)
  deriving DecidableEq

/-- What is wrong with a part. -/
inductive Flaw where
  | missing
  | extraField
  | notText
  | notTuple
  | notList
  | notObject
  | notInteger
  /-- The text is no integer. -/
  | integerText
  /-- The text is an integer of too many digits. -/
  | integerSize
  /-- The value is none of the enumerated ones. -/
  | notEnumerated
  | notDecimal
  /-- The text is no decimal. -/
  | decimalText
  | notFinite
  /-- The number is less than the least one allowed. -/
  | tooSmall
  | notDate
  /-- The text is no date. -/
  | dateText
  /-- The moment is not the beginning of a day. -/
  | notMidnight
  /-- The parts are fine on their own and break a rule together. -/
  | rule (message : String)
  deriving DecidableEq

/-- A flaw and the path to the part that has it. -/
structure Issue where
  path : List Step
  flaw : Flaw
  deriving DecidableEq

/-- The issue of the part at one step further. -/
def Issue.under (step : Step) (i : Issue) : Issue :=
  { i with path := step :: i.path }

/-- The outcome of a check: a value, or the issues found. -/
inductive Checked (α : Type) where
  | ok (value : α)
  | issues (list : List Issue)

namespace Checked

variable {α β : Type}

/-- Applies a checked function to a checked value; the issues of both are kept. -/
def seq (f : Checked (α → β)) (a : Unit → Checked α) : Checked β :=
  match f, a () with
  | .ok f, .ok a => .ok (f a)
  | .ok _, .issues is => .issues is
  | .issues is, .ok _ => .issues is
  | .issues is, .issues js => .issues (is ++ js)

instance : Applicative Checked where
  pure := .ok
  seq := seq

/-- Goes on with a check that needs the value of another one. -/
def andThen (a : Checked α) (f : α → Checked β) : Checked β :=
  match a with
  | .ok a => f a
  | .issues is => .issues is

/-- The outcome of a check of the part at a step. -/
def under (step : Step) : Checked α → Checked α
  | .ok a => .ok a
  | .issues is => .issues (is.map (·.under step))

/-- The outcome of a check that finds one flaw. -/
def flaw (f : Flaw) : Checked α :=
  .issues [⟨[], f⟩]

/-- A value, or the flaw of having none. -/
def ofOption (f : Flaw) : Option α → Checked α
  | some a => .ok a
  | none => flaw f

theorem map_eq_ok {f : α → β} {c : Checked α} {b : β} :
    f <$> c = .ok b ↔ ∃ a, c = .ok a ∧ f a = b := by
  cases c with
  | ok a =>
    constructor
    · intro h
      cases h
      exact ⟨a, rfl, rfl⟩
    · rintro ⟨_, ⟨⟩, rfl⟩
      rfl
  | issues => exact ⟨fun h => (nomatch h), fun ⟨_, h, _⟩ => (nomatch h)⟩

theorem seq_eq_ok {f : Checked (α → β)} {c : Checked α} {b : β} :
    f <*> c = .ok b ↔ ∃ g a, f = .ok g ∧ c = .ok a ∧ g a = b := by
  cases f with
  | issues => cases c <;> exact ⟨fun h => (nomatch h), fun ⟨_, _, h, _⟩ => (nomatch h)⟩
  | ok g =>
    cases c with
    | issues => exact ⟨fun h => (nomatch h), fun ⟨_, _, _, h, _⟩ => (nomatch h)⟩
    | ok a =>
      constructor
      · intro h
        cases h
        exact ⟨g, a, rfl, rfl, rfl⟩
      · rintro ⟨_, _, ⟨⟩, ⟨⟩, rfl⟩
        rfl

/-- Checks every item, the first of which stands at index `i`. -/
def eachFrom (check : α → Checked β) (i : Nat) : List α → Checked (List β)
  | [] => .ok []
  | a :: as => List.cons <$> (check a).under (.index i) <*> eachFrom check (i + 1) as

def each (check : α → Checked β) (items : List α) : Checked (List β) :=
  eachFrom check 0 items

end Checked

namespace Document

def checkText : Document → Checked String
  | .text s => .ok s
  | _ => .flaw .notText

/-- Expects an integer; a text that writes one and a truth value are taken for it. -/
def checkInteger : Document → Checked Int
  | .integer n => .ok n
  | .bool b => .ok (if b then 1 else 0)
  | .text s =>
    match Text.parseWholeNumber s with
    | .ok n => .ok n
    | .error (.longText _) => .flaw .integerSize
    | .error _ => .flaw .integerText
  | _ => .flaw .notInteger

def checkTuple {α : Type} (check : Document → Checked α) : Document → Checked (List α)
  | .list items => .each check items
  | _ => .flaw .notTuple

def checkOptional {α : Type} (check : Document → Checked α) : Document → Checked (Option α)
  | .null => .ok none
  | d => some <$> check d

/-- Expects an object, whose fields are checked further. -/
def checkObject {α : Type} (check : List (String × Document) → Checked α) : Document → Checked α
  | .object fields => check fields
  | _ => .flaw .notObject

def checkRequired {α : Type} (fields : List (String × Document)) (name : String)
    (check : Document → Checked α) : Checked α :=
  match field? fields name with
  | some d => (check d).under (.field name)
  | none => (Checked.flaw .missing).under (.field name)

/-- Checks a field that may be absent. -/
def checkDefaulted {α : Type} (fields : List (String × Document)) (name : String) (default : α)
    (check : Document → Checked α) : Checked α :=
  match field? fields name with
  | some d => (check d).under (.field name)
  | none => .ok default

/-- Expects no field but the named ones. -/
def checkClosed (fields : List (String × Document)) (names : List String) : Checked Unit :=
  match fields.filter (!names.contains ·.1) with
  | [] => .ok ()
  | extra => .issues (extra.map fun f => ⟨[.field f.1], .extraField⟩)

end Document

end LedgerSearch
