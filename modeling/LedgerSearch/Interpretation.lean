import LedgerSearch.Calendar.DateReader
import LedgerSearch.Decimal.Notation
import LedgerSearch.Filter.Draft
import LedgerSearch.Interpretation.Traced
import LedgerSearch.Operator.Registry
import LedgerSearch.Text.Case

/-!
# Interpreting queries

A query is interpreted node by node, from left to right. Words and phrases are
looked for as they stand. A field has to name a registered operator; depending
on its effect the value is looked up, read as an amount or a day, or kept as it
stands, and the outcome changes the draft of the filter. A lookup that finds
nothing changes nothing. The first node that fails decides the outcome, and
nothing after it is looked at.

`process` is the whole of it, with the lookups and the records in their order.
What a node contributes does not depend on the draft.

* `change?_eq`, `contribution?_field`, `drafted_cons`, `ofNodes_eq`: how the outcome
  comes about.
* `lookups_cons`: the lookups are those of the nodes, up to the first one that fails.
-/

namespace LedgerSearch

open Calendar

/-- An operator that was applied, and its value. -/
structure Modifier where
  operator : Operator
  value : String
  deriving DecidableEq

/-- What a query means. -/
structure Interpretation where
  words : List String
  modifiers : List Modifier
  filter : Filter
  deriving DecidableEq

namespace Interpretation

/-! ## What a node contributes -/

/-- Looks accounts up by partial name. -/
def askAccounts (resolver : Resolver) (kinds : List AccountKind) (value : String) :
    Traced (List Account) :=
  .ask ⟨.accounts kinds, value, some searchLimit⟩
    (resolver.accounts kinds value (some searchLimit))

/-- How many entities of a kind a search asks for; tags are not limited. -/
def limitOf (kind : EntityKind) : Option Int :=
  if kind = .tag then none else some searchLimit

/-- Looks entities up by partial name. -/
def askEntities (resolver : Resolver) (kind : EntityKind) (value : String) :
    Traced (List Entity) :=
  .ask ⟨.entities kind, value, limitOf kind⟩ (resolver.entities kind value (limitOf kind))

/-- Whether a looked up name agrees with the value. -/
def agrees (rule : NameRule) (value name : String) : Bool :=
  match rule with
  | .holds => true
  | .startsWith => value.toList.isPrefixOf name.toList
  | .endsWith => value.toList.isSuffixOf name.toList

/-- A change by what was found, unless that is nothing. -/
def unlessEmpty {α : Type} (change : List α → Change) : List α → Option Change
  | [] => none
  | found => some (change found)

def dayChange (bound : DayBound) (day : Date) : Change :=
  match bound with
  | .on => .dateRange (.single day)
  | .before => .dateBefore day
  | .after => .dateAfter day
  | .created => .createdOn day
  | .updated => .updatedOn day

/-- The change that compares with a value as it stands. The type of a transaction begins with a
capital letter. -/
def literalChange (target : LiteralTarget) (value : String) : Change :=
  match target with
  | .type => .types [Text.capitalize value]
  | .externalId => .externalId value
  | .internalReference => .internalReference value

/-- A record on what was found for an operator, or on the value that it sets. -/
def noteOperator (message : String) : Traced Unit :=
  .note .debug "src.search.operators" message

/-- A record on how a node is handled. -/
def noteNode (level : LogLevel) (message : String) : Traced Unit :=
  .note level "src.search.dispatcher" message

/-- How many source accounts were found, and how many of them have names that agree. -/
def describeSources (op : Operator) (rule : NameRule) (found kept : Nat) : String :=
  "operator=" ++ op.name ++ " found " ++
    match rule, found with
    | .holds, _ => toString found ++ " source account(s)"
    | _, 0 => "zero source accounts"
    | _, _ => toString found ++ ", left with " ++ toString kept

/-- The change that an operator makes with a value. -/
def change (dates : DateReader) (resolver : Resolver) (op : Operator) (value : String) :
    Traced (Option Change) :=
  match op.effect with
  | .sourceAccounts rule => do
    let found ← askAccounts resolver AccountKind.sources value
    let kept := found.filter fun a => agrees rule value a.name
    noteOperator (describeSources op rule found.length kept.length)
    return unlessEmpty .sourceAccounts kept
  | .destinationAccounts => do
    let found ← askAccounts resolver AccountKind.destinations value
    noteOperator
      ("operator=" ++ op.name ++ " found " ++ toString found.length ++ " destination account(s)")
    return unlessEmpty .destinationAccounts found
  | .entities kind => do
    let found ← askEntities resolver kind value
    return unlessEmpty (.entities kind) found
  | .amount bound =>
    match Amount.read? value with
    | some amount => do
      noteOperator ("set \"" ++ op.name ++ "\" with value \"" ++ amount.toDecimal.print ++ "\"")
      return some (.amount bound (.finite amount.toDecimal))
    | none => .fail (.query (.invalidValue op.name value))
  | .day bound =>
    match Date.read? dates value with
    | .ok (some day) => return some (dayChange bound day)
    | .ok none => .fail (.query (.invalidValue op.name value))
    | .error e => .fail (.date e)
  | .literal target => return some (literalChange target value)
  | .nothing => do
    noteNode .info ("ignore search operator \"" ++ op.name ++ "\"")
    return none

/-- The change that a node makes. -/
def contribution (registry : Registry) (dates : DateReader) (resolver : Resolver) :
    Query.Node → Traced (Option Change)
  | .word text => do
    noteNode .debug "handle Word node"
    return some (.addWord text)
  | .phrase text => do
    noteNode .debug "handle Phrase node"
    return some (.addWord text)
  | .field name value => do
    noteNode .debug ("handle Field node " ++ name ++ ":" ++ value)
    match registry.get? name with
    | some op => change dates resolver op value
    | none =>
      noteNode .error ("no such operator: " ++ name)
      .fail (.query (.unknownOperator name))
  | .foreign kind => do
    noteNode .error ("cannot handle node " ++ kind)
    .fail (.query (.unsupportedNode kind))

def wordsOf : Query.Node → List String
  | .word text => [text]
  | .phrase text => [text]
  | _ => []

def modifiersOf (registry : Registry) : Query.Node → List Modifier
  | .field name value => ((registry.get? name).map (⟨·, value⟩)).toList
  | _ => []

/-! ## All nodes -/

/-- Applies what the nodes contribute to a draft, up to the first one that fails. -/
def collect (registry : Registry) (dates : DateReader) (resolver : Resolver) (draft : Draft) :
    List Query.Node → Traced Draft
  | [] => return draft
  | node :: nodes => do
    let change ← contribution registry dates resolver node
    collect registry dates resolver (change.elim draft draft.apply) nodes

/-- Interprets a list of nodes. -/
def process (registry : Registry) (dates : DateReader) (resolver : Resolver)
    (nodes : List Query.Node) : Traced Interpretation := do
  let draft ← collect registry dates resolver .empty nodes
  match draft.toFilter with
  | .ok filter => return ⟨nodes.flatMap wordsOf, nodes.flatMap (modifiersOf registry), filter⟩
  | .issues issues => .fail (.filter issues)

/-! ## Outcomes -/

section

variable (registry : Registry) (dates : DateReader) (resolver : Resolver)

/-- The change that an operator makes with a value, or why it makes none. -/
def change? (op : Operator) (value : String) : Except Failure (Option Change) :=
  (change dates resolver op value).outcome

/-- The change that a node makes, or why it makes none. -/
def contribution? (node : Query.Node) : Except Failure (Option Change) :=
  (contribution registry dates resolver node).outcome

/-- The draft with what the nodes contribute, or why there is none. -/
def drafted (draft : Draft) (nodes : List Query.Node) : Except Failure Draft :=
  (collect registry dates resolver draft nodes).outcome

/-- What a list of nodes means, or why it means nothing. -/
def ofNodes (nodes : List Query.Node) : Except Failure Interpretation :=
  (process registry dates resolver nodes).outcome

/-- The lookups that are made in interpreting a list of nodes. -/
def lookups (nodes : List Query.Node) : List Lookup :=
  (process registry dates resolver nodes).lookups

end

variable {registry : Registry} {dates : DateReader} {resolver : Resolver}

theorem change?_eq (op : Operator) (value : String) : change? dates resolver op value =
    match op.effect with
    | .sourceAccounts rule =>
      match resolver.accounts AccountKind.sources value (some searchLimit) with
      | .ok found =>
        .ok (unlessEmpty .sourceAccounts (found.filter fun a => agrees rule value a.name))
      | .error e => .error (.lookup e)
    | .destinationAccounts =>
      match resolver.accounts AccountKind.destinations value (some searchLimit) with
      | .ok found => .ok (unlessEmpty .destinationAccounts found)
      | .error e => .error (.lookup e)
    | .entities kind =>
      match resolver.entities kind value (limitOf kind) with
      | .ok found => .ok (unlessEmpty (.entities kind) found)
      | .error e => .error (.lookup e)
    | .amount bound =>
      match Amount.read? value with
      | some amount => .ok (some (.amount bound (.finite amount.toDecimal)))
      | none => .error (.query (.invalidValue op.name value))
    | .day bound =>
      match Date.read? dates value with
      | .ok (some day) => .ok (some (dayChange bound day))
      | .ok none => .error (.query (.invalidValue op.name value))
      | .error e => .error (.date e)
    | .literal target => .ok (some (literalChange target value))
    | .nothing => .ok none := by
  unfold change? change
  cases op.effect with
  | sourceAccounts rule =>
    simp only [askAccounts, Traced.outcome_bind, Traced.outcome_ask]
    cases resolver.accounts AccountKind.sources value (some searchLimit) <;> rfl
  | destinationAccounts =>
    simp only [askAccounts, Traced.outcome_bind, Traced.outcome_ask]
    cases resolver.accounts AccountKind.destinations value (some searchLimit) <;> rfl
  | entities kind =>
    simp only [askEntities, Traced.outcome_bind, Traced.outcome_ask]
    cases resolver.entities kind value (limitOf kind) <;> rfl
  | amount bound => dsimp only; cases Amount.read? value <;> rfl
  | day bound =>
    dsimp only
    cases Date.read? dates value with
    | error e => rfl
    | ok day => cases day <;> rfl
  | literal target => rfl
  | nothing => rfl

theorem contribution?_field (name value : String) :
    contribution? registry dates resolver (.field name value) =
      match registry.get? name with
      | some op => change? dates resolver op value
      | none => .error (.query (.unknownOperator name)) := by
  simp only [contribution?, contribution, noteNode, Traced.outcome_note_bind]
  cases registry.get? name <;> rfl

theorem drafted_nil (draft : Draft) : drafted registry dates resolver draft [] = .ok draft := rfl

theorem drafted_cons (draft : Draft) (node : Query.Node) (nodes : List Query.Node) :
    drafted registry dates resolver draft (node :: nodes) =
      match contribution? registry dates resolver node with
      | .ok change => drafted registry dates resolver (change.elim draft draft.apply) nodes
      | .error e => .error e := by
  simp only [drafted, collect, Traced.outcome_bind, contribution?]
  cases (contribution registry dates resolver node).outcome <;> rfl

theorem ofNodes_eq (nodes : List Query.Node) : ofNodes registry dates resolver nodes =
    match drafted registry dates resolver .empty nodes with
    | .error e => .error e
    | .ok draft =>
      match draft.toFilter with
      | .ok filter => .ok ⟨nodes.flatMap wordsOf, nodes.flatMap (modifiersOf registry), filter⟩
      | .issues issues => .error (.filter issues) := by
  simp only [ofNodes, process, Traced.outcome_bind, drafted]
  cases (collect registry dates resolver .empty nodes).outcome with
  | error e => rfl
  | ok draft =>
    dsimp only [Bind.bind, Except.bind]
    cases draft.toFilter <;> rfl

/-! ## Lookups -/

theorem lookups_eq (nodes : List Query.Node) : lookups registry dates resolver nodes =
    (collect registry dates resolver .empty nodes).lookups := by
  rw [lookups, process, Traced.lookups_bind]
  cases (collect registry dates resolver .empty nodes).outcome with
  | error e => exact List.append_nil _
  | ok draft =>
    dsimp only
    cases draft.toFilter <;> exact List.append_nil _

/-- What has been collected does not matter to the lookups. -/
theorem lookups_collect (draft : Draft) (nodes : List Query.Node) :
    (collect registry dates resolver draft nodes).lookups =
      lookups registry dates resolver nodes := by
  rw [lookups_eq]
  generalize Draft.empty = other
  induction nodes generalizing draft other with
  | nil => rfl
  | cons node nodes ih =>
    simp only [collect, Traced.lookups_bind]
    cases (contribution registry dates resolver node).outcome with
    | error e => rfl
    | ok change => exact congrArg _ (ih _ _)

theorem lookups_nil : lookups registry dates resolver [] = [] := rfl

theorem lookups_cons (node : Query.Node) (nodes : List Query.Node) :
    lookups registry dates resolver (node :: nodes) =
      (contribution registry dates resolver node).lookups ++
        match contribution? registry dates resolver node with
        | .ok _ => lookups registry dates resolver nodes
        | .error _ => [] := by
  rw [lookups_eq, collect, Traced.lookups_bind, contribution?]
  cases (contribution registry dates resolver node).outcome with
  | error e => rfl
  | ok change => exact congrArg _ (lookups_collect _ nodes)

end Interpretation

end LedgerSearch
