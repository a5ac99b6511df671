import LedgerSearch.Interpretation

/-!
# Searches

A search reads a query text and interprets its nodes. It keeps nothing from one
query to the next. How long it takes is reported, and does not matter otherwise.

* `outcome_process`, `lookups_process`: what the time does not matter to.
* `interpret_eq_ok`: a query has an interpretation if its text is read and its nodes have one.
-/

namespace LedgerSearch

/-- A search: the operators it accepts, who answers its lookups, and who reads its dates. -/
structure Search where
  registry : Registry
  resolver : Resolver
  dates : Calendar.DateReader

namespace Search

/-- A record on a query text. -/
def noteQuery (level : LogLevel) (message : String) : Traced Unit :=
  .note level "src.search.service" message

/-- What is reported of an interpretation that took so long. -/
def summary (nodes : List Query.Node) (i : Interpretation) (milliseconds : Nat) : String :=
  "parsed nodes=" ++ toString nodes.length ++ " words=" ++ toString i.words.length ++
    " modifiers=" ++ toString i.modifiers.length ++ " latency_ms=" ++ toString milliseconds

/-- Interprets a query text in so many milliseconds. -/
def process (s : Search) (milliseconds : Nat) (text : String) : Traced Interpretation :=
  match Query.parse text with
  | .ok nodes => do
    noteQuery .debug ("found " ++ toString nodes.length ++ " node(s)")
    let i ← Interpretation.process s.registry s.dates s.resolver nodes
    noteQuery .info (summary nodes i milliseconds)
    return i
  | .error e => .fail (.query (.malformed e))

/-- What a query text means, or why it means nothing. -/
def interpret (s : Search) (text : String) : Except Failure Interpretation :=
  (s.process 0 text).outcome

/-- The lookups made in interpreting a query text. -/
def lookups (s : Search) (text : String) : List Lookup :=
  (s.process 0 text).lookups

variable {s : Search} {text : String} {nodes : List Query.Node}

theorem outcome_process (milliseconds : Nat) :
    (s.process milliseconds text).outcome = s.interpret text := by
  simp only [interpret, process]
  cases Query.parse text with
  | error e => rfl
  | ok nodes =>
    simp only [noteQuery, Traced.outcome_bind]
    cases (Interpretation.process s.registry s.dates s.resolver nodes).outcome <;> rfl

theorem lookups_process (milliseconds : Nat) :
    (s.process milliseconds text).lookups = s.lookups text := by
  simp only [lookups, process]
  cases Query.parse text with
  | error e => rfl
  | ok nodes =>
    simp only [noteQuery, Traced.lookups_bind]
    cases (Interpretation.process s.registry s.dates s.resolver nodes).outcome <;> rfl

theorem interpret_of_parse (h : Query.parse text = .ok nodes) :
    s.interpret text = Interpretation.ofNodes s.registry s.dates s.resolver nodes := by
  simp only [interpret, process, h, Interpretation.ofNodes, noteQuery, Traced.outcome_bind]
  cases (Interpretation.process s.registry s.dates s.resolver nodes).outcome <;> rfl

theorem interpret_of_parse_error {e : Query.SyntaxError} (h : Query.parse text = .error e) :
    s.interpret text = .error (.query (.malformed e)) := by
  simp only [interpret, process, h, Traced.outcome_fail]

theorem lookups_of_parse (h : Query.parse text = .ok nodes) :
    s.lookups text = Interpretation.lookups s.registry s.dates s.resolver nodes := by
  simp only [lookups, process, h, Interpretation.lookups, noteQuery, Traced.lookups_bind]
  cases (Interpretation.process s.registry s.dates s.resolver nodes).outcome with
  | error e => exact List.append_nil _
  | ok i => exact List.append_nil _

theorem lookups_of_parse_error {e : Query.SyntaxError} (h : Query.parse text = .error e) :
    s.lookups text = [] := by
  simp only [lookups, process, h, Traced.lookups_fail]

theorem interpret_eq_ok {i : Interpretation} :
    s.interpret text = .ok i ↔
      ∃ nodes, Query.parse text = .ok nodes ∧
        Interpretation.ofNodes s.registry s.dates s.resolver nodes = .ok i := by
  cases hparse : Query.parse text with
  | error e => simp [interpret_of_parse_error hparse]
  | ok nodes => simp [interpret_of_parse hparse]

end Search

/-- The words of an interpretation with single spaces between them. -/
def Interpretation.text (i : Interpretation) : String :=
  " ".intercalate i.words

end LedgerSearch
