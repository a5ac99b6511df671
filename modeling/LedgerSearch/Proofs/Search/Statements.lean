import LedgerSearch.Calendar.EnglishReader
import LedgerSearch.Proofs.Interpretation.Failure
import LedgerSearch.Proofs.Query.Parsing
import LedgerSearch.Proofs.Sql.Conditions
import LedgerSearch.Search

/-!
# From a query to its statements

A query is interpreted first, and then its filter gives the statement that selects
a page and the one that counts. A value that is no day is an error of the query. Two
values at the edges of the calendar are not: a day that the reader of dates finds
outside fails when it is read, such as that of a time of day with no day in universal
time, and the last day, which has no day after it, fails only when the statements are
made.
-/

namespace LedgerSearch

open Calendar Notation Sql

/-- Why a query and a page give no statements. -/
inductive StatementsError where
  | interpretation (failure : Failure)
  | statement (error : StatementError)
  deriving DecidableEq

namespace Search

/-- The statements of a query: the one that selects a page, and the one that counts. -/
def statements (s : Search) (text : String) (page pageSize : Int) :
    Except StatementsError (Statement × Statement) :=
  match s.interpret text with
  | .error e => .error (.interpretation e)
  | .ok i =>
    match selectPage i.filter page pageSize with
    | .error e => .error (.statement e)
    | .ok select =>
      match countAll i.filter with
      | .error e => .error (.statement (.date e))
      | .ok count => .ok (select, count)

/-- The query has its statements, or it is wrong. -/
def EndsWell (s : Search) (text : String) (page pageSize : Int) : Prop :=
  (∃ both, s.statements text page pageSize = .ok both) ∨
    ∃ e, s.statements text page pageSize = .error (.interpretation (.query e))

/-- The query points outside the calendar before anything else in it fails, or nothing in it fails
and its filter names the last day. -/
def MeetsCalendarEdge (s : Search) (text : String) : Prop :=
  (∃ nodes, Query.parse text = .ok nodes ∧
    Interpretation.LeavesCalendar s.registry s.dates s.resolver nodes) ∨
  ∃ i, s.interpret text = .ok i ∧ Date.last ∈ i.filter.days

theorem statements_of_interpret {s : Search} {text : String} {page pageSize : Int}
    {i : Interpretation} (hpage : 1 ≤ page) (hsize : 1 ≤ pageSize) (hi : s.interpret text = .ok i) :
    s.statements text page pageSize =
      match Condition.ofFilter i.filter with
      | .ok cs => .ok (selectStatement cs page pageSize, countStatement cs)
      | .error e => .error (.statement (.date e)) := by
  rw [statements, hi]
  simp only [selectPage_of_valid hpage hsize, countAll]
  cases Condition.ofFilter i.filter <;> rfl

theorem endsWell_of_interpret {s : Search} {text : String} {page pageSize : Int}
    {i : Interpretation} (hpage : 1 ≤ page) (hsize : 1 ≤ pageSize) (hi : s.interpret text = .ok i) :
    s.EndsWell text page pageSize ↔ Date.last ∉ i.filter.days := by
  have hdays : Date.last ∉ i.filter.days ↔ ∃ cs, Condition.ofFilter i.filter = .ok cs := by
    rw [Condition.exists_ofFilter_iff]
    constructor
    · rintro h d hd rfl
      exact h hd
    · intro h hlast
      exact h _ hlast rfl
  rw [hdays, EndsWell, statements_of_interpret hpage hsize hi]
  cases Condition.ofFilter i.filter with
  | ok cs => exact iff_of_true (.inl ⟨_, rfl⟩) ⟨cs, rfl⟩
  | error e =>
    apply iff_of_false
    · rintro (⟨both, h⟩ | ⟨e', h⟩) <;> cases h
    · rintro ⟨cs, h⟩
      cases h

theorem endsWell_of_error {s : Search} {text : String} {page pageSize : Int} {e : Failure}
    (he : s.interpret text = .error e) :
    s.EndsWell text page pageSize ↔ ∃ q, e = .query q := by
  have hstatements : s.statements text page pageSize = .error (.interpretation e) := by
    rw [statements, he]
  rw [EndsWell, hstatements]
  constructor
  · rintro (⟨both, h⟩ | ⟨q, h⟩)
    · cases h
    · cases h
      exact ⟨q, rfl⟩
  · rintro ⟨q, rfl⟩
    exact .inr ⟨q, rfl⟩

theorem interpret_of_leavesCalendar {s : Search} {text : String} {nodes : List Query.Node}
    (hparse : Query.parse text = .ok nodes)
    (h : Interpretation.LeavesCalendar s.registry s.dates s.resolver nodes) :
    s.interpret text = .error (.date .outOfRange) := by
  rw [interpret_of_parse hparse]
  exact Interpretation.ofNodes_of_leavesCalendar h

theorem interpret_eq_error {registry : Registry} {c : Catalogue} {dates : DateReader}
    {text : String} {e : Failure} (h : interpret ⟨registry, c.resolver, dates⟩ text = .error e) :
    (∃ q, e = .query q) ∨
      (e = .date .outOfRange ∧ ∃ nodes, Query.parse text = .ok nodes ∧
        Interpretation.LeavesCalendar registry dates c.resolver nodes) := by
  cases hparse : Query.parse text with
  | error reason =>
    rw [interpret_of_parse_error hparse] at h
    cases h
    exact .inl ⟨_, rfl⟩
  | ok nodes =>
    rw [interpret_of_parse hparse] at h
    rcases Interpretation.ofNodes_eq_error h with hq | ⟨rfl, hleaves⟩
    · exact .inl hq
    · exact .inr ⟨rfl, nodes, rfl, hleaves⟩

/-- A text of one lexeme. -/
theorem parse_of_lexeme {text : String} {c : Char} {node : Option Query.Node}
    (hhead : text.toList.head? = some c) (hc : Text.isBlank c = false)
    (h : Query.lexeme text.toList = .ok (node, [])) : Query.parse text = .ok node.toList := by
  obtain ⟨cs, hcs⟩ := List.head?_eq_some_iff.mp hhead
  rw [hcs] at h
  refine Query.parse_of_nodes ?_
  rw [hcs, Query.nodes_lexeme hc h, Query.nodes_nil]
  exact congrArg Except.ok (List.append_nil _)

/-- With a catalogue, a query gives its statements or an error of its own, unless it meets the edges
of the calendar. A date with a time of day points outside the calendar exactly if its day in
universal time lies there. -/
theorem endsWell_iff_not_meetsCalendarEdge (registry : Registry) (c : Catalogue)
    (dates : DateReader) (text : String) {page pageSize : Int} (hpage : 1 ≤ page)
    (hsize : 1 ≤ pageSize) :
    (EndsWell ⟨registry, c.resolver, dates⟩ text page pageSize ↔
      ¬ MeetsCalendarEdge ⟨registry, c.resolver, dates⟩ text) ∧
    (dates.ReadsTimestamps → ∀ op ∈ registry.operators, ∀ bound, op.effect = .day bound →
      ∀ d, ∀ separator ∈ clockSeparators, ∀ t clock offset zone, WritesClock t clock →
        WritesOffset offset zone →
        (Interpretation.PointsOutside registry dates
            (.field op.name (String.ofList (timestamp d separator clock zone))) ↔
          universalDay d t.minutes offset < 1 ∨
            (Date.last.dayNumber : Int) < universalDay d t.minutes offset)) := by
  refine ⟨?_, fun hdates op hop bound heffect d separator hseparator t clock offset zone hclock
    hzone => Interpretation.pointsOutside_timestamp_iff hdates hop heffect hseparator hclock hzone⟩
  cases hi : interpret ⟨registry, c.resolver, dates⟩ text with
  | ok i =>
    rw [endsWell_of_interpret hpage hsize hi, not_iff_not]
    constructor
    · intro hlast
      exact .inr ⟨i, hi, hlast⟩
    · rintro (⟨nodes, hparse, hnodes⟩ | ⟨i', hi', hlast⟩)
      · rw [interpret_of_leavesCalendar hparse hnodes] at hi
        cases hi
      · rw [hi] at hi'
        cases hi'
        exact hlast
  | error e =>
    rw [endsWell_of_error hi]
    constructor
    · rintro ⟨q, rfl⟩ (⟨nodes, hparse, hnodes⟩ | ⟨i, hi', -⟩)
      · rw [interpret_of_leavesCalendar hparse hnodes] at hi
        cases hi
      · rw [hi] at hi'
        cases hi'
    · intro hedge
      rcases interpret_eq_error hi with hq | ⟨-, nodes, hparse, hnodes⟩
      · exact hq
      · exact absurd (.inl ⟨nodes, hparse, hnodes⟩) hedge

/-- The last day has no day after it. -/
theorem not_endsWell_lastDay :
    ¬ EndsWell ⟨.full, Catalogue.resolver {}, .english⟩ "on:9999-12-31" 1 50 := by
  have hlexeme : Query.lexeme "on:9999-12-31".toList =
      .ok (some (.field "on" "9999-12-31"), []) := rfl
  have hparse : Query.parse "on:9999-12-31" = .ok [.field "on" "9999-12-31"] :=
    parse_of_lexeme rfl (by decide) hlexeme
  have hfilter : ∃ i, interpret ⟨.full, Catalogue.resolver {}, .english⟩ "on:9999-12-31" = .ok i ∧
      Date.last ∈ i.filter.days := by
    rw [interpret_of_parse hparse]
    exact ⟨_, rfl, List.mem_cons_self⟩
  intro h
  have hone : (1 : Int) ≤ 1 := Int.le_refl 1
  have hfifty : (1 : Int) ≤ 50 := by decide
  obtain ⟨hedge, -⟩ :=
    endsWell_iff_not_meetsCalendarEdge .full {} .english "on:9999-12-31" hone hfifty
  exact hedge.mp h (.inr hfilter)

/-- The midnight that begins the first day of the calendar one hour east of universal time belongs
to the day before in universal time, which the calendar does not have. -/
theorem not_endsWell_beforeFirstDay :
    ¬ EndsWell ⟨.full, Catalogue.resolver {}, .english⟩ "on:0001-01-01T00:00:00+01:00" 1 50 ∧
      ∀ dates : DateReader, dates.ReadsTimestamps →
        ¬ EndsWell ⟨.full, Catalogue.resolver {}, dates⟩ "on:0001-01-01T00:00:00+01:00" 1 50 := by
  have hlexeme : Query.lexeme "on:0001-01-01T00:00:00+01:00".toList =
      .ok (some (.field "on" "0001-01-01T00:00:00+01:00"), []) := rfl
  have hparse : Query.parse "on:0001-01-01T00:00:00+01:00" =
      .ok [.field "on" "0001-01-01T00:00:00+01:00"] :=
    parse_of_lexeme rfl (by decide) hlexeme
  have hon : Operator.on ∈ Registry.full.operators := by decide
  have hletter : 'T' ∈ clockSeparators := by decide
  obtain ⟨d, hd⟩ : ∃ d : Date, d = ⟨1, 1, 1, by decide⟩ := ⟨_, rfl⟩
  obtain ⟨t, ht⟩ : ∃ t : TimeOfDay, t = ⟨0, 0, 0, by decide, by decide, by decide⟩ := ⟨_, rfl⟩
  have hclock : WritesClock t (t.toChars ++ []) := .seconds (.inl rfl)
  have hzone := @WritesOffset.ahead 1 0 [] [':'] (by decide) (by decide) (by decide) (by decide)
  have hbefore : universalDay d t.minutes (60 * (1 : Nat) + (0 : Nat)) < 1 := by
    subst hd ht
    decide
  have hnot : ∀ dates : DateReader, dates.ReadsTimestamps →
      ¬ EndsWell ⟨.full, Catalogue.resolver {}, dates⟩ "on:0001-01-01T00:00:00+01:00" 1 50 := by
    intro dates hdates
    have hpoints := (Interpretation.pointsOutside_timestamp_iff hdates hon rfl hletter hclock
      hzone).mpr (.inl hbefore)
    subst hd ht
    have hleaves : Interpretation.LeavesCalendar .full dates (Catalogue.resolver {})
        [.field "on" "0001-01-01T00:00:00+01:00"] :=
      ⟨[], _, [], rfl, List.forall_mem_nil _, hpoints⟩
    rw [endsWell_of_error (interpret_of_leavesCalendar hparse hleaves)]
    rintro ⟨q, h⟩
    cases h
  exact ⟨hnot _ DateReader.readsTimestamps_english, hnot⟩

end Search

end LedgerSearch
