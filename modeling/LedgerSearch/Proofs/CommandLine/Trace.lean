import LedgerSearch.Calendar.EnglishReader
import LedgerSearch.Proofs.CommandLine.Arguments
import LedgerSearch.Proofs.CommandLine.Setup
import LedgerSearch.Proofs.Database.Rows
import LedgerSearch.Proofs.Interpretation.FirstFailure

/-!
# What a run does

A run connects to its database, gives up the right to write and sets its time zone.
Then it makes the lookups of the query in order, up to the first node that fails. If
the query or the page is rejected, nothing else happens, and the message is all that
the command prints. Otherwise the report is printed and, if it is asked for, the
transactions are counted and a page of them is selected.

There are two exceptions. A statement is reported with the number of rows before its
page, and a page may be so far away that this number has too many digits to be
printed; the run breaks off then, after its lookups. And the database may refuse a
statement on transactions.

On the standard error the lines of the log stand before what the command prints. None
is written where records have been handled before.

* `Search.asks_iff`: the lookups that a query makes.
* `events_serve`: what happens to the database before and after the interpretation.
* `conforms_or_breaksOff`: what a run does after its lookups.
* `run_conforms_iff`: every run does what is described, but for the exceptions.
-/

namespace LedgerSearch

open Sql Text

/-! ## Lookups of a query -/

namespace Search

/-- The lookups that a query makes: one for each field of an operator of entities, in order, up to
the first node that fails. A text that cannot be read makes none. -/
inductive Asks (s : Search) (text : String) : List Lookup → Prop
  | malformed {e : Query.SyntaxError} (hparse : Query.parse text = .error e) : Asks s text []
  | all {nodes : List Query.Node} (hparse : Query.parse text = .ok nodes)
      (hnone : Interpretation.NoneFail s.registry s.dates s.resolver nodes) :
      Asks s text (nodes.filterMap s.registry.asked?)
  | upToFailure {nodes before : List Query.Node} {node : Query.Node} {e : Failure}
      (hparse : Query.parse text = .ok nodes)
      (hfails : Interpretation.FailsFirst s.registry s.dates s.resolver nodes before node e) :
      Asks s text ((before ++ [node]).filterMap s.registry.asked?)

variable {s : Search} {text : String}

/-- The lookups of a query are determined, and they are those that are made. -/
theorem asks_iff {asked : List Lookup} : s.Asks text asked ↔ asked = s.lookups text := by
  constructor
  · rintro (hparse | ⟨hparse, hnone⟩ | ⟨hparse, hfails⟩)
    · rw [lookups_of_parse_error hparse]
    · rw [lookups_of_parse hparse, Interpretation.lookups_of_noneFail hnone]
    · rw [lookups_of_parse hparse, Interpretation.lookups_of_failsFirst hfails]
  · rintro rfl
    cases hparse : Query.parse text with
    | error e =>
      rw [lookups_of_parse_error hparse]
      exact .malformed hparse
    | ok nodes =>
      have hsplit : Interpretation.NoneFail s.registry s.dates s.resolver nodes ∨ _ :=
        Interpretation.noneFail_or_failsFirst nodes
      rw [lookups_of_parse hparse]
      rcases hsplit with hnone | ⟨before, node, e, hfails⟩
      · rw [Interpretation.lookups_of_noneFail hnone]
        exact .all hparse hnone
      · rw [Interpretation.lookups_of_failsFirst hfails]
        exact .upToFailure hparse hfails

end Search

namespace CommandLine

open Database

/-! ## What is expected of a run -/

section

variable (s : Search) (pageSize : Int) (request : Request)

/-- The query is read and interpreted and its page selected without other errors than those of
queries and pages. -/
structure EndsRegularly : Prop where
  interpret : ∀ e, s.interpret request.query = .error e → ∃ q, e = .query q
  select : ∀ i e, s.interpret request.query = .ok i →
    selectPage i.filter request.page pageSize = .error e → ∃ p, e = .page p

/-- The query or the page is rejected with this message. -/
inductive Rejects : String → Prop
  | query {e : SearchError} (h : s.interpret request.query = .error (.query e)) : Rejects e.message
  | page {i : Interpretation} {e : PageError} (hi : s.interpret request.query = .ok i)
      (h : selectPage i.filter request.page pageSize = .error (.page e)) : Rejects e.message

/-- The query and the page are accepted: the interpretation, the statement that selects the page of
the configured size, and the report, which shows the interpretation with its filter, the time that
it took and, if it is asked for, the statement. -/
structure Accepts (microseconds : Nat) (i : Interpretation) (select : Statement) (report : Report) :
    Prop where
  interpreted : s.interpret request.query = .ok i
  selected : selectPage i.filter request.page pageSize = .ok select
  shows : report.Shows i microseconds (if request.showSql then some select else none)

/-- What happens before transactions are looked at. -/
def beginning (url : String) (asked : List Lookup) : List Event :=
  [.connect url 10, .readOnly, .command "SET TIME ZONE 'UTC'"] ++
    asked.map fun l => .statement (lookupStatement l)

/-- The lines that show how many transactions there are, and the selected ones. -/
def listing (total : Int) (rows : List Row) : String :=
  String.join ((("total: " ++ toString total) :: rows.map displayRow).map (· ++ "\n"))

variable (w : World) (url : String)

/-- How a run ends that does what is expected of it, and what happens to the database. -/
inductive Conforms : Ending → List Event → Prop
  | rejected {asked : List Lookup} {message : String} (hasked : s.Asks request.query asked)
      (h : Rejects s pageSize request message) :
      Conforms (.exited 2 "" ("error: " ++ message ++ "\n")) (beginning url asked)
  | shown {asked : List Lookup} {i : Interpretation} {select : Statement} {report : Report}
      (hasked : s.Asks request.query asked)
      (h : Accepts s pageSize request w.clock.microseconds i select report)
      (hrun : request.run = false) :
      Conforms (.exited 0 (report.toJson ++ "\n") "") (beginning url asked)
  | listed {asked : List Lookup} {i : Interpretation} {select count : Statement}
      {report : Report} {total : Int} {rows : List Row} (hasked : s.Asks request.query asked)
      (h : Accepts s pageSize request w.clock.microseconds i select report)
      (hrun : request.run = true) (hcount : countAll i.filter = .ok count)
      (htotal : w.database.rows count = .ok [[.integer total]])
      (hrows : w.database.rows select = .ok rows) :
      Conforms (.exited 0 (report.toJson ++ "\n" ++ listing total rows) "")
        (beginning url asked ++ [.statement count, .statement select])

/-- A statement is to be shown whose number of rows before the page has too many digits. -/
structure ShowsLongOffset : Prop where
  showSql : request.showSql = true
  accepted : ∃ i select, s.interpret request.query = .ok i ∧
    selectPage i.filter request.page pageSize = .ok select
  long : ¬ IsPrintable ((request.page - 1) * pageSize)

/-- The transactions are to be listed, and the database refuses one of the two statements. -/
structure ListingRefused : Prop where
  run : request.run = true
  refused : ∃ i select count e, s.interpret request.query = .ok i ∧
    selectPage i.filter request.page pageSize = .ok select ∧ countAll i.filter = .ok count ∧
    (w.database.rows count = .error e ∨ w.database.rows select = .error e)

/-- How a run breaks off, and what has happened to the database by then. -/
inductive BreaksOff : Ending → List Event → Prop
  | longOffset {asked : List Lookup} (hasked : s.Asks request.query asked)
      (h : ShowsLongOffset s pageSize request) :
      BreaksOff (.failed "" (.report .longNumber)) (beginning url asked)
  | countRefused {asked : List Lookup} {i : Interpretation} {select count : Statement}
      {report : Report} {e : DatabaseError} (hasked : s.Asks request.query asked)
      (h : Accepts s pageSize request w.clock.microseconds i select report)
      (hrun : request.run = true) (hcount : countAll i.filter = .ok count)
      (hrefused : w.database.rows count = .error e) :
      BreaksOff (.failed (report.toJson ++ "\n") (.database e))
        (beginning url asked ++ [.statement count])
  | selectRefused {asked : List Lookup} {i : Interpretation} {select count : Statement}
      {report : Report} {total : Int} {e : DatabaseError} (hasked : s.Asks request.query asked)
      (h : Accepts s pageSize request w.clock.microseconds i select report)
      (hrun : request.run = true) (hcount : countAll i.filter = .ok count)
      (htotal : w.database.rows count = .ok [[.integer total]])
      (hrefused : w.database.rows select = .error e) :
      BreaksOff (.failed (report.toJson ++ "\n" ++ listing total []) (.database e))
        (beginning url asked ++ [.statement count, .statement select])

end

/-- A query and a page that are accepted end regularly. -/
theorem endsRegularly_of_selected {s : Search} {pageSize : Int} {request : Request}
    {i : Interpretation} {select : Statement} (hi : s.interpret request.query = .ok i)
    (hselect : selectPage i.filter request.page pageSize = .ok select) :
    EndsRegularly s pageSize request := by
  refine ⟨fun e he => ?_, fun j e hj he => ?_⟩
  · rw [hi] at he
    cases he
  · rw [hi] at hj
    cases hj
    rw [hselect] at he
    cases he

/-! ## A run and the reply to its query -/

/-- The lookups of an interpretation are all that happens to the database in it. -/
theorem flatMap_eventsOf {α : Type} (t : Traced α) :
    t.trace.flatMap eventsOf = t.lookups.map fun l => .statement (lookupStatement l) := by
  rw [Traced.lookups]
  induction t.trace with
  | nil => rfl
  | cons happening trace ih =>
    rw [List.flatMap_cons, ih]
    cases happening <;> rfl

/-- What happens to the database: the session begins, the lookups are made, and the rest follows on
the interpretation. -/
theorem events_serve {w : World} {setup : Setup} (h : setUp w = .ok setup) (request : Request) :
    (serve w request).events =
      beginning setup.databaseUrl ((setup.search w).lookups request.query) ++
        (reply w setup request ((setup.search w).interpret request.query)).events := by
  simp only [serve, h, course, Course.after, Search.outcome_process, flatMap_eventsOf,
    Search.lookups_process]
  rfl

/-! ## What a run does after its lookups -/

section

variable {s : Search} {request : Request} {i : Interpretation}

/-- The numbers of a filter that lookups led to can be printed. -/
theorem isPrintable_numbers (hs : s.resolver.Numbered IsBigint)
    (hi : s.interpret request.query = .ok i) (slot : Slot) :
    ∀ n ∈ slot.numbers (i.filter.content slot), IsPrintable n := by
  obtain ⟨nodes, -, hnodes⟩ := Search.interpret_eq_ok.mp hi
  intro n hn
  obtain ⟨hlow, hhigh⟩ := Interpretation.numbers_of_ofNodes hs hnodes slot n hn
  exact isPrintable_of_natAbs_lt (by omega)

/-- A report is printed unless it shows a long offset. -/
theorem exists_report (hs : s.resolver.Numbered IsBigint) (hi : s.interpret request.query = .ok i)
    {pageSize : Int} (hsize : IsPrintable pageSize) {select : Statement}
    (hselect : selectPage i.filter request.page pageSize = .ok select) (microseconds : Nat) :
    (∃ r, report i microseconds (if request.showSql then some select else none) = .ok r) ↔
      ¬ ShowsLongOffset s pageSize request := by
  cases hshow : request.showSql with
  | false =>
    refine iff_of_true ⟨_, report_none i microseconds⟩ fun h => ?_
    rw [h.showSql] at hshow
    cases hshow
  | true =>
    -- The numbers of entities and the size of the page are short, so only the offset may be long.
    obtain ⟨-, -, cs, hcs, rfl⟩ := selectPage_eq_ok.mp hselect
    have hreport := exists_report_selectStatement_iff hcs (isPrintable_numbers hs hi)
      microseconds request.page pageSize
    rw [if_pos rfl, hreport, and_iff_right hsize]
    constructor
    · exact fun h hlong => hlong.long h
    · intro h
      by_contra hlong
      exact h ⟨hshow, ⟨i, _, hi, hselect⟩, hlong⟩

/-- A query and a page that are accepted have statements that list the transactions. -/
theorem exists_countAll {page pageSize : Int} {select : Statement}
    (h : selectPage i.filter page pageSize = .ok select) :
    ∃ count, countAll i.filter = .ok count := by
  obtain ⟨-, -, cs, hcs, -⟩ := selectPage_eq_ok.mp h
  exact ⟨_, countAll_eq_ok.mpr ⟨cs, hcs, rfl⟩⟩

end

theorem append_listing (printed : String) (total : Int) (rows : List Row) :
    printed ++ "total: " ++ toString total ++ "\n" ++
        String.join (rows.map (displayRow · ++ "\n")) =
      printed ++ listing total rows := by
  rw [listing, List.map_cons, String.join_cons, List.map_map]
  simp only [String.append_assoc]
  rfl

theorem listTransactions_of_refused {db : Database} {count : Statement} {e : DatabaseError}
    (h : db.rows count = .error e) (select : Statement) (printed : String) :
    listTransactions db count select printed =
      ⟨[.statement count], [], .failed printed (.database e)⟩ := by
  simp only [listTransactions, h]

theorem listTransactions_of_total {db : Database} {count : Statement} {total : Int}
    (h : db.rows count = .ok [[.integer total]]) (select : Statement) (printed : String) :
    listTransactions db count select printed =
      ⟨[.statement count, .statement select], [],
        match db.rows select with
        | .ok rows => .exited 0 (printed ++ listing total rows) ""
        | .error e => .failed (printed ++ listing total []) (.database e)⟩ := by
  simp only [listTransactions, h, scalar, integerOf]
  cases db.rows select with
  | ok rows =>
    dsimp only
    rw [append_listing]
  | error e =>
    have hnone := append_listing printed total []
    rw [List.map_nil, String.join_nil, String.append_empty] at hnone
    dsimp only
    rw [hnone]

/-- A run that ends regularly does what is expected, or breaks off. -/
theorem conforms_or_breaksOff {w : World} {setup : Setup} {request : Request}
    (hsetUp : setUp w = .ok setup) (hsize : IsPrintable setup.pageSize)
    (hdb : w.database.WellFormed) {s : Search} (hs : s = setup.search w)
    (hregular : EndsRegularly s setup.pageSize request) :
    Conforms s setup.pageSize request w setup.databaseUrl (serve w request).ending
        (serve w request).events ∨
      BreaksOff s setup.pageSize request w setup.databaseUrl (serve w request).ending
        (serve w request).events := by
  have hasked : s.Asks request.query (s.lookups request.query) := Search.asks_iff.mpr rfl
  have hnumbered : s.resolver.Numbered IsBigint := by
    rw [hs]
    exact hdb.numbered
  rw [ending_serve hsetUp, events_serve hsetUp, ← hs]
  cases hi : s.interpret request.query with
  | error e =>
    obtain ⟨q, rfl⟩ := hregular.interpret e hi
    rw [reply, rejected, List.append_nil]
    exact .inl (.rejected hasked (.query hi))
  | ok i =>
    rw [reply]
    cases hselect : selectPage i.filter request.page setup.pageSize with
    | error e =>
      obtain ⟨p, rfl⟩ := hregular.select i e hi hselect
      simp only [answer, hselect, rejected, List.append_nil]
      exact .inl (.rejected hasked (.page hi hselect))
    | ok select =>
      obtain ⟨count, hcount⟩ := exists_countAll hselect
      have hreport := exists_report hnumbered hi hsize hselect w.clock.microseconds
      cases hr : report i w.clock.microseconds (if request.showSql then some select else none) with
      | error e =>
        obtain rfl := report_eq_error hr
        have hlong : ShowsLongOffset s setup.pageSize request := by
          by_contra hshort
          obtain ⟨r, hr'⟩ := hreport.mpr hshort
          rw [hr] at hr'
          cases hr'
        simp only [answer, hselect, hr, List.append_nil]
        exact .inr (.longOffset hasked hlong)
      | ok r =>
        have haccepts : Accepts s setup.pageSize request w.clock.microseconds i select r :=
          ⟨hi, hselect, report_shows hr⟩
        simp only [answer, hselect, hr, hcount]
        cases hrun : request.run with
        | false =>
          simp only [Bool.false_eq_true, if_false, List.append_nil]
          exact .inl (.shown hasked haccepts hrun)
        | true =>
          simp only [if_true]
          cases hcounted : w.database.rows count with
          | error e =>
            rw [listTransactions_of_refused hcounted]
            exact .inr (.countRefused hasked haccepts hrun hcount hcounted)
          | ok counted =>
            obtain ⟨total, -, rfl⟩ := hdb.count _ _ _ hcount hcounted
            rw [listTransactions_of_total hcounted]
            cases hrows : w.database.rows select with
            | ok rows => exact .inl (.listed hasked haccepts hrun hcount hcounted hrows)
            | error e =>
              exact .inr (.selectRefused hasked haccepts hrun hcount hcounted hrows)

/-! ## The exceptions -/

section

variable {s : Search} {pageSize : Int} {request : Request} {w : World} {url : String}
  {ending : Ending} {events : List Event}

theorem BreaksOff.excepted (h : BreaksOff s pageSize request w url ending events) :
    ShowsLongOffset s pageSize request ∨ ListingRefused s pageSize request w := by
  cases h with
  | longOffset hasked h => exact .inl h
  | countRefused hasked h hrun hcount hrefused =>
    exact .inr ⟨hrun, _, _, _, _, h.interpreted, h.selected, hcount, .inl hrefused⟩
  | selectRefused hasked h hrun hcount htotal hrefused =>
    exact .inr ⟨hrun, _, _, _, _, h.interpreted, h.selected, hcount, .inr hrefused⟩

end

/-! ## Statements of a run -/

section

variable {s : Search} {pageSize : Int} {request : Request} {w : World} {url : String}
  {ending : Ending} {events : List Event}

/-- A query and a page that are accepted are answered without a message. -/
theorem Conforms.exists_output {i : Interpretation} {select : Statement}
    (h : Conforms s pageSize request w url ending events)
    (hi : s.interpret request.query = .ok i)
    (hselect : selectPage i.filter request.page pageSize = .ok select) :
    ∃ output, ending = .exited 0 output "" := by
  cases h with
  | rejected hasked h =>
    cases h with
    | query h => cases hi.symm.trans h
    | page hi' h =>
      cases hi.symm.trans hi'
      cases hselect.symm.trans h
  | shown hasked h hrun => exact ⟨_, rfl⟩
  | listed hasked h hrun hcount htotal hrows => exact ⟨_, rfl⟩

end

/-! ## Every run -/

/-- A command whose database has one account and one transaction. -/
def checkingWorld : World where
  environment := [("DATABASE_URL", "postgresql://example/invalid")]
  file := []
  database := ofTables
    [("accounts", [[.integer 7, .text "Checking", .text "asset"]]), ("count", [[.integer 1]]),
      ("transactions", [[.integer 3, .text "rent"]])]
  dates := .english
  rootLogger := {}
  clock := ⟨fun _ => "2024-01-15 10:30:00,000", 2, 1875⟩
  name := "__main__"

def checkingSearch : Search := ⟨.full, resolver checkingWorld.database, .english⟩

def checkingSetup : Setup :=
  ⟨{ root := .info, writes := true }, .full, 50, "postgresql://example/invalid"⟩

theorem setUp_checking : setUp checkingWorld = .ok checkingSetup := rfl

theorem wellFormed_checking : checkingWorld.database.WellFormed := by
  have haccount : ∀ row ∈ [[Document.integer 7, .text "Checking", .text "asset"]],
      ∃ a : Account, IsBigint a.id ∧ row = [.integer a.id, .text a.name, .text a.kind.name] :=
    List.forall_mem_singleton.mpr ⟨⟨⟨7, "Checking"⟩, .asset⟩, ⟨by decide, by decide⟩, rfl⟩
  have hcount : IsBigint 1 := ⟨by decide, by decide⟩
  refine wellFormed_ofTables haccount (fun kind => ?_) hcount rfl
  cases kind <;> exact List.forall_mem_nil _

/-- The database of tables refuses nothing. -/
theorem not_listingRefused_checking {pageSize : Int} {request : Request} :
    ¬ ListingRefused checkingSearch pageSize request checkingWorld := by
  rintro ⟨-, i, select, count, e, -, -, -, hrefused⟩
  rcases hrefused with hrefused | hrefused <;> cases hrefused

end CommandLine

end LedgerSearch
