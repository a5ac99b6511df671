import LedgerSearch.Proofs.CommandLine.Trace
import LedgerSearch.Proofs.Sql.Everything

/-!
# Reports on filters that constrain nothing

A report flags a query whose filter constrains nothing. The statement that is
printed with the flag, and executed after it, then lists a page of all transactions.
Without the flag it does so as well if the filter is vacuous, and only then.

* `exists_succeeds_of_run`: what a run that ends well has printed and executed.
* `isEmpty_iff_unconstrained`: what the flag says of the statement.
-/

namespace LedgerSearch

open Calendar Sql

namespace CommandLine

open Database

/-! ## Runs that end well -/

/-- The run accepts a query and prints a report on it, and if it is asked to, it executes the
statement of the page at last. -/
structure Succeeds (w : World) (arguments : List String) (output : String) (request : Request)
    (setup : Setup) (i : Interpretation) (select : Statement) (report : Report) : Prop where
  asked : Request.ofArguments arguments = .ok request
  isSetUp : setUp w = .ok setup
  accepts : Accepts (setup.search w) setup.pageSize request w.clock.microseconds i select report
  printed : ∃ rest, output = report.toJson ++ "\n" ++ rest
  executed : request.run = true →
    ∃ before, (run w arguments).events = before ++ [.statement select]

section

variable {w : World} {setup : Setup} {request : Request} {i : Interpretation}
  {output errors : String}

/-- An answer that ends well has listed the transactions after what it has printed before. -/
theorem exists_printed_of_listTransactions {db : Database} {count select : Statement}
    {printed : String}
    (h : (listTransactions db count select printed).ending = .exited 0 output errors) :
    (∃ rest, output = printed ++ rest) ∧
      (listTransactions db count select printed).events =
        [.statement count, .statement select] := by
  unfold listTransactions at h ⊢
  split at h
  · cases h
  · split at h
    · cases h
    · dsimp only at h ⊢
      split at h
      · cases h
      · cases h
        exact ⟨⟨_, append_listing printed _ _⟩, rfl⟩

theorem exists_report_of_answer
    (h : (answer w setup request i).ending = .exited 0 output errors) :
    ∃ select r, selectPage i.filter request.page setup.pageSize = .ok select ∧
      report i w.clock.microseconds (if request.showSql then some select else none) = .ok r ∧
      (∃ rest, output = r.toJson ++ "\n" ++ rest) ∧
      (request.run = true →
        ∃ before, (answer w setup request i).events = before ++ [.statement select]) := by
  cases hselect : selectPage i.filter request.page setup.pageSize with
  | error e =>
    cases e with
    | page e => simp [answer, hselect, rejected] at h
    | date e => simp [answer, hselect] at h
  | ok select =>
    cases hreport : report i w.clock.microseconds
        (if request.showSql then some select else none) with
    | error e => simp [answer, hselect, hreport] at h
    | ok r =>
      refine ⟨select, r, rfl, hreport, ?_⟩
      simp only [answer, hselect, hreport] at h ⊢
      cases hrun : request.run with
      | false =>
        simp only [hrun, Bool.false_eq_true, if_false, Ending.exited.injEq] at h ⊢
        exact ⟨⟨"", by rw [String.append_empty, ← h.2.1]⟩, fun hfalse => hfalse.elim⟩
      | true =>
        simp only [hrun, if_true] at h ⊢
        cases hcount : countAll i.filter with
        | error e => simp [hcount] at h
        | ok count =>
          simp only [hcount] at h ⊢
          obtain ⟨hprinted, hevents⟩ := exists_printed_of_listTransactions h
          exact ⟨hprinted, fun _ => ⟨[.statement count], hevents⟩⟩

end

/-- A run that ends well has accepted its query. -/
theorem exists_succeeds_of_run {w : World} {arguments : List String} {output errors : String}
    (h : (run w arguments).ending = .exited 0 output errors) :
    ∃ request setup i select report,
      Succeeds w arguments output request setup i select report := by
  cases hrequest : Request.ofArguments arguments with
  | error refusal => simp [run, hrequest] at h
  | ok request =>
    have hrun : run w arguments = serve w request := by rw [run, hrequest]
    cases hsetUp : setUp w with
    | error e => simp [hrun, serve, hsetUp] at h
    | ok setup =>
      have hevents := events_serve hsetUp request
      rw [hrun, ending_serve hsetUp] at h
      cases hi : (setup.search w).interpret request.query with
      | error e =>
        rw [hi] at h
        cases e <;> simp [reply, rejected] at h
      | ok i =>
        rw [hi, reply] at h
        rw [hi, reply] at hevents
        obtain ⟨select, r, hselect, hreport, hprinted, hexecuted⟩ := exists_report_of_answer h
        refine ⟨request, setup, i, select, r, hrequest, hsetUp,
          ⟨hi, hselect, report_shows hreport⟩, hprinted, fun hasked => ?_⟩
        obtain ⟨before, hbefore⟩ := hexecuted hasked
        rw [hrun, hevents, hbefore, ← List.append_assoc]
        exact ⟨_, rfl⟩

/-! ## The flag -/

/-- A filter constrains nothing if and only if its document is empty, and if and only if its
statements have no clause that restricts the rows and no values but those of the page. It is vacuous
then; and a filter is vacuous if and only if its statements select every transaction, and if and
only if one of its pages is always a page of all transactions. So where a run that ends well has
flagged the query, the statement that it has printed or executed lists a page of all transactions;
and where it has not, some table has transactions that are left out, unless the filter is vacuous.
-/
theorem isEmpty_iff_unconstrained :
    (∀ (f : Filter) (count : Statement), countAll f = .ok count →
      ∀ page pageSize : Int, 1 ≤ page → 1 ≤ pageSize →
        ∃ select, selectPage f page pageSize = .ok select ∧
          [f.isEmpty = true,
            f.toDocument = .object [],
            ¬ count.HasWhere,
            count.params = [],
            select.params = [.integer pageSize, .integer ((page - 1) * pageSize)] ∧
              ¬ select.HasWhere].TFAE ∧
          ∀ since : Option Date,
            (f.isEmpty = true → f.IsVacuous since) ∧
            [f.IsVacuous since, count.SelectsAll since, select.SelectsAll since,
              select.ListsAll since page pageSize].TFAE) ∧
    ∀ (w : World) (arguments : List String) (output errors : String),
      (run w arguments).ending = .exited 0 output errors →
        ∃ request setup i select report,
          Succeeds w arguments output request setup i select report ∧
          Document.field? report.interpretationFields "unfiltered" =
            some (.bool report.unfiltered) ∧
          (request.showSql = true →
            Document.field? report.statementFields "sql" = some (.text select.text)) ∧
          ∀ since : Option Date,
            (report.unfiltered = true → select.ListsAll since request.page setup.pageSize) ∧
            (report.unfiltered = false →
              (select.ListsAll since request.page setup.pageSize ↔
                i.filter.IsVacuous since)) := by
  constructor
  · intro f count hcount page pageSize hpage hsize
    obtain ⟨cs, hcs, rfl⟩ := countAll_eq_ok.mp hcount
    refine ⟨_, selectPage_eq_ok.mpr ⟨hpage, hsize, cs, hcs, rfl⟩, isEmpty_tfae hcs page pageSize,
      fun since => ⟨fun hempty => ?_, ?_⟩⟩
    · rw [Filter.isEmpty_iff.mp hempty]
      exact Filter.isVacuous_empty since
    · apply List.tfae_of_forall (f.IsVacuous since)
      simp only [List.forall_mem_cons, List.not_mem_nil, false_imp_iff, implies_true, and_true]
      exact ⟨trivial, selectsAll_countStatement_iff hcs,
        selectsAll_selectStatement_iff hcs page pageSize,
        listsAll_selectStatement_iff hcs hpage hsize⟩
  · intro w arguments output errors h
    obtain ⟨request, setup, i, select, report, hsucceeds⟩ := exists_succeeds_of_run h
    obtain ⟨hpage, hsize, cs, hcs, rfl⟩ := selectPage_eq_ok.mp hsucceeds.accepts.selected
    have hlists (since : Option Date) :
        (selectStatement cs request.page setup.pageSize).ListsAll since request.page
          setup.pageSize ↔ i.filter.IsVacuous since :=
      listsAll_selectStatement_iff hcs hpage hsize
    refine ⟨request, setup, i, _, report, hsucceeds, rfl, fun hshow => ?_, fun since =>
      ⟨fun hflag => ?_, fun _ => hlists since⟩⟩
    · have hshows := hsucceeds.accepts.shows
      rw [if_pos hshow] at hshows
      obtain ⟨shown, hstatement, hshown⟩ := hshows.exists_shown
      rw [Report.statementFields, hstatement, ← hshown.text]
      rfl
    · rw [hlists, Filter.isEmpty_iff.mp (hsucceeds.accepts.shows.unfiltered.symm.trans hflag)]
      exact Filter.isVacuous_empty since

/-- A query that the checking command accepts, with a page that is not too far away, is answered. -/
theorem exists_succeeds_checking {arguments : List String} {request : Request} {i : Interpretation}
    {select : Statement} (hrequest : Request.ofArguments arguments = .ok request)
    (hi : checkingSearch.interpret request.query = .ok i)
    (hselect : selectPage i.filter request.page 50 = .ok select)
    (hshort : Text.IsPrintable ((request.page - 1) * 50)) :
    ∃ output, (run checkingWorld arguments).ending = .exited 0 output "" ∧
      ∃ report, Succeeds checkingWorld arguments output request checkingSetup i select report := by
  have hrun : run checkingWorld arguments = serve checkingWorld request := by rw [run, hrequest]
  have hsize : Text.IsPrintable checkingSetup.pageSize := Text.isPrintable_of_natAbs_lt (by decide)
  obtain ⟨output, hends⟩ :
      ∃ output, (run checkingWorld arguments).ending = .exited 0 output "" := by
    rw [hrun]
    rcases conforms_or_breaksOff setUp_checking hsize wellFormed_checking rfl
      (endsRegularly_of_selected hi hselect) with hconforms | hbreaks
    · exact hconforms.exists_output hi hselect
    · rcases hbreaks.excepted with hlong | hrefused
      · exact absurd hshort hlong.long
      · exact absurd hrefused not_listingRefused_checking
  obtain ⟨request', setup, i', select', report, hsucceeds⟩ := exists_succeeds_of_run hends
  cases hrequest.symm.trans hsucceeds.asked
  cases setUp_checking.symm.trans hsucceeds.isSetUp
  cases hi.symm.trans hsucceeds.accepts.interpreted
  cases hselect.symm.trans hsucceeds.accepts.selected
  exact ⟨output, hends, report, hsucceeds⟩

/-- An amount of zero and an empty text are constraints, and a transaction may fail the latter. A
query without words is flagged, and all transactions are listed. -/
theorem isEmpty_iff_unconstrained_zero :
    (let f : Filter := { amountMin := some ⟨⟨false, 0, 0⟩, by decide⟩, externalId := some "" }
      ∃ count select, countAll f = .ok count ∧ selectPage f 1 50 = .ok select ∧
        f.isEmpty = false ∧ count.HasWhere ∧ ¬ select.SelectsAll none) ∧
    ∃ output, (run checkingWorld ["", "--run"]).ending = .exited 0 output "" ∧
      ∃ request setup i select report,
        Succeeds checkingWorld ["", "--run"] output request setup i select report ∧
        report.unfiltered = true ∧ select.ListsAll none 1 50 := by
  obtain ⟨hfilters, hruns⟩ := isEmpty_iff_unconstrained
  constructor
  · intro f
    obtain ⟨count, hcount⟩ : ∃ count, countAll f = .ok count := ⟨_, rfl⟩
    obtain ⟨select, hselect, hequivalent, hvacuous⟩ :=
      hfilters f count hcount 1 50 (by decide) (by decide)
    have hset : ¬ f.isEmpty = true := by decide
    refine ⟨count, select, hcount, hselect, by simpa using hset, ?_, ?_⟩
    · by_contra hwhere
      exact hset ((hequivalent.out 0 2).mpr hwhere)
    · intro hall
      have hleaves : f.IsVacuous none := ((hvacuous none).2.out 0 2).mpr hall
      exact absurd hleaves.others (by decide)
  · have hi : checkingSearch.interpret "" = .ok ⟨[], [], {}⟩ := by decide +kernel
    have hshort : Text.IsPrintable ((1 - 1) * 50) := Text.isPrintable_of_natAbs_lt (by decide)
    have hrequest : Request.ofArguments ["", "--run"] = .ok ⟨"", 1, false, true⟩ := rfl
    obtain ⟨output, hends, report', hsucceeds'⟩ :=
      exists_succeeds_checking hrequest hi rfl hshort
    obtain ⟨request, setup, i, select, report, hsucceeds, -, -, hflag⟩ := hruns _ _ _ _ hends
    cases hrequest.symm.trans hsucceeds.asked
    cases setUp_checking.symm.trans hsucceeds.isSetUp
    cases hi.symm.trans hsucceeds.accepts.interpreted
    have hunfiltered : report.unfiltered = true := hsucceeds.accepts.shows.unfiltered
    exact ⟨output, hends, _, _, _, select, report, hsucceeds, hunfiltered,
      (hflag none).1 hunfiltered⟩

/-- A query for sizes of zero or more is not flagged, and yet all transactions are listed. -/
theorem unflagged_lists_all :
    ∃ output, (run checkingWorld ["amount_min:0", "--run"]).ending = .exited 0 output "" ∧
      ∃ request setup i select report,
        Succeeds checkingWorld ["amount_min:0", "--run"] output request setup i select report ∧
        report.unfiltered = false ∧ select.ListsAll none request.page setup.pageSize := by
  have hrequest : Request.ofArguments ["amount_min:0", "--run"] =
      .ok ⟨"amount_min:0", 1, false, true⟩ := rfl
  have hi : checkingSearch.interpret "amount_min:0" =
      .ok ⟨[], [⟨.amountMin, "0"⟩], { amountMin := some ⟨⟨false, 0, 0⟩, by decide⟩ }⟩ := by
    decide +kernel
  have hshort : Text.IsPrintable ((1 - 1) * 50) := Text.isPrintable_of_natAbs_lt (by decide)
  obtain ⟨output, hends, report, hsucceeds⟩ := exists_succeeds_checking hrequest hi rfl hshort
  have hvacuous : Filter.IsVacuous none
      { amountMin := some ⟨⟨false, 0, 0⟩, by decide⟩ } := by
    refine ⟨List.forall_mem_nil _, ?_, nofun, rfl⟩
    rintro _ ⟨⟩
    rfl
  exact ⟨output, hends, _, _, _, _, report, hsucceeds, hsucceeds.accepts.shows.unfiltered,
    (listsAll_selectStatement_iff rfl (by decide) (by decide)).mpr hvacuous⟩

end CommandLine

end LedgerSearch
