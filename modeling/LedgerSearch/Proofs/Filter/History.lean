import LedgerSearch.Proofs.Filter.Calls

/-!
# Drafts and what they were given

What a draft holds is said by the calls that it has answered: all words that were
added, and for every slot the last value that the slot took. Calls that failed do
not count, and those for a filter are answered by the amounts that were set last.

* `content_run`, `number_run`, `words_run`: what calls leave in a draft.
* `exists_filter_iff`, `invalid_iff`: when calls lead to a filter, and to which issues otherwise.
* `exists_filter_of_later`: how later calls make up for earlier ones.
* `holds_of_toFilter`: what the filter holds.
-/

namespace LedgerSearch

namespace Draft

/-- The draft after calls. -/
def run (d : Draft) (calls : List Call) : Draft :=
  calls.foldl (fun d c => (d.call c).1) d

/-- The last value that calls gave to a slot. -/
def lastGiven (s : Slot) (calls : List Call) : Option s.Given :=
  (calls.filterMap (Call.given? s)).getLast?

/-- The amount that calls set last. -/
def lastAmount (bound : AmountBound) (calls : List Call) : Option Numeral :=
  (calls.filterMap (Call.amount? bound)).getLast?

theorem run_append (d : Draft) (calls later : List Call) :
    d.run (calls ++ later) = (d.run calls).run later :=
  List.foldl_append

/-! ## What calls leave -/

/-- A part of the draft that every call writes or leaves as it is holds what was written last. -/
theorem run_last {β : Type} (part : Draft → β) (write? : Call → Option β)
    (hcall : ∀ d c, part (d.call c).1 = (write? c).getD (part d)) (d : Draft) (calls : List Call) :
    part (d.run calls) = (calls.filterMap write?).getLast?.getD (part d) := by
  -- The draft stays general: the other calls start from what the first one leaves.
  induction calls generalizing d with
  | nil => rfl
  | cons c calls ih =>
    refine (ih (d.call c).1).trans ?_
    rw [hcall]
    cases hc : write? c with
    | none =>
      rw [List.filterMap_cons_none hc]
      rfl
    | some b =>
      rw [List.filterMap_cons_some hc, List.getLast?_cons]
      rfl

theorem content_run (d : Draft) (calls : List Call) (s : Slot) :
    (d.run calls).content s = ((lastGiven s calls).map s.written).getD (d.content s) := by
  rw [run_last (·.content s) (fun c => (c.given? s).map s.written) (content_call s), lastGiven,
    ← List.getLast?_map, List.map_filterMap]

theorem words_run (d : Draft) (calls : List Call) :
    (d.run calls).words = d.words ++ calls.filterMap Call.word? := by
  induction calls generalizing d with
  | nil => exact (List.append_nil _).symm
  | cons c calls ih =>
    refine (ih (d.call c).1).trans ?_
    rw [words_call, List.append_assoc]
    cases hc : c.word? with
    | none => rw [List.filterMap_cons_none hc]; rfl
    | some text => rw [List.filterMap_cons_some hc]; rfl

theorem number_run (calls : List Call) (bound : AmountBound) :
    (run .empty calls).number bound = lastAmount bound calls := by
  rw [run_last (·.number bound) (fun c => (c.amount? bound).map some) (number_call bound),
    lastAmount, ← List.map_filterMap, List.getLast?_map]
  have hempty : Draft.empty.number bound = none := by cases bound <;> rfl
  rw [hempty]
  cases (calls.filterMap (Call.amount? bound)).getLast? <;> rfl

/-! ## Filters of calls -/

variable {calls : List Call}

theorem number_run_eq (calls : List Call) :
    (run .empty calls).number = fun bound => lastAmount bound calls :=
  funext (number_run calls)

theorem call_snapshot_eq_filter_iff {d : Draft} {f : Filter} :
    (d.call .snapshot).2 = .filter f ↔ d.toFilter = .ok f := by
  rw [call]
  cases d.toFilter with
  | ok g => simp
  | issues is => simp

theorem call_snapshot_eq_invalid_iff {d : Draft} {issues : List Issue} :
    (d.call .snapshot).2 = .invalid issues ↔ d.toFilter = .issues issues := by
  rw [call]
  cases d.toFilter with
  | ok g => simp
  | issues is => simp

/-- Calls leave a draft that makes a filter if the amounts they set last are amounts. -/
theorem exists_filter_iff :
    (∃ f, ((run .empty calls).call .snapshot).2 = .filter f) ↔
      ∀ bound, ∀ n ∈ lastAmount bound calls, n.IsAmount := by
  rw [← amountIssues_eq_nil_iff, ← number_run_eq]
  simp only [call_snapshot_eq_filter_iff]
  rcases (run .empty calls).toFilter_cases with ⟨hissues, hfilter⟩ | ⟨hissues, hfilter⟩
  · exact iff_of_true hfilter hissues
  · refine iff_of_false ?_ hissues
    rw [hfilter]
    rintro ⟨f, ⟨⟩⟩

theorem invalid_iff {issues : List Issue} :
    ((run .empty calls).call .snapshot).2 = .invalid issues ↔
      issues ≠ [] ∧ issues = amountIssues fun bound => lastAmount bound calls := by
  rw [call_snapshot_eq_invalid_iff, ← number_run_eq]
  rcases (run .empty calls).toFilter_cases with ⟨hissues, f, hfilter⟩ | ⟨hissues, hfilter⟩ <;>
    rw [hfilter]
  · refine iff_of_false nofun ?_
    rintro ⟨hne, rfl⟩
    exact hne hissues
  · constructor
    · rintro ⟨⟩
      exact ⟨hissues, rfl⟩
    · rintro ⟨-, rfl⟩
      rfl

theorem lastAmount_append (bound : AmountBound) (calls later : List Call) :
    lastAmount bound (calls ++ later) =
      (lastAmount bound later).or (lastAmount bound calls) := by
  rw [lastAmount, List.filterMap_append, List.getLast?_append]
  rfl

theorem takes_of_lastGiven {s : Slot} {value : s.Given} (h : lastGiven s calls = some value) :
    s.Takes value := by
  obtain ⟨c, -, hc⟩ := List.mem_filterMap.mp (List.mem_of_getLast? h)
  exact takes_of_given? hc

/-- The filter that calls lead to holds in every slot the last value given to it. -/
theorem holds_of_toFilter {f : Filter} (h : (run .empty calls).toFilter = .ok f) {s : Slot}
    {value : s.Given} (hvalue : lastGiven s calls = some value) : s.Holds value (f.content s) := by
  have hcontent : f.content s = s.written value := by
    rw [(content_of_toFilter h).2 s, content_run, hvalue]
    rfl
  have hamount (bound : AmountBound) : ∀ n ∈ lastAmount bound calls, n.IsAmount :=
    exists_filter_iff.mp ⟨f, call_snapshot_eq_filter_iff.mpr h⟩ bound
  rw [hcontent]
  cases s with
  | sourceAccounts | destinationAccounts => exact distinctBy_eq_firstOccurrences _ _
  | categories | budgets | tags | bills => exact distinctBy_eq_firstOccurrences _ _
  | amountEquals => exact (hamount .equals value hvalue).exists_amount
  | amountMin => exact (hamount .atLeast value hvalue).exists_amount
  | amountMax => exact (hamount .atMost value hvalue).exists_amount
  | dateRange =>
    obtain ⟨first, last⟩ := value
    have hle : first ≤ last := takes_of_lastGiven hvalue
    refine ⟨⟨first, last, hle⟩, ?_, rfl, rfl⟩
    simp only [Slot.written, DateRange.between, dif_pos hle]
    rfl
  | _ => rfl

theorem content_of_lastGiven_eq_none {f : Filter} (h : (run .empty calls).toFilter = .ok f)
    {s : Slot} (hs : lastGiven s calls = none) : f.content s = Filter.empty.content s := by
  rw [(content_of_toFilter h).2 s, content_run, hs]
  cases s <;> rfl

theorem words_of_toFilter {f : Filter} (h : (run .empty calls).toFilter = .ok f) :
    f.words = calls.filterMap Call.word? := by
  rw [(content_of_toFilter h).1, words_run]
  rfl

/-- Later calls make up for the amounts that a filter does not take, if they set those anew. -/
theorem exists_filter_of_later {later : List Call}
    (hlater : ∀ bound, ∀ n ∈ lastAmount bound later, n.IsAmount)
    (hanew : ∀ bound, (∃ n ∈ lastAmount bound calls, ¬ n.IsAmount) →
      lastAmount bound later ≠ none) :
    ∃ f, (((run .empty calls).run later).call .snapshot).2 = .filter f := by
  rw [← run_append, exists_filter_iff]
  intro bound n hn
  rw [lastAmount_append] at hn
  cases hbound : lastAmount bound later with
  | some m =>
    rw [hbound, Option.some_or] at hn
    cases hn
    exact hlater bound n hbound
  | none =>
    rw [hbound, Option.none_or] at hn
    by_contra hnot
    exact hanew bound ⟨n, hn, hnot⟩ hbound

/-- At every point of a run of calls: a setter is refused if and only if it is given a range that
ends before it begins; a filter can be made if and only if the amounts set last are finite and not
below zero, and otherwise the issues are those of these amounts; what fails changes nothing, so that
later calls can make up for it; and a filter that is made holds all words that were added, and in
every slot the last value that the slot took. -/
theorem call_run (calls : List Call) :
    let d := run .empty calls
    (∀ c, c ≠ .snapshot → (d.call c).2 = .done ∨ (d.call c).2 = .refused .reversed) ∧
    (∀ c, (d.call c).2 = .refused .reversed ↔
      ∃ first last, c = .set .dateRange (first, last) ∧ last < first) ∧
    (∀ c, (d.call c).2.IsFailure → (d.call c).1 = d) ∧
    (d.call .snapshot).1 = d ∧
    ((∃ f, (d.call .snapshot).2 = .filter f) ↔
      ∀ bound, ∀ n ∈ lastAmount bound calls, n.IsAmount) ∧
    (∀ issues, (d.call .snapshot).2 = .invalid issues ↔
      issues ≠ [] ∧ issues = amountIssues fun bound => lastAmount bound calls) ∧
    (∀ later, (∀ bound, ∀ n ∈ lastAmount bound later, n.IsAmount) →
      (∀ bound, (∃ n ∈ lastAmount bound calls, ¬ n.IsAmount) → lastAmount bound later ≠ none) →
      ∃ f, ((d.run later).call .snapshot).2 = .filter f) ∧
    (∀ f, (d.call .snapshot).2 = .filter f →
      f.words = calls.filterMap Call.word? ∧
      ∀ s, (∀ value, lastGiven s calls = some value → s.Holds value (f.content s)) ∧
        (lastGiven s calls = none → f.content s = Filter.empty.content s)) := by
  refine ⟨fun c => call_done_or_refused _, fun c => call_eq_refused_iff, fun c => call_of_isFailure,
    call_snapshot _, exists_filter_iff, fun issues => invalid_iff,
    fun later => exists_filter_of_later, fun f hf => ?_⟩
  have hfilter := call_snapshot_eq_filter_iff.mp hf
  exact ⟨words_of_toFilter hfilter, fun s =>
    ⟨fun value => holds_of_toFilter hfilter, content_of_lastGiven_eq_none hfilter⟩⟩

/-- A reversed range is refused, and an amount below zero keeps the draft from making a filter until
it is replaced. Nothing is lost over the two. -/
theorem call_run_rent :
    let range : Slot.dateRange.Given := (⟨2024, 2, 29, by decide⟩, ⟨2024, 2, 1, by decide⟩)
    let calls :=
      [Call.addWord "rent", .set .amountMin (.finite ⟨true, 5, 0⟩), .set .dateRange range]
    let later := [Call.snapshot, .set .amountMin (.finite ⟨false, 5, 0⟩)]
    ((run .empty calls).call (.set .dateRange range)).2 = .refused .reversed ∧
      ((run .empty calls).call .snapshot).2 = .invalid [⟨[.field "amount_min"], .tooSmall⟩] ∧
      ∃ f, ((run .empty (calls ++ later)).call .snapshot).2 = .filter f ∧ f.words = ["rent"] ∧
        f.content .dateRange = none := by
  intro range calls later
  obtain ⟨-, hrefused, -, -, -, hinvalid, hmade, -⟩ := call_run calls
  obtain ⟨-, -, -, -, -, -, -, hholds⟩ := call_run (calls ++ later)
  refine ⟨(hrefused _).mpr ⟨_, _, rfl, by decide⟩, (hinvalid _).mpr ⟨by decide, by decide⟩, ?_⟩
  have hlater : ∀ bound, ∀ n ∈ lastAmount bound later, n.IsAmount := by
    have hfive : Numeral.IsAmount (.finite ⟨false, 5, 0⟩) := by
      change 0 ≤ Decimal.value ⟨false, 5, 0⟩
      decide
    intro bound n hn
    cases bound with
    | equals => cases hn
    | atLeast =>
      cases hn
      exact hfive
    | atMost => cases hn
  have hoffending : ∀ bound, (∃ n ∈ lastAmount bound calls, ¬ n.IsAmount) →
      lastAmount bound later ≠ none := by
    rintro bound ⟨n, hn, -⟩
    cases bound with
    | equals => cases hn
    | atLeast => exact Option.some_ne_none _
    | atMost => cases hn
  obtain ⟨f, hf⟩ := hmade later hlater hoffending
  rw [← run_append] at hf
  obtain ⟨hwords, hslots⟩ := hholds f hf
  exact ⟨f, hf, hwords, (hslots .dateRange).2 rfl⟩

end Draft

end LedgerSearch
