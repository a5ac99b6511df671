import LedgerSearch.Lookup.Catalogue
import LedgerSearch.Proofs.Calendar.ClockTime
import LedgerSearch.Proofs.Interpretation.Slot

/-!
# How an interpretation fails

The first node that fails decides how. A catalogue answers every lookup, and every
amount that a node puts into a draft makes an amount of the filter, so apart from
errors of the query only a day that is read outside the calendar is left.

* `drafted_eq_error_iff`: the first node that fails.
* `HasAmounts.of_drafted`: what a run keeps true of a draft.
* `pointsOutside_timestamp_iff`: dates with a time of day that lie outside the calendar.
* `ofNodes_eq_error`, `ofNodes_of_leavesCalendar`: the two ways to fail with a catalogue.
-/

namespace LedgerSearch

open Calendar Notation Text

namespace Interpretation

variable {registry : Registry} {dates : DateReader} {resolver : Resolver}

/-! ## The first node that fails -/

/-- All nodes contribute. -/
def AllContribute (registry : Registry) (dates : DateReader) (resolver : Resolver)
    (nodes : List Query.Node) : Prop :=
  ∀ node ∈ nodes, ∃ change, contribution? registry dates resolver node = .ok change

theorem drafted_eq_error_iff {nodes : List Query.Node} {draft : Draft} {e : Failure} :
    drafted registry dates resolver draft nodes = .error e ↔
      ∃ before node after, nodes = before ++ node :: after ∧
        AllContribute registry dates resolver before ∧
        contribution? registry dates resolver node = .error e := by
  -- Whether a node contributes does not depend on the draft, so the draft plays no part below.
  induction nodes generalizing draft with
  | nil =>
    constructor
    · intro h
      cases h
    · rintro ⟨before, node, after, h, -⟩
      cases before <;> cases h
  | cons first nodes ih =>
    rw [drafted_cons]
    cases hfirst : contribution? registry dates resolver first with
    | error e' =>
      constructor
      · intro h
        cases h
        exact ⟨[], first, nodes, rfl, List.forall_mem_nil _, hfirst⟩
      · rintro ⟨before, node, after, h, hbefore, hnode⟩
        cases before with
        | nil =>
          cases h
          rw [hfirst] at hnode
          cases hnode
          rfl
        | cons n before =>
          cases h
          obtain ⟨change, hchange⟩ := hbefore first List.mem_cons_self
          rw [hfirst] at hchange
          cases hchange
    | ok change =>
      refine ih.trans ?_
      constructor
      · rintro ⟨before, node, after, rfl, hbefore, hnode⟩
        exact ⟨first :: before, node, after, rfl,
          List.forall_mem_cons.mpr ⟨⟨change, hfirst⟩, hbefore⟩, hnode⟩
      · rintro ⟨before, node, after, h, hbefore, hnode⟩
        cases before with
        | nil =>
          cases h
          rw [hfirst] at hnode
          cases hnode
        | cons n before =>
          cases h
          exact ⟨before, node, after, rfl, (List.forall_mem_cons.mp hbefore).2, hnode⟩

/-! ## Amounts of drafts -/

/-- Every number of the draft is one that a filter takes. -/
def HasAmounts (d : Draft) : Prop :=
  ∀ numeral, numeral ∈ d.amountEquals ∨ numeral ∈ d.amountMin ∨ numeral ∈ d.amountMax →
    ∃ a : Amount, numeral = .finite a.toDecimal

theorem hasAmounts_empty : HasAmounts .empty := by
  rintro numeral (h | h | h) <;> cases h

theorem exists_toFilter {d : Draft} (hd : HasAmounts d) : ∃ f, d.toFilter = .ok f := by
  have hfield : ∀ (name : String) (n : Option Numeral),
      (∀ numeral ∈ n, ∃ a : Amount, numeral = .finite a.toDecimal) →
      ∃ a, Draft.checkAmountField name n = .ok a := by
    intro name n hn
    cases n with
    | none => exact ⟨none, rfl⟩
    | some numeral =>
      obtain ⟨a, rfl⟩ := hn numeral rfl
      refine ⟨some a, ?_⟩
      simp only [Draft.checkAmountField, Draft.checkAmount, a.not_isBelowZero, dif_neg,
        not_false_eq_true]
      rfl
  obtain ⟨equals, hequals⟩ := hfield "amount_equals" d.amountEquals fun n h => hd n (.inl h)
  obtain ⟨least, hleast⟩ := hfield "amount_min" d.amountMin fun n h => hd n (.inr (.inl h))
  obtain ⟨most, hmost⟩ := hfield "amount_max" d.amountMax fun n h => hd n (.inr (.inr h))
  unfold Draft.toFilter
  simp only [hequals, hleast, hmost]
  exact ⟨_, rfl⟩

/-- A change by a number is one by an amount that was read. -/
theorem finite_of_changeOf {op : Operator} {value : String} {change : Option Change}
    {bound : AmountBound} {n : Numeral} (h : ChangeOf dates resolver op value change)
    (hn : .amount bound n ∈ change) : ∃ a : Amount, n = .finite a.toDecimal := by
  cases h with
  | @amount bound a heffect hread =>
    cases hn
    exact ⟨a, rfl⟩
  | @day dayBound d heffect hread => cases dayBound <;> cases hn
  | @literal target heffect => cases target <;> cases hn
  | nothing heffect => cases hn
  | sourceAccounts | destinationAccounts | entities =>
    obtain ⟨l, hl⟩ := exists_of_mem_unlessEmpty hn
    cases hl

/-- A change keeps the numbers amounts if the number that it writes is one. -/
theorem HasAmounts.apply {d : Draft} {c : Change} (hd : HasAmounts d)
    (hc : ∀ bound n, c = .amount bound n → ∃ a : Amount, n = .finite a.toDecimal) :
    HasAmounts (d.apply c) := by
  cases c with
  | amount bound n =>
    obtain ⟨a, rfl⟩ := hc bound n rfl
    cases bound with
    | equals =>
      rintro numeral (h | h | h)
      · cases h
        exact ⟨a, rfl⟩
      · exact hd numeral (.inr (.inl h))
      · exact hd numeral (.inr (.inr h))
    | atLeast =>
      rintro numeral (h | h | h)
      · exact hd numeral (.inl h)
      · cases h
        exact ⟨a, rfl⟩
      · exact hd numeral (.inr (.inr h))
    | atMost =>
      rintro numeral (h | h | h)
      · exact hd numeral (.inl h)
      · exact hd numeral (.inr (.inl h))
      · cases h
        exact ⟨a, rfl⟩
  | entities kind found => cases kind <;> exact hd
  | _ => exact hd

theorem HasAmounts.elim {node : Query.Node} {change : Option Change} {d : Draft} (hd : HasAmounts d)
    (h : contribution? registry dates resolver node = .ok change) :
    HasAmounts (change.elim d d.apply) := by
  cases change with
  | none => exact hd
  | some c =>
    refine hd.apply ?_
    rintro bound n rfl
    cases node with
    | field name value =>
      rw [contribution?_field] at h
      split at h
      · exact finite_of_changeOf (changeOf_of_change? h) rfl
      · cases h
    | _ => cases h

theorem HasAmounts.of_drafted {nodes : List Query.Node} {d result : Draft} (hd : HasAmounts d)
    (h : drafted registry dates resolver d nodes = .ok result) : HasAmounts result := by
  induction nodes generalizing d with
  | nil =>
    cases h
    exact hd
  | cons node nodes ih =>
    rw [drafted_cons] at h
    split at h
    · rename_i change hchange
      exact ih (hd.elim hchange) h
    · cases h

/-! ## Days outside the calendar -/

/-- The node bounds transactions by a day that is left to the reader of dates, who finds it outside
the calendar. -/
def PointsOutside (registry : Registry) (dates : DateReader) : Query.Node → Prop
  | .field name value =>
    ∃ op bound, registry.get? name = some op ∧ op.effect = .day bound ∧
      trimmed value.toList ≠ [] ∧ standard? (trimmed value.toList) = none ∧
      dates.read (trimmed value.toList) = .error .outOfRange
  | _ => False

/-- A node points outside the calendar, and all nodes before it contribute. -/
def LeavesCalendar (registry : Registry) (dates : DateReader) (resolver : Resolver)
    (nodes : List Query.Node) : Prop :=
  ∃ before node after, nodes = before ++ node :: after ∧
    AllContribute registry dates resolver before ∧ PointsOutside registry dates node

/-- A date with a time of day points outside the calendar if its day in universal time does. -/
theorem pointsOutside_timestamp_iff (hdates : dates.ReadsTimestamps) {op : Operator}
    {bound : DayBound} (hop : op ∈ registry.operators) (heffect : op.effect = .day bound)
    {d : Date} {separator : Char} {t : TimeOfDay} {clock zone : List Char} {offset : Int}
    (hseparator : separator ∈ clockSeparators) (hclock : WritesClock t clock)
    (hzone : WritesOffset offset zone) :
    PointsOutside registry dates
        (.field op.name (String.ofList (timestamp d separator clock zone))) ↔
      universalDay d t.minutes offset < 1 ∨
        (Date.last.dayNumber : Int) < universalDay d t.minutes offset := by
  have htrimmed := isTrimmed_timestamp d separator hclock hzone
  have htrim : trimmed (String.ofList (timestamp d separator clock zone)).toList =
      timestamp d separator clock zone := by
    rw [String.toList_ofList, htrimmed.trimmed_self]
  have hread := hdates d separator hseparator t clock offset zone hclock hzone
  rw [← Date.ofDayNumber?_eq_none_iff, ← Date.ofUniversalDay_eq_error_iff, ← hread]
  constructor
  · rintro ⟨_, _, -, -, -, -, herror⟩
    rwa [htrim] at herror
  · intro herror
    refine ⟨op, bound, Registry.get?_name hop, heffect, ?_, ?_, ?_⟩ <;> rw [htrim]
    · exact htrimmed.ne_nil
    · exact standard?_timestamp d separator hclock zone
    · exact herror

theorem change?_eq_error {c : Catalogue} {op : Operator} {value : String} {e : Failure}
    (h : change? dates c.resolver op value = .error e) :
    (∃ q, e = .query q) ∨
      ∃ bound, op.effect = .day bound ∧ Date.read? dates value = .error .outOfRange ∧
        e = .date .outOfRange := by
  rw [change?_eq] at h
  cases hop : op.effect with
  | amount bound =>
    simp only [hop] at h
    split at h
    · cases h
    · cases h
      exact .inl ⟨_, rfl⟩
  | day bound =>
    simp only [hop] at h
    split at h
    · cases h
    · cases h
      exact .inl ⟨_, rfl⟩
    · rename_i reason hread
      cases h
      cases reason
      exact .inr ⟨bound, rfl, hread, rfl⟩
  | sourceAccounts | destinationAccounts | entities | literal | nothing =>
    simp only [hop, Catalogue.resolver] at h
    cases h

theorem contribution?_eq_error {c : Catalogue} {node : Query.Node} {e : Failure}
    (h : contribution? registry dates c.resolver node = .error e) :
    (∃ q, e = .query q) ∨ (e = .date .outOfRange ∧ PointsOutside registry dates node) := by
  cases node with
  | word text => cases h
  | phrase text => cases h
  | field name value =>
    rw [contribution?_field] at h
    split at h
    · rename_i op hop
      rcases change?_eq_error h with hq | ⟨bound, heffect, hread, rfl⟩
      · exact .inl hq
      · exact .inr ⟨rfl, op, bound, hop, heffect, Date.read?_eq_error_iff.mp hread⟩
    · cases h
      exact .inl ⟨_, rfl⟩
  | foreign kind =>
    cases h
    exact .inl ⟨_, rfl⟩

theorem contribution?_of_pointsOutside {node : Query.Node} (h : PointsOutside registry dates node) :
    contribution? registry dates resolver node = .error (.date .outOfRange) := by
  cases node with
  | field name value =>
    obtain ⟨op, bound, hop, heffect, hreader⟩ := h
    have hread : Date.read? dates value = .error .outOfRange := Date.read?_eq_error_iff.mpr hreader
    simp only [contribution?_field, hop, change?_eq, heffect, hread]
  | _ => cases h

/-! ## All nodes -/

/-- With a catalogue, an interpretation fails with an error of the query or leaves the calendar. -/
theorem ofNodes_eq_error {c : Catalogue} {nodes : List Query.Node} {e : Failure}
    (h : ofNodes registry dates c.resolver nodes = .error e) :
    (∃ q, e = .query q) ∨
      (e = .date .outOfRange ∧ LeavesCalendar registry dates c.resolver nodes) := by
  rw [ofNodes_eq] at h
  split at h
  · rename_i e' hdrafted
    cases h
    obtain ⟨before, node, after, rfl, hbefore, hnode⟩ := drafted_eq_error_iff.mp hdrafted
    rcases contribution?_eq_error hnode with hq | ⟨rfl, hpoints⟩
    · exact .inl hq
    · exact .inr ⟨rfl, before, node, after, rfl, hbefore, hpoints⟩
  · rename_i draft hdrafted
    obtain ⟨f, hf⟩ := exists_toFilter (hasAmounts_empty.of_drafted hdrafted)
    rw [hf] at h
    cases h

theorem ofNodes_of_leavesCalendar {nodes : List Query.Node}
    (h : LeavesCalendar registry dates resolver nodes) :
    ofNodes registry dates resolver nodes = .error (.date .outOfRange) := by
  obtain ⟨before, node, after, hnodes, hbefore, hpoints⟩ := h
  have hdrafted : drafted registry dates resolver .empty nodes = .error (.date .outOfRange) :=
    drafted_eq_error_iff.mpr
      ⟨before, node, after, hnodes, hbefore, contribution?_of_pointsOutside hpoints⟩
  rw [ofNodes_eq, hdrafted]

end Interpretation

end LedgerSearch
