import LedgerSearch.CommandLine.Report
import LedgerSearch.Proofs.Interpretation.Numbers

/-!
# Statements that can be printed

Integers of more than 4300 digits are the only values that cannot be printed. The
conditions of a statement hold numbers of entities, and a page adds two integers
of its own: its size, and how many rows come before it.

* `exists_printInteger_iff`: the integers that can be printed.
* `exists_displayParam_iff`: the values that can be printed.
* `exists_report_iff`, `report_eq_error`: the reports that can be printed, and how the
  others fail.
* `report_shows`: what a report shows.
* `exists_report_selectStatement_iff`: the reports on pages.
-/

namespace LedgerSearch

namespace Text

/-- The integer has no more digits than can be printed. -/
def IsPrintable (n : Int) : Prop :=
  n.natAbs < 10 ^ mostDigits

/-- An integer that needs few digits can be printed. -/
theorem isPrintable_of_natAbs_lt {n : Int} (h : n.natAbs < 10 ^ 20) : IsPrintable n :=
  h.trans_le (Nat.pow_le_pow_right (by decide) (by decide))

theorem length_toString_le_iff (n : Nat) :
    (toString n).length ≤ mostDigits ↔ n < 10 ^ mostDigits := by
  have hdigits : (toString n).length = (Nat.toDigits 10 n).length := by
    rw [Nat.toString_eq_ofList_toDigits, String.length_ofList]
  rw [hdigits, Nat.length_toDigits_le_iff (by decide) (by decide)]

theorem printInteger_of_isPrintable {n : Int} (h : IsPrintable n) :
    printInteger n = .ok (toString n) :=
  if_neg (Nat.not_lt.mpr ((length_toString_le_iff _).mpr h))

theorem printInteger_of_not_isPrintable {n : Int} (h : ¬ IsPrintable n) :
    printInteger n = .error .longNumber :=
  if_pos (Nat.lt_of_not_le fun hle => h ((length_toString_le_iff _).mp hle))

end Text

/-- A traversal succeeds if every step does. -/
theorem exists_mapM_iff {α β ε : Type} {f : α → Except ε β} {l : List α} :
    (∃ bs, l.mapM f = .ok bs) ↔ ∀ a ∈ l, ∃ b, f a = .ok b := by
  induction l with
  | nil => exact iff_of_true ⟨[], rfl⟩ (List.forall_mem_nil _)
  | cons a l ih =>
    rw [List.forall_mem_cons, ← ih, List.mapM_cons]
    constructor
    · rintro ⟨bs, h⟩
      obtain ⟨b, hb, h⟩ := bind_eq_ok.mp h
      obtain ⟨cs, hcs, -⟩ := bind_eq_ok.mp h
      exact ⟨⟨b, hb⟩, ⟨cs, hcs⟩⟩
    · rintro ⟨⟨b, hb⟩, ⟨cs, hcs⟩⟩
      exact ⟨b :: cs, bind_eq_ok.mpr ⟨b, hb, bind_eq_ok.mpr ⟨cs, hcs, rfl⟩⟩⟩

theorem bind_eq_error {α β ε : Type} {x : Except ε α} {f : α → Except ε β} {e : ε} :
    x >>= f = .error e ↔ x = .error e ∨ ∃ a, x = .ok a ∧ f a = .error e := by
  cases x with
  | error d =>
    constructor
    · intro h
      cases h
      exact .inl rfl
    · rintro (h | ⟨a, h, -⟩)
      · cases h
        rfl
      · cases h
  | ok a =>
    constructor
    · intro h
      exact .inr ⟨a, rfl, h⟩
    · rintro (h | ⟨b, h, hb⟩)
      · cases h
      · cases h
        exact hb

/-- A traversal fails as one of its steps does. -/
theorem exists_mem_of_mapM_eq_error {α β ε : Type} {f : α → Except ε β} {l : List α} {e : ε}
    (h : l.mapM f = .error e) : ∃ a ∈ l, f a = .error e := by
  induction l with
  | nil => cases h
  | cons a l ih =>
    rw [List.mapM_cons] at h
    rcases bind_eq_error.mp h with h | ⟨b, -, h⟩
    · exact ⟨a, List.mem_cons_self, h⟩
    · rcases bind_eq_error.mp h with h | ⟨bs, -, h⟩
      · obtain ⟨c, hc, hfails⟩ := ih h
        exact ⟨c, List.mem_cons_of_mem _ hc, hfails⟩
      · cases h

namespace CommandLine

open Sql Text

/-! ## Values -/

theorem exists_printInteger_iff (n : Int) : (∃ s, printInteger n = .ok s) ↔ IsPrintable n := by
  constructor
  · rintro ⟨s, hs⟩
    by_contra hn
    rw [printInteger_of_not_isPrintable hn] at hs
    cases hs
  · intro hn
    exact ⟨_, printInteger_of_isPrintable hn⟩

theorem printInteger_eq_error {n : Int} {e : IntegerError} (h : printInteger n = .error e) :
    e = .longNumber := by
  rw [printInteger] at h
  split at h
  · cases h
    rfl
  · cases h

theorem exists_displayParam_iff (p : Param) :
    (∃ s, displayParam p = .ok s) ↔ ∀ n ∈ p.integerList, IsPrintable n := by
  cases p with
  | integer n => exact (exists_printInteger_iff n).trans List.forall_mem_singleton.symm
  | integers ns =>
    simp only [Param.integerList, ← exists_printInteger_iff, ← exists_mapM_iff]
    constructor
    · rintro ⟨s, hs⟩
      obtain ⟨texts, htexts, -⟩ := bind_eq_ok.mp hs
      exact ⟨texts, htexts⟩
    · rintro ⟨texts, htexts⟩
      exact ⟨_, bind_eq_ok.mpr ⟨texts, htexts, rfl⟩⟩
  | _ => exact iff_of_true ⟨_, rfl⟩ (List.forall_mem_nil _)

theorem displayParam_eq_error {p : Param} {e : IntegerError} (h : displayParam p = .error e) :
    e = .longNumber := by
  cases p with
  | integer n => exact printInteger_eq_error h
  | integers ns =>
    rcases bind_eq_error.mp h with h | ⟨texts, -, h⟩
    · obtain ⟨n, -, hn⟩ := exists_mem_of_mapM_eq_error h
      exact printInteger_eq_error hn
    · cases h
  | _ => cases h

/-! ## Reports -/

/-- What a report says of the interpretation, and of the statement if one is to be shown. -/
theorem report_eq (i : Interpretation) (microseconds : Nat) (s : Option Statement) :
    report i microseconds s =
      s.mapM ShownStatement.ofStatement >>= fun shown =>
        .ok ⟨i.text, i.modifiers, i.filter, i.filter.isEmpty, microseconds, shown⟩ := rfl

theorem report_none (i : Interpretation) (microseconds : Nat) :
    report i microseconds none =
      .ok ⟨i.text, i.modifiers, i.filter, i.filter.isEmpty, microseconds, none⟩ := rfl

theorem report_some (i : Interpretation) (microseconds : Nat) (s : Statement) :
    report i microseconds (some s) =
      s.params.mapM displayParam >>= fun values =>
        .ok ⟨i.text, i.modifiers, i.filter, i.filter.isEmpty, microseconds,
          some ⟨s.text, values⟩⟩ := by
  rw [report_eq, Option.mapM_some, ShownStatement.ofStatement]
  cases s.params.mapM displayParam <;> rfl

theorem exists_report_iff (i : Interpretation) (microseconds : Nat) (s : Statement) :
    (∃ r, report i microseconds (some s) = .ok r) ↔
      ∀ p ∈ s.params, ∀ n ∈ p.integerList, IsPrintable n := by
  simp only [← exists_displayParam_iff, ← exists_mapM_iff, report_some]
  constructor
  · rintro ⟨r, hr⟩
    obtain ⟨values, hvalues, -⟩ := bind_eq_ok.mp hr
    exact ⟨values, hvalues⟩
  · rintro ⟨values, hvalues⟩
    exact ⟨_, bind_eq_ok.mpr ⟨values, hvalues, rfl⟩⟩

/-- A report that cannot be made has a number of too many digits. -/
theorem report_eq_error {i : Interpretation} {microseconds : Nat} {s : Option Statement}
    {e : IntegerError} (h : report i microseconds s = .error e) : e = .longNumber := by
  cases s with
  | none => cases h
  | some s =>
    rw [report_some] at h
    rcases bind_eq_error.mp h with h | ⟨values, -, h⟩
    · obtain ⟨p, -, hp⟩ := exists_mem_of_mapM_eq_error h
      exact displayParam_eq_error hp
    · cases h

/-- What a report shows of the statement. -/
structure ShownStatement.Shows (shown : ShownStatement) (s : Statement) : Prop where
  text : shown.text = s.text
  values : s.params.mapM displayParam = .ok shown.values

/-- What a report on an interpretation shows: all of it, the time that it took, and the statement if
one is given. -/
structure Report.Shows (r : Report) (i : Interpretation) (microseconds : Nat)
    (s : Option Statement) : Prop where
  words : r.words = i.text
  modifiers : r.modifiers = i.modifiers
  filter : r.filter = i.filter
  unfiltered : r.unfiltered = i.filter.isEmpty
  microseconds : r.microseconds = microseconds
  statement : Option.Rel ShownStatement.Shows r.statement s

theorem report_shows {i : Interpretation} {microseconds : Nat} {s : Option Statement} {r : Report}
    (h : report i microseconds s = .ok r) : r.Shows i microseconds s := by
  cases s with
  | none =>
    cases h
    exact ⟨rfl, rfl, rfl, rfl, rfl, .none⟩
  | some s =>
    rw [report_some] at h
    obtain ⟨values, hvalues, h⟩ := bind_eq_ok.mp h
    cases h
    exact ⟨rfl, rfl, rfl, rfl, rfl, .some ⟨rfl, hvalues⟩⟩

theorem Report.Shows.exists_shown {r : Report} {i : Interpretation} {microseconds : Nat}
    {s : Statement} (h : r.Shows i microseconds (some s)) :
    ∃ shown, r.statement = some shown ∧ shown.Shows s := by
  have hshown := h.statement
  generalize r.statement = statement at hshown
  cases hshown with
  | some hshown => exact ⟨_, rfl, hshown⟩

/-- The report on a page can be printed unless its size, or the number of rows before it, has too
many digits. -/
theorem exists_report_selectStatement_iff {i : Interpretation} {cs : List Condition}
    (hcs : Condition.ofFilter i.filter = .ok cs)
    (hnumbers : ∀ s : Slot, ∀ n ∈ s.numbers (i.filter.content s), IsPrintable n)
    (microseconds : Nat) (page pageSize : Int) :
    (∃ r, report i microseconds (some (selectStatement cs page pageSize)) = .ok r) ↔
      IsPrintable pageSize ∧ IsPrintable ((page - 1) * pageSize) := by
  have hconditions : ∀ p ∈ cs.map (·.param), ∀ n ∈ p.integerList, IsPrintable n := by
    rw [List.forall_mem_map]
    intro c hc n hn
    obtain ⟨s, hs⟩ := Condition.numbersFrom_ofFilter hcs c hc n hn
    exact hnumbers s n hs
  have hvalues : (∀ p ∈ [Param.integer pageSize, .integer ((page - 1) * pageSize)],
      ∀ n ∈ p.integerList, IsPrintable n) ↔
      IsPrintable pageSize ∧ IsPrintable ((page - 1) * pageSize) := by
    simp [Param.integerList]
  rw [exists_report_iff, selectStatement, List.forall_mem_append, hvalues,
    and_iff_right hconditions]

end CommandLine

end LedgerSearch
