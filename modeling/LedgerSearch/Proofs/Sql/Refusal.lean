import LedgerSearch.Proofs.Sql.Conditions

/-!
# Filters and pages without statements

A page is looked at before the filter: a page before the first one, or a size below
one, gives no statement whatever the filter is. Of a valid page only the days of the
filter can fail. Every day is turned into a window, although only one end of it is
used, so the last day of the calendar fails also as a lower bound.

* `Filter.mem_days_iff_names`: the days of a filter, constraint by constraint.
* `Condition.ofFilter_eq_error_iff`: filters without conditions.
* `selectPage_eq_page_iff`, `selectPage_eq_date_iff`: what a page decides, and what it leaves to
  the filter.
-/

namespace LedgerSearch

open Calendar

theorem exists_eq_error_iff {ε α : Type} {x : Except ε α} :
    (∃ e, x = .error e) ↔ ¬ ∃ a, x = .ok a := by
  cases x with
  | ok a => exact iff_of_false nofun fun h => h ⟨a, rfl⟩
  | error e => exact iff_of_true ⟨e, rfl⟩ nofun

/-- The day is a bound of the filter: an end of its range, or the day of another constraint. -/
def Filter.Names (f : Filter) (day : Date) : Prop :=
  (∃ range, f.dateRange = some range ∧ (range.first = day ∨ range.last = day)) ∨
    f.dateBefore = some day ∨ f.dateAfter = some day ∨ f.createdOn = some day ∨
    f.updatedOn = some day

theorem Filter.mem_days_iff_names {f : Filter} {day : Date} : day ∈ f.days ↔ f.Names day := by
  have hrange : (day ∈ f.dateRange.toList.flatMap fun range => [range.first, range.last]) ↔
      ∃ range, f.dateRange = some range ∧ (range.first = day ∨ range.last = day) := by
    cases f.dateRange with
    | none => simp
    | some range => simp [eq_comm]
  simp only [days, Names, List.mem_append, hrange, Option.mem_toList, or_assoc]
  rw [or_left_comm (a := f.dateAfter = some day)]

namespace Sql

theorem Condition.exists_ofFilter_iff_names {f : Filter} :
    (∃ cs, ofFilter f = .ok cs) ↔ ¬ f.Names .last := by
  rw [exists_ofFilter_iff, ← Filter.mem_days_iff_names]
  constructor
  · intro h hlast
    exact h Date.last hlast rfl
  · rintro h d hd rfl
    exact h hd

/-- Conditions fail for the last day of the calendar only. -/
theorem Condition.ofFilter_eq_error_iff {f : Filter} :
    ofFilter f = .error .outOfRange ↔ f.Names .last := by
  rw [← not_iff_not, ← exists_ofFilter_iff_names]
  cases ofFilter f with
  | ok cs => exact iff_of_true nofun ⟨cs, rfl⟩
  | error e =>
    cases e
    exact iff_of_false (fun h => h rfl) nofun

/-- What is wrong with a page is reported before the filter is looked at, the page before its
size. -/
theorem selectPage_eq_page_iff {f : Filter} {page pageSize : Int} {e : PageError} :
    selectPage f page pageSize = .error (.page e) ↔
      (e = .page ∧ page < 1) ∨ (e = .pageSize ∧ 1 ≤ page ∧ pageSize < 1) := by
  rw [selectPage]
  by_cases hpage : page < 1
  · simp [hpage, eq_comm]
  by_cases hsize : pageSize < 1
  · simp [hpage, hsize, Int.not_lt.mp hpage, eq_comm]
  · rw [if_neg hpage, if_neg hsize]
    cases Condition.ofFilter f with
    | ok cs => simp [hpage, hsize]
    | error e' => simp [hpage, hsize]

/-- Days are reported last: a valid page of a filter that names the last day of the calendar. -/
theorem selectPage_eq_date_iff {f : Filter} {page pageSize : Int} :
    selectPage f page pageSize = .error (.date .outOfRange) ↔
      1 ≤ page ∧ 1 ≤ pageSize ∧ f.Names .last := by
  by_cases hpage : 1 ≤ page
  · by_cases hsize : 1 ≤ pageSize
    · rw [selectPage_of_valid hpage hsize, ← Condition.ofFilter_eq_error_iff]
      cases Condition.ofFilter f <;> simp [hpage, hsize]
    · rw [selectPage_eq_page_iff.mpr (.inr ⟨rfl, hpage, Int.not_le.mp hsize⟩)]
      simp [hsize]
  · rw [selectPage_eq_page_iff.mpr (.inl ⟨rfl, Int.not_le.mp hpage⟩)]
    simp [hpage]

theorem exists_selectPage_iff {f : Filter} {page pageSize : Int} :
    (∃ s, selectPage f page pageSize = .ok s) ↔ 1 ≤ page ∧ 1 ≤ pageSize ∧ ¬ f.Names .last := by
  rw [← Condition.exists_ofFilter_iff_names]
  constructor
  · rintro ⟨s, hs⟩
    obtain ⟨hpage, hsize, cs, hcs, -⟩ := selectPage_eq_ok.mp hs
    exact ⟨hpage, hsize, cs, hcs⟩
  · rintro ⟨hpage, hsize, cs, hcs⟩
    exact ⟨_, selectPage_eq_ok.mpr ⟨hpage, hsize, cs, hcs, rfl⟩⟩

theorem countAll_eq_error_iff {f : Filter} :
    countAll f = .error .outOfRange ↔ f.Names .last := by
  rw [countAll, ← Condition.ofFilter_eq_error_iff]
  cases Condition.ofFilter f <;> simp [Except.map]

theorem exists_countAll_iff {f : Filter} : (∃ s, countAll f = .ok s) ↔ ¬ f.Names .last := by
  rw [← Condition.exists_ofFilter_iff_names]
  constructor
  · rintro ⟨s, hs⟩
    obtain ⟨cs, hcs, -⟩ := countAll_eq_ok.mp hs
    exact ⟨cs, hcs⟩
  · rintro ⟨cs, hcs⟩
    exact ⟨_, countAll_eq_ok.mpr ⟨cs, hcs, rfl⟩⟩

/-- The two statements of a filter and a page fail in these ways and no others: for a page before
the first one, for a size below one of any other page, and for a filter that names the last day of
the calendar. A count has no page, so with a valid page the two fail for the same filters. -/
theorem statements_fail_iff (f : Filter) (page pageSize : Int) :
    ((∃ e, selectPage f page pageSize = .error (.page e)) ↔ page < 1 ∨ pageSize < 1) ∧
    (selectPage f page pageSize = .error (.page .page) ↔ page < 1) ∧
    (selectPage f page pageSize = .error (.page .pageSize) ↔ 1 ≤ page ∧ pageSize < 1) ∧
    (selectPage f page pageSize = .error (.date .outOfRange) ↔
      1 ≤ page ∧ 1 ≤ pageSize ∧ f.Names .last) ∧
    ((∃ s, selectPage f page pageSize = .ok s) ↔
      1 ≤ page ∧ 1 ≤ pageSize ∧ ¬ f.Names .last) ∧
    (countAll f = .error .outOfRange ↔ f.Names .last) ∧
    ((∃ s, countAll f = .ok s) ↔ ¬ f.Names .last) ∧
    ((∃ e, selectPage f page pageSize = .error e) ↔
      page < 1 ∨ pageSize < 1 ∨ ∃ e, countAll f = .error e) := by
  have hpage : selectPage f page pageSize = .error (.page .page) ↔ page < 1 := by
    simp [selectPage_eq_page_iff]
  have hsize : selectPage f page pageSize = .error (.page .pageSize) ↔ 1 ≤ page ∧ pageSize < 1 := by
    simp [selectPage_eq_page_iff]
  refine ⟨?_, hpage, hsize, selectPage_eq_date_iff, exists_selectPage_iff,
    countAll_eq_error_iff, exists_countAll_iff, ?_⟩
  · constructor
    · rintro ⟨e, he⟩
      rcases selectPage_eq_page_iff.mp he with ⟨-, h⟩ | ⟨-, -, h⟩
      · exact .inl h
      · exact .inr h
    · intro h
      by_cases hlow : page < 1
      · exact ⟨.page, hpage.mpr hlow⟩
      · exact ⟨.pageSize, hsize.mpr ⟨Int.not_lt.mp hlow, h.resolve_left hlow⟩⟩
  · rw [exists_eq_error_iff, exists_eq_error_iff, exists_selectPage_iff, exists_countAll_iff,
      not_and_or, not_and_or, Int.not_le, Int.not_le]

/-- A day that is a lower bound only has to have a day after it as well. -/
example : countAll { dateAfter := some .last } = .error .outOfRange := rfl

end Sql

end LedgerSearch
