import LedgerSearch.Calendar.Week
import LedgerSearch.Proofs.Calendar.DayNumber

/-!
# Week dates of days

Every day of the calendar has a week date. The year of it is the year that holds the
Thursday of the week, and the week is counted by the Thursdays of that year. So the
first days of a year may belong to the last week of the year before, and its last
days to the first week of the next year, but no week date leaves the calendar.

* `exists_week`: weeks begin where the day number is one more than a multiple of seven.
* `weekYear_bounds`, `weekOfYear_bounds`: the year and the week are among those that
  week dates have.
* `ofWeek?_weekDate`: the day of a week date is found.
-/

namespace LedgerSearch.Calendar

namespace Date

/-- The day of the week, 1 for Monday. -/
def dayOfWeek (d : Date) : Nat :=
  weekday d.dayNumber + 1

/-- The number of the Thursday in the week of a day. -/
def thursday (d : Date) : Nat :=
  d.dayNumber + 4 - d.dayOfWeek

/-- The year that the week of a day belongs to. -/
def weekYear (d : Date) : Nat :=
  yearOfDay (d.thursday - 1)

/-- The number of Thursdays in the year of the week, up to the week's own. -/
def weekOfYear (d : Date) : Nat :=
  (d.thursday - daysBeforeYear d.weekYear - 1) / 7 + 1

variable (d : Date)

theorem dayOfWeek_bounds : 1 ≤ d.dayOfWeek ∧ d.dayOfWeek ≤ 7 := by
  simp only [dayOfWeek, weekday]
  omega

/-- Day numbers and Thursdays are counted from the Monday on which the calendar begins. -/
theorem exists_week : ∃ k, d.dayNumber = 7 * k + d.dayOfWeek ∧ d.thursday = 7 * k + 4 := by
  obtain ⟨hfirst, -⟩ := d.dayNumber_bounds
  refine ⟨(d.dayNumber - 1) / 7, ?_, ?_⟩
  · simp only [dayOfWeek, weekday]
    omega
  · simp only [thursday, dayOfWeek, weekday]
    omega

/-- The Thursday of a week lies in the year of the week, and this is a year of the calendar. -/
theorem weekYear_bounds :
    1 ≤ d.weekYear ∧ d.weekYear ≤ 9999 ∧ daysBeforeYear d.weekYear < d.thursday ∧
      d.thursday ≤ daysBeforeYear (d.weekYear + 1) := by
  obtain ⟨k, hday, hthursday⟩ := d.exists_week
  obtain ⟨hyear, hle, hlt⟩ := yearOfDay_bounds (d.thursday - 1)
  have hend : daysBeforeYear 10000 = 7 * 521722 + 5 := by decide
  have hlast : d.dayNumber ≤ daysBeforeYear 10000 :=
    Nat.le_trans d.dayNumber_bounds.2 (daysBeforeYear_mono (Nat.succ_le_succ d.isCivil.2.1))
  have hweek := d.dayOfWeek_bounds
  have hnear : d.weekYear ≤ 9999 := by
    by_contra hfar
    have hmono : daysBeforeYear 10000 ≤ daysBeforeYear (yearOfDay (d.thursday - 1)) :=
      daysBeforeYear_mono (Nat.lt_of_not_le hfar)
    -- The last day is a Friday, so the Thursday of its week still belongs to the calendar.
    omega
  rw [weekYear] at hnear ⊢
  exact ⟨hyear, hnear, by omega, by omega⟩

/-- A year has a week 53 if it begins on a Thursday, or on a Wednesday and is a leap year. -/
theorem weekOfYear_bounds : 1 ≤ d.weekOfYear ∧ d.weekOfYear ≤ weeksInYear d.weekYear := by
  obtain ⟨k, -, hthursday⟩ := d.exists_week
  obtain ⟨hyear, -, hfirst, hlast⟩ := d.weekYear_bounds
  obtain ⟨start, hstart⟩ : ∃ start, daysBeforeYear d.weekYear = start := ⟨_, rfl⟩
  rw [daysBeforeYear_succ hyear, hthursday, hstart] at hlast
  rw [hthursday, hstart] at hfirst
  simp only [weekOfYear, weeksInYear, yearStart, weekday, hthursday, hstart]
  refine ⟨Nat.le_add_left _ _, ?_⟩
  cases hleap : isLeapYear d.weekYear with
  | true =>
    rw [hleap, if_pos rfl] at hlast
    simp only [Bool.and_true, Bool.or_eq_true, beq_iff_eq]
    split <;> omega
  | false =>
    rw [hleap, if_neg Bool.false_ne_true] at hlast
    simp only [Bool.and_false, Bool.or_false, beq_iff_eq]
    split <;> omega

/-- The Monday of the first week and the weeks since then lead to the day. -/
theorem firstMonday_add :
    firstMonday d.weekYear + 7 * (d.weekOfYear - 1) + (d.dayOfWeek - 1) = d.dayNumber := by
  obtain ⟨k, hday, hthursday⟩ := d.exists_week
  obtain ⟨-, -, hfirst, -⟩ := d.weekYear_bounds
  obtain ⟨start, hstart⟩ : ∃ start, daysBeforeYear d.weekYear = start := ⟨_, rfl⟩
  rw [hthursday, hstart] at hfirst
  simp only [firstMonday, yearStart, weekday, weekOfYear, hday, hthursday, hstart]
  split <;> omega

/-- A day is found by its week date. -/
theorem ofWeek?_weekDate : ofWeek? d.weekYear d.weekOfYear d.dayOfWeek = some d := by
  obtain ⟨hyear, hyear', -, -⟩ := d.weekYear_bounds
  obtain ⟨hweek, hweek'⟩ := d.weekOfYear_bounds
  obtain ⟨hday, hday'⟩ := d.dayOfWeek_bounds
  rw [ofWeek?, if_pos ⟨hyear, hyear', hweek, hweek', hday, hday'⟩, firstMonday_add,
    ofDayNumber?_dayNumber]

end Date

end LedgerSearch.Calendar
