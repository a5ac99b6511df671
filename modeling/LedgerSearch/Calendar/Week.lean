import LedgerSearch.Calendar.Date

/-!
# Week dates

A week runs from Monday to Sunday and belongs to the year that holds its
Thursday, so the first week of a year is the one with 4 January. Years that
begin on a Thursday, and leap years that begin on a Wednesday, have 53 weeks.
-/

namespace LedgerSearch.Calendar

/-- The day of the week of a day number, Monday being 0. -/
def weekday (number : Nat) : Nat :=
  (number + 6) % 7

/-- The day of the week of 1 January. -/
def yearStart (year : Nat) : Nat :=
  weekday (daysBeforeYear year + 1)

def weeksInYear (year : Nat) : Nat :=
  if yearStart year == 3 || (yearStart year == 2 && isLeapYear year) then 53 else 52

/-- The day number of the Monday of the first week of a year. -/
def firstMonday (year : Nat) : Int :=
  let start := daysBeforeYear year + 1
  if yearStart year ≤ 3 then (start : Int) - yearStart year else start - yearStart year + 7

/-- The day of a year, week and day of the week, all counted from 1, if they name one. -/
def Date.ofWeek? (year week day : Nat) : Option Date :=
  if 1 ≤ year ∧ year ≤ 9999 ∧ 1 ≤ week ∧ week ≤ weeksInYear year ∧ 1 ≤ day ∧ day ≤ 7 then
    Date.ofDayNumber? (firstMonday year + 7 * (week - 1) + (day - 1))
  else
    none

end LedgerSearch.Calendar
