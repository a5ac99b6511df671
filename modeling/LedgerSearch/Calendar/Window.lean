import LedgerSearch.Calendar.Date

/-!
# Windows of time

A run of whole days, in universal time, is the window from the beginning of its
first day up to the beginning of the day after its last one, which does not
belong to it. So the last day of the calendar has no window.
-/

namespace LedgerSearch.Calendar

/-- The time from the beginning of one day up to the beginning of another, in universal time. -/
structure Window where
  start : Date
  stop : Date
  deriving DecidableEq

/-- The window of the days from a first to a last one. -/
def Window.ofDays (first last : Date) : Except DateError Window :=
  match last.next with
  | .ok stop => .ok ⟨first, stop⟩
  | .error e => .error e

theorem Window.ofDays_eq_ok {first last : Date} {w : Window} :
    ofDays first last = .ok w ↔ ∃ stop, last.next = .ok stop ∧ w = ⟨first, stop⟩ := by
  rw [ofDays]
  cases last.next with
  | error e => simp
  | ok stop => simp [eq_comm]

/-- The beginning of a day in universal time, with a separator between date and time. -/
def Date.printMidnight (separator : Char) (d : Date) : String :=
  String.ofList (d.toChars ++ separator :: "00:00:00+00:00".toList)

end LedgerSearch.Calendar
