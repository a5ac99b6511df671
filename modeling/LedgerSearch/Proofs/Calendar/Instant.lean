import LedgerSearch.Calendar.Notation
import LedgerSearch.Calendar.Window
import LedgerSearch.Proofs.Calendar.DayNumber

/-!
# Instants and their days

An instant belongs to one day in universal time, which may lie outside the
calendar. A window of days holds the instants of these days: its end is the
beginning of the day after the last one.

* `start_le_iff`, `lt_start_iff`: comparing an instant with the beginning of a day
  compares days.
* `lt_start_next_iff`: an instant before the beginning of the next day belongs to
  no later day.
-/

namespace LedgerSearch.Calendar

/-- A point in time, in microseconds since the beginning of 1970 in universal time. -/
structure Instant where
  microseconds : Int
  deriving DecidableEq

namespace Instant

instance : LE Instant where
  le a b := a.microseconds ≤ b.microseconds

instance : LT Instant where
  lt a b := a.microseconds < b.microseconds

instance (a b : Instant) : Decidable (a ≤ b) :=
  inferInstanceAs (Decidable (a.microseconds ≤ b.microseconds))

instance (a b : Instant) : Decidable (a < b) :=
  inferInstanceAs (Decidable (a.microseconds < b.microseconds))

def microsecondsPerDay : Int := 86400000000

/-- The number of the day in universal time. -/
def dayNumber (x : Instant) : Int :=
  Notation.epochDay + x.microseconds / microsecondsPerDay

end Instant

/-- The beginning of a day in universal time. -/
def Date.start (d : Date) : Instant :=
  ⟨(d.dayNumber - Notation.epochDay) * Instant.microsecondsPerDay⟩

theorem start_le_iff {d : Date} {x : Instant} :
    d.start ≤ x ↔ (d.dayNumber : Int) ≤ x.dayNumber := by
  show (d.dayNumber - Notation.epochDay : Int) * Instant.microsecondsPerDay ≤ x.microseconds ↔ _
  rw [← Int.le_ediv_iff_mul_le (by decide), Instant.dayNumber]
  omega

theorem lt_start_iff {d : Date} {x : Instant} : x < d.start ↔ x.dayNumber < d.dayNumber := by
  rw [← Int.not_le, ← start_le_iff]
  exact Int.not_le.symm

theorem lt_start_next_iff {d n : Date} {x : Instant} (h : d.next = .ok n) :
    x < n.start ↔ x.dayNumber ≤ d.dayNumber := by
  rw [lt_start_iff, Date.dayNumber_of_next h, Int.natCast_add]
  exact Int.lt_add_one_iff

end LedgerSearch.Calendar
