import LedgerSearch.Calendar.Week
import LedgerSearch.Decimal.Notation
import LedgerSearch.Text.Split

/-!
# Standard notations

The standard notations of a day are compact and extended dates and week dates:
`2020-01-15`, `20200115`, `2020-W03-3`, `2020W033`, where a missing day of the week
is Monday. All of them are complete: nothing is filled in from the present day.

The parts that other notations share with them are numbers of a given width, two
digits of a time of day, and the distance from universal time.
-/

namespace LedgerSearch.Calendar

open Text

namespace Notation

/-- Reads a number of ASCII digits whose count lies between two bounds. -/
def number? (least most : Nat) (cs : List Char) : Option Nat :=
  if cs.all Char.isDigit && least ≤ cs.length && cs.length ≤ most then
    some (Numeral.asciiNumber cs)
  else
    none

/-! ## Compact and extended notation -/

/-- Reads year, week and day of the week with nothing between them. -/
def compactWeek? (cs : List Char) : Option Date := do
  let year ← number? 4 4 (cs.take 4)
  let week ← number? 2 2 ((cs.drop 5).take 2)
  let day ← if (cs.drop 7).isEmpty then some 1 else number? 1 1 ((cs.drop 7).take 1)
  if (cs.drop 4).head? = some 'W' then Date.ofWeek? year week day else none

/-- Reads year, month and day of month with nothing between them. -/
def compactCivil? (cs : List Char) : Option Date := do
  let year ← number? 4 4 (cs.take 4)
  let month ← number? 2 2 ((cs.drop 4).take 2)
  let day ← number? 2 2 ((cs.drop 6).take 2)
  Date.ofCivil? year month day

def byteCount (cs : List Char) : Nat :=
  cs.foldl (fun n c => n + c.utf8Size) 0

/-- Reads a compact date. It takes seven bytes, if the day of the week is missing, or eight; in a
text of ten bytes the last two are not looked at. -/
def compact? (cs : List Char) : Option Date :=
  match byteCount cs with
  | 7 => compactWeek? cs
  | 8 => compactWeek? cs <|> compactCivil? cs
  | 10 => compactWeek? (cs.take 8) <|> compactCivil? (cs.take 8)
  | _ => none

/-- Reads a week field: the letter and two digits. -/
def weekField? : List Char → Option Nat
  | 'W' :: digits => number? 2 2 digits
  | _ => none

/-- Reads year, month and day of month, of full width and between hyphens. -/
def extendedCivil? (cs : List Char) : Option Date :=
  match split (· == '-') cs with
  | [year, month, day] => do
    Date.ofCivil? (← number? 4 4 year) (← number? 2 2 month) (← number? 2 2 day)
  | _ => none

/-- Reads year, week and day of the week, of full width and between hyphens. -/
def extendedWeek? (cs : List Char) : Option Date :=
  match split (· == '-') cs with
  | [year, week] => do Date.ofWeek? (← number? 4 4 year) (← weekField? week) 1
  | [year, week, day] => do
    Date.ofWeek? (← number? 4 4 year) (← weekField? week) (← number? 1 1 day)
  | _ => none

/-- Reads a day in a standard notation. -/
def standard? (cs : List Char) : Option Date :=
  compact? cs <|> extendedCivil? cs <|> extendedWeek? cs

/-! ## Unix time -/

/-- The day number of 1 January 1970. -/
def epochDay : Nat := 719163

def secondsPerDay : Nat := 86400

/-! ## Times of day -/

/-- Reads two digits and a number below a bound from them. -/
def twoDigits? (bound : Nat) (a b : Char) : Option Nat :=
  (number? 2 2 [a, b]).filter (· < bound)

/-- Reads the hours and minutes of a distance from universal time. -/
def hoursAndMinutes? : List Char → Option Nat
  | [h₁, h₂, ':', m₁, m₂] => do return 60 * (← twoDigits? 24 h₁ h₂) + (← twoDigits? 60 m₁ m₂)
  | [h₁, h₂, m₁, m₂] => do return 60 * (← twoDigits? 24 h₁ h₂) + (← twoDigits? 60 m₁ m₂)
  | _ => none

end Notation

end LedgerSearch.Calendar
