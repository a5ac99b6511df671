/-!
# Calendar days

Days of the proleptic Gregorian calendar from 1 January of year 1 to 31 December
of year 9999. A day is known by year, month and day of month, and by its number:
1 January of year 1 is day 1. Days are ordered by their numbers.

* `Date.ofDayNumber?`: the day of a number, where there is one.
* `Date.next?`: the day after a day; only the last day has none.
-/

namespace LedgerSearch.Calendar

/-- Whether February of the year has 29 days. -/
def isLeapYear (year : Nat) : Bool :=
  year % 4 == 0 && (year % 100 != 0 || year % 400 == 0)

def monthLengths (year : Nat) : List Nat :=
  [31, if isLeapYear year then 29 else 28, 31, 30, 31, 30, 31, 31, 30, 31, 30, 31]

/-- The length of a month; there is no month beyond the twelfth, and no day in it. -/
def daysInMonth (year month : Nat) : Nat :=
  if month = 0 then 0 else (monthLengths year)[month - 1]?.getD 0

/-- The number of days before a year, from the beginning of year 1. -/
def daysBeforeYear (year : Nat) : Nat :=
  let y := year - 1
  365 * y + y / 4 - y / 100 + y / 400

/-- The number of days of a year before a month. -/
def daysBeforeMonth (year month : Nat) : Nat :=
  ((monthLengths year).take (month - 1)).foldl (· + ·) 0

/-- Whether three numbers are year, month and day of month of a calendar day. -/
def IsCivil (year month day : Nat) : Prop :=
  1 ≤ year ∧ year ≤ 9999 ∧ 1 ≤ day ∧ day ≤ daysInMonth year month

instance (year month day : Nat) : Decidable (IsCivil year month day) :=
  inferInstanceAs (Decidable (_ ∧ _))

/-- A calendar day. -/
structure Date where
  year : Nat
  month : Nat
  day : Nat
  isCivil : IsCivil year month day
  deriving DecidableEq

namespace Date

def ofCivil? (year month day : Nat) : Option Date :=
  if h : IsCivil year month day then some ⟨year, month, day, h⟩ else none

/-- The number of a day, 1 for the first one. -/
def dayNumber (d : Date) : Nat :=
  daysBeforeYear d.year + daysBeforeMonth d.year d.month + d.day

instance : LE Date where
  le a b := a.dayNumber ≤ b.dayNumber

instance (a b : Date) : Decidable (a ≤ b) :=
  inferInstanceAs (Decidable (a.dayNumber ≤ b.dayNumber))

instance : LT Date where
  lt a b := a.dayNumber < b.dayNumber

instance (a b : Date) : Decidable (a < b) :=
  inferInstanceAs (Decidable (a.dayNumber < b.dayNumber))

/-- The year that holds the day with `n` days before it. The estimate by the mean length of a year
is off by at most one year. -/
def yearOfDay (n : Nat) : Nat :=
  let estimate := n * 400 / 146097 + 1
  if n < daysBeforeYear estimate then estimate - 1
  else if daysBeforeYear (estimate + 1) ≤ n then estimate + 1
  else estimate

/-- Month and day of month of the day with `n` days before it in the months of the given lengths,
the first of which is `month`. -/
def monthOfDay (month n : Nat) : List Nat → Option (Nat × Nat)
  | [] => none
  | length :: lengths =>
    if n < length then some (month, n + 1) else monthOfDay (month + 1) (n - length) lengths

/-- The day of a number, where there is one. -/
def ofDayNumber? (number : Int) : Option Date :=
  if number < 1 then
    none
  else
    let n := (number - 1).toNat
    let year := yearOfDay n
    (monthOfDay 1 (n - daysBeforeYear year) (monthLengths year)).bind fun (month, day) =>
      ofCivil? year month day

/-- The day after a day, where there is one. -/
def next? (d : Date) : Option Date :=
  if d.day < daysInMonth d.year d.month then ofCivil? d.year d.month (d.day + 1)
  else if d.month < 12 then ofCivil? d.year (d.month + 1) 1
  else ofCivil? (d.year + 1) 1 1

def last : Date := ⟨9999, 12, 31, by decide⟩

theorem ofCivil?_eq_some {year month day : Nat} {d : Date} :
    ofCivil? year month day = some d ↔ d.year = year ∧ d.month = month ∧ d.day = day := by
  unfold ofCivil?
  split
  · rename_i h
    constructor
    · intro e
      cases e
      exact ⟨rfl, rfl, rfl⟩
    · rintro ⟨rfl, rfl, rfl⟩
      rfl
  · rename_i h
    constructor
    · intro e
      cases e
    · rintro ⟨rfl, rfl, rfl⟩
      exact absurd d.isCivil h

@[simp] theorem ofCivil?_self (d : Date) : ofCivil? d.year d.month d.day = some d :=
  ofCivil?_eq_some.mpr ⟨rfl, rfl, rfl⟩

/-- The digits of a number, padded with zeros to a width. -/
def padded (width n : Nat) : List Char :=
  let digits := Nat.toDigits 10 n
  List.replicate (width - digits.length) '0' ++ digits

/-- The characters of a day as year, month and day of month. -/
def toChars (d : Date) : List Char :=
  padded 4 d.year ++ '-' :: padded 2 d.month ++ '-' :: padded 2 d.day

/-- A day printed as year, month and day of month. -/
def print (d : Date) : String :=
  String.ofList d.toChars

end Date

/-- Why a day cannot be given: it would lie outside the calendar. -/
inductive DateError where
  | outOfRange
  deriving DecidableEq

def DateError.message : DateError → String
  | .outOfRange => "date value out of range"

/-- The day after a day; after the last one it is out of range. -/
def Date.next (d : Date) : Except DateError Date :=
  match d.next? with
  | some n => .ok n
  | none => .error .outOfRange

end LedgerSearch.Calendar
