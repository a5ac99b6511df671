import LedgerSearch.Calendar.DateReader

/-!
# A reader of complete dates

A reader of dates for what is no standard notation. It knows

* a count of seconds, milliseconds or microseconds since 1970 in 10, 13 or 16
  digits;
* three numbers between equal separators, year first or year last. Month and day
  follow in this order if they can, and in the other order if only that one
  names a day;
* a day, an English month name and a year, or month name first;
* a date and a time of day, in universal time or at a stated distance from it.

Every notation is complete, and all of them but the last name a day or nothing; a
time of day next to the first or last day may fall outside the calendar.
-/

namespace LedgerSearch.Calendar

open Text

namespace Notation

/-! ## Unix time -/

/-- Reads the seconds, milliseconds or microseconds since 1970. -/
def unixTime? (cs : List Char) : Option Date :=
  let day (perSecond : Nat) : Option Date := do
    let n ← number? 1 cs.length cs
    Date.ofDayNumber? (epochDay + n / perSecond / secondsPerDay)
  match cs.length with
  | 10 => day 1
  | 13 => day 1000
  | 16 => day 1000000
  | _ => none

/-! ## Three numbers -/

/-- The day of a year and two numbers: month and day if they name one, else day and month. -/
def monthAndDay? (year a b : Nat) : Option Date :=
  Date.ofCivil? year a b <|> Date.ofCivil? year b a

/-- Reads three numbers between equal separators, the year first or last. -/
def separated? (separator : Char) (cs : List Char) : Option Date :=
  match split (· == separator) cs with
  | [a, b, c] =>
    match number? 4 4 a, number? 4 4 c with
    | some year, none => do monthAndDay? year (← number? 1 2 b) (← number? 1 2 c)
    | none, some year => do monthAndDay? year (← number? 1 2 a) (← number? 1 2 b)
    | _, _ => none
  | _ => none

/-- Reads three numbers between hyphens, slashes or points. -/
def numbers? (cs : List Char) : Option Date :=
  separated? '-' cs <|> separated? '/' cs <|> separated? '.' cs

/-! ## Month names -/

def monthNames : List String :=
  ["january", "february", "march", "april", "may", "june", "july", "august", "september",
    "october", "november", "december"]

/-- Reads a month name, full or of three letters, in any case. September also has one of four. -/
def monthName? (cs : List Char) : Option Nat :=
  let name := cs.map Char.toLower
  if name = "sept".toList then
    some 9
  else
    (monthNames.findIdx? fun full => name = full.toList || name = full.toList.take 3).map (· + 1)

/-- Reads a day of month, which may be an ordinal. -/
def ordinal? (cs : List Char) : Option Nat :=
  let suffix := (cs.dropWhile Char.isDigit).map Char.toLower
  if ["", "st", "nd", "rd", "th"].any (·.toList = suffix) then
    number? 1 2 (cs.takeWhile Char.isDigit)
  else
    none

/-- A field without the comma at its end. -/
def dropComma (cs : List Char) : List Char :=
  if cs.getLast? = some ',' then cs.dropLast else cs

/-- Reads day, month name and year, or month name, day and year; a comma may follow the day of the
second form. -/
def named? (cs : List Char) : Option Date :=
  match words cs with
  | [a, b, c] => do
    let year ← number? 4 4 c
    match monthName? a with
    | some month => do Date.ofCivil? year month (← ordinal? (dropComma b))
    | none => do Date.ofCivil? year (← monthName? b) (← ordinal? a)
  | _ => none

/-- Reads a date without a time of day. -/
def plainDate? (cs : List Char) : Option Date :=
  unixTime? cs <|> numbers? cs <|> named? cs

/-! ## Times of day -/

/-- Cuts a fraction of a second off, if there is one. -/
def dropFraction : List Char → List Char
  | '.' :: c :: cs => if c.isDigit then cs.dropWhile Char.isDigit else '.' :: c :: cs
  | cs => cs

/-- Reads the seconds of a time of day, if there are any: what follows them and their fraction. -/
def seconds? : List Char → Option (List Char)
  | ':' :: s₁ :: s₂ :: rest => (twoDigits? 60 s₁ s₂).map fun _ => dropFraction rest
  | rest => some rest

/-- Reads a time of day: the minutes since midnight, and what follows. -/
def clock? : List Char → Option (Nat × List Char)
  | h₁ :: h₂ :: ':' :: m₁ :: m₂ :: rest => do
    let hour ← twoDigits? 24 h₁ h₂
    let minute ← twoDigits? 60 m₁ m₂
    return (60 * hour + minute, ← seconds? rest)
  | _ => none

/-- Reads a signed distance from universal time, in minutes. -/
def signedOffset? : List Char → Option Int
  | '+' :: cs => (hoursAndMinutes? cs).map fun n => (n : Int)
  | '-' :: cs => (hoursAndMinutes? cs).map fun n => -(n : Int)
  | _ => none

/-- Reads the distance from universal time, in minutes: none, the letter `Z`, or a signed one, which
a space may precede. -/
def offset? : List Char → Option Int
  | [] => some 0
  | ['Z'] => some 0
  | ' ' :: cs => signedOffset? cs
  | cs => signedOffset? cs

def minutesPerDay : Int := 1440

/-- The number of the day in universal time at a local time of day. -/
def universalDay (date : Date) (minutes : Nat) (offset : Int) : Int :=
  Int.fdiv (date.dayNumber * minutesPerDay + minutes - offset) minutesPerDay

/-- Reads a date, the letter `T` or a space, and a time of day: the number of the day in universal
time. -/
def timestamp? (cs : List Char) : Option Int := do
  let date ← extendedCivil? (cs.take 10)
  let (minutes, rest) ←
    match cs.drop 10 with
    | 'T' :: clock => clock? clock
    | ' ' :: clock => clock? clock
    | _ => none
  return universalDay date minutes (← offset? rest)

end Notation

/-- The day of a number; outside the calendar there is none. -/
def Date.ofUniversalDay (number : Int) : Except DateError (Option Date) :=
  match Date.ofDayNumber? number with
  | some day => .ok (some day)
  | none => .error .outOfRange

open Notation in
/-- Reads English dates. Of the notations that fit, the first one in the order above decides. -/
def DateReader.english : DateReader where
  read cs :=
    match plainDate? cs with
    | some day => .ok (some day)
    | none => ((timestamp? cs).map Date.ofUniversalDay).getD (.ok none)

end LedgerSearch.Calendar
