import LedgerSearch.Calendar.Notation
import LedgerSearch.Decimal.Notation
import LedgerSearch.Rounding
import LedgerSearch.Text.Integer

/-!
# Days given as moments

A document may give a day as the moment at which it begins:

* year, month and day of month on their own;
* with a time of day after them, where the distance from universal time may be
  stated and does not count;
* as a count of seconds or, from a size on, milliseconds since 1970: an integer, or
  a decimal with a point, which is rounded to 53 binary digits.

A moment that is not the beginning of a day is told apart from what is no moment
at all.
-/

namespace LedgerSearch.Calendar

/-- A moment: the day that it belongs to, and whether it is the beginning of the day. -/
structure Moment where
  day : Date
  isMidnight : Bool
  deriving DecidableEq

namespace Moment

/-! ## Days with a time of day -/

/-- Reads a fraction of a second, if there is one: whether it is zero, as far as its first six
digits tell, and what follows. -/
def fraction? : List Char → Option (Bool × List Char)
  | [] => some (true, [])
  | c :: cs =>
    if c = '.' || c = ',' then
      match cs.takeWhile Char.isDigit with
      | [] => none
      | digits => some ((digits.take 6).all (· == '0'), cs.dropWhile Char.isDigit)
    else
      some (true, c :: cs)

/-- Reads the seconds of a time of day, if there are any: whether they are zero, and what follows.
-/
def seconds? : List Char → Option (Bool × List Char)
  | ':' :: s₁ :: s₂ :: cs => do
    let second ← Notation.twoDigits? 60 s₁ s₂
    let (isZero, rest) ← fraction? cs
    return (second == 0 && isZero, rest)
  | ':' :: _ => none
  | cs => some (true, cs)

/-- Whether a text is a distance from universal time: none, the letter `Z`, or a signed one. -/
def isOffset : List Char → Bool
  | [] => true
  | ['Z'] => true
  | ['z'] => true
  | sign :: cs =>
    (sign == '+' || sign == '-' || sign == '\u2212') && (Notation.hoursAndMinutes? cs).isSome

/-- Reads a time of day and the distance from universal time: whether it is midnight. -/
def clock? : List Char → Option Bool
  | h₁ :: h₂ :: ':' :: m₁ :: m₂ :: cs => do
    let hour ← Notation.twoDigits? 24 h₁ h₂
    let minute ← Notation.twoDigits? 60 m₁ m₂
    let (isZero, rest) ← seconds? cs
    if isOffset rest then some (hour == 0 && minute == 0 && isZero) else none
  | _ => none

/-- Reads a day, with a time of day after a letter `T`, a space or a low line. -/
def ofCalendar? (cs : List Char) : Option Moment := do
  let day ← Notation.extendedCivil? (cs.take 10)
  match cs.drop 10 with
  | [] => return ⟨day, true⟩
  | separator :: clock =>
    if ['T', 't', ' ', '_'].contains separator then return ⟨day, ← clock? clock⟩ else none

/-! ## Unix time -/

/-- The moment of a second of Unix time, which is the beginning of a day only if nothing of the
second has passed. -/
def ofSecond? (second : Int) (isWhole : Bool) : Option Moment := do
  let day ← Date.ofDayNumber? (Notation.epochDay + Int.fdiv second Notation.secondsPerDay)
  return ⟨day, isWhole && Int.fmod second Notation.secondsPerDay == 0⟩

/-- The greatest count of seconds; a greater count is one of milliseconds. -/
def mostSeconds : Nat := 20000000000

/-- The seconds of a count of seconds or milliseconds, and the milliseconds beyond them. -/
def splitCount (count : Int) : Int × Int :=
  if count.natAbs ≤ mostSeconds then (count, 0)
  else (Int.fdiv count 1000, Int.fmod count 1000)

/-- The moment of a count of seconds or milliseconds. -/
def ofCount? (count : Int) : Option Moment :=
  let (second, milliseconds) := splitCount count
  ofSecond? second (milliseconds == 0)

/-- Counts with a fraction have so many binary digits. -/
def countDigits : Nat := 53

/-- The nearest number that a count with a fraction may be. -/
def rounded (x : Rat) : Rat :=
  Rounding.toBinary countDigits x

/-- The moment of a rounded count of seconds or milliseconds. What lies beyond its seconds is
rounded to microseconds. -/
def ofFractionalCount? (count : Rat) : Option Moment :=
  let seconds := if count.abs ≤ mostSeconds then count else rounded (count / 1000)
  let rest := rounded (seconds - seconds.floor)
  let microseconds := Rounding.awayFromZero (rounded (rest * 1000000))
  ofSecond? (seconds.floor + Int.fdiv microseconds 1000000) (Int.fmod microseconds 1000000 == 0)

/-- The moment of a decimal, counted in seconds or milliseconds. Two kinds of decimals are not
written out: no moment has a count with twenty zeros at its end, and a count with hundreds of zeros
behind the point is rounded to the beginning of 1970 in any case. -/
def ofDecimal? (d : Decimal) : Option Moment :=
  if d.coefficient = 0 || d.exponent < -(d.coefficient.log2 + 200 : Nat) then
    ofFractionalCount? 0
  else if 20 < d.exponent then
    none
  else
    ofFractionalCount? (rounded d.value)

/-- The greatest number that may stand before the point of a count. -/
def mostBeforePoint : Nat := 9223372036854775807

/-- Reads Unix time: an integer, or a decimal with a point. Of an integer, the milliseconds beyond
its seconds do not count. -/
def ofUnixTime? (cs : List Char) : Option Moment :=
  let (negative, unsigned) := Text.splitSign cs
  let whole := unsigned.takeWhile Char.isDigit
  let size := Numeral.asciiNumber whole
  match unsigned.dropWhile Char.isDigit with
  | [] =>
    if whole.isEmpty then none else ofSecond? (splitCount (Text.signed negative size)).1 true
  | '.' :: _ =>
    if size ≤ mostBeforePoint then (Numeral.unsignedDecimal? negative unsigned).bind ofDecimal?
    else none
  | _ => none

def read? (s : String) : Option Moment :=
  ofCalendar? s.toList <|> ofUnixTime? s.toList

/-- A day on its own is read as its beginning. -/
theorem ofCalendar?_of_extendedCivil? {cs : List Char} {day : Date} (hlen : cs.length = 10)
    (h : Notation.extendedCivil? cs = some day) : ofCalendar? cs = some ⟨day, true⟩ := by
  have htake : cs.take 10 = cs := List.take_of_length_le (Nat.le_of_eq hlen)
  have hdrop : cs.drop 10 = [] := List.drop_of_length_le (Nat.le_of_eq hlen)
  simp [ofCalendar?, htake, hdrop, h]

end Moment

end LedgerSearch.Calendar
