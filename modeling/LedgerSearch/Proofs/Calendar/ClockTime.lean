import LedgerSearch.Proofs.Calendar.English

/-!
# Dates with a time of day

A time of day is written in hours and minutes of two digits each, and in seconds with a
fraction after them or none; on the full minute the seconds may be missing. Seconds and
fraction do not decide about the day; hours and minutes do, together with the distance
from universal time. No standard notation has a colon, so the reader of dates is asked.

* `DateReader.ReadsTimestamps`: what is relied on of a reader.
* `standard?_timestamp`: no standard notation has a time of day.
* `clock?_of_writesClock`, `timestamp?_eq`: times of day in English.
* `Date.read?_timestamp`: such a text is read as its day in universal time.
-/

namespace LedgerSearch.Calendar

open Text

/-- A time of day, the fraction of a second apart. -/
structure TimeOfDay where
  hour : Nat
  minute : Nat
  second : Nat
  hour_lt : hour < 24
  minute_lt : minute < 60
  second_lt : second < 60

namespace TimeOfDay

/-- The minutes since midnight. -/
def minutes (t : TimeOfDay) : Nat :=
  60 * t.hour + t.minute

/-- The seconds since midnight. -/
def seconds (t : TimeOfDay) : Nat :=
  60 * t.minutes + t.second

def toChars (t : TimeOfDay) : List Char :=
  Date.padded 2 t.hour ++ ':' :: (Date.padded 2 t.minute ++ ':' :: Date.padded 2 t.second)

end TimeOfDay

namespace Notation

/-- A fraction of a second, or none. -/
def IsFraction (cs : List Char) : Prop :=
  cs = [] ∨ ∃ digits, digits ≠ [] ∧ (∀ c ∈ digits, c.isDigit = true) ∧ cs = '.' :: digits

/-- A time of day as it may be written. -/
inductive WritesClock (t : TimeOfDay) : List Char → Prop
  | seconds {fraction : List Char} (hfraction : IsFraction fraction) :
      WritesClock t (t.toChars ++ fraction)
  | minutes (hsecond : t.second = 0) :
      WritesClock t (Date.padded 2 t.hour ++ ':' :: Date.padded 2 t.minute)

/-- A distance from universal time in minutes, as it may be written after a time of day. There is
none in universal time itself, which a letter may stand for. -/
inductive WritesOffset : Int → List Char → Prop
  | universal {zone : List Char} (hzone : zone ∈ [[], ['Z']]) : WritesOffset 0 zone
  | ahead {hour minute : Nat} {space colon : List Char} (hhour : hour < 24) (hminute : minute < 60)
      (hspace : space ∈ [[], [' ']]) (hcolon : colon ∈ [[], [':']]) :
      WritesOffset (60 * hour + minute)
        (space ++ '+' :: (Date.padded 2 hour ++ (colon ++ Date.padded 2 minute)))
  | behind {hour minute : Nat} {space colon : List Char} (hhour : hour < 24) (hminute : minute < 60)
      (hspace : space ∈ [[], [' ']]) (hcolon : colon ∈ [[], [':']]) :
      WritesOffset (-(60 * hour + minute))
        (space ++ '-' :: (Date.padded 2 hour ++ (colon ++ Date.padded 2 minute)))

/-- What may stand between a date and a time of day. -/
def clockSeparators : List Char :=
  ['T', ' ']

/-- A date, a time of day and the distance from universal time. -/
def timestamp (d : Date) (separator : Char) (clock zone : List Char) : List Char :=
  d.toChars ++ separator :: (clock ++ zone)

end Notation

open Notation

/-- A date with a time of day names the day in universal time, if that lies in the calendar. -/
def DateReader.ReadsTimestamps (dates : DateReader) : Prop :=
  ∀ (d : Date), ∀ separator ∈ clockSeparators, ∀ t clock offset zone, WritesClock t clock →
    WritesOffset offset zone →
    dates.read (timestamp d separator clock zone) =
      Date.ofUniversalDay (universalDay d t.minutes offset)

namespace Notation

/-! ## Characters of a time of day -/

section

variable {t : TimeOfDay} {clock zone : List Char} {offset : Int}

theorem WritesClock.colon_mem (h : WritesClock t clock) : ':' ∈ clock := by
  cases h with
  | seconds => simp [TimeOfDay.toChars]
  | minutes => simp

theorem WritesOffset.head (h : WritesOffset offset zone) :
    ∀ c ∈ zone.head?, c ∈ ['Z', ' ', '+', '-'] := by
  cases h with
  | universal hzone =>
    simp only [List.mem_cons, List.not_mem_nil, or_false] at hzone
    rcases hzone with rfl | rfl <;> simp
  | ahead _ _ hspace | behind _ _ hspace =>
    simp only [List.mem_cons, List.not_mem_nil, or_false] at hspace
    rcases hspace with rfl | rfl <;> simp

theorem WritesOffset.getLast (h : WritesOffset offset zone) :
    ∀ c ∈ zone.getLast?, isBlank c = false := by
  have hlast (front : List Char) {minute : Nat} (hminute : minute < 60) :
      ∀ c ∈ (front ++ Date.padded 2 minute).getLast?, isBlank c = false := by
    have htrimmed : IsTrimmed (Date.padded 2 minute) :=
      isTrimmed_padded (Nat.lt_trans hminute (by decide))
    rw [List.getLast?_append_of_ne_nil _ htrimmed.ne_nil]
    exact htrimmed.getLast
  cases h with
  | universal hzone =>
    simp only [List.mem_cons, List.not_mem_nil, or_false] at hzone
    rcases hzone with rfl | rfl
    · exact fun c hc => by cases hc
    · rintro c ⟨⟩
      decide
  | @ahead hour _ space colon _ hminute =>
    have h := hlast (space ++ '+' :: (Date.padded 2 hour ++ colon)) hminute
    simpa using h
  | @behind hour _ space colon _ hminute =>
    have h := hlast (space ++ '-' :: (Date.padded 2 hour ++ colon)) hminute
    simpa using h

/-- No standard notation has a time of day. -/
theorem standard?_timestamp (d : Date) (separator : Char) (hclock : WritesClock t clock)
    (zone : List Char) : standard? (timestamp d separator clock zone) = none := by
  have hcolon : ':' ∈ timestamp d separator clock zone :=
    List.mem_append_right _
      (List.mem_cons_of_mem _ (List.mem_append_left _ hclock.colon_mem))
  refine standard?_of_colon_mem hcolon ?_
  rw [timestamp, List.length_append, d.length_toChars, List.length_cons]
  omega

theorem isTrimmed_clock (t : TimeOfDay) : IsTrimmed t.toChars := by
  have hhour : IsTrimmed (Date.padded 2 t.hour) :=
    isTrimmed_padded (Nat.lt_trans t.hour_lt (by decide))
  have hsecond : IsTrimmed (Date.padded 2 t.second) :=
    isTrimmed_padded (Nat.lt_trans t.second_lt (by decide))
  simpa [TimeOfDay.toChars] using hhour.around (':' :: (Date.padded 2 t.minute ++ [':'])) hsecond

theorem getLast?_fraction {fraction : List Char} (h : IsFraction fraction) :
    ∀ c ∈ fraction.getLast?, isBlank c = false := by
  rcases h with rfl | ⟨digits, hne, hdigits, rfl⟩
  · exact fun c hc => by cases hc
  · rw [← List.singleton_append, List.getLast?_append_of_ne_nil _ hne]
    exact fun c hc => not_isBlank_of_isDigit (hdigits c (List.mem_of_mem_getLast? hc))

theorem WritesClock.isTrimmed (h : WritesClock t clock) : IsTrimmed clock := by
  cases h with
  | seconds hfraction => exact (isTrimmed_clock t).append (getLast?_fraction hfraction)
  | minutes =>
    have hhour : IsTrimmed (Date.padded 2 t.hour) :=
      isTrimmed_padded (Nat.lt_trans t.hour_lt (by decide))
    have hminute : IsTrimmed (Date.padded 2 t.minute) :=
      isTrimmed_padded (Nat.lt_trans t.minute_lt (by decide))
    exact hhour.around [':'] hminute

theorem isTrimmed_timestamp (d : Date) (separator : Char) (hclock : WritesClock t clock)
    (hzone : WritesOffset offset zone) : IsTrimmed (timestamp d separator clock zone) :=
  (isTrimmed_toChars d).around [separator] (hclock.isTrimmed.append hzone.getLast)

end

/-! ## Times of day in English -/

theorem twoDigits?_padded {bound n : Nat} (hn : n < bound) (hbound : bound ≤ 100) :
    ∃ a b, Date.padded 2 n = [a, b] ∧ twoDigits? bound a b = some n := by
  have hlt : n < 10 ^ 2 := Nat.lt_of_lt_of_le hn hbound
  obtain ⟨a, b, hpadded⟩ := List.length_eq_two.mp (Date.length_padded hlt)
  refine ⟨a, b, hpadded, ?_⟩
  rw [twoDigits?, ← hpadded, number?_padded hlt, Option.filter_some,
    if_pos (decide_eq_true hn)]

/-- A fraction ends before what is neither a digit nor a point. -/
theorem dropFraction_append {fraction zone : List Char} (hfraction : IsFraction fraction)
    (hzone : ∀ c ∈ zone.head?, c.isDigit = false ∧ c ≠ '.') :
    dropFraction (fraction ++ zone) = zone := by
  rcases hfraction with rfl | ⟨digits, hne, hdigits, rfl⟩
  · rw [List.nil_append]
    unfold dropFraction
    split
    · exact absurd rfl (hzone '.' rfl).2
    · rfl
  · obtain ⟨first, others, rfl⟩ := List.exists_cons_of_ne_nil hne
    have hdrop : (first :: others ++ zone).dropWhile Char.isDigit = zone :=
      dropWhile_run hdigits fun c hc => (hzone c hc).1
    rw [List.cons_append, List.dropWhile_cons_of_pos (hdigits first List.mem_cons_self)] at hdrop
    rw [List.cons_append, List.cons_append, dropFraction,
      if_pos (hdigits first List.mem_cons_self), hdrop]

/-- The time of day ends before the distance from universal time. -/
theorem clock?_of_writesClock {t : TimeOfDay} {clock zone : List Char} {offset : Int}
    (hclock : WritesClock t clock) (hzone : WritesOffset offset zone) :
    clock? (clock ++ zone) = some (t.minutes, zone) := by
  have hsigns : ∀ c ∈ ['Z', ' ', '+', '-'], c.isDigit = false ∧ c ≠ '.' ∧ c ≠ ':' := by simp
  obtain ⟨h₁, h₂, hhour, hhour'⟩ := twoDigits?_padded t.hour_lt (by decide)
  obtain ⟨m₁, m₂, hminute, hminute'⟩ := twoDigits?_padded t.minute_lt (by decide)
  cases hclock with
  | @seconds fraction hfraction =>
    obtain ⟨s₁, s₂, hsecond, hsecond'⟩ := twoDigits?_padded t.second_lt (by decide)
    have hdrop : dropFraction (fraction ++ zone) = zone := by
      refine dropFraction_append hfraction fun c hc => ?_
      obtain ⟨hdigit, hpoint, -⟩ := hsigns c (hzone.head c hc)
      exact ⟨hdigit, hpoint⟩
    rw [TimeOfDay.toChars, hhour, hminute, hsecond]
    simp only [List.cons_append, List.nil_append, clock?, hhour', hminute', seconds?, hsecond',
      Option.map_some, hdrop]
    rfl
  | minutes =>
    have hseconds : seconds? zone = some zone := by
      unfold seconds?
      split
      · exact absurd rfl (hsigns ':' (hzone.head ':' rfl)).2.2
      · rfl
    rw [hhour, hminute]
    simp only [List.cons_append, List.nil_append, clock?, hhour', hminute', hseconds]
    rfl

theorem hoursAndMinutes?_padded {hour minute : Nat} {colon : List Char} (hhour : hour < 24)
    (hminute : minute < 60) (hcolon : colon ∈ [[], [':']]) :
    hoursAndMinutes? (Date.padded 2 hour ++ (colon ++ Date.padded 2 minute)) =
      some (60 * hour + minute) := by
  obtain ⟨h₁, h₂, hpadded, hhours⟩ := twoDigits?_padded hhour (by decide)
  obtain ⟨m₁, m₂, hpadded', hminutes⟩ := twoDigits?_padded hminute (by decide)
  rw [hpadded, hpadded']
  simp only [List.mem_cons, List.not_mem_nil, or_false] at hcolon
  rcases hcolon with rfl | rfl <;>
    simp only [List.cons_append, List.nil_append, hoursAndMinutes?, hhours, hminutes] <;> rfl

/-- A space in front of the sign does not count. -/
theorem offset?_signed {sign : Char} {space cs : List Char} (hsign : sign ∈ ['+', '-'])
    (hspace : space ∈ [[], [' ']]) :
    offset? (space ++ sign :: cs) = signedOffset? (sign :: cs) := by
  simp only [List.mem_cons, List.not_mem_nil, or_false] at hsign hspace
  rcases hsign with rfl | rfl <;> rcases hspace with rfl | rfl <;> rfl

theorem WritesOffset.offset?_eq {offset : Int} {zone : List Char} (h : WritesOffset offset zone) :
    offset? zone = some offset := by
  cases h with
  | universal hzone =>
    simp only [List.mem_cons, List.not_mem_nil, or_false] at hzone
    rcases hzone with rfl | rfl <;> rfl
  | ahead hhour hminute hspace hcolon =>
    rw [offset?_signed (by decide) hspace, signedOffset?,
      hoursAndMinutes?_padded hhour hminute hcolon]
    rfl
  | behind hhour hminute hspace hcolon =>
    rw [offset?_signed (by decide) hspace, signedOffset?,
      hoursAndMinutes?_padded hhour hminute hcolon]
    rfl

theorem timestamp?_eq (d : Date) {separator : Char} (hseparator : separator ∈ clockSeparators)
    {t : TimeOfDay} {clock zone : List Char} {offset : Int} (hclock : WritesClock t clock)
    (hzone : WritesOffset offset zone) :
    timestamp? (timestamp d separator clock zone) =
      some (universalDay d t.minutes offset) := by
  have htake : (timestamp d separator clock zone).take 10 = d.toChars :=
    List.take_left' d.length_toChars
  have hdrop : (timestamp d separator clock zone).drop 10 = separator :: (clock ++ zone) :=
    List.drop_left' d.length_toChars
  simp only [clockSeparators, List.mem_cons, List.not_mem_nil, or_false] at hseparator
  rcases hseparator with rfl | rfl <;>
    simp only [timestamp?, htake, hdrop, extendedCivil?_toChars, clock?_of_writesClock hclock hzone,
      hzone.offset?_eq, Option.bind_eq_bind, Option.bind_some, Option.pure_def]

end Notation

theorem DateReader.readsTimestamps_english : english.ReadsTimestamps := by
  intro d separator hseparator t clock offset zone hclock hzone
  exact read_english_of_timestamp? (timestamp?_eq d hseparator hclock hzone)

/-! ## Days in universal time -/

namespace Notation

/-- A time of day in universal time belongs to its own day. -/
theorem universalDay_zero (d : Date) (t : TimeOfDay) :
    universalDay d t.minutes 0 = d.dayNumber := by
  have hhour := t.hour_lt
  have hminute := t.minute_lt
  rw [universalDay, minutesPerDay, Int.fdiv_eq_ediv_of_nonneg _ (by decide), TimeOfDay.minutes]
  omega

end Notation

theorem Date.ofUniversalDay_dayNumber (d : Date) : ofUniversalDay d.dayNumber = .ok (some d) := by
  rw [ofUniversalDay, ofDayNumber?_dayNumber]

theorem Date.ofUniversalDay_eq_error_iff {number : Int} :
    ofUniversalDay number = .error .outOfRange ↔ ofDayNumber? number = none := by
  unfold ofUniversalDay
  cases ofDayNumber? number <;> simp

/-- A date with a time of day is read as its day in universal time. -/
theorem Date.read?_timestamp {dates : DateReader} (hdates : dates.ReadsTimestamps) {s : String}
    {d : Date} {separator : Char} {t : TimeOfDay} {clock zone : List Char} {offset : Int}
    (hseparator : separator ∈ clockSeparators) (hclock : WritesClock t clock)
    (hzone : WritesOffset offset zone) (hs : trimmed s.toList = timestamp d separator clock zone) :
    read? dates s = ofUniversalDay (universalDay d t.minutes offset) := by
  have hne := (isTrimmed_timestamp d separator hclock hzone).ne_nil
  rw [read?_of_reader hs hne (standard?_timestamp d separator hclock zone)]
  exact hdates d separator hseparator t clock offset zone hclock hzone

end LedgerSearch.Calendar
