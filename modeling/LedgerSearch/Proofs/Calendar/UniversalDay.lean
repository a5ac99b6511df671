import LedgerSearch.Proofs.Calendar.ClockTime
import LedgerSearch.Proofs.Calendar.Compact

/-!
# The day of an instant in universal time

An instant is a number of seconds since 1970. It may be written as this number, in
milliseconds or in microseconds, or as the date and time of day that clocks show at
some distance from universal time. All of them are read as the same day, but a number
of ten digits that begins with a compact date is read as that date.

* `exists_showsInstant`: every instant has a date and a time of day at every distance.
* `universalDay_of_showsInstant`: these lead back to the day in universal time.
* `instant_read_as_universalDay`: the day that is read.
-/

namespace LedgerSearch.Calendar

open Text Numeral

namespace Notation

/-! ## Instants -/

/-- The day that instants are counted from. -/
def epoch : Date :=
  ⟨1970, 1, 1, by decide⟩

/-- A date and a time of day are those of an instant, so many minutes ahead of universal time. -/
def ShowsInstant (n : Nat) (offset : Int) (d : Date) (t : TimeOfDay) : Prop :=
  ((d.dayNumber : Int) - epoch.dayNumber) * 86400 + t.seconds = n + 60 * offset

/-- The last instant with ten digits. -/
def lastInstant : Nat := 9999999999

theorem dayNumber_epoch : epoch.dayNumber = 719163 := by
  decide

theorem exists_seconds_eq {s : Nat} (h : s < 86400) : ∃ t : TimeOfDay, t.seconds = s := by
  refine ⟨⟨s / 3600, s / 60 % 60, s % 60, by omega, by omega, by omega⟩, ?_⟩
  simp only [TimeOfDay.seconds, TimeOfDay.minutes]
  omega

variable {n : Nat}

/-- Every instant has a day in universal time. -/
theorem exists_universalDay (hn : n ≤ lastInstant) :
    ∃ day : Date, day.dayNumber = epoch.dayNumber + n / 86400 := by
  rw [lastInstant] at hn
  rw [dayNumber_epoch]
  obtain ⟨day, hday⟩ : ∃ day : Date, (day.dayNumber : Int) = (719163 + n / 86400 : Nat) :=
    Date.exists_dayNumber_eq (by omega) (by rw [Date.dayNumber_last]; omega)
  exact ⟨day, Int.ofNat_inj.mp hday⟩

/-- At every distance from universal time clocks show some date and time of day. -/
theorem exists_showsInstant (hn : n ≤ lastInstant) {offset : Int} (hoffset : offset.natAbs < 1440) :
    ∃ d t, ShowsInstant n offset d t := by
  rw [lastInstant] at hn
  obtain ⟨total, htotal⟩ : ∃ total : Int, (n : Int) + 60 * offset = total := ⟨_, rfl⟩
  obtain ⟨d, hd⟩ : ∃ d : Date, (d.dayNumber : Int) = 719163 + total / 86400 :=
    Date.exists_dayNumber_eq (by omega) (by rw [Date.dayNumber_last]; omega)
  obtain ⟨t, ht⟩ : ∃ t : TimeOfDay, t.seconds = (total % 86400).toNat :=
    exists_seconds_eq (by omega)
  refine ⟨d, t, ?_⟩
  rw [ShowsInstant, hd, ht, htotal, dayNumber_epoch]
  omega

/-- The date and the time of day lead back to the day in universal time. -/
theorem universalDay_of_showsInstant {offset : Int} {d : Date} {t : TimeOfDay}
    (h : ShowsInstant n offset d t) :
    universalDay d t.minutes offset = (epoch.dayNumber + n / 86400 : Nat) := by
  have hsecond := t.second_lt
  rw [ShowsInstant, TimeOfDay.seconds, dayNumber_epoch] at h
  rw [universalDay, minutesPerDay, Int.fdiv_eq_ediv_of_nonneg _ (by decide), dayNumber_epoch]
  omega

/-! ## Written instants -/

/-- The texts of an instant: a count of seconds, milliseconds or microseconds since 1970, or a date
and a time of day at a stated distance from universal time. What is left of a second may follow. -/
inductive WritesInstant (n : Nat) : List Char → Prop
  | seconds : WritesInstant n (Date.padded 10 n)
  | milliseconds {r : Nat} (hr : r < 1000) : WritesInstant n (Date.padded 13 (n * 1000 + r))
  | microseconds {r : Nat} (hr : r < 1000) :
      WritesInstant n (Date.padded 16 (n * 1000000 + 1000 * r))
  | atOffset {offset : Int} {d : Date} {separator : Char} {t : TimeOfDay} {clock zone : List Char}
      (hshows : ShowsInstant n offset d t) (hseparator : separator ∈ clockSeparators)
      (hclock : WritesClock t clock) (hzone : WritesOffset offset zone) :
      WritesInstant n (timestamp d separator clock zone)

/-- The compact date that the first eight of ten digits are. -/
def leadingDate? (n : Nat) : Option Date :=
  Date.ofCivil? (n / 1000000) (n / 10000 % 100) (n / 100 % 100)

theorem compact?_seconds (hn : n ≤ lastInstant) : compact? (Date.padded 10 n) = leadingDate? n := by
  have hlength : (Date.padded 10 n).length = 10 :=
    Date.length_padded (Nat.lt_succ_of_le hn)
  have hdigits : ∀ c ∈ Date.padded 10 n, c.isDigit = true := fun c => Date.isDigit_of_mem_padded
  have htake : ∀ c ∈ (Date.padded 10 n).take 8, c.isDigit = true :=
    fun c hc => hdigits c (List.mem_of_mem_take hc)
  have hnumber : asciiNumber ((Date.padded 10 n).take 8) = n / 100 := by
    rw [(asciiNumber_take_drop hdigits 8).1, hlength, Date.asciiNumber_padded]
    rfl
  have hyear : n / 100 / 10000 = n / 1000000 := by omega
  have hmonth : n / 100 / 100 = n / 10000 := by omega
  rw [compact?_of_digits hdigits (.inr hlength),
    compactCivil?_of_digits htake (by rw [List.length_take, hlength]; rfl), hnumber, hyear, hmonth]
  rfl

/-- A count in any unit names the day of the second that it falls in. -/
theorem ofDayNumber?_count {count perSecond : Nat} {day : Date}
    (hday : day.dayNumber = epoch.dayNumber + count / perSecond / 86400) :
    Date.ofDayNumber? (epochDay + count / perSecond / secondsPerDay : Nat) = some day := by
  rw [dayNumber_epoch] at hday
  rw [epochDay, secondsPerDay, ← hday, Date.ofDayNumber?_dayNumber]

end Notation

open Notation

variable {dates : DateReader} {n : Nat} {day : Date}

theorem Date.read?_seconds (hunix : dates.ReadsUnixTime) (hn : n ≤ lastInstant)
    (hday : day.dayNumber = epoch.dayNumber + n / 86400) :
    read? dates (String.ofList (padded 10 n)) = .ok (some ((leadingDate? n).getD day)) := by
  have hscale : (10, 1) ∈ unixScales := by decide
  have hcount : n < 10 ^ 10 := Nat.lt_succ_of_le hn
  have hnumber : ofDayNumber? (epochDay + n / 1 / secondsPerDay : Nat) = some day :=
    ofDayNumber?_count (by rw [hday, Nat.div_one])
  rw [read?_count hunix hscale hcount, compact?_seconds hn, hnumber]
  cases leadingDate? n <;> rfl

/-- Only the seconds may be taken for a compact date: all other texts are too long. -/
theorem Date.read?_of_writesInstant (hunix : dates.ReadsUnixTime) (htimes : dates.ReadsTimestamps)
    (hn : n ≤ lastInstant) (hday : day.dayNumber = epoch.dayNumber + n / 86400) {cs : List Char}
    (h : WritesInstant n cs) (hne : cs ≠ padded 10 n) :
    read? dates (String.ofList cs) = .ok (some day) := by
  have hcount {width perSecond count : Nat} (hscale : (width, perSecond) ∈ unixScales)
      (hwidth : 10 < width) (hlt : count < 10 ^ width) (hsecond : count / perSecond = n) :
      read? dates (String.ofList (padded width count)) = .ok (some day) := by
    have : NeZero width := ⟨Nat.ne_zero_of_lt hwidth⟩
    have hlong : compact? (padded width count) = none :=
      compact?_eq_none (by rwa [length_padded hlt])
    rw [read?_count hunix hscale hlt, hlong, ofDayNumber?_count (by rw [hsecond, hday])]
  have hmilliseconds : (13, 1000) ∈ unixScales := by decide
  have hmicroseconds : (16, 1000000) ∈ unixScales := by decide
  rw [lastInstant] at hn
  cases h with
  | seconds => exact absurd rfl hne
  | milliseconds hr => exact hcount hmilliseconds (by decide) (by omega) (by omega)
  | microseconds hr => exact hcount hmicroseconds (by decide) (by omega) (by omega)
  | @atOffset offset d separator t clock zone hshows hseparator hclock hzone =>
    have htrim := (isTrimmed_timestamp d separator hclock hzone).trimmed_self
    rw [read?_timestamp htimes hseparator hclock hzone (by rw [String.toList_ofList, htrim]),
      universalDay_of_showsInstant hshows, ← hday, ofUniversalDay_dayNumber]

/-- An instant is read as its day in universal time, however it is written. Only its ten digits are
read as the compact date that they begin with, if they do. -/
theorem instant_read_as_universalDay {dates : DateReader} (hunix : dates.ReadsUnixTime)
    (htimes : dates.ReadsTimestamps) {n : Nat} (hn : n ≤ lastInstant) :
    ∃ day : Date, day.dayNumber = epoch.dayNumber + n / 86400 ∧
      (∀ offset : Int, offset.natAbs < 1440 → ∃ d t, ShowsInstant n offset d t) ∧
      (∀ cs, WritesInstant n cs → cs ≠ Date.padded 10 n →
        Date.read? dates (String.ofList cs) = .ok (some day)) ∧
      Date.read? dates (String.ofList (Date.padded 10 n)) =
        .ok (some ((leadingDate? n).getD day)) ∧
      ((∀ cs, WritesInstant n cs → Date.read? dates (String.ofList cs) = .ok (some day)) ↔
        ∀ other, leadingDate? n = some other → other = day) := by
  obtain ⟨day, hday⟩ := exists_universalDay hn
  have hseconds := Date.read?_seconds hunix hn hday
  have hothers : ∀ cs, WritesInstant n cs → cs ≠ Date.padded 10 n →
      Date.read? dates (String.ofList cs) = .ok (some day) :=
    fun _ => Date.read?_of_writesInstant hunix htimes hn hday
  refine ⟨day, hday, fun offset => exists_showsInstant hn, hothers, hseconds, ?_⟩
  constructor
  · intro hall other hother
    have hread := hall _ .seconds
    rw [hseconds, hother] at hread
    simpa using hread
  · intro hleading cs hcs
    by_cases hne : cs = Date.padded 10 n
    · subst hne
      rw [hseconds]
      cases hother : leadingDate? n with
      | none => rfl
      | some other =>
        rw [hleading other hother]
        rfl
    · exact hothers cs hcs hne

/-- The last second of a day, which clocks ahead of universal time show on the next day. -/
theorem instant_read_as_universalDay_lastSecond :
    DateReader.english.ReadsUnixTime ∧ DateReader.english.ReadsTimestamps ∧
      1579046399 ≤ lastInstant ∧
      Date.read? .english "1579046399" = .ok (some ⟨2020, 1, 14, by decide⟩) ∧
      Date.read? .english "1579046399999" = .ok (some ⟨2020, 1, 14, by decide⟩) ∧
      Date.read? .english "2020-01-15T01:29:59.5 +0130" =
        .ok (some ⟨2020, 1, 14, by decide⟩) := by
  have hunix := DateReader.readsUnixTime_english
  have htimes := DateReader.readsTimestamps_english
  have hle : 1579046399 ≤ lastInstant := by decide
  have hleading : leadingDate? 1579046399 = none := by decide
  obtain ⟨t, ht⟩ : ∃ t : TimeOfDay, t = ⟨1, 29, 59, by decide, by decide, by decide⟩ := ⟨_, rfl⟩
  have hfraction : IsFraction ['.', '5'] := .inr ⟨['5'], by simp, by simp, rfl⟩
  have hclock : WritesClock t (t.toChars ++ ['.', '5']) := .seconds hfraction
  have hzone := @WritesOffset.ahead 1 30 [' '] [] (by decide) (by decide) (by decide) (by decide)
  have hshows : ShowsInstant 1579046399 (60 * (1 : Nat) + (30 : Nat)) ⟨2020, 1, 15, by decide⟩
      t := by
    rw [ShowsInstant, ht]
    decide
  have hnumber : epoch.dayNumber + 1579046399 / 86400 =
      (⟨2020, 1, 14, by decide⟩ : Date).dayNumber := by decide
  obtain ⟨day, hday, -, -, -, hall⟩ := instant_read_as_universalDay hunix htimes hle
  have hread := hall.mpr fun other hother => by
    rw [hleading] at hother
    cases hother
  have hmilliseconds : 999 < 1000 := by decide
  have hletter : 'T' ∈ clockSeparators := by decide
  rw [Date.dayNumber_injective (hday.trans hnumber)] at hread
  subst ht
  exact ⟨hunix, htimes, hle, hread _ .seconds, hread _ (.milliseconds hmilliseconds),
    hread _ (.atOffset hshows hletter hclock hzone)⟩

/-- Ten digits that begin with a date are read as it, not as the second that they count. No reader
of dates is asked. -/
theorem not_universalDay_leadingDate :
    WritesInstant 2020011512 "2020011512".toList ∧ 2020011512 ≤ lastInstant ∧
      (⟨2034, 1, 4, by decide⟩ : Date).dayNumber = epoch.dayNumber + 2020011512 / 86400 ∧
      ∀ dates, Date.read? dates "2020011512" = .ok (some ⟨2020, 1, 15, by decide⟩) := by
  have htrim : trimmed "2020011512".toList = Date.padded 10 2020011512 := by decide
  have hstandard : standard? (Date.padded 10 2020011512) = some ⟨2020, 1, 15, by decide⟩ := by
    decide +kernel
  exact ⟨.seconds, by decide, by decide, fun _ => Date.read?_of_standard? htrim hstandard⟩

end LedgerSearch.Calendar
