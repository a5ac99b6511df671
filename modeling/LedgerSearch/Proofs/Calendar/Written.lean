import LedgerSearch.Proofs.Calendar.ClockTime
import LedgerSearch.Proofs.Calendar.MonthNames
import LedgerSearch.Proofs.Calendar.WeekNotation

/-!
# Every complete notation is read

A day may be written with or without hyphens, as a date or a week date, as three numbers
with the year first or last, with a month name, or with a time of day in universal time.
Those that are standard notations are read without help; the others are left to a reader
of dates, and none of them is taken for a standard one.

* `Writes`: the complete notations of a day.
* `DateReader.ReadsCompleteDates`: what is relied on of a reader.
* `Writes.isTrimmed`: no notation begins or ends with a blank.
* `written_days_are_read`: each is read as the day, with any blanks around it.
-/

namespace LedgerSearch.Calendar

open Text

namespace Notation

/-- The complete notations of a day. -/
inductive Writes (d : Date) : List Char → Prop
  | extended : Writes d d.toChars
  | compact : Writes d (compactDate d)
  | extendedWeek {day : Option (List Char)} (hday : WritesDayOfWeek d day) :
      Writes d (extendedWeek d day)
  | compactWeek {day : Option (List Char)} (hday : WritesDayOfWeek d day) :
      Writes d (compactWeek d day)
  | yearFirst {separator : Char} {month day : List Char} (hseparator : separator ∈ separators)
      (hmonth : Short d.month month) (hday : Short d.day day) :
      Writes d (fields separator (Date.padded 4 d.year) month day)
  | monthFirst {separator : Char} {month day : List Char} (hseparator : separator ∈ separators)
      (hmonth : Short d.month month) (hday : Short d.day day) :
      Writes d (fields separator month day (Date.padded 4 d.year))
  | dayMonthYear {day name : List Char} (hday : IsOrdinal d.day day)
      (hname : IsMonthName d.month name) : Writes d (fields ' ' day name (Date.padded 4 d.year))
  | monthDayYear {name day comma : List Char} (hname : IsMonthName d.month name)
      (hday : IsOrdinal d.day day) (hcomma : comma ∈ [[], [',']]) :
      Writes d (fields ' ' name (day ++ comma) (Date.padded 4 d.year))
  | timestamp {separator : Char} {t : TimeOfDay} {clock zone : List Char}
      (hseparator : separator ∈ clockSeparators) (hclock : WritesClock t clock)
      (hzone : zone ∈ [[], ['Z']]) : Writes d (timestamp d separator clock zone)

end Notation

open Notation

/-- A reader of every complete notation that is no standard one. -/
structure DateReader.ReadsCompleteDates (dates : DateReader) : Prop where
  yearFirst : dates.ReadsYearFirst
  monthFirst : dates.ReadsMonthFirst
  monthNames : dates.ReadsMonthNames
  timestamps : dates.ReadsTimestamps

theorem DateReader.readsCompleteDates_english : english.ReadsCompleteDates where
  yearFirst := readsYearFirst_english
  monthFirst := readsMonthFirst_english
  monthNames := readsMonthNames_english
  timestamps := readsTimestamps_english

namespace Notation

/-! ## Blanks around a notation -/

theorem isTrimmed_of_isWordChar {cs : List Char} (hne : cs ≠ []) (h : ∀ c ∈ cs, IsWordChar c) :
    IsTrimmed cs :=
  IsTrimmed.of_forall hne fun c hc => (h c hc).isBlank_eq_false

theorem isTrimmed_of_number? {least most n : Nat} {cs : List Char} (hleast : 0 < least)
    (h : number? least most cs = some n) : IsTrimmed cs :=
  isTrimmed_of_isWordChar (ne_nil_of_number? hleast h) fun c hc =>
    isWordChar_of_isDigit (isDigit_of_number? h c hc)

theorem isTrimmed_fields {a b c : List Char} (separator : Char) (ha : IsTrimmed a)
    (hc : IsTrimmed c) : IsTrimmed (fields separator a b c) := by
  simpa [fields] using ha.around (separator :: (b ++ [separator])) hc

theorem isTrimmed_week {d : Date} {day : Option (List Char)} (hday : WritesDayOfWeek d day) :
    IsTrimmed (extendedWeek d day) ∧ IsTrimmed (compactWeek d day) := by
  have hyear : IsTrimmed (Date.padded 4 d.weekYear) := isTrimmed_padded d.weekYear_lt
  cases hday with
  | stated =>
    have hlast : IsTrimmed (Date.padded 1 d.dayOfWeek) :=
      isTrimmed_padded d.dayOfWeek_lt
    constructor
    · simpa [extendedWeek] using
        hyear.around ('-' :: 'W' :: (Date.padded 2 d.weekOfYear ++ ['-'])) hlast
    · exact hyear.around ('W' :: Date.padded 2 d.weekOfYear) hlast
  | monday =>
    have hlast : IsTrimmed (Date.padded 2 d.weekOfYear) :=
      isTrimmed_padded d.weekOfYear_lt
    constructor
    · simpa [extendedWeek] using hyear.around ['-', 'W'] hlast
    · simpa [compactWeek] using hyear.around ['W'] hlast

theorem Writes.isTrimmed {d : Date} {cs : List Char} (h : Writes d cs) : IsTrimmed cs := by
  have hyear : IsTrimmed (Date.padded 4 d.year) := isTrimmed_padded d.year_lt
  cases h with
  | extended => exact isTrimmed_toChars d
  | compact => exact hyear.around _ (isTrimmed_padded d.day_lt)
  | extendedWeek hday => exact (isTrimmed_week hday).1
  | compactWeek hday => exact (isTrimmed_week hday).2
  | yearFirst hseparator hmonth hday =>
    exact isTrimmed_fields _ hyear (isTrimmed_of_number? (by decide) hday.number?_eq)
  | monthFirst hseparator hmonth hday =>
    exact isTrimmed_fields _ (isTrimmed_of_number? (by decide) hmonth.number?_eq) hyear
  | dayMonthYear hday hname =>
    obtain ⟨⟨first, others, rfl, -⟩, -, hchars⟩ := hday.shape
    exact isTrimmed_fields _
      (isTrimmed_of_isWordChar (List.cons_ne_nil _ _) fun c hc => .inl (hchars c hc)) hyear
  | monthDayYear hname hday hcomma =>
    have hmonth := hname.monthName?_eq
    exact isTrimmed_fields _ (isTrimmed_of_isWordChar (isLower_of_monthName? hmonth).1 fun c hc =>
      isWordChar_of_isAlpha (isAlpha_of_monthName? hmonth c hc)) hyear
  | timestamp hseparator hclock hzone => exact isTrimmed_timestamp d _ hclock (.universal hzone)

/-! ## The day that is read -/

theorem standard?_toChars (d : Date) : standard? d.toChars = some d := by
  have hhyphen : d.toChars =
      Date.padded 4 d.year ++ '-' :: (Date.padded 2 d.month ++ '-' :: Date.padded 2 d.day) := by
    simp [Date.toChars]
  have hshort : (Date.padded 4 d.year).length < 8 := by
    rw [Date.length_padded d.year_lt]
    decide
  have hcompact : compact? d.toChars = none := by
    rw [hhyphen]
    exact compact?_append_cons _ hshort (by decide) (by decide)
  rw [standard?, hcompact, extendedCivil?_toChars]
  rfl

/-- Month and day of a day stand in order. -/
theorem inOrder?_self (d : Date) : inOrder? d.year d.month d.day = some d := by
  rw [inOrder?_eq, if_pos d.isCivil, Date.ofCivil?_self]

end Notation

/-- Each complete notation of a day is read as that day, and blanks around it do not count. -/
theorem written_days_are_read {dates : DateReader} (hdates : dates.ReadsCompleteDates) {d : Date}
    {before cs after : List Char} (h : Writes d cs) (hbefore : ∀ c ∈ before, isBlank c = true)
    (hafter : ∀ c ∈ after, isBlank c = true) :
    Date.read? dates (String.ofList (before ++ (cs ++ after))) = .ok (some d) := by
  have hs : trimmed (String.ofList (before ++ (cs ++ after))).toList = cs := by
    rw [String.toList_ofList, h.isTrimmed.trimmed_eq hbefore hafter]
  have hyear : d.year < 10000 := d.year_lt
  cases h with
  | extended => exact Date.read?_of_standard? hs (standard?_toChars d)
  | compact => exact Date.read?_of_standard? hs (standard?_compactDate d)
  | extendedWeek hday => exact Date.read?_of_standard? hs (standard?_extendedWeek hday)
  | compactWeek hday => exact Date.read?_of_standard? hs (standard?_compactWeek hday)
  | yearFirst hseparator hmonth hday =>
    rw [Date.read?_yearFirst hdates.yearFirst hseparator hyear hmonth hday hs, inOrder?_self]
  | monthFirst hseparator hmonth hday =>
    rw [Date.read?_monthFirst hdates.monthFirst hseparator hyear hmonth hday hs, inOrder?_self]
  | dayMonthYear hday hname =>
    rw [Date.read?_dayMonthYear hdates.monthNames hyear hday hname hs, Date.ofCivil?_self]
  | monthDayYear hname hday hcomma =>
    rw [Date.read?_monthDayYear hdates.monthNames hyear hname hday hcomma hs, Date.ofCivil?_self]
  | timestamp hseparator hclock hzone =>
    rw [Date.read?_timestamp hdates.timestamps hseparator hclock (.universal hzone) hs,
      universalDay_zero, Date.ofUniversalDay_dayNumber]

/-- The last day of 2018 is a Monday and begins the first week of the next year. -/
theorem written_days_are_read_lastMonday :
    DateReader.english.ReadsCompleteDates ∧
      Date.read? .english " 2019-W01\t" = .ok (some ⟨2018, 12, 31, by decide⟩) ∧
      Date.read? .english "DEC 31st, 2018" = .ok (some ⟨2018, 12, 31, by decide⟩) ∧
      Date.read? .english "2018-12-31 23:59:59.9Z" = .ok (some ⟨2018, 12, 31, by decide⟩) ∧
      Date.read? .english "2018-12-31T23:59" = .ok (some ⟨2018, 12, 31, by decide⟩) := by
  have hdates := DateReader.readsCompleteDates_english
  obtain ⟨d, hd⟩ : ∃ d : Date, d = ⟨2018, 12, 31, by decide⟩ := ⟨_, rfl⟩
  obtain ⟨t, ht⟩ : ∃ t : TimeOfDay, t = ⟨23, 59, 59, by decide, by decide, by decide⟩ := ⟨_, rfl⟩
  obtain ⟨t', ht'⟩ : ∃ t : TimeOfDay, t = ⟨23, 59, 0, by decide, by decide, by decide⟩ := ⟨_, rfl⟩
  have hmonday : WritesDayOfWeek d none := .monday (by rw [hd]; decide)
  have hname : IsMonthName d.month ['D', 'E', 'C'] := by
    rw [hd]
    exact ⟨"December", by decide, .inr (by decide)⟩
  have hday : IsOrdinal d.day ['3', '1', 's', 't'] := by
    rw [hd]
    exact ⟨['3', '1'], ['s', 't'], ⟨by decide, .inr rfl⟩, by decide, rfl⟩
  have hfraction : IsFraction ['.', '9'] := .inr ⟨['9'], by simp, by simp, rfl⟩
  have hnamed : Writes d (fields ' ' ['D', 'E', 'C'] (['3', '1', 's', 't'] ++ [','])
      (Date.padded 4 d.year)) := .monthDayYear hname hday (by decide)
  have hclock : WritesClock t (t.toChars ++ ['.', '9']) := .seconds hfraction
  have hclock' : WritesClock t' (Date.padded 2 t'.hour ++ ':' :: Date.padded 2 t'.minute) :=
    .minutes (by rw [ht'])
  have htimed : Writes d (timestamp d ' ' (t.toChars ++ ['.', '9']) ['Z']) :=
    .timestamp (by decide) hclock (by decide)
  have htimed' : Writes d
      (timestamp d 'T' (Date.padded 2 t'.hour ++ ':' :: Date.padded 2 t'.minute) []) :=
    .timestamp (by decide) hclock' (by decide)
  have hbefore : ∀ c ∈ [' '], isBlank c = true := List.forall_mem_singleton.mpr rfl
  have hafter : ∀ c ∈ ['\t'], isBlank c = true := List.forall_mem_singleton.mpr rfl
  have hnone : ∀ c ∈ [], isBlank c = true := List.forall_mem_nil _
  have hweek := written_days_are_read hdates (.extendedWeek hmonday) hbefore hafter
  have hword := written_days_are_read hdates hnamed hnone hnone
  have htime := written_days_are_read hdates htimed hnone hnone
  have htime' := written_days_are_read hdates htimed' hnone hnone
  subst hd ht ht'
  exact ⟨hdates, hweek, hword, htime, htime'⟩

end LedgerSearch.Calendar
