import LedgerSearch.Proofs.Calendar.English
import LedgerSearch.Proofs.Calendar.WeekDate
import LedgerSearch.Proofs.Decimal.Digits

/-!
# Texts of digits

A text of digits is a compact date or Unix time. Eight digits are year, month and day of
month, but so are the first eight of ten digits, and these come before the seconds of
Unix time, for which the reader of dates is asked.

* `compactCivil?_of_digits`: the day that eight digits name.
* `standard?_compactDate`: a date of eight digits is read.
* `DateReader.ReadsUnixTime`: what is relied on of a reader.
* `Date.read?_count`: digits are a compact date or Unix time.
-/

namespace LedgerSearch.Calendar

open Text Numeral

namespace Notation

variable {cs : List Char}

theorem number?_of_digits {least most : Nat} (h : ∀ c ∈ cs, c.isDigit = true)
    (hleast : least ≤ cs.length) (hmost : cs.length ≤ most) :
    number? least most cs = some (asciiNumber cs) :=
  number?_eq_some_iff.mpr ⟨h, hleast, hmost, rfl⟩

/-- Digits and the letter of the week take one byte each. -/
theorem byteCount_eq_length (h : ∀ c ∈ cs, c.isDigit = true ∨ c = 'W') :
    byteCount cs = cs.length := by
  have hsize : ∀ c ∈ cs, c.utf8Size = 1 := by
    intro c hc
    rcases h c hc with hdigit | rfl
    · have hcode : c.toNat ≤ 127 := Nat.le_trans (toNat_of_isDigit hdigit).2 (by decide)
      exact Char.utf8Size_eq_one_iff.mpr (UInt32.le_iff_toNat_le.mpr hcode)
    · rfl
  have hfold : ∀ n, cs.foldl (fun n c => n + c.utf8Size) n = n + cs.length := by
    clear h
    induction cs with
    | nil => exact fun n => rfl
    | cons c cs ih =>
      intro n
      obtain ⟨hc, hcs⟩ := List.forall_mem_cons.mp hsize
      rw [List.foldl_cons, ih hcs, hc, List.length_cons]
      omega
  rw [byteCount, hfold, Nat.zero_add]

/-! ## Digits only -/

theorem week_mem_of_compactWeek? {d : Date} (h : compactWeek? cs = some d) : 'W' ∈ cs := by
  rw [compactWeek?_eq] at h
  obtain ⟨year, -, h⟩ := Option.bind_eq_some_iff.mp h
  obtain ⟨week, -, h⟩ := Option.bind_eq_some_iff.mp h
  obtain ⟨day, -, h⟩ := Option.bind_eq_some_iff.mp h
  split at h
  · rename_i hletter
    exact List.mem_of_mem_drop (List.mem_of_mem_head? hletter)
  · cases h

theorem compactWeek?_of_digits (h : ∀ c ∈ cs, c.isDigit = true) : compactWeek? cs = none := by
  refine Option.eq_none_iff_forall_ne_some.mpr fun d hd => ?_
  exact absurd (h 'W' (week_mem_of_compactWeek? hd)) (by decide)

/-- Eight digits are year, month and day of month. -/
theorem compactCivil?_of_digits (h : ∀ c ∈ cs, c.isDigit = true) (hlength : cs.length = 8) :
    compactCivil? cs = Date.ofCivil? (asciiNumber cs / 10000) (asciiNumber cs / 100 % 100)
      (asciiNumber cs % 100) := by
  have hrest : ∀ c ∈ cs.drop 4, c.isDigit = true := fun c hc => h c (List.mem_of_mem_drop hc)
  obtain ⟨hyear, hnumber⟩ := asciiNumber_take_drop h 4
  obtain ⟨hmonth, hday⟩ := asciiNumber_take_drop hrest 2
  simp only [List.length_drop, hlength, Nat.reduceSub, Nat.reducePow] at hyear hnumber hmonth hday
  have hlast : (cs.drop 6).take 2 = (cs.drop 4).drop 2 := by
    rw [List.drop_drop, List.take_of_length_le (by rw [List.length_drop]; omega)]
  have hyear' : number? 4 4 (cs.take 4) = some (asciiNumber cs / 10000) := by
    rw [number?_of_digits (fun c hc => h c (List.mem_of_mem_take hc)) (by simp [hlength])
      (by simp [hlength]), hyear]
  have hmonth' : number? 2 2 ((cs.drop 4).take 2) = some (asciiNumber cs / 100 % 100) := by
    rw [number?_of_digits (fun c hc => hrest c (List.mem_of_mem_take hc)) (by simp [hlength])
      (by simp [hlength]), hmonth, hnumber, Option.some_inj]
    omega
  have hday' : number? 2 2 ((cs.drop 6).take 2) = some (asciiNumber cs % 100) := by
    rw [hlast, number?_of_digits (fun c hc => hrest c (List.mem_of_mem_drop hc)) (by simp [hlength])
      (by simp [hlength]), hday, hnumber, Option.some_inj]
    omega
  simp only [compactCivil?, hyear', hmonth', hday', Option.bind_eq_bind, Option.bind_some]

theorem compact?_of_digits (h : ∀ c ∈ cs, c.isDigit = true)
    (hlength : cs.length = 8 ∨ cs.length = 10) : compact? cs = compactCivil? (cs.take 8) := by
  have htake : ∀ c ∈ cs.take 8, c.isDigit = true := fun c hc => h c (List.mem_of_mem_take hc)
  have hbytes := byteCount_eq_length fun c hc => .inl (h c hc)
  rcases hlength with hlength | hlength
  · rw [compact?, hbytes, hlength, compactWeek?_of_digits h,
      List.take_of_length_le (Nat.le_of_eq hlength)]
    rfl
  · rw [compact?, hbytes, hlength, compactWeek?_of_digits htake]
    rfl

/-- A date of eight digits. -/
def compactDate (d : Date) : List Char :=
  Date.padded 4 d.year ++ (Date.padded 2 d.month ++ Date.padded 2 d.day)

theorem isDigit_of_mem_compactDate {d : Date} : ∀ c ∈ compactDate d, c.isDigit = true := by
  simp only [compactDate, List.forall_mem_append]
  exact ⟨fun c => Date.isDigit_of_mem_padded, fun c => Date.isDigit_of_mem_padded,
    fun c => Date.isDigit_of_mem_padded⟩

theorem standard?_compactDate (d : Date) : standard? (compactDate d) = some d := by
  have hmonth : (Date.padded 2 d.month).length = 2 := Date.length_padded d.month_lt
  have hday : (Date.padded 2 d.day).length = 2 := Date.length_padded d.day_lt
  have hlength : (compactDate d).length = 8 := by
    rw [compactDate, List.length_append, List.length_append, hmonth, hday,
      Date.length_padded d.year_lt]
  have hnumber : asciiNumber (compactDate d) = d.year * 10000 + (d.month * 100 + d.day) := by
    rw [compactDate, asciiNumber_append, asciiNumber_append, List.length_append, hmonth, hday,
      Date.asciiNumber_padded, Date.asciiNumber_padded, Date.asciiNumber_padded]
    rfl
  have hcompact : compact? (compactDate d) = some d := by
    have hmonth' := d.month_lt
    have hday' := d.day_lt
    rw [compact?_of_digits isDigit_of_mem_compactDate (.inl hlength),
      List.take_of_length_le (Nat.le_of_eq hlength),
      compactCivil?_of_digits isDigit_of_mem_compactDate hlength, hnumber, Date.ofCivil?_eq_some]
    omega
  rw [standard?, hcompact]
  rfl

theorem hyphen_notMem_of_digits (h : ∀ c ∈ cs, c.isDigit = true) : '-' ∉ cs :=
  fun hmem => absurd (h '-' hmem) (by decide)

/-- Digits are in no standard notation but a compact date. -/
theorem standard?_of_digits (h : ∀ c ∈ cs, c.isDigit = true) : standard? cs = compact? cs := by
  have hhyphen := hyphen_notMem_of_digits h
  rw [standard?, extendedCivil?_eq_none hhyphen, extendedWeek?_eq_none hhyphen]
  simp

/-! ## Unix time -/

/-- The numbers of digits that Unix time may have, and what it counts in a second. -/
def unixScales : List (Nat × Nat) :=
  [(10, 1), (13, 1000), (16, 1000000)]

end Notation

open Notation

/-- Ten digits count seconds since 1970, thirteen milliseconds, and sixteen microseconds. They name
the day in universal time. -/
def DateReader.ReadsUnixTime (dates : DateReader) : Prop :=
  ∀ width perSecond, (width, perSecond) ∈ unixScales → ∀ count < 10 ^ width,
    dates.read (Date.padded width count) =
      .ok (Date.ofDayNumber? (epochDay + count / perSecond / secondsPerDay : Nat))

namespace Notation

theorem unixTime?_of_digits {width perSecond : Nat} (hscale : (width, perSecond) ∈ unixScales)
    (h : ∀ c ∈ cs, c.isDigit = true) (hlength : cs.length = width) :
    unixTime? cs =
      Date.ofDayNumber? (epochDay + asciiNumber cs / perSecond / secondsPerDay : Nat) := by
  have hpos : 1 ≤ cs.length := by
    have hall : ∀ scale ∈ unixScales, 1 ≤ scale.1 := by decide
    exact hlength ▸ hall _ hscale
  have hnumber : number? 1 cs.length cs = some (asciiNumber cs) :=
    number?_of_digits h hpos (Nat.le_refl _)
  simp only [unixScales, List.mem_cons, Prod.mk.injEq, List.not_mem_nil, or_false] at hscale
  rw [unixTime?, hnumber, hlength]
  rcases hscale with ⟨rfl, rfl⟩ | ⟨rfl, rfl⟩ | ⟨rfl, rfl⟩ <;> rfl

theorem neZero_of_mem_unixScales {width perSecond : Nat}
    (hscale : (width, perSecond) ∈ unixScales) : NeZero width :=
  have hall : ∀ scale ∈ unixScales, scale.1 ≠ 0 := by decide
  ⟨hall _ hscale⟩

/-- No other notation of the reader has digits only. -/
theorem plainDate?_of_digits (h : ∀ c ∈ cs, c.isDigit = true) : plainDate? cs = unixTime? cs := by
  have hseparated : ∀ separator : Char, separator.isDigit = false →
      separated? separator cs = none := by
    intro separator hseparator
    refine separated?_eq_none fun hmem => ?_
    rw [h separator hmem] at hseparator
    cases hseparator
  have hnamed : named? cs = none := named?_eq_none fun c hc => not_isBlank_of_isDigit (h c hc)
  rw [plainDate?, numbers?, hseparated '-' (by decide), hseparated '/' (by decide),
    hseparated '.' (by decide), hnamed]
  simp

end Notation

theorem DateReader.readsUnixTime_english : english.ReadsUnixTime := by
  intro width perSecond hscale count hcount
  have := neZero_of_mem_unixScales hscale
  have hdigits : ∀ c ∈ Date.padded width count, c.isDigit = true :=
    fun _ => Date.isDigit_of_mem_padded
  have hcolon : ':' ∉ Date.padded width count := fun h => absurd (hdigits ':' h) (by decide)
  rw [read_english_of_colon_notMem hcolon, plainDate?_of_digits hdigits,
    unixTime?_of_digits hscale hdigits (Date.length_padded hcount), Date.asciiNumber_padded]

/-- Digits are read as Unix time, unless they are a compact date. -/
theorem Date.read?_count {dates : DateReader} (hdates : dates.ReadsUnixTime)
    {width perSecond count : Nat} (hscale : (width, perSecond) ∈ unixScales)
    (hcount : count < 10 ^ width) :
    read? dates (String.ofList (padded width count)) =
      match compact? (padded width count) with
      | some day => .ok (some day)
      | none => .ok (ofDayNumber? (epochDay + count / perSecond / secondsPerDay : Nat)) := by
  have := neZero_of_mem_unixScales hscale
  have htrim : trimmed (String.ofList (padded width count)).toList = padded width count := by
    rw [String.toList_ofList]
    exact trimmedOf_eq_self fun _ => isBlank_of_mem_padded
  have hstandard : standard? (padded width count) = compact? (padded width count) :=
    standard?_of_digits fun _ => isDigit_of_mem_padded
  cases hcompact : compact? (padded width count) with
  | some day => exact read?_of_standard? htrim (hstandard.trans hcompact)
  | none =>
    rw [read?_of_reader htrim (isTrimmed_padded hcount).ne_nil (hstandard.trans hcompact)]
    exact hdates width perSecond hscale count hcount

end LedgerSearch.Calendar
