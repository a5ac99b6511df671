import LedgerSearch.Proofs.Calendar.ThreeNumbers

/-!
# Days with a month name

A day and a year are written with an English month name between them or in front of
them. A name is full or has three letters, large and small letters do not differ, and
the day may be an ordinal. No standard notation has blanks, so the reader of dates is
asked.

* `DateReader.ReadsMonthNames`: what is relied on of a reader.
* `IsMonthName.monthName?_eq`, `IsOrdinal.ordinal?_eq`: names and days in English.
* `standard?_words`, `plainDate?_words`: no other notation has three words.
* `Date.read?_dayMonthYear`, `Date.read?_monthDayYear`: the day that is read.
-/

namespace LedgerSearch.Calendar

open Text

namespace Notation

/-- The months in their order. -/
def englishMonths : List String :=
  ["January", "February", "March", "April", "May", "June", "July", "August", "September",
    "October", "November", "December"]

/-- The name of a month or its first three letters, in any case. -/
def IsMonthName (month : Nat) (cs : List Char) : Prop :=
  ∃ name : String, (name, month) ∈ englishMonths.zipIdx 1 ∧
    (cs.map Char.toLower = name.toList.map Char.toLower ∨
      cs.map Char.toLower = (name.toList.take 3).map Char.toLower)

/-- What may follow a number to make it an ordinal. -/
def ordinalSuffixes : List (List Char) :=
  ["".toList, "st".toList, "nd".toList, "rd".toList, "th".toList]

/-- A day of month, which may be an ordinal. -/
def IsOrdinal (day : Nat) (cs : List Char) : Prop :=
  ∃ digits suffix, Short day digits ∧ suffix.map Char.toLower ∈ ordinalSuffixes ∧
    cs = digits ++ suffix

end Notation

open Notation

/-- A day of month, a month name and a year name a day or nothing, and so do month name, day of
month and year, where a comma may follow the day. -/
structure DateReader.ReadsMonthNames (dates : DateReader) : Prop where
  dayMonthYear : ∀ year < 10000, ∀ month n day name, IsOrdinal n day → IsMonthName month name →
    dates.read (fields ' ' day name (Date.padded 4 year)) = .ok (Date.ofCivil? year month n)
  monthDayYear : ∀ year < 10000, ∀ month n day name, IsMonthName month name → IsOrdinal n day →
    ∀ comma ∈ [[], [',']],
      dates.read (fields ' ' name (day ++ comma) (Date.padded 4 year)) =
        .ok (Date.ofCivil? year month n)

namespace Notation

/-! ## Letters -/

theorem isLower_bounds {c : Char} (h : c.isLower = true) : 97 ≤ c.toNat ∧ c.toNat ≤ 122 := by
  obtain ⟨hlow, hhigh⟩ := Bool.and_eq_true_iff.mp h
  exact ⟨UInt32.le_iff_toNat_le.mp (of_decide_eq_true hlow),
    UInt32.le_iff_toNat_le.mp (of_decide_eq_true hhigh)⟩

theorem isAlpha_bounds {c : Char} (h : c.isAlpha = true) :
    65 ≤ c.toNat ∧ c.toNat ≤ 90 ∨ 97 ≤ c.toNat ∧ c.toNat ≤ 122 := by
  rcases Bool.or_eq_true_iff.mp h with hupper | hlower
  · obtain ⟨hlow, hhigh⟩ := of_decide_eq_true hupper
    exact .inl ⟨UInt32.le_iff_toNat_le.mp hlow, UInt32.le_iff_toNat_le.mp hhigh⟩
  · exact .inr (isLower_bounds hlower)

theorem isAlpha_of_isLower_toLower {c : Char} (h : c.toLower.isLower = true) :
    c.isAlpha = true := by
  by_cases hupper : c.isUpper = true
  · exact Bool.or_eq_true_iff.mpr (.inl hupper)
  · have hself : c.toLower = c := dif_neg fun hc => hupper (decide_eq_true hc)
    rw [hself] at h
    exact Bool.or_eq_true_iff.mpr (.inr h)

theorem not_isDigit_of_isAlpha {c : Char} (h : c.isAlpha = true) : c.isDigit = false := by
  rw [Bool.eq_false_iff]
  intro hdigit
  have hletter := isAlpha_bounds h
  have hnumber := toNat_of_isDigit hdigit
  omega

/-! ## Names -/

theorem monthName?_congr {as bs : List Char} (h : as.map Char.toLower = bs.map Char.toLower) :
    monthName? as = monthName? bs := by
  rw [monthName?, monthName?, h]

theorem IsMonthName.monthName?_eq {month : Nat} {cs : List Char} (h : IsMonthName month cs) :
    monthName? cs = some month := by
  have hall : ∀ entry ∈ englishMonths.zipIdx 1, monthName? entry.1.toList = some entry.2 ∧
      monthName? (entry.1.toList.take 3) = some entry.2 := by decide
  obtain ⟨name, hmem, hfull | hshort⟩ := h
  · rw [monthName?_congr hfull]
    exact (hall _ hmem).1
  · rw [monthName?_congr hshort]
    exact (hall _ hmem).2

theorem isAlpha_of_monthName? {cs : List Char} {month : Nat} (h : monthName? cs = some month) :
    ∀ c ∈ cs, c.isAlpha = true :=
  fun c hc => isAlpha_of_isLower_toLower ((isLower_of_monthName? h).2 c hc).1

theorem monthName?_of_isDigit {c : Char} (cs : List Char) (h : c.isDigit = true) :
    monthName? (c :: cs) = none := by
  refine Option.eq_none_iff_forall_ne_some.mpr fun month hmonth => ?_
  have hletter := not_isDigit_of_isAlpha (isAlpha_of_monthName? hmonth c List.mem_cons_self)
  rw [h] at hletter
  cases hletter

/-! ## Days -/

theorem isAlpha_of_mem_suffix {suffix : List Char}
    (h : suffix.map Char.toLower ∈ ordinalSuffixes) : ∀ c ∈ suffix, c.isAlpha = true := by
  have hall : ∀ suffix ∈ ordinalSuffixes, suffix.all Char.isLower = true := by decide
  exact fun c hc =>
    isAlpha_of_isLower_toLower (List.all_eq_true.mp (hall _ h) _ (List.mem_map_of_mem hc))

theorem Short.isDigit_of_mem {n : Nat} {cs : List Char} (h : Short n cs) :
    ∀ c ∈ cs, c.isDigit = true :=
  isDigit_of_number? h.number?_eq

theorem IsOrdinal.ordinal?_eq {day : Nat} {cs : List Char} (h : IsOrdinal day cs) :
    ordinal? cs = some day := by
  obtain ⟨digits, suffix, hshort, hsuffix, rfl⟩ := h
  have hletter : ∀ c ∈ suffix.head?, c.isDigit = false := fun c hc =>
    not_isDigit_of_isAlpha (isAlpha_of_mem_suffix hsuffix c (List.mem_of_mem_head? hc))
  have hany : (["", "st", "nd", "rd", "th"].any (·.toList = suffix.map Char.toLower)) = true := by
    obtain ⟨ending, hmem, heq⟩ : ∃ ending ∈ ["", "st", "nd", "rd", "th"],
        ending.toList = suffix.map Char.toLower := List.mem_map.mp hsuffix
    exact List.any_eq_true.mpr ⟨ending, hmem, decide_eq_true heq⟩
  rw [ordinal?, takeWhile_run hshort.isDigit_of_mem hletter,
    dropWhile_run hshort.isDigit_of_mem hletter, if_pos hany, hshort.number?_eq]

/-! ## Three words -/

/-- A character of a word: a letter, a digit or a comma. -/
def IsWordChar (c : Char) : Prop :=
  c.isAlphanum = true ∨ c = ','

theorem IsWordChar.isBlank_eq_false {c : Char} (h : IsWordChar c) : isBlank c = false := by
  rcases h with h | rfl
  · rcases Bool.or_eq_true_iff.mp h with hletter | hdigit
    · have hbounds := isAlpha_bounds hletter
      simp only [isBlank, Bool.or_eq_false_iff, Bool.and_eq_false_iff, decide_eq_false_iff_not,
        beq_eq_false_iff_ne]
      omega
    · exact not_isBlank_of_isDigit hdigit
  · decide

theorem IsWordChar.ne_of_mem_separators {c separator : Char} (h : IsWordChar c)
    (hseparator : separator ∈ separators) : c ≠ separator := by
  have hall : ∀ separator ∈ separators, separator.isAlphanum = false ∧ separator ≠ ',' := by
    simp [separators]
  obtain ⟨halphanum, hcomma⟩ := hall separator hseparator
  rintro rfl
  rcases h with h | h
  · rw [halphanum] at h
    cases h
  · exact hcomma h

section Words

variable {a b c : List Char}

theorem words_fields (ha : a ≠ []) (hb : b ≠ []) (hc : c ≠ [])
    (h : ∀ x ∈ a ++ (b ++ c), isBlank x = false) : words (fields ' ' a b c) = [a, b, c] := by
  simp only [List.forall_mem_append] at h
  rw [words, fields, split_append_cons _ h.1 rfl, split_append_cons _ h.2.1 rfl,
    split_eq_singleton h.2.2]
  simp [ha, hb, hc]

theorem notMem_words {separator : Char} (hseparator : separator ∈ separators)
    (h : ∀ x ∈ a ++ (b ++ c), IsWordChar x) : separator ∉ fields ' ' a b c := by
  intro hmem
  rcases mem_fields.mp hmem with hmem | rfl
  · exact (h separator hmem).ne_of_mem_separators hseparator rfl
  · exact absurd (not_isBlank_of_mem_separators _ hseparator) (by decide)

/-- Three words are in no standard notation but a compact date. -/
theorem standard?_words (h : ∀ x ∈ a ++ (b ++ c), IsWordChar x) :
    standard? (fields ' ' a b c) = compact? (fields ' ' a b c) := by
  have hhyphen : '-' ∉ fields ' ' a b c := notMem_words (by decide) h
  rw [standard?, extendedCivil?_eq_none hhyphen, extendedWeek?_eq_none hhyphen]
  simp

/-- No other notation of the reader has three words. -/
theorem plainDate?_words (h : ∀ x ∈ a ++ (b ++ c), IsWordChar x) :
    plainDate? (fields ' ' a b c) = named? (fields ' ' a b c) := by
  have hunix : unixTime? (fields ' ' a b c) = none :=
    unixTime?_eq_none_of_mem (mem_fields.mpr (.inr rfl)) (by decide)
  have hseparated : ∀ separator ∈ separators, separated? separator (fields ' ' a b c) = none :=
    fun _ hseparator => separated?_eq_none (notMem_words hseparator h)
  rw [plainDate?, hunix, numbers?, hseparated '-' (by decide), hseparated '/' (by decide),
    hseparated '.' (by decide)]
  simp

theorem colon_notMem_words (h : ∀ x ∈ a ++ (b ++ c), IsWordChar x) : ':' ∉ fields ' ' a b c := by
  have hall : ¬ IsWordChar ':' := by
    unfold IsWordChar
    decide
  intro hmem
  rcases mem_fields.mp hmem with hmem | heq
  · exact hall (h ':' hmem)
  · cases heq

end Words

/-! ## Day, month and year -/

theorem isWordChar_of_isDigit {c : Char} (h : c.isDigit = true) : IsWordChar c :=
  .inl (Bool.or_eq_true_iff.mpr (.inr h))

theorem isWordChar_of_isAlpha {c : Char} (h : c.isAlpha = true) : IsWordChar c :=
  .inl (Bool.or_eq_true_iff.mpr (.inl h))

/-- An ordinal begins with a digit, and it is short. -/
theorem IsOrdinal.shape {day : Nat} {cs : List Char} (h : IsOrdinal day cs) :
    (∃ c rest, cs = c :: rest ∧ c.isDigit = true) ∧ cs.length < 8 ∧
      ∀ c ∈ cs, c.isAlphanum = true := by
  have hall : ∀ suffix ∈ ordinalSuffixes, suffix.length ≤ 2 := by decide
  obtain ⟨digits, suffix, hshort, hsuffix, rfl⟩ := h
  obtain ⟨hdigits, hleast, hmost, -⟩ := number?_eq_some_iff.mp hshort.number?_eq
  have hlength := hall _ hsuffix
  rw [List.length_map] at hlength
  obtain ⟨first, others, rfl⟩ := List.exists_cons_of_length_pos hleast
  refine ⟨⟨first, others ++ suffix, rfl, hdigits first List.mem_cons_self⟩, ?_, ?_⟩
  · rw [List.length_append]
    omega
  · rw [List.forall_mem_append]
    exact ⟨fun c hc => Bool.or_eq_true_iff.mpr (.inr (hdigits c hc)),
      fun c hc => Bool.or_eq_true_iff.mpr (.inl (isAlpha_of_mem_suffix hsuffix c hc))⟩

theorem dropComma_of_alphanum {cs : List Char} (h : ∀ c ∈ cs, c.isAlphanum = true) :
    dropComma cs = cs :=
  if_neg fun hlast => absurd (h ',' (List.mem_of_getLast? hlast)) (by decide)

theorem dropComma_concat (cs : List Char) : dropComma (cs ++ [',']) = cs := by
  rw [dropComma, if_pos List.getLast?_concat, List.dropLast_concat]

section Named

variable {year month n : Nat} {name day comma number : List Char}

theorem isWordChar_dayMonthYear (hday : IsOrdinal n day) (hmonth : IsMonthName month name)
    (hyear : number? 4 4 number = some year) : ∀ x ∈ day ++ (name ++ number), IsWordChar x := by
  obtain ⟨-, -, hchars⟩ := hday.shape
  simp only [List.forall_mem_append]
  exact ⟨fun x hx => .inl (hchars x hx),
    fun x hx => isWordChar_of_isAlpha (isAlpha_of_monthName? hmonth.monthName?_eq x hx),
    fun x hx => isWordChar_of_isDigit (isDigit_of_number? hyear x hx)⟩

theorem isWordChar_monthDayYear (hmonth : IsMonthName month name) (hday : IsOrdinal n day)
    (hcomma : comma ∈ [[], [',']]) (hyear : number? 4 4 number = some year) :
    ∀ x ∈ name ++ (day ++ comma ++ number), IsWordChar x := by
  have hcomma' : ∀ text ∈ [[], [',']], ∀ x ∈ text, IsWordChar x := by simp [IsWordChar]
  obtain ⟨-, -, hchars⟩ := hday.shape
  simp only [List.forall_mem_append]
  exact ⟨fun x hx => isWordChar_of_isAlpha (isAlpha_of_monthName? hmonth.monthName?_eq x hx),
    ⟨fun x hx => .inl (hchars x hx), hcomma' comma hcomma⟩,
    fun x hx => isWordChar_of_isDigit (isDigit_of_number? hyear x hx)⟩

theorem standard?_dayMonthYear (hday : IsOrdinal n day) (hmonth : IsMonthName month name)
    (hyear : number? 4 4 number = some year) : standard? (fields ' ' day name number) = none := by
  rw [standard?_words (isWordChar_dayMonthYear hday hmonth hyear)]
  exact compact?_append_cons _ hday.shape.2.1 (by decide) (by decide)

theorem standard?_monthDayYear (hmonth : IsMonthName month name) (hday : IsOrdinal n day)
    (hcomma : comma ∈ [[], [',']]) (hyear : number? 4 4 number = some year) :
    standard? (fields ' ' name (day ++ comma) number) = none := by
  obtain ⟨hne, hletters⟩ := isLower_of_monthName? hmonth.monthName?_eq
  have halpha := isAlpha_of_monthName? hmonth.monthName?_eq
  rw [standard?_words (isWordChar_monthDayYear hmonth hday hcomma hyear)]
  -- Already the first character of the name is one that no compact date has.
  obtain ⟨letter, letters, rfl⟩ := List.exists_cons_of_ne_nil hne
  refine @compact?_append_cons [] letter _ (by decide)
    (not_isDigit_of_isAlpha (halpha letter List.mem_cons_self)) ?_
  rintro rfl
  exact (hletters 'W' List.mem_cons_self).2 (by decide)

/-! ## In English -/

theorem plainDate?_dayMonthYear (hday : IsOrdinal n day) (hmonth : IsMonthName month name)
    (hyear : number? 4 4 number = some year) :
    plainDate? (fields ' ' day name number) = Date.ofCivil? year month n := by
  have hname := hmonth.monthName?_eq
  have hword := isWordChar_dayMonthYear hday hmonth hyear
  obtain ⟨⟨first, others, hcons, hfirst⟩, -, -⟩ := hday.shape
  have hnone : monthName? day = none := hcons ▸ monthName?_of_isDigit others hfirst
  have hwords : words (fields ' ' day name number) = [day, name, number] :=
    words_fields (hcons ▸ List.cons_ne_nil _ _) (isLower_of_monthName? hname).1
      (ne_nil_of_number? (by decide) hyear) fun x hx => (hword x hx).isBlank_eq_false
  rw [plainDate?_words hword, named?, hwords]
  simp only [hyear, hnone, hname, hday.ordinal?_eq, Option.bind_eq_bind, Option.bind_some]

theorem plainDate?_monthDayYear (hmonth : IsMonthName month name) (hday : IsOrdinal n day)
    (hcomma : comma ∈ [[], [',']]) (hyear : number? 4 4 number = some year) :
    plainDate? (fields ' ' name (day ++ comma) number) = Date.ofCivil? year month n := by
  have hname := hmonth.monthName?_eq
  have hword := isWordChar_monthDayYear hmonth hday hcomma hyear
  obtain ⟨⟨first, others, hcons, -⟩, -, hchars⟩ := hday.shape
  have hordinal : dropComma (day ++ comma) = day := by
    simp only [List.mem_cons, List.not_mem_nil, or_false] at hcomma
    rcases hcomma with rfl | rfl
    · rw [List.append_nil, dropComma_of_alphanum hchars]
    · exact dropComma_concat day
  have hwords : words (fields ' ' name (day ++ comma) number) = [name, day ++ comma, number] :=
    words_fields (isLower_of_monthName? hname).1 (by simp [hcons])
      (ne_nil_of_number? (by decide) hyear) fun x hx => (hword x hx).isBlank_eq_false
  rw [plainDate?_words hword, named?, hwords]
  simp only [hyear, hname, hordinal, hday.ordinal?_eq, Option.bind_eq_bind, Option.bind_some]

end Named

end Notation

theorem DateReader.readsMonthNames_english : english.ReadsMonthNames where
  dayMonthYear year hyear month n day name hday hmonth := by
    have hnumber : number? 4 4 (Date.padded 4 year) = some year := number?_padded hyear
    rw [read_english_of_colon_notMem
      (colon_notMem_words (isWordChar_dayMonthYear hday hmonth hnumber)),
      plainDate?_dayMonthYear hday hmonth hnumber]
  monthDayYear year hyear month n day name hmonth hday comma hcomma := by
    have hnumber : number? 4 4 (Date.padded 4 year) = some year := number?_padded hyear
    rw [read_english_of_colon_notMem
      (colon_notMem_words (isWordChar_monthDayYear hmonth hday hcomma hnumber)),
      plainDate?_monthDayYear hmonth hday hcomma hnumber]

/-! ## The day that is read -/

namespace Date

variable {dates : DateReader} {s : String} {year month n : Nat} {name day comma : List Char}

theorem read?_dayMonthYear (hdates : dates.ReadsMonthNames) (hyear : year < 10000)
    (hday : IsOrdinal n day) (hmonth : IsMonthName month name)
    (hs : trimmed s.toList = fields ' ' day name (padded 4 year)) :
    read? dates s = .ok (ofCivil? year month n) := by
  have hnumber : number? 4 4 (padded 4 year) = some year := number?_padded hyear
  rw [read?_of_reader hs (by simp [fields]) (standard?_dayMonthYear hday hmonth hnumber)]
  exact hdates.dayMonthYear year hyear month n day name hday hmonth

theorem read?_monthDayYear (hdates : dates.ReadsMonthNames) (hyear : year < 10000)
    (hmonth : IsMonthName month name) (hday : IsOrdinal n day) (hcomma : comma ∈ [[], [',']])
    (hs : trimmed s.toList = fields ' ' name (day ++ comma) (padded 4 year)) :
    read? dates s = .ok (ofCivil? year month n) := by
  have hnumber : number? 4 4 (padded 4 year) = some year := number?_padded hyear
  rw [read?_of_reader hs (by simp [fields])
    (standard?_monthDayYear hmonth hday hcomma hnumber)]
  exact hdates.monthDayYear year hyear month n day name hmonth hday comma hcomma

end Date

end LedgerSearch.Calendar
