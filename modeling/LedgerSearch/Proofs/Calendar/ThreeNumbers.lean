import LedgerSearch.Proofs.Calendar.English

/-!
# Three numbers with the year first or last

Beside the year, two numbers between equal separators are month and day of month. A reader
takes the first one that can be a month for the month, so an impossible date that is
possible when month and day are exchanged is read as that day. With the year first and in
full width it has been refused as an extended date before, and so the reader is asked.

* `inOrder?_eq`: month and day are exchanged where only that names a day.
* `DateReader.ReadsYearFirst`, `DateReader.ReadsMonthFirst`: what is relied on of a reader.
* `standard?_yearFirst`, `standard?_yearLast`: three numbers among the standard notations.
* `yearFirst_in_order_iff`: when month and day are read in their order.
-/

namespace LedgerSearch.Calendar

open Text

theorem Date.ofCivil?_eq_none_iff {year month day : Nat} :
    ofCivil? year month day = none ↔ ¬ IsCivil year month day := by
  unfold ofCivil?
  split <;> simp [*]

namespace Notation

/-- Three fields between equal separators. -/
def fields (separator : Char) (a b c : List Char) : List Char :=
  a ++ separator :: (b ++ separator :: c)

/-- A number of at most two digits as it may be written: one digit may have a zero in front. -/
def Short (n : Nat) (cs : List Char) : Prop :=
  n < 100 ∧ (cs = Date.padded 1 n ∨ cs = Date.padded 2 n)

theorem Short.number?_eq {n : Nat} {cs : List Char} (h : Short n cs) :
    number? 1 2 cs = some n := by
  obtain ⟨hn, h⟩ := h
  have hpadded (width : Nat) : ∀ c ∈ Date.padded width n, c.isDigit = true :=
    fun c hc => Date.isDigit_of_mem_padded hc
  rw [number?_eq_some_iff]
  rcases h with rfl | rfl
  · have hlength : (Nat.toDigits 10 n).length ≤ 2 :=
      (Nat.length_toDigits_le_iff (by decide) (by decide)).mpr hn
    have hpos : 0 < (Nat.toDigits 10 n).length := Nat.length_toDigits_pos
    refine ⟨hpadded 1, ?_, ?_, Date.asciiNumber_padded 1 n⟩
    · rw [Date.padded, List.length_append, List.length_replicate]
      omega
    · rw [Date.padded, List.length_append, List.length_replicate]
      omega
  · have hlength : (Date.padded 2 n).length = 2 := Date.length_padded hn
    exact ⟨hpadded 2, by omega, by omega, Date.asciiNumber_padded 2 n⟩

/-- The separators that may stand between numbers. -/
def separators : List Char :=
  ['-', '/', '.']

/-- A separator belongs to no number, and neither to a week date nor to a time of day. -/
theorem not_isDigit_of_mem_separators : ∀ separator ∈ separators, separator.isDigit = false := by
  simp [separators]

theorem not_isBlank_of_mem_separators : ∀ separator ∈ separators, isBlank separator = false := by
  simp [separators, isBlank]

theorem ne_of_mem_separators : ∀ separator ∈ separators, separator ≠ 'W' ∧ separator ≠ ':' := by
  simp [separators]

/-- The day of a year and two numbers, of which the first one that can be a month is the month. -/
def inOrder? (year a b : Nat) : Option Date :=
  if 1 ≤ a ∧ a ≤ 12 then Date.ofCivil? year a b else Date.ofCivil? year b a

/-- Every month has twelve days. -/
theorem isCivil_of_le_twelve {year a b : Nat} (hyear : 1 ≤ year ∧ year ≤ 9999)
    (ha : 1 ≤ a ∧ a ≤ 12) (hb : 1 ≤ b ∧ b ≤ 12) : IsCivil year a b := by
  have hdays : 12 ≤ daysInMonth year a := by
    obtain ⟨hleast, hmost⟩ := ha
    interval_cases a <;> simp [daysInMonth, monthLengths]
    split <;> decide
  exact ⟨hyear.1, hyear.2, hb.1, Nat.le_trans hb.2 hdays⟩

/-- The numbers are month and day if they name a day so, and otherwise day and month. -/
theorem inOrder?_eq (year a b : Nat) : inOrder? year a b =
    if IsCivil year a b then Date.ofCivil? year a b else Date.ofCivil? year b a := by
  unfold inOrder?
  by_cases hcivil : IsCivil year a b
  · rw [if_pos hcivil, if_pos (month_bounds ⟨year, a, b, hcivil⟩)]
  · rw [if_neg hcivil]
    split
    · rename_i hmonth
      -- If the exchanged numbers named a day, both would be months, and so would the others.
      have hexchanged : ¬ IsCivil year b a := fun h =>
        hcivil (isCivil_of_le_twelve ⟨h.1, h.2.1⟩ hmonth (month_bounds ⟨year, b, a, h⟩))
      rw [Date.ofCivil?_eq_none_iff.mpr hcivil, Date.ofCivil?_eq_none_iff.mpr hexchanged]
    · rfl

end Notation

open Notation

/-- Three numbers with the year first name a day in this order, or nothing. -/
def DateReader.ReadsYearFirst (dates : DateReader) : Prop :=
  ∀ separator ∈ separators, ∀ year < 10000, ∀ a b as bs, Short a as → Short b bs →
    dates.read (fields separator (Date.padded 4 year) as bs) = .ok (inOrder? year a b)

/-- Three numbers with the year last name a day in this order, or nothing. -/
def DateReader.ReadsMonthFirst (dates : DateReader) : Prop :=
  ∀ separator ∈ separators, ∀ year < 10000, ∀ a b as bs, Short a as → Short b bs →
    dates.read (fields separator as bs (Date.padded 4 year)) = .ok (inOrder? year a b)

namespace Notation

/-! ## Three fields -/

section Fields

variable {separator : Char} {a b c : List Char} {year m n : Nat}

theorem mem_fields {x : Char} :
    x ∈ fields separator a b c ↔ x ∈ a ++ (b ++ c) ∨ x = separator := by
  simp only [fields, List.mem_append, List.mem_cons]
  tauto

theorem notMem_fields {x : Char} (hx : x.isDigit = false) (hne : x ≠ separator)
    (h : ∀ x ∈ a ++ (b ++ c), x.isDigit = true) : x ∉ fields separator a b c := by
  intro hmem
  rcases mem_fields.mp hmem with hmem | heq
  · rw [h x hmem] at hx
    cases hx
  · exact hne heq

theorem isBlank_of_mem_fields (hseparator : separator ∈ separators)
    (h : ∀ x ∈ a ++ (b ++ c), x.isDigit = true) :
    ∀ x ∈ fields separator a b c, isBlank x = false := by
  intro x hx
  rcases mem_fields.mp hx with hx | rfl
  · exact not_isBlank_of_isDigit (h x hx)
  · exact not_isBlank_of_mem_separators _ hseparator

theorem split_fields (hseparator : separator ∈ separators)
    (h : ∀ x ∈ a ++ (b ++ c), x.isDigit = true) :
    split (· == separator) (fields separator a b c) = [a, b, c] := by
  have hfree {cs : List Char} (hcs : ∀ x ∈ cs, x.isDigit = true) :
      ∀ x ∈ cs, (x == separator) = false := by
    intro x hx
    rw [beq_eq_false_iff_ne]
    rintro rfl
    have hdigit := not_isDigit_of_mem_separators _ hseparator
    rw [hcs x hx] at hdigit
    cases hdigit
  have hself : (separator == separator) = true := beq_self_eq_true _
  simp only [List.forall_mem_append] at h
  rw [fields, split_append_cons _ (hfree h.1) hself, split_append_cons _ (hfree h.2.1) hself,
    split_eq_singleton (hfree h.2.2)]

theorem isDigit_of_mem_fields {i j k least most least' most' least'' most'' : Nat}
    (ha : number? least most a = some i) (hb : number? least' most' b = some j)
    (hc : number? least'' most'' c = some k) : ∀ x ∈ a ++ (b ++ c), x.isDigit = true :=
  List.forall_mem_append.mpr ⟨isDigit_of_number? ha,
    List.forall_mem_append.mpr ⟨isDigit_of_number? hb, isDigit_of_number? hc⟩⟩

/-! ## Among the standard notations -/

theorem weekField?_eq_none {cs : List Char} (h : ∀ x ∈ cs, x.isDigit = true) :
    weekField? cs = none := by
  unfold weekField?
  split
  · exact absurd (h 'W' List.mem_cons_self) (by decide)
  · rfl

theorem number?_two_of_short {cs : List Char} (h : number? 1 2 cs = some n) :
    number? 2 2 cs = none ∨ number? 2 2 cs = some n := by
  obtain ⟨hdigits, -, hmost, hn⟩ := number?_eq_some_iff.mp h
  by_cases hlength : 2 ≤ cs.length
  · exact .inr (number?_eq_some_iff.mpr ⟨hdigits, hlength, hmost, hn⟩)
  · exact .inl (number?_eq_none_of_length (.inl (by omega)))

theorem number?_four_of_short {cs : List Char} (h : number? 1 2 cs = some n) :
    number? 4 4 cs = none := by
  have hmost := (number?_eq_some_iff.mp h).2.2.1
  exact number?_eq_none_of_length (.inl (by omega))

/-- The extended notation has the full width of month and day, and does not exchange them. -/
theorem extendedCivil?_yearFirst (hseparator : separator ∈ separators)
    (ha : number? 4 4 a = some year) (hb : number? 1 2 b = some m) (hc : number? 1 2 c = some n)
    (h : ∀ x ∈ a ++ (b ++ c), x.isDigit = true) :
    extendedCivil? (fields separator a b c) = none ∨
      extendedCivil? (fields separator a b c) = Date.ofCivil? year m n := by
  by_cases hhyphen : '-' = separator
  · subst hhyphen
    simp only [extendedCivil?, split_fields hseparator h, ha]
    rcases number?_two_of_short hb with hb | hb
    · exact .inl (by simp [hb])
    · rcases number?_two_of_short hc with hc | hc
      · exact .inl (by simp [hb, hc])
      · exact .inr (by simp [hb, hc])
  · exact .inl (extendedCivil?_eq_none (notMem_fields rfl hhyphen h))

theorem extendedCivil?_yearLast (hseparator : separator ∈ separators)
    (ha : number? 4 4 a = none) (h : ∀ x ∈ a ++ (b ++ c), x.isDigit = true) :
    extendedCivil? (fields separator a b c) = none := by
  by_cases hhyphen : '-' = separator
  · subst hhyphen
    simp only [extendedCivil?, split_fields hseparator h, ha]
    rfl
  · exact extendedCivil?_eq_none (notMem_fields rfl hhyphen h)

/-- Only the extended notation may have three numbers with equal separators between them. -/
theorem standard?_fields (hseparator : separator ∈ separators) (ha : a.length < 8)
    (h : ∀ x ∈ a ++ (b ++ c), x.isDigit = true) :
    standard? (fields separator a b c) = extendedCivil? (fields separator a b c) := by
  have hcompact : compact? (fields separator a b c) = none :=
    compact?_append_cons _ ha (not_isDigit_of_mem_separators _ hseparator)
      (ne_of_mem_separators _ hseparator).1
  have hweek : extendedWeek? (fields separator a b c) = none := by
    by_cases hhyphen : '-' = separator
    · subst hhyphen
      simp only [extendedWeek?, split_fields hseparator h]
      simp only [List.forall_mem_append] at h
      simp [weekField?_eq_none h.2.1]
    · exact extendedWeek?_eq_none (notMem_fields rfl hhyphen h)
  rw [standard?, hcompact, hweek]
  simp

/-- With the year first, three numbers name month and day in the extended notation, or nothing. -/
theorem standard?_yearFirst (hseparator : separator ∈ separators)
    (ha : number? 4 4 a = some year) (hb : number? 1 2 b = some m) (hc : number? 1 2 c = some n) :
    standard? (fields separator a b c) = none ∨
      standard? (fields separator a b c) = Date.ofCivil? year m n := by
  have hdigits := isDigit_of_mem_fields ha hb hc
  have hlength := (number?_eq_some_iff.mp ha).2.2.1
  rw [standard?_fields hseparator (by omega) hdigits]
  exact extendedCivil?_yearFirst hseparator ha hb hc hdigits

/-- With the year last, three numbers are in no standard notation. -/
theorem standard?_yearLast (hseparator : separator ∈ separators) (ha : number? 1 2 a = some m)
    (hb : number? 1 2 b = some n) (hc : number? 4 4 c = some year) :
    standard? (fields separator a b c) = none := by
  have hdigits := isDigit_of_mem_fields ha hb hc
  have hlength := (number?_eq_some_iff.mp ha).2.2.1
  rw [standard?_fields hseparator (by omega) hdigits]
  exact extendedCivil?_yearLast hseparator (number?_four_of_short ha) hdigits

/-! ## In English -/

theorem numbers?_eq_separated? {separator : Char} {cs : List Char} (hmem : separator ∈ separators)
    (h : ∀ other ∈ separators, other ≠ separator → other ∉ cs) :
    numbers? cs = separated? separator cs := by
  have hnone (other : Char) (hother : other ∈ separators) (hne : other ≠ separator) :
      separated? other cs = none := separated?_eq_none (h other hother hne)
  simp only [separators, List.mem_cons, List.not_mem_nil, or_false] at hmem
  rw [numbers?]
  rcases hmem with rfl | rfl | rfl
  · rw [hnone '/' (by decide) (by decide), hnone '.' (by decide) (by decide)]
    simp
  · rw [hnone '-' (by decide) (by decide), hnone '.' (by decide) (by decide)]
    simp
  · rw [hnone '-' (by decide) (by decide), hnone '/' (by decide) (by decide)]
    simp

/-- No other notation of the reader has three numbers with equal separators between them. -/
theorem plainDate?_fields (hseparator : separator ∈ separators)
    (h : ∀ x ∈ a ++ (b ++ c), x.isDigit = true) :
    plainDate? (fields separator a b c) = separated? separator (fields separator a b c) := by
  have hunix : unixTime? (fields separator a b c) = none :=
    unixTime?_eq_none_of_mem (mem_fields.mpr (.inr rfl))
      (not_isDigit_of_mem_separators _ hseparator)
  have hnumbers : numbers? (fields separator a b c) =
      separated? separator (fields separator a b c) :=
    numbers?_eq_separated? hseparator fun other hother hne =>
      notMem_fields (not_isDigit_of_mem_separators _ hother) hne h
  have hnamed : named? (fields separator a b c) = none :=
    named?_eq_none (isBlank_of_mem_fields hseparator h)
  rw [plainDate?, hunix, hnumbers, hnamed]
  simp

theorem colon_notMem_fields (hseparator : separator ∈ separators)
    (h : ∀ x ∈ a ++ (b ++ c), x.isDigit = true) : ':' ∉ fields separator a b c :=
  notMem_fields rfl (ne_of_mem_separators _ hseparator).2.symm h

theorem monthAndDay?_eq (year a b : Nat) : monthAndDay? year a b = inOrder? year a b := by
  rw [monthAndDay?, inOrder?_eq]
  split
  · rename_i hcivil
    rw [Date.ofCivil?, dif_pos hcivil]
    rfl
  · rename_i hcivil
    rw [Date.ofCivil?_eq_none_iff.mpr hcivil]
    rfl

end Fields

end Notation

theorem DateReader.readsYearFirst_english : english.ReadsYearFirst := by
  intro separator hseparator year hyear a b as bs ha hb
  have hfirst : number? 4 4 (Date.padded 4 year) = some year := number?_padded hyear
  have hdigits := isDigit_of_mem_fields hfirst ha.number?_eq hb.number?_eq
  rw [read_english_of_colon_notMem (colon_notMem_fields hseparator hdigits),
    plainDate?_fields hseparator hdigits]
  simp only [separated?, split_fields hseparator hdigits, hfirst,
    number?_four_of_short hb.number?_eq, ha.number?_eq, hb.number?_eq]
  exact congrArg _ (monthAndDay?_eq year a b)

theorem DateReader.readsMonthFirst_english : english.ReadsMonthFirst := by
  intro separator hseparator year hyear a b as bs ha hb
  have hlast : number? 4 4 (Date.padded 4 year) = some year := number?_padded hyear
  have hdigits := isDigit_of_mem_fields ha.number?_eq hb.number?_eq hlast
  rw [read_english_of_colon_notMem (colon_notMem_fields hseparator hdigits),
    plainDate?_fields hseparator hdigits]
  simp only [separated?, split_fields hseparator hdigits, hlast,
    number?_four_of_short ha.number?_eq, ha.number?_eq, hb.number?_eq]
  exact congrArg _ (monthAndDay?_eq year a b)

/-! ## The day that is read -/

section

variable {dates : DateReader} {separator : Char} {s : String} {year m n : Nat}
  {month day : List Char}

/-- With the year first, three numbers are read as month and day if they name a day so, and
otherwise as day and month. -/
theorem Date.read?_yearFirst (hdates : dates.ReadsYearFirst) (hseparator : separator ∈ separators)
    (hyear : year < 10000) (hmonth : Short m month) (hday : Short n day)
    (hs : trimmed s.toList = fields separator (padded 4 year) month day) :
    read? dates s = .ok (inOrder? year m n) := by
  have hne : fields separator (padded 4 year) month day ≠ [] := by simp [fields]
  cases hstandard : standard? (fields separator (padded 4 year) month day) with
  | none =>
    rw [read?_of_reader hs hne hstandard]
    exact hdates separator hseparator year hyear m n month day hmonth hday
  | some d =>
    -- The extended notation does not exchange the numbers, and need not.
    have hcivil : ofCivil? year m n = some d := by
      have hfirst : number? 4 4 (padded 4 year) = some year := number?_padded hyear
      rcases standard?_yearFirst hseparator hfirst hmonth.number?_eq hday.number?_eq with h | h
      · rw [hstandard] at h
        cases h
      · rw [← h, hstandard]
    have hin : IsCivil year m n := Decidable.byContradiction fun h => by
      rw [ofCivil?_eq_none_iff.mpr h] at hcivil
      cases hcivil
    rw [read?_of_standard? hs hstandard, inOrder?_eq, if_pos hin, hcivil]

theorem Date.read?_monthFirst (hdates : dates.ReadsMonthFirst)
    (hseparator : separator ∈ separators) (hyear : year < 10000) (hmonth : Short m month)
    (hday : Short n day) (hs : trimmed s.toList = fields separator month day (padded 4 year)) :
    read? dates s = .ok (inOrder? year m n) := by
  have hne : fields separator month day (padded 4 year) ≠ [] := by simp [fields]
  have hlast : number? 4 4 (Date.padded 4 year) = some year := number?_padded hyear
  rw [read?_of_reader hs hne
    (standard?_yearLast hseparator hmonth.number?_eq hday.number?_eq hlast)]
  exact hdates separator hseparator year hyear m n month day hmonth hday

end

/-- Three numbers with the year first are read as year, month and day of month, a day or none,
unless month and day name a day only when they are exchanged; then they are exchanged. -/
theorem yearFirst_in_order_iff {dates : DateReader} (hdates : dates.ReadsYearFirst)
    {separator : Char} (hseparator : separator ∈ separators) {year m n : Nat}
    (hyear : year < 10000) {month day : List Char} (hmonth : Short m month) (hday : Short n day) :
    (Date.read? dates (String.ofList (fields separator (Date.padded 4 year) month day)) =
        .ok (Date.ofCivil? year m n) ↔ (IsCivil year n m → IsCivil year m n)) ∧
      Date.read? dates (String.ofList (fields separator (Date.padded 4 year) month day)) =
        .ok (if IsCivil year m n then Date.ofCivil? year m n else Date.ofCivil? year n m) := by
  have hfirst : number? 4 4 (Date.padded 4 year) = some year := number?_padded hyear
  have hdigits := isDigit_of_mem_fields hfirst hmonth.number?_eq hday.number?_eq
  have htrim : trimmed (fields separator (Date.padded 4 year) month day) =
      fields separator (Date.padded 4 year) month day :=
    trimmedOf_eq_self (isBlank_of_mem_fields hseparator hdigits)
  have hread := Date.read?_yearFirst hdates hseparator hyear hmonth hday
    (s := String.ofList (fields separator (Date.padded 4 year) month day))
    (by rw [String.toList_ofList, htrim])
  rw [inOrder?_eq] at hread
  refine ⟨?_, hread⟩
  rw [hread, Except.ok.injEq]
  split
  · rename_i hcivil
    exact iff_of_true rfl fun _ => hcivil
  · rename_i hcivil
    rw [Date.ofCivil?_eq_none_iff.mpr hcivil, Date.ofCivil?_eq_none_iff]
    exact (imp_iff_not hcivil).symm

/-- A leap day, and a day that February does not have. -/
theorem yearFirst_in_order_february :
    DateReader.english.ReadsYearFirst ∧
      Short 2 ['2'] ∧ Short 2 ['0', '2'] ∧ Short 29 ['2', '9'] ∧ Short 30 ['3', '0'] ∧
      Date.read? .english "2020.2.29" = .ok (some ⟨2020, 2, 29, by decide⟩) ∧
      Date.read? .english "2021/02/30" = .ok none := by
  have hdates := DateReader.readsYearFirst_english
  have htwo : Short 2 ['2'] := ⟨by decide, .inl rfl⟩
  have hzeroTwo : Short 2 ['0', '2'] := ⟨by decide, .inr rfl⟩
  have hday : Short 29 ['2', '9'] := ⟨by decide, .inr rfl⟩
  have hday' : Short 30 ['3', '0'] := ⟨by decide, .inr rfl⟩
  have hpoint : '.' ∈ separators := by decide
  have hslash : '/' ∈ separators := by decide
  have hleap : 2020 < 10000 := by decide
  have hcommon : 2021 < 10000 := by decide
  exact ⟨hdates, htwo, hzeroTwo, hday, hday',
    (yearFirst_in_order_iff hdates hpoint hleap htwo hday).1.mpr fun _ => by decide,
    (yearFirst_in_order_iff hdates hslash hcommon hzeroTwo hday').1.mpr
      fun h => absurd h (by decide)⟩

/-- The first day of the thirteenth month is read as the thirteenth day of the first one. -/
theorem not_in_order_thirteenthMonth :
    "2020-13-01".toList = fields '-' (Date.padded 4 2020) (Date.padded 2 13) (Date.padded 2 1) ∧
      Date.ofCivil? 2020 13 1 = none ∧
      Date.read? .english "2020-13-01" = .ok (some ⟨2020, 1, 13, by decide⟩) ∧
      ∀ dates : DateReader, dates.ReadsYearFirst →
        Date.read? dates "2020-13-01" = .ok (some ⟨2020, 1, 13, by decide⟩) := by
  have htrim : trimmed "2020-13-01".toList =
      fields '-' (Date.padded 4 2020) (Date.padded 2 13) (Date.padded 2 1) := by decide
  have hhyphen : '-' ∈ separators := by decide
  have hyear : 2020 < 10000 := by decide
  have hthirteen : Short 13 (Date.padded 2 13) := ⟨by decide, .inr rfl⟩
  have hone : Short 1 (Date.padded 2 1) := ⟨by decide, .inr rfl⟩
  have hread : ∀ dates : DateReader, dates.ReadsYearFirst →
      Date.read? dates "2020-13-01" = .ok (some ⟨2020, 1, 13, by decide⟩) :=
    fun _ hdates => Date.read?_yearFirst hdates hhyphen hyear hthirteen hone htrim
  exact ⟨rfl, by decide, hread _ DateReader.readsYearFirst_english, hread⟩

end LedgerSearch.Calendar
