import LedgerSearch.Proofs.Calendar.Compact

/-!
# Written week dates

A week date has the letter of the week after the year, and hyphens between its parts or
none. The day of the week may be missing on Mondays. With hyphens it is not a date, since
a number has no letter; without them it has seven or eight characters, as a compact date
has.

* `standard?_compactWeek`: week dates without hyphens.
* `standard?_extendedWeek`: week dates with hyphens.
-/

namespace LedgerSearch.Calendar

open Text

namespace Date

variable (d : Date)

theorem weekYear_lt : d.weekYear < 10 ^ 4 :=
  Nat.lt_of_le_of_lt d.weekYear_bounds.2.1 (by decide)

theorem weekOfYear_lt : d.weekOfYear < 10 ^ 2 := by
  have hweeks : weeksInYear d.weekYear ≤ 53 := by
    rw [weeksInYear]
    split <;> decide
  exact Nat.lt_of_le_of_lt (Nat.le_trans d.weekOfYear_bounds.2 hweeks) (by decide)

theorem dayOfWeek_lt : d.dayOfWeek < 10 ^ 1 :=
  Nat.lt_of_le_of_lt d.dayOfWeek_bounds.2 (by decide)

/-- The parts of a week date have their widths. -/
theorem length_weekDate : (padded 4 d.weekYear).length = 4 ∧ (padded 2 d.weekOfYear).length = 2 ∧
    (padded 1 d.dayOfWeek).length = 1 :=
  ⟨length_padded d.weekYear_lt, length_padded d.weekOfYear_lt, length_padded d.dayOfWeek_lt⟩

end Date

namespace Notation

/-- The day of the week as it may be written: on Mondays it may be missing. -/
inductive WritesDayOfWeek (d : Date) : Option (List Char) → Prop
  | stated : WritesDayOfWeek d (some (Date.padded 1 d.dayOfWeek))
  | monday (h : d.dayOfWeek = 1) : WritesDayOfWeek d none

/-- A week date without hyphens. -/
def compactWeek (d : Date) (day : Option (List Char)) : List Char :=
  Date.padded 4 d.weekYear ++ 'W' :: (Date.padded 2 d.weekOfYear ++ day.getD [])

/-- A week date with hyphens. -/
def extendedWeek (d : Date) (day : Option (List Char)) : List Char :=
  Date.padded 4 d.weekYear ++ '-' :: 'W' :: (Date.padded 2 d.weekOfYear ++
    (day.map ('-' :: ·)).getD [])

variable {d : Date} {day : Option (List Char)}

/-! ## Without hyphens -/

theorem isDigit_or_of_mem_compactWeek (h : WritesDayOfWeek d day) :
    ∀ c ∈ compactWeek d day, c.isDigit = true ∨ c = 'W' := by
  intro c hc
  simp only [compactWeek, List.mem_append, List.mem_cons] at hc
  rcases hc with hyear | rfl | hweek | hday
  · exact .inl (Date.isDigit_of_mem_padded hyear)
  · exact .inr rfl
  · exact .inl (Date.isDigit_of_mem_padded hweek)
  · cases h with
    | stated => exact .inl (Date.isDigit_of_mem_padded hday)
    | monday => cases hday

theorem length_compactWeek (h : WritesDayOfWeek d day) :
    (compactWeek d day).length = 7 ∨ (compactWeek d day).length = 8 := by
  obtain ⟨hyear, hweek, hday⟩ := d.length_weekDate
  cases h with
  | stated => exact .inr (by simp [compactWeek, hyear, hweek, hday])
  | monday => exact .inl (by simp [compactWeek, hyear, hweek])

theorem compactWeek?_compactWeek (h : WritesDayOfWeek d day) :
    compactWeek? (compactWeek d day) = some d := by
  obtain ⟨hyear, hweek, hday⟩ := d.length_weekDate
  have htake : (compactWeek d day).take 4 = Date.padded 4 d.weekYear := List.take_left' hyear
  have hletter : (compactWeek d day).drop 4 =
      'W' :: (Date.padded 2 d.weekOfYear ++ day.getD []) := List.drop_left' hyear
  have hdrop : (compactWeek d day).drop 5 = Date.padded 2 d.weekOfYear ++ day.getD [] := by
    rw [← List.drop_drop (i := 1) (j := 4), hletter]
    rfl
  have hrest : (compactWeek d day).drop 7 = day.getD [] := by
    rw [← List.drop_drop (i := 2) (j := 5), hdrop, List.drop_left' hweek]
  have hdate := d.ofWeek?_weekDate
  rw [compactWeek?_eq, htake, hdrop, hrest, hletter, List.take_left' hweek,
    number?_padded d.weekYear_lt, number?_padded d.weekOfYear_lt]
  cases h with
  | stated =>
    have hne : (Date.padded 1 d.dayOfWeek).isEmpty = false :=
      List.isEmpty_eq_false_iff.mpr (List.ne_nil_of_length_pos (by omega))
    simpa [hne, List.take_of_length_le (Nat.le_of_eq hday),
      number?_padded d.dayOfWeek_lt] using hdate
  | monday hmonday => simpa [hmonday] using hdate

theorem standard?_compactWeek (h : WritesDayOfWeek d day) :
    standard? (compactWeek d day) = some d := by
  have hbytes := byteCount_eq_length (isDigit_or_of_mem_compactWeek h)
  have hcompact : compact? (compactWeek d day) = some d := by
    rw [compact?, hbytes, compactWeek?_compactWeek h]
    rcases length_compactWeek h with hlength | hlength <;> rw [hlength] <;> rfl
  rw [standard?, hcompact]
  rfl

/-! ## With hyphens -/

theorem weekField?_padded {week : Nat} (hweek : week < 10 ^ 2) :
    weekField? ('W' :: Date.padded 2 week) = some week :=
  number?_padded hweek

theorem split_extendedWeek (h : WritesDayOfWeek d day) :
    split (· == '-') (extendedWeek d day) =
      Date.padded 4 d.weekYear :: ('W' :: Date.padded 2 d.weekOfYear) :: day.toList := by
  have hfree (width n : Nat) : ∀ c ∈ Date.padded width n, (c == '-') = false :=
    fun c => Date.ne_hyphen_of_mem_padded
  have hweek : ∀ c ∈ 'W' :: Date.padded 2 d.weekOfYear, (c == '-') = false :=
    List.forall_mem_cons.mpr ⟨rfl, hfree 2 _⟩
  rw [extendedWeek, split_append_cons _ (hfree 4 _) rfl, ← List.cons_append]
  cases h with
  | stated =>
    rw [Option.map_some, Option.getD_some, split_append_cons _ hweek rfl,
      split_eq_singleton (hfree 1 _)]
    rfl
  | monday =>
    rw [Option.map_none, Option.getD_none, List.append_nil, split_eq_singleton hweek]
    rfl

theorem standard?_extendedWeek (h : WritesDayOfWeek d day) :
    standard? (extendedWeek d day) = some d := by
  have hdate := d.ofWeek?_weekDate
  have hsplit := split_extendedWeek h
  have hyear := number?_padded d.weekYear_lt
  have hweek := weekField?_padded d.weekOfYear_lt
  have hshort : (Date.padded 4 d.weekYear).length < 8 := by
    rw [d.length_weekDate.1]
    decide
  have hcompact : compact? (extendedWeek d day) = none :=
    compact?_append_cons _ hshort (by decide) (by decide)
  have hcivil : extendedCivil? (extendedWeek d day) = none := by
    have hletter : number? 2 2 ('W' :: Date.padded 2 d.weekOfYear) = none :=
      number?_eq_none_of_mem List.mem_cons_self rfl
    rw [extendedCivil?, hsplit]
    cases h with
    | stated => simp [hyear, hletter]
    | monday => rfl
  have hextended : extendedWeek? (extendedWeek d day) = some d := by
    rw [extendedWeek?, hsplit]
    cases h with
    | stated =>
      have hday := number?_padded d.dayOfWeek_lt
      simp [hyear, hweek, hday, hdate]
    | monday hmonday =>
      rw [hmonday] at hdate
      simp [hyear, hweek, hdate]
  rw [standard?, hcompact, hcivil, hextended]
  rfl

end Notation

end LedgerSearch.Calendar
