import LedgerSearch.Calendar.Date
import Mathlib.Tactic.IntervalCases

/-!
# Day numbers

The days of the calendar are numbered without a gap, from 1 for the first day of
year 1 to 3652059 for the last day of year 9999.

* `dayNumber_injective`: different days have different numbers.
* `dayNumber_of_next?`: the day after a day has the next number.
* `next?_eq_none_iff`: only the last day has no day after it.
* `dayNumber_of_ofDayNumber?`, `ofDayNumber?_eq_none_iff`, `ofDayNumber?_dayNumber`: the
  numbers that have a day, and the day that they have.
-/

namespace LedgerSearch.Calendar

/-! ## Years -/

theorem daysBeforeYear_succ {year : Nat} (h : 1 ≤ year) :
    daysBeforeYear (year + 1) = daysBeforeYear year + if isLeapYear year then 366 else 365 := by
  obtain ⟨y, rfl⟩ := Nat.exists_eq_add_of_le' h
  have h₄ : (y + 1) / 4 = y / 4 + if (y + 1) % 4 = 0 then 1 else 0 := by split <;> omega
  have h₁₀₀ : (y + 1) / 100 = y / 100 + if (y + 1) % 100 = 0 then 1 else 0 := by split <;> omega
  have h₄₀₀ : (y + 1) / 400 = y / 400 + if (y + 1) % 400 = 0 then 1 else 0 := by split <;> omega
  simp only [daysBeforeYear, isLeapYear, Nat.add_sub_cancel, h₄, h₁₀₀, h₄₀₀, Bool.and_eq_true,
    Bool.or_eq_true, beq_iff_eq, bne_iff_ne, ne_eq]
  by_cases h400 : (y + 1) % 400 = 0
  · have h100 : (y + 1) % 100 = 0 := by omega
    have h4 : (y + 1) % 4 = 0 := by omega
    simp only [h400, h100, h4, if_true, and_self, or_true]
    omega
  by_cases h100 : (y + 1) % 100 = 0
  · have h4 : (y + 1) % 4 = 0 := by omega
    simp only [h400, h100, h4, if_true, if_false, not_true, or_self, and_false]
    omega
  by_cases h4 : (y + 1) % 4 = 0
  · simp only [h400, h100, h4, if_true, if_false, not_false_eq_true, true_or, and_self]
    omega
  · simp only [h400, h100, h4, if_false, false_and]
    omega

theorem daysBeforeYear_mono {a b : Nat} (h : a ≤ b) : daysBeforeYear a ≤ daysBeforeYear b := by
  induction h with
  | refl => exact Nat.le_refl _
  | @step m _ ih =>
    refine Nat.le_trans ih ?_
    rcases Nat.eq_zero_or_pos m with rfl | hm
    · decide
    · rw [daysBeforeYear_succ hm]
      exact Nat.le_add_right _ _

/-- Four centuries have 146097 days, and no year is far from its share of them. -/
theorem daysBeforeYear_bounds (y : Nat) :
    146097 * y ≤ 400 * daysBeforeYear (y + 1) + 699 ∧
      400 * daysBeforeYear (y + 1) ≤ 146097 * y + 396 := by
  simp only [daysBeforeYear, Nat.add_sub_cancel]
  omega

/-- The year that holds a day is found. -/
theorem yearOfDay_bounds (n : Nat) :
    1 ≤ Date.yearOfDay n ∧ daysBeforeYear (Date.yearOfDay n) ≤ n ∧
      n < daysBeforeYear (Date.yearOfDay n + 1) := by
  -- The estimate stays a variable: the three cases only need how far it may be off.
  obtain ⟨k, hk⟩ : ∃ k, n * 400 / 146097 = k := ⟨_, rfl⟩
  have hbefore := daysBeforeYear_bounds (k - 1)
  have hafter := daysBeforeYear_bounds (k + 1 + 1)
  have hfirst : daysBeforeYear 1 = 0 := by decide
  simp only [Date.yearOfDay, hk, Nat.add_sub_cancel]
  split
  · rename_i hlt
    have hpos : k ≠ 0 := by
      rintro rfl
      rw [Nat.zero_add, hfirst] at hlt
      exact Nat.not_lt_zero n hlt
    rw [Nat.sub_add_cancel (Nat.pos_of_ne_zero hpos)] at hbefore
    omega
  · split
    · exact ⟨by omega, by omega, by omega⟩
    · omega

/-! ## Months -/

theorem month_bounds (d : Date) : 1 ≤ d.month ∧ d.month ≤ 12 := by
  obtain ⟨-, -, hday, hle⟩ := d.isCivil
  have hpos := Nat.le_trans hday hle
  unfold daysInMonth at hpos
  split at hpos
  · omega
  · by_contra hmonth
    have hlen : (monthLengths d.year).length ≤ d.month - 1 := by
      simp only [monthLengths, List.length_cons, List.length_nil]
      omega
    rw [List.getElem?_eq_none hlen] at hpos
    simp at hpos

theorem daysBeforeMonth_succ (year : Nat) {month : Nat} (h₁ : 1 ≤ month) (h₂ : month < 12) :
    daysBeforeMonth year (month + 1) = daysBeforeMonth year month + daysInMonth year month := by
  interval_cases month <;> simp [daysBeforeMonth, daysInMonth, monthLengths]

/-- The days up to the end of a month come before every later month. -/
theorem daysBeforeMonth_add_le (year : Nat) {a b : Nat} (ha : 1 ≤ a) (hab : a < b) (hb : b ≤ 12) :
    daysBeforeMonth year a + daysInMonth year a ≤ daysBeforeMonth year b := by
  induction b, hab using Nat.le_induction with
  | base => exact (daysBeforeMonth_succ year ha hb).ge
  | succ b hab ih =>
    rw [daysBeforeMonth_succ year (Nat.le_trans ha (Nat.le_of_lt hab)) hb]
    exact Nat.le_trans (ih (Nat.le_of_lt hb)) (Nat.le_add_right _ _)

theorem daysInMonth_pos (year : Nat) {month : Nat} (h₁ : 1 ≤ month) (h₂ : month ≤ 12) :
    1 ≤ daysInMonth year month := by
  interval_cases month <;> simp [daysInMonth, monthLengths]
  split <;> decide

theorem daysBeforeMonth_december (year : Nat) :
    daysBeforeMonth year 12 + daysInMonth year 12 = if isLeapYear year then 366 else 365 := by
  simp only [daysBeforeMonth, daysInMonth, monthLengths]
  split <;> simp [*]

/-- A month and a day of month are found in the months that are left, as far as these reach. -/
theorem monthOfDay_eq (month : Nat) {n : Nat} {lengths : List Nat} (h : n < lengths.sum) :
    ∃ k day, Date.monthOfDay month n lengths = some (month + k, day) ∧ k < lengths.length ∧
      n + 1 = (lengths.take k).sum + day ∧ 1 ≤ day ∧ day ≤ lengths[k]?.getD 0 := by
  induction lengths generalizing month n with
  | nil => exact absurd h (Nat.not_lt_zero n)
  | cons length lengths ih =>
    rw [Date.monthOfDay]
    split
    · rename_i hlt
      exact ⟨0, n + 1, rfl, by simp, by simp, by omega, hlt⟩
    · rename_i hge
      rw [List.sum_cons] at h
      obtain ⟨k, day, hfound, hk, hn, hday⟩ :=
        ih (month + 1) (Nat.sub_lt_left_of_lt_add (Nat.le_of_not_lt hge) h)
      refine ⟨k + 1, day, ?_, ?_, ?_, hday⟩
      · rw [hfound, Nat.add_right_comm, Nat.add_assoc]
      · simpa using hk
      · rw [List.take_succ_cons, List.sum_cons]
        omega

theorem daysBeforeMonth_eq_sum (year month : Nat) :
    daysBeforeMonth year month = ((monthLengths year).take (month - 1)).sum := by
  rw [daysBeforeMonth, List.sum_eq_foldl]

theorem sum_monthLengths (year : Nat) :
    (monthLengths year).sum = if isLeapYear year then 366 else 365 := by
  unfold monthLengths
  split <;> rfl

/-! ## Days -/

namespace Date

/-- The number of a day lies among those of its year. -/
theorem dayNumber_bounds (d : Date) :
    daysBeforeYear d.year < d.dayNumber ∧ d.dayNumber ≤ daysBeforeYear (d.year + 1) := by
  obtain ⟨hyear, -, hday, hle⟩ := d.isCivil
  obtain ⟨h₁, h₂⟩ := month_bounds d
  have hyearEnd : daysBeforeYear d.year + (daysBeforeMonth d.year 12 + daysInMonth d.year 12) =
      daysBeforeYear (d.year + 1) := by
    rw [daysBeforeYear_succ hyear, daysBeforeMonth_december]
  rw [dayNumber]
  rcases Nat.lt_or_eq_of_le h₂ with hmonth | hmonth
  · have := daysBeforeMonth_add_le d.year h₁ hmonth (Nat.le_refl 12)
    omega
  · rw [hmonth] at hle ⊢
    omega

theorem dayNumber_lt_of_year_lt {a b : Date} (h : a.year < b.year) : a.dayNumber < b.dayNumber :=
  calc a.dayNumber ≤ daysBeforeYear (a.year + 1) := (dayNumber_bounds a).2
    _ ≤ daysBeforeYear b.year := daysBeforeYear_mono h
    _ < b.dayNumber := (dayNumber_bounds b).1

theorem dayNumber_lt_of_month_lt {a b : Date} (hyear : a.year = b.year) (h : a.month < b.month) :
    a.dayNumber < b.dayNumber := by
  have hmonth := daysBeforeMonth_add_le a.year (month_bounds a).1 h (month_bounds b).2
  have hle := a.isCivil.2.2.2
  have hday := b.isCivil.2.2.1
  rw [dayNumber, dayNumber, ← hyear]
  omega

/-- Different days have different numbers. -/
theorem dayNumber_injective {a b : Date} (h : a.dayNumber = b.dayNumber) : a = b := by
  have hyear : a.year = b.year := by
    by_contra hne
    rcases Nat.lt_or_gt_of_ne hne with hlt | hlt
    · exact absurd h (Nat.ne_of_lt (dayNumber_lt_of_year_lt hlt))
    · exact absurd h (Nat.ne_of_gt (dayNumber_lt_of_year_lt hlt))
  have hmonth : a.month = b.month := by
    by_contra hne
    rcases Nat.lt_or_gt_of_ne hne with hlt | hlt
    · exact absurd h (Nat.ne_of_lt (dayNumber_lt_of_month_lt hyear hlt))
    · exact absurd h (Nat.ne_of_gt (dayNumber_lt_of_month_lt hyear.symm hlt))
  rw [dayNumber, dayNumber, hyear, hmonth] at h
  rw [← Option.some_inj, ← ofCivil?_self b]
  exact (ofCivil?_eq_some.mpr ⟨hyear, hmonth, Nat.add_left_cancel h⟩).symm

/-- The day after a day has the next number. -/
theorem dayNumber_of_next? {d n : Date} (h : d.next? = some n) : n.dayNumber = d.dayNumber + 1 := by
  obtain ⟨hyear, -, hday, hle⟩ := d.isCivil
  obtain ⟨h₁, h₂⟩ := month_bounds d
  unfold next? at h
  unfold dayNumber
  split at h
  · obtain ⟨hy, hm, hd⟩ := ofCivil?_eq_some.mp h
    rw [hy, hm, hd]
    rfl
  · rename_i hlast
    split at h
    · rename_i hmonth
      obtain ⟨hy, hm, hd⟩ := ofCivil?_eq_some.mp h
      rw [hy, hm, hd, daysBeforeMonth_succ _ h₁ hmonth]
      omega
    · rename_i hmonth
      obtain ⟨hy, hm, hd⟩ := ofCivil?_eq_some.mp h
      have htwelve : d.month = 12 := by omega
      have := daysBeforeMonth_december d.year
      have hfirst : daysBeforeMonth (d.year + 1) 1 = 0 := rfl
      rw [hy, hm, hd, daysBeforeYear_succ hyear, hfirst]
      rw [htwelve] at hle hlast ⊢
      omega

/-- Only the last day of the calendar has no day after it. -/
theorem next?_eq_none_iff {d : Date} : d.next? = none ↔ d = last := by
  obtain ⟨hyear, hyear', hday, hle⟩ := d.isCivil
  obtain ⟨h₁, h₂⟩ := month_bounds d
  constructor
  · intro h
    unfold next? ofCivil? at h
    split at h
    · rename_i hlt
      rw [dif_pos ⟨hyear, hyear', by omega, hlt⟩] at h
      cases h
    · rename_i hlast
      split at h
      · rename_i hmonth
        rw [dif_pos ⟨hyear, hyear', Nat.le_refl 1, daysInMonth_pos _ (by omega) hmonth⟩] at h
        cases h
      · rename_i hmonth
        have htwelve : d.month = 12 := by omega
        have hnine : d.year = 9999 := by
          by_contra hne
          have hcivil : IsCivil (d.year + 1) 1 1 :=
            ⟨by omega, by omega, Nat.le_refl 1, daysInMonth_pos _ (by decide) (by decide)⟩
          rw [dif_pos hcivil] at h
          cases h
        have hdays : d.day = 31 := by
          rw [hnine, htwelve] at hle hlast
          have : daysInMonth 9999 12 = 31 := by decide
          omega
        obtain ⟨year, month, day, hcivil⟩ := d
        subst hnine htwelve hdays
        rfl
  · rintro rfl
    decide

theorem exists_next_iff (d : Date) : (∃ n, d.next = .ok n) ↔ d ≠ last := by
  rw [ne_eq, ← next?_eq_none_iff, next]
  cases d.next? with
  | none => simp
  | some n => simp

theorem dayNumber_of_next {d n : Date} (h : d.next = .ok n) : n.dayNumber = d.dayNumber + 1 := by
  unfold next at h
  split at h
  · rename_i hnext
    cases h
    exact dayNumber_of_next? hnext
  · cases h

/-! ## Days of numbers -/

theorem ofDayNumber?_natCast (n : Nat) :
    ofDayNumber? (n + 1 : Nat) =
      (monthOfDay 1 (n - daysBeforeYear (yearOfDay n)) (monthLengths (yearOfDay n))).bind
        fun (month, day) => ofCivil? (yearOfDay n) month day := by
  have hn : ((n + 1 : Nat) - 1 : Int).toNat = n := by omega
  unfold ofDayNumber?
  rw [if_neg (by omega)]
  simp only [hn]

/-- A number has a day if its year belongs to the calendar, and the day has the number. -/
theorem exists_ofDayNumber? (n : Nat) :
    ∃ month day, ofDayNumber? (n + 1 : Nat) = ofCivil? (yearOfDay n) month day ∧
      n + 1 = daysBeforeYear (yearOfDay n) + daysBeforeMonth (yearOfDay n) month + day ∧
      1 ≤ day ∧ day ≤ daysInMonth (yearOfDay n) month := by
  obtain ⟨hyear, hle, hlt⟩ := yearOfDay_bounds n
  rw [daysBeforeYear_succ hyear, ← sum_monthLengths] at hlt
  rw [ofDayNumber?_natCast]
  generalize yearOfDay n = year at hyear hle hlt
  obtain ⟨k, day, hfound, hk, hn, hday, hmost⟩ :=
    monthOfDay_eq 1 (Nat.sub_lt_left_of_lt_add hle hlt)
  refine ⟨1 + k, day, by rw [hfound]; rfl, ?_, hday, ?_⟩
  · rw [daysBeforeMonth_eq_sum, Nat.add_sub_cancel_left]
    omega
  · rw [daysInMonth, if_neg (by omega), Nat.add_sub_cancel_left]
    exact hmost

theorem dayNumber_of_ofDayNumber? {number : Int} {d : Date} (h : ofDayNumber? number = some d) :
    (d.dayNumber : Int) = number := by
  have hpos : 1 ≤ number := by
    by_contra hneg
    rw [ofDayNumber?, if_pos (by omega)] at h
    cases h
  obtain ⟨n, rfl⟩ : ∃ n : Nat, number = (n + 1 : Nat) := ⟨(number - 1).toNat, by omega⟩
  obtain ⟨month, day, hcivil, hn, -⟩ := exists_ofDayNumber? n
  rw [hcivil] at h
  obtain ⟨hy, hm, hd⟩ := ofCivil?_eq_some.mp h
  rw [hn, dayNumber, hy, hm, hd]

theorem dayNumber_last : last.dayNumber = 3652059 := by
  decide

/-- The last day is the last one before the year 10000. -/
theorem dayNumber_last_eq : last.dayNumber = daysBeforeYear 10000 := by
  decide

theorem one_le_dayNumber (d : Date) : 1 ≤ d.dayNumber :=
  Nat.le_trans d.isCivil.2.2.1 (Nat.le_add_left _ _)

theorem le_last (d : Date) : d ≤ last :=
  calc d.dayNumber ≤ daysBeforeYear (d.year + 1) := (dayNumber_bounds d).2
    _ ≤ daysBeforeYear 10000 := daysBeforeYear_mono (Nat.succ_le_succ d.isCivil.2.1)
    _ = last.dayNumber := dayNumber_last_eq.symm

/-- A number that has no day lies before the first or after the last day. -/
theorem ofDayNumber?_eq_none_iff {number : Int} :
    ofDayNumber? number = none ↔ number < 1 ∨ (last.dayNumber : Int) < number := by
  have hlast := dayNumber_last_eq
  by_cases hpos : number < 1
  · rw [ofDayNumber?, if_pos hpos]
    simp [hpos]
  obtain ⟨n, rfl⟩ : ∃ n : Nat, number = (n + 1 : Nat) := ⟨(number - 1).toNat, by omega⟩
  obtain ⟨month, day, hcivil, -, hday, hmost⟩ := exists_ofDayNumber? n
  obtain ⟨hyear, hle, hlt⟩ := yearOfDay_bounds n
  rw [hcivil, ofCivil?, hlast]
  constructor
  · intro h
    have hout : ¬ IsCivil (yearOfDay n) month day := fun hc => by simp [dif_pos hc] at h
    have hfar : 10000 ≤ yearOfDay n := by
      by_contra hnear
      exact hout ⟨hyear, by omega, hday, hmost⟩
    have := daysBeforeYear_mono hfar
    omega
  · intro h
    have hfar : ¬ yearOfDay n ≤ 9999 := by
      intro hnear
      have : daysBeforeYear (yearOfDay n + 1) ≤ daysBeforeYear 10000 :=
        daysBeforeYear_mono (by omega)
      omega
    exact dif_neg fun hc => hfar hc.2.1

/-- The number of a day has that day. -/
@[simp] theorem ofDayNumber?_dayNumber (d : Date) : ofDayNumber? d.dayNumber = some d := by
  cases hday : ofDayNumber? d.dayNumber with
  | none =>
    have hfirst := one_le_dayNumber d
    have hlast : d.dayNumber ≤ last.dayNumber := le_last d
    have houtside := ofDayNumber?_eq_none_iff.mp hday
    omega
  | some found =>
    exact congrArg some (dayNumber_injective (Int.ofNat_inj.mp (dayNumber_of_ofDayNumber? hday)))

/-- Every number from the first day's to the last day's is the number of a day. -/
theorem exists_dayNumber_eq {number : Int} (hfirst : 1 ≤ number)
    (hlast : number ≤ last.dayNumber) : ∃ d : Date, (d.dayNumber : Int) = number := by
  cases hday : ofDayNumber? number with
  | none =>
    have houtside := ofDayNumber?_eq_none_iff.mp hday
    omega
  | some d => exact ⟨d, dayNumber_of_ofDayNumber? hday⟩

end Date

end LedgerSearch.Calendar
