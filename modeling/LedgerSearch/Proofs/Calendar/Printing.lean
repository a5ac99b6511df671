import LedgerSearch.Calendar.Moment
import LedgerSearch.Proofs.Calendar.DayNumber
import LedgerSearch.Proofs.Decimal.Printing

/-!
# Printed days are read back

A day is printed with so many digits for year, month and day of month that these
have the widths that a day is read by, also where zeros stand in front.

* `split_append_cons`: a field ends before the first separator.
* `number?_padded`: a padded number is read with its width.
* `extendedCivil?_toChars`, `Moment.read?_print`: a printed day is read back.
-/

namespace LedgerSearch

namespace Text

theorem split_eq_singleton {p : Char → Bool} {field : List Char} (h : ∀ c ∈ field, p c = false) :
    split p field = [field] := by
  induction field with
  | nil => rfl
  | cons c cs ih =>
    rw [split, ih fun d hd => h d (List.mem_cons_of_mem _ hd), h c List.mem_cons_self]
    rfl

theorem split_append_cons {p : Char → Bool} {field : List Char} {sep : Char} (rest : List Char)
    (h : ∀ c ∈ field, p c = false) (hsep : p sep = true) :
    split p (field ++ sep :: rest) = field :: split p rest := by
  induction field with
  | nil =>
    rw [List.nil_append, split, if_pos hsep]
  | cons c cs ih =>
    rw [List.cons_append, split, ih fun d hd => h d (List.mem_cons_of_mem _ hd),
      h c List.mem_cons_self]
    rfl

end Text

namespace Calendar

open Text

namespace Date

theorem isDigit_of_mem_padded {width n : Nat} {c : Char} (h : c ∈ padded width n) :
    c.isDigit = true := by
  rcases List.mem_append.mp h with hzero | hdigit
  · rw [List.eq_of_mem_replicate hzero]
    rfl
  · exact isDigit_of_mem_digits hdigit

theorem length_padded {width n : Nat} [NeZero width] (hn : n < 10 ^ width) :
    (padded width n).length = width := by
  have hle : (Nat.toDigits 10 n).length ≤ width :=
    (Nat.length_toDigits_le_iff (by decide) (Nat.pos_of_neZero width)).mpr hn
  rw [padded, List.length_append, List.length_replicate, Nat.sub_add_cancel hle]

theorem asciiNumber_padded (width n : Nat) : Numeral.asciiNumber (padded width n) = n := by
  rw [padded, Numeral.asciiNumber_zeros, Numeral.asciiNumber_toDigits]

/-- No separator stands within a number. -/
theorem ne_hyphen_of_mem_padded {width n : Nat} {c : Char} (h : c ∈ padded width n) :
    (c == '-') = false := by
  rw [beq_eq_false_iff_ne]
  rintro rfl
  exact absurd (isDigit_of_mem_padded h) (by decide)

theorem year_lt (d : Date) : d.year < 10 ^ 4 :=
  Nat.lt_of_le_of_lt d.isCivil.2.1 (by decide)

theorem month_lt (d : Date) : d.month < 10 ^ 2 :=
  Nat.lt_of_le_of_lt (month_bounds d).2 (by decide)

theorem day_lt (d : Date) : d.day < 10 ^ 2 := by
  obtain ⟨-, -, -, hday⟩ := d.isCivil
  obtain ⟨hleast, hmost⟩ := month_bounds d
  have hmonth : daysInMonth d.year d.month ≤ 31 := by
    generalize d.month = month at *
    interval_cases month <;> simp [daysInMonth, monthLengths]
    split <;> decide
  exact Nat.lt_of_le_of_lt (Nat.le_trans hday hmonth) (by decide)

theorem length_toChars (d : Date) : d.toChars.length = 10 := by
  simp only [toChars, List.length_append, List.length_cons, length_padded d.year_lt,
    length_padded d.month_lt, length_padded d.day_lt]

end Date

namespace Notation

theorem number?_padded {width n : Nat} [NeZero width] (hn : n < 10 ^ width) :
    number? width width (Date.padded width n) = some n := by
  have hdigits : (Date.padded width n).all Char.isDigit = true :=
    List.all_eq_true.mpr fun c hc => Date.isDigit_of_mem_padded hc
  rw [number?, hdigits, Date.length_padded hn, Date.asciiNumber_padded]
  simp

theorem split_toChars (d : Date) : split (· == '-') d.toChars =
    [Date.padded 4 d.year, Date.padded 2 d.month, Date.padded 2 d.day] := by
  rw [Date.toChars, List.append_assoc, List.cons_append,
    split_append_cons _ (fun c => Date.ne_hyphen_of_mem_padded) rfl,
    split_append_cons _ (fun c => Date.ne_hyphen_of_mem_padded) rfl,
    split_eq_singleton fun c => Date.ne_hyphen_of_mem_padded]

theorem extendedCivil?_toChars (d : Date) : extendedCivil? d.toChars = some d := by
  simp only [extendedCivil?, split_toChars, number?_padded d.year_lt,
    number?_padded d.month_lt, number?_padded d.day_lt,
    Option.bind_eq_bind, Option.bind_some, Date.ofCivil?_self]

end Notation

/-- A printed day is read back as the beginning of the day. -/
theorem Moment.read?_print (d : Date) : read? d.print = some ⟨d, true⟩ := by
  rw [read?, Date.print, String.toList_ofList,
    ofCalendar?_of_extendedCivil? d.length_toChars (Notation.extendedCivil?_toChars d)]
  rfl

end Calendar

end LedgerSearch
