import Mathlib.Data.List.Basic
import Mathlib.Data.List.TakeWhile
import LedgerSearch.Decimal.Notation
import LedgerSearch.Proofs.Text.Trimmed

/-!
# Printed decimals are read back

A printed decimal is a run of digits with a point in it or none, and after it an
exponent or none. Reading moves the point to the end of the digits; the digits
and the exponent are those of the decimal again, with all zeros at either end of
the coefficient and with the sign of zero.

* `plainText_eq_self`: nothing in a printed decimal is dropped or replaced.
* `unsignedDecimal?_whole`, `unsignedDecimal?_point`: the digits, with a point among
  them or none, and what follows them.
* `unsignedDecimal?_body`: each way to print a decimal.
* `read?_print`: a printed decimal is read back.
-/

namespace LedgerSearch

open Text

/-! ## Digits -/

/-- A run of characters of a class ends before the first one that is not of it. -/
theorem takeWhile_run {p : Char → Bool} {run rest : List Char} (hrun : ∀ c ∈ run, p c = true)
    (hrest : ∀ c ∈ rest.head?, p c = false) : (run ++ rest).takeWhile p = run := by
  rw [List.takeWhile_append_of_pos hrun]
  cases rest with
  | nil => simp
  | cons c rest => rw [List.takeWhile_cons_of_neg (by simp [hrest c rfl]), List.append_nil]

theorem toNat_of_isDigit {c : Char} (h : c.isDigit = true) : 48 ≤ c.toNat ∧ c.toNat ≤ 57 :=
  Char.isDigit_iff_toNat.mp h

theorem isDigit_of_mem_digits {n : Nat} {c : Char} (h : c ∈ Nat.toDigits 10 n) :
    c.isDigit = true :=
  Nat.isDigit_of_mem_toDigits (by decide) (by decide) h

/-- Neither a digit nor a point is a sign. -/
theorem splitSign_eq_self {cs : List Char} (h : ∀ c ∈ cs.head?, c.isDigit = true ∨ c = '.') :
    splitSign cs = (false, cs) := by
  unfold splitSign
  split
  · exact absurd (h '-' rfl) (by decide)
  · exact absurd (h '+' rfl) (by decide)
  · rfl

namespace Numeral

theorem asciiNumber_eq_ofDigitChars (cs : List Char) :
    asciiNumber cs = Nat.ofDigitChars 10 cs 0 := by
  rw [asciiNumber, numberOfDigits, List.foldl_map]
  rfl

@[simp] theorem asciiNumber_toDigits (n : Nat) : asciiNumber (Nat.toDigits 10 n) = n := by
  rw [asciiNumber_eq_ofDigitChars, Nat.ofDigitChars_ten_toDigits]

/-- Zeros in front do not count. -/
theorem asciiNumber_zeros (n : Nat) (cs : List Char) :
    asciiNumber (List.replicate n '0' ++ cs) = asciiNumber cs := by
  have hzeros : Nat.ofDigitChars 10 (List.replicate n '0') 0 = 0 := by
    induction n with
    | zero => rfl
    | succ n ih =>
      rw [List.replicate_succ, Nat.ofDigitChars_cons]
      exact ih
  rw [asciiNumber_eq_ofDigitChars, asciiNumber_eq_ofDigitChars, Nat.ofDigitChars_append, hzeros]

/-! ## Reading -/

/-- What a printed decimal may hold. -/
def IsPlainChar (c : Char) : Prop :=
  c.isDigit = true ∨ c ∈ ['-', '+', '.', 'E']

theorem IsPlainChar.isBlank_eq_false {c : Char} (h : IsPlainChar c) : isBlank c = false := by
  rcases h with h | h
  · obtain ⟨hlow, hhigh⟩ := toNat_of_isDigit h
    simp only [isBlank, Bool.or_eq_false_iff, Bool.and_eq_false_iff, decide_eq_false_iff_not,
      beq_eq_false_iff_ne]
    omega
  · simp only [List.mem_cons, List.not_mem_nil, or_false] at h
    rcases h with rfl | rfl | rfl | rfl <;> decide

theorem IsPlainChar.ne_lowLine {c : Char} (h : IsPlainChar c) : c ≠ '_' := by
  rintro rfl
  rcases h with h | h <;> exact absurd h (by decide)

theorem digitChar_of_isDigit {c : Char} (h : c.isDigit = true) :
    Char.ofNat (0x30 + (c.toNat - 0x30)) = c := by
  have hle : 0x30 ≤ c.toNat := (toNat_of_isDigit h).1
  rw [Nat.add_sub_cancel' hle, Char.ofNat_toNat]

theorem plainText_eq_self {cs : List Char} (h : ∀ c ∈ cs, IsPlainChar c) : plainText cs = cs := by
  have hfilter : cs.filter (fun c => decide (c ≠ '_')) = cs :=
    List.filter_eq_self.mpr fun c hc => decide_eq_true (h c hc).ne_lowLine
  rw [plainText, hfilter]
  refine (List.map_congr_left fun c hc => ?_).trans (List.map_id cs)
  rcases h c hc with hdigit | hsign
  · simp only [digitValue?_of_isDigit hdigit, digitChar_of_isDigit hdigit, id]
  · simp only [List.mem_cons, List.not_mem_nil, or_false] at hsign
    rcases hsign with rfl | rfl | rfl | rfl <;> rfl

/-- A digit is its own lower case. -/
theorem toLower_of_isDigit {c : Char} (h : c.isDigit = true) : c.toLower = c := by
  obtain ⟨-, hhigh⟩ := toNat_of_isDigit h
  apply dif_neg
  rintro ⟨hupper, -⟩
  have hlow : 65 ≤ c.toNat := UInt32.le_iff_toNat_le.mp hupper
  omega

/-- A name begins with a letter. -/
theorem named?_eq_none (negative : Bool) {c : Char} (cs : List Char)
    (h : c.isDigit = true ∨ c = '.') : named? negative (c :: cs) = none := by
  have hlower : c.toLower = c := by
    rcases h with h | rfl
    · exact toLower_of_isDigit h
    · rfl
  have hne : ∀ d ∈ ['i', 'n', 's'], c ≠ d := by
    rintro d hd rfl
    simp only [List.mem_cons, List.not_mem_nil, or_false] at hd
    rcases hd with rfl | rfl | rfl <;> revert h <;> decide
  rw [named?, List.map_cons, hlower]
  split
  · rename_i e
    exact absurd (List.cons.inj e).1 (hne 'i' (by decide))
  · rename_i e
    exact absurd (List.cons.inj e).1 (hne 'i' (by decide))
  · rename_i e
    exact absurd (List.cons.inj e).1 (hne 'n' (by decide))
  · rename_i e
    exact absurd (List.cons.inj e).1 (hne 's' (by decide))
  · rfl

theorem named?_ne_finite (negative : Bool) (cs : List Char) (d : Decimal) :
    named? negative cs ≠ some (.finite d) := by
  rw [named?]
  split <;> simp

/-- Digits without a point, and what follows them. -/
theorem unsignedDecimal?_whole (negative : Bool) {whole : List Char} (rest : List Char)
    (hne : whole ≠ []) (hwhole : ∀ c ∈ whole, c.isDigit = true)
    (hrest : ∀ c ∈ rest.head?, c.isDigit = false ∧ c ≠ '.') :
    unsignedDecimal? negative (whole ++ rest) =
      (exponent? rest).map fun e => ⟨negative, asciiNumber whole, e⟩ := by
  have hrest' : ∀ c ∈ rest.head?, c.isDigit = false := fun c hc => (hrest c hc).1
  rw [unsignedDecimal?, takeWhile_run hwhole hrest', dropWhile_run hwhole hrest']
  split
  rename_i fraction after hparts
  have hpoint : [] = fraction ∧ rest = after := by
    split at hparts
    · exact absurd rfl (hrest '.' rfl).2
    · exact Prod.mk.inj hparts
  obtain ⟨rfl, rfl⟩ := hpoint
  simp [hne]

/-- Digits around a point, and what follows them. -/
theorem unsignedDecimal?_point (negative : Bool) {whole fraction : List Char} (rest : List Char)
    (hne : whole ++ fraction ≠ []) (hwhole : ∀ c ∈ whole, c.isDigit = true)
    (hfraction : ∀ c ∈ fraction, c.isDigit = true) (hrest : ∀ c ∈ rest.head?, c.isDigit = false) :
    unsignedDecimal? negative (whole ++ '.' :: (fraction ++ rest)) =
      (exponent? rest).map fun e =>
        ⟨negative, asciiNumber (whole ++ fraction), e - fraction.length⟩ := by
  have hpoint : ∀ c ∈ ('.' :: (fraction ++ rest)).head?, c.isDigit = false := by
    rintro c ⟨⟩
    rfl
  rw [unsignedDecimal?, takeWhile_run hwhole hpoint, dropWhile_run hwhole hpoint]
  simp only [takeWhile_run hfraction hrest, dropWhile_run hfraction hrest, List.isEmpty_iff, hne,
    if_false]

/-! ## Printed decimals -/

/-- The exponent of a decimal that is printed with one. -/
theorem exponent?_signed (e : Int) :
    exponent? ('E' :: (if e < 0 then '-' else '+') :: Nat.toDigits 10 e.natAbs) = some e := by
  have hdigits : (Nat.toDigits 10 e.natAbs).all Char.isDigit = true :=
    List.all_eq_true.mpr fun c hc => isDigit_of_mem_digits hc
  have hne : (Nat.toDigits 10 e.natAbs).isEmpty = false :=
    List.isEmpty_eq_false_iff.mpr Nat.toDigits_ne_nil
  by_cases he : e < 0
  · have hvalue : signed true e.natAbs = e := by
      simp only [signed, if_true]
      omega
    simp [exponent?, he, splitSign, hdigits, hne, hvalue]
  · have hvalue : signed false e.natAbs = e := by
      simp only [signed, Bool.false_eq_true, if_false]
      omega
    simp [exponent?, he, splitSign, hdigits, hne, hvalue]

end Numeral

namespace Decimal

/-- The decimal without its sign as it is printed. -/
def body (d : Decimal) : List Char :=
  if d.isPlain then plainNotation d.digits (-d.exponent).toNat
  else scientificNotation d.digits d.adjusted

theorem toChars_eq (d : Decimal) : d.toChars = if d.negative then '-' :: d.body else d.body :=
  rfl

end Decimal

namespace Numeral

/-- Digits are read with the point wherever it stands among them, zeros filled up. -/
theorem unsignedDecimal?_plainNotation (negative : Bool) {ds : List Char} (hne : ds ≠ [])
    (hds : ∀ c ∈ ds, c.isDigit = true) (places : Nat) :
    unsignedDecimal? negative (Decimal.plainNotation ds places) =
      some ⟨negative, asciiNumber ds, -places⟩ := by
  rw [Decimal.plainNotation]
  split
  · rename_i hplaces
    have h := unsignedDecimal?_whole negative [] hne hds (by simp)
    rw [List.append_nil] at h
    rw [h, hplaces]
    rfl
  · split
    · rename_i hplaces hlength
      have hzero : ∀ c ∈ ['0'], c.isDigit = true := List.forall_mem_singleton.mpr rfl
      have hfraction : ∀ c ∈ List.replicate (places - ds.length) '0' ++ ds, c.isDigit = true := by
        intro c hc
        rcases List.mem_append.mp hc with hc | hc
        · rw [List.eq_of_mem_replicate hc]
          rfl
        · exact hds c hc
      have hcount : (List.replicate (places - ds.length) '0' ++ ds).length = places := by
        rw [List.length_append, List.length_replicate]
        omega
      have hnumber : asciiNumber (['0'] ++ (List.replicate (places - ds.length) '0' ++ ds)) =
          asciiNumber ds := asciiNumber_zeros (places - ds.length + 1) ds
      have h := unsignedDecimal?_point negative [] (by simp) hzero hfraction (by simp)
      rw [List.append_nil, hcount, hnumber] at h
      rw [← List.singleton_append, h]
      simp [exponent?]
    · rename_i hplaces hlength
      have htake : ∀ c ∈ ds.take (ds.length - places), c.isDigit = true :=
        fun c hc => hds c (List.mem_of_mem_take hc)
      have hdrop : ∀ c ∈ ds.drop (ds.length - places), c.isDigit = true :=
        fun c hc => hds c (List.mem_of_mem_drop hc)
      have hcount : (ds.drop (ds.length - places)).length = places := by
        rw [List.length_drop]
        omega
      have h := unsignedDecimal?_point negative [] (by simpa using hne) htake hdrop (by simp)
      rw [List.append_nil, hcount, List.take_append_drop] at h
      rw [h]
      simp [exponent?]

/-- Digits are read with the point after the first of them and the exponent that this needs. -/
theorem unsignedDecimal?_scientificNotation (negative : Bool) {ds : List Char} (hne : ds ≠ [])
    (hds : ∀ c ∈ ds, c.isDigit = true) (adjusted : Int) :
    unsignedDecimal? negative (Decimal.scientificNotation ds adjusted) =
      some ⟨negative, asciiNumber ds, adjusted - (ds.length - 1)⟩ := by
  have hexponent := exponent?_signed adjusted
  have hletter : ∀ c ∈ ('E' :: (if adjusted < 0 then '-' else '+') ::
      Nat.toDigits 10 adjusted.natAbs).head?, c.isDigit = false ∧ c ≠ '.' := by
    rintro c ⟨⟩
    decide
  match ds, hne with
  | [first], _ =>
    have h := unsignedDecimal?_whole negative _ (List.cons_ne_nil first []) hds hletter
    rw [hexponent] at h
    exact h.trans (by simp)
  | first :: second :: others, _ =>
    have hfirst : ∀ c ∈ [first], c.isDigit = true :=
      fun c hc => hds c (List.mem_cons.mpr (.inl (List.mem_singleton.mp hc)))
    have hothers : ∀ c ∈ second :: others, c.isDigit = true :=
      fun c hc => hds c (List.mem_cons_of_mem _ hc)
    have h := unsignedDecimal?_point negative _ (by simp) hfirst hothers
      fun c hc => (hletter c hc).1
    rw [hexponent] at h
    exact h.trans (by simp)

end Numeral

namespace Decimal

theorem digits_ne_nil (d : Decimal) : d.digits ≠ [] :=
  Nat.toDigits_ne_nil

theorem isDigit_of_mem {d : Decimal} : ∀ c ∈ d.digits, c.isDigit = true :=
  fun _ => isDigit_of_mem_digits

/-- Whichever way a decimal is printed, it is read back. -/
theorem unsignedDecimal?_body (d : Decimal) :
    Numeral.unsignedDecimal? d.negative d.body = some d := by
  have hnumber : Numeral.asciiNumber d.digits = d.coefficient := Numeral.asciiNumber_toDigits _
  rw [body]
  split
  · rename_i hplain
    have hexponent : -((-d.exponent).toNat : Int) = d.exponent := by
      simp only [isPlain, Bool.and_eq_true, decide_eq_true_eq] at hplain
      omega
    rw [Numeral.unsignedDecimal?_plainNotation _ d.digits_ne_nil isDigit_of_mem, hnumber, hexponent]
  · have hexponent : d.adjusted - (d.digits.length - 1) = d.exponent := by
      rw [adjusted]
      change d.exponent + (d.digits.length : Int) - 1 - _ = _
      omega
    rw [Numeral.unsignedDecimal?_scientificNotation _ d.digits_ne_nil isDigit_of_mem, hnumber,
      hexponent]

theorem isPlainChar_of_mem_plainNotation {ds : List Char} (hds : ∀ c ∈ ds, c.isDigit = true)
    {places : Nat} {c : Char} (h : c ∈ plainNotation ds places) : Numeral.IsPlainChar c := by
  rw [plainNotation] at h
  split at h
  · exact .inl (hds c h)
  · split at h
    · simp only [List.mem_cons, List.mem_append] at h
      rcases h with rfl | rfl | hzero | hmem
      · exact .inl rfl
      · exact .inr (by decide)
      · rw [List.eq_of_mem_replicate hzero]
        exact .inl rfl
      · exact .inl (hds c hmem)
    · rcases List.mem_append.mp h with hmem | hmem
      · exact .inl (hds c (List.mem_of_mem_take hmem))
      · rcases List.mem_cons.mp hmem with rfl | hmem
        · exact .inr (by decide)
        · exact .inl (hds c (List.mem_of_mem_drop hmem))

theorem isPlainChar_of_mem_scientificNotation {ds : List Char}
    (hds : ∀ c ∈ ds, c.isDigit = true) {adjusted : Int} {c : Char}
    (h : c ∈ scientificNotation ds adjusted) : Numeral.IsPlainChar c := by
  unfold scientificNotation at h
  simp only [List.mem_append, List.mem_cons] at h
  rcases h with hmantissa | rfl | rfl | hdigit
  · split at hmantissa
    · rcases List.mem_cons.mp hmantissa with rfl | hmem
      · exact .inl (hds c List.mem_cons_self)
      · rcases List.mem_cons.mp hmem with rfl | hmem
        · exact .inr (by decide)
        · exact .inl (hds c (List.mem_cons_of_mem _ hmem))
    · exact .inl (hds c hmantissa)
  · exact .inr (by decide)
  · split
    · exact .inr (by decide)
    · exact .inr (by decide)
  · exact .inl (isDigit_of_mem_digits hdigit)

theorem isPlainChar_of_mem_toChars {d : Decimal} {c : Char} (h : c ∈ d.toChars) :
    Numeral.IsPlainChar c := by
  have hbody : ∀ c ∈ d.body, Numeral.IsPlainChar c := by
    intro c hc
    rw [body] at hc
    split at hc
    · exact isPlainChar_of_mem_plainNotation isDigit_of_mem hc
    · exact isPlainChar_of_mem_scientificNotation isDigit_of_mem hc
  rw [toChars_eq] at h
  split at h
  · rcases List.mem_cons.mp h with rfl | h
    · exact .inr (by decide)
    · exact hbody c h
  · exact hbody c h

/-- A printed decimal without its sign begins with a digit. -/
theorem exists_body_eq_cons (d : Decimal) : ∃ c cs, d.body = c :: cs ∧ c.isDigit = true := by
  have hdigits := isDigit_of_mem (d := d)
  rw [body]
  obtain ⟨first, others, hcons⟩ := List.exists_cons_of_ne_nil d.digits_ne_nil
  rw [hcons] at hdigits ⊢
  have hfirst := hdigits first List.mem_cons_self
  split
  · rw [plainNotation]
    split
    · exact ⟨first, others, rfl, hfirst⟩
    · split
      · exact ⟨'0', _, rfl, rfl⟩
      · rename_i hlength
        obtain ⟨n, hn⟩ : ∃ n, (first :: others).length - (-d.exponent).toNat = n + 1 :=
          ⟨_, (Nat.succ_pred_eq_of_pos (by omega)).symm⟩
        rw [hn]
        exact ⟨first, _, rfl, hfirst⟩
  · cases others with
    | nil => exact ⟨first, _, rfl, hfirst⟩
    | cons second others => exact ⟨first, _, rfl, hfirst⟩

theorem splitSign_toChars (d : Decimal) : splitSign d.toChars = (d.negative, d.body) := by
  rw [toChars_eq]
  cases d.negative with
  | true => rfl
  | false =>
    obtain ⟨c, cs, hbody, hc⟩ := d.exists_body_eq_cons
    rw [hbody]
    exact splitSign_eq_self fun _ hhead => .inl (Option.some.inj hhead ▸ hc)

end Decimal

/-- A printed decimal is read back as it was, its exponent and the zeros of its coefficient
included. -/
theorem Numeral.read?_print {d : Decimal} (h : d.InRange) : read? d.print = some (.finite d) := by
  obtain ⟨c, cs, hbody, hc⟩ := d.exists_body_eq_cons
  have hplain : ∀ c ∈ d.toChars, IsPlainChar c := fun c => Decimal.isPlainChar_of_mem_toChars
  have hname : named? d.negative d.body = none := by
    rw [hbody]
    exact named?_eq_none d.negative cs (.inl hc)
  rw [read?, Decimal.print, String.toList_ofList, trimmed,
    trimmedOf_eq_self fun c hc => (hplain c hc).isBlank_eq_false, plainText_eq_self hplain,
    Decimal.splitSign_toChars]
  simp only [hname, d.unsignedDecimal?_body, Option.bind_eq_bind, Option.bind_some, if_pos h]

/-- What is read is within the limits of decimals. -/
theorem Numeral.inRange_of_read? {s : String} {d : Decimal} (h : read? s = some (.finite d)) :
    d.InRange := by
  unfold read? at h
  dsimp only at h
  split at h
  · rename_i n hname
    cases h
    exact absurd hname (named?_ne_finite _ _ _)
  · obtain ⟨e, -, h⟩ := Option.bind_eq_some_iff.mp h
    split at h
    · rename_i hrange
      cases h
      exact hrange
    · cases h

/-- An amount is the size of the decimal that is read. -/
theorem Amount.exists_of_read? {s : String} {a : Amount} (h : read? s = some a) :
    ∃ d : Decimal, Numeral.read? s = some (.finite d) ∧ a = ofDecimal d := by
  rw [read?] at h
  split at h
  · rename_i d hd
    exact ⟨d, hd, (Option.some.inj h).symm⟩
  · cases h

theorem Amount.inRange_of_read? {s : String} {a : Amount} (h : read? s = some a) :
    a.toDecimal.InRange := by
  obtain ⟨d, hd, rfl⟩ := exists_of_read? h
  -- A decimal and its size have the same digits and the same exponent.
  have hrange : d.InRange := Numeral.inRange_of_read? hd
  exact hrange

end LedgerSearch
