import Mathlib.Algebra.Order.Field.Rat
import Mathlib.Tactic.FieldSimp
import Mathlib.Tactic.Ring
import LedgerSearch.Proofs.Decimal.Digits

/-!
# Spellings of a number

A number is figures before and after a point and an exponent. It has many
spellings: a sign or none, an exponent or none, digits of any script, low lines
anywhere and blanks around. All spellings of a number are read as the same
amount, which has its figures, zeros in front left out, and exactly its value,
however many figures there are.

* `SpellsDigits.map_asciiChar`: digits of all scripts become ASCII digits.
* `unsignedDecimal?_of_spells`: what is read after the sign.
* `Figures.read?_of_spelledBy`: what a spelling is read as, and when it is refused.
* `Figures.value_decimal`: the value is that of the figures.
-/

namespace LedgerSearch

open Text

/-! ## Digits of every script -/

namespace Text

theorem isBlank_of_digitValue? {c : Char} {d : Nat} (h : digitValue? c = some d) :
    isBlank c = false := by
  -- No run of digits meets one of the runs of blanks.
  have hruns : ∀ z ∈ scriptZeros, (0xA1 ≤ z ∧ z + 10 ≤ 0x1680) ∨
      (0x1681 ≤ z ∧ z + 10 ≤ 0x2000) ∨ 0x3001 ≤ z := by decide
  unfold digitValue? at h
  dsimp only at h
  split at h
  · split at h
    · rename_i hdigit
      exact Numeral.IsPlainChar.isBlank_eq_false (.inl hdigit)
    · cases h
  · obtain ⟨z, hz, rfl⟩ := Option.map_eq_some_iff.mp h
    have hrun := List.find?_some hz
    have hmem := hruns z (List.mem_of_find?_eq_some hz)
    simp only [Bool.and_eq_true, decide_eq_true_eq] at hrun
    simp only [isBlank, Bool.or_eq_false_iff, Bool.and_eq_false_iff, decide_eq_false_iff_not,
      beq_eq_false_iff_ne]
    omega

/-- The ASCII digit of the same value, for a digit of any script. -/
def asciiChar (c : Char) : Char :=
  match digitValue? c with
  | some d => Char.ofNat (0x30 + d)
  | none => c

theorem asciiChar_eq_digitChar {c : Char} {d : Nat} (h : digitValue? c = some d) :
    asciiChar c = d.digitChar := by
  have hcode : d.digitChar.toNat = 0x30 + d := Nat.toNat_digitChar_of_lt_ten (digitValue?_lt h)
  rw [asciiChar, h, ← Char.ofNat_toNat d.digitChar, hcode]

/-- The characters are decimal digits, of any scripts, of the given values. -/
def SpellsDigits (ds : List Nat) (cs : List Char) : Prop :=
  cs.map digitValue? = ds.map some

namespace SpellsDigits

variable {ds : List Nat} {cs : List Char}

theorem exists_value (h : SpellsDigits ds cs) : ∀ c ∈ cs, ∃ d ∈ ds, digitValue? c = some d := by
  intro c hc
  have hmem : digitValue? c ∈ ds.map some := h ▸ List.mem_map_of_mem hc
  obtain ⟨d, hd, hvalue⟩ := List.mem_map.mp hmem
  exact ⟨d, hd, hvalue.symm⟩

theorem isBlank_eq_false (h : SpellsDigits ds cs) : ∀ c ∈ cs, isBlank c = false := by
  intro c hc
  obtain ⟨d, -, hvalue⟩ := h.exists_value c hc
  exact isBlank_of_digitValue? hvalue

theorem lt_ten (h : SpellsDigits ds cs) : ∀ d ∈ ds, d < 10 := by
  intro d hd
  have hmem : some d ∈ cs.map digitValue? := h ▸ List.mem_map_of_mem hd
  obtain ⟨c, -, hvalue⟩ := List.mem_map.mp hmem
  exact digitValue?_lt hvalue

/-- Digits of all scripts become ASCII digits of the same values. -/
theorem map_asciiChar (h : SpellsDigits ds cs) : cs.map asciiChar = ds.map Nat.digitChar := by
  induction cs generalizing ds with
  | nil =>
    obtain rfl := List.map_eq_nil_iff.mp h.symm
    rfl
  | cons c cs ih =>
    cases ds with
    | nil => cases h
    | cons d ds =>
      obtain ⟨hc, hcs⟩ := List.cons.inj h
      rw [List.map_cons, List.map_cons, asciiChar_eq_digitChar hc, ih hcs]

end SpellsDigits

/-- How a sign is written, if it is; `true` stands for the minus. -/
inductive SpellsSign : Bool → List Char → Prop
  | absent : SpellsSign false []
  | plus : SpellsSign false ['+']
  | minus : SpellsSign true ['-']

namespace SpellsSign

variable {negative : Bool} {sign : List Char}

theorem isBlank_eq_false (h : SpellsSign negative sign) : ∀ c ∈ sign, isBlank c = false := by
  cases h with
  | absent => exact List.forall_mem_nil _
  | plus => exact List.forall_mem_singleton.mpr rfl
  | minus => exact List.forall_mem_singleton.mpr rfl

theorem map_asciiChar (h : SpellsSign negative sign) : sign.map asciiChar = sign := by
  cases h <;> rfl

theorem splitSign_append (h : SpellsSign negative sign) {c : Char} (cs : List Char)
    (hc : c.isDigit = true ∨ c = '.') : splitSign (sign ++ c :: cs) = (negative, c :: cs) := by
  cases h with
  | absent => exact splitSign_eq_self fun _ hhead => Option.some.inj hhead ▸ hc
  | plus => rfl
  | minus => rfl

end SpellsSign

end Text

namespace Numeral

theorem plainText_eq (cs : List Char) : plainText cs = (cs.filter (· ≠ '_')).map asciiChar :=
  rfl

theorem asciiNumber_map_digitChar {ds : List Nat} (h : ∀ d ∈ ds, d < 10) :
    asciiNumber (ds.map Nat.digitChar) = numberOfDigits ds := by
  rw [asciiNumber, List.map_map]
  refine congrArg numberOfDigits ((List.map_congr_left fun d hd => ?_).trans (List.map_id ds))
  exact Nat.toNat_digitChar_sub_48_of_lt_ten (h d hd)

theorem isDigit_of_mem_digitChars {ds : List Nat} (h : ∀ d ∈ ds, d < 10) :
    ∀ c ∈ ds.map Nat.digitChar, c.isDigit = true :=
  List.forall_mem_map.mpr fun d hd => isDigit_digitChar (h d hd)

/-! ## Spellings -/

/-- How the figures after the point are written: the point goes with them. -/
inductive SpellsFraction : List Nat → List Char → Prop
  | absent : SpellsFraction [] []
  | point {ds : List Nat} {cs : List Char} (hne : ds ≠ []) (hcs : SpellsDigits ds cs) :
    SpellsFraction ds ('.' :: cs)

/-- How an exponent is written; the exponent zero need not be. -/
inductive SpellsExponent : Int → List Char → Prop
  | absent : SpellsExponent 0 []
  | letter {letter : Char} {negative : Bool} {sign cs : List Char} {ds : List Nat}
    (hletter : letter = 'e' ∨ letter = 'E') (hsign : SpellsSign negative sign) (hne : ds ≠ [])
    (hcs : SpellsDigits ds cs) :
    SpellsExponent (signed negative (numberOfDigits ds)) (letter :: (sign ++ cs))

theorem SpellsFraction.isBlank_eq_false {ds : List Nat} {cs : List Char}
    (h : SpellsFraction ds cs) : ∀ c ∈ cs, isBlank c = false := by
  cases h with
  | absent => exact List.forall_mem_nil _
  | point _ hcs => exact List.forall_mem_cons.mpr ⟨rfl, hcs.isBlank_eq_false⟩

namespace SpellsExponent

variable {x : Int} {cs : List Char}

theorem isBlank_eq_false (h : SpellsExponent x cs) : ∀ c ∈ cs, isBlank c = false := by
  cases h with
  | absent => exact List.forall_mem_nil _
  | letter hletter hsign _ hcs =>
    refine List.forall_mem_cons.mpr ⟨?_, ?_⟩
    · rcases hletter with rfl | rfl <;> rfl
    · exact List.forall_mem_append.mpr ⟨hsign.isBlank_eq_false, hcs.isBlank_eq_false⟩

/-- What an exponent begins with does not belong to the digits before it. -/
theorem not_isDigit_head (h : SpellsExponent x cs) :
    ∀ c ∈ (cs.map asciiChar).head?, c.isDigit = false ∧ c ≠ '.' := by
  cases h with
  | absent => exact fun c hc => nomatch hc
  | letter hletter =>
    rintro c ⟨⟩
    rcases hletter with rfl | rfl <;> decide

theorem exponent?_eq (h : SpellsExponent x cs) : exponent? (cs.map asciiChar) = some x := by
  cases h with
  | absent => rfl
  | @letter letter negative sign cs ds hletter hsign hne hcs =>
    have hdigits := isDigit_of_mem_digitChars hcs.lt_ten
    have hnumber := asciiNumber_map_digitChar hcs.lt_ten
    have hletter' : (asciiChar letter = 'e' || asciiChar letter = 'E') = true := by
      rcases hletter with rfl | rfl <;> rfl
    obtain ⟨d, ds, rfl⟩ := List.exists_cons_of_ne_nil hne
    have hsplit := hsign.splitSign_append (ds.map Nat.digitChar)
      (.inl (hdigits d.digitChar List.mem_cons_self))
    rw [List.map_cons, List.map_append, hsign.map_asciiChar, hcs.map_asciiChar, exponent?,
      if_pos hletter', List.map_cons, hsplit]
    dsimp only
    rw [← List.map_cons, hnumber, List.all_eq_true.mpr hdigits]
    rfl

end SpellsExponent

/-- A number as it may be written: its figures before and after the point, at least one of them,
and its exponent. -/
structure Figures where
  whole : List Nat
  fraction : List Nat
  exponent : Int
  ne_nil : whole ++ fraction ≠ []
  lt_ten : ∀ d ∈ whole ++ fraction, d < 10

/-- What figures after a point stand for: the first one counts tenths, and those behind it stand for
a tenth of what they would stand for without it. -/
def fractionOfDigits : List Nat → Rat
  | [] => 0
  | d :: ds => (d + fractionOfDigits ds) / 10

namespace Figures

/-- The number that the figures stand for. -/
def magnitude (n : Figures) : Rat :=
  (numberOfDigits n.whole + fractionOfDigits n.fraction) * 10 ^ n.exponent

/-- All figures, zeros in front left out. -/
def significant (n : Figures) : List Nat :=
  withoutLeadingZeros (n.whole ++ n.fraction)

/-- The last figure and the first one that counts lie within the limits of decimals. -/
def WithinLimits (n : Figures) : Prop :=
  -1999999999999999997 ≤ n.exponent - n.fraction.length ∧
    n.exponent - n.fraction.length + n.significant.length - 1 ≤ 999999999999999999

instance (n : Figures) : Decidable n.WithinLimits :=
  inferInstanceAs (Decidable (_ ∧ _))

/-- The characters are a sign, the figures with their point and the exponent; all but one figure
may be absent. -/
inductive Spells (n : Figures) : List Char → Prop
  | intro {negative : Bool} {sign whole fraction exponent : List Char}
    (hsign : SpellsSign negative sign) (hwhole : SpellsDigits n.whole whole)
    (hfraction : SpellsFraction n.fraction fraction)
    (hexponent : SpellsExponent n.exponent exponent) :
    n.Spells (sign ++ (whole ++ (fraction ++ exponent)))

/-- The text is a spelling of the number with low lines put in anywhere, then blanks around it. -/
def SpelledBy (n : Figures) (text : String) : Prop :=
  ∃ before numeral after : List Char, text.toList = before ++ (numeral ++ after) ∧
    (∀ c ∈ before, isBlank c = true) ∧ (∀ c ∈ after, isBlank c = true) ∧
    n.Spells (numeral.filter (· ≠ '_'))

/-- The figures without a point, which the exponent makes up for. -/
def decimal (n : Figures) : Decimal :=
  ⟨false, numberOfDigits (n.whole ++ n.fraction), n.exponent - n.fraction.length⟩

variable {n : Figures}

/-! ## Reading -/

theorem digits_decimal (n : Figures) : n.decimal.digits = n.significant.map Nat.digitChar :=
  toDigits_numberOfDigits n.ne_nil n.lt_ten

theorem inRange_decimal_iff : n.decimal.InRange ↔ n.WithinLimits := by
  have hcount : n.decimal.digitCount = n.significant.length :=
    (congrArg List.length n.digits_decimal).trans (List.length_map _)
  rw [Decimal.InRange, Decimal.adjusted, hcount]
  rfl

theorem Spells.isBlank_eq_false {cs : List Char} (h : n.Spells cs) :
    ∀ c ∈ cs, isBlank c = false := by
  cases h with
  | intro hsign hwhole hfraction hexponent =>
    simp only [List.forall_mem_append]
    exact ⟨hsign.isBlank_eq_false, hwhole.isBlank_eq_false, hfraction.isBlank_eq_false,
      hexponent.isBlank_eq_false⟩

/-- After its sign, a number begins with a digit or a point. -/
theorem exists_head {whole fraction : List Char} (hwhole : SpellsDigits n.whole whole)
    (hfraction : SpellsFraction n.fraction fraction) (exponent : List Char) :
    ∃ c cs, (whole ++ (fraction ++ exponent)).map asciiChar = c :: cs ∧
      (c.isDigit = true ∨ c = '.') := by
  have hdigits := isDigit_of_mem_digitChars hwhole.lt_ten
  rw [List.map_append, hwhole.map_asciiChar]
  cases hfirst : n.whole with
  | cons d ds =>
    rw [hfirst] at hdigits
    exact ⟨d.digitChar, _, rfl, .inl (hdigits _ List.mem_cons_self)⟩
  | nil =>
    have hne : n.fraction ≠ [] := by simpa [hfirst] using n.ne_nil
    generalize n.fraction = ds at hfraction hne
    cases hfraction with
    | absent => exact absurd rfl hne
    | point => exact ⟨'.', _, rfl, .inr rfl⟩

theorem unsignedDecimal?_of_spells (negative : Bool) {whole fraction exponent : List Char}
    (hwhole : SpellsDigits n.whole whole) (hfraction : SpellsFraction n.fraction fraction)
    (hexponent : SpellsExponent n.exponent exponent) :
    unsignedDecimal? negative ((whole ++ (fraction ++ exponent)).map asciiChar) =
      some { n.decimal with negative } := by
  have hhead := hexponent.not_isDigit_head
  have hlt := hwhole.lt_ten
  have hnumber := asciiNumber_map_digitChar n.lt_ten
  have hne := n.ne_nil
  rw [List.map_append, List.map_append, hwhole.map_asciiChar]
  rw [decimal]
  -- The cases of a spelling need its figures as a variable.
  generalize n.fraction = ds at hfraction hnumber hne ⊢
  cases hfraction with
  | absent =>
    rw [List.append_nil] at hnumber hne
    have h := unsignedDecimal?_whole negative _ (mt List.map_eq_nil_iff.mp hne)
      (isDigit_of_mem_digitChars hlt) hhead
    rw [hexponent.exponent?_eq, hnumber] at h
    simpa using h
  | @point ds cs _ hcs =>
    rw [List.map_append] at hnumber
    have h := unsignedDecimal?_point negative _ (by simpa using hne)
      (isDigit_of_mem_digitChars hlt) (isDigit_of_mem_digitChars hcs.lt_ten)
      fun c hc => (hhead c hc).1
    rw [hexponent.exponent?_eq, hnumber, List.length_map] at h
    rw [List.map_cons, hcs.map_asciiChar]
    exact h

/-- What stands before the digits is split off as the sign. -/
theorem Spells.exists_splitSign {cs : List Char} (h : n.Spells cs) :
    ∃ negative c rest, splitSign (cs.map asciiChar) = (negative, c :: rest) ∧
      (c.isDigit = true ∨ c = '.') ∧
      unsignedDecimal? negative (c :: rest) = some { n.decimal with negative } := by
  cases h with
  | @intro negative sign whole fraction exponent hsign hwhole hfraction hexponent =>
    obtain ⟨c, rest, hbody, hc⟩ := exists_head hwhole hfraction exponent
    have hdecimal := unsignedDecimal?_of_spells negative hwhole hfraction hexponent
    rw [hbody] at hdecimal
    refine ⟨negative, c, rest, ?_, hc, hdecimal⟩
    rw [List.map_append, hsign.map_asciiChar, hbody, hsign.splitSign_append rest hc]

/-- A spelling is read as the amount of its figures, within the limits of decimals. -/
theorem read?_of_spelledBy {text : String} (h : n.SpelledBy text) :
    Amount.read? text =
      if n.WithinLimits then some (Amount.ofDecimal n.decimal) else none := by
  obtain ⟨before, numeral, after, htext, hbefore, hafter, hspells⟩ := h
  obtain ⟨negative, c, rest, hsplit, hc, hdecimal⟩ := hspells.exists_splitSign
  have hne : numeral ≠ [] := by
    rintro rfl
    cases hsplit
  have hinner : ∀ c ∈ numeral, isBlank c = false := by
    intro c hc
    by_cases hlow : c = '_'
    · rw [hlow]
      rfl
    · exact hspells.isBlank_eq_false c (List.mem_filter.mpr ⟨hc, decide_eq_true hlow⟩)
  have htrim : trimmed text.toList = numeral := by
    rw [htext]
    exact trimmedOf_run hne hbefore hinner hafter
  have hread : Numeral.read? text =
      if n.decimal.InRange then some (.finite { n.decimal with negative }) else none := by
    rw [Numeral.read?, htrim, plainText_eq, hsplit]
    simp only [named?_eq_none negative rest hc, hdecimal, Option.bind_eq_bind, Option.bind_some]
    rfl
  rw [Amount.read?, hread, if_congr inRange_decimal_iff rfl rfl]
  split_ifs <;> rfl

end Figures

end Numeral

/-! ## Values -/

theorem Decimal.value_of_not_negative {d : Decimal} (h : d.negative = false) :
    d.value = d.coefficient * 10 ^ d.exponent := by
  rw [value, h]
  simp only [Bool.false_eq_true, if_false]
  split
  · rename_i he
    obtain ⟨k, hk⟩ := Int.eq_ofNat_of_zero_le he
    rw [hk]
    simp
  · rename_i he
    obtain ⟨k, hk⟩ := Int.eq_ofNat_of_zero_le (Int.neg_nonneg.mpr (Int.not_le.mp he).le)
    have hexponent : d.exponent = -(k : Int) := by omega
    rw [hexponent, Rat.mkRat_eq_div]
    simp [div_eq_mul_inv]

namespace Numeral

theorem fractionOfDigits_eq (ds : List Nat) :
    fractionOfDigits ds = numberOfDigits ds / 10 ^ ds.length := by
  induction ds with
  | nil => simp [fractionOfDigits]
  | cons d ds ih =>
    rw [fractionOfDigits, ih, numberOfDigits_cons, List.length_cons]
    push_cast
    field_simp
    ring

/-- The value of a decimal is that of the figures it is made of. -/
theorem Figures.value_decimal (n : Figures) : n.decimal.value = n.magnitude := by
  rw [Decimal.value_of_not_negative rfl, magnitude, fractionOfDigits_eq, decimal,
    numberOfDigits_append, zpow_sub₀ (by norm_num), zpow_natCast]
  push_cast
  field_simp

/-- However a number is spelled, its amount has no sign, the figures of the number without the zeros
in front and exactly its value. Only outside the limits of decimals is there none. -/
theorem spellings_read_exactly (n : Figures) {text : String} (h : n.SpelledBy text) :
    ∃ a : Amount, a.toDecimal.negative = false ∧
      a.toDecimal.digits = n.significant.map Nat.digitChar ∧
      a.toDecimal.exponent = n.exponent - n.fraction.length ∧
      a.toDecimal.value = n.magnitude ∧
      (n.WithinLimits → Amount.read? text = some a) ∧
      (¬ n.WithinLimits → Amount.read? text = none) ∧
      ∀ other, n.SpelledBy other → Amount.read? other = Amount.read? text := by
  have hread := Figures.read?_of_spelledBy h
  refine ⟨Amount.ofDecimal n.decimal, rfl, n.digits_decimal, rfl, n.value_decimal, ?_, ?_, ?_⟩
  · intro hlimits
    rw [hread, if_pos hlimits]
  · intro hlimits
    rw [hread, if_neg hlimits]
  · intro other hother
    rw [Figures.read?_of_spelledBy hother, hread]

/-- Seven and a half hundredths, with zeros at both ends. -/
def sevenAndHalf : Figures :=
  ⟨[0, 0, 7], [5, 0], -2, by decide, by decide⟩

theorem spelledBy_sevenAndHalf : sevenAndHalf.SpelledBy "\u3000-_０0٧.५__0e-᠒_ \n" := by
  have hexponent : SpellsExponent (-2) ['e', '-', '᠒'] :=
    @SpellsExponent.letter 'e' true ['-'] ['᠒'] [2] (.inl rfl) .minus (by decide) rfl
  have hspells : sevenAndHalf.Spells
      (['-'] ++ (['０', '0', '٧'] ++ (['.', '५', '0'] ++ ['e', '-', '᠒']))) :=
    .intro .minus rfl (.point (by decide) rfl) hexponent
  exact ⟨['\u3000'], "-_０0٧.५__0e-᠒_".toList, [' ', '\n'], rfl, List.all_eq_true.mp rfl,
    List.all_eq_true.mp rfl, hspells⟩

/-- Ten times the greatest power of ten. -/
def tooGreat : Figures :=
  ⟨[1, 0], [], 999999999999999999, by decide, by decide⟩

theorem spelledBy_tooGreat : tooGreat.SpelledBy "10E+999_999_999_999_999_999" := by
  have hexponent : SpellsExponent 999999999999999999 "E+999999999999999999".toList :=
    @SpellsExponent.letter 'E' false ['+'] (List.replicate 18 '9') (List.replicate 18 9) (.inr rfl)
      .plus (by decide) rfl
  have hspells : tooGreat.Spells ([] ++ (['1', '0'] ++ ([] ++ "E+999999999999999999".toList))) :=
    .intro .absent rfl .absent hexponent
  exact ⟨[], "10E+999_999_999_999_999_999".toList, [], rfl, List.forall_mem_nil _,
    List.forall_mem_nil _, hspells⟩

theorem spellings_read_exactly_scripts :
    (sevenAndHalf.SpelledBy "\u3000-_０0٧.५__0e-᠒_ \n" ∧
      ∃ a : Amount, Amount.read? "\u3000-_０0٧.५__0e-᠒_ \n" = some a ∧
        a.toDecimal.digits = ['7', '5', '0'] ∧ a.toDecimal.exponent = -4 ∧
        a.toDecimal.value = 3 / 40) ∧
    tooGreat.SpelledBy "10E+999_999_999_999_999_999" ∧
      Amount.read? "10E+999_999_999_999_999_999" = none := by
  obtain ⟨a, -, hdigits, hexponent, hvalue, hread, -⟩ :=
    spellings_read_exactly sevenAndHalf spelledBy_sevenAndHalf
  obtain ⟨_, -, -, -, -, -, hrefused, -⟩ := spellings_read_exactly tooGreat spelledBy_tooGreat
  have hmagnitude : sevenAndHalf.magnitude = 3 / 40 := by
    norm_num [Figures.magnitude, sevenAndHalf, numberOfDigits, fractionOfDigits]
  refine ⟨⟨spelledBy_sevenAndHalf, a, hread (by decide), hdigits, hexponent, ?_⟩,
    spelledBy_tooGreat, hrefused (by decide)⟩
  rw [hvalue, hmagnitude]

end Numeral

end LedgerSearch
