import LedgerSearch.Calendar.DateReader
import LedgerSearch.Proofs.Calendar.Printing
import LedgerSearch.Proofs.Text.Trimmed

/-!
# What is no standard notation

A text in a standard notation is read as meant, and every other one is left to the
reader of dates. Most texts are ruled out by one character: a compact date has digits
and the letter `W` only, an extended date has a hyphen, and neither has a colon.

* `number?_eq_some_iff`: what is read as a number.
* `compact?_eq_none_of_mem` and those after it: what rules a standard notation out.
* `read?_of_standard?`, `read?_of_reader`: who reads a text.
* `read?_eq_error_iff`: only the reader refuses a text.
-/

namespace LedgerSearch.Calendar

open Text

namespace Notation

/-! ## Numbers -/

theorem not_isBlank_of_isDigit {c : Char} (h : c.isDigit = true) : isBlank c = false :=
  Numeral.IsPlainChar.isBlank_eq_false (.inl h)

theorem number?_eq_some_iff {least most n : Nat} {cs : List Char} :
    number? least most cs = some n ↔ (∀ c ∈ cs, c.isDigit = true) ∧ least ≤ cs.length ∧
      cs.length ≤ most ∧ Numeral.asciiNumber cs = n := by
  rw [number?]
  split
  · rename_i h
    simp only [Bool.and_eq_true, List.all_eq_true, decide_eq_true_eq] at h
    rw [Option.some_inj]
    exact ⟨fun hn => ⟨h.1.1, h.1.2, h.2, hn⟩, fun hn => hn.2.2.2⟩
  · rename_i h
    simp only [Bool.and_eq_true, List.all_eq_true, decide_eq_true_eq] at h
    constructor
    · intro hn
      cases hn
    · rintro ⟨hdigits, hleast, hmost, -⟩
      exact absurd ⟨⟨hdigits, hleast⟩, hmost⟩ h

theorem isDigit_of_number? {least most n : Nat} {cs : List Char}
    (h : number? least most cs = some n) : ∀ c ∈ cs, c.isDigit = true :=
  (number?_eq_some_iff.mp h).1

theorem ne_nil_of_number? {least most n : Nat} {cs : List Char} (hleast : 0 < least)
    (h : number? least most cs = some n) : cs ≠ [] :=
  List.ne_nil_of_length_pos (Nat.lt_of_lt_of_le hleast (number?_eq_some_iff.mp h).2.1)

theorem number?_eq_none_of_mem {least most : Nat} {cs : List Char} {c : Char} (hc : c ∈ cs)
    (hdigit : c.isDigit = false) : number? least most cs = none := by
  refine Option.eq_none_iff_forall_ne_some.mpr fun n h => ?_
  rw [isDigit_of_number? h c hc] at hdigit
  cases hdigit

theorem number?_eq_none_of_length {least most : Nat} {cs : List Char}
    (h : cs.length < least ∨ most < cs.length) : number? least most cs = none := by
  refine Option.eq_none_iff_forall_ne_some.mpr fun n hn => ?_
  obtain ⟨-, hleast, hmost, -⟩ := number?_eq_some_iff.mp hn
  omega

/-! ## Characters that rule a notation out -/

theorem take_eight (cs : List Char) : cs.take 8 =
    cs.take 4 ++ ((cs.drop 4).take 1 ++ ((cs.drop 5).take 2 ++ (cs.drop 7).take 1)) := by
  rw [show 8 = 4 + (1 + (2 + 1)) from rfl, List.take_add, List.take_add, List.take_add,
    List.drop_drop, List.drop_drop]

theorem compactWeek?_eq (cs : List Char) : compactWeek? cs =
    (number? 4 4 (cs.take 4)).bind fun year =>
      (number? 2 2 ((cs.drop 5).take 2)).bind fun week =>
        (if (cs.drop 7).isEmpty then some 1 else number? 1 1 ((cs.drop 7).take 1)).bind fun day =>
          if (cs.drop 4).head? = some 'W' then Date.ofWeek? year week day else none := by
  unfold compactWeek?
  cases (cs.drop 7).isEmpty <;> rfl

theorem isDigit_or_of_compactWeek? {cs : List Char} {d : Date} (h : compactWeek? cs = some d) :
    ∀ c ∈ cs.take 8, c.isDigit = true ∨ c = 'W' := by
  rw [compactWeek?_eq] at h
  obtain ⟨year, hyear, h⟩ := Option.bind_eq_some_iff.mp h
  obtain ⟨week, hweek, h⟩ := Option.bind_eq_some_iff.mp h
  obtain ⟨day, hday, h⟩ := Option.bind_eq_some_iff.mp h
  rw [take_eight]
  simp only [List.forall_mem_append]
  refine ⟨fun c hc => .inl (isDigit_of_number? hyear c hc), ?_,
    fun c hc => .inl (isDigit_of_number? hweek c hc), ?_⟩
  · split at h
    · rename_i hletter
      intro c hc
      cases hdrop : cs.drop 4 with
      | nil => simp [hdrop] at hc
      | cons letter rest =>
        rw [hdrop] at hletter hc
        cases hletter
        exact .inr (by simpa using hc)
    · cases h
  · intro c hc
    split at hday
    · rename_i hnone
      rw [List.isEmpty_iff.mp hnone] at hc
      cases hc
    · exact .inl (isDigit_of_number? hday c hc)

theorem isDigit_or_of_compactCivil? {cs : List Char} {d : Date} (h : compactCivil? cs = some d) :
    ∀ c ∈ cs.take 8, c.isDigit = true ∨ c = 'W' := by
  obtain ⟨year, hyear, h⟩ := Option.bind_eq_some_iff.mp h
  obtain ⟨month, hmonth, h⟩ := Option.bind_eq_some_iff.mp h
  obtain ⟨day, hday, -⟩ := Option.bind_eq_some_iff.mp h
  have htake : cs.take 8 = cs.take 4 ++ ((cs.drop 4).take 2 ++ (cs.drop 6).take 2) := by
    rw [show 8 = 4 + (2 + 2) from rfl, List.take_add, List.take_add, List.drop_drop]
  rw [htake]
  simp only [List.forall_mem_append]
  exact ⟨fun c hc => .inl (isDigit_of_number? hyear c hc),
    fun c hc => .inl (isDigit_of_number? hmonth c hc),
    fun c hc => .inl (isDigit_of_number? hday c hc)⟩

/-- The first eight characters of a compact date are digits or the letter of the week. -/
theorem compact?_eq_none_of_mem {cs : List Char} {c : Char} (hc : c ∈ cs.take 8)
    (hdigit : c.isDigit = false) (hletter : c ≠ 'W') : compact? cs = none := by
  have hweek : ∀ text : List Char, c ∈ text.take 8 → compactWeek? text = none := by
    refine fun text hmem => Option.eq_none_iff_forall_ne_some.mpr fun d h => ?_
    rcases isDigit_or_of_compactWeek? h c hmem with h | h
    · rw [hdigit] at h
      cases h
    · exact hletter h
  have hcivil : ∀ text : List Char, c ∈ text.take 8 → compactCivil? text = none := by
    refine fun text hmem => Option.eq_none_iff_forall_ne_some.mpr fun d h => ?_
    rcases isDigit_or_of_compactCivil? h c hmem with h | h
    · rw [hdigit] at h
      cases h
    · exact hletter h
  have hshort : c ∈ (cs.take 8).take 8 := by rwa [List.take_take]
  unfold compact?
  split
  · exact hweek cs hc
  · rw [hweek cs hc, hcivil cs hc]
    rfl
  · rw [hweek _ hshort, hcivil _ hshort]
    rfl
  · rfl

/-- A compact date has no other character among its first eight. -/
theorem compact?_append_cons {field : List Char} {c : Char} (rest : List Char)
    (hfield : field.length < 8) (hdigit : c.isDigit = false) (hletter : c ≠ 'W') :
    compact? (field ++ c :: rest) = none := by
  obtain ⟨k, hk⟩ : ∃ k, 8 - field.length = k + 1 := ⟨7 - field.length, by omega⟩
  refine compact?_eq_none_of_mem ?_ hdigit hletter
  rw [List.take_append, hk, List.take_succ_cons]
  exact List.mem_append_right _ List.mem_cons_self

theorem split_of_notMem {separator : Char} {cs : List Char} (h : separator ∉ cs) :
    split (· == separator) cs = [cs] :=
  split_eq_singleton fun _ hc => beq_eq_false_iff_ne.mpr fun heq => h (heq ▸ hc)

theorem extendedCivil?_eq_none {cs : List Char} (h : '-' ∉ cs) : extendedCivil? cs = none := by
  rw [extendedCivil?, split_of_notMem h]

theorem extendedWeek?_eq_none {cs : List Char} (h : '-' ∉ cs) : extendedWeek? cs = none := by
  rw [extendedWeek?, split_of_notMem h]

/-! ## Texts with a colon -/

theorem exists_mem_split {p : Char → Bool} {cs : List Char} {c : Char} (hc : c ∈ cs)
    (hp : p c = false) : ∃ field ∈ split p cs, c ∈ field := by
  induction cs with
  | nil => cases hc
  | cons d cs ih =>
    rw [split]
    by_cases hd : p d = true
    · rw [if_pos hd]
      have hne : c ≠ d := by
        rintro rfl
        rw [hp] at hd
        cases hd
      obtain ⟨field, hfield, hmem⟩ := ih ((List.mem_cons.mp hc).resolve_left hne)
      exact ⟨field, List.mem_cons_of_mem _ hfield, hmem⟩
    · rw [if_neg hd]
      cases hsplit : split p cs with
      | nil => exact absurd hsplit (split_ne_nil p cs)
      | cons first fields =>
        rw [hsplit] at ih
        rcases List.mem_cons.mp hc with rfl | hcs
        · exact ⟨_, List.mem_cons_self, List.mem_cons_self⟩
        · obtain ⟨field, hfield, hmem⟩ := ih hcs
          rcases List.mem_cons.mp hfield with rfl | hrest
          · exact ⟨_, List.mem_cons_self, List.mem_cons_of_mem _ hmem⟩
          · exact ⟨field, List.mem_cons_of_mem _ hrest, hmem⟩

theorem colon_notMem_of_split {p : Char → Bool} {cs : List Char} {fields : List (List Char)}
    (hsplit : split p cs = fields) (hp : p ':' = false) (h : ∀ field ∈ fields, ':' ∉ field) :
    ':' ∉ cs := by
  intro hmem
  obtain ⟨field, hfield, hcolon⟩ := exists_mem_split hmem hp
  rw [hsplit] at hfield
  exact h field hfield hcolon

theorem colon_notMem_of_number? {least most n : Nat} {cs : List Char}
    (h : number? least most cs = some n) : ':' ∉ cs := by
  intro hmem
  rw [number?] at h
  split at h
  · rename_i hdigits
    simp only [Bool.and_eq_true, List.all_eq_true] at hdigits
    exact absurd (hdigits.1.1 ':' hmem) (by decide)
  · cases h

theorem colon_notMem_of_weekField? {cs : List Char} {n : Nat} (h : weekField? cs = some n) :
    ':' ∉ cs := by
  unfold weekField? at h
  split at h
  · rw [List.mem_cons]
    rintro (hw | hmem)
    · exact absurd hw (by decide)
    · exact colon_notMem_of_number? h hmem
  · cases h

theorem colon_notMem_of_extendedCivil? {cs : List Char} {d : Date}
    (h : extendedCivil? cs = some d) : ':' ∉ cs := by
  unfold extendedCivil? at h
  split at h
  · rename_i year month day hsplit
    obtain ⟨y, hy, h⟩ := Option.bind_eq_some_iff.mp h
    obtain ⟨m, hm, h⟩ := Option.bind_eq_some_iff.mp h
    obtain ⟨d, hd, -⟩ := Option.bind_eq_some_iff.mp h
    apply colon_notMem_of_split hsplit (by decide)
    simpa using ⟨colon_notMem_of_number? hy, colon_notMem_of_number? hm,
      colon_notMem_of_number? hd⟩
  · cases h

theorem colon_notMem_of_extendedWeek? {cs : List Char} {d : Date}
    (h : extendedWeek? cs = some d) : ':' ∉ cs := by
  unfold extendedWeek? at h
  split at h
  · rename_i year week hsplit
    obtain ⟨y, hy, h⟩ := Option.bind_eq_some_iff.mp h
    obtain ⟨w, hw, -⟩ := Option.bind_eq_some_iff.mp h
    apply colon_notMem_of_split hsplit (by decide)
    simpa using ⟨colon_notMem_of_number? hy, colon_notMem_of_weekField? hw⟩
  · rename_i year week day hsplit
    obtain ⟨y, hy, h⟩ := Option.bind_eq_some_iff.mp h
    obtain ⟨w, hw, h⟩ := Option.bind_eq_some_iff.mp h
    obtain ⟨d, hd, -⟩ := Option.bind_eq_some_iff.mp h
    apply colon_notMem_of_split hsplit (by decide)
    simpa using ⟨colon_notMem_of_number? hy, colon_notMem_of_weekField? hw,
      colon_notMem_of_number? hd⟩
  · cases h

theorem length_le_byteCount (cs : List Char) : cs.length ≤ byteCount cs := by
  have hfold : ∀ n, n + cs.length ≤ cs.foldl (fun n c => n + c.utf8Size) n := by
    induction cs with
    | nil => exact Nat.le_refl
    | cons c cs ih =>
      intro n
      have hpos := c.utf8Size_pos
      have hrest := ih (n + c.utf8Size)
      rw [List.foldl_cons, List.length_cons]
      omega
  have hzero := hfold 0
  rwa [Nat.zero_add] at hzero

theorem compact?_eq_none {cs : List Char} (h : 10 < cs.length) : compact? cs = none := by
  have hcount := length_le_byteCount cs
  unfold compact?
  split
  · omega
  · omega
  · omega
  · rfl

/-- A text that is too long for a compact date, and has a colon, is no standard notation. -/
theorem standard?_of_colon_mem {cs : List Char} (hcolon : ':' ∈ cs) (hlength : 10 < cs.length) :
    standard? cs = none := by
  have hcivil : extendedCivil? cs = none :=
    Option.eq_none_iff_forall_ne_some.mpr fun _ hd => colon_notMem_of_extendedCivil? hd hcolon
  have hweek : extendedWeek? cs = none :=
    Option.eq_none_iff_forall_ne_some.mpr fun _ hd => colon_notMem_of_extendedWeek? hd hcolon
  rw [standard?, compact?_eq_none hlength, hcivil, hweek]
  rfl

/-! ## Blanks around a notation -/

theorem isBlank_of_mem_padded {width n : Nat} {c : Char} (h : c ∈ Date.padded width n) :
    isBlank c = false :=
  not_isBlank_of_isDigit (Date.isDigit_of_mem_padded h)

theorem isTrimmed_padded {width n : Nat} [NeZero width] (hn : n < 10 ^ width) :
    IsTrimmed (Date.padded width n) := by
  refine IsTrimmed.of_forall (List.ne_nil_of_length_pos ?_) fun c => isBlank_of_mem_padded
  rw [Date.length_padded hn]
  exact Nat.pos_of_neZero width

theorem isTrimmed_toChars (d : Date) : IsTrimmed d.toChars := by
  have hyear : IsTrimmed (Date.padded 4 d.year) := isTrimmed_padded d.year_lt
  have hday : IsTrimmed (Date.padded 2 d.day) := isTrimmed_padded d.day_lt
  simpa [Date.toChars] using hyear.around ('-' :: (Date.padded 2 d.month ++ ['-'])) hday

end Notation

open Notation

/-! ## Reading -/

namespace Date

variable {dates : DateReader} {s : String} {cs : List Char}

theorem read?_of_standard? {d : Date} (hs : trimmed s.toList = cs) (h : standard? cs = some d) :
    read? dates s = .ok (some d) := by
  cases cs with
  | nil => cases h
  | cons c cs => simp only [read?, hs, h]

theorem read?_of_reader (hs : trimmed s.toList = cs) (hne : cs ≠ []) (h : standard? cs = none) :
    read? dates s = dates.read cs := by
  obtain ⟨c, rest, rfl⟩ := List.exists_cons_of_ne_nil hne
  simp only [read?, hs, h]

/-- A value cannot be read exactly when it is left to the reader, and the reader refuses it. -/
theorem read?_eq_error_iff {e : DateError} :
    read? dates s = .error e ↔ trimmed s.toList ≠ [] ∧ standard? (trimmed s.toList) = none ∧
      dates.read (trimmed s.toList) = .error e := by
  by_cases hne : trimmed s.toList = []
  · simp [read?, hne]
  · cases hstandard : standard? (trimmed s.toList) with
    | none => simp [read?_of_reader rfl hne hstandard, hne]
    | some d => simp [read?_of_standard? rfl hstandard]

end Date

end LedgerSearch.Calendar
