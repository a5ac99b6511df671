import LedgerSearch.Calendar.EnglishReader
import LedgerSearch.Proofs.Calendar.Reading

/-!
# Which notation the English reader reads

The reader tries its notations in order, so a text in one of them is read as meant if
those before it refuse it. Unix time has digits only, numbers have their separator,
names have blanks, and a time of day has a colon, which no other notation has.

* `unixTime?_eq_none_of_mem` and those after it: what rules a notation out.
* `colon_notMem_of_plainDate?`: a date without a time of day has no colon.
* `read_english_of_colon_notMem`, `read_english_of_timestamp?`: dates without and with a
  time of day.
-/

namespace LedgerSearch.Calendar

open Text

namespace Notation

/-! ## Characters that rule a notation out -/

theorem separated?_eq_none {separator : Char} {cs : List Char} (h : separator ∉ cs) :
    separated? separator cs = none := by
  rw [separated?, split_of_notMem h]

theorem unixTime?_eq_none_of_mem {cs : List Char} {c : Char} (hc : c ∈ cs)
    (hdigit : c.isDigit = false) : unixTime? cs = none := by
  simp only [unixTime?, number?_eq_none_of_mem hc hdigit]
  split <;> rfl

theorem words_of_not_isBlank {cs : List Char} (h : ∀ c ∈ cs, isBlank c = false) :
    (words cs).length ≤ 1 := by
  rw [words, split_eq_singleton h]
  exact List.length_filter_le _ _

theorem named?_eq_none {cs : List Char} (h : ∀ c ∈ cs, isBlank c = false) : named? cs = none := by
  have hwords := words_of_not_isBlank h
  rw [named?]
  split
  · rename_i hthree
    rw [hthree] at hwords
    simp at hwords
  · rfl

/-! ## Texts with a colon -/

theorem colon_notMem_of_unixTime? {cs : List Char} {d : Date} (h : unixTime? cs = some d) :
    ':' ∉ cs := by
  unfold unixTime? at h
  split at h
  · obtain ⟨n, hn, -⟩ := Option.bind_eq_some_iff.mp h
    exact colon_notMem_of_number? hn
  · obtain ⟨n, hn, -⟩ := Option.bind_eq_some_iff.mp h
    exact colon_notMem_of_number? hn
  · obtain ⟨n, hn, -⟩ := Option.bind_eq_some_iff.mp h
    exact colon_notMem_of_number? hn
  · cases h

theorem colon_notMem_of_separated? {separator : Char} {cs : List Char} {d : Date}
    (hseparator : (':' == separator) = false) (h : separated? separator cs = some d) :
    ':' ∉ cs := by
  unfold separated? at h
  split at h
  · rename_i a b c hsplit
    split at h
    · rename_i year hyear hnone
      obtain ⟨m, hm, h⟩ := Option.bind_eq_some_iff.mp h
      obtain ⟨d, hd, -⟩ := Option.bind_eq_some_iff.mp h
      apply colon_notMem_of_split hsplit hseparator
      simpa using ⟨colon_notMem_of_number? hyear, colon_notMem_of_number? hm,
        colon_notMem_of_number? hd⟩
    · rename_i year hnone hyear
      obtain ⟨m, hm, h⟩ := Option.bind_eq_some_iff.mp h
      obtain ⟨d, hd, -⟩ := Option.bind_eq_some_iff.mp h
      apply colon_notMem_of_split hsplit hseparator
      simpa using ⟨colon_notMem_of_number? hm, colon_notMem_of_number? hd,
        colon_notMem_of_number? hyear⟩
    · cases h
  · cases h

/-- What is read as a month name has the letters of one. -/
theorem isLower_of_monthName? {cs : List Char} {month : Nat} (h : monthName? cs = some month) :
    cs ≠ [] ∧ ∀ c ∈ cs, c.toLower.isLower = true ∧ c.toLower ≠ 'w' := by
  have hnames : ∀ full ∈ monthNames, ∀ name ∈ [full.toList, full.toList.take 3],
      name ≠ [] ∧ (name.all fun c => c.isLower && c != 'w') = true := by decide
  have hname : ∃ name, cs.map Char.toLower = name ∧ name ≠ [] ∧
      (name.all fun c => c.isLower && c != 'w') = true := by
    simp only [monthName?] at h
    split at h
    · rename_i hsept
      exact ⟨_, hsept, by decide⟩
    · obtain ⟨i, hi, -⟩ := Option.map_eq_some_iff.mp h
      obtain ⟨hlt, hmatch, -⟩ := List.findIdx?_eq_some_iff_getElem.mp hi
      have hfull := hnames _ (List.getElem_mem hlt)
      rw [Bool.or_eq_true, decide_eq_true_eq, decide_eq_true_eq] at hmatch
      rcases hmatch with hmatch | hmatch
      · exact ⟨_, hmatch, hfull _ (by simp)⟩
      · exact ⟨_, hmatch, hfull _ (by simp)⟩
  obtain ⟨name, rfl, hne, hletters⟩ := hname
  refine ⟨fun hnil => hne (by rw [hnil]; rfl), fun c hc => ?_⟩
  have hletter := List.all_eq_true.mp hletters _ (List.mem_map_of_mem hc)
  simpa using hletter

theorem colon_notMem_of_monthName? {cs : List Char} {month : Nat} (h : monthName? cs = some month) :
    ':' ∉ cs :=
  fun hmem => absurd ((isLower_of_monthName? h).2 ':' hmem).1 (by decide)

theorem colon_notMem_of_ordinal? {cs : List Char} {n : Nat} (h : ordinal? cs = some n) :
    ':' ∉ cs := by
  intro hmem
  simp only [ordinal?] at h
  split at h
  · rename_i hsuffix
    rw [← List.takeWhile_append_dropWhile (p := Char.isDigit) (l := cs), List.mem_append] at hmem
    rcases hmem with hdigits | hrest
    · have hdigit : Char.isDigit ':' = true := List.mem_takeWhile_imp hdigits
      exact absurd hdigit (by decide)
    · have hlower : ':' ∈ (cs.dropWhile Char.isDigit).map Char.toLower :=
        List.mem_map.mpr ⟨':', hrest, by decide⟩
      obtain ⟨suffix, hmem, heq⟩ := List.any_eq_true.mp hsuffix
      rw [← of_decide_eq_true heq] at hlower
      have hsuffixes : ∀ suffix ∈ ["", "st", "nd", "rd", "th"], ':' ∉ suffix.toList := by decide
      exact hsuffixes suffix hmem hlower
  · cases h

theorem colon_notMem_of_dropComma {cs : List Char} (h : ':' ∉ dropComma cs) : ':' ∉ cs := by
  intro hmem
  unfold dropComma at h
  split at h
  · rename_i hlast
    apply h (List.mem_dropLast_of_mem_of_ne_getLast? hmem ?_)
    rw [hlast]
    decide
  · exact h hmem

theorem colon_notMem_of_named? {cs : List Char} {d : Date} (h : named? cs = some d) :
    ':' ∉ cs := by
  intro hmem
  unfold named? at h
  split at h
  · rename_i a b c hwords
    have hfields : ':' ∈ a ∨ ':' ∈ b ∨ ':' ∈ c := by
      obtain ⟨field, hfield, hcolon⟩ := exists_mem_split hmem (p := isBlank) (by decide)
      have hword : field ∈ words cs := by
        refine List.mem_filter.mpr ⟨hfield, ?_⟩
        cases field with
        | nil => cases hcolon
        | cons _ _ => rfl
      rw [hwords] at hword
      simp only [List.mem_cons, List.not_mem_nil, or_false] at hword
      rcases hword with rfl | rfl | rfl
      · exact .inl hcolon
      · exact .inr (.inl hcolon)
      · exact .inr (.inr hcolon)
    obtain ⟨year, hyear, h⟩ := Option.bind_eq_some_iff.mp h
    have hc := colon_notMem_of_number? hyear
    split at h
    · rename_i month hmonth
      obtain ⟨day, hday, -⟩ := Option.bind_eq_some_iff.mp h
      rcases hfields with ha | hb | hc'
      · exact colon_notMem_of_monthName? hmonth ha
      · exact colon_notMem_of_dropComma (colon_notMem_of_ordinal? hday) hb
      · exact hc hc'
    · obtain ⟨month, hmonth, h⟩ := Option.bind_eq_some_iff.mp h
      obtain ⟨day, hday, -⟩ := Option.bind_eq_some_iff.mp h
      rcases hfields with ha | hb | hc'
      · exact colon_notMem_of_ordinal? hday ha
      · exact colon_notMem_of_monthName? hmonth hb
      · exact hc hc'
  · cases h

theorem colon_notMem_of_plainDate? {cs : List Char} {d : Date} (h : plainDate? cs = some d) :
    ':' ∉ cs := by
  intro hcolon
  have hunix : unixTime? cs = none :=
    Option.eq_none_iff_forall_ne_some.mpr fun _ hd => colon_notMem_of_unixTime? hd hcolon
  have hseparated : ∀ separator, (':' == separator) = false → separated? separator cs = none :=
    fun _ hne => Option.eq_none_iff_forall_ne_some.mpr fun _ hd =>
      colon_notMem_of_separated? hne hd hcolon
  have hnamed : named? cs = none :=
    Option.eq_none_iff_forall_ne_some.mpr fun _ hd => colon_notMem_of_named? hd hcolon
  rw [plainDate?, hunix, numbers?, hseparated '-' (by decide), hseparated '/' (by decide),
    hseparated '.' (by decide), hnamed] at h
  cases h

/-! ## Times of day -/

theorem colon_mem_of_clock? {cs : List Char} {result : Nat × List Char}
    (h : clock? cs = some result) : ':' ∈ cs := by
  unfold clock? at h
  split at h
  · simp
  · cases h

theorem colon_mem_of_timestamp? {cs : List Char} {number : Int} (h : timestamp? cs = some number) :
    ':' ∈ cs ∧ 10 < cs.length := by
  obtain ⟨date, -, h⟩ := Option.bind_eq_some_iff.mp h
  have hdrop : ∃ separator clock result,
      cs.drop 10 = separator :: clock ∧ clock? clock = some result := by
    simp only at h
    split at h
    · rename_i clock hdrop
      obtain ⟨result, hclock, -⟩ := Option.bind_eq_some_iff.mp h
      exact ⟨_, clock, result, hdrop, hclock⟩
    · rename_i clock hdrop
      obtain ⟨result, hclock, -⟩ := Option.bind_eq_some_iff.mp h
      exact ⟨_, clock, result, hdrop, hclock⟩
    · cases h
  obtain ⟨separator, clock, result, hdrop, hclock⟩ := hdrop
  constructor
  · apply List.mem_of_mem_drop (i := 10)
    rw [hdrop]
    exact List.mem_cons_of_mem _ (colon_mem_of_clock? hclock)
  · have hlength := congrArg List.length hdrop
    rw [List.length_drop, List.length_cons] at hlength
    omega

theorem timestamp?_eq_none {cs : List Char} (h : ':' ∉ cs) : timestamp? cs = none :=
  Option.eq_none_iff_forall_ne_some.mpr fun _ hnumber => h (colon_mem_of_timestamp? hnumber).1

end Notation

open Notation

/-! ## Reading -/

namespace DateReader

variable {cs : List Char}

/-- What has no time of day is read as a day or nothing. -/
theorem read_english_of_colon_notMem (h : ':' ∉ cs) : english.read cs = .ok (plainDate? cs) := by
  cases hplain : plainDate? cs with
  | some d => simp only [english, hplain]
  | none => simp only [english, hplain, timestamp?_eq_none h, Option.map_none, Option.getD_none]

theorem read_english_of_timestamp? {number : Int} (h : timestamp? cs = some number) :
    english.read cs = Date.ofUniversalDay number := by
  have hplain : plainDate? cs = none := Option.eq_none_iff_forall_ne_some.mpr fun _ hd =>
    colon_notMem_of_plainDate? hd (colon_mem_of_timestamp? h).1
  simp only [english, hplain, h, Option.map_some, Option.getD_some]

end DateReader

end LedgerSearch.Calendar
