import Mathlib.Data.List.Infix
import LedgerSearch.Sql.Pattern

/-!
# The texts that match a pattern

A pattern is read into its parts first, and a text fits the parts one after the
other. Characters are compared through a fold, such as the one to lower case, so
a character that only folds to a percent sign never becomes a part that stands
for any characters.

* `parts?_escape_append`: what is escaped stands for itself.
* `matches_holding`: a text matches the pattern of the texts that hold a term
  exactly when the folded term is a part of the folded text.
* `matches_map_iff`: to compare through a fold that keeps the special characters is
  to compare what both sides are folded to.
* `keepsSpecial_toLower`: the fold to lower case is such a fold.
-/

namespace LedgerSearch.Sql.Pattern

/-- What a part of a pattern stands for. -/
inductive Part where
  | anyText
  | anyChar
  | exactly (c : Char)

/-- The parts of a pattern, if no backslash stands at its end. -/
def parts? : List Char → Option (List Part)
  | [] => some []
  | ['\\'] => none
  | '\\' :: c :: cs => (parts? cs).map (.exactly c :: ·)
  | '%' :: cs => (parts? cs).map (.anyText :: ·)
  | '_' :: cs => (parts? cs).map (.anyChar :: ·)
  | c :: cs => (parts? cs).map (.exactly c :: ·)

/-- The text is what the parts stand for, one after the other. -/
def Fits (fold : Char → Char) : List Part → List Char → Prop
  | [], cs => cs = []
  | .anyText :: ps, cs => ∃ skipped rest, cs = skipped ++ rest ∧ Fits fold ps rest
  | .anyChar :: ps, cs => ∃ c rest, cs = c :: rest ∧ Fits fold ps rest
  | .exactly d :: ps, cs => ∃ c rest, cs = c :: rest ∧ fold c = fold d ∧ Fits fold ps rest

/-- The text matches the pattern. -/
def Matches (fold : Char → Char) (pattern text : List Char) : Prop :=
  ∃ ps, parts? pattern = some ps ∧ Fits fold ps text

theorem fits_anyText_cons (fold : Char → Char) (ps : List Part) (cs : List Char) :
    Fits fold (.anyText :: ps) cs ↔ ∃ rest ∈ cs.tails, Fits fold ps rest := by
  simp only [Fits, List.mem_tails]
  constructor
  · rintro ⟨skipped, rest, rfl, h⟩
    exact ⟨rest, ⟨skipped, rfl⟩, h⟩
  · rintro ⟨rest, ⟨skipped, rfl⟩, h⟩
    exact ⟨skipped, rest, rfl, h⟩

instance Fits.decidable (fold : Char → Char) :
    (ps : List Part) → (cs : List Char) → Decidable (Fits fold ps cs)
  | [], cs => inferInstanceAs (Decidable (cs = []))
  | .anyText :: ps, cs =>
    have := Fits.decidable fold ps
    decidable_of_iff _ (fits_anyText_cons fold ps cs).symm
  | .anyChar :: _, [] => .isFalse fun ⟨_, _, h, _⟩ => nomatch h
  | .anyChar :: ps, c :: cs =>
    have := Fits.decidable fold ps cs
    decidable_of_iff (Fits fold ps cs) (by simp [Fits])
  | .exactly _ :: _, [] => .isFalse fun ⟨_, _, h, _⟩ => nomatch h
  | .exactly d :: ps, c :: cs =>
    have := Fits.decidable fold ps cs
    decidable_of_iff (fold c = fold d ∧ Fits fold ps cs) (by simp [Fits])

instance (fold : Char → Char) (pattern text : List Char) : Decidable (Matches fold pattern text) :=
  inferInstanceAs (Decidable (∃ ps ∈ parts? pattern, Fits fold ps text))

theorem parts?_escaped (c : Char) (cs : List Char) :
    parts? ('\\' :: c :: cs) = (parts? cs).map (.exactly c :: ·) := by
  rw [parts?]

theorem parts?_plain {c : Char} (hc : isSpecial c ≠ true) (cs : List Char) :
    parts? (c :: cs) = (parts? cs).map (.exactly c :: ·) := by
  have hne : c ≠ '\\' ∧ c ≠ '%' ∧ c ≠ '_' := by
    refine ⟨?_, ?_, ?_⟩ <;> rintro rfl <;> exact hc rfl
  rw [parts?]
  · intro h _
    exact hne.1 h
  · intro d ds h _
    exact hne.1 h
  · exact hne.2.1
  · exact hne.2.2

theorem parts?_escape_append (cs rest : List Char) :
    parts? (escape cs ++ rest) = (parts? rest).map (cs.map Part.exactly ++ ·) := by
  induction cs with
  | nil => simp
  | cons c cs ih =>
    have hstep : parts? (escape (c :: cs) ++ rest) =
        (parts? (escape cs ++ rest)).map (.exactly c :: ·) := by
      rw [escape_cons, List.append_assoc]
      by_cases hc : isSpecial c = true
      · rw [if_pos hc]
        exact parts?_escaped c _
      · rw [if_neg hc]
        exact parts?_plain hc _
    rw [hstep, ih, Option.map_map]
    rfl

theorem fits_exactly_append (fold : Char → Char) (term : List Char) (ps : List Part)
    (cs : List Char) :
    Fits fold (term.map Part.exactly ++ ps) cs ↔
      ∃ a b, cs = a ++ b ∧ a.map fold = term.map fold ∧ Fits fold ps b := by
  induction term generalizing cs with
  | nil => simp
  | cons d term ih =>
    simp only [List.map_cons, List.cons_append, Fits, ih]
    constructor
    · rintro ⟨c, _, rfl, hc, a, b, rfl, ha, hb⟩
      refine ⟨c :: a, b, rfl, ?_, hb⟩
      rw [List.map_cons, hc, ha]
    · rintro ⟨a, b, rfl, ha, hb⟩
      obtain ⟨c, a', rfl, hc, ha'⟩ := List.map_eq_cons_iff.mp ha
      exact ⟨c, a' ++ b, rfl, hc, a', b, rfl, ha', hb⟩

theorem fits_anyText (fold : Char → Char) (cs : List Char) : Fits fold [.anyText] cs :=
  ⟨cs, [], (List.append_nil cs).symm, rfl⟩

theorem parts?_holding (term : String) :
    parts? (holding term).toList =
      some (.anyText :: (term.toList.map Part.exactly ++ [.anyText])) := by
  rw [holding, String.toList_ofList, List.cons_append, parts?, parts?_escape_append]
  rfl

theorem matches_holding (fold : Char → Char) (term : String) (text : List Char) :
    Matches fold (holding term).toList text ↔ term.toList.map fold <:+: text.map fold := by
  have hfits : Matches fold (holding term).toList text ↔
      ∃ a m b, text = a ++ (m ++ b) ∧ m.map fold = term.toList.map fold := by
    rw [Matches, parts?_holding]
    simp only [Option.some.injEq, exists_eq_left', Fits, fits_exactly_append]
    constructor
    · rintro ⟨a, _, rfl, m, b, rfl, hm, -⟩
      exact ⟨a, m, b, rfl, hm⟩
    · rintro ⟨a, m, b, rfl, hm⟩
      exact ⟨a, m ++ b, rfl, m, b, rfl, hm, fits_anyText fold b⟩
  rw [hfits]
  constructor
  · rintro ⟨a, m, b, rfl, hm⟩
    exact ⟨a.map fold, b.map fold, by rw [← hm]; simp⟩
  · rintro ⟨a', b', h⟩
    obtain ⟨am, b, rfl, ham, -⟩ := List.map_eq_append_iff.mp h.symm
    obtain ⟨a, m, rfl, -, hm⟩ := List.map_eq_append_iff.mp ham
    exact ⟨a, m, b, List.append_assoc a m b, hm⟩

/-! ## Folding both sides -/

/-- What stands for itself is folded. -/
def Part.map (fold : Char → Char) : Part → Part
  | .anyText => .anyText
  | .anyChar => .anyChar
  | .exactly c => .exactly (fold c)

theorem isSpecial_iff {c : Char} : isSpecial c = true ↔ c = '\\' ∨ c = '%' ∨ c = '_' := by
  simp [isSpecial, or_assoc]

/-- A character before which a pattern is read in no special way. -/
theorem not_isSpecial {c : Char} {cs : List Char} (hlast : c = '\\' → cs ≠ [])
    (hescape : ∀ d ds, c = '\\' → cs ≠ d :: ds) (hpercent : c ≠ '%') (hline : c ≠ '_') :
    isSpecial c ≠ true := by
  intro hc
  rcases isSpecial_iff.mp hc with h | h | h
  · cases cs with
    | nil => exact hlast h rfl
    | cons d ds => exact hescape d ds h rfl
  · exact hpercent h
  · exact hline h

/-- The fold leaves the special characters as they are, and makes no other character special. -/
structure KeepsSpecial (fold : Char → Char) : Prop where
  fixes : ∀ c, isSpecial c = true → fold c = c
  reflects : ∀ c, isSpecial (fold c) = true → isSpecial c = true

theorem toLower_of_isSpecial {c : Char} (h : isSpecial c = true ∨ isSpecial c.toLower = true) :
    c.toLower = c := by
  by_cases hc : c.val ≥ 'A'.val ∧ c.val ≤ 'Z'.val
  · exfalso
    have hlower : c.toLower = _ := dif_pos hc
    have hval : c.toLower.val = c.val + 32 := by
      rw [hlower]
      rfl
    simp only [isSpecial_iff, ← Char.val_inj, hval, ← UInt32.toNat_inj, UInt32.toNat_add] at h
    simp only [ge_iff_le, UInt32.le_iff_toNat_le] at hc
    simp only [UInt32.reduceToNat, Char.reduceVal] at h hc
    omega
  · exact dif_neg hc

theorem keepsSpecial_toLower : KeepsSpecial Char.toLower where
  fixes _ h := toLower_of_isSpecial (.inl h)
  reflects _ h := toLower_of_isSpecial (.inr h) ▸ h

theorem parts?_map {fold : Char → Char} (hfold : KeepsSpecial fold) (cs : List Char) :
    parts? (cs.map fold) = (parts? cs).map (·.map (Part.map fold)) := by
  have hbackslash : fold '\\' = '\\' := hfold.fixes _ (by decide)
  have hpercent : fold '%' = '%' := hfold.fixes _ (by decide)
  have hline : fold '_' = '_' := hfold.fixes _ (by decide)
  fun_induction parts? cs with
  | case1 => rfl
  | case2 =>
    rw [List.map_singleton, hbackslash]
    rfl
  | case3 c cs ih =>
    rw [List.map_cons, List.map_cons, hbackslash, parts?_escaped, ih, Option.map_map,
      Option.map_map]
    rfl
  | case4 cs ih =>
    rw [List.map_cons, hpercent, parts?, ih, Option.map_map, Option.map_map]
    rfl
  | case5 cs ih =>
    rw [List.map_cons, hline, parts?, ih, Option.map_map, Option.map_map]
    rfl
  | case6 c cs hlast hescape hnotPercent hnotLine ih =>
    have hc := not_isSpecial hlast hescape hnotPercent hnotLine
    rw [List.map_cons, parts?_plain (mt (hfold.reflects c) hc), ih, Option.map_map,
      Option.map_map]
    rfl

theorem fits_map (fold : Char → Char) (ps : List Part) (cs : List Char) :
    Fits id (ps.map (Part.map fold)) (cs.map fold) ↔ Fits fold ps cs := by
  induction ps generalizing cs with
  | nil => simp [Fits]
  | cons p ps ih =>
    cases p with
    | anyText =>
      simp only [List.map_cons, Part.map, fits_anyText_cons, List.map_tails, List.mem_map,
        exists_exists_and_eq_and, ih]
    | anyChar => cases cs <;> simp [Fits, Part.map, ih]
    | exactly d => cases cs <;> simp [Fits, Part.map, ih]

/-- To compare through a fold is to compare what both sides are folded to. -/
theorem matches_map_iff {fold : Char → Char} (hfold : KeepsSpecial fold)
    (pattern text : List Char) :
    Matches fold pattern text ↔ Matches id (pattern.map fold) (text.map fold) := by
  simp only [Matches, parts?_map hfold, Option.map_eq_some_iff, exists_exists_and_eq_and, fits_map]

end LedgerSearch.Sql.Pattern
