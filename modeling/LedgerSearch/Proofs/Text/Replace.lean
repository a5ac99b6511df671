/-!
# Replacing a character

The replacement of a character in a text is made by a search, which goes through the
text in steps: a step is an occurrence of the character, or a stretch of text without
one. Each occurrence gives way to the new text and every stretch is kept, so nothing
that was put in is looked at again.

* `toList_foldl_replaceStep`: what the steps from a position on make of the rest.
* `toList_replace`: the characters of a text in which a character is replaced.
-/

namespace LedgerSearch.Text

/-- Puts other characters in the place of every occurrence of a character. -/
def replaced (c : Char) (new cs : List Char) : List Char :=
  cs.flatMap fun d => if d = c then new else [d]

theorem replaced_append (c : Char) (new cs ds : List Char) :
    replaced c new (cs ++ ds) = replaced c new cs ++ replaced c new ds :=
  List.flatMap_append

theorem replaced_of_notMem {c : Char} (new : List Char) {cs : List Char} (h : c ∉ cs) :
    replaced c new cs = cs := by
  induction cs with
  | nil => rfl
  | cons d ds ih =>
    rw [List.mem_cons, not_or] at h
    obtain ⟨hd, hds⟩ := h
    rw [replaced, List.flatMap_cons, if_neg (Ne.symm hd), ← replaced, ih hds, List.singleton_append]

/-! ## Steps of the search -/

section Search

open String String.Slice.Pattern String.Slice.Pattern.Model

variable {s : Slice} {p q : s.Pos} {before after between rest : String} {c : Char}

/-- Two positions cut out what stands between them. -/
theorem exists_between (hlt : p < q) (hp : p.Splits before after) :
    ∃ between rest, after = between ++ rest ∧ q.Splits (before ++ between) rest ∧
      (s.slice! p q).copy = between := by
  obtain ⟨between, -, hleft, hright⟩ := (hp.lt_iff_exists_eq_append q.splits).mp hlt
  have hq : q.Splits (before ++ between) (s.sliceFrom q).copy := hleft ▸ q.splits
  obtain ⟨hle, hcopy⟩ := Slice.copy_slice_eq_iff_splits.mpr ⟨before, _, hright ▸ hp, hq⟩
  refine ⟨between, _, hright, hq, ?_⟩
  rw [← Slice.slice_eq_slice! (h := hle), hcopy]

/-- A character that is found at no position between two of them does not stand there. -/
theorem notMem_between (hp : p.Splits before (between ++ rest))
    (hq : q.Splits (before ++ between) rest)
    (hnone : ∀ position, p ≤ position → position < q → ¬ MatchesAt c position) :
    c ∉ between.toList := by
  intro hc
  obtain ⟨front, back, hsplit⟩ := List.append_of_mem hc
  have hbetween : between = String.ofList front ++ (String.singleton c ++ String.ofList back) := by
    rw [← String.toList_inj, hsplit]
    simp
  have hcopy : s.copy = (before ++ String.ofList front) ++
      (String.singleton c ++ (String.ofList back ++ rest)) := by
    rw [hp.eq_append, hbetween]
    simp only [String.append_assoc]
  have hposition := Slice.Pos.splits_ofEqAppend hcopy
  refine hnone _ ?_ ?_ (Char.matchesAt_iff_splits.mpr ⟨_, _, hposition⟩)
  · refine (hp.le_iff_exists_eq_append hposition).mpr ⟨String.ofList front, rfl, ?_⟩
    rw [hbetween]
    simp only [String.append_assoc]
  · refine (hposition.lt_iff_exists_eq_append hq).mpr
      ⟨String.singleton c ++ String.ofList back, ?_, ?_, ?_⟩
    · simp [← String.toList_inj]
    · rw [hbetween]
      simp only [String.append_assoc]
    · simp only [String.append_assoc]

/-- What a step of the search adds to the text so far. -/
def replaceStep (new sofar : String) : SearchStep s → String
  | .matched _ _ => sofar ++ new.toSlice
  | .rejected p q => sofar ++ s.slice! p q

/-- The steps from a position on replace the character in what stands after it. -/
theorem toList_foldl_replaceStep (new : String) {steps : List (SearchStep s)}
    (h : IsValidSearchFrom c p steps) (hp : p.Splits before after) (sofar : String) :
    (steps.foldl (replaceStep new) sofar).toList =
      sofar.toList ++ replaced c new.toList after.toList := by
  induction h generalizing before after sofar with
  | endPos =>
    obtain ⟨-, rfl⟩ := Slice.splits_endPos_iff.mp hp
    simp [replaced]
  | matched hmatch _ ih =>
    obtain ⟨hne, rfl, hc⟩ := Char.isLongestMatchAt_iff.mp hmatch
    obtain ⟨rest, rfl⟩ := hp.exists_eq_singleton_append hne
    rw [List.foldl_cons, ih hp.next, String.toList_append, replaced_append]
    simp [replaceStep, replaced, hc]
  | mismatched hlt hnone _ ih =>
    obtain ⟨between, rest, rfl, hq, hcopy⟩ := exists_between hlt hp
    rw [List.foldl_cons, ih hq, String.toList_append, replaced_append,
      replaced_of_notMem _ (notMem_between hp hq hnone)]
    simp [replaceStep, hcopy]

/-- Every occurrence of the character is replaced, and nothing else. -/
theorem toList_replace (text : String) (c : Char) (new : String) :
    (text.replace c new).toList = replaced c new.toList text.toList := by
  have hsearch : IsValidSearchFrom c text.toSlice.startPos
      (ToForwardSearcher.toSearcher c text.toSlice).toList :=
    LawfulToForwardSearcherModel.isValidSearchFrom_toList text.toSlice
  have hreplace : text.replace c new =
      (ToForwardSearcher.toSearcher c text.toSlice).toList.foldl (replaceStep new) "" := by
    rw [Std.Iter.foldl_toList, String.replace, Slice.replace]
    congr 1
    funext sofar step
    cases step <;> rfl
  rw [hreplace, toList_foldl_replaceStep new hsearch (Slice.splits_startPos _)]
  simp

end Search

end LedgerSearch.Text
