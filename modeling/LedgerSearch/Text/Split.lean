import LedgerSearch.Text.Blank

/-!
# Cutting a text into fields

* `split_ne_nil`: a text has at least one field.
* `join_split`: a text is its fields with the separator between them.
-/

namespace LedgerSearch.Text

/-- The fields between the characters that satisfy `p`; neighbouring separators leave an empty
field. -/
def split (p : Char → Bool) : List Char → List (List Char)
  | [] => [[]]
  | c :: cs =>
    if p c then
      [] :: split p cs
    else
      match split p cs with
      | [] => [[c]]
      | field :: fields => (c :: field) :: fields

/-- The maximal runs of characters that are not blank. -/
def words (cs : List Char) : List (List Char) :=
  (split isBlank cs).filter (!·.isEmpty)

/-- The words of a text with single spaces between them. -/
def singleSpaced (s : String) : String :=
  " ".intercalate ((words s.toList).map String.ofList)

theorem split_ne_nil (p : Char → Bool) (cs : List Char) : split p cs ≠ [] := by
  cases cs with
  | nil => simp [split]
  | cons c cs =>
    unfold split
    by_cases h : p c
    · simp [h]
    · simp only [h]
      cases split p cs <;> simp

/-- A text is its fields with the separator between them. -/
theorem join_split (sep : Char) (cs : List Char) :
    [sep].intercalate (split (· == sep) cs) = cs := by
  induction cs with
  | nil => rfl
  | cons c cs ih =>
    unfold split
    have hne := split_ne_nil (· == sep) cs
    revert ih hne
    cases split (· == sep) cs with
    | nil => intro _ hne; exact absurd rfl hne
    | cons field fields =>
      intro ih _
      by_cases h : c = sep
      · subst h
        rw [← ih]
        simp [List.intercalate]
      · rw [← ih]
        cases fields <;> simp [h, List.intercalate, List.intersperse]

end LedgerSearch.Text
