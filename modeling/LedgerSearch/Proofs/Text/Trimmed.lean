import Mathlib.Data.List.Basic
import LedgerSearch.Text.Blank

/-!
# Trimming

What stands between characters of a class is left when these are trimmed off.

* `trimmedOf_between`: only the ends of a text are looked at.
* `Text.IsTrimmed`: a text that neither begins nor ends with a blank.
-/

namespace LedgerSearch

open Text

theorem dropWhile_run {p : Char → Bool} {run rest : List Char} (hrun : ∀ c ∈ run, p c = true)
    (hrest : ∀ c ∈ rest.head?, p c = false) : (run ++ rest).dropWhile p = rest := by
  rw [List.dropWhile_append_of_pos hrun]
  cases rest with
  | nil => rfl
  | cons c rest => rw [List.dropWhile_cons_of_neg (by simp [hrest c rfl])]

/-- What stands between characters of a class is left when these are trimmed off, if it neither
begins nor ends with one. -/
theorem trimmedOf_between {p : Char → Bool} {before cs after : List Char} (hne : cs ≠ [])
    (hfirst : ∀ c ∈ cs.head?, p c = false) (hlast : ∀ c ∈ cs.getLast?, p c = false)
    (hbefore : ∀ c ∈ before, p c = true) (hafter : ∀ c ∈ after, p c = true) :
    trimmedOf p (before ++ (cs ++ after)) = cs := by
  have hhead : ∀ c ∈ (cs ++ after).head?, p c = false := by
    rw [List.head?_append_of_ne_nil _ hne]
    exact hfirst
  have hend : ∀ c ∈ cs.reverse.head?, p c = false := by
    rw [List.head?_reverse]
    exact hlast
  rw [trimmedOf, dropWhile_run hbefore hhead, List.reverse_append,
    dropWhile_run (fun c hc => hafter c (List.mem_reverse.mp hc)) hend, List.reverse_reverse]

theorem trimmedOf_run {p : Char → Bool} {before cs after : List Char} (hne : cs ≠ [])
    (hbefore : ∀ c ∈ before, p c = true) (hcs : ∀ c ∈ cs, p c = false)
    (hafter : ∀ c ∈ after, p c = true) : trimmedOf p (before ++ (cs ++ after)) = cs :=
  trimmedOf_between hne (fun c hc => hcs c (List.mem_of_mem_head? hc))
    (fun c hc => hcs c (List.mem_of_mem_getLast? hc)) hbefore hafter

theorem trimmedOf_eq_self {p : Char → Bool} {cs : List Char} (h : ∀ c ∈ cs, p c = false) :
    trimmedOf p cs = cs := by
  cases cs with
  | nil => rfl
  | cons c cs =>
    have htrim : trimmedOf p ([] ++ (c :: cs ++ [])) = c :: cs :=
      trimmedOf_run (List.cons_ne_nil c cs) (List.forall_mem_nil _) h (List.forall_mem_nil _)
    rwa [List.nil_append, List.append_nil] at htrim

/-- A text that neither begins nor ends with a blank. -/
structure Text.IsTrimmed (cs : List Char) : Prop where
  ne_nil : cs ≠ []
  head : ∀ c ∈ cs.head?, isBlank c = false
  getLast : ∀ c ∈ cs.getLast?, isBlank c = false

namespace Text.IsTrimmed

theorem of_forall {cs : List Char} (hne : cs ≠ []) (h : ∀ c ∈ cs, isBlank c = false) :
    IsTrimmed cs :=
  ⟨hne, fun c hc => h c (List.mem_of_mem_head? hc), fun c hc => h c (List.mem_of_mem_getLast? hc)⟩

theorem append {a b : List Char} (ha : IsTrimmed a) (hb : ∀ c ∈ b.getLast?, isBlank c = false) :
    IsTrimmed (a ++ b) where
  ne_nil := List.append_ne_nil_of_left_ne_nil ha.ne_nil b
  head := by
    rw [List.head?_append_of_ne_nil a ha.ne_nil]
    exact ha.head
  getLast := by
    by_cases hne : b = []
    · rw [hne, List.append_nil]
      exact ha.getLast
    · rw [List.getLast?_append_of_ne_nil a hne]
      exact hb

/-- Only the ends count. -/
theorem around {a b : List Char} (ha : IsTrimmed a) (middle : List Char) (hb : IsTrimmed b) :
    IsTrimmed (a ++ (middle ++ b)) := by
  apply ha.append
  rw [List.getLast?_append_of_ne_nil middle hb.ne_nil]
  exact hb.getLast

/-- Blanks around the text do not count. -/
theorem trimmed_eq {before cs after : List Char} (h : IsTrimmed cs)
    (hbefore : ∀ c ∈ before, isBlank c = true) (hafter : ∀ c ∈ after, isBlank c = true) :
    trimmed (before ++ (cs ++ after)) = cs :=
  trimmedOf_between h.ne_nil h.head h.getLast hbefore hafter

theorem trimmed_self {cs : List Char} (h : IsTrimmed cs) : trimmed cs = cs := by
  simpa using h.trimmed_eq (List.forall_mem_nil _) (List.forall_mem_nil _)

end Text.IsTrimmed

end LedgerSearch
