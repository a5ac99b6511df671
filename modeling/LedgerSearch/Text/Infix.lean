/-!
# Texts within texts

* `isInfix_iff`: the test decides whether one list stands within another without a gap.
-/

namespace LedgerSearch.Text

/-- Whether the first list stands within the second one without a gap. -/
def isInfix {α : Type} [BEq α] (part : List α) : List α → Bool
  | [] => part.isEmpty
  | a :: as => part.isPrefixOf (a :: as) || isInfix part as

theorem isInfix_iff {α : Type} [BEq α] [LawfulBEq α] {part whole : List α} :
    isInfix part whole = true ↔ part <:+: whole := by
  induction whole with
  | nil => simp [isInfix]
  | cons a as ih => simp [isInfix, ih, List.infix_cons_iff]

end LedgerSearch.Text
