import LedgerSearch.Proofs.Sql.Literal
import LedgerSearch.Proofs.Text.Replace

/-!
# Terms and their patterns

A term is written into a pattern character by character: a special character becomes
two characters and every other one stays. The first character of what is written
tells how much belongs together, so a term is read back from its pattern whatever
follows, and no two terms have the same pattern.

* `escapeText_append`: a joined term is escaped part by part.
* `replace_eq_escapeText`: to replace the backslash, the percent sign and the low line
  one after the other is to escape each of them once.
* `escape_prefix_iff`: the pattern of a term begins with that of another one exactly
  if the term does.
* `escapeText_inj`, `holding_inj`: different terms have different patterns.
-/

namespace LedgerSearch.Sql.Pattern

open Text

variable {a b : String} {cs ds : List Char}

theorem toList_escapeText (a : String) : (escapeText a).toList = escape a.toList :=
  String.toList_ofList

theorem escapeText_append (a b : String) :
    escapeText (a ++ b) = escapeText a ++ escapeText b := by
  rw [← String.toList_inj, String.toList_append, toList_escapeText, toList_escapeText,
    toList_escapeText, String.toList_append, escape_append]

/-! ## Replacing one character after the other -/

theorem replaced_eq_escapeOnly (special : Char) (cs : List Char) :
    replaced special ['\\', special] cs = escapeOnly special cs := by
  refine List.flatMap_congr fun c _ => ?_
  by_cases hc : c = special
  · rw [if_pos hc, if_pos hc, hc]
  · rw [if_neg hc, if_neg hc]

/-- The backslash is replaced first, so the backslashes that are put in later are left alone. -/
theorem replace_eq_escapeText (a : String) :
    ((a.replace '\\' "\\\\").replace '%' "\\%").replace '_' "\\_" = escapeText a := by
  rw [← String.toList_inj, toList_replace, toList_replace, toList_replace, toList_escapeText,
    escape_eq_escapeOnly, ← replaced_eq_escapeOnly, ← replaced_eq_escapeOnly,
    ← replaced_eq_escapeOnly]
  rfl

/-- Each special character has a backslash put before it, in one pass from left to right. -/
theorem escape_eq_flatMap (cs : List Char) :
    escape cs = cs.flatMap fun c => if c = '\\' ∨ c = '%' ∨ c = '_' then ['\\', c] else [c] := by
  simp only [escape, isSpecial_iff]

/-! ## Reading terms back -/

theorem escape_prefix_iff : escape cs <+: escape ds ↔ cs <+: ds := by
  constructor
  · rintro ⟨rest, h⟩
    refine ⟨unescape rest, ?_⟩
    rw [← unescape_escape_append, h, unescape_escape]
  · rintro ⟨rest, rfl⟩
    rw [escape_append]
    exact List.prefix_append _ _

theorem escape_inj : escape cs = escape ds ↔ cs = ds := by
  constructor
  · intro h
    rw [← unescape_escape cs, h, unescape_escape]
  · rintro rfl
    rfl

theorem escapeText_inj : escapeText a = escapeText b ↔ a = b := by
  rw [← String.toList_inj, toList_escapeText, toList_escapeText, escape_inj, String.toList_inj]

theorem holding_inj : holding a = holding b ↔ a = b := by
  rw [holding, holding, String.ofList_inj, List.append_left_inj, List.cons_inj_right, escape_inj,
    String.toList_inj]

/-- Escaping is a code: joined terms have joined patterns, each special character of a term is
written as two characters whether they are replaced one after the other or in one pass, and a term
is read back from its pattern whatever follows. So a pattern begins with another one only if its
term begins with the other term, and different terms never have the same pattern. -/
theorem escapeText_uniquely_decodable (a b : String) :
    escapeText (a ++ b) = escapeText a ++ escapeText b ∧
    ((a.replace '\\' "\\\\").replace '%' "\\%").replace '_' "\\_" = escapeText a ∧
    (escapeText a).toList =
      a.toList.flatMap (fun c => if c = '\\' ∨ c = '%' ∨ c = '_' then ['\\', c] else [c]) ∧
    String.ofList (unescape (escapeText a).toList) = a ∧
    (∀ rest, unescape ((escapeText a).toList ++ rest) = a.toList ++ unescape rest) ∧
    ((escapeText a).toList <+: (escapeText b).toList ↔ a.toList <+: b.toList) ∧
    (escapeText a = escapeText b ↔ a = b) ∧ (holding a = holding b ↔ a = b) := by
  simp only [toList_escapeText]
  refine ⟨escapeText_append a b, replace_eq_escapeText a, escape_eq_flatMap a.toList, ?_,
    unescape_escape_append a.toList, escape_prefix_iff, escapeText_inj, holding_inj⟩
  rw [unescape_escape, String.ofList_toList]

end LedgerSearch.Sql.Pattern
