import LedgerSearch.Proofs.Text.Trimmed
import LedgerSearch.Sql.Transactions

/-!
# Spaces in statements

Both statements are put together around the clause of the conditions, and the
spaces that are left over without conditions are taken out of the whole text
afterwards. Nothing else is: every part has single spaces between its words, no
part begins or ends with a space, and so a text with conditions stays as it is.

* `Text.IsSpaced.append`: two such texts with a space between them are one.
* `text_countStatement`, `text_selectStatement`: the texts of the statements.
-/

namespace LedgerSearch

namespace Text

/-! ## Words of joined texts -/

theorem split_append (p : Char → Bool) {b : Char} (hb : p b = true) (cs ds : List Char) :
    split p (cs ++ b :: ds) = split p cs ++ split p ds := by
  induction cs with
  | nil => simp only [List.nil_append, split, hb, if_true, List.cons_append]
  | cons c cs ih =>
    simp only [List.cons_append, split, ih]
    have hne := split_ne_nil p cs
    cases hfields : split p cs with
    | nil => exact absurd hfields hne
    | cons field fields => by_cases hc : p c <;> simp [hc]

theorem words_append_space (cs ds : List Char) :
    words (cs ++ ' ' :: ds) = words cs ++ words ds := by
  have hspace : isBlank ' ' = true := by decide
  rw [words, split_append isBlank hspace, List.filter_append]
  rfl

theorem intercalate_append {sep : List Char} {ls ms : List (List Char)} (hls : ls ≠ [])
    (hms : ms ≠ []) :
    sep.intercalate (ls ++ ms) = sep.intercalate ls ++ sep ++ sep.intercalate ms := by
  induction ls with
  | nil => exact absurd rfl hls
  | cons l ls ih =>
    cases ls with
    | nil => simp [List.intercalate_cons_of_ne_nil hms]
    | cons k ls =>
      rw [List.cons_append, List.cons_append, List.intercalate_cons_cons, ← List.cons_append,
        ih (List.cons_ne_nil k ls), List.intercalate_cons_cons]
      simp only [List.append_assoc]

/-- A text that neither begins nor ends with a blank, and whose words stand apart by single
spaces. -/
structure IsSpaced (cs : List Char) : Prop where
  isTrimmed : IsTrimmed cs
  intercalate_words : [' '].intercalate (words cs) = cs

instance (cs : List Char) : Decidable (IsSpaced cs) :=
  -- Only the character at either end has to be looked at, not every character that there is.
  letI : ∀ o : Option Char, Decidable (∀ c ∈ o, isBlank c = false) :=
    Option.decidableForallMem
  decidable_of_iff ((cs ≠ [] ∧ (∀ c ∈ cs.head?, isBlank c = false) ∧
      ∀ c ∈ cs.getLast?, isBlank c = false) ∧ [' '].intercalate (words cs) = cs)
    ⟨fun h => ⟨⟨h.1.1, h.1.2.1, h.1.2.2⟩, h.2⟩,
      fun h => ⟨⟨h.1.ne_nil, h.1.head, h.1.getLast⟩, h.2⟩⟩

namespace IsSpaced

theorem words_ne_nil {cs : List Char} (h : IsSpaced cs) : words cs ≠ [] := by
  intro hwords
  have hempty := h.intercalate_words
  rw [hwords, List.intercalate_nil] at hempty
  exact h.isTrimmed.ne_nil hempty.symm

/-- Two texts with a space between them. -/
theorem append {s t : String} (hs : IsSpaced s.toList) (ht : IsSpaced t.toList) :
    IsSpaced (s ++ " " ++ t).toList := by
  have hparts : (s ++ " " ++ t).toList = s.toList ++ ' ' :: t.toList := by
    rw [String.toList_append, String.toList_append, List.append_assoc]
    rfl
  rw [hparts]
  refine ⟨hs.isTrimmed.around [' '] ht.isTrimmed, ?_⟩
  rw [words_append_space, intercalate_append hs.words_ne_nil ht.words_ne_nil,
    hs.intercalate_words, ht.intercalate_words, List.append_assoc]
  rfl

/-- Texts with a mark behind each of them but the last. -/
theorem intercalate {mark s : String} {texts : List String}
    (h : ∀ t ∈ s :: texts, IsSpaced t.toList ∧ IsSpaced (t ++ mark).toList) :
    IsSpaced ((mark ++ " ").intercalate (s :: texts)).toList := by
  induction texts generalizing s with
  | nil => simpa using (h s (List.mem_singleton_self s)).1
  | cons t texts ih =>
    obtain ⟨⟨-, hs⟩, hrest⟩ := List.forall_mem_cons.mp h
    rw [String.intercalate_cons_cons, ← String.append_assoc]
    exact hs.append (ih hrest)

theorem singleSpaced_eq {s : String} (h : IsSpaced s.toList) : singleSpaced s = s := by
  rw [← String.toList_inj, singleSpaced, String.toList_intercalate, List.map_map]
  simpa [Function.comp_def] using h.intercalate_words

/-- Of two spaces between texts one is left. -/
theorem singleSpaced_gap {s t : String} (hs : IsSpaced s.toList) (ht : IsSpaced t.toList) :
    singleSpaced (s ++ " " ++ " " ++ t) = s ++ " " ++ t := by
  have hspaces : (s ++ " " ++ " " ++ t).toList = s.toList ++ ' ' :: ([] ++ ' ' :: t.toList) := by
    simp only [String.toList_append, List.append_assoc]
    rfl
  have hspace : (s ++ " " ++ t).toList = s.toList ++ ' ' :: t.toList := by
    simp only [String.toList_append, List.append_assoc]
    rfl
  have hwords : words (s ++ " " ++ " " ++ t).toList = words (s ++ " " ++ t).toList := by
    rw [hspaces, hspace, words_append_space, words_append_space, words_append_space]
    rfl
  rw [singleSpaced, hwords]
  exact (hs.append ht).singleSpaced_eq

theorem trim_eq {s : String} (h : IsSpaced s.toList) : trim s = s := by
  have htrimmed : trimmed ([] ++ (s.toList ++ [])) = s.toList :=
    h.isTrimmed.trimmed_eq (List.forall_mem_nil _) (List.forall_mem_nil _)
  rw [List.nil_append, List.append_nil] at htrimmed
  rw [trim, htrimmed, String.ofList_toList]

end IsSpaced

end Text

namespace Sql

open Text

/-! ## The texts of statements -/

/-- The table that statements on transactions read, and the conditions on it. -/
def fromWhere (conditions : List Condition) : String :=
  "FROM transactions t" ++
    match conditions with
    | [] => ""
    | _ => " WHERE " ++ " AND ".intercalate (conditions.map (·.predicate.sql))

theorem fromWhere_cons (c : Condition) (cs : List Condition) :
    fromWhere (c :: cs) = "FROM transactions t" ++
      (" WHERE " ++ " AND ".intercalate ((c :: cs).map (·.predicate.sql))) := rfl

theorem Predicate.isSpaced_sql (p : Predicate) : IsSpaced p.sql.toList := by
  cases p with
  | description | tag | type => decide +kernel
  | key column | notBefore column | before column | text column =>
    cases column <;> decide +kernel
  | size comparison => cases comparison <;> decide +kernel

theorem isSpaced_whereClause (c : Condition) (cs : List Condition) :
    IsSpaced (whereClause (c :: cs)).toList := by
  have hwhere : IsSpaced "WHERE".toList := by decide
  have hand : IsSpaced "AND".toList := by decide
  have hmark : " AND " = " AND" ++ " " := by decide
  have hblank : "WHERE " = "WHERE" ++ " " := by decide
  have hpredicates : ∀ s ∈ (c :: cs).map (·.predicate.sql),
      IsSpaced s.toList ∧ IsSpaced (s ++ " AND").toList := by
    intro s hs
    obtain ⟨d, -, rfl⟩ := List.mem_map.mp hs
    have hsql := d.predicate.isSpaced_sql
    have hboth : d.predicate.sql ++ " AND" = d.predicate.sql ++ " " ++ "AND" := by
      rw [String.append_assoc]
      rfl
    exact ⟨hsql, hboth ▸ hsql.append hand⟩
  rw [whereClause, hmark, hblank]
  · exact hwhere.append (IsSpaced.intercalate hpredicates)
  · exact List.cons_ne_nil c cs

theorem table_whereClause (c : Condition) (cs : List Condition) :
    "FROM transactions t" ++ " " ++ whereClause (c :: cs) = fromWhere (c :: cs) := by
  have hwhere : " WHERE " = " " ++ "WHERE " := by decide
  rw [fromWhere_cons, hwhere]
  simp only [whereClause, String.append_assoc]

/-- Trimming only takes out the space behind the table where there are no conditions. -/
theorem text_countStatement (cs : List Condition) :
    (countStatement cs).text = "SELECT COUNT(*)::bigint " ++ fromWhere cs := by
  cases cs with
  | nil => decide
  | cons c cs =>
    have hcount : IsSpaced "SELECT COUNT(*)::bigint FROM transactions t".toList := by decide
    have hspace : "SELECT COUNT(*)::bigint FROM transactions t " =
        "SELECT COUNT(*)::bigint FROM transactions t" ++ " " := by decide
    have hparts : "SELECT COUNT(*)::bigint FROM transactions t" =
        "SELECT COUNT(*)::bigint " ++ "FROM transactions t" := by decide
    calc (countStatement (c :: cs)).text
        = trim ("SELECT COUNT(*)::bigint FROM transactions t" ++ " " ++ whereClause (c :: cs)) := by
          rw [← hspace]
          rfl
      _ = "SELECT COUNT(*)::bigint FROM transactions t" ++ " " ++ whereClause (c :: cs) :=
          (hcount.append (isSpaced_whereClause c cs)).trim_eq
      _ = "SELECT COUNT(*)::bigint " ++ fromWhere (c :: cs) := by
          rw [hparts, ← table_whereClause]
          simp only [String.append_assoc]

theorem isSpaced_selectedColumns :
    IsSpaced (", ".intercalate (selectedColumns.map ("t." ++ ·))).toList := by
  have hmark : ", " = "," ++ " " := by decide
  have hcolumns : ∀ s ∈ selectedColumns.map ("t." ++ ·),
      IsSpaced s.toList ∧ IsSpaced (s ++ ",").toList := by decide +kernel
  rw [hmark]
  exact IsSpaced.intercalate hcolumns

/-- Single spacing only takes out one of the two spaces around the place of the conditions where
there are none. -/
theorem text_selectStatement (cs : List Condition) (page pageSize : Int) :
    (selectStatement cs page pageSize).text =
      "SELECT " ++ ", ".intercalate (selectedColumns.map ("t." ++ ·)) ++ " " ++ fromWhere cs ++
        " ORDER BY t.date DESC, t.id DESC LIMIT %s OFFSET %s" := by
  have hselect : IsSpaced "SELECT".toList := by decide
  have hfrom : IsSpaced "FROM transactions t".toList := by decide
  have horder : IsSpaced "ORDER BY t.date DESC, t.id DESC LIMIT %s OFFSET %s".toList := by decide
  have hopening : "SELECT " = "SELECT" ++ " " := by decide
  have htable : " FROM transactions t " = " " ++ "FROM transactions t" ++ " " := by decide
  have hending : " ORDER BY t.date DESC, t.id DESC LIMIT %s OFFSET %s" =
      " " ++ "ORDER BY t.date DESC, t.id DESC LIMIT %s OFFSET %s" := by decide
  have hsource := (hselect.append isSpaced_selectedColumns).append hfrom
  rw [selectStatement, hopening, htable, hending]
  cases cs with
  | nil =>
    have hspaced := hsource.singleSpaced_gap horder
    have hnone : fromWhere [] = "FROM transactions t" := by decide
    rw [hnone]
    simp only [whereClause, String.append_empty, ← String.append_assoc] at hspaced ⊢
    exact hspaced
  | cons c cs =>
    have hspaced := ((hsource.append (isSpaced_whereClause c cs)).append horder).singleSpaced_eq
    have hclause : "FROM transactions t" ++ " " ++ whereClause (c :: cs) = fromWhere (c :: cs) :=
      table_whereClause c cs
    rw [← hclause]
    simp only [← String.append_assoc] at hspaced ⊢
    exact hspaced

end Sql

end LedgerSearch
