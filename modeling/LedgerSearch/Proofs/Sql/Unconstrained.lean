import Mathlib.Data.List.TFAE
import LedgerSearch.Filter.Document
import LedgerSearch.Proofs.Sql.Paging
import LedgerSearch.Proofs.Sql.Shape

/-!
# Filters that constrain nothing

A filter that constrains nothing has no field in its document, and its statements
have no condition. Any constraint that is set, an amount of zero and the empty text
included, gives a field and a condition.

* `Filter.toFields_eq_nil_iff`, `Condition.ofFilter_eq_nil_iff`: only the empty filter has no field,
  and only the empty filter has no condition.
* `hasWhere_countStatement_iff`: only a statement without conditions lacks the clause for them.
* `isEmpty_tfae`: the ways to tell that a filter constrains nothing.
-/

namespace LedgerSearch

open Calendar

/-! ## Filters without constraints -/

namespace Filter

theorem eq_empty_iff {f : Filter} :
    f = empty ↔ f.words = [] ∧ f.sourceAccounts = [] ∧ f.destinationAccounts = [] ∧
      f.categories = [] ∧ f.budgets = [] ∧ f.tags = [] ∧ f.bills = [] ∧ f.amountEquals = none ∧
      f.amountMin = none ∧ f.amountMax = none ∧ f.dateRange = none ∧ f.dateBefore = none ∧
      f.dateAfter = none ∧ f.createdOn = none ∧ f.updatedOn = none ∧ f.types = [] ∧
      f.externalId = none ∧ f.internalReference = none := by
  obtain ⟨words, sources, destinations, categories, budgets, tags, bills, equals, least, most,
    range, before, after, created, updated, types, externalId, reference⟩ := f
  rw [empty, Filter.mk.injEq]

theorem listField_eq_nil_iff {α : Type} {name : String} {write : α → Document} {l : List α} :
    listField name write l = [] ↔ l = [] := by
  cases l with
  | nil => exact iff_of_true rfl rfl
  | cons a l => exact iff_of_false nofun nofun

theorem optionField_eq_nil_iff {α : Type} {name : String} {write : α → Document} {o : Option α} :
    optionField name write o = [] ↔ o = none := by
  cases o with
  | none => exact iff_of_true rfl rfl
  | some a => exact iff_of_false nofun nofun

/-- Only the filter that constrains nothing has no fields. -/
theorem toFields_eq_nil_iff {f : Filter} : f.toFields = [] ↔ f = empty := by
  unfold toFields
  simp only [List.append_eq_nil_iff, listField_eq_nil_iff, optionField_eq_nil_iff, eq_empty_iff,
    and_assoc]

end Filter

namespace Sql

theorem whenSet_eq_nil_iff {set : Bool} {p : Predicate} : whenSet set p = [] ↔ set = false := by
  cases set with
  | false => exact iff_of_true rfl rfl
  | true => exact iff_of_false nofun nofun

/-- Only the filter that constrains nothing has no conditions. -/
theorem Condition.ofFilter_eq_nil_iff {f : Filter} {cs : List Condition}
    (h : ofFilter f = .ok cs) : cs = [] ↔ f = Filter.empty := by
  have hpredicates : cs = [] ↔ predicatesOf f.shape = [] := by
    rw [← map_predicate_ofFilter h, List.map_eq_nil_iff]
  rw [hpredicates, Filter.eq_empty_iff]
  unfold predicatesOf
  simp only [Filter.shape, List.append_eq_nil_iff, whenSet_eq_nil_iff, List.replicate_eq_nil_iff,
    List.length_eq_zero_iff, Bool.not_eq_false', List.isEmpty_iff, Option.isSome_eq_false_iff,
    Option.isNone_iff_eq_none]
  -- The constraints come in another order here, and each of those on days comes twice or once.
  grind

/-! ## Statements without conditions -/

theorem notMem_intercalate {separator : String} {texts : List String} {c : Char}
    (hseparator : c ∉ separator.toList) (htexts : ∀ text ∈ texts, c ∉ text.toList) :
    c ∉ (separator.intercalate texts).toList := by
  induction texts with
  | nil => exact List.not_mem_nil
  | cons text texts ih =>
    obtain ⟨htext, hrest⟩ := List.forall_mem_cons.mp htexts
    cases texts with
    | nil => rwa [String.intercalate_singleton]
    | cons next texts =>
      rw [String.intercalate_cons_cons, String.toList_append, String.toList_append]
      simp only [List.mem_append, not_or]
      exact ⟨⟨htext, hseparator⟩, ih hrest⟩

/-- No column has the first letter of the word that conditions begin with. -/
theorem notMem_selectedColumns :
    'W' ∉ (", ".intercalate (selectedColumns.map ("t." ++ ·))).toList := by
  have hcolumns : ∀ column ∈ selectedColumns, 'W' ∉ column.toList := by decide
  refine notMem_intercalate (by decide) fun text htext => ?_
  obtain ⟨column, hcolumn, rfl⟩ := List.mem_map.mp htext
  rw [String.toList_append, List.mem_append, not_or]
  exact ⟨by decide, hcolumns column hcolumn⟩

/-- Somewhere in its text the statement restricts the rows. -/
def Statement.HasWhere (s : Statement) : Prop :=
  "WHERE".toList <:+: s.text.toList

theorem Statement.not_hasWhere {s : Statement} (h : 'W' ∉ s.text.toList) : ¬ s.HasWhere :=
  fun hwhere => h (hwhere.subset (by decide))

theorem Statement.hasWhere_of_text {s : Statement} {before after : String} {c : Condition}
    {cs : List Condition} (h : s.text = before ++ fromWhere (c :: cs) ++ after) : s.HasWhere := by
  have hwhere : " WHERE " = " " ++ "WHERE" ++ " " := by decide
  have htext : s.text = (before ++ "FROM transactions t" ++ " ") ++ "WHERE" ++
      (" " ++ " AND ".intercalate ((c :: cs).map (·.predicate.sql)) ++ after) := by
    rw [h, fromWhere_cons, hwhere]
    simp only [String.append_assoc]
  rw [HasWhere, htext, String.toList_append, String.toList_append]
  exact List.infix_append _ _ _

theorem hasWhere_countStatement_iff {cs : List Condition} :
    (countStatement cs).HasWhere ↔ cs ≠ [] := by
  cases cs with
  | nil => exact iff_of_false (Statement.not_hasWhere (by decide)) (not_not_intro rfl)
  | cons c cs =>
    have htext : (countStatement (c :: cs)).text =
        "SELECT COUNT(*)::bigint " ++ fromWhere (c :: cs) ++ "" := by
      rw [text_countStatement, String.append_empty]
    exact iff_of_true (Statement.hasWhere_of_text htext) (List.cons_ne_nil c cs)

theorem hasWhere_selectStatement_iff {cs : List Condition} {page pageSize : Int} :
    (selectStatement cs page pageSize).HasWhere ↔ cs ≠ [] := by
  cases cs with
  | nil =>
    refine iff_of_false (Statement.not_hasWhere ?_) (not_not_intro rfl)
    have hfrom : 'W' ∉ (fromWhere []).toList := by decide
    have hending : 'W' ∉ " ORDER BY t.date DESC, t.id DESC LIMIT %s OFFSET %s".toList := by decide
    rw [text_selectStatement]
    simp only [String.toList_append, List.mem_append, not_or]
    exact ⟨⟨⟨⟨by decide, notMem_selectedColumns⟩, by decide⟩, hfrom⟩, hending⟩
  | cons c cs =>
    exact iff_of_true (Statement.hasWhere_of_text (text_selectStatement ..)) (List.cons_ne_nil c cs)

theorem params_countStatement_eq_nil_iff {cs : List Condition} :
    (countStatement cs).params = [] ↔ cs = [] :=
  List.map_eq_nil_iff

theorem params_selectStatement_eq_iff {cs : List Condition} {page pageSize : Int} :
    (selectStatement cs page pageSize).params =
      [.integer pageSize, .integer ((page - 1) * pageSize)] ↔ cs = [] :=
  List.append_left_eq_self.trans List.map_eq_nil_iff

/-! ## The ways to tell -/

theorem isEmpty_iff_conditions {f : Filter} {cs : List Condition}
    (h : Condition.ofFilter f = .ok cs) : f.isEmpty = true ↔ cs = [] :=
  Filter.isEmpty_iff.trans (Condition.ofFilter_eq_nil_iff h).symm

theorem toDocument_eq_iff {f : Filter} : f.toDocument = .object [] ↔ f.isEmpty = true := by
  rw [Filter.isEmpty_iff, ← Filter.toFields_eq_nil_iff, Filter.toDocument, Document.object.injEq]

/-- The ways to tell that a filter constrains nothing, by itself and by its statements. -/
theorem isEmpty_tfae {f : Filter} {cs : List Condition} (h : Condition.ofFilter f = .ok cs)
    (page pageSize : Int) :
    [f.isEmpty = true,
      f.toDocument = .object [],
      ¬ (countStatement cs).HasWhere,
      (countStatement cs).params = [],
      (selectStatement cs page pageSize).params =
          [.integer pageSize, .integer ((page - 1) * pageSize)] ∧
        ¬ (selectStatement cs page pageSize).HasWhere].TFAE := by
  apply List.tfae_of_forall (cs = [])
  intro statement hstatement
  simp only [List.mem_cons, List.not_mem_nil, or_false] at hstatement
  rcases hstatement with rfl | rfl | rfl | rfl | rfl
  · exact isEmpty_iff_conditions h
  · exact toDocument_eq_iff.trans (isEmpty_iff_conditions h)
  · exact (not_congr hasWhere_countStatement_iff).trans not_not
  · exact params_countStatement_eq_nil_iff
  · rw [params_selectStatement_eq_iff, hasWhere_selectStatement_iff, not_not, and_self]

end Sql

end LedgerSearch
