import Mathlib.Data.List.Infix
import LedgerSearch.Calendar.EnglishReader
import LedgerSearch.Lookup.Catalogue
import LedgerSearch.Proofs.Interpretation.Slot
import LedgerSearch.Proofs.Lookup.Order

/-!
# Accounts by the beginning or the end of their names

A source account that is searched by the beginning or the end of its name is
looked up like any other: by names that hold the value in any case, in order, up
to the limit. Only then the names that do not begin or end with the value are
left out. So it is found as long as fewer accounts than the limit come before it
among those that hold the value, and a catalogue with more of them hides it.

* `holds_of_agrees`: a name that begins or ends with a value holds it.
* `foundSources_ne_nil_iff`: when an account is found by its beginning or its end.
* `ofNodes_sourceAccounts`: what a single field of a source operator means.
-/

namespace LedgerSearch

open Text

theorem distinctBy_eq_nil_iff {α κ : Type} [DecidableEq κ] {key : α → κ} {l : List α} :
    distinctBy key l = [] ↔ l = [] := by
  cases l with
  | nil => exact iff_of_true rfl rfl
  | cons a l => exact iff_of_false (List.cons_ne_nil _ _) (List.cons_ne_nil a l)

/-- How many accounts that money may come from hold the value in their names, in any case, and come
before an account, by name and then by number. -/
def Catalogue.sourcesBefore (c : Catalogue) (value : String) (a : Account) : Nat :=
  c.accounts.countP fun b =>
    b.kind ∈ [.asset, .mortgage, .loan, .debt, .revenue] ∧
      foldChars value.toList <:+: foldChars b.name.toList ∧ b.toEntity.ComesBefore a.toEntity

namespace Interpretation

theorem holds_of_agrees {rule : NameRule} {value name : String} (hrule : rule ≠ .holds)
    (h : agrees rule value name = true) : Catalogue.holds name value = true := by
  rw [Catalogue.holds, isInfix_iff]
  cases rule with
  | holds => exact absurd rfl hrule
  | startsWith =>
    obtain ⟨rest, hname⟩ := List.isPrefixOf_iff_prefix.mp h
    rw [← hname, foldChars_append]
    exact (List.prefix_append _ _).isInfix
  | endsWith =>
    obtain ⟨start, hname⟩ := List.isSuffixOf_iff_suffix.mp h
    rw [← hname, foldChars_append]
    exact (List.suffix_append _ _).isInfix

/-- The accounts that a source operator finds in a catalogue. -/
def foundSources (c : Catalogue) (rule : NameRule) (value : String) : List Account :=
  (Catalogue.find Account.toEntity (c.accounts.filter (AccountKind.sources.contains ·.kind)) value
    (some 25)).filter fun a => agrees rule value a.name

theorem mem_foundSources {c : Catalogue} {rule : NameRule} {value : String} {a : Account}
    (h : a ∈ foundSources c rule value) : agrees rule value a.name = true :=
  (List.mem_filter.mp h).2

theorem foundSources_ne_nil_iff {c : Catalogue} {rule : NameRule} (hrule : rule ≠ .holds)
    {value : String} :
    foundSources c rule value ≠ [] ↔
      ∃ a ∈ c.accounts, a.kind ∈ [.asset, .mortgage, .loan, .debt, .revenue] ∧
        agrees rule value a.name = true ∧ c.sourcesBefore value a < 25 := by
  have hbefore (a : Account) : (c.accounts.filter (AccountKind.sources.contains ·.kind)).countP
      (fun b => Catalogue.holds b.name value && decide (b.toEntity.ComesBefore a.toEntity)) =
        c.sourcesBefore value a := by
    rw [List.countP_filter]
    refine List.countP_congr fun b _ => ?_
    simp only [Bool.and_eq_true, decide_eq_true_eq, List.contains_iff_mem, Catalogue.holds,
      isInfix_iff]
    exact ⟨fun ⟨⟨hholds, hlt⟩, hkind⟩ => ⟨hkind, hholds, hlt⟩,
      fun ⟨hkind, hholds, hlt⟩ => ⟨⟨hholds, hlt⟩, hkind⟩⟩
  have hfound : foundSources c rule value ≠ [] ↔ ∃ b ∈ Catalogue.find Account.toEntity
      (c.accounts.filter (AccountKind.sources.contains ·.kind)) value (some 25),
        agrees rule value b.name = true := by
    simp [foundSources]
  have hfind := Catalogue.exists_mem_find_iff Account.toEntity
    (c.accounts.filter (AccountKind.sources.contains ·.kind)) value 25
    fun e => agrees rule value e.name = true
  refine hfound.trans (hfind.trans ?_)
  constructor
  · rintro ⟨a, ha, -, hagrees, hlt⟩
    obtain ⟨hmem, hkind⟩ := List.mem_filter.mp ha
    exact ⟨a, hmem, List.contains_iff_mem.mp hkind, hagrees, hbefore a ▸ hlt⟩
  · rintro ⟨a, hmem, hkind, hagrees, hlt⟩
    have hsource : AccountKind.sources.contains a.kind = true := List.contains_iff_mem.mpr hkind
    exact ⟨a, List.mem_filter.mpr ⟨hmem, hsource⟩, holds_of_agrees hrule hagrees, hagrees,
      (hbefore a).symm ▸ hlt⟩

section

variable (dates : Calendar.DateReader)

theorem ofNodes_sourceAccounts {op : Operator} {rule : NameRule}
    (hop : op.effect = .sourceAccounts rule) (c : Catalogue) (value : String) :
    ofNodes .full dates c.resolver [.field op.name value] =
      .ok ⟨[], [⟨op, value⟩],
        { sourceAccounts := distinctBy (·.id) (foundSources c rule value) }⟩ := by
  have hget : Registry.full.get? op.name = some op := Registry.get?_name (Operator.mem_all op)
  have hchange : change? dates c.resolver op value =
      .ok (unlessEmpty .sourceAccounts (foundSources c rule value)) := by
    rw [change?_eq, hop]
    rfl
  have hdrafted : drafted .full dates c.resolver .empty [.field op.name value] =
      .ok { sourceAccounts := distinctBy (·.id) (foundSources c rule value) } := by
    simp only [drafted_cons, contribution?_field, hget, hchange]
    cases foundSources c rule value <;> rfl
  have hfilter (sources : List Account) :
      Draft.toFilter { sourceAccounts := sources } = .ok { sourceAccounts := sources } := rfl
  simp [ofNodes_eq, hdrafted, hfilter, wordsOf, modifiersOf, hget]

/-- What a field of an operator that looks at one end of the names finds, and when that is anything
at all. -/
theorem exists_ofNodes_of_rule (op : Operator) {rule : NameRule}
    (hop : op.effect = .sourceAccounts rule) (hrule : rule ≠ .holds) (c : Catalogue)
    (value : String) :
    ∃ i, ofNodes .full dates c.resolver [.field op.name value] = .ok i ∧
      i.filter = { sourceAccounts := i.filter.sourceAccounts } ∧
      (∀ a ∈ i.filter.sourceAccounts, agrees rule value a.name = true) ∧
      (i.filter.sourceAccounts ≠ [] ↔
        ∃ a ∈ c.accounts, a.kind ∈ [.asset, .mortgage, .loan, .debt, .revenue] ∧
          agrees rule value a.name = true ∧ c.sourcesBefore value a < 25) := by
  refine ⟨_, ofNodes_sourceAccounts dates hop c value, rfl, ?_, ?_⟩
  · intro a ha
    exact mem_foundSources (mem_of_mem_distinctBy ha)
  · rw [← foundSources_ne_nil_iff hrule]
    exact not_congr distinctBy_eq_nil_iff

/-- A search for source accounts by the beginning, or by the end, of their names constrains nothing
else. All accounts that it finds have such a name, and it finds any exactly when there is an account
with such a name that fewer than 25 of the accounts that hold the value come before. -/
theorem found_by_name_end_iff (c : Catalogue) (value : String) :
    (∃ i, ofNodes .full dates c.resolver [.field "from_account_starts" value] = .ok i ∧
      i.filter = { sourceAccounts := i.filter.sourceAccounts } ∧
      (∀ a ∈ i.filter.sourceAccounts, value.toList <+: a.name.toList) ∧
      (i.filter.sourceAccounts ≠ [] ↔
        ∃ a ∈ c.accounts, a.kind ∈ [.asset, .mortgage, .loan, .debt, .revenue] ∧
          value.toList <+: a.name.toList ∧ c.sourcesBefore value a < 25)) ∧
    (∃ i, ofNodes .full dates c.resolver [.field "from_account_ends" value] = .ok i ∧
      i.filter = { sourceAccounts := i.filter.sourceAccounts } ∧
      (∀ a ∈ i.filter.sourceAccounts, value.toList <:+ a.name.toList) ∧
      (i.filter.sourceAccounts ≠ [] ↔
        ∃ a ∈ c.accounts, a.kind ∈ [.asset, .mortgage, .loan, .debt, .revenue] ∧
          value.toList <:+ a.name.toList ∧ c.sourcesBefore value a < 25)) := by
  have hstarts := exists_ofNodes_of_rule dates .fromAccountStarts rfl (by decide) c value
  have hends := exists_ofNodes_of_rule dates .fromAccountEnds rfl (by decide) c value
  simp only [agrees, List.isPrefixOf_iff_prefix] at hstarts
  simp only [agrees, List.isSuffixOf_iff_suffix] at hends
  exact ⟨hstarts, hends⟩

end

/-- Twenty-five accounts hold the letter in the middle of their names, and come before the only one
that begins and ends with it. -/
def crowdedCatalogue : Catalogue where
  accounts := (List.range 25).map (fun n => ⟨⟨n, "aba"⟩, .asset⟩) ++ [⟨⟨25, "b"⟩, .asset⟩]

/-- The account whose name is the value is not found by its beginning or its end, and the search is
not constrained at all. -/
theorem not_found_in_crowd :
    (∃ a ∈ crowdedCatalogue.accounts, a.kind = .asset ∧ "b".toList <+: a.name.toList ∧
      "b".toList <:+ a.name.toList) ∧
    (∃ i, ofNodes .full .english crowdedCatalogue.resolver [.field "from_account_starts" "b"] =
        .ok i ∧
      i.filter.sourceAccounts = [] ∧ i.filter = Filter.empty) ∧
    ∃ i, ofNodes .full .english crowdedCatalogue.resolver [.field "from_account_ends" "b"] =
        .ok i ∧
      i.filter.sourceAccounts = [] ∧ i.filter = Filter.empty := by
  have hcrowd {rule : NameRule} (hrule : rule ≠ .holds) : ¬ ∃ a ∈ crowdedCatalogue.accounts,
      a.kind ∈ [.asset, .mortgage, .loan, .debt, .revenue] ∧ agrees rule "b" a.name = true ∧
        crowdedCatalogue.sourcesBefore "b" a < 25 := by
    cases rule with
    | holds => exact absurd rfl hrule
    | startsWith => decide +kernel
    | endsWith => decide +kernel
  have hempty (op : Operator) {rule : NameRule} (hop : op.effect = .sourceAccounts rule)
      (hrule : rule ≠ .holds) :
      ∃ i, ofNodes .full .english crowdedCatalogue.resolver [.field op.name "b"] = .ok i ∧
        i.filter.sourceAccounts = [] ∧ i.filter = Filter.empty := by
    obtain ⟨i, hi, honly, -, hfound⟩ :=
      exists_ofNodes_of_rule .english op hop hrule crowdedCatalogue "b"
    have hnone : i.filter.sourceAccounts = [] :=
      Decidable.byContradiction fun hsome => hcrowd hrule (hfound.mp hsome)
    rw [hnone] at honly
    exact ⟨i, hi, hnone, honly⟩
  exact ⟨⟨⟨⟨25, "b"⟩, .asset⟩, by decide, rfl, List.prefix_refl _, List.suffix_refl _⟩,
    hempty .fromAccountStarts rfl (by decide), hempty .fromAccountEnds rfl (by decide)⟩

end Interpretation

end LedgerSearch
