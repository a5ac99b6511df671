import LedgerSearch.Proofs.Interpretation.Joined
import LedgerSearch.Proofs.Search.Statements
import LedgerSearch.Proofs.Sql.Selection

/-!
# Joined queries intersect

What a filter says of a transaction is said by its words and by each slot on its
own, and an empty slot says nothing. So two queries that set no slot in common,
with a space between them, select the transactions that both select. Behind an
accepted query, words and phrases can only take transactions away.

* `Filter.accepts_iff`: what a filter means, slot by slot.
* `Filter.Joins.accepts_iff`: the filter of joined queries means what both mean.
* `Filter.Joins.exists_ofFilter`: it has conditions if both have.
-/

namespace LedgerSearch

open Calendar Sql

/-! ## Slots and their meaning -/

section

variable {links : List TagLink} {t : Transaction}

/-- What a slot says of a transaction. -/
def Slot.Allows (links : List TagLink) (t : Transaction) : (s : Slot) → s.Content → Prop
  | .sourceAccounts, (accounts : List Account) => RefersTo (accounts.map (·.id)) t.sourceAccount
  | .destinationAccounts, (accounts : List Account) =>
    RefersTo (accounts.map (·.id)) t.destinationAccount
  | .categories, (found : List Entity) => RefersTo (found.map (·.id)) t.category
  | .budgets, (found : List Entity) => RefersTo (found.map (·.id)) t.budget
  | .bills, (found : List Entity) => RefersTo (found.map (·.id)) t.bill
  | .tags, (found : List Entity) => found ≠ [] → ∃ tag ∈ found, ⟨t.id, tag.id⟩ ∈ links
  | .amountEquals, (amount : Option Amount) => ∀ a ∈ amount, |t.amount| = a.toDecimal.value
  | .amountMin, (amount : Option Amount) => ∀ a ∈ amount, a.toDecimal.value ≤ |t.amount|
  | .amountMax, (amount : Option Amount) => ∀ a ∈ amount, |t.amount| ≤ a.toDecimal.value
  | .dateRange, (range : Option DateRange) =>
    ∀ r ∈ range, (r.first.dayNumber : Int) ≤ t.date.dayNumber ∧
      t.date.dayNumber ≤ r.last.dayNumber
  | .dateBefore, (day : Option Date) => ∀ d ∈ day, t.date.dayNumber ≤ d.dayNumber
  | .dateAfter, (day : Option Date) => ∀ d ∈ day, (d.dayNumber : Int) ≤ t.date.dayNumber
  | .createdOn, (day : Option Date) => ∀ d ∈ day, t.createdAt.dayNumber = d.dayNumber
  | .updatedOn, (day : Option Date) => ∀ d ∈ day, t.updatedAt.dayNumber = d.dayNumber
  | .types, (names : List String) => names ≠ [] → t.type ∈ names
  | .externalId, (text : Option String) => ∀ s ∈ text, t.externalId = some s
  | .internalReference, (text : Option String) => ∀ s ∈ text, t.internalReference = some s

/-- A slot of the empty filter says nothing. -/
theorem Slot.allows_empty (s : Slot) : s.Allows links t (Filter.empty.content s) := by
  cases s with
  | sourceAccounts | destinationAccounts | categories | budgets | bills | tags | types =>
    exact fun h => absurd rfl h
  | _ => exact fun _ h => nomatch h

/-- What a filter says of a transaction is said by its words and each of its slots. -/
theorem Filter.accepts_iff {fold : Char → Char} {f : Filter} :
    f.Accepts fold links t ↔
      (∀ word ∈ f.words, word.toList.map fold <:+: t.description.toList.map fold) ∧
        ∀ s : Slot, s.Allows links t (f.content s) := by
  constructor
  · intro h
    refine ⟨h.words, fun s => ?_⟩
    cases s with
    | sourceAccounts => exact h.sourceAccounts
    | destinationAccounts => exact h.destinationAccounts
    | categories => exact h.categories
    | budgets => exact h.budgets
    | tags => exact h.tags
    | bills => exact h.bills
    | amountEquals => exact h.amountEquals
    | amountMin => exact h.amountMin
    | amountMax => exact h.amountMax
    | dateRange => exact h.dateRange
    | dateBefore => exact h.dateBefore
    | dateAfter => exact h.dateAfter
    | createdOn => exact h.createdOn
    | updatedOn => exact h.updatedOn
    | types => exact h.types
    | externalId => exact h.externalId
    | internalReference => exact h.internalReference
  · rintro ⟨hwords, hslots⟩
    exact ⟨hwords, hslots .sourceAccounts, hslots .destinationAccounts, hslots .categories,
      hslots .budgets, hslots .bills, hslots .tags, hslots .amountEquals, hslots .amountMin,
      hslots .amountMax, hslots .dateRange, hslots .dateBefore, hslots .dateAfter,
      hslots .createdOn, hslots .updatedOn, hslots .types, hslots .externalId,
      hslots .internalReference⟩

end

/-- The days that a slot names. -/
def Slot.days : (s : Slot) → s.Content → List Date
  | .dateRange, (range : Option DateRange) => range.toList.flatMap fun r => [r.first, r.last]
  | .dateBefore, (day : Option Date) => day.toList
  | .dateAfter, (day : Option Date) => day.toList
  | .createdOn, (day : Option Date) => day.toList
  | .updatedOn, (day : Option Date) => day.toList
  | _, _ => []

theorem Filter.mem_days_iff {f : Filter} {d : Date} :
    d ∈ f.days ↔ ∃ s : Slot, d ∈ s.days (f.content s) := by
  simp only [days, List.mem_append, or_assoc]
  constructor
  · rintro (h | h | h | h | h)
    · exact ⟨.dateRange, h⟩
    · exact ⟨.dateAfter, h⟩
    · exact ⟨.dateBefore, h⟩
    · exact ⟨.createdOn, h⟩
    · exact ⟨.updatedOn, h⟩
  · rintro ⟨s, h⟩
    cases s with
    | dateRange => exact .inl h
    | dateAfter => exact .inr (.inl h)
    | dateBefore => exact .inr (.inr (.inl h))
    | createdOn => exact .inr (.inr (.inr (.inl h)))
    | updatedOn => exact .inr (.inr (.inr (.inr h)))
    | _ => cases h

/-- A filter that sets no slot has conditions. -/
theorem Filter.exists_ofFilter_of_empty {f : Filter}
    (h : ∀ s, f.content s = Filter.empty.content s) : ∃ cs, Condition.ofFilter f = .ok cs := by
  rw [Condition.exists_ofFilter_iff]
  intro d hd
  obtain ⟨s, hs⟩ := Filter.mem_days_iff.mp hd
  rw [h s] at hs
  exact absurd (Filter.mem_days_iff.mpr ⟨s, hs⟩) List.not_mem_nil

/-! ## Filters of joined queries -/

namespace Filter.Joins

variable {f g both : Filter}

/-- The filter of joined queries means what both filters mean. -/
theorem accepts_iff (h : f.Joins g both) {fold : Char → Char} {links : List TagLink}
    {t : Transaction} :
    both.Accepts fold links t ↔ f.Accepts fold links t ∧ g.Accepts fold links t := by
  have hslot : ∀ s : Slot, s.Allows links t (both.content s) ↔
      s.Allows links t (f.content s) ∧ s.Allows links t (g.content s) := by
    intro s
    rcases h.content s with ⟨hboth, hempty⟩ | ⟨hboth, hempty⟩
    · rw [hboth, hempty, and_iff_left s.allows_empty]
    · rw [hboth, hempty, and_iff_right s.allows_empty]
  rw [Filter.accepts_iff, Filter.accepts_iff, Filter.accepts_iff, h.words,
    List.forall_mem_append, forall_congr' hslot, forall_and]
  exact and_and_and_comm

/-- The filter of joined queries has conditions if both filters have. -/
theorem exists_ofFilter (h : f.Joins g both) (hf : ∃ cs, Condition.ofFilter f = .ok cs)
    (hg : ∃ ds, Condition.ofFilter g = .ok ds) : ∃ cs, Condition.ofFilter both = .ok cs := by
  rw [Condition.exists_ofFilter_iff] at hf hg ⊢
  intro d hd
  obtain ⟨s, hs⟩ := Filter.mem_days_iff.mp hd
  rcases h.content s with ⟨hboth, -⟩ | ⟨hboth, -⟩
  · exact hf d (Filter.mem_days_iff.mpr ⟨s, hboth ▸ hs⟩)
  · exact hg d (Filter.mem_days_iff.mpr ⟨s, hboth ▸ hs⟩)

end Filter.Joins

/-! ## Joined queries -/

namespace Search

/-- Two queries that set no slot in common have an interpretation together. -/
theorem exists_interpret_joined {s : Search} {text more : String} {i j : Interpretation}
    (hi : s.interpret text = .ok i) (hj : s.interpret more = .ok j)
    (h : i.filter.Disjoint j.filter) :
    ∃ k, s.interpret (text ++ " " ++ more) = .ok k ∧ i.filter.Joins j.filter k.filter := by
  obtain ⟨ns, htext, hns⟩ := interpret_eq_ok.mp hi
  obtain ⟨ms, hmore, hms⟩ := interpret_eq_ok.mp hj
  obtain ⟨k, hk⟩ := Interpretation.exists_ofNodes_append ⟨i, hns⟩ ⟨j, hms⟩
  refine ⟨k, ?_, Interpretation.joins_of_disjoint hns hms hk h⟩
  exact interpret_eq_ok.mpr ⟨ns ++ ms, Query.parse_append_space htext hmore, hk⟩

/-- Two queries that set no slot in common, together select what each of them selects. -/
theorem exists_joined {s : Search} {text more : String} {i j : Interpretation} {c d : Statement}
    (hi : s.interpret text = .ok i) (hj : s.interpret more = .ok j)
    (hc : countAll i.filter = .ok c) (hd : countAll j.filter = .ok d)
    (h : i.filter.Disjoint j.filter) :
    ∃ k e, s.interpret (text ++ " " ++ more) = .ok k ∧ countAll k.filter = .ok e ∧
      ∀ fold links t, e.Selects fold links t ↔
        c.Selects fold links t ∧ d.Selects fold links t := by
  obtain ⟨cs, hcs, rfl⟩ := countAll_eq_ok.mp hc
  obtain ⟨ds, hds, rfl⟩ := countAll_eq_ok.mp hd
  obtain ⟨k, hk, hjoins⟩ := exists_interpret_joined hi hj h
  obtain ⟨es, hes⟩ := hjoins.exists_ofFilter ⟨cs, hcs⟩ ⟨ds, hds⟩
  refine ⟨k, countStatement es, hk, countAll_eq_ok.mpr ⟨es, hes, rfl⟩, fun fold links t => ?_⟩
  rw [selects_countStatement_iff hcs, selects_countStatement_iff hds,
    selects_countStatement_iff hes]
  exact hjoins.accepts_iff

/-- Behind a query, words and phrases only take transactions away. -/
theorem exists_narrowed {s : Search} {text more : String} {nodes : List Query.Node}
    {i : Interpretation} {c : Statement} (hi : s.interpret text = .ok i)
    (hc : countAll i.filter = .ok c) (hmore : Query.parse more = .ok nodes)
    (hwords : ∀ node ∈ nodes, ∃ w, node = .word w ∨ node = .phrase w) :
    ∃ k e, s.interpret (text ++ " " ++ more) = .ok k ∧ countAll k.filter = .ok e ∧
      ∀ fold links t, e.Selects fold links t → c.Selects fold links t := by
  obtain ⟨j, hj, hempty⟩ : ∃ j, Interpretation.ofNodes s.registry s.dates s.resolver nodes = .ok j ∧
      ∀ slot, j.filter.content slot = Filter.empty.content slot :=
    Interpretation.exists_ofNodes_of_words hwords
  obtain ⟨ds, hds⟩ := Filter.exists_ofFilter_of_empty hempty
  have hdisjoint : i.filter.Disjoint j.filter := fun slot => .inr (hempty slot)
  obtain ⟨k, e, hk, he, hboth⟩ := exists_joined hi (interpret_eq_ok.mpr ⟨nodes, hmore, hj⟩) hc
    (countAll_eq_ok.mpr ⟨ds, hds, rfl⟩) hdisjoint
  exact ⟨k, e, hk, he, fun fold links t h => ((hboth fold links t).mp h).1⟩

/-- Where no slot is set by both of two accepted queries, both together, with a space between them,
are accepted and select what each of them selects. So words and phrases behind an accepted query
never add a transaction. -/
theorem joined_queries_intersect (s : Search) :
    (∀ (text more : String) (i j : Interpretation) (c d : Statement),
      s.interpret text = .ok i → s.interpret more = .ok j → countAll i.filter = .ok c →
      countAll j.filter = .ok d → i.filter.Disjoint j.filter →
      ∃ k e, s.interpret (text ++ " " ++ more) = .ok k ∧ countAll k.filter = .ok e ∧
        ∀ fold links t, e.Selects fold links t ↔
          c.Selects fold links t ∧ d.Selects fold links t) ∧
    ∀ (text more : String) (nodes : List Query.Node) (i : Interpretation) (c : Statement),
      s.interpret text = .ok i → countAll i.filter = .ok c → Query.parse more = .ok nodes →
      (∀ node ∈ nodes, ∃ w, node = .word w ∨ node = .phrase w) →
      ∃ k e, s.interpret (text ++ " " ++ more) = .ok k ∧ countAll k.filter = .ok e ∧
        ∀ fold links t, e.Selects fold links t → c.Selects fold links t :=
  ⟨fun _ _ _ _ _ _ hi hj hc hd h => exists_joined hi hj hc hd h,
    fun _ _ _ _ _ hi hc hmore hwords => exists_narrowed hi hc hmore hwords⟩

/-- A source account, and behind it a bound on the amount, or a phrase. -/
theorem joined_queries_intersect_dinner :
    let s : Search := ⟨.full, Interpretation.checkingResolver, .english⟩
    ∃ i j c d, s.interpret "from:Check" = .ok i ∧ s.interpret "amount_max:20.50" = .ok j ∧
      countAll i.filter = .ok c ∧ countAll j.filter = .ok d ∧
      (∃ k e, s.interpret ("from:Check" ++ " " ++ "amount_max:20.50") = .ok k ∧
        countAll k.filter = .ok e ∧ ∀ fold links t, e.Selects fold links t ↔
          c.Selects fold links t ∧ d.Selects fold links t) ∧
      ∃ k e, s.interpret ("from:Check" ++ " " ++ "\"at home\"") = .ok k ∧
        countAll k.filter = .ok e ∧
        ∀ fold links t, e.Selects fold links t → c.Selects fold links t := by
  intro s
  have hfrom : Query.lexeme "from:Check".toList = .ok (some (.field "from" "Check"), []) := rfl
  have hamount : Query.lexeme "amount_max:20.50".toList =
      .ok (some (.field "amount_max" "20.50"), []) := rfl
  have hhome : Query.lexeme "\"at home\"".toList = .ok (some (.phrase "at home"), []) := rfl
  have htext : Query.parse "from:Check" = .ok [.field "from" "Check"] :=
    parse_of_lexeme rfl (by decide) hfrom
  have hmore : Query.parse "amount_max:20.50" = .ok [.field "amount_max" "20.50"] :=
    parse_of_lexeme rfl (by decide) hamount
  have hphrase : Query.parse "\"at home\"" = .ok [.phrase "at home"] :=
    parse_of_lexeme rfl (by decide) hhome
  obtain ⟨i, j, c, d, hi, hj, hc, hd, hdisjoint⟩ : ∃ i j c d, s.interpret "from:Check" = .ok i ∧
      s.interpret "amount_max:20.50" = .ok j ∧ countAll i.filter = .ok c ∧
      countAll j.filter = .ok d ∧ i.filter.Disjoint j.filter := by
    rw [interpret_of_parse htext, interpret_of_parse hmore]
    refine ⟨_, _, _, _, rfl, rfl, rfl, rfl, fun slot => ?_⟩
    cases slot with
    | amountMax => exact .inl rfl
    | _ => exact .inr rfl
  obtain ⟨hjoined, hnarrowed⟩ := joined_queries_intersect s
  refine ⟨i, j, c, d, hi, hj, hc, hd, hjoined _ _ _ _ _ _ hi hj hc hd hdisjoint, ?_⟩
  refine hnarrowed _ _ _ _ _ hi hc hphrase fun node hnode => ?_
  exact ⟨"at home", .inr (List.mem_singleton.mp hnode)⟩

end Search

end LedgerSearch
