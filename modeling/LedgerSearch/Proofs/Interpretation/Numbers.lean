import LedgerSearch.Proofs.Interpretation.Origin
import LedgerSearch.Proofs.Sql.Conditions

/-!
# Numbers of entities

A filter names entities by their numbers, and a statement has no other integers
among the values of its conditions. The numbers come from the answers to lookups,
so what holds of all numbers that a resolver answers with holds of those as well.

* `Slot.numbers_written?`: the numbers that an operator writes to a slot.
* `numbers_of_ofNodes`: the numbers of an interpretation.
* `numbersFrom_ofFilter`: the integers of conditions are numbers of entities.
-/

namespace LedgerSearch

open Calendar

/-- The numbers of the entities in a slot. -/
def Slot.numbers : (s : Slot) → s.Content → List Int
  | .sourceAccounts, accounts | .destinationAccounts, accounts =>
    accounts.map fun a : Account => a.id
  | .categories, found | .budgets, found | .tags, found | .bills, found =>
    found.map fun e : Entity => e.id
  | .amountEquals, _ | .amountMin, _ | .amountMax, _ | .dateRange, _ | .dateBefore, _
  | .dateAfter, _ | .createdOn, _ | .updatedOn, _ | .types, _ | .externalId, _
  | .internalReference, _ => []

/-- Every number that the resolver answers with has the property. -/
structure Resolver.Numbered (P : Int → Prop) (r : Resolver) : Prop where
  accounts : ∀ kinds term limit found, r.accounts kinds term limit = .ok found →
    ∀ a ∈ found, P a.id
  entities : ∀ kind term limit found, r.entities kind term limit = .ok found →
    ∀ e ∈ found, P e.id

theorem forall_foundBy {α : Type} {p : α → Prop} {answer : Except LookupError (List α)}
    (h : ∀ found, answer = .ok found → ∀ a ∈ found, p a) : ∀ a ∈ foundBy answer, p a := by
  cases answer with
  | ok found => exact h found rfl
  | error => exact List.forall_mem_nil _

theorem forall_distinctUnlessEmpty {α : Type} {p : α → Prop} {number : α → Int}
    {l found : List α} (hl : ∀ a ∈ l, p a) (h : distinctUnlessEmpty number l = some found) :
    ∀ a ∈ found, p a := by
  cases l with
  | nil => cases h
  | cons b l =>
    cases h
    exact fun a ha => hl a (mem_of_mem_distinctBy ha)

variable {P : Int → Prop} {registry : Registry} {dates : DateReader} {resolver : Resolver}

/-- An operator writes numbers that a lookup was answered with. -/
theorem Slot.numbers_written? (hr : resolver.Numbered P) {op : Operator} {value : String} {s : Slot}
    {content : s.Content} (h : s.written? dates resolver op value = some content) :
    ∀ n ∈ s.numbers content, P n := by
  have haccounts (kinds : List AccountKind) : ∀ a ∈ foundBy (resolver.accounts kinds value
      (some searchLimit)), P a.id := forall_foundBy (hr.accounts _ _ _)
  have hentities (kind : EntityKind) (limit : Option Int) : ∀ e ∈ foundBy (resolver.entities kind
      value limit), P e.id := forall_foundBy (hr.entities _ _ _)
  cases s with
  | sourceAccounts =>
    refine List.forall_mem_map.mpr (forall_distinctUnlessEmpty ?_ h)
    exact fun a ha => haccounts _ a (List.mem_of_mem_filter ha)
  | destinationAccounts =>
    exact List.forall_mem_map.mpr (forall_distinctUnlessEmpty (haccounts _) h)
  | categories | budgets | tags | bills =>
    exact List.forall_mem_map.mpr (forall_distinctUnlessEmpty (hentities _ _) h)
  | _ => exact List.forall_mem_nil _

/-- No slot of the empty filter names an entity. -/
theorem Slot.numbers_empty (s : Slot) : s.numbers (Filter.empty.content s) = [] := by
  cases s <;> rfl

theorem Interpretation.numbers_of_ofNodes (hr : resolver.Numbered P) {nodes : List Query.Node}
    {i : Interpretation} (h : ofNodes registry dates resolver nodes = .ok i) (s : Slot) :
    ∀ n ∈ s.numbers (i.filter.content s), P n := by
  by_cases hset : i.filter.content s = Filter.empty.content s
  · rw [hset, s.numbers_empty]
    exact List.forall_mem_nil _
  · obtain ⟨m, -, -, hwritten⟩ := exists_modifier_of_content h hset
    exact Slot.numbers_written? hr hwritten

/-! ## Integers of conditions -/

namespace Sql

/-- The integers that a value holds. -/
def Param.integerList : Param → List Int
  | .integer n => [n]
  | .integers ns => ns
  | _ => []

namespace Condition

/-- The integers of the conditions are numbers of entities that the filter names. -/
def NumbersFrom (f : Filter) (cs : List Condition) : Prop :=
  ∀ c ∈ cs, ∀ n ∈ c.param.integerList, ∃ s : Slot, n ∈ s.numbers (f.content s)

variable {f : Filter}

theorem numbersFrom_append {cs ds : List Condition} :
    NumbersFrom f (cs ++ ds) ↔ NumbersFrom f cs ∧ NumbersFrom f ds :=
  List.forall_mem_append

theorem numbersFrom_of_eq_nil {cs : List Condition} (h : ∀ c ∈ cs, c.param.integerList = []) :
    NumbersFrom f cs := by
  intro c hc n hn
  rw [h c hc] at hn
  cases hn

theorem numbersFrom_ofWords (words : List String) : NumbersFrom f (words.map ofWord) :=
  numbersFrom_of_eq_nil (List.forall_mem_map.mpr fun _ _ => rfl)

theorem numbersFrom_singleton {predicate : Predicate} {ids : List Int} (s : Slot)
    (h : ids = s.numbers (f.content s)) : NumbersFrom f [⟨predicate, .integers ids⟩] :=
  List.forall_mem_singleton.mpr fun _ hn => ⟨s, h ▸ hn⟩

theorem numbersFrom_ofKeys {column : KeyColumn} {ids : List Int} (s : Slot)
    (h : ids = s.numbers (f.content s)) : NumbersFrom f (ofKeys column ids) := by
  cases ids with
  | nil => exact List.forall_mem_nil _
  | cons id ids => exact numbersFrom_singleton s h

theorem numbersFrom_ofTags {ids : List Int} (s : Slot) (h : ids = s.numbers (f.content s)) :
    NumbersFrom f (ofTags ids) := by
  cases ids with
  | nil => exact List.forall_mem_nil _
  | cons id ids => exact numbersFrom_singleton s h

theorem numbersFrom_ofAmount (comparison : Comparison) (amount : Option Amount) :
    NumbersFrom f (ofAmount comparison amount) := by
  cases amount with
  | none => exact List.forall_mem_nil _
  | some a => exact numbersFrom_of_eq_nil (List.forall_mem_singleton.mpr rfl)

theorem numbersFrom_ofTypes (types : List String) : NumbersFrom f (ofTypes types) := by
  cases types with
  | nil => exact List.forall_mem_nil _
  | cons type types => exact numbersFrom_of_eq_nil (List.forall_mem_singleton.mpr rfl)

theorem numbersFrom_ofText (column : TextColumn) (text : Option String) :
    NumbersFrom f (ofText column text) := by
  cases text with
  | none => exact List.forall_mem_nil _
  | some s => exact numbersFrom_of_eq_nil (List.forall_mem_singleton.mpr rfl)

theorem numbersFrom_ofDays {column : TimeColumn} {first last : Option Date} {cs : List Condition}
    (h : ofDays column first last = .ok cs) : NumbersFrom f cs := by
  obtain ⟨a, b, ha, hb, rfl⟩ := ofDays_eq_ok.mp h
  refine numbersFrom_append.mpr ⟨?_, ?_⟩
  · cases first with
    | none =>
      cases ha
      exact List.forall_mem_nil _
    | some d =>
      obtain ⟨n, -, rfl⟩ := fromDay_some_eq_ok.mp ha
      exact numbersFrom_of_eq_nil (List.forall_mem_singleton.mpr rfl)
  · cases last with
    | none =>
      cases hb
      exact List.forall_mem_nil _
    | some d =>
      obtain ⟨n, -, rfl⟩ := upToDay_some_eq_ok.mp hb
      exact numbersFrom_of_eq_nil (List.forall_mem_singleton.mpr rfl)

/-- The conditions of a filter hold no other integers than the numbers of its entities. -/
theorem numbersFrom_ofFilter {cs : List Condition} (h : ofFilter f = .ok cs) :
    NumbersFrom f cs := by
  obtain ⟨range, hrange, h⟩ := bind_eq_ok.mp h
  obtain ⟨bounds, hbounds, h⟩ := bind_eq_ok.mp h
  obtain ⟨created, hcreated, h⟩ := bind_eq_ok.mp h
  obtain ⟨updated, hupdated, h⟩ := bind_eq_ok.mp h
  cases h
  simp only [numbersFrom_append, numbersFrom_ofWords, numbersFrom_ofAmount, numbersFrom_ofTypes,
    numbersFrom_ofText, numbersFrom_ofDays hrange, numbersFrom_ofDays hbounds,
    numbersFrom_ofDays hcreated, numbersFrom_ofDays hupdated, and_true, true_and]
  exact ⟨⟨⟨⟨⟨numbersFrom_ofKeys .sourceAccounts rfl, numbersFrom_ofKeys .destinationAccounts rfl⟩,
    numbersFrom_ofKeys .categories rfl⟩, numbersFrom_ofKeys .budgets rfl⟩,
    numbersFrom_ofKeys .bills rfl⟩, numbersFrom_ofTags .tags rfl⟩

end Condition

end Sql

end LedgerSearch
