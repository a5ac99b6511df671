import LedgerSearch.Proofs.Interpretation.Origin
import LedgerSearch.Proofs.Lookup.Order
import LedgerSearch.Proofs.Query.Parsing
import LedgerSearch.Search

/-!
# What a query resolves names to

A search over a catalogue puts entities into a filter only by looking a value up.
So the entities of a constraint are in the catalogue and agree with the value of
one of the modifiers for that constraint; they are in order, no number repeats, and
there are at most as many as a lookup asks for. Accounts have one of the kinds that
the constraint looks for.

* `FoundIn.of_sublist`: what the first items of every number have in common, of any part
  of an answer.
* `exists_modifier_of_sourceAccounts` and so on: where the entities of a constraint come from.
-/

namespace LedgerSearch

open Text

/-- The items are stored ones that an operator finds for a value: their names agree with the value,
no number repeats, they are strictly in order, and there are no more than the limit. -/
structure FoundIn {α : Type} (entity : α → Entity) (items : List α) (limit : Option Int)
    (op : Operator) (value : String) (found : List α) : Prop where
  stored : ∀ a ∈ found, a ∈ items
  holds : ∀ a ∈ found, foldChars value.toList <:+: foldChars (entity a).name.toList
  starts : op = .fromAccountStarts → ∀ a ∈ found, value.toList <+: (entity a).name.toList
  ends : op = .fromAccountEnds → ∀ a ∈ found, value.toList <:+ (entity a).name.toList
  distinct : (found.map fun a => (entity a).id).Nodup
  ordered : found.Pairwise fun a b => (entity a).ComesBefore (entity b)
  length : ∀ n ∈ limit, (found.length : Int) ≤ n

namespace FoundIn

variable {α : Type} {entity : α → Entity} {items : List α} {limit : Option Int} {op : Operator}
  {value : String}

/-- The first items of every number in a part of an answer, or in all of it. -/
theorem of_sublist {kept : List α} (hlimit : ∀ n ∈ limit, 0 ≤ n)
    (hkept : kept.Sublist (Catalogue.find entity items value limit))
    (hkeeps : ∀ a ∈ kept, op.keeps value (entity a).name = true) :
    FoundIn entity items limit op value (distinctBy (fun a => (entity a).id) kept) where
  stored a ha := (Catalogue.mem_find (hkept.subset (mem_of_mem_distinctBy ha))).1
  holds a ha := isInfix_iff.mp (Catalogue.mem_find (hkept.subset (mem_of_mem_distinctBy ha))).2
  starts hop a ha := by
    have hname := hkeeps a (mem_of_mem_distinctBy ha)
    rw [hop] at hname
    exact of_decide_eq_true hname
  ends hop a ha := by
    have hname := hkeeps a (mem_of_mem_distinctBy ha)
    rw [hop] at hname
    exact of_decide_eq_true hname
  distinct := distinctBy_nodup _ kept
  ordered := Catalogue.pairwise_distinctBy_find limit hkept
  length n hn := by
    obtain rfl := Option.mem_def.mp hn
    have hn := hlimit n rfl
    have hkept := ((distinctBy_sublist (fun a => (entity a).id) kept).trans hkept).length_le
    have hfind : (Catalogue.find entity items value (some n)).length ≤ n.toNat :=
      Catalogue.length_find_le hn
    omega

theorem of_accounts {accounts found : List Account} {kinds : List AccountKind}
    (h : FoundIn Account.toEntity (accounts.filter (kinds.contains ·.kind)) limit op value found) :
    FoundIn Account.toEntity accounts limit op value found ∧ ∀ a ∈ found, a.kind ∈ kinds := by
  have hmem : ∀ a ∈ found, a ∈ accounts ∧ a.kind ∈ kinds := by
    intro a ha
    obtain ⟨hstored, hkind⟩ := List.mem_filter.mp (h.stored a ha)
    exact ⟨hstored, List.contains_iff_mem.mp hkind⟩
  exact ⟨{ h with stored := fun a ha => (hmem a ha).1 }, fun a ha => (hmem a ha).2⟩

theorem of_distinctUnlessEmpty {kept found : List α} (hlimit : ∀ n ∈ limit, 0 ≤ n)
    (hkept : kept.Sublist (Catalogue.find entity items value limit))
    (hkeeps : ∀ a ∈ kept, op.keeps value (entity a).name = true)
    (h : distinctUnlessEmpty (fun a => (entity a).id) kept = some found) :
    FoundIn entity items limit op value found := by
  have hfound : found = distinctBy (fun a => (entity a).id) kept := by
    cases kept with
    | nil => cases h
    | cons a l => exact (Option.some.inj h).symm
  rw [hfound]
  exact of_sublist hlimit hkept hkeeps

end FoundIn

/-! ## The constraints of an interpretation -/

/-- The slot of the entities of a kind. -/
def EntityKind.slot : EntityKind → Slot
  | category => .categories
  | budget => .budgets
  | bill => .bills
  | tag => .tags

/-- The entities of a kind that a filter names. -/
def Filter.entitiesOf (f : Filter) : EntityKind → List Entity
  | .category => f.categories
  | .budget => f.budgets
  | .bill => f.bills
  | .tag => f.tags

/-- Cash, opening balances and reconciliations are looked for on neither side. -/
theorem AccountKind.ne_of_mem {k : AccountKind} (h : k ∈ sources ∨ k ∈ destinations) :
    k ≠ .cash ∧ k ≠ .initialBalance ∧ k ≠ .reconciliation := by
  revert h
  cases k <;> decide

/-- Only source accounts are left out for their names. -/
theorem Operator.keeps_of_slot?_ne {op : Operator} (h : op.slot? ≠ some .sourceAccounts)
    (value name : String) : op.keeps value name = true := by
  cases op <;> first | rfl | exact absurd rfl h

namespace Interpretation

variable {registry : Registry} {c : Catalogue} {dates : Calendar.DateReader}
  {nodes : List Query.Node} {i : Interpretation}

theorem exists_modifier_of_sourceAccounts (h : ofNodes registry dates c.resolver nodes = .ok i)
    (hset : i.filter.sourceAccounts ≠ []) :
    ∃ m ∈ i.modifiers, m.operator.slot? = some .sourceAccounts ∧
      FoundIn Account.toEntity c.accounts (some 25) m.operator m.value i.filter.sourceAccounts ∧
      ∀ a ∈ i.filter.sourceAccounts, a.kind ∈ AccountKind.sources := by
  obtain ⟨m, hm, hslot, hwritten⟩ :
      ∃ m ∈ i.modifiers, m.operator.slot? = some .sourceAccounts ∧
        Slot.sourceAccounts.written? dates c.resolver m.operator m.value =
          some i.filter.sourceAccounts :=
    exists_modifier_of_content h hset
  have hkeeps : ∀ a ∈ (Catalogue.find Account.toEntity
      (c.accounts.filter (AccountKind.sources.contains ·.kind)) m.value (some 25)).filter
      fun a => m.operator.keeps m.value a.name, m.operator.keeps m.value a.name = true :=
    fun a ha => (List.mem_filter.mp ha).2
  exact ⟨m, hm, hslot, FoundIn.of_accounts
    (.of_distinctUnlessEmpty (by simp) List.filter_sublist hkeeps hwritten)⟩

theorem exists_modifier_of_destinationAccounts (h : ofNodes registry dates c.resolver nodes = .ok i)
    (hset : i.filter.destinationAccounts ≠ []) :
    ∃ m ∈ i.modifiers, m.operator.slot? = some .destinationAccounts ∧
      FoundIn Account.toEntity c.accounts (some 25) m.operator m.value
        i.filter.destinationAccounts ∧
      ∀ a ∈ i.filter.destinationAccounts, a.kind ∈ AccountKind.destinations := by
  obtain ⟨m, hm, hslot, hwritten⟩ :
      ∃ m ∈ i.modifiers, m.operator.slot? = some .destinationAccounts ∧
        Slot.destinationAccounts.written? dates c.resolver m.operator m.value =
          some i.filter.destinationAccounts :=
    exists_modifier_of_content h hset
  have hkeeps : ∀ name, m.operator.keeps m.value name = true :=
    m.operator.keeps_of_slot?_ne (by simp [hslot]) m.value
  exact ⟨m, hm, hslot, FoundIn.of_accounts (.of_distinctUnlessEmpty (by simp) (List.Sublist.refl _)
    (fun a _ => hkeeps a.name) hwritten)⟩

theorem exists_modifier_of_entities (h : ofNodes registry dates c.resolver nodes = .ok i)
    (kind : EntityKind) (hset : i.filter.entitiesOf kind ≠ []) :
    ∃ m ∈ i.modifiers, m.operator.slot? = some kind.slot ∧
      FoundIn id (c.entitiesOf kind) (if kind = .tag then none else some 25) m.operator m.value
        (i.filter.entitiesOf kind) := by
  have hkeeps : ∀ (op : Operator) (value name : String), op.slot? = some kind.slot →
      op.keeps value name = true := by
    intro op value name hslot
    refine op.keeps_of_slot?_ne ?_ value name
    rw [hslot]
    cases kind <;> nofun
  obtain ⟨m, hm, hslot, hwritten⟩ : ∃ m ∈ i.modifiers, m.operator.slot? = some kind.slot ∧
      distinctUnlessEmpty (fun e : Entity => e.id) (Catalogue.find id (c.entitiesOf kind) m.value
        (if kind = .tag then none else some 25)) = some (i.filter.entitiesOf kind) := by
    cases kind with
    | category => exact exists_modifier_of_content (s := .categories) h hset
    | budget => exact exists_modifier_of_content (s := .budgets) h hset
    | bill => exact exists_modifier_of_content (s := .bills) h hset
    | tag => exact exists_modifier_of_content (s := .tags) h hset
  refine ⟨m, hm, hslot, .of_distinctUnlessEmpty ?_ (List.Sublist.refl _) ?_ hwritten⟩
  · cases kind <;> simp
  · exact fun e _ => hkeeps m.operator m.value e.name hslot

end Interpretation

namespace Search

/-- Whatever a query puts into a filter by its name is in the catalogue and agrees with the value of
a modifier for that constraint. No number repeats, the entities are in order, and there are at most
25 of them, tags apart. So no cash account, and no account of an opening balance or a
reconciliation, ever gets into a filter. -/
theorem resolved_from_catalogue (registry : Registry) (c : Catalogue)
    (dates : Calendar.DateReader) (text : String) {i : Interpretation}
    (h : interpret ⟨registry, c.resolver, dates⟩ text = .ok i) :
    (i.filter.sourceAccounts ≠ [] →
      ∃ m ∈ i.modifiers, m.operator.slot? = some .sourceAccounts ∧
        FoundIn Account.toEntity c.accounts (some 25) m.operator m.value
          i.filter.sourceAccounts ∧
        ∀ a ∈ i.filter.sourceAccounts, a.kind ∈ [.asset, .mortgage, .loan, .debt, .revenue]) ∧
    (i.filter.destinationAccounts ≠ [] →
      ∃ m ∈ i.modifiers, m.operator.slot? = some .destinationAccounts ∧
        FoundIn Account.toEntity c.accounts (some 25) m.operator m.value
          i.filter.destinationAccounts ∧
        ∀ a ∈ i.filter.destinationAccounts,
          a.kind ∈ [.asset, .mortgage, .loan, .debt, .expense]) ∧
    (∀ kind, i.filter.entitiesOf kind ≠ [] →
      ∃ m ∈ i.modifiers, m.operator.slot? = some kind.slot ∧
        FoundIn id (c.entitiesOf kind) (if kind = .tag then none else some 25) m.operator m.value
          (i.filter.entitiesOf kind)) ∧
    ∀ a, a ∈ i.filter.sourceAccounts ∨ a ∈ i.filter.destinationAccounts →
      a.kind ≠ .cash ∧ a.kind ≠ .initialBalance ∧ a.kind ≠ .reconciliation := by
  obtain ⟨nodes, -, hnodes⟩ := interpret_eq_ok.mp h
  have hsources := Interpretation.exists_modifier_of_sourceAccounts hnodes
  have hdestinations := Interpretation.exists_modifier_of_destinationAccounts hnodes
  refine ⟨hsources, hdestinations, Interpretation.exists_modifier_of_entities hnodes, ?_⟩
  rintro a (ha | ha)
  · obtain ⟨-, -, -, -, hkinds⟩ := hsources (List.ne_nil_of_mem ha)
    exact AccountKind.ne_of_mem (.inl (hkinds a ha))
  · obtain ⟨-, -, -, -, hkinds⟩ := hdestinations (List.ne_nil_of_mem ha)
    exact AccountKind.ne_of_mem (.inr (hkinds a ha))

def checkCatalogue : Catalogue where
  accounts :=
    [⟨⟨1, "Savings checking"⟩, .debt⟩, ⟨⟨3, "Checked out"⟩, .cash⟩, ⟨⟨2, "Checking"⟩, .asset⟩,
      ⟨⟨4, "Check"⟩, .revenue⟩]

/-- The accounts that a transaction may come from and whose names hold the text "check". -/
def checkAccounts : List Account :=
  [⟨⟨4, "Check"⟩, .revenue⟩, ⟨⟨2, "Checking"⟩, .asset⟩, ⟨⟨1, "Savings checking"⟩, .debt⟩]

theorem accounts_check : checkCatalogue.resolver.accounts AccountKind.sources "Check"
    (some searchLimit) = .ok checkAccounts :=
  congrArg Except.ok (Catalogue.find_eq_upTo checkAccounts (some searchLimit) (by decide +kernel)
    (by decide +kernel) (by decide +kernel))

theorem accounts_nobody : checkCatalogue.resolver.accounts AccountKind.sources "nobody"
    (some searchLimit) = .ok [] :=
  congrArg Except.ok (Catalogue.find_eq_upTo [] (some searchLimit) (by decide +kernel) .nil
    (by decide +kernel))

/-- The second field finds nothing, so the accounts that the first one has found stand. -/
theorem resolved_from_catalogue_check :
    ∃ i, interpret ⟨.full, checkCatalogue.resolver, .english⟩
        ("from_account_starts:Check" ++ " " ++ "from:nobody") = .ok i ∧
      i.filter.sourceAccounts = [⟨⟨4, "Check"⟩, .revenue⟩, ⟨⟨2, "Checking"⟩, .asset⟩] ∧
      ∃ m ∈ i.modifiers, m.operator.slot? = some .sourceAccounts ∧
        FoundIn Account.toEntity checkCatalogue.accounts (some 25) m.operator m.value
          i.filter.sourceAccounts ∧
        ∀ a ∈ i.filter.sourceAccounts, a.kind ∈ [.asset, .mortgage, .loan, .debt, .revenue] := by
  have hfirst : Interpretation.contribution? .full .english checkCatalogue.resolver
      (.field "from_account_starts" "Check") =
        .ok (some (.sourceAccounts [⟨⟨4, "Check"⟩, .revenue⟩, ⟨⟨2, "Checking"⟩, .asset⟩])) := by
    change Interpretation.change? .english checkCatalogue.resolver .fromAccountStarts "Check" = _
    simp only [Interpretation.change?_eq, Operator.effect, accounts_check]
    rfl
  have hsecond : Interpretation.contribution? .full .english checkCatalogue.resolver
      (.field "from" "nobody") = .ok none := by
    change Interpretation.change? .english checkCatalogue.resolver .fromAccount "nobody" = _
    simp only [Interpretation.change?_eq, Operator.effect, accounts_nobody]
    rfl
  have hparse : Query.parse ("from_account_starts:Check" ++ " " ++ "from:nobody") =
      .ok [.field "from_account_starts" "Check", .field "from" "nobody"] := by
    have hstarts : Query.lexeme "from_account_starts:Check".toList =
        .ok (some (.field "from_account_starts" "Check"), []) := rfl
    have hfrom : Query.lexeme "from:nobody".toList =
        .ok (some (.field "from" "nobody"), []) := rfl
    exact Query.parse_append_space
      (Query.parse_of_nodes (Query.nodes_of_lexeme rfl (by decide) hstarts Query.nodes_nil))
      (Query.parse_of_nodes (Query.nodes_of_lexeme rfl (by decide) hfrom Query.nodes_nil))
  have hi : interpret ⟨.full, checkCatalogue.resolver, .english⟩
      ("from_account_starts:Check" ++ " " ++ "from:nobody") =
        .ok ⟨[], [⟨.fromAccountStarts, "Check"⟩, ⟨.fromAccount, "nobody"⟩],
        { sourceAccounts := [⟨⟨4, "Check"⟩, .revenue⟩, ⟨⟨2, "Checking"⟩, .asset⟩] }⟩ := by
    rw [interpret_of_parse hparse]
    simp only [Interpretation.ofNodes_eq, Interpretation.drafted_cons, hfirst, hsecond]
    rfl
  exact ⟨_, hi, rfl,
    (resolved_from_catalogue .full checkCatalogue .english _ hi).1 (List.cons_ne_nil _ _)⟩

end Search

end LedgerSearch
