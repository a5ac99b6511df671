import LedgerSearch.Proofs.Interpretation.Origin
import LedgerSearch.Proofs.Operator.Restriction

/-!
# A narrowed registry only takes operators away

A run with a narrowed registry goes as the run with the whole one, up to the first
field whose name is left out, and there it ends. If the whole run has failed
before, both fail alike; if not, the narrowed run fails with that name, and has
made the lookups of the nodes before it.

* `ofNodes_congr_registry`: a run depends on the registry only through the names that
  its nodes use.
* `fails_restrict_iff`: a node that keeps to the names fails as before.
* `FailsFirst.append`: what follows the first node that fails does not matter.
-/

namespace LedgerSearch

/-- The node uses no name of an operator but these. -/
def Query.Node.KeepsTo (names : List String) : Query.Node → Prop
  | .field name _ => name ∈ names
  | _ => True

/-- The field that comes after the first nodes of the list has a name that is left out, and those
keep to the names. -/
structure Query.LeavesFirst (names : List String) (nodes before : List Query.Node)
    (name value : String) : Prop where
  split : ∃ after, nodes = before ++ .field name value :: after
  before : ∀ node ∈ before, node.KeepsTo names
  leaves : name ∉ names

/-- Either all nodes keep to the names, or there is a first one that does not. -/
theorem Query.keepsTo_or_leavesFirst (names : List String) (nodes : List Query.Node) :
    (∀ node ∈ nodes, node.KeepsTo names) ∨
      ∃ before name value, LeavesFirst names nodes before name value := by
  induction nodes with
  | nil => exact .inl (List.forall_mem_nil _)
  | cons node nodes ih =>
    by_cases hnode : node.KeepsTo names
    · rcases ih with hnodes | ⟨before, name, value, ⟨after, rfl⟩, hbefore, hleaves⟩
      · exact .inl (List.forall_mem_cons.mpr ⟨hnode, hnodes⟩)
      · exact .inr ⟨node :: before, name, value, ⟨after, rfl⟩,
          List.forall_mem_cons.mpr ⟨hnode, hbefore⟩, hleaves⟩
    · cases node with
      | field name value =>
        exact .inr ⟨[], name, value, ⟨nodes, rfl⟩, List.forall_mem_nil _, hnode⟩
      | _ => exact absurd trivial hnode

namespace Interpretation

/-! ## Registries that agree -/

section

variable {r s : Registry} {dates : Calendar.DateReader} {resolver : Resolver}

/-- The registries know the same of the name that a node uses. -/
def Agree (r s : Registry) : Query.Node → Prop
  | .field name _ => s.get? name = r.get? name
  | _ => True

theorem Agree.contribution {node : Query.Node} (h : Agree r s node) :
    contribution s dates resolver node = contribution r dates resolver node := by
  cases node with
  | field name value =>
    have hname : s.get? name = r.get? name := h
    simp only [Interpretation.contribution, hname]
  | _ => rfl

theorem Agree.contribution? {node : Query.Node} (h : Agree r s node) :
    contribution? s dates resolver node = contribution? r dates resolver node :=
  congrArg Traced.outcome h.contribution

theorem Agree.asked? {node : Query.Node} (h : Agree r s node) : s.asked? node = r.asked? node := by
  cases node with
  | field name value =>
    have hname : s.get? name = r.get? name := h
    simp only [Registry.asked?, hname]
  | _ => rfl

theorem Agree.modifiersOf {node : Query.Node} (h : Agree r s node) :
    modifiersOf s node = modifiersOf r node := by
  cases node with
  | field name value =>
    have hname : s.get? name = r.get? name := h
    simp only [Interpretation.modifiersOf, hname]
  | _ => rfl

theorem collect_congr_registry {nodes : List Query.Node} (h : ∀ node ∈ nodes, Agree r s node)
    (draft : Draft) :
    collect s dates resolver draft nodes = collect r dates resolver draft nodes := by
  induction nodes generalizing draft with
  | nil => rfl
  | cons node nodes ih =>
    obtain ⟨hnode, hnodes⟩ := List.forall_mem_cons.mp h
    simp only [collect, hnode.contribution, ih hnodes]

/-- Registries that know the same of the names that are used give the same run. -/
theorem ofNodes_congr_registry {nodes : List Query.Node} (h : ∀ node ∈ nodes, Agree r s node) :
    ofNodes s dates resolver nodes = ofNodes r dates resolver nodes ∧
      lookups s dates resolver nodes = lookups r dates resolver nodes := by
  have hmodifiers : nodes.flatMap (modifiersOf s) = nodes.flatMap (modifiersOf r) :=
    List.flatMap_congr fun node hnode => (h node hnode).modifiersOf
  have hprocess : process s dates resolver nodes = process r dates resolver nodes := by
    simp only [process, collect_congr_registry h, hmodifiers]
  exact ⟨congrArg Traced.outcome hprocess, congrArg Traced.lookups hprocess⟩

end

/-! ## Narrowed registries -/

variable {registry narrowed : Registry} {dates : Calendar.DateReader} {resolver : Resolver}
  {names : List String}

theorem agree_of_keepsTo (h : registry.restrict names = .ok narrowed) {node : Query.Node}
    (hnode : node.KeepsTo names) : Agree registry narrowed node := by
  cases node with
  | field name value => exact (Registry.get?_restrict h name).trans (if_pos hnode)
  | _ => trivial

theorem fails_restrict_iff (h : registry.restrict names = .ok narrowed) {node : Query.Node}
    (hnode : node.KeepsTo names) {e : Failure} :
    Fails narrowed dates resolver node e ↔ Fails registry dates resolver node e := by
  rw [← contribution?_eq_error_iff, ← contribution?_eq_error_iff,
    (agree_of_keepsTo h hnode).contribution?]

theorem noneFail_restrict_iff (h : registry.restrict names = .ok narrowed)
    {nodes : List Query.Node} (hnodes : ∀ node ∈ nodes, node.KeepsTo names) :
    NoneFail narrowed dates resolver nodes ↔ NoneFail registry dates resolver nodes :=
  forall₂_congr fun node hnode => forall_congr' fun _ =>
    not_congr (fails_restrict_iff h (hnodes node hnode))

theorem filterMap_asked?_restrict (h : registry.restrict names = .ok narrowed)
    {nodes : List Query.Node} (hnodes : ∀ node ∈ nodes, node.KeepsTo names) :
    nodes.filterMap narrowed.asked? = nodes.filterMap registry.asked? :=
  List.filterMap_congr fun node hnode => (agree_of_keepsTo h (hnodes node hnode)).asked?

/-- A field whose name is left out is unknown to the narrowed registry. -/
theorem fails_of_not_mem (h : registry.restrict names = .ok narrowed) {name : String}
    (hname : name ∉ names) (value : String) :
    Fails narrowed dates resolver (.field name value) (.query (.unknownOperator name)) := by
  refine .unknown value ?_
  rw [← Registry.get?_eq_none_iff, Registry.get?_restrict h, if_neg hname]

/-! ## The first failure -/

theorem FailsFirst.append {nodes before : List Query.Node} {node : Query.Node} {e : Failure}
    (h : FailsFirst registry dates resolver nodes before node e) (more : List Query.Node) :
    FailsFirst registry dates resolver (nodes ++ more) before node e := by
  obtain ⟨⟨after, rfl⟩, hbefore, hnode⟩ := h
  exact ⟨⟨after ++ more, List.append_assoc ..⟩, hbefore, hnode⟩

/-- Nodes that keep to the names fail first where they did. -/
theorem FailsFirst.restrict (h : registry.restrict names = .ok narrowed)
    {nodes before : List Query.Node} {node : Query.Node} {e : Failure}
    (hnodes : ∀ n ∈ nodes, n.KeepsTo names)
    (hfirst : FailsFirst registry dates resolver nodes before node e) :
    FailsFirst narrowed dates resolver nodes before node e := by
  obtain ⟨⟨after, rfl⟩, hbefore, hnode⟩ := hfirst
  obtain ⟨hkeeps, hrest⟩ := List.forall_mem_append.mp hnodes
  exact ⟨⟨after, rfl⟩, (noneFail_restrict_iff h hkeeps).mpr hbefore,
    (fails_restrict_iff h (List.forall_mem_cons.mp hrest).1).mpr hnode⟩

/-- If a node fails before the first name that is left out, both runs fail there. -/
theorem ofNodes_restrict_of_failsFirst (h : registry.restrict names = .ok narrowed)
    {nodes before earlier : List Query.Node} {name value : String} {node : Query.Node}
    {e : Failure} (hleaves : Query.LeavesFirst names nodes before name value)
    (hfirst : FailsFirst registry dates resolver before earlier node e) :
    ofNodes registry dates resolver nodes = .error e ∧
      ofNodes narrowed dates resolver nodes = .error e ∧
      lookups narrowed dates resolver nodes = lookups registry dates resolver nodes := by
  obtain ⟨⟨after, rfl⟩, hbefore, -⟩ := hleaves
  have hwhole := hfirst.append (.field name value :: after)
  have hpart := (hfirst.restrict h hbefore).append (.field name value :: after)
  refine ⟨ofNodes_eq_error_iff.mpr ⟨_, _, hwhole⟩, ofNodes_eq_error_iff.mpr ⟨_, _, hpart⟩, ?_⟩
  obtain ⟨⟨rest, rfl⟩, -, -⟩ := hfirst
  have hkeeps : ∀ n ∈ earlier ++ [node], n.KeepsTo names := by
    intro n hn
    refine hbefore n ?_
    rw [List.append_cons]
    exact List.mem_append_left rest hn
  rw [lookups_of_failsFirst hpart, lookups_of_failsFirst hwhole, filterMap_asked?_restrict h hkeeps]

/-- If no node fails before the first name that is left out, the narrowed run fails with it. -/
theorem ofNodes_restrict_of_noneFail (h : registry.restrict names = .ok narrowed)
    {nodes before : List Query.Node} {name value : String}
    (hleaves : Query.LeavesFirst names nodes before name value)
    (hnone : NoneFail registry dates resolver before) :
    ofNodes narrowed dates resolver nodes = .error (.query (.unknownOperator name)) ∧
      lookups narrowed dates resolver nodes = before.filterMap registry.asked? := by
  obtain ⟨hsplit, hbefore, hname⟩ := hleaves
  have hfirst : FailsFirst narrowed dates resolver nodes before (.field name value)
      (.query (.unknownOperator name)) :=
    ⟨hsplit, (noneFail_restrict_iff h hbefore).mpr hnone, fails_of_not_mem h hname value⟩
  have hasked : narrowed.asked? (.field name value) = none := by
    rw [Registry.asked?, Registry.get?_restrict h, if_neg hname, Option.bind_none]
  refine ⟨ofNodes_eq_error_iff.mpr ⟨_, _, hfirst⟩, ?_⟩
  rw [lookups_of_failsFirst hfirst, List.filterMap_append, List.filterMap_cons_none hasked,
    List.filterMap_nil, List.append_nil, filterMap_asked?_restrict h hbefore]

theorem name_mem_of_mem_modifiers (h : registry.restrict names = .ok narrowed)
    {nodes : List Query.Node} {i : Interpretation}
    (hi : ofNodes narrowed dates resolver nodes = .ok i) {m : Modifier} (hm : m ∈ i.modifiers) :
    m.operator.name ∈ names := by
  obtain ⟨name, -, hop⟩ := (mem_modifiers_iff hi).mp hm
  obtain ⟨-, rfl⟩ := Registry.mem_operators_of_get? hop
  rw [Registry.get?_restrict h] at hop
  split at hop
  · assumption
  · cases hop

/-- A registry can be narrowed to any of its names. A run that keeps to them is the same under both
registries. Otherwise both fail alike at a node before the first field that does not, or the
narrowed run fails with the name of that field, after the lookups of the nodes before it. So what is
set in a filter under the narrowed registry was set by an operator that it keeps. -/
theorem restriction_only_removes (registry : Registry) {names : List String}
    (hnames : ∀ name ∈ names, name ∈ registry.names) (dates : Calendar.DateReader)
    (resolver : Resolver) (nodes : List Query.Node) :
    ∃ narrowed, registry.restrict names = .ok narrowed ∧
      ((∀ node ∈ nodes, node.KeepsTo names) →
        ofNodes narrowed dates resolver nodes = ofNodes registry dates resolver nodes ∧
          lookups narrowed dates resolver nodes = lookups registry dates resolver nodes) ∧
      ((∀ node ∈ nodes, node.KeepsTo names) ∨
        ∃ before name value, Query.LeavesFirst names nodes before name value) ∧
      (∀ before name value, Query.LeavesFirst names nodes before name value →
        (∀ earlier node e, FailsFirst registry dates resolver before earlier node e →
          ofNodes registry dates resolver nodes = .error e ∧
            ofNodes narrowed dates resolver nodes = .error e ∧
            lookups narrowed dates resolver nodes = lookups registry dates resolver nodes) ∧
        (NoneFail registry dates resolver before →
          ofNodes narrowed dates resolver nodes = .error (.query (.unknownOperator name)) ∧
            lookups narrowed dates resolver nodes = before.filterMap registry.asked?)) ∧
      ∀ i, ofNodes narrowed dates resolver nodes = .ok i →
        (∀ m ∈ i.modifiers, m.operator.name ∈ names) ∧
        ∀ s : Slot, i.filter.content s ≠ Filter.empty.content s →
          ∃ m ∈ i.modifiers, m.operator.slot? = some s ∧
            s.written? dates resolver m.operator m.value = some (i.filter.content s) := by
  obtain ⟨narrowed, h⟩ := Registry.exists_restrict_iff.mpr hnames
  refine ⟨narrowed, h, fun hnodes => ?_, Query.keepsTo_or_leavesFirst names nodes, ?_, ?_⟩
  · exact ofNodes_congr_registry fun node hnode => agree_of_keepsTo h (hnodes node hnode)
  · intro before name value hleaves
    exact ⟨fun earlier node e hfirst => ofNodes_restrict_of_failsFirst h hleaves hfirst,
      ofNodes_restrict_of_noneFail h hleaves⟩
  · intro i hi
    exact ⟨fun m hm => name_mem_of_mem_modifiers h hi hm,
      fun s hset => exists_modifier_of_content hi hset⟩

/-- Without the operators of tags, a query for a tag fails with that name after the lookup before
it; the empty list of names takes all operators away. -/
theorem restriction_only_removes_rent :
    (∃ narrowed, Registry.full.restrict ["from", "amount_max", "from"] = .ok narrowed ∧
      ofNodes narrowed .english accountsOnlyResolver rentNodes =
        .error (.query (.unknownOperator "tag")) ∧
      lookups narrowed .english accountsOnlyResolver rentNodes =
        [⟨.accounts [.asset, .mortgage, .loan, .debt, .revenue], "bank", some 25⟩]) ∧
    ∃ none, Registry.full.restrict [] = .ok none ∧
      ofNodes none .english accountsOnlyResolver rentNodes =
        .error (.query (.unknownOperator "from")) ∧
      lookups none .english accountsOnlyResolver rentNodes = [] := by
  have hbefore : ∀ n ≤ 3, NoneFail .full .english accountsOnlyResolver (rentNodes.take n) := by
    intro n hn
    have hthree : NoneFail .full .english accountsOnlyResolver (rentNodes.take 3) :=
      exists_ofNodes_iff.mp ⟨_, rfl⟩
    exact fun node hnode => hthree node ((List.take_sublist_take_left hn).subset hnode)
  have htag : Query.LeavesFirst ["from", "amount_max", "from"] rentNodes (rentNodes.take 3) "tag"
      "flat" := by
    refine ⟨⟨rentNodes.drop 4, rfl⟩, ?_, by decide⟩
    simp [rentNodes, Query.Node.KeepsTo]
  have hfrom : Query.LeavesFirst [] rentNodes (rentNodes.take 1) "from" "bank" := by
    refine ⟨⟨rentNodes.drop 2, rfl⟩, ?_, by decide⟩
    simp [rentNodes, Query.Node.KeepsTo]
  have hnames : ∀ name ∈ ["from", "amount_max", "from"], name ∈ Registry.full.names := by decide
  have hno : ∀ name ∈ ([] : List String), name ∈ Registry.full.names := by decide
  obtain ⟨narrowed, hnarrowed, -, -, hfails, -⟩ :=
    restriction_only_removes .full hnames .english accountsOnlyResolver rentNodes
  obtain ⟨none, hnone, -, -, hempty, -⟩ :=
    restriction_only_removes .full hno .english accountsOnlyResolver rentNodes
  exact ⟨⟨narrowed, hnarrowed, (hfails _ _ _ htag).2 (hbefore 3 (by decide))⟩,
    ⟨none, hnone, (hempty _ _ _ hfrom).2 (hbefore 1 (by decide))⟩⟩

end Interpretation

end LedgerSearch
