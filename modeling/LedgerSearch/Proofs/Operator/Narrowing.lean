import LedgerSearch.Proofs.Distinct
import LedgerSearch.Proofs.Operator.Restriction

/-!
# Chains of narrowings

A registry that was narrowed again and again is a part of the one that the chain
began with, and all ways to look at it tell the same. Of the chain only its last
narrowing counts: a narrowing to names among those of an earlier one takes away
what the earlier one took away as well.

* `names_of_restrict`, `restrict_eq_error`: what a narrowing gives, and the names
  that it is refused for.
* `PartOf.restrict`, `partOf_of_chain`: one narrowing keeps to a part, hence a chain
  does.
* `restrict_of_restrict`, `restrict_of_chain`: the last narrowing decides.
-/

namespace LedgerSearch.Registry

variable {r r₁ r₂ narrowed whole : Registry} {names a b : List String}

/-! ## One narrowing -/

/-- Registries with the same names in the same order are the same. -/
theorem eq_of_names_eq (h : r₁.names = r₂.names) : r₁ = r₂ := by
  have hinjective : Function.Injective Operator.name := fun _ _ => Operator.name_injective
  cases r₁
  cases r₂
  cases List.map_injective_iff.mpr hinjective h
  rfl

theorem exists_get?_of_mem {name : String} (h : name ∈ r.names) :
    ∃ op, r.get? name = some op ∧ op.name = name := by
  obtain ⟨op, hop, rfl⟩ := List.mem_map.mp h
  exact ⟨op, get?_name hop, rfl⟩

theorem map_name_filterMap_get? (h : ∀ name ∈ names, name ∈ r.names) :
    (names.filterMap r.get?).map (·.name) = names := by
  induction names with
  | nil => rfl
  | cons name names ih =>
    obtain ⟨hname, hnames⟩ := List.forall_mem_cons.mp h
    obtain ⟨op, hop, rfl⟩ := exists_get?_of_mem hname
    rw [List.filterMap_cons_some hop, List.map_cons, ih hnames]

/-- A narrowed registry has the given names, each at its first place. -/
theorem names_of_restrict (h : r.restrict names = .ok narrowed) :
    narrowed.names = firstOccurrences id names := by
  have hinjective : Function.Injective Operator.name := fun _ _ => Operator.name_injective
  obtain ⟨hnames, hoperators⟩ := restrict_eq_ok_iff.mp h
  rw [Registry.names, hoperators, map_distinct hinjective, map_name_filterMap_get? hnames,
    distinctBy_eq_firstOccurrences]

theorem mem_names_of_restrict (h : r.restrict names = .ok narrowed) {name : String} :
    name ∈ narrowed.names ↔ name ∈ names := by
  rw [names_of_restrict h, ← distinctBy_eq_firstOccurrences, mem_distinct]

/-- A narrowing is refused for the names that are not registered, each at its first place. -/
theorem restrict_eq_error (h : ∃ name ∈ names, name ∉ r.names) :
    r.restrict names =
      .error (.unknownOperators (firstOccurrences id (names.filter (· ∉ r.names)))) := by
  have hunknown : (distinctBy id names).filter (!r.contains ·) =
      firstOccurrences id (names.filter (· ∉ r.names)) := by
    rw [filter_distinct, distinctBy_eq_firstOccurrences]
    refine congrArg _ (List.filter_congr fun name _ => ?_)
    rw [Bool.eq_iff_iff]
    simp [← contains_iff]
  rw [restrict, hunknown]
  split
  · rename_i hnone
    obtain ⟨name, hname, hout⟩ := h
    have hmem : name ∈ distinctBy id (names.filter (· ∉ r.names)) :=
      mem_distinct.mpr (List.mem_filter.mpr ⟨hname, decide_eq_true hout⟩)
    rw [distinctBy_eq_firstOccurrences, hnone] at hmem
    cases hmem
  · rfl

/-! ## Two narrowings -/

/-- After two narrowings the second one has decided. -/
theorem restrict_of_restrict (ha : r.restrict a = .ok r₁) (hb : r₁.restrict b = .ok r₂) :
    r.restrict b = .ok r₂ := by
  have hregistered : ∀ name ∈ b, name ∈ r.names := fun name hname =>
    (restrict_eq_ok_iff.mp ha).1 name
      ((mem_names_of_restrict ha).mp ((restrict_eq_ok_iff.mp hb).1 name hname))
  obtain ⟨direct, hdirect⟩ := exists_restrict_iff.mpr hregistered
  have hsame : direct = r₂ :=
    eq_of_names_eq ((names_of_restrict hdirect).trans (names_of_restrict hb).symm)
  rw [hdirect, hsame]

theorem exists_restrict_restrict_iff :
    (∃ narrowed, (r.restrict a).bind (·.restrict b) = .ok narrowed) ↔
      (∃ narrowed, r.restrict a = .ok narrowed) ∧ ∀ name ∈ b, name ∈ a := by
  cases ha : r.restrict a with
  | error e => simp [Except.bind]
  | ok r₁ =>
    rw [Except.bind, exists_restrict_iff]
    simp [mem_names_of_restrict ha]

/-! ## Chains -/

/-- All ways to look at a registry tell the same, and what is found in it is found in a whole. -/
structure PartOf (whole r : Registry) : Prop where
  names_nodup : r.names.Nodup
  names_subset : ∀ name ∈ r.names, name ∈ whole.names
  get?_eq : ∀ name, r.get? name = if name ∈ r.names then whole.get? name else none
  contains_eq : ∀ name, r.contains name = decide (name ∈ r.names)
  size_eq : r.size = r.names.length
  operators_eq : r.operators.map some = r.names.map r.get?

theorem contains_eq (r : Registry) (name : String) : r.contains name = decide (name ∈ r.names) :=
  Bool.eq_iff_iff.mpr (contains_iff.trans decide_eq_true_iff.symm)

/-- A registry lists what is found under its names, in their order. -/
theorem map_some_operators (r : Registry) : r.operators.map some = r.names.map r.get? := by
  rw [names, List.map_map]
  exact List.map_congr_left fun op hop => (get?_name hop).symm

theorem partOf_self (r : Registry) : r.PartOf r where
  names_nodup := r.names_nodup
  names_subset := fun _ hname => hname
  get?_eq := by
    intro name
    split
    · rfl
    · rename_i hname
      exact get?_eq_none_iff.mpr hname
  contains_eq := r.contains_eq
  size_eq := (List.length_map _).symm
  operators_eq := r.map_some_operators

/-- One narrowing keeps to a part of the whole. -/
theorem PartOf.restrict (hr : whole.PartOf r) (h : r.restrict names = .ok narrowed) :
    whole.PartOf narrowed where
  names_nodup := narrowed.names_nodup
  names_subset := fun name hname =>
    hr.names_subset name ((restrict_eq_ok_iff.mp h).1 name ((mem_names_of_restrict h).mp hname))
  get?_eq := by
    intro name
    rw [get?_restrict h, if_congr (mem_names_of_restrict h) rfl rfl]
    split
    · rename_i hname
      rw [hr.get?_eq, if_pos ((restrict_eq_ok_iff.mp h).1 name hname)]
    · rfl
  contains_eq := narrowed.contains_eq
  size_eq := (List.length_map _).symm
  operators_eq := narrowed.map_some_operators

theorem foldlM_restrict_cons {chain : List (List String)} :
    (names :: chain).foldlM restrict r = .ok narrowed ↔
      ∃ first, r.restrict names = .ok first ∧ chain.foldlM restrict first = .ok narrowed := by
  rw [List.foldlM_cons]
  cases r.restrict names with
  | error e => simp [bind, Except.bind]
  | ok first => simp [bind, Except.bind]

/-- A chain of narrowings keeps to a part of the whole. -/
theorem partOf_of_chain {chain : List (List String)} (hr : whole.PartOf r)
    (h : chain.foldlM restrict r = .ok narrowed) : whole.PartOf narrowed := by
  induction chain generalizing r with
  | nil =>
    cases h
    exact hr
  | cons names chain ih =>
    obtain ⟨first, hfirst, hrest⟩ := foldlM_restrict_cons.mp h
    exact ih (hr.restrict hfirst) hrest

/-- A chain leads where its last narrowing leads on its own. -/
theorem restrict_of_chain {chain : List (List String)}
    (h : (chain ++ [names]).foldlM restrict r = .ok narrowed) :
    r.restrict names = .ok narrowed := by
  induction chain generalizing r with
  | nil =>
    obtain ⟨first, hfirst, hrest⟩ := foldlM_restrict_cons.mp h
    cases hrest
    exact hfirst
  | cons earlier chain ih =>
    obtain ⟨first, hfirst, hrest⟩ := foldlM_restrict_cons.mp h
    exact restrict_of_restrict hfirst (ih hrest)

/-- A registry that any chain of narrowings leads to shows some names, each once, and under each the
operator that stands there in the registry of all operators; whether a name is registered, how many
are and their order tell the same. It is narrowed to all lists of its own names, and refuses every
other list with the names that are not its own. A narrowing after a narrowing counts alone, as the
last one of the chain did. -/
theorem chain_narrows {chain : List (List String)} {r : Registry}
    (h : chain.foldlM restrict full = .ok r) :
    full.PartOf r ∧
    (∀ before last, chain = before ++ [last] → full.restrict last = .ok r) ∧
    (∀ names, (∀ name ∈ names, name ∈ r.names) →
      ∃ narrowed, r.restrict names = .ok narrowed ∧ narrowed.names = firstOccurrences id names) ∧
    (∀ names, (∃ name ∈ names, name ∉ r.names) →
      ∃ e, r.restrict names = .error e ∧
        e = .unknownOperators (firstOccurrences id (names.filter (· ∉ r.names))) ∧
        e.message = "unknown search operator(s): " ++
          ", ".intercalate (firstOccurrences id (names.filter (· ∉ r.names)))) ∧
    ∀ a b,
      ((∃ narrowed, (r.restrict a).bind (·.restrict b) = .ok narrowed) ↔
        (∃ narrowed, r.restrict a = .ok narrowed) ∧ ∀ name ∈ b, name ∈ a) ∧
      ∀ narrowed, (r.restrict a).bind (·.restrict b) = .ok narrowed →
        r.restrict b = .ok narrowed := by
  refine ⟨partOf_of_chain full.partOf_self h, ?_, ?_, ?_, fun a b => ⟨?_, ?_⟩⟩
  · rintro before last rfl
    exact restrict_of_chain h
  · intro names hnames
    obtain ⟨narrowed, hnarrowed⟩ := exists_restrict_iff.mpr hnames
    exact ⟨narrowed, hnarrowed, names_of_restrict hnarrowed⟩
  · intro names hnames
    exact ⟨_, restrict_eq_error hnames, rfl, rfl⟩
  · exact exists_restrict_restrict_iff
  · intro narrowed hboth
    cases ha : r.restrict a with
    | error e =>
      rw [ha] at hboth
      cases hboth
    | ok first =>
      rw [ha] at hboth
      exact restrict_of_restrict ha hboth

/-- A registry of two operators, the second one of the full registry's first. -/
def tagAndAmount : Registry :=
  ⟨[.tag, .amount], by decide⟩

/-- Names that were taken away, and names that never were registered, are refused alike. -/
theorem chain_narrows_tagAndAmount :
    [["amount", "tag", "from", "amount"], ["tag", "amount", "tag"]].foldlM restrict full =
        .ok tagAndAmount ∧
      full.restrict ["tag", "amount", "tag"] = .ok tagAndAmount ∧
      tagAndAmount.get? "amount" = some .amount ∧ tagAndAmount.get? "from" = none ∧
      (∃ narrowed, tagAndAmount.restrict ["amount", "amount"] = .ok narrowed ∧
        narrowed.names = ["amount"]) ∧
      ∃ e, tagAndAmount.restrict ["bogus", "tag", "from", "bogus"] = .error e ∧
        e.message = "unknown search operator(s): bogus, from" := by
  have hchain : [["amount", "tag", "from", "amount"], ["tag", "amount", "tag"]].foldlM restrict
      full = .ok tagAndAmount := rfl
  obtain ⟨hpart, hlast, hkept, hrefused, -⟩ := chain_narrows hchain
  refine ⟨hchain, hlast [_] _ rfl, ?_, ?_, ?_, ?_⟩
  · rw [hpart.get?_eq, if_pos (by decide)]
    rfl
  · rw [hpart.get?_eq, if_neg (by decide)]
  · exact hkept _ (by decide)
  · obtain ⟨e, he, -, hmessage⟩ := hrefused ["bogus", "tag", "from", "bogus"] ⟨"bogus", by decide⟩
    exact ⟨e, he, hmessage⟩

end LedgerSearch.Registry
