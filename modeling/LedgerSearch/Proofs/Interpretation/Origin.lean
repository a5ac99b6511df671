import LedgerSearch.Proofs.Interpretation.Joined

/-!
# Where constraints come from

A slot of a filter is set only by an operator of that slot, and every operator
that was applied has left its modifier, with the value it was applied to. So each
constraint of an interpretation goes back to one of its modifiers. It need not be
the last one of the slot, since a lookup that finds nothing writes nothing.

* `exists_modifier_of_content`: the modifier that set a slot.
-/

namespace LedgerSearch.Interpretation

variable {registry : Registry} {dates : Calendar.DateReader} {resolver : Resolver}

theorem modifiers_of_ofNodes {nodes : List Query.Node} {i : Interpretation}
    (h : ofNodes registry dates resolver nodes = .ok i) :
    i.modifiers = nodes.flatMap (modifiersOf registry) := by
  rw [ofNodes_eq] at h
  split at h
  · cases h
  · split at h
    · cases h
      rfl
    · cases h

theorem mem_modifiers_iff {nodes : List Query.Node} {i : Interpretation} {m : Modifier}
    (h : ofNodes registry dates resolver nodes = .ok i) :
    m ∈ i.modifiers ↔
      ∃ name, .field name m.value ∈ nodes ∧ registry.get? name = some m.operator := by
  rw [modifiers_of_ofNodes h, List.mem_flatMap]
  constructor
  · rintro ⟨node, hnode, hm⟩
    cases node with
    | field name value =>
      obtain ⟨op, hop, rfl⟩ := Option.map_eq_some_iff.mp (Option.mem_toList.mp hm)
      exact ⟨name, hnode, hop⟩
    | _ => cases hm
  · rintro ⟨name, hnode, hop⟩
    exact ⟨_, hnode, Option.mem_toList.mpr (Option.map_eq_some_iff.mpr ⟨_, hop, rfl⟩)⟩

/-- A slot that is set holds what one of the modifiers, of an operator of that slot, has written. -/
theorem exists_modifier_of_content {nodes : List Query.Node} {i : Interpretation} {s : Slot}
    (h : ofNodes registry dates resolver nodes = .ok i)
    (hset : i.filter.content s ≠ Filter.empty.content s) :
    ∃ m ∈ i.modifiers, m.operator.slot? = some s ∧
      s.written? dates resolver m.operator m.value = some (i.filter.content s) := by
  have hcontent := (content_of_ofNodes h).2 s
  cases hlast : (nodes.filterMap (s.writtenBy? registry dates resolver)).getLast? with
  | none =>
    rw [hlast] at hcontent
    exact absurd hcontent hset
  | some content =>
    rw [hlast, Option.getD_some] at hcontent
    obtain ⟨node, hnode, hwritten⟩ := List.mem_filterMap.mp (List.mem_of_getLast? hlast)
    cases node with
    | field name value =>
      obtain ⟨op, hop, hwrites⟩ := Option.bind_eq_some_iff.mp hwritten
      split at hwrites
      · rename_i hslot
        refine ⟨⟨op, value⟩, (mem_modifiers_iff h).mpr ⟨name, hnode, hop⟩, hslot, ?_⟩
        rw [hwrites, hcontent]
      · cases hwrites
    | _ => cases hwritten

end LedgerSearch.Interpretation
