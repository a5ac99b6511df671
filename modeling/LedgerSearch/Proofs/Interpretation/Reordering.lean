import LedgerSearch.Proofs.Interpretation.Origin

/-!
# Queries in another order

The nodes of a query may change places as long as the words and phrases keep their
order and the fields that write to one slot keep theirs. A node does not fail
because of its neighbours, so a reordered query has an interpretation if the query
has one. Each slot then holds the same last write, so the filters are the same.

* `Filter.eq_of_content`: a filter is known from its words and its slots.
* `Reordered`: what may change places.
* `Reordered.last`, `Reordered.words`: what a reordered query leaves in a slot, and its words.
-/

namespace LedgerSearch

/-- A filter is known from its words and its slots. -/
theorem Filter.eq_of_content {f g : Filter} (hwords : f.words = g.words)
    (hcontent : ∀ s, f.content s = g.content s) : f = g := by
  cases f
  cases g
  rw [Filter.mk.injEq]
  exact ⟨hwords, hcontent .sourceAccounts, hcontent .destinationAccounts, hcontent .categories,
    hcontent .budgets, hcontent .tags, hcontent .bills, hcontent .amountEquals,
    hcontent .amountMin, hcontent .amountMax, hcontent .dateRange, hcontent .dateBefore,
    hcontent .dateAfter, hcontent .createdOn, hcontent .updatedOn, hcontent .types,
    hcontent .externalId, hcontent .internalReference⟩

/-- Whether a node is a word or a phrase. -/
def Query.Node.isText : Query.Node → Bool
  | .word _ | .phrase _ => true
  | _ => false

/-- Whether a node is a field whose operator writes to the slot. A name that is not registered names
no operator. -/
def Registry.writesTo (registry : Registry) (s : Slot) : Query.Node → Bool
  | .field name _ => (registry.get? name).bind Operator.slot? == some s
  | _ => false

/-- Two lists hold the same nodes. The words and phrases among them are in the same order, and so
are the fields of each slot. -/
structure Reordered (registry : Registry) (nodes other : List Query.Node) : Prop where
  perm : nodes.Perm other
  texts : nodes.filter (·.isText) = other.filter (·.isText)
  fields : ∀ s, nodes.filter (registry.writesTo s) = other.filter (registry.writesTo s)

namespace Interpretation

variable {registry : Registry} {dates : Calendar.DateReader} {resolver : Resolver}

/-! ## What a node adds -/

theorem wordsOf_eq_nil {node : Query.Node} (h : node.isText = false) : wordsOf node = [] := by
  cases node with
  | word text => cases h
  | phrase text => cases h
  | field name value => rfl
  | foreign kind => rfl

/-- Only words and phrases have words. -/
theorem flatMap_wordsOf_filter (nodes : List Query.Node) :
    (nodes.filter (·.isText)).flatMap wordsOf = nodes.flatMap wordsOf := by
  induction nodes with
  | nil => rfl
  | cons node nodes ih =>
    cases hnode : node.isText with
    | true => rw [List.filter_cons_of_pos hnode, List.flatMap_cons, List.flatMap_cons, ih]
    | false =>
      rw [List.filter_cons_of_neg (by simp [hnode]), List.flatMap_cons, wordsOf_eq_nil hnode, ih]
      rfl

theorem writtenBy?_eq_none {s : Slot} {node : Query.Node} (h : registry.writesTo s node = false) :
    s.writtenBy? registry dates resolver node = none := by
  cases node with
  | field name value =>
    simp only [Slot.writtenBy?]
    cases hop : registry.get? name with
    | none => rfl
    | some op =>
      rw [Option.bind_some]
      apply if_neg
      simpa [Registry.writesTo, hop] using h
  | word text => rfl
  | phrase text => rfl
  | foreign kind => rfl

/-- Only the fields of a slot write there. -/
theorem filterMap_writtenBy?_filter (s : Slot) (nodes : List Query.Node) :
    (nodes.filter (registry.writesTo s)).filterMap (s.writtenBy? registry dates resolver) =
      nodes.filterMap (s.writtenBy? registry dates resolver) := by
  induction nodes with
  | nil => rfl
  | cons node nodes ih =>
    cases hnode : registry.writesTo s node with
    | true => rw [List.filter_cons_of_pos hnode, List.filterMap_cons, List.filterMap_cons, ih]
    | false =>
      rw [List.filter_cons_of_neg (by simp [hnode]), ih,
        List.filterMap_cons_none (writtenBy?_eq_none hnode)]

theorem words_of_ofNodes {nodes : List Query.Node} {i : Interpretation}
    (h : ofNodes registry dates resolver nodes = .ok i) : i.words = nodes.flatMap wordsOf := by
  rw [ofNodes_eq] at h
  split at h
  · cases h
  · split at h
    · cases h
      rfl
    · cases h

/-! ## Both orders -/

theorem noneFail_perm {nodes other : List Query.Node} (h : nodes.Perm other) :
    NoneFail registry dates resolver nodes ↔ NoneFail registry dates resolver other :=
  forall_congr' fun _ => by rw [h.mem_iff]

end Interpretation

open Interpretation

namespace Reordered

variable {registry : Registry} {dates : Calendar.DateReader} {resolver : Resolver}
  {nodes other : List Query.Node}

theorem words (h : Reordered registry nodes other) :
    nodes.flatMap wordsOf = other.flatMap wordsOf := by
  rw [← flatMap_wordsOf_filter nodes, h.texts, flatMap_wordsOf_filter]

theorem writes (h : Reordered registry nodes other) (s : Slot) :
    nodes.filterMap (s.writtenBy? registry dates resolver) =
      other.filterMap (s.writtenBy? registry dates resolver) := by
  rw [← filterMap_writtenBy?_filter s nodes, h.fields, filterMap_writtenBy?_filter]

theorem filter_eq (h : Reordered registry nodes other) {i j : Interpretation}
    (hi : ofNodes registry dates resolver nodes = .ok i)
    (hj : ofNodes registry dates resolver other = .ok j) :
    i.filter = j.filter := by
  obtain ⟨hwordsi, hcontenti⟩ := content_of_ofNodes hi
  obtain ⟨hwordsj, hcontentj⟩ := content_of_ofNodes hj
  apply Filter.eq_of_content
  · rw [hwordsi, h.words, hwordsj]
  · intro s
    rw [hcontenti, h.writes s, hcontentj]

end Reordered

namespace Interpretation

/-- Order matters only among the words and inside a slot. Of a list of nodes and a reordered one,
either both have an interpretation or none has. If they do, filter and words are the same, and the
modifiers and the lookups made are the same up to their order. -/
theorem order_matters_only_inside_slot (registry : Registry) (dates : Calendar.DateReader)
    (resolver : Resolver) {nodes other : List Query.Node} (h : Reordered registry nodes other) :
    ((∃ i, ofNodes registry dates resolver nodes = .ok i) ↔
      ∃ j, ofNodes registry dates resolver other = .ok j) ∧
    ∀ i j, ofNodes registry dates resolver nodes = .ok i →
      ofNodes registry dates resolver other = .ok j →
      i.filter = j.filter ∧ i.words = j.words ∧ i.modifiers.Perm j.modifiers ∧
        (lookups registry dates resolver nodes).Perm (lookups registry dates resolver other) := by
  have hsucceeds : (∃ i, ofNodes registry dates resolver nodes = .ok i) ↔
      ∃ j, ofNodes registry dates resolver other = .ok j := by
    rw [exists_ofNodes_iff, exists_ofNodes_iff, noneFail_perm h.perm]
  refine ⟨hsucceeds, ?_⟩
  intro i j hi hj
  refine ⟨h.filter_eq hi hj, ?_, ?_, ?_⟩
  · rw [words_of_ofNodes hi, h.words, words_of_ofNodes hj]
  · rw [modifiers_of_ofNodes hi, modifiers_of_ofNodes hj]
    exact h.perm.flatMap_right _
  · rw [lookups_of_noneFail (exists_ofNodes_iff.mp ⟨i, hi⟩),
      lookups_of_noneFail (exists_ofNodes_iff.mp ⟨j, hj⟩)]
    exact h.perm.filterMap _

/-- The nodes of `checkingNodes` with their slots one after the other. -/
def checkingNodesBySlot : List Query.Node :=
  [.field "user_action" "x", .field "amount" "5", .field "amount_is" "-7.50", .word "dinner",
    .field "from" "Check", .phrase "at home", .field "from_account_starts" "Check",
    .field "source" "nobody"]

theorem order_matters_only_inside_slot_checking :
    ∃ i j, ofNodes .full .english checkingResolver checkingNodes = .ok i ∧
      ofNodes .full .english checkingResolver checkingNodesBySlot = .ok j ∧
      i.filter = j.filter ∧ i.words = j.words ∧ i.modifiers.Perm j.modifiers ∧
      (lookups .full .english checkingResolver checkingNodes).Perm
        (lookups .full .english checkingResolver checkingNodesBySlot) ∧
      i.modifiers ≠ j.modifiers := by
  have hreordered : Reordered .full checkingNodes checkingNodesBySlot := by
    refine ⟨by decide, rfl, fun s => ?_⟩
    cases s <;> rfl
  obtain ⟨i, hi⟩ : ∃ i, ofNodes .full .english checkingResolver checkingNodes = .ok i := ⟨_, rfl⟩
  obtain ⟨hsucceeds, hsame⟩ :=
    order_matters_only_inside_slot .full .english checkingResolver hreordered
  obtain ⟨j, hj⟩ := hsucceeds.mp ⟨i, hi⟩
  obtain ⟨hfilter, hwords, hmodifiers, hlookups⟩ := hsame i j hi hj
  refine ⟨i, j, hi, hj, hfilter, hwords, hmodifiers, hlookups, ?_⟩
  rw [modifiers_of_ofNodes hi, modifiers_of_ofNodes hj]
  decide

end Interpretation

end LedgerSearch
