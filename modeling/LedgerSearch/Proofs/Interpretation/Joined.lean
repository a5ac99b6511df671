import LedgerSearch.Proofs.Interpretation.FirstFailure
import LedgerSearch.Proofs.Interpretation.LastWrite

/-!
# Queries one after the other

Nodes do not fail because of their neighbours, and a slot is overwritten only by a
write to it. So when two lists of nodes have an interpretation, both together have
one as well, and where no slot is set by both, its filter has the words of both in
order and in every slot what one of them has there. Two queries that set the same
slot are another matter: the second one wins.

* `Slot.written?_ne_empty`: what is written to a slot always sets it.
* `Filter.Joins`: what the filter of both holds.
* `exists_ofNodes_append`: both together have an interpretation.
* `joins_of_disjoint`: the filter of both.
-/

namespace LedgerSearch

/-! ## What is written sets a slot -/

theorem ne_nil_of_distinctUnlessEmpty {α : Type} {number : α → Int} {l found : List α}
    (h : distinctUnlessEmpty number l = some found) : found ≠ [] := by
  cases l with
  | nil => cases h
  | cons a l =>
    cases h
    exact List.cons_ne_nil _ _

theorem ne_none_of_map_some {α β : Type} {x : Option α} {f : α → β} {y : Option β}
    (h : x.map (fun a => some (f a)) = some y) : y ≠ none := by
  obtain ⟨a, -, rfl⟩ := Option.map_eq_some_iff.mp h
  exact Option.some_ne_none (f a)

/-- What is written to a slot is never what the slot holds in the empty filter. -/
theorem Slot.written?_ne_empty {dates : Calendar.DateReader} {resolver : Resolver} {op : Operator}
    {value : String} {s : Slot} {content : s.Content}
    (h : s.written? dates resolver op value = some content) :
    content ≠ Filter.empty.content s := by
  cases s with
  | sourceAccounts | destinationAccounts | categories | budgets | tags | bills =>
    exact ne_nil_of_distinctUnlessEmpty h
  | amountEquals | amountMin | amountMax | dateRange | dateBefore | dateAfter | createdOn
  | updatedOn => exact ne_none_of_map_some h
  | types =>
    cases h
    exact List.cons_ne_nil _ _
  | externalId | internalReference =>
    cases h
    exact Option.some_ne_none value

theorem Slot.writtenBy?_ne_empty {registry : Registry} {dates : Calendar.DateReader}
    {resolver : Resolver} {s : Slot} {node : Query.Node} {content : s.Content}
    (h : s.writtenBy? registry dates resolver node = some content) :
    content ≠ Filter.empty.content s := by
  cases node with
  | field name value =>
    obtain ⟨op, -, hwritten⟩ := Option.bind_eq_some_iff.mp h
    split at hwritten
    · exact written?_ne_empty hwritten
    · cases hwritten
  | _ => cases h

/-! ## Filters of joined queries -/

/-- No slot is set by both filters. -/
def Filter.Disjoint (f g : Filter) : Prop :=
  ∀ s, f.content s = Filter.empty.content s ∨ g.content s = Filter.empty.content s

/-- The filter `both` has the words of two filters, one after the other, and in every slot what one
of them has there, where the other one has nothing. -/
structure Filter.Joins (f g both : Filter) : Prop where
  words : both.words = f.words ++ g.words
  content : ∀ s, (both.content s = f.content s ∧ g.content s = Filter.empty.content s) ∨
    (both.content s = g.content s ∧ f.content s = Filter.empty.content s)

namespace Interpretation

variable {registry : Registry} {dates : Calendar.DateReader} {resolver : Resolver}

/-- The slots and the words of an interpretation, from the nodes. -/
theorem content_of_ofNodes {nodes : List Query.Node} {i : Interpretation}
    (h : ofNodes registry dates resolver nodes = .ok i) :
    i.filter.words = nodes.flatMap wordsOf ∧
      ∀ s : Slot, i.filter.content s =
        (nodes.filterMap (s.writtenBy? registry dates resolver)).getLast?.getD
          (Filter.empty.content s) := by
  rw [ofNodes_eq] at h
  split at h
  · cases h
  · rename_i draft hdraft
    split at h
    · rename_i filter hfilter
      cases h
      obtain ⟨hwords, hcontent⟩ := Draft.content_of_toFilter hfilter
      have hempty : ∀ s, Draft.empty.content s = Filter.empty.content s :=
        fun s => ((Draft.content_of_toFilter Draft.toFilter_empty).2 s).symm
      refine ⟨?_, fun s => ?_⟩
      · exact hwords.trans (words_of_drafted hdraft)
      · rw [hcontent, content_of_drafted hdraft, hempty]
    · cases h

/-- Nodes that have an interpretation have one behind others that do. -/
theorem exists_ofNodes_append {ns ms : List Query.Node}
    (hns : ∃ i, ofNodes registry dates resolver ns = .ok i)
    (hms : ∃ j, ofNodes registry dates resolver ms = .ok j) :
    ∃ k, ofNodes registry dates resolver (ns ++ ms) = .ok k := by
  rw [exists_ofNodes_iff] at hns hms ⊢
  exact List.forall_mem_append.mpr ⟨hns, hms⟩

/-- Where no slot is set by both of two lists of nodes, each slot of both together is as one of them
leaves it. -/
theorem joins_of_disjoint {ns ms : List Query.Node} {i j k : Interpretation}
    (hi : ofNodes registry dates resolver ns = .ok i)
    (hj : ofNodes registry dates resolver ms = .ok j)
    (hk : ofNodes registry dates resolver (ns ++ ms) = .ok k) (h : i.filter.Disjoint j.filter) :
    i.filter.Joins j.filter k.filter := by
  obtain ⟨hwordsi, hcontenti⟩ := content_of_ofNodes hi
  obtain ⟨hwordsj, hcontentj⟩ := content_of_ofNodes hj
  obtain ⟨hwordsk, hcontentk⟩ := content_of_ofNodes hk
  constructor
  · rw [hwordsk, List.flatMap_append, hwordsi, hwordsj]
  · intro s
    have hsk := hcontentk s
    rw [List.filterMap_append, List.getLast?_append] at hsk
    cases hlast : (ms.filterMap (s.writtenBy? registry dates resolver)).getLast? with
    | none =>
      -- The second list writes nothing here, and leaves what the first one has written.
      rw [hlast, Option.none_or, ← hcontenti s] at hsk
      have hsj := hcontentj s
      rw [hlast] at hsj
      exact .inl ⟨hsk, hsj⟩
    | some content =>
      -- The second list has the last write, which sets the slot, so the first list does not.
      have hsj := hcontentj s
      rw [hlast] at hsj hsk
      obtain ⟨node, -, hnode⟩ := List.mem_filterMap.mp (List.mem_of_getLast? hlast)
      have hset : j.filter.content s ≠ Filter.empty.content s := by
        rw [hsj]
        exact Slot.writtenBy?_ne_empty hnode
      exact .inr ⟨hsk.trans hsj.symm, (h s).resolve_right hset⟩

/-! ## Words and phrases -/

/-- Words and phrases do not fail and set no slot. -/
theorem exists_ofNodes_of_words {nodes : List Query.Node}
    (h : ∀ node ∈ nodes, ∃ text, node = .word text ∨ node = .phrase text) :
    ∃ i, ofNodes registry dates resolver nodes = .ok i ∧
      ∀ s, i.filter.content s = Filter.empty.content s := by
  have hnone : NoneFail registry dates resolver nodes := by
    intro node hnode e he
    obtain ⟨text, rfl | rfl⟩ := h node hnode <;> cases he
  obtain ⟨i, hi⟩ := exists_ofNodes_iff.mpr hnone
  refine ⟨i, hi, fun s => ?_⟩
  have hwrites : nodes.filterMap (s.writtenBy? registry dates resolver) = [] := by
    rw [List.filterMap_eq_nil_iff]
    intro node hnode
    obtain ⟨text, rfl | rfl⟩ := h node hnode <;> rfl
  rw [(content_of_ofNodes hi).2 s, hwrites]
  rfl

end Interpretation

end LedgerSearch
