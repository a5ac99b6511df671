import LedgerSearch.Calendar.EnglishReader
import LedgerSearch.Proofs.Interpretation.Slot

/-!
# The last write wins

The nodes of a query write to the slots of the filter one after another, and a
slot keeps what was written last. A node that writes nothing leaves an earlier
write standing.

* `content_of_drafted`: what a run over the nodes leaves in a slot.
* `words_of_drafted`: the words of all nodes follow the words before the run.
* `map_modifiers_of_drafted`: every field leaves its modifier.
-/

namespace LedgerSearch

namespace Interpretation

variable {registry : Registry} {dates : Calendar.DateReader} {resolver : Resolver}

/-- The draft after a node is taken in. -/
theorem drafted_cons_eq_ok {node : Query.Node} {nodes : List Query.Node} {draft result : Draft}
    (h : drafted registry dates resolver draft (node :: nodes) = .ok result) :
    ∃ change, contribution? registry dates resolver node = .ok change ∧
      drafted registry dates resolver (change.elim draft draft.apply) nodes = .ok result := by
  rw [drafted_cons] at h
  split at h
  · rename_i change hchange
    exact ⟨change, hchange, h⟩
  · cases h

theorem content_elim (draft : Draft) (change : Option Change) (s : Slot) :
    (change.elim draft draft.apply).content s =
      (change.bind (·.write? s)).getD (draft.content s) := by
  cases change with
  | none => rfl
  | some c => exact draft.content_apply c s

theorem content_of_drafted {nodes : List Query.Node} {draft result : Draft}
    (h : drafted registry dates resolver draft nodes = .ok result) (s : Slot) :
    result.content s =
      (nodes.filterMap (s.writtenBy? registry dates resolver)).getLast?.getD (draft.content s) := by
  -- The draft stays general: the rest of the run starts from what the first node leaves.
  induction nodes generalizing draft with
  | nil =>
    cases h
    rfl
  | cons node nodes ih =>
    obtain ⟨change, hchange, hrest⟩ := drafted_cons_eq_ok h
    rw [ih hrest, content_elim, write?_of_contribution? hchange s]
    cases hnode : s.writtenBy? registry dates resolver node with
    | none => rw [List.filterMap_cons_none hnode]; rfl
    | some content =>
      rw [List.filterMap_cons_some hnode, List.getLast?_cons]
      rfl

theorem words_elim {node : Query.Node} {change : Option Change}
    (h : contribution? registry dates resolver node = .ok change) (draft : Draft) :
    (change.elim draft draft.apply).words = draft.words ++ wordsOf node := by
  cases node with
  | word text => cases h; rfl
  | phrase text => cases h; rfl
  | field name value =>
    rw [contribution?_field] at h
    split at h
    · cases change with
      | none => exact (List.append_nil _).symm
      | some c =>
        have hslot : slotOfChange? c ≠ none := slotOfChange?_of_change? h ▸ slot?_ne_none h
        exact (words_apply hslot draft).trans (List.append_nil _).symm
    · cases h
  | foreign => cases h

theorem words_of_drafted {nodes : List Query.Node} {draft result : Draft}
    (h : drafted registry dates resolver draft nodes = .ok result) :
    result.words = draft.words ++ nodes.flatMap wordsOf := by
  induction nodes generalizing draft with
  | nil =>
    cases h
    exact (List.append_nil _).symm
  | cons node nodes ih =>
    obtain ⟨change, hchange, hrest⟩ := drafted_cons_eq_ok h
    rw [ih hrest, words_elim hchange, List.flatMap_cons, List.append_assoc]

/-- The name and the value of a field. -/
def fieldOf? : Query.Node → Option (String × String)
  | .field name value => some (name, value)
  | _ => none

theorem map_modifiersOf {node : Query.Node} {change : Option Change}
    (h : contribution? registry dates resolver node = .ok change) :
    (modifiersOf registry node).map (fun m => (m.operator.name, m.value)) =
      (fieldOf? node).toList := by
  cases node with
  | field name value =>
    rw [contribution?_field] at h
    split at h
    · rename_i op hop
      simp [modifiersOf, hop, fieldOf?, (Registry.mem_operators_of_get? hop).2]
    · cases h
  | _ => rfl

theorem map_modifiers_of_drafted {nodes : List Query.Node} {draft result : Draft}
    (h : drafted registry dates resolver draft nodes = .ok result) :
    (nodes.flatMap (modifiersOf registry)).map (fun m => (m.operator.name, m.value)) =
      nodes.filterMap fieldOf? := by
  induction nodes generalizing draft with
  | nil => rfl
  | cons node nodes ih =>
    obtain ⟨change, hchange, hrest⟩ := drafted_cons_eq_ok h
    rw [List.flatMap_cons, List.map_append, map_modifiersOf hchange, ih hrest]
    cases hnode : fieldOf? node with
    | none => rw [List.filterMap_cons_none hnode]; rfl
    | some field => rw [List.filterMap_cons_some hnode]; rfl

/-- Every slot of the filter of a list of nodes holds what the last node that writes there at all
has written, or what it holds in the empty filter. The words are those of all nodes, and every field
has its modifier, whether it writes or not. -/
theorem last_write_wins {nodes : List Query.Node} {i : Interpretation}
    (h : ofNodes registry dates resolver nodes = .ok i) :
    (∀ s : Slot, i.filter.content s =
      (nodes.filterMap (s.writtenBy? registry dates resolver)).getLast?.getD
        (Filter.empty.content s)) ∧
    i.filter.words = nodes.flatMap wordsOf ∧
    i.words = nodes.flatMap wordsOf ∧
    i.modifiers.map (fun m => (m.operator.name, m.value)) = nodes.filterMap fieldOf? := by
  rw [ofNodes_eq] at h
  split at h
  · cases h
  · rename_i draft hdraft
    split at h
    · rename_i filter hfilter
      cases h
      obtain ⟨hwords, hcontent⟩ := Draft.content_of_toFilter hfilter
      refine ⟨fun s => ?_, ?_, rfl, map_modifiers_of_drafted hdraft⟩
      · rw [hcontent, content_of_drafted hdraft]
        cases s <;> rfl
      · rw [hwords, words_of_drafted hdraft]
        rfl
    · cases h

/-- Finds three accounts, two of one number, for one term, and nothing else. -/
def checkingResolver : Resolver where
  accounts _ term _ :=
    .ok (if term = "Check" then
      [⟨⟨2, "Savings Checking"⟩, .asset⟩, ⟨⟨1, "Checking"⟩, .asset⟩, ⟨⟨1, "Checkout"⟩, .loan⟩]
    else [])
  entities _ _ _ := .ok []

def checkingNodes : List Query.Node :=
  [.word "dinner", .field "from" "Check", .field "amount" "5", .field "from_account_starts" "Check",
    .field "user_action" "x", .field "source" "nobody", .field "amount_is" "-7.50",
    .phrase "at home"]

/-- The second source replaces the first one, and the third one finds nothing and leaves it
standing. -/
theorem last_write_wins_checking :
    ∃ i, ofNodes .full .english checkingResolver checkingNodes = .ok i ∧
      i.filter.sourceAccounts = [⟨⟨1, "Checking"⟩, .asset⟩] ∧
      i.filter.amountEquals = some ⟨⟨false, 750, -2⟩, by decide⟩ ∧
      i.filter.categories = [] ∧
      i.filter.words = ["dinner", "at home"] ∧
      i.modifiers.map (fun m => (m.operator.name, m.value)) =
        [("from", "Check"), ("amount", "5"), ("from_account_starts", "Check"),
          ("user_action", "x"), ("source", "nobody"), ("amount_is", "-7.50")] := by
  have hok : ∃ i, ofNodes .full .english checkingResolver checkingNodes = .ok i := ⟨_, rfl⟩
  obtain ⟨i, hi⟩ := hok
  obtain ⟨hcontent, hwords, -, hmodifiers⟩ := last_write_wins hi
  exact ⟨i, hi, hcontent .sourceAccounts, hcontent .amountEquals, hcontent .categories, hwords,
    hmodifiers⟩

end Interpretation

end LedgerSearch
