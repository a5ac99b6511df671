import LedgerSearch.Filter.Calls
import LedgerSearch.Interpretation

/-!
# Slots of filters

A filter has its words and seventeen slots. An operator belongs to at most one
slot, and what it writes there is said by the slot, for the operators of the slot
together: a lookup that leaves nothing, and a value that cannot be read, write
nothing.

* `content_apply`: a change of a draft changes the slot it writes to and no other.
* `changeOf_of_change?`: the changes that an operator can make.
* `write?_of_change?`: the change of an operator writes what its slot says.
-/

namespace LedgerSearch

open Calendar

/-- What a slot holds. -/
def Slot.Content : Slot → Type
  | sourceAccounts | destinationAccounts => List Account
  | categories | budgets | tags | bills => List Entity
  | amountEquals | amountMin | amountMax => Option Amount
  | dateRange => Option DateRange
  | dateBefore | dateAfter | createdOn | updatedOn => Option Date
  | types => List String
  | externalId | internalReference => Option String

def Filter.content (f : Filter) : (s : Slot) → s.Content
  | .sourceAccounts => f.sourceAccounts
  | .destinationAccounts => f.destinationAccounts
  | .categories => f.categories
  | .budgets => f.budgets
  | .tags => f.tags
  | .bills => f.bills
  | .amountEquals => f.amountEquals
  | .amountMin => f.amountMin
  | .amountMax => f.amountMax
  | .dateRange => f.dateRange
  | .dateBefore => f.dateBefore
  | .dateAfter => f.dateAfter
  | .createdOn => f.createdOn
  | .updatedOn => f.updatedOn
  | .types => f.types
  | .externalId => f.externalId
  | .internalReference => f.internalReference

/-- The slot that an operator writes to. -/
def Operator.slot? : Operator → Option Slot
  | fromAccount | source | fromAccountContains | fromAccountStarts | fromAccountEnds =>
    some .sourceAccounts
  | toAccount | destination => some .destinationAccounts
  | category => some .categories
  | bill => some .bills
  | tag => some .tags
  | budget => some .budgets
  | amount | amountIs => some .amountEquals
  | amountMax | amountLess => some .amountMax
  | amountMin | amountMore => some .amountMin
  | type => some .types
  | date | on => some .dateRange
  | dateBefore | before => some .dateBefore
  | dateAfter | after => some .dateAfter
  | createdOn => some .createdOn
  | updatedOn => some .updatedOn
  | externalId => some .externalId
  | internalReference => some .internalReference
  | userAction => none

/-! ## What is written -/

/-- Whether an operator keeps a source account of this name. -/
def Operator.keeps (op : Operator) (value name : String) : Bool :=
  match op with
  | fromAccountStarts => decide (value.toList <+: name.toList)
  | fromAccountEnds => decide (value.toList <:+ name.toList)
  | _ => true

/-- What a lookup found; one that failed found nothing. -/
def foundBy {α : Type} : Except LookupError (List α) → List α
  | .ok found => found
  | .error _ => []

/-- The first item of every number, unless there is no item. -/
def distinctUnlessEmpty {α : Type} (number : α → Int) : List α → Option (List α)
  | [] => none
  | found => some (distinctBy number found)

/-- The day of a value. -/
def dayOf? (dates : DateReader) (value : String) : Option Date :=
  match Date.read? dates value with
  | .ok day => day
  | .error _ => none

/-- What an operator of the slot writes for a value, if it writes at all. -/
def Slot.written? (dates : DateReader) (resolver : Resolver) (op : Operator) (value : String) :
    (s : Slot) → Option s.Content
  | .sourceAccounts =>
    distinctUnlessEmpty (·.id)
      ((foundBy (resolver.accounts AccountKind.sources value (some searchLimit))).filter
        fun a => op.keeps value a.name)
  | .destinationAccounts =>
    distinctUnlessEmpty (·.id)
      (foundBy (resolver.accounts AccountKind.destinations value (some searchLimit)))
  | .categories =>
    distinctUnlessEmpty (·.id) (foundBy (resolver.entities .category value (some searchLimit)))
  | .budgets =>
    distinctUnlessEmpty (·.id) (foundBy (resolver.entities .budget value (some searchLimit)))
  | .tags => distinctUnlessEmpty (·.id) (foundBy (resolver.entities .tag value none))
  | .bills =>
    distinctUnlessEmpty (·.id) (foundBy (resolver.entities .bill value (some searchLimit)))
  | .amountEquals | .amountMin | .amountMax => (Amount.read? value).map some
  | .dateRange => (dayOf? dates value).map fun day => some (.single day)
  | .dateBefore | .dateAfter | .createdOn | .updatedOn => (dayOf? dates value).map some
  | .types => some [Text.capitalize value]
  | .externalId | .internalReference => some (some value)

/-- What a node writes to a slot, if it writes there at all. -/
def Slot.writtenBy? (registry : Registry) (dates : DateReader) (resolver : Resolver) (s : Slot) :
    Query.Node → Option s.Content
  | .field name value =>
    (registry.get? name).bind fun op =>
      if op.slot? = some s then s.written? dates resolver op value else none
  | _ => none

/-! ## Slots of drafts -/

/-- The amount that a number makes in a filter, if it makes one. -/
def Draft.amountOf? : Numeral → Option Amount
  | .finite d => if h : d.IsBelowZero then none else some ⟨d, h⟩
  | _ => none

def Draft.content (d : Draft) : (s : Slot) → s.Content
  | .sourceAccounts => d.sourceAccounts
  | .destinationAccounts => d.destinationAccounts
  | .categories => d.categories
  | .budgets => d.budgets
  | .tags => d.tags
  | .bills => d.bills
  | .amountEquals => d.amountEquals.bind amountOf?
  | .amountMin => d.amountMin.bind amountOf?
  | .amountMax => d.amountMax.bind amountOf?
  | .dateRange => d.dateRange
  | .dateBefore => d.dateBefore
  | .dateAfter => d.dateAfter
  | .createdOn => d.createdOn
  | .updatedOn => d.updatedOn
  | .types => d.types
  | .externalId => d.externalId
  | .internalReference => d.internalReference

/-- What a change writes to a slot, if it writes there at all. -/
def Change.write? : Change → (s : Slot) → Option s.Content
  | .sourceAccounts accounts, .sourceAccounts => some (distinctBy (·.id) accounts)
  | .destinationAccounts accounts, .destinationAccounts => some (distinctBy (·.id) accounts)
  | .entities .category found, .categories => some (distinctBy (·.id) found)
  | .entities .budget found, .budgets => some (distinctBy (·.id) found)
  | .entities .tag found, .tags => some (distinctBy (·.id) found)
  | .entities .bill found, .bills => some (distinctBy (·.id) found)
  | .amount .equals value, .amountEquals => some (Draft.amountOf? value)
  | .amount .atLeast value, .amountMin => some (Draft.amountOf? value)
  | .amount .atMost value, .amountMax => some (Draft.amountOf? value)
  | .dateRange range, .dateRange => some (some range)
  | .dateBefore day, .dateBefore => some (some day)
  | .dateAfter day, .dateAfter => some (some day)
  | .createdOn day, .createdOn => some (some day)
  | .updatedOn day, .updatedOn => some (some day)
  | .types names, .types => some names
  | .externalId text, .externalId => some (some text)
  | .internalReference text, .internalReference => some (some text)
  | _, _ => none

/-- A change replaces what is in the slot it writes to, and leaves every other slot as it is. -/
theorem Draft.content_apply (d : Draft) (c : Change) (s : Slot) :
    (d.apply c).content s = (c.write? s).getD (d.content s) := by
  cases c with
  | entities kind _ => cases kind <;> cases s <;> rfl
  | amount bound _ => cases bound <;> cases s <;> rfl
  | _ => cases s <;> rfl

theorem Draft.amountOf?_toDecimal (a : Amount) : amountOf? (.finite a.toDecimal) = some a := by
  simp [amountOf?, a.not_isBelowZero]

theorem Draft.eq_bind_of_checkAmountField {name : String} {n : Option Numeral} {a : Option Amount}
    (h : checkAmountField name n = .ok a) : n.bind amountOf? = a := by
  cases n with
  | none =>
    cases h
    rfl
  | some n =>
    obtain ⟨b, hb, rfl⟩ := Checked.map_eq_ok.mp h
    cases n with
    | finite d =>
      by_cases hd : d.IsBelowZero
      · simp [checkAmount, hd, Checked.flaw, Checked.under] at hb
      · simp only [checkAmount, hd, not_false_eq_true, dif_neg, Checked.under,
          Checked.ok.injEq] at hb
        simp [amountOf?, hd, ← hb]
    | infinite => cases hb
    | notANumber => cases hb

/-- A filter holds in every slot what the draft it was made from holds there. -/
theorem Draft.content_of_toFilter {d : Draft} {f : Filter} (h : d.toFilter = .ok f) :
    f.words = d.words ∧ ∀ s, f.content s = d.content s := by
  obtain ⟨_, most, h₂, hmost, rfl⟩ := Checked.seq_eq_ok.mp h
  obtain ⟨_, least, h₁, hleast, rfl⟩ := Checked.seq_eq_ok.mp h₂
  obtain ⟨equals, hequals, rfl⟩ := Checked.map_eq_ok.mp h₁
  refine ⟨rfl, fun s => ?_⟩
  cases s with
  | amountEquals => exact (eq_bind_of_checkAmountField hequals).symm
  | amountMin => exact (eq_bind_of_checkAmountField hleast).symm
  | amountMax => exact (eq_bind_of_checkAmountField hmost).symm
  | _ => rfl

/-! ## Changes of operators -/

namespace Interpretation

theorem agrees_eq_keeps {op : Operator} {rule : NameRule} (h : op.effect = .sourceAccounts rule)
    (value name : String) : agrees rule value name = op.keeps value name := by
  cases op <;> cases h
  case fromAccountStarts =>
    rw [Bool.eq_iff_iff]
    simp [agrees, Operator.keeps]
  case fromAccountEnds =>
    rw [Bool.eq_iff_iff]
    simp [agrees, Operator.keeps]
  all_goals rfl

/-- The slot of an operator, read off what the operator constrains. -/
def slotOfEffect? : Effect → Option Slot
  | .sourceAccounts _ => some .sourceAccounts
  | .destinationAccounts => some .destinationAccounts
  | .entities .category => some .categories
  | .entities .budget => some .budgets
  | .entities .bill => some .bills
  | .entities .tag => some .tags
  | .amount .equals => some .amountEquals
  | .amount .atLeast => some .amountMin
  | .amount .atMost => some .amountMax
  | .day .on => some .dateRange
  | .day .before => some .dateBefore
  | .day .after => some .dateAfter
  | .day .created => some .createdOn
  | .day .updated => some .updatedOn
  | .literal .type => some .types
  | .literal .externalId => some .externalId
  | .literal .internalReference => some .internalReference
  | .nothing => none

theorem slot?_eq_slotOfEffect? (op : Operator) : op.slot? = slotOfEffect? op.effect := by
  cases op <;> rfl

/-- The slot that a change writes to. -/
def slotOfChange? : Change → Option Slot
  | .addWord _ => none
  | .sourceAccounts _ => some .sourceAccounts
  | .destinationAccounts _ => some .destinationAccounts
  | .entities kind _ => slotOfEffect? (.entities kind)
  | .amount bound _ => slotOfEffect? (.amount bound)
  | .dateRange _ => some .dateRange
  | .dateBefore _ => some .dateBefore
  | .dateAfter _ => some .dateAfter
  | .createdOn _ => some .createdOn
  | .updatedOn _ => some .updatedOn
  | .types _ => some .types
  | .externalId _ => some .externalId
  | .internalReference _ => some .internalReference

theorem write?_eq_none {c : Change} {s : Slot} (h : slotOfChange? c ≠ some s) :
    c.write? s = none := by
  cases c with
  | entities kind _ => cases kind <;> cases s <;> first | rfl | exact absurd rfl h
  | amount bound _ => cases bound <;> cases s <;> first | rfl | exact absurd rfl h
  | _ => cases s <;> first | rfl | exact absurd rfl h

theorem write?_addWord (text : String) (s : Slot) : (Change.addWord text).write? s = none :=
  write?_eq_none nofun

/-- The changes that an operator can make with a value, and why. -/
inductive ChangeOf (dates : DateReader) (resolver : Resolver) (op : Operator) (value : String) :
    Option Change → Prop
  | sourceAccounts {rule : NameRule} {found : List Account}
      (heffect : op.effect = .sourceAccounts rule)
      (hfound : resolver.accounts AccountKind.sources value (some searchLimit) = .ok found) :
      ChangeOf dates resolver op value
        (unlessEmpty .sourceAccounts (found.filter fun a => agrees rule value a.name))
  | destinationAccounts {found : List Account} (heffect : op.effect = .destinationAccounts)
      (hfound : resolver.accounts AccountKind.destinations value (some searchLimit) = .ok found) :
      ChangeOf dates resolver op value (unlessEmpty .destinationAccounts found)
  | entities {kind : EntityKind} {found : List Entity} (heffect : op.effect = .entities kind)
      (hfound : resolver.entities kind value (limitOf kind) =
        .ok found) :
      ChangeOf dates resolver op value (unlessEmpty (.entities kind) found)
  | amount {bound : AmountBound} {a : Amount} (heffect : op.effect = .amount bound)
      (hread : Amount.read? value = some a) :
      ChangeOf dates resolver op value (some (.amount bound (.finite a.toDecimal)))
  | day {bound : DayBound} {d : Date} (heffect : op.effect = .day bound)
      (hread : Date.read? dates value = .ok (some d)) :
      ChangeOf dates resolver op value (some (dayChange bound d))
  | literal {target : LiteralTarget} (heffect : op.effect = .literal target) :
      ChangeOf dates resolver op value (some (literalChange target value))
  | nothing (heffect : op.effect = .nothing) : ChangeOf dates resolver op value none

theorem changeOf_of_change? {dates : DateReader} {resolver : Resolver} {op : Operator}
    {value : String} {change : Option Change} (h : change? dates resolver op value = .ok change) :
    ChangeOf dates resolver op value change := by
  rw [change?_eq] at h
  cases hop : op.effect with
  | sourceAccounts rule =>
    simp only [hop] at h
    split at h
    · rename_i found hfound
      cases h
      exact .sourceAccounts hop hfound
    · cases h
  | destinationAccounts =>
    simp only [hop] at h
    split at h
    · rename_i found hfound
      cases h
      exact .destinationAccounts hop hfound
    · cases h
  | entities kind =>
    simp only [hop] at h
    split at h
    · rename_i found hfound
      cases h
      exact .entities hop hfound
    · cases h
  | amount bound =>
    simp only [hop] at h
    split at h
    · rename_i a hread
      cases h
      exact .amount hop hread
    · cases h
  | day bound =>
    simp only [hop] at h
    split at h
    · rename_i d hread
      cases h
      exact .day hop hread
    · cases h
    · cases h
  | literal target =>
    simp only [hop] at h
    cases h
    exact .literal hop
  | nothing =>
    simp only [hop] at h
    cases h
    exact .nothing hop

theorem exists_of_mem_unlessEmpty {α : Type} {make : List α → Change} {l : List α} {c : Change}
    (h : c ∈ unlessEmpty make l) : ∃ found, c = make found := by
  cases l with
  | nil => cases h
  | cons a l => exact ⟨a :: l, (Option.some.inj h).symm⟩

theorem slotOfChange?_of_change? {dates : DateReader} {resolver : Resolver} {op : Operator}
    {value : String} {c : Change} (h : change? dates resolver op value = .ok (some c)) :
    slotOfChange? c = op.slot? := by
  have hslot : ∀ change, ChangeOf dates resolver op value change → c ∈ change →
      slotOfChange? c = op.slot? := by
    intro change hchange hc
    rw [slot?_eq_slotOfEffect?]
    cases hchange with
    | sourceAccounts heffect =>
      obtain ⟨found, rfl⟩ := exists_of_mem_unlessEmpty hc
      rw [heffect]
      rfl
    | destinationAccounts heffect =>
      obtain ⟨found, rfl⟩ := exists_of_mem_unlessEmpty hc
      rw [heffect]
      rfl
    | entities heffect =>
      obtain ⟨found, rfl⟩ := exists_of_mem_unlessEmpty hc
      rw [heffect]
      rfl
    | amount heffect =>
      cases hc
      rw [heffect]
      rfl
    | @day bound _ heffect =>
      cases hc
      rw [heffect]
      cases bound <;> rfl
    | @literal target heffect =>
      cases hc
      rw [heffect]
      cases target <;> rfl
    | nothing => cases hc
  exact hslot _ (changeOf_of_change? h) rfl

/-- An operator without a slot makes no change. -/
theorem slot?_ne_none {dates : DateReader} {resolver : Resolver} {op : Operator}
    {value : String} {c : Change} (h : change? dates resolver op value = .ok (some c)) :
    op.slot? ≠ none := by
  intro hs
  have hop : op.effect = .nothing := by cases op <;> first | rfl | cases hs
  simp [change?_eq, hop] at h

theorem words_apply {c : Change} (h : slotOfChange? c ≠ none) (d : Draft) :
    (d.apply c).words = d.words := by
  cases c with
  | addWord => exact absurd rfl h
  | entities kind _ => cases kind <;> rfl
  | amount bound _ => cases bound <;> rfl
  | _ => rfl

theorem bind_write?_unlessEmpty {α : Type} {make : List α → Change} {number : α → Int} {s : Slot}
    {wrap : List α → s.Content} (hmake : ∀ l, (make l).write? s = some (wrap (distinctBy number l)))
    (l : List α) :
    (unlessEmpty make l).bind (·.write? s) = (distinctUnlessEmpty number l).map wrap := by
  cases l with
  | nil => rfl
  | cons a l => exact hmake (a :: l)

/-- The change of an operator writes what the slot of the operator says. -/
theorem write?_of_change? {dates : DateReader} {resolver : Resolver} {op : Operator}
    {value : String} {change : Option Change} {s : Slot}
    (h : change? dates resolver op value = .ok change)
    (hs : op.slot? = some s) :
    change.bind (·.write? s) = s.written? dates resolver op value := by
  rw [slot?_eq_slotOfEffect?] at hs
  cases changeOf_of_change? h with
  | sourceAccounts heffect hfound =>
    rw [heffect] at hs
    cases hs
    simp only [Slot.written?, hfound, foundBy, agrees_eq_keeps heffect]
    exact (bind_write?_unlessEmpty (fun _ => rfl) _).trans Option.map_id'
  | destinationAccounts heffect hfound =>
    rw [heffect] at hs
    cases hs
    simp only [Slot.written?, hfound, foundBy]
    exact (bind_write?_unlessEmpty (fun _ => rfl) _).trans Option.map_id'
  | @entities kind found heffect hfound =>
    rw [heffect] at hs
    cases kind <;> cases hs <;> simp only [limitOf, reduceCtorEq, if_false, if_true] at hfound <;>
      simp only [Slot.written?, hfound, foundBy]
    all_goals exact (bind_write?_unlessEmpty (fun _ => rfl) _).trans Option.map_id'
  | @amount bound a heffect hread =>
    rw [heffect] at hs
    cases bound <;> cases hs <;>
      simp only [Slot.written?, hread, Option.bind_some, Change.write?, Draft.amountOf?_toDecimal]
    all_goals rfl
  | @day bound d heffect hread =>
    rw [heffect] at hs
    cases bound <;> cases hs <;> simp only [Slot.written?, dayOf?, hread]
    all_goals rfl
  | @literal target heffect =>
    rw [heffect] at hs
    cases target <;> cases hs <;> rfl
  | nothing heffect =>
    rw [heffect] at hs
    cases hs

/-- What a node contributes writes to every slot what the node is said to write there. -/
theorem write?_of_contribution? {registry : Registry} {dates : DateReader} {resolver : Resolver}
    {node : Query.Node} {change : Option Change}
    (h : contribution? registry dates resolver node = .ok change) (s : Slot) :
    change.bind (·.write? s) = s.writtenBy? registry dates resolver node := by
  cases node with
  | word text =>
    cases h
    exact write?_addWord text s
  | phrase text =>
    cases h
    exact write?_addWord text s
  | field name value =>
    rw [contribution?_field] at h
    simp only [Slot.writtenBy?]
    cases hop : registry.get? name with
    | none =>
      rw [hop] at h
      cases h
    | some op =>
      simp only [hop] at h
      rw [Option.bind_some]
      split
      · rename_i hs
        exact write?_of_change? h hs
      · rename_i hs
        cases change with
        | none => rfl
        | some c => exact write?_eq_none (slotOfChange?_of_change? h ▸ hs)
  | foreign kind => cases h

end Interpretation

end LedgerSearch
