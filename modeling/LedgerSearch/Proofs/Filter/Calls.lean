import LedgerSearch.Proofs.Distinct
import LedgerSearch.Proofs.Filter.Amounts

/-!
# What calls of drafts leave

A slot is changed by its setter and by nothing else, and takes every value but a
range that ends before it begins. A call that fails leaves no trace.

* `Slot.Holds`: what a slot of a filter is to hold for a value that it was given.
* `call_eq_refused_iff`, `call_of_isFailure`: which calls are refused, and what failure leaves.
* `content_call`, `number_call`, `words_call`: what one call leaves in a draft.
-/

namespace LedgerSearch

open Calendar

/-! ## Values of slots -/

/-- Whether a slot takes a value: a range must not end before it begins. -/
def Slot.Takes : (s : Slot) → s.Given → Prop
  | .dateRange, (first, last) => first ≤ last
  | _, _ => True

instance : (s : Slot) → (value : s.Given) → Decidable (s.Takes value)
  | .dateRange, (first, last) => inferInstanceAs (Decidable (first ≤ last))
  | .sourceAccounts, _ | .destinationAccounts, _ | .categories, _ | .budgets, _ | .tags, _
  | .bills, _ | .amountEquals, _ | .amountMin, _ | .amountMax, _ | .dateBefore, _ | .dateAfter, _
  | .createdOn, _ | .updatedOn, _ | .types, _ | .externalId, _ | .internalReference, _ =>
    inferInstanceAs (Decidable True)

/-- What a slot of a filter holds for a value that it was given. -/
def Slot.Holds : (s : Slot) → s.Given → s.Content → Prop
  | .sourceAccounts, given, content | .destinationAccounts, given, content =>
    content = firstOccurrences (fun a : Account => a.id) given
  | .categories, given, content | .budgets, given, content | .tags, given, content
  | .bills, given, content => content = firstOccurrences (fun e : Entity => e.id) given
  | .amountEquals, n, content | .amountMin, n, content | .amountMax, n, content =>
    ∃ a : Amount, content = some a ∧ n = .finite a.toDecimal
  | .dateRange, (first, last), content =>
    ∃ range : DateRange, content = some range ∧ range.first = first ∧ range.last = last
  | .dateBefore, day, content | .dateAfter, day, content | .createdOn, day, content
  | .updatedOn, day, content => content = some day
  | .types, names, content => content = names
  | .externalId, text, content | .internalReference, text, content => content = some text

/-- What a slot of a draft holds for a value that it was given. -/
def Slot.written : (s : Slot) → s.Given → s.Content
  | .sourceAccounts, given | .destinationAccounts, given =>
    distinctBy (fun a : Account => a.id) given
  | .categories, given | .budgets, given | .tags, given | .bills, given =>
    distinctBy (fun e : Entity => e.id) given
  | .amountEquals, n | .amountMin, n | .amountMax, n => Draft.amountOf? n
  | .dateRange, (first, last) => (DateRange.between first last).toOption
  | .dateBefore, day | .dateAfter, day | .createdOn, day | .updatedOn, day => some day
  | .types, names => names
  | .externalId, text | .internalReference, text => some text

/-- A slot that takes a value is changed to hold it. -/
theorem Slot.exists_change {s : Slot} {value : s.Given} (h : s.Takes value) :
    ∃ c, s.change value = .ok c ∧ c.write? s = some (s.written value) ∧
      Interpretation.slotOfChange? c = some s := by
  cases s
  case dateRange =>
    obtain ⟨first, last⟩ := value
    have hrange : DateRange.between first last = .ok ⟨first, last, h⟩ := dif_pos h
    refine ⟨.dateRange ⟨first, last, h⟩, ?_, ?_, rfl⟩
    · rw [change, hrange]
      rfl
    · rw [written, hrange]
      rfl
  all_goals exact ⟨_, rfl, rfl, rfl⟩

/-- A slot does not take a range that ends before it begins, and takes everything else. -/
theorem Slot.not_takes_iff {s : Slot} {value : s.Given} :
    ¬ s.Takes value ↔ ∃ first last,
      (⟨s, value⟩ : (s : Slot) × s.Given) = ⟨.dateRange, (first, last)⟩ ∧ last < first := by
  constructor
  · intro h
    cases s
    case dateRange => exact ⟨value.1, value.2, rfl, Nat.not_le.mp h⟩
    all_goals exact absurd trivial h
  · rintro ⟨first, last, ⟨⟩, h⟩
    exact Nat.not_le.mpr h

theorem Slot.change_of_not_takes {s : Slot} {value : s.Given} (h : ¬ s.Takes value) :
    s.change value = .error .reversed := by
  obtain ⟨first, last, ⟨⟩, hlt⟩ := Slot.not_takes_iff.mp h
  have hrange : DateRange.between first last = .error .reversed := dif_neg h
  rw [change, hrange]
  rfl

/-! ## Calls -/

namespace Draft

/-- Whether the call has failed. -/
def Answer.IsFailure : Answer → Prop
  | .done | .filter _ => False
  | .refused _ | .invalid _ => True

/-- The word that a call adds, if it adds one. -/
def Call.word? : Call → Option String
  | .addWord text => some text
  | _ => none

/-- The value that a call gives to a slot, if it gives it one that the slot takes. -/
def Call.given? (s : Slot) : Call → Option s.Given
  | .set t value =>
    if h : t = s then
      let value : s.Given := h ▸ value
      if s.Takes value then some value else none
    else none
  | _ => none

/-- The amount that a call sets, if it sets one. -/
def Call.amount? : AmountBound → Call → Option Numeral
  | .equals => Call.given? .amountEquals
  | .atLeast => Call.given? .amountMin
  | .atMost => Call.given? .amountMax

/-! ## What a call leaves -/

/-- Setting a slot changes it, or is refused and changes nothing. -/
theorem call_set (d : Draft) (s : Slot) (value : s.Given) :
    (s.Takes value ∧ ∃ c, d.call (.set s value) = (d.apply c, .done) ∧
      c.write? s = some (s.written value) ∧ Interpretation.slotOfChange? c = some s) ∨
    (¬ s.Takes value ∧ d.call (.set s value) = (d, .refused .reversed)) := by
  by_cases h : s.Takes value
  · obtain ⟨c, hchange, hwrite, hslot⟩ := Slot.exists_change h
    exact .inl ⟨h, c, by simp only [call, hchange], hwrite, hslot⟩
  · exact .inr ⟨h, by simp only [call, Slot.change_of_not_takes h]⟩

/-- A call for a filter leaves the draft as it is. -/
theorem call_snapshot (d : Draft) : (d.call .snapshot).1 = d := by
  simp only [call]
  split <;> rfl

/-- A call that fails leaves the draft as it is. -/
theorem call_of_isFailure {d : Draft} {c : Call} (h : (d.call c).2.IsFailure) :
    (d.call c).1 = d := by
  cases c with
  | addWord text => exact h.elim
  | set s value =>
    rcases d.call_set s value with ⟨-, c, hcall, -⟩ | ⟨-, hcall⟩
    · rw [hcall] at h
      exact h.elim
    · rw [hcall]
  | snapshot => exact call_snapshot d

theorem call_done_or_refused (d : Draft) {c : Call} (hc : c ≠ .snapshot) :
    (d.call c).2 = .done ∨ (d.call c).2 = .refused .reversed := by
  cases c with
  | addWord text => exact .inl rfl
  | set s value =>
    rcases d.call_set s value with ⟨-, c, hcall, -⟩ | ⟨-, hcall⟩ <;> rw [hcall]
    · exact .inl rfl
    · exact .inr rfl
  | snapshot => exact absurd rfl hc

/-- The only call that is refused sets a range that ends before it begins. -/
theorem call_eq_refused_iff {d : Draft} {c : Call} :
    (d.call c).2 = .refused .reversed ↔
      ∃ first last, c = .set .dateRange (first, last) ∧ last < first := by
  cases c with
  | addWord text => exact iff_of_false nofun nofun
  | set s value =>
    rcases d.call_set s value with ⟨htakes, c, hcall, -⟩ | ⟨htakes, hcall⟩
    · refine iff_of_false (by rw [hcall]; nofun) ?_
      rintro ⟨first, last, ⟨⟩, hlt⟩
      exact Nat.not_le.mpr hlt htakes
    · obtain ⟨first, last, ⟨⟩, hlt⟩ := Slot.not_takes_iff.mp htakes
      exact iff_of_true (by rw [hcall]) ⟨first, last, rfl, hlt⟩
  | snapshot =>
    refine iff_of_false ?_ nofun
    simp only [call]
    split <;> nofun

theorem given?_set_self {s : Slot} {value : s.Given} :
    (Call.set s value).given? s = if s.Takes value then some value else none := by
  simp only [Call.given?, dif_pos]

theorem given?_set_of_ne {s t : Slot} {value : t.Given} (h : t ≠ s) :
    (Call.set t value).given? s = none :=
  dif_neg h

/-- A slot takes what calls give to it. -/
theorem takes_of_given? {s : Slot} {c : Call} {value : s.Given} (h : c.given? s = some value) :
    s.Takes value := by
  cases c with
  | addWord text => cases h
  | snapshot => cases h
  | set t given =>
    by_cases hts : t = s
    · subst hts
      rw [given?_set_self] at h
      split at h
      · cases h
        assumption
      · cases h
    · rw [given?_set_of_ne hts] at h
      cases h

/-- A call leaves in a slot what it gives to the slot, or what was there. -/
theorem content_call (s : Slot) (d : Draft) (c : Call) :
    (d.call c).1.content s = ((c.given? s).map s.written).getD (d.content s) := by
  cases c with
  | addWord text =>
    rw [call, content_apply, Interpretation.write?_addWord]
    rfl
  | snapshot =>
    rw [call_snapshot]
    rfl
  | set t value =>
    rcases d.call_set t value with ⟨htakes, c, hcall, hwrite, hslot⟩ | ⟨htakes, hcall⟩ <;>
      rw [hcall]
    · rw [content_apply]
      by_cases hts : t = s
      · subst hts
        rw [given?_set_self, if_pos htakes, hwrite]
        rfl
      · have hne : Interpretation.slotOfChange? c ≠ some s := by
          rw [hslot]
          exact fun h => hts (Option.some.inj h)
        rw [given?_set_of_ne hts, Interpretation.write?_eq_none hne]
        rfl
    · by_cases hts : t = s
      · subst hts
        rw [given?_set_self, if_neg htakes]
        rfl
      · rw [given?_set_of_ne hts]
        rfl

theorem words_call (d : Draft) (c : Call) :
    (d.call c).1.words = d.words ++ c.word?.toList := by
  cases c with
  | addWord text => rfl
  | snapshot =>
    rw [call_snapshot]
    exact (List.append_nil _).symm
  | set s value =>
    refine Eq.trans ?_ (List.append_nil _).symm
    rcases d.call_set s value with ⟨-, c, hcall, -, hslot⟩ | ⟨-, hcall⟩ <;> rw [hcall]
    exact Interpretation.words_apply (by rw [hslot]; nofun) d

theorem number_call (bound : AmountBound) (d : Draft) (c : Call) :
    (d.call c).1.number bound = ((c.amount? bound).map some).getD (d.number bound) := by
  cases c with
  | addWord text => cases bound <;> rfl
  | snapshot =>
    rw [call_snapshot]
    cases bound <;> rfl
  | set s value =>
    cases s
    case dateRange =>
      obtain ⟨first, last⟩ := value
      by_cases h : first ≤ last
      · simp only [call, Slot.change, DateRange.between, dif_pos h]
        cases bound <;> rfl
      · simp only [call, Slot.change, DateRange.between, dif_neg h]
        cases bound <;> rfl
    all_goals cases bound <;> rfl

end Draft

end LedgerSearch
