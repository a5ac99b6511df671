import LedgerSearch.Proofs.Decimal.Printing
import LedgerSearch.Proofs.Filter.Amounts
import LedgerSearch.Proofs.Filter.ReadBack
import LedgerSearch.Proofs.Query.Rendering
import LedgerSearch.Proofs.Search.Statements

/-!
# Amounts that are typed back

An amount that was read is printed in a way that reads as the same amount, its
exponent and the zeros at either end of its coefficient included. So printing what
was read gives a form that does not change any more, and the amounts that the document
of a filter shows can be typed into a query again, as values of any operator that
takes an amount.

* `Amount.read?_print`: an amount that was read is read back.
* `mem_print_iff`: which decimals are printed with an exponent.
* `parse_printed`, `ofNodes_amount`: a query of one amount.
-/

namespace LedgerSearch

open Text

/-! ## Printed amounts -/

/-- The amount of a text as it is printed. -/
def Amount.normalForm? (text : String) : Option String :=
  (Amount.read? text).map fun a => a.toDecimal.print

theorem Amount.read?_print {text : String} {a : Amount} (h : read? text = some a) :
    read? a.toDecimal.print = some a := by
  have hread := Numeral.read?_print (inRange_of_read? h)
  obtain ⟨d, -, rfl⟩ := exists_of_read? h
  rw [read?, hread]
  rfl

namespace Decimal

theorem not_mem_plainNotation {ds : List Char} (hds : ∀ c ∈ ds, c.isDigit = true) (places : Nat) :
    'E' ∉ plainNotation ds places := by
  have hdigits : 'E' ∉ ds := fun h => absurd (hds _ h) (by decide)
  rw [plainNotation]
  split
  · exact hdigits
  · split
    · simp [hdigits, List.mem_replicate]
    · simp only [List.mem_append, List.mem_cons]
      rintro (h | h | h)
      · exact hdigits (List.mem_of_mem_take h)
      · cases h
      · exact hdigits (List.mem_of_mem_drop h)

/-- A decimal is printed with an exponent if its exponent is above zero, or if its first digit
stands more than six places after the point. -/
theorem mem_print_iff (d : Decimal) :
    'E' ∈ d.print.toList ↔ ¬ (d.exponent ≤ 0 ∧ -6 ≤ d.adjusted) := by
  have hbody : 'E' ∈ d.toChars ↔ 'E' ∈ d.body := by
    rw [toChars_eq]
    split
    · simp
    · rfl
  have hplain : d.isPlain = true ↔ d.exponent ≤ 0 ∧ -6 ≤ d.adjusted := by
    simp [isPlain]
  rw [print, String.toList_ofList, hbody, ← hplain, body]
  split
  · rename_i h
    exact iff_of_false (not_mem_plainNotation isDigit_of_mem _) (not_not_intro h)
  · rename_i h
    refine iff_of_true ?_ h
    unfold scientificNotation
    exact List.mem_append_right _ List.mem_cons_self

theorem isBare_print (d : Decimal) : d.print.toList ≠ [] ∧ Query.IsBare d.print.toList := by
  have hplain : ∀ c ∈ d.print.toList, Numeral.IsPlainChar c := by
    rw [print, String.toList_ofList]
    exact fun c => isPlainChar_of_mem_toChars
  refine ⟨?_, ?_, fun c hc => (hplain c hc).isBlank_eq_false⟩
  · obtain ⟨c, cs, hbody, -⟩ := d.exists_body_eq_cons
    rw [print, String.toList_ofList, toChars_eq, hbody]
    split <;> exact List.cons_ne_nil _ _
  · intro hquote
    rcases hplain '"' (List.mem_of_mem_head? hquote) with h | h <;> exact absurd h (by decide)

end Decimal

/-! ## Queries of one amount -/

theorem Operator.isLowerName_name (op : Operator) : Query.IsLowerName op.name.toList := by
  cases op <;> exact ⟨_, _, rfl, by decide, List.all_eq_true.mp rfl⟩

/-- A printed decimal is read as the value of an operator without quotes. -/
theorem parse_printed (op : Operator) (d : Decimal) :
    Query.parse (op.name ++ ":" ++ d.print) = .ok [.field op.name d.print] := by
  obtain ⟨hne, hbare⟩ := d.isBare_print
  have hrender : Query.render [.field op.name d.print] = op.name ++ ":" ++ d.print := by
    rw [Query.render, ← String.toList_inj]
    simp [Query.Node.render, Query.renderValue, hbare]
  rw [← hrender]
  exact Query.parse_render (List.forall_mem_singleton.mpr ⟨op.isLowerName_name, hne, .inr hbare⟩)

namespace Filter

/-- The filter that constrains nothing but amounts. -/
def ofAmount (bound : AmountBound) (a : Amount) : Filter :=
  match bound with
  | .equals => { amountEquals := some a }
  | .atLeast => { amountMin := some a }
  | .atMost => { amountMax := some a }

theorem field?_amount (f : Filter) (bound : AmountBound) :
    Document.field? f.toFields bound.field = (f.amount bound).map Amount.toDocument := by
  cases bound <;> simp [toFields, AmountBound.field, amount, field?_optionField]

end Filter

namespace Interpretation

variable {registry : Registry} {dates : Calendar.DateReader} {resolver : Resolver}

theorem ofNodes_amount {op : Operator} {bound : AmountBound} {value : String} {a : Amount}
    (hop : op ∈ registry.operators) (heffect : op.effect = .amount bound)
    (hread : Amount.read? value = some a) :
    ofNodes registry dates resolver [.field op.name value] =
      .ok ⟨[], [⟨op, value⟩], .ofAmount bound a⟩ := by
  have hget : registry.get? op.name = some op := Registry.get?_name hop
  have hcontribution : contribution? registry dates resolver (.field op.name value) =
      .ok (some (.amount bound (.finite a.toDecimal))) := by
    simp only [contribution?_field, hget, change?_eq, heffect, hread]
  have hfield (name : String) :
      Draft.checkAmountField name (some (.finite a.toDecimal)) = .ok (some a) := by
    simp only [Draft.checkAmountField, Draft.checkAmount, dif_neg a.not_isBelowZero]
    rfl
  have hfilter : (Draft.empty.apply (.amount bound (.finite a.toDecimal))).toFilter =
      .ok (.ofAmount bound a) := by
    cases bound <;> simp only [Draft.toFilter, Draft.apply, hfield] <;> rfl
  simp [ofNodes_eq, drafted_cons, drafted_nil, hcontribution, hfilter, hget, wordsOf, modifiersOf]

end Interpretation

namespace Search

theorem interpret_printed (s : Search) {op : Operator} {bound : AmountBound} {text : String}
    {a : Amount} (hop : op ∈ s.registry.operators) (heffect : op.effect = .amount bound)
    (hread : Amount.read? text = some a) :
    s.interpret (op.name ++ ":" ++ a.toDecimal.print) =
      .ok ⟨[], [⟨op, a.toDecimal.print⟩], .ofAmount bound a⟩ := by
  rw [interpret_of_parse (parse_printed op a.toDecimal)]
  exact Interpretation.ofNodes_amount hop heffect (Amount.read?_print hread)

/-- An amount that was read is printed, with an exponent or without one, as a text that reads as the
same amount. So a normal form is its own normal form. What the document of a query's filter shows of
an amount can be typed back: as the value of any operator that takes an amount, it sets the amount
that was shown and nothing else. -/
theorem printed_amounts_read_back :
    (∀ text a, Amount.read? text = some a →
      Amount.read? a.toDecimal.print = some a ∧
      ('E' ∈ a.toDecimal.print.toList ↔
        ¬ (a.toDecimal.exponent ≤ 0 ∧ -6 ≤ a.toDecimal.adjusted))) ∧
    (∀ text printed, Amount.normalForm? text = some printed →
      Amount.normalForm? printed = some printed) ∧
    ∀ (s : Search) (text : String) (i : Interpretation), s.interpret text = .ok i →
      ∀ bound shown, Document.field? i.filter.toFields bound.field = some (.text shown) →
        ∃ a, i.filter.amount bound = some a ∧ Amount.read? shown = some a ∧
          ∀ op ∈ s.registry.operators, ∀ bound', op.effect = .amount bound' →
            ∃ j, s.interpret (op.name ++ ":" ++ shown) = .ok j ∧
              j.filter = .ofAmount bound' a := by
  refine ⟨fun text a ha => ⟨Amount.read?_print ha, a.toDecimal.mem_print_iff⟩, ?_, ?_⟩
  · intro text printed h
    obtain ⟨a, ha, rfl⟩ := Option.map_eq_some_iff.mp h
    rw [Amount.normalForm?, Amount.read?_print ha]
    rfl
  · intro s text i hi bound shown hshown
    obtain ⟨nodes, -, hnodes⟩ := interpret_eq_ok.mp hi
    rw [Filter.field?_amount] at hshown
    obtain ⟨a, ha, hprint⟩ := Option.map_eq_some_iff.mp hshown
    obtain ⟨value, hread⟩ := Interpretation.exists_read?_of_ofNodes hnodes ha
    cases hprint
    refine ⟨a, ha, Amount.read?_print hread, fun op hop bound' heffect => ?_⟩
    exact ⟨_, s.interpret_printed hop heffect hread, rfl⟩

/-- Both zeros after the point and the exponent of a zero are kept, sign and low line are not. -/
theorem printed_amounts_read_back_zeros :
    Amount.read? "-1_20e5" = some (Amount.ofDecimal ⟨false, 120, 5⟩) ∧
    Amount.read? "1.20E+7" = some (Amount.ofDecimal ⟨false, 120, 5⟩) ∧
    Amount.normalForm? "-.000e-7" = some "0E-10" ∧ Amount.normalForm? "0E-10" = some "0E-10" ∧
    ∃ i j, interpret ⟨.full, .unavailable, .english⟩ "amount_min:-1_20e5" = .ok i ∧
      Document.field? i.filter.toFields "amount_min" = some (.text "1.20E+7") ∧
      interpret ⟨.full, .unavailable, .english⟩ "amount_less:1.20E+7" = .ok j ∧
      j.filter = { amountMax := i.filter.amountMin } := by
  have hread : Amount.read? "-1_20e5" = some (Amount.ofDecimal ⟨false, 120, 5⟩) := by
    decide +kernel
  have hform : Amount.normalForm? "-.000e-7" = some "0E-10" := by decide +kernel
  have hlexeme : Query.lexeme "amount_min:-1_20e5".toList =
      .ok (some (.field "amount_min" "-1_20e5"), []) := rfl
  have hparse : Query.parse "amount_min:-1_20e5" = .ok [.field "amount_min" "-1_20e5"] :=
    parse_of_lexeme rfl (by decide) hlexeme
  have hi : interpret ⟨.full, .unavailable, .english⟩ "amount_min:-1_20e5" =
      .ok ⟨[], [⟨.amountMin, "-1_20e5"⟩],
        .ofAmount .atLeast (Amount.ofDecimal ⟨false, 120, 5⟩)⟩ := by
    have hmin : Operator.amountMin ∈ Registry.full.operators := by decide
    have hnodes : Interpretation.ofNodes .full .english .unavailable
        [.field Operator.amountMin.name "-1_20e5"] =
          .ok ⟨[], [⟨.amountMin, "-1_20e5"⟩],
            .ofAmount .atLeast (Amount.ofDecimal ⟨false, 120, 5⟩)⟩ :=
      Interpretation.ofNodes_amount hmin rfl hread
    rw [interpret_of_parse hparse]
    exact hnodes
  have hshown :
      Document.field? (Filter.ofAmount .atLeast (Amount.ofDecimal ⟨false, 120, 5⟩)).toFields
        "amount_min" = some (.text "1.20E+7") := by decide +kernel
  obtain ⟨hback, hnormal, htyped⟩ := printed_amounts_read_back
  obtain ⟨a, ha, -, hall⟩ := htyped _ _ _ hi .atLeast "1.20E+7" hshown
  obtain ⟨j, hj, hfilter⟩ := hall .amountLess (by decide) .atMost rfl
  cases ha
  exact ⟨hread, (hback _ _ hread).1, hform, hnormal _ _ hform, _, j, hi, hshown, hj, hfilter⟩

end Search

end LedgerSearch
