import LedgerSearch.Filter.Document
import LedgerSearch.Proofs.Calendar.Printing
import LedgerSearch.Proofs.Interpretation.Origin
import LedgerSearch.Sql.Transactions

/-!
# Filters are read back

The document of a filter has a field for each constraint that is set and no other
field. Each field is read back by its check, and a constraint without a field is
the one that is not set.

* `Checked.each_map`: items that are read back one by one are read back together.
* `checkDefaulted_list`, `checkDefaulted_option`: a field is read back, also when there
  is none.
* `checkEntity_toDocument` and so on: the parts of a filter are read back.
* `Filter.ofDocument_toDocument`: a filter is read back.
-/

namespace LedgerSearch

open Calendar

/-! ## Checks that succeed -/

namespace Checked

variable {α β : Type}

theorem map_ok {f : α → β} {c : Checked α} {a : α} (h : c = .ok a) : f <$> c = .ok (f a) :=
  map_eq_ok.mpr ⟨a, h, rfl⟩

theorem seq_ok {f : Checked (α → β)} {c : Checked α} {g : α → β} {a : α} (hf : f = .ok g)
    (hc : c = .ok a) : f <*> c = .ok (g a) :=
  seq_eq_ok.mpr ⟨g, a, hf, hc, rfl⟩

theorem under_ok (step : Step) {c : Checked α} {a : α} (h : c = .ok a) : c.under step = .ok a := by
  rw [h]
  rfl

theorem eachFrom_map {write : α → β} {check : β → Checked α} {items : List α}
    (h : ∀ a ∈ items, check (write a) = .ok a) (i : Nat) :
    eachFrom check i (items.map write) = .ok items := by
  induction items generalizing i with
  | nil => rfl
  | cons a items ih =>
    have htail := ih (fun b hb => h b (List.mem_cons_of_mem _ hb)) (i + 1)
    exact seq_ok (map_ok (under_ok _ (h a List.mem_cons_self))) htail

/-- Items that are read back one by one are read back together. -/
theorem each_map {write : α → β} {check : β → Checked α} {items : List α}
    (h : ∀ a ∈ items, check (write a) = .ok a) : each check (items.map write) = .ok items :=
  eachFrom_map h 0

end Checked

namespace Document

variable {α : Type} {fields : List (String × Document)} {name : String}

theorem checkRequired_ok {check : Document → Checked α} {d : Document} {a : α}
    (hfield : field? fields name = some d) (hcheck : check d = .ok a) :
    checkRequired fields name check = .ok a := by
  rw [checkRequired, hfield]
  exact Checked.under_ok _ hcheck

theorem checkClosed_ok {names : List String} (h : ∀ field ∈ fields, field.1 ∈ names) :
    checkClosed fields names = .ok () := by
  have hextra : fields.filter (!names.contains ·.1) = [] := by
    rw [List.filter_eq_nil_iff]
    intro field hfield
    simpa using h field hfield
  rw [checkClosed, hextra]

/-! ## Fields -/

@[simp] theorem field?_append (as bs : List (String × Document)) (name : String) :
    field? (as ++ bs) name = (field? as name).or (field? bs name) :=
  List.lookup_append

end Document

namespace Filter

open Document

variable {α : Type} {write : α → Document} {fields : List (String × Document)} {name : String}

theorem name_of_mem_listField {items : List α} {field : String × Document}
    (h : field ∈ listField name write items) : field.1 = name := by
  cases items with
  | nil => cases h
  | cons a items => rw [List.mem_singleton.mp h]

theorem name_of_mem_optionField {a : Option α} {field : String × Document}
    (h : field ∈ optionField name write a) : field.1 = name := by
  cases a with
  | none => cases h
  | some a => rw [List.mem_singleton.mp h]

/-- No other name stands for the field of a list. -/
@[simp] theorem field?_listField_of_ne {other : String} (h : other ≠ name) (items : List α) :
    field? (listField name write items) other = none := by
  cases items with
  | nil => rfl
  | cons a items => simp [field?, listField, List.lookup_cons, beq_false_of_ne h]

@[simp] theorem field?_optionField_of_ne {other : String} (h : other ≠ name) (a : Option α) :
    field? (optionField name write a) other = none := by
  cases a with
  | none => rfl
  | some a => simp [field?, optionField, List.lookup_cons, beq_false_of_ne h]

theorem field?_optionField (name : String) (write : α → Document) (a : Option α) :
    field? (optionField name write a) name = a.map write := by
  cases a with
  | none => rfl
  | some a => simp [field?, optionField]

/-- The field of a list is read back, also when there is none. -/
theorem checkDefaulted_list {check : Document → Checked α} {items : List α}
    (hfield : field? fields name = field? (listField name write items) name)
    (hcheck : ∀ a ∈ items, check (write a) = .ok a) :
    checkDefaulted fields name [] (checkTuple check) = .ok items := by
  rw [checkDefaulted, hfield]
  cases items with
  | nil => rfl
  | cons a items =>
    have hwritten : field? (listField name write (a :: items)) name =
        some (.list ((a :: items).map write)) := by
      simp [field?, listField]
    rw [hwritten]
    exact Checked.under_ok _ (Checked.each_map hcheck)

/-- The field of an optional value is read back, also when there is none. -/
theorem checkDefaulted_option {check : Document → Checked α} {a : Option α}
    (hwrite : ∀ b, write b ≠ .null)
    (hfield : field? fields name = field? (optionField name write a) name)
    (hcheck : ∀ b ∈ a, check (write b) = .ok b) :
    checkDefaulted fields name none (checkOptional check) = .ok a := by
  rw [checkDefaulted, hfield, field?_optionField]
  cases a with
  | none => rfl
  | some b =>
    have hoptional : checkOptional check (write b) = some <$> check (write b) := by
      rw [checkOptional]
      exact hwrite b
    exact Checked.under_ok _ (hoptional.trans (Checked.map_ok (hcheck b rfl)))

end Filter

/-! ## The parts of a filter -/

theorem Amount.toDocument_ne_null (a : Amount) : a.toDocument ≠ .null :=
  nofun

theorem Calendar.Date.toDocument_ne_null (d : Date) : d.toDocument ≠ .null :=
  nofun

theorem DateRange.toDocument_ne_null (r : DateRange) : r.toDocument ≠ .null :=
  nofun

namespace Document

theorem text_ne_null (s : String) : text s ≠ null :=
  nofun

theorem checkEntity_toDocument (e : Entity) : checkEntity e.toDocument = .ok e :=
  rfl

theorem checkAccount_toDocument (a : Account) : checkAccount a.toDocument = .ok a := by
  have hkind : checkAccountKind (.text a.kind.name) = .ok a.kind := by
    rw [checkAccountKind, AccountKind.ofName?_name]
    rfl
  refine Checked.seq_ok (Checked.seq_ok (Checked.seq_ok (Checked.map_ok ?id) ?name) ?kind) rfl
  case id => exact checkRequired_ok rfl rfl
  case name => exact checkRequired_ok rfl rfl
  case kind => exact checkRequired_ok rfl hkind

theorem checkAmount_toDocument {a : Amount} (h : a.toDecimal.InRange) :
    checkAmount a.toDocument = .ok a := by
  rw [Amount.toDocument, checkAmount, Numeral.read?_print h]
  exact dif_neg a.not_isBelowZero

theorem checkDate_toDocument (d : Date) : checkDate d.toDocument = .ok d := by
  rw [Date.toDocument, checkDate, Moment.read?_print]
  rfl

theorem checkDateRange_toDocument (r : DateRange) : checkDateRange r.toDocument = .ok r := by
  have hbetween : DateRange.between r.first r.last = .ok r := dif_pos r.first_le_last
  have hdays : ((fun first last _ => (first, last)) <$> checkRequired
      [("start_date", r.first.toDocument), ("end_date", r.last.toDocument)] "start_date" checkDate
      <*> checkRequired [("start_date", r.first.toDocument), ("end_date", r.last.toDocument)]
        "end_date" checkDate
      <*> checkClosed [("start_date", r.first.toDocument), ("end_date", r.last.toDocument)]
        ["start_date", "end_date"]) = .ok (r.first, r.last) := by
    refine Checked.seq_ok (Checked.seq_ok (Checked.map_ok ?first) ?last) rfl
    case first => exact checkRequired_ok rfl (checkDate_toDocument r.first)
    case last => exact checkRequired_ok rfl (checkDate_toDocument r.last)
  rw [DateRange.toDocument, checkDateRange, checkObject]
  simp only [hdays, Checked.andThen, hbetween]

end Document

/-! ## Filters -/

/-- The amount that bounds the transactions in some way. -/
def Filter.amount (f : Filter) : AmountBound → Option Amount
  | .equals => f.amountEquals
  | .atLeast => f.amountMin
  | .atMost => f.amountMax

/-- The amounts of a filter are within the limits of decimals. -/
structure Filter.WithinLimits (f : Filter) : Prop where
  amountEquals : ∀ a ∈ f.amountEquals, a.toDecimal.InRange
  amountMin : ∀ a ∈ f.amountMin, a.toDecimal.InRange
  amountMax : ∀ a ∈ f.amountMax, a.toDecimal.InRange

namespace Filter

open Document

/-- A document holds the names of the constraints only. -/
theorem checkClosed_toFields (f : Filter) :
    checkClosed f.toFields
      ["free_text_words", "source_accounts", "destination_accounts", "categories", "budgets",
        "tags", "bills", "amount_equals", "amount_min", "amount_max", "date_range",
        "date_before", "date_after", "created_on", "updated_on", "types", "external_id",
        "internal_reference"] = .ok () := by
  apply checkClosed_ok
  intro field hfield
  unfold toFields at hfield
  simp only [List.mem_append] at hfield
  rcases hfield with ((((((((((((((((h | h) | h) | h) | h) | h) | h) | h) | h) | h) | h) | h) | h) |
    h) | h) | h) | h) | h
  all_goals
    first
    | rw [name_of_mem_listField h]
    | rw [name_of_mem_optionField h]
    decide

/-- A filter is read back as it was. -/
theorem ofDocument_toDocument {f : Filter} (h : f.WithinLimits) :
    ofDocument f.toDocument = .ok f := by
  have htext : ∀ s : String, checkText (.text s) = .ok s := fun _ => rfl
  rw [toDocument, ofDocument, checkObject]
  refine Checked.seq_ok (Checked.seq_ok (Checked.seq_ok (Checked.seq_ok (Checked.seq_ok
    (Checked.seq_ok (Checked.seq_ok (Checked.seq_ok (Checked.seq_ok (Checked.seq_ok (Checked.seq_ok
    (Checked.seq_ok (Checked.seq_ok (Checked.seq_ok (Checked.seq_ok (Checked.seq_ok (Checked.seq_ok
    (Checked.seq_ok (Checked.map_ok ?words) ?sources) ?destinations) ?categories) ?budgets) ?tags)
    ?bills) ?equals) ?least) ?most) ?range) ?before) ?after) ?created) ?updated) ?types) ?external)
    ?reference) f.checkClosed_toFields
  case words => exact checkDefaulted_list (by simp [toFields]) fun s _ => htext s
  case types => exact checkDefaulted_list (by simp [toFields]) fun s _ => htext s
  case sources | destinations =>
    exact checkDefaulted_list (by simp [toFields]) fun a _ =>
      checkAccount_toDocument a
  case categories | budgets | tags | bills =>
    exact checkDefaulted_list (by simp [toFields]) fun e _ =>
      checkEntity_toDocument e
  case equals =>
    exact checkDefaulted_option Amount.toDocument_ne_null (by simp [toFields]) fun a ha =>
      checkAmount_toDocument (h.amountEquals a ha)
  case least =>
    exact checkDefaulted_option Amount.toDocument_ne_null (by simp [toFields]) fun a ha =>
      checkAmount_toDocument (h.amountMin a ha)
  case most =>
    exact checkDefaulted_option Amount.toDocument_ne_null (by simp [toFields]) fun a ha =>
      checkAmount_toDocument (h.amountMax a ha)
  case range =>
    exact checkDefaulted_option DateRange.toDocument_ne_null (by simp [toFields]) fun r _ =>
      checkDateRange_toDocument r
  case before | after | created | updated =>
    exact checkDefaulted_option Date.toDocument_ne_null (by simp [toFields]) fun d _ =>
      checkDate_toDocument d
  case external | reference =>
    exact checkDefaulted_option text_ne_null (by simp [toFields]) fun s _ =>
      htext s

end Filter

namespace Interpretation

variable {registry : Registry} {dates : DateReader} {resolver : Resolver}

/-- The amounts of a query are read from its values. -/
theorem exists_read?_of_ofNodes {nodes : List Query.Node} {i : Interpretation}
    (h : ofNodes registry dates resolver nodes = .ok i) {bound : AmountBound} {a : Amount}
    (ha : i.filter.amount bound = some a) : ∃ value, Amount.read? value = some a := by
  have hset {o : Option Amount} (ho : o = some a) : o ≠ none := by
    rw [ho]
    exact Option.some_ne_none a
  have hread {value : String} {content : Option Amount} (ho : content = some a)
      (hwritten : (Amount.read? value).map some = some content) : Amount.read? value = some a := by
    obtain ⟨b, hb, rfl⟩ := Option.map_eq_some_iff.mp hwritten
    rw [hb, ho]
  cases bound with
  | equals =>
    obtain ⟨m, -, -, hwritten⟩ := exists_modifier_of_content (s := .amountEquals) h (hset ha)
    exact ⟨m.value, hread ha hwritten⟩
  | atLeast =>
    obtain ⟨m, -, -, hwritten⟩ := exists_modifier_of_content (s := .amountMin) h (hset ha)
    exact ⟨m.value, hread ha hwritten⟩
  | atMost =>
    obtain ⟨m, -, -, hwritten⟩ := exists_modifier_of_content (s := .amountMax) h (hset ha)
    exact ⟨m.value, hread ha hwritten⟩

theorem withinLimits_of_ofNodes {nodes : List Query.Node} {i : Interpretation}
    (h : ofNodes registry dates resolver nodes = .ok i) : i.filter.WithinLimits := by
  have hrange (bound : AmountBound) : ∀ a ∈ i.filter.amount bound, a.toDecimal.InRange := by
    intro a ha
    obtain ⟨value, hvalue⟩ := exists_read?_of_ofNodes h ha
    exact Amount.inRange_of_read? hvalue
  exact ⟨hrange .equals, hrange .atLeast, hrange .atMost⟩

end Interpretation

namespace Filter

open Sql

/-- The document of a filter is read back as the filter, which then constrains nothing if it did not
before, and gives the same statements. This holds of every filter that a query has. -/
theorem document_reads_back :
    (∀ f : Filter, f.WithinLimits →
      ofDocument f.toDocument = .ok f ∧
      isEmpty <$> ofDocument f.toDocument = .ok f.isEmpty ∧
      countAll <$> ofDocument f.toDocument = .ok (countAll f) ∧
      ∀ page pageSize, (selectPage · page pageSize) <$> ofDocument f.toDocument =
        .ok (selectPage f page pageSize)) ∧
    ∀ (registry : Registry) (dates : DateReader) (resolver : Resolver) (nodes : List Query.Node)
      (i : Interpretation),
      Interpretation.ofNodes registry dates resolver nodes = .ok i → i.filter.WithinLimits := by
  refine ⟨fun f hf => ?_, fun _ _ _ _ _ => Interpretation.withinLimits_of_ofNodes⟩
  have hread := ofDocument_toDocument hf
  exact ⟨hread, Checked.map_ok hread, Checked.map_ok hread, fun _ _ => Checked.map_ok hread⟩

/-- Amounts keep the zeros that were written and the exponent of a zero, accounts their kinds. -/
theorem document_reads_back_zeros :
    let f : Filter :=
      { words := ["", "50% off"]
        sourceAccounts := [⟨⟨2, "Checking"⟩, .asset⟩, ⟨⟨1, "House"⟩, .mortgage⟩]
        tags := [⟨-7, "food"⟩]
        amountEquals := some (Amount.ofDecimal ⟨false, 150, 5⟩)
        amountMin := some (Amount.ofDecimal ⟨false, 0, -9⟩)
        amountMax := some (Amount.ofDecimal ⟨false, 2500, -3⟩)
        dateRange := some ⟨⟨1, 1, 1, by decide⟩, ⟨2024, 2, 29, by decide⟩, by decide⟩
        externalId := some "" }
    f.WithinLimits ∧ ofDocument f.toDocument = .ok f ∧
      f.toFields.lookup "amount_equals" = some (.text "1.50E+7") ∧
      f.toFields.lookup "amount_min" = some (.text "0E-9") ∧
      f.toFields.lookup "amount_max" = some (.text "2.500") := by
  intro f
  have hlimits : f.WithinLimits := by
    constructor
    all_goals
      rintro a ⟨⟩
      decide +kernel
  exact ⟨hlimits, (document_reads_back.1 f hlimits).1, by decide +kernel, by decide +kernel,
    by decide +kernel⟩

end Filter

end LedgerSearch
