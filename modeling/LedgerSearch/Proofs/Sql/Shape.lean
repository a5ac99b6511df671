import Mathlib.Data.List.Infix
import LedgerSearch.Proofs.Sql.Conditions
import LedgerSearch.Proofs.Sql.Spacing

/-!
# Statements without their values

The shape of a filter says how many words it has and which of the other
constraints it sets, and nothing of their values. The shape alone decides which
predicates the conditions of the filter are made of, and so the texts of its
statements: no word, name, number or day reaches them. A percent sign stands in
a text only where a placeholder begins, and there is one placeholder for each
value.

* `Condition.map_predicate_ofFilter`: the predicates are those of the shape.
* `fromWhere_congr`: the text is made of predicates only.
* `HasPlaceholders.append`: the placeholders of joined texts add up.
-/

namespace LedgerSearch

/-- How many words a filter has, and which of its other constraints are set. -/
structure Filter.Shape where
  words : Nat
  sourceAccounts : Bool
  destinationAccounts : Bool
  categories : Bool
  budgets : Bool
  tags : Bool
  bills : Bool
  amountEquals : Bool
  amountMin : Bool
  amountMax : Bool
  dateRange : Bool
  dateBefore : Bool
  dateAfter : Bool
  createdOn : Bool
  updatedOn : Bool
  types : Bool
  externalId : Bool
  internalReference : Bool
  deriving DecidableEq

def Filter.shape (f : Filter) : Filter.Shape where
  words := f.words.length
  sourceAccounts := !f.sourceAccounts.isEmpty
  destinationAccounts := !f.destinationAccounts.isEmpty
  categories := !f.categories.isEmpty
  budgets := !f.budgets.isEmpty
  tags := !f.tags.isEmpty
  bills := !f.bills.isEmpty
  amountEquals := f.amountEquals.isSome
  amountMin := f.amountMin.isSome
  amountMax := f.amountMax.isSome
  dateRange := f.dateRange.isSome
  dateBefore := f.dateBefore.isSome
  dateAfter := f.dateAfter.isSome
  createdOn := f.createdOn.isSome
  updatedOn := f.updatedOn.isSome
  types := !f.types.isEmpty
  externalId := f.externalId.isSome
  internalReference := f.internalReference.isSome

namespace Sql

open Calendar

/-! ## The predicates of a shape -/

/-- The predicate of a constraint that is set. -/
def whenSet (set : Bool) (p : Predicate) : List Predicate :=
  if set then [p] else []

def predicatesOf (s : Filter.Shape) : List Predicate :=
  List.replicate s.words .description ++
    whenSet s.sourceAccounts (.key .sourceAccount) ++
    whenSet s.destinationAccounts (.key .destinationAccount) ++
    whenSet s.categories (.key .category) ++
    whenSet s.budgets (.key .budget) ++
    whenSet s.bills (.key .bill) ++
    whenSet s.tags .tag ++
    whenSet s.amountEquals (.size .equal) ++
    whenSet s.amountMin (.size .atLeast) ++
    whenSet s.amountMax (.size .atMost) ++
    (whenSet s.dateRange (.notBefore .date) ++ whenSet s.dateRange (.before .date)) ++
    (whenSet s.dateAfter (.notBefore .date) ++ whenSet s.dateBefore (.before .date)) ++
    (whenSet s.createdOn (.notBefore .createdAt) ++ whenSet s.createdOn (.before .createdAt)) ++
    (whenSet s.updatedOn (.notBefore .updatedAt) ++ whenSet s.updatedOn (.before .updatedAt)) ++
    whenSet s.types .type ++
    whenSet s.externalId (.text .externalId) ++
    whenSet s.internalReference (.text .internalReference)

namespace Condition

theorem map_predicate_words (words : List String) :
    (words.map ofWord).map (·.predicate) = List.replicate words.length .description := by
  induction words with
  | nil => rfl
  | cons word words ih => exact congrArg (Predicate.description :: ·) ih

theorem map_predicate_ofKeys {α : Type} (column : KeyColumn) (l : List α) (number : α → Int) :
    (ofKeys column (l.map number)).map (·.predicate) = whenSet (!l.isEmpty) (.key column) := by
  cases l <;> rfl

theorem map_predicate_ofTags (tags : List Entity) :
    (ofTags (tags.map (·.id))).map (·.predicate) = whenSet (!tags.isEmpty) .tag := by
  cases tags <;> rfl

theorem map_predicate_ofAmount (comparison : Comparison) (amount : Option Amount) :
    (ofAmount comparison amount).map (·.predicate) = whenSet amount.isSome (.size comparison) := by
  cases amount <;> rfl

theorem map_predicate_ofTypes (types : List String) :
    (ofTypes types).map (·.predicate) = whenSet (!types.isEmpty) .type := by
  cases types <;> rfl

theorem map_predicate_ofText (column : TextColumn) (text : Option String) :
    (ofText column text).map (·.predicate) = whenSet text.isSome (.text column) := by
  cases text <;> rfl

theorem map_predicate_fromDay {column : TimeColumn} {day : Option Date} {cs : List Condition}
    (h : fromDay column day = .ok cs) :
    cs.map (·.predicate) = whenSet day.isSome (.notBefore column) := by
  cases day with
  | none =>
    cases h
    rfl
  | some d =>
    obtain ⟨next, -, rfl⟩ := fromDay_some_eq_ok.mp h
    rfl

theorem map_predicate_upToDay {column : TimeColumn} {day : Option Date} {cs : List Condition}
    (h : upToDay column day = .ok cs) :
    cs.map (·.predicate) = whenSet day.isSome (.before column) := by
  cases day with
  | none =>
    cases h
    rfl
  | some d =>
    obtain ⟨next, -, rfl⟩ := upToDay_some_eq_ok.mp h
    rfl

theorem map_predicate_ofDays {column : TimeColumn} {first last : Option Date} {cs : List Condition}
    (h : ofDays column first last = .ok cs) :
    cs.map (·.predicate) =
      whenSet first.isSome (.notBefore column) ++ whenSet last.isSome (.before column) := by
  obtain ⟨a, b, ha, hb, rfl⟩ := ofDays_eq_ok.mp h
  rw [List.map_append, map_predicate_fromDay ha, map_predicate_upToDay hb]

/-- The predicates of a filter's conditions are those of its shape. -/
theorem map_predicate_ofFilter {f : Filter} {cs : List Condition} (h : ofFilter f = .ok cs) :
    cs.map (·.predicate) = predicatesOf f.shape := by
  obtain ⟨range, hrange, h⟩ := bind_eq_ok.mp h
  obtain ⟨bounds, hbounds, h⟩ := bind_eq_ok.mp h
  obtain ⟨created, hcreated, h⟩ := bind_eq_ok.mp h
  obtain ⟨updated, hupdated, h⟩ := bind_eq_ok.mp h
  rw [← Except.ok.inj h]
  simp only [List.map_append, map_predicate_words, map_predicate_ofKeys, map_predicate_ofTags,
    map_predicate_ofAmount, map_predicate_ofDays hrange, map_predicate_ofDays hbounds,
    map_predicate_ofDays hcreated, map_predicate_ofDays hupdated, map_predicate_ofTypes,
    map_predicate_ofText, Option.isSome_map]
  rfl

end Condition

/-- What a statement selects from is written with the predicates of the conditions only. -/
theorem fromWhere_congr {cs ds : List Condition}
    (h : cs.map (·.predicate) = ds.map (·.predicate)) : fromWhere cs = fromWhere ds := by
  have hsql : cs.map (·.predicate.sql) = ds.map (·.predicate.sql) := by
    simpa only [List.map_map, Function.comp_def] using congrArg (List.map Predicate.sql) h
  cases cs with
  | nil =>
    cases ds with
    | nil => rfl
    | cons d ds => cases h
  | cons c cs =>
    cases ds with
    | nil => cases h
    | cons d ds => rw [fromWhere_cons, fromWhere_cons, hsql]

/-! ## Placeholders -/

/-- A percent sign of the text is always the beginning of a placeholder, and the text has this many
placeholders. -/
structure HasPlaceholders (n : Nat) (text : List Char) : Prop where
  percent : ∀ rest ∈ text.tails, rest.head? = some '%' → ['%', 's'] <+: rest
  count : text.tails.countP (['%', 's'] <+: ·) = n

instance (n : Nat) (text : List Char) : Decidable (HasPlaceholders n text) :=
  decidable_of_iff (_ ∧ _) ⟨fun h => ⟨h.1, h.2⟩, fun h => ⟨h.1, h.2⟩⟩

theorem placeholder_prefix_cons_iff {c : Char} {cs : List Char} :
    ['%', 's'] <+: c :: cs ↔ c = '%' ∧ cs.head? = some 's' := by
  rw [List.cons_prefix_cons, eq_comm]
  refine and_congr_right fun _ => ?_
  cases cs with
  | nil => simp
  | cons d ds => simp [List.cons_prefix_cons, eq_comm]

theorem hasPlaceholders_cons_iff {c : Char} {cs : List Char} {n : Nat} :
    HasPlaceholders n (c :: cs) ↔ ∃ m, HasPlaceholders m cs ∧
      (c = '%' → cs.head? = some 's') ∧ n = m + if c = '%' then 1 else 0 := by
  have hpercent : (∀ rest ∈ (c :: cs).tails, rest.head? = some '%' → ['%', 's'] <+: rest) ↔
      (c = '%' → cs.head? = some 's') ∧
        ∀ rest ∈ cs.tails, rest.head? = some '%' → ['%', 's'] <+: rest := by
    rw [List.tails_cons, List.forall_mem_cons, placeholder_prefix_cons_iff, List.head?_cons,
      Option.some_inj]
    exact and_congr_left' ⟨fun h hc => (h hc).2, fun h hc => ⟨hc, h hc⟩⟩
  have hcount (hc : c = '%' → cs.head? = some 's') :
      (c :: cs).tails.countP (['%', 's'] <+: ·) =
        cs.tails.countP (['%', 's'] <+: ·) + if c = '%' then 1 else 0 := by
    rw [List.tails_cons, List.countP_cons]
    simp only [decide_eq_true_eq, placeholder_prefix_cons_iff]
    by_cases hcase : c = '%'
    · simp [hcase, hc hcase]
    · simp [hcase]
  constructor
  · intro h
    obtain ⟨hc, hcs⟩ := hpercent.mp h.percent
    exact ⟨_, ⟨hcs, rfl⟩, hc, by rw [← hcount hc, h.count]⟩
  · rintro ⟨m, hcs, hc, rfl⟩
    exact ⟨hpercent.mpr ⟨hc, hcs.percent⟩, by rw [hcount hc, hcs.count]⟩

/-- The placeholders of joined texts add up: none of them stands across the joint. -/
theorem HasPlaceholders.append {a b : List Char} {m n : Nat} (ha : HasPlaceholders m a)
    (hb : HasPlaceholders n b) : HasPlaceholders (m + n) (a ++ b) := by
  induction a generalizing m with
  | nil =>
    obtain rfl : 0 = m := ha.count
    rwa [Nat.zero_add]
  | cons c a ih =>
    obtain ⟨k, hk, hc, rfl⟩ := hasPlaceholders_cons_iff.mp ha
    refine hasPlaceholders_cons_iff.mpr ⟨k + n, ih hk, ?_, by omega⟩
    intro hpercent
    obtain ⟨tail, rfl⟩ := List.head?_eq_some_iff.mp (hc hpercent)
    rfl

theorem hasPlaceholders_zero {text : List Char} (h : '%' ∉ text) : HasPlaceholders 0 text := by
  induction text with
  | nil => decide
  | cons c cs ih =>
    obtain ⟨hc, hcs⟩ := not_or.mp (List.mem_cons.not.mp h)
    exact hasPlaceholders_cons_iff.mpr
      ⟨0, ih hcs, fun h => absurd h.symm hc, by rw [if_neg (Ne.symm hc)]⟩

theorem Predicate.hasPlaceholders_sql (p : Predicate) : HasPlaceholders 1 p.sql.toList := by
  cases p with
  | description | tag | type => decide +kernel
  | key column | notBefore column | before column | text column =>
    cases column <;> decide +kernel
  | size comparison => cases comparison <;> decide +kernel

/-- Texts with equally many placeholders, joined by a text without any. -/
theorem hasPlaceholders_intercalate {separator : String} {n : Nat} {texts : List String}
    (hseparator : HasPlaceholders 0 separator.toList)
    (htexts : ∀ text ∈ texts, HasPlaceholders n text.toList) :
    HasPlaceholders (texts.length * n) (separator.intercalate texts).toList := by
  induction texts with
  | nil =>
    rw [List.length_nil, Nat.zero_mul]
    exact hasPlaceholders_zero (by simp)
  | cons text texts ih =>
    obtain ⟨htext, hrest⟩ := List.forall_mem_cons.mp htexts
    cases texts with
    | nil => simpa using htext
    | cons next texts =>
      have hall := (htext.append hseparator).append (ih hrest)
      rw [String.intercalate_cons_cons, String.toList_append, String.toList_append]
      rwa [Nat.add_zero, Nat.add_comm, ← Nat.succ_mul] at hall

theorem hasPlaceholders_fromWhere (cs : List Condition) :
    HasPlaceholders cs.length (fromWhere cs).toList := by
  cases cs with
  | nil => exact hasPlaceholders_zero (by decide)
  | cons c cs =>
    have htable : HasPlaceholders 0 "FROM transactions t".toList :=
      hasPlaceholders_zero (by decide)
    have hwhere : HasPlaceholders 0 " WHERE ".toList := hasPlaceholders_zero (by decide)
    have hand : HasPlaceholders 0 " AND ".toList := hasPlaceholders_zero (by decide)
    have hsql : ∀ text ∈ (c :: cs).map (·.predicate.sql), HasPlaceholders 1 text.toList := by
      intro text htext
      obtain ⟨d, -, rfl⟩ := List.mem_map.mp htext
      exact d.predicate.hasPlaceholders_sql
    have hall := htable.append (hwhere.append (hasPlaceholders_intercalate hand hsql))
    rw [fromWhere_cons, String.toList_append, String.toList_append]
    rwa [Nat.zero_add, Nat.zero_add, Nat.mul_one, List.length_map] at hall

/-- A statement is well placed when every percent sign of its text begins a placeholder, and there
are as many placeholders as values. -/
def Statement.WellPlaced (s : Statement) : Prop :=
  HasPlaceholders s.params.length s.text.toList

theorem wellPlaced_countStatement (cs : List Condition) : (countStatement cs).WellPlaced := by
  have hopening : HasPlaceholders 0 "SELECT COUNT(*)::bigint ".toList :=
    hasPlaceholders_zero (by decide)
  have htext : (countStatement cs).text.toList =
      "SELECT COUNT(*)::bigint ".toList ++ (fromWhere cs).toList := by
    rw [text_countStatement]
    exact String.toList_append
  have hparams : (countStatement cs).params.length = cs.length := List.length_map _
  rw [Statement.WellPlaced, htext, hparams, ← Nat.zero_add cs.length]
  exact hopening.append (hasPlaceholders_fromWhere cs)

theorem hasPlaceholders_selectedColumns :
    HasPlaceholders 0 (", ".intercalate (selectedColumns.map ("t." ++ ·))).toList := by
  have hcomma : HasPlaceholders 0 ", ".toList := hasPlaceholders_zero (by decide)
  have hcolumns : ∀ column ∈ selectedColumns, '%' ∉ column.toList := by decide
  have htexts : ∀ text ∈ selectedColumns.map ("t." ++ ·), HasPlaceholders 0 text.toList := by
    intro text htext
    obtain ⟨column, hcolumn, rfl⟩ := List.mem_map.mp htext
    have hrow : HasPlaceholders 0 "t.".toList := hasPlaceholders_zero (by decide)
    rw [String.toList_append]
    exact hrow.append (hasPlaceholders_zero (hcolumns column hcolumn))
  exact hasPlaceholders_intercalate hcomma htexts

theorem wellPlaced_selectStatement (cs : List Condition) (page pageSize : Int) :
    (selectStatement cs page pageSize).WellPlaced := by
  have hselect : HasPlaceholders 0 "SELECT ".toList := hasPlaceholders_zero (by decide)
  have hspace : HasPlaceholders 0 " ".toList := hasPlaceholders_zero (by decide)
  have hending : HasPlaceholders 2
      " ORDER BY t.date DESC, t.id DESC LIMIT %s OFFSET %s".toList := by decide +kernel
  have hall := (((hselect.append hasPlaceholders_selectedColumns).append hspace).append
    (hasPlaceholders_fromWhere cs)).append hending
  rw [← String.toList_append, ← String.toList_append, ← String.toList_append,
    ← String.toList_append] at hall
  have hvalues : (cs.map (·.param)).length = 0 + 0 + 0 + cs.length := by
    rw [List.length_map, Nat.zero_add]
  have hparams : (selectStatement cs page pageSize).params.length = 0 + 0 + 0 + cs.length + 2 := by
    rw [← hvalues]
    exact List.length_append
  rw [Statement.WellPlaced, hparams, text_selectStatement]
  exact hall

/-! ## Texts and shapes -/

/-- Filters of one shape have the same statement texts, whatever their values and whichever pages
are asked for, and in every statement each percent sign begins a placeholder and each value has
one. -/
theorem statement_text_of_shape :
    (∀ (f g : Filter) (c d : Statement), f.shape = g.shape → countAll f = .ok c →
      countAll g = .ok d →
      c.text = d.text ∧
        ∀ page pageSize page' pageSize' : Int, 1 ≤ page → 1 ≤ pageSize → 1 ≤ page' →
          1 ≤ pageSize' →
          ∃ s t, selectPage f page pageSize = .ok s ∧ selectPage g page' pageSize' = .ok t ∧
            s.text = t.text) ∧
    (∀ f c, countAll f = .ok c → c.WellPlaced) ∧
    ∀ f page pageSize s, selectPage f page pageSize = .ok s → s.WellPlaced := by
  refine ⟨?_, ?_, ?_⟩
  · intro f g c d hshape hf hg
    obtain ⟨cs, hcs, rfl⟩ := countAll_eq_ok.mp hf
    obtain ⟨ds, hds, rfl⟩ := countAll_eq_ok.mp hg
    have hfrom : fromWhere cs = fromWhere ds := by
      apply fromWhere_congr
      rw [Condition.map_predicate_ofFilter hcs, Condition.map_predicate_ofFilter hds, hshape]
    refine ⟨by rw [text_countStatement, text_countStatement, hfrom], ?_⟩
    intro page pageSize page' pageSize' hpage hsize hpage' hsize'
    refine ⟨_, _, selectPage_eq_ok.mpr ⟨hpage, hsize, cs, hcs, rfl⟩,
      selectPage_eq_ok.mpr ⟨hpage', hsize', ds, hds, rfl⟩, ?_⟩
    rw [text_selectStatement, text_selectStatement, hfrom]
  · intro f c hc
    obtain ⟨cs, -, rfl⟩ := countAll_eq_ok.mp hc
    exact wellPlaced_countStatement cs
  · intro f page pageSize s hs
    obtain ⟨-, -, cs, -, rfl⟩ := selectPage_eq_ok.mp hs
    exact wellPlaced_selectStatement cs page pageSize

/-- A word that looks like a part of a statement, with a percent sign and a quote, makes the same
texts as any other word. -/
theorem statement_text_of_shape_injection :
    let f : Filter := { words := ["coffee"], dateBefore := some ⟨2024, 2, 29, by decide⟩ }
    let g : Filter :=
      { words := ["%d' OR 1 = 1; --"], dateBefore := some ⟨1999, 12, 31, by decide⟩ }
    f.shape = g.shape ∧
      ∃ c d s t, countAll f = .ok c ∧ countAll g = .ok d ∧ c.text = d.text ∧ d.WellPlaced ∧
        selectPage f 1 50 = .ok s ∧ selectPage g 3 20 = .ok t ∧ s.text = t.text ∧ t.WellPlaced := by
  intro f g
  have hshape : f.shape = g.shape := rfl
  obtain ⟨c, hc⟩ : ∃ c, countAll f = .ok c := ⟨_, rfl⟩
  obtain ⟨d, hd⟩ : ∃ d, countAll g = .ok d := ⟨_, rfl⟩
  obtain ⟨hsame, hcount, hselect⟩ := statement_text_of_shape
  obtain ⟨htext, hpages⟩ := hsame f g c d hshape hc hd
  obtain ⟨s, t, hs, ht, hpage⟩ :=
    hpages 1 50 3 20 (by decide) (by decide) (by decide) (by decide)
  exact ⟨hshape, c, d, s, t, hc, hd, htext, hcount g d hd, hs, ht, hpage, hselect g 3 20 t ht⟩

end Sql

end LedgerSearch
