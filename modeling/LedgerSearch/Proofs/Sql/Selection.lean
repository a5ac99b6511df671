import LedgerSearch.Proofs.Sql.Conditions
import LedgerSearch.Proofs.Sql.Meaning

/-!
# Statements mean their filters

A condition says of a transaction what its constraint says, so the statement of
a filter, read as a text with values, selects the transactions that satisfy the
filter.

* `holds_word`, `holds_key` and so on: what a single condition says.
* `allHold_ofFilter`: what the conditions of a filter say together.
* `selects_iff_allHold`: a statement says what its conditions say.
-/

namespace LedgerSearch.Sql

open Calendar

variable {fold : Char → Char} {links : List TagLink} {t : Transaction}

def keyIn (t : Transaction) : KeyColumn → Option Int
  | .sourceAccount => t.sourceAccount
  | .destinationAccount => t.destinationAccount
  | .category => t.category
  | .budget => t.budget
  | .bill => t.bill

def timeIn (t : Transaction) : TimeColumn → Instant
  | .date => t.date
  | .createdAt => t.createdAt
  | .updatedAt => t.updatedAt

def textIn (t : Transaction) : TextColumn → Option String
  | .externalId => t.externalId
  | .internalReference => t.internalReference

/-- The view of the clauses of a statement on transactions. -/
def viewOf (t : Transaction) : View :=
  View.only "t" (transactionColumns t)

theorem value?_key (column : KeyColumn) :
    (Operand.column "t" column.name).value? (viewOf t) = (keyIn t column).map .integer := by
  cases column <;> rfl

theorem value?_time (column : TimeColumn) :
    (Operand.column "t" column.name).value? (viewOf t) = some (.instant (timeIn t column)) := by
  cases column <;> rfl

theorem value?_text (column : TextColumn) :
    (Operand.column "t" column.name).value? (viewOf t) = (textIn t column).map .text := by
  cases column <;> rfl

/-! ## Single conditions -/

namespace Condition

/-- The condition holds of the transaction. -/
def Holds (fold : Char → Char) (links : List TagLink) (t : Transaction) (c : Condition) : Prop :=
  c.clause.Holds fold links (viewOf t)

theorem holds_word (word : String) :
    (ofWord word).Holds fold links t ↔
      word.toList.map fold <:+: t.description.toList.map fold := by
  change (Test.like (.column "t" "description") (.text (Pattern.holding word))).Holds fold
    (viewOf t) ↔ _
  have hcolumn : (Operand.column "t" "description").value? (viewOf t) =
      some (.text t.description) := rfl
  have hpattern : (Param.text (Pattern.holding word)).value? =
      some (.text (Pattern.holding word)) := rfl
  rw [Test.holds_like hcolumn hpattern]
  exact Pattern.matches_holding fold word t.description.toList

theorem holds_key (column : KeyColumn) (ids : List Int) :
    Holds fold links t ⟨.key column, .integers ids⟩ ↔ ∃ id ∈ ids, keyIn t column = some id := by
  change (Test.oneOf (.column "t" column.name) (.integers ids)).Holds fold (viewOf t) ↔ _
  have hcolumn := value?_key (t := t) column
  have hids : (Param.integers ids).value? = some (.integers ids) := rfl
  cases hkey : keyIn t column with
  | none =>
    -- The column has no value, so the test has nothing to hold of.
    rw [hkey] at hcolumn
    simp [Test.Holds, hcolumn]
  | some key =>
    rw [hkey] at hcolumn
    rw [Test.holds_oneOf hcolumn hids]
    simp [Value.IsOneOf]

theorem holds_text (column : TextColumn) (s : String) :
    Holds fold links t ⟨.text column, .text s⟩ ↔ textIn t column = some s := by
  change (Test.compare .equal (.column "t" column.name) (.value (.text s))).Holds fold
    (viewOf t) ↔ _
  have hcolumn := value?_text (t := t) column
  have hs : (Operand.value (.text s)).value? (viewOf t) = some (.text s) := rfl
  cases htext : textIn t column with
  | none =>
    rw [htext] at hcolumn
    simp [Test.Holds, hcolumn]
  | some own =>
    rw [htext] at hcolumn
    rw [Test.holds_compare .equal hcolumn hs]
    simp [Value.Compares]

/-- The tests of a tag hold of a link of the transaction to one of the tags. -/
theorem holds_tagTests (ids : List Int) (link : TagLink) :
    (∀ test ∈ [Test.compare .equal (.column "tt" "transaction_id") (.column "t" "id"),
        .oneOf (.column "tt" "tag_id") (.integers ids)],
        test.Holds fold ((viewOf t).add "tt" (linkColumns link))) ↔
      link.transaction = t.id ∧ link.tag ∈ ids := by
  have htransaction : (Operand.column "tt" "transaction_id").value?
      ((viewOf t).add "tt" (linkColumns link)) = some (.integer link.transaction) := rfl
  have hid : (Operand.column "t" "id").value? ((viewOf t).add "tt" (linkColumns link)) =
      some (.integer t.id) := rfl
  have htag : (Operand.column "tt" "tag_id").value? ((viewOf t).add "tt" (linkColumns link)) =
      some (.integer link.tag) := rfl
  have hids : (Param.integers ids).value? = some (.integers ids) := rfl
  rw [List.forall_mem_cons, List.forall_mem_singleton, Test.holds_compare .equal htransaction hid,
    Test.holds_oneOf htag hids]
  rfl

theorem holds_tag (ids : List Int) :
    Holds fold links t ⟨.tag, .integers ids⟩ ↔ ∃ id ∈ ids, ⟨t.id, id⟩ ∈ links := by
  change (∃ columns ∈ links.map linkColumns, _) ↔ _
  constructor
  · rintro ⟨columns, hcolumns, htests⟩
    obtain ⟨link, hlink, rfl⟩ := List.mem_map.mp hcolumns
    obtain ⟨hid, htag⟩ := (holds_tagTests ids link).mp htests
    refine ⟨link.tag, htag, ?_⟩
    rw [← hid]
    exact hlink
  · rintro ⟨id, hid, hlink⟩
    exact ⟨_, List.mem_map_of_mem hlink, (holds_tagTests ids ⟨t.id, id⟩).mpr ⟨rfl, hid⟩⟩

theorem holds_size (comparison : Comparison) (d : Decimal) :
    Holds fold links t ⟨.size comparison, .decimal d⟩ ↔
      comparison.relation.Between |t.amount| d.value := by
  change (Test.compare comparison.relation (.size "t" "amount") (.value (.decimal d))).Holds fold
    (viewOf t) ↔ _
  have hsize : (Operand.size "t" "amount").value? (viewOf t) = some (.number |t.amount|) := rfl
  have hd : (Operand.value (.decimal d)).value? (viewOf t) = some (.number d.value) := rfl
  exact Test.holds_compare comparison.relation hsize hd

theorem holds_notBefore (column : TimeColumn) (day : Date) :
    Holds fold links t ⟨.notBefore column, .midnight day⟩ ↔
      (day.dayNumber : Int) ≤ (timeIn t column).dayNumber := by
  change (Test.compare .atLeast (.column "t" column.name) (.value (.midnight day))).Holds fold
    (viewOf t) ↔ _
  have hday : (Operand.value (.midnight day)).value? (viewOf t) = some (.instant day.start) := rfl
  rw [Test.holds_compare .atLeast (value?_time column) hday]
  exact start_le_iff

theorem holds_before {day next : Date} (h : day.next = .ok next) (column : TimeColumn) :
    Holds fold links t ⟨.before column, .midnight next⟩ ↔
      (timeIn t column).dayNumber ≤ day.dayNumber := by
  change (Test.compare .less (.column "t" column.name) (.value (.midnight next))).Holds fold
    (viewOf t) ↔ _
  have hnext : (Operand.value (.midnight next)).value? (viewOf t) = some (.instant next.start) :=
    rfl
  rw [Test.holds_compare .less (value?_time column) hnext]
  exact lt_start_next_iff h

theorem holds_type (types : List String) :
    Holds fold links t ⟨.type, .texts types⟩ ↔ t.type ∈ types := by
  change (Test.oneOf (.column "t" "type") (.texts types)).Holds fold (viewOf t) ↔ _
  have hcolumn : (Operand.column "t" "type").value? (viewOf t) = some (.text t.type) := rfl
  have htypes : (Param.texts types).value? = some (.texts types) := rfl
  exact Test.holds_oneOf hcolumn htypes

/-! ## The conditions of a constraint -/

/-- All conditions hold of the transaction. -/
def AllHold (fold : Char → Char) (links : List TagLink) (t : Transaction) (cs : List Condition) :
    Prop :=
  ∀ c ∈ cs, c.Holds fold links t

theorem allHold_nil : AllHold fold links t [] :=
  List.forall_mem_nil _

theorem allHold_append (cs ds : List Condition) :
    AllHold fold links t (cs ++ ds) ↔ AllHold fold links t cs ∧ AllHold fold links t ds :=
  List.forall_mem_append

theorem allHold_singleton (c : Condition) : AllHold fold links t [c] ↔ c.Holds fold links t :=
  List.forall_mem_singleton

theorem allHold_words (words : List String) :
    AllHold fold links t (words.map ofWord) ↔
      ∀ word ∈ words, word.toList.map fold <:+: t.description.toList.map fold := by
  simp only [AllHold, List.forall_mem_map, holds_word]

theorem allHold_keys (column : KeyColumn) (ids : List Int) :
    AllHold fold links t (ofKeys column ids) ↔ RefersTo ids (keyIn t column) := by
  cases ids with
  | nil => exact iff_of_true allHold_nil fun h => absurd rfl h
  | cons id ids =>
    have hkeys : ofKeys column (id :: ids) = [⟨.key column, .integers (id :: ids)⟩] := rfl
    rw [hkeys, allHold_singleton, holds_key]
    exact (imp_iff_right (List.cons_ne_nil id ids)).symm

theorem allHold_tags (tags : List Entity) :
    AllHold fold links t (ofTags (tags.map (·.id))) ↔
      (tags ≠ [] → ∃ tag ∈ tags, ⟨t.id, tag.id⟩ ∈ links) := by
  cases tags with
  | nil => exact iff_of_true allHold_nil fun h => absurd rfl h
  | cons tag tags =>
    have htags : ofTags ((tag :: tags).map (·.id)) =
        [⟨.tag, .integers ((tag :: tags).map (·.id))⟩] := rfl
    rw [htags, allHold_singleton, holds_tag, imp_iff_right (List.cons_ne_nil tag tags)]
    simp only [List.mem_map, exists_exists_and_eq_and]

theorem allHold_amount (comparison : Comparison) (amount : Option Amount) :
    AllHold fold links t (ofAmount comparison amount) ↔
      ∀ a ∈ amount, comparison.relation.Between |t.amount| a.toDecimal.value := by
  cases amount with
  | none => exact iff_of_true allHold_nil fun _ h => nomatch h
  | some a =>
    rw [ofAmount, allHold_singleton, holds_size]
    simp

theorem allHold_types (types : List String) :
    AllHold fold links t (ofTypes types) ↔ (types ≠ [] → t.type ∈ types) := by
  cases types with
  | nil => exact iff_of_true allHold_nil fun h => absurd rfl h
  | cons type types =>
    have htypes : ofTypes (type :: types) = [⟨.type, .texts (type :: types)⟩] := rfl
    rw [htypes, allHold_singleton, holds_type]
    exact (imp_iff_right (List.cons_ne_nil type types)).symm

theorem allHold_text (column : TextColumn) (text : Option String) :
    AllHold fold links t (ofText column text) ↔ ∀ s ∈ text, textIn t column = some s := by
  cases text with
  | none => exact iff_of_true allHold_nil fun _ h => nomatch h
  | some s =>
    rw [ofText, allHold_singleton, holds_text]
    simp

theorem allHold_fromDay {column : TimeColumn} {day : Option Date} {cs : List Condition}
    (h : fromDay column day = .ok cs) :
    AllHold fold links t cs ↔ ∀ d ∈ day, (d.dayNumber : Int) ≤ (timeIn t column).dayNumber := by
  cases day with
  | none =>
    cases h
    exact iff_of_true allHold_nil fun _ h => nomatch h
  | some d =>
    obtain ⟨n, -, rfl⟩ := fromDay_some_eq_ok.mp h
    rw [allHold_singleton, holds_notBefore]
    simp

theorem allHold_upToDay {column : TimeColumn} {day : Option Date} {cs : List Condition}
    (h : upToDay column day = .ok cs) :
    AllHold fold links t cs ↔ ∀ d ∈ day, (timeIn t column).dayNumber ≤ d.dayNumber := by
  cases day with
  | none =>
    cases h
    exact iff_of_true allHold_nil fun _ h => nomatch h
  | some d =>
    obtain ⟨n, hn, rfl⟩ := upToDay_some_eq_ok.mp h
    rw [allHold_singleton, holds_before hn]
    simp

theorem allHold_ofDays {column : TimeColumn} {first last : Option Date} {cs : List Condition}
    (h : ofDays column first last = .ok cs) :
    AllHold fold links t cs ↔
      (∀ d ∈ first, (d.dayNumber : Int) ≤ (timeIn t column).dayNumber) ∧
        ∀ d ∈ last, (timeIn t column).dayNumber ≤ d.dayNumber := by
  obtain ⟨a, b, ha, hb, rfl⟩ := ofDays_eq_ok.mp h
  rw [allHold_append, allHold_fromDay ha, allHold_upToDay hb]

theorem allHold_range {range : Option DateRange} {cs : List Condition}
    (h : ofDays .date (range.map (·.first)) (range.map (·.last)) = .ok cs) :
    AllHold fold links t cs ↔ ∀ r ∈ range, (r.first.dayNumber : Int) ≤ t.date.dayNumber ∧
      t.date.dayNumber ≤ r.last.dayNumber := by
  rw [allHold_ofDays h]
  cases range with
  | none => simp
  | some r => simp [timeIn]

theorem allHold_day {column : TimeColumn} {day : Option Date} {cs : List Condition}
    (h : ofDays column day day = .ok cs) :
    AllHold fold links t cs ↔ ∀ d ∈ day, (timeIn t column).dayNumber = d.dayNumber := by
  rw [allHold_ofDays h]
  cases day with
  | none => simp
  | some d =>
    simp only [Option.mem_some_iff, forall_eq']
    omega

/-! ## The conditions of a filter -/

/-- The conditions of a filter say what the filter means. -/
theorem allHold_ofFilter {f : Filter} {cs : List Condition} (h : ofFilter f = .ok cs) :
    AllHold fold links t cs ↔ f.Accepts fold links t := by
  obtain ⟨range, hrange, h⟩ := bind_eq_ok.mp h
  obtain ⟨bounds, hbounds, h⟩ := bind_eq_ok.mp h
  obtain ⟨created, hcreated, h⟩ := bind_eq_ok.mp h
  obtain ⟨updated, hupdated, h⟩ := bind_eq_ok.mp h
  cases h
  simp only [allHold_append, allHold_words, allHold_keys, allHold_tags, allHold_amount,
    allHold_range hrange, allHold_ofDays hbounds, allHold_day hcreated, allHold_day hupdated,
    allHold_types, allHold_text]
  constructor
  · rintro ⟨⟨⟨⟨⟨⟨⟨⟨⟨⟨⟨⟨⟨⟨⟨⟨words, source⟩, destination⟩, category⟩, budget⟩, bill⟩, tags⟩, equals⟩,
      least⟩, most⟩, range⟩, after, before⟩, created⟩, updated⟩, types⟩, external⟩, reference⟩
    exact ⟨words, source, destination, category, budget, bill, tags, equals, least, most, range,
      before, after, created, updated, types, external, reference⟩
  · intro h
    exact ⟨⟨⟨⟨⟨⟨⟨⟨⟨⟨⟨⟨⟨⟨⟨⟨h.words, h.sourceAccounts⟩, h.destinationAccounts⟩, h.categories⟩,
      h.budgets⟩, h.bills⟩, h.tags⟩, h.amountEquals⟩, h.amountMin⟩, h.amountMax⟩, h.dateRange⟩,
      h.dateAfter, h.dateBefore⟩, h.createdOn⟩, h.updatedOn⟩, h.types⟩, h.externalId⟩,
      h.internalReference⟩

end Condition

theorem selects_iff_allHold {s : Statement} {cs : List Condition}
    (h : s.selection? = some ⟨"transactions", "t", cs.map Condition.clause⟩) :
    s.Selects fold links t ↔ Condition.AllHold fold links t cs := by
  rw [Statement.Selects, h]
  constructor
  · rintro ⟨selection, hselection, -, hclauses⟩ c hc
    cases hselection
    exact hclauses c.clause (List.mem_map_of_mem hc)
  · intro hall
    refine ⟨_, rfl, rfl, ?_⟩
    intro clause hclause
    obtain ⟨c, hc, rfl⟩ := List.mem_map.mp hclause
    exact hall c hc

theorem selects_countStatement_iff {f : Filter} {cs : List Condition}
    (h : Condition.ofFilter f = .ok cs) :
    (countStatement cs).Selects fold links t ↔ f.Accepts fold links t := by
  rw [selects_iff_allHold (selection?_countStatement cs), Condition.allHold_ofFilter h]

/-- The statement that counts selects the transactions that the filter accepts. -/
theorem countAll_selects_iff_accepts (fold : Char → Char) (links : List TagLink) (t : Transaction)
    {f : Filter} {s : Statement} (h : countAll f = .ok s) :
    s.Selects fold links t ↔ f.Accepts fold links t := by
  cases hcs : Condition.ofFilter f with
  | error e =>
    rw [countAll, hcs] at h
    cases h
  | ok cs =>
    rw [countAll, hcs] at h
    cases h
    rw [selects_iff_allHold (selection?_countStatement cs), Condition.allHold_ofFilter hcs]

/-- A purchase of the leap day is found by a part of its description, whose percent sign stands for
itself, and by one of its tags. -/
theorem countAll_selects_leapDay :
    let f : Filter :=
      { words := ["50% off"]
        tags := [⟨7, "food"⟩, ⟨8, "sale"⟩]
        dateBefore := some ⟨2024, 2, 29, by decide⟩ }
    ∃ s, countAll f = .ok s ∧
      s.Selects Char.toLower [⟨1, 8⟩]
        { id := 1
          date := ⟨1709251199999999⟩
          description := "Apples, 50% OFF"
          amount := -3
          type := "withdrawal"
          sourceAccount := some 1
          destinationAccount := none
          category := none
          budget := none
          bill := none
          externalId := none
          internalReference := none
          createdAt := ⟨1709251200000000⟩
          updatedAt := ⟨1709251200000000⟩ } := by
  intro f
  refine ⟨_, rfl, (countAll_selects_iff_accepts Char.toLower [⟨1, 8⟩] _ (f := f) rfl).mpr ?_⟩
  constructor
  case words =>
    intro word hword
    obtain rfl := List.mem_singleton.mp hword
    exact ⟨"apples, ".toList, [], rfl⟩
  case tags =>
    intro _
    exact ⟨⟨8, "sale"⟩, List.mem_cons_of_mem _ (List.mem_singleton.mpr rfl),
      List.mem_singleton.mpr rfl⟩
  case dateBefore =>
    rintro day ⟨⟩
    decide +kernel
  all_goals simp [f, RefersTo]

/-- Before it is cut into pages, the statement of a page selects the same transactions. -/
theorem selectPage_selects_iff_accepts (fold : Char → Char) (links : List TagLink) (t : Transaction)
    {f : Filter} {page pageSize : Int} {s : Statement} (h : selectPage f page pageSize = .ok s) :
    s.Selects fold links t ↔ f.Accepts fold links t := by
  rw [selectPage] at h
  split at h
  · cases h
  · split at h
    · cases h
    · split at h
      · rename_i cs hcs
        cases h
        rw [selects_iff_allHold (selection?_selectStatement cs page pageSize),
          Condition.allHold_ofFilter hcs]
      · cases h

end LedgerSearch.Sql
