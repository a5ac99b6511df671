import Mathlib.Data.Fintype.EquivFin
import LedgerSearch.Proofs.Filter.Amounts
import LedgerSearch.Proofs.Sql.Paging
import LedgerSearch.Proofs.Sql.Selection
import LedgerSearch.Proofs.Sql.Unconstrained

/-!
# Filters that every transaction satisfies

A filter may have constraints and yet leave no transaction out: every description
holds the empty word, no size lies below zero, and no transaction is dated before
the day from which on all of them are. There is no other constraint of that kind,
because a transaction may refer to no entity and have no texts of its own, and its
type, its size and its dates may be others than those that a filter names.

* `Filter.IsVacuous`: no constraint but those.
* `Filter.isVacuous_of_accepts_bare`: transactions that nothing is said of tell.
* `selectsAll_countStatement_iff`: the statements that select every transaction.
* `listsAll_selectStatement_iff`: the statements whose page is always a page of all.
-/

namespace LedgerSearch

open Calendar

/-! ## Transactions from a day on -/

/-- The transaction is dated this day or later, if there is such a day. -/
def Transaction.IsSince (since : Option Date) (t : Transaction) : Prop :=
  ∀ day ∈ since, (day.dayNumber : Int) ≤ t.date.dayNumber

/-- There is an instant on every day, inside the calendar or not. -/
theorem Calendar.Instant.exists_dayNumber_eq (n : Int) : ∃ x : Instant, x.dayNumber = n := by
  refine ⟨⟨(n - Notation.epochDay) * microsecondsPerDay⟩, ?_⟩
  rw [dayNumber, Int.mul_ediv_cancel _ (by decide)]
  omega

/-- A transaction that refers to nothing and that nothing is said of. -/
def Transaction.bare (id : Int) (type : String) (date : Instant) (amount : Rat) : Transaction where
  id := id
  date := date
  description := ""
  amount := amount
  type := type
  sourceAccount := none
  destinationAccount := none
  category := none
  budget := none
  bill := none
  externalId := none
  internalReference := none
  createdAt := date
  updatedAt := date

/-! ## Constraints that leave nothing out -/

/-- No transaction of these days fails a constraint of the filter: words are empty, the least size
is zero, and the first day is not later than that of the transactions. Nothing else is asked. -/
structure Filter.IsVacuous (since : Option Date) (f : Filter) : Prop where
  words : ∀ word ∈ f.words, word = ""
  amountMin : ∀ a ∈ f.amountMin, a.toDecimal.value = 0
  dateAfter : ∀ day ∈ f.dateAfter, ∃ first ∈ since, day ≤ first
  others : { f with words := [], amountMin := none, dateAfter := none } = Filter.empty

section

variable {since : Option Date} {fold : Char → Char} {links : List TagLink} {f : Filter}
  {t : Transaction}

theorem Filter.isVacuous_empty (since : Option Date) : Filter.empty.IsVacuous since where
  words := List.forall_mem_nil _
  amountMin _ h := nomatch h
  dateAfter _ h := nomatch h
  others := rfl

/-- A vacuous filter accepts every transaction of its days. -/
theorem Filter.IsVacuous.accepts (h : f.IsVacuous since) (ht : t.IsSince since) :
    f.Accepts fold links t := by
  obtain ⟨-, sources, destinations, categories, budgets, tags, bills, equals, -, most, range,
    before, -, created, updated, types, externalId, reference⟩ := Filter.eq_empty_iff.mp h.others
  dsimp only at *
  constructor
  case words =>
    intro word hword
    rw [h.words word hword]
    exact List.nil_infix
  case amountMin =>
    intro a ha
    rw [h.amountMin a ha]
    exact abs_nonneg _
  case dateAfter =>
    intro day hday
    obtain ⟨first, hfirst, hle⟩ := h.dateAfter day hday
    exact (Int.ofNat_le.mpr hle).trans (ht first hfirst)
  all_goals
    simp [RefersTo, sources, destinations, categories, budgets, tags, bills, equals, most, range,
      before, created, updated, types, externalId, reference]

/-- Where nothing is referred to, only no demand is met. -/
theorem refersTo_none_iff {α : Type} {g : α → Int} {as : List α} :
    RefersTo (as.map g) none ↔ as = [] := by
  cases as with
  | nil => exact iff_of_true (fun h => absurd rfl h) rfl
  | cons a as => simp [RefersTo]

/-- A constraint on one value that holds of none is not set. -/
theorem eq_none_of_forall_not {α : Type} {o : Option α} (h : ∀ a ∈ o, False) : o = none :=
  Option.eq_none_iff_forall_not_mem.mpr h

/-- There is a larger size than that of an amount. -/
theorem Amount.value_lt_abs (a : Amount) : a.toDecimal.value < |a.toDecimal.value + 1| :=
  lt_of_lt_of_le (lt_add_one _) (le_abs_self _)

section Bare

variable {id : Int} {type : String} {date : Instant} {amount : Rat}

/-- An empty description holds only the empty word. -/
theorem Filter.Accepts.word_eq_empty (h : f.Accepts fold [] (.bare id type date amount)) :
    ∀ word ∈ f.words, word = "" := by
  intro word hword
  have hinfix : word.toList.map fold <:+: [] := h.words word hword
  exact String.toList_eq_nil_iff.mp (List.map_eq_nil_iff.mp (List.infix_nil.mp hinfix))

/-- A transaction of no size shows that the least size is zero. -/
theorem Filter.Accepts.amountMin_eq_zero (h : f.Accepts fold [] (.bare id type date 0)) :
    ∀ a ∈ f.amountMin, a.toDecimal.value = 0 := by
  intro a ha
  have hsize : 0 ≤ a.toDecimal.value :=
    not_lt.mp fun hlt => a.not_isBelowZero (Decimal.isBelowZero_iff.mpr hlt)
  have hle : a.toDecimal.value ≤ |0| := h.amountMin a ha
  rw [abs_zero] at hle
  exact le_antisymm hle hsize

/-- Where transactions of every size are accepted, no size bounds them from above. -/
theorem Filter.amounts_of_accepts_bare
    (h : ∀ amount, f.Accepts fold [] (.bare id type date amount)) :
    f.amountEquals = none ∧ f.amountMax = none := by
  constructor
  · refine eq_none_of_forall_not fun a ha => ?_
    exact absurd ((h (a.toDecimal.value + 1)).amountEquals a ha) a.value_lt_abs.ne'
  · refine eq_none_of_forall_not fun a ha => ?_
    exact absurd ((h (a.toDecimal.value + 1)).amountMax a ha) a.value_lt_abs.not_ge

/-- A transaction that is later than all days of the filter shows that no day bounds it from above
or is asked for. -/
theorem Filter.Accepts.days_bare (h : f.Accepts fold [] (.bare id type date amount))
    (hlate : ∀ day ∈ f.days, (day.dayNumber : Int) < date.dayNumber) :
    f.dateRange = none ∧ f.dateBefore = none ∧ f.createdOn = none ∧ f.updatedOn = none := by
  refine ⟨eq_none_of_forall_not ?range, eq_none_of_forall_not ?before,
    eq_none_of_forall_not ?created, eq_none_of_forall_not ?updated⟩
  case range =>
    rintro range (hrange : f.dateRange = some range)
    have hlast := hlate range.last (by simp [days, hrange])
    exact absurd (h.dateRange range hrange).2 hlast.not_ge
  case before =>
    rintro day (hday : f.dateBefore = some day)
    have hlast := hlate day (by simp [days, hday])
    exact absurd (h.dateBefore day hday) hlast.not_ge
  case created =>
    rintro day (hday : f.createdOn = some day)
    have hlast := hlate day (by simp [days, hday])
    exact absurd (h.createdOn day hday) hlast.ne'
  case updated =>
    rintro day (hday : f.updatedOn = some day)
    have hlast := hlate day (by simp [days, hday])
    exact absurd (h.updatedOn day hday) hlast.ne'

/-- A transaction that refers to nothing shows that no entity and no text is asked for, and no type
unless its own. -/
theorem Filter.Accepts.references_bare (h : f.Accepts fold [] (.bare id type date amount))
    (htype : type ∉ f.types) :
    f.sourceAccounts = [] ∧ f.destinationAccounts = [] ∧ f.categories = [] ∧ f.budgets = [] ∧
      f.tags = [] ∧ f.bills = [] ∧ f.types = [] ∧ f.externalId = none ∧
      f.internalReference = none := by
  refine ⟨refersTo_none_iff.mp h.sourceAccounts, refersTo_none_iff.mp h.destinationAccounts,
    refersTo_none_iff.mp h.categories, refersTo_none_iff.mp h.budgets, ?tags,
    refersTo_none_iff.mp h.bills, ?types, eq_none_of_forall_not ?externalId,
    eq_none_of_forall_not ?reference⟩
  case tags =>
    by_contra hne
    obtain ⟨tag, -, hlink⟩ := h.tags hne
    cases hlink
  case types =>
    by_contra hne
    exact htype (h.types hne)
  case externalId =>
    intro s hs
    cases h.externalId s hs
  case reference =>
    intro s hs
    cases h.internalReference s hs

/-- Where all transactions of some days are accepted, the filter begins on the first of them or
earlier. -/
theorem Filter.dateAfter_of_accepts_bare
    (h : ∀ date, (Transaction.bare id type date amount).IsSince since →
      f.Accepts fold [] (.bare id type date amount)) :
    ∀ day ∈ f.dateAfter, ∃ first ∈ since, day ≤ first := by
  intro day hday
  cases since with
  | none =>
    -- The calendar has no day of number zero, but there is an instant on it.
    obtain ⟨early, hearly⟩ := Instant.exists_dayNumber_eq 0
    have hle : (day.dayNumber : Int) ≤ early.dayNumber := (h early nofun).dateAfter day hday
    have hone := day.one_le_dayNumber
    omega
  | some first =>
    obtain ⟨early, hearly⟩ := Instant.exists_dayNumber_eq first.dayNumber
    have hsince : (Transaction.bare id type early amount).IsSince (some first) := by
      rintro _ ⟨⟩
      exact hearly.ge
    have hle : (day.dayNumber : Int) ≤ early.dayNumber := (h early hsince).dateAfter day hday
    rw [hearly] at hle
    exact ⟨first, rfl, Int.ofNat_le.mp hle⟩

end Bare

/-- If a filter that does not name the last day accepts what nothing is said of, then it leaves
nothing out. Each constraint is told by some size, on the last day or on the first of the days. -/
theorem Filter.isVacuous_of_accepts_bare {id : Int} {type : String}
    (hdays : ∀ day ∈ f.days, day ≠ Date.last) (htype : type ∉ f.types)
    (haccepts : ∀ date amount, (Transaction.bare id type date amount).IsSince since →
      f.Accepts fold [] (.bare id type date amount)) : f.IsVacuous since := by
  obtain ⟨lastDay, hlastDay⟩ := Instant.exists_dayNumber_eq Date.last.dayNumber
  have hlast (amount : Rat) : f.Accepts fold [] (.bare id type lastDay amount) := by
    refine haccepts lastDay amount fun day _ => ?_
    change (day.dayNumber : Int) ≤ lastDay.dayNumber
    rw [hlastDay]
    exact Int.ofNat_le.mpr (Date.le_last day)
  have hlate : ∀ day ∈ f.days, (day.dayNumber : Int) < lastDay.dayNumber := by
    intro day hday
    have hle : day.dayNumber ≤ Date.last.dayNumber := Date.le_last day
    have hne : day.dayNumber ≠ Date.last.dayNumber :=
      fun h => hdays day hday (Date.dayNumber_injective h)
    omega
  obtain ⟨hequals, hmost⟩ := Filter.amounts_of_accepts_bare hlast
  obtain ⟨hrange, hbefore, hcreated, hupdated⟩ := (hlast 0).days_bare hlate
  obtain ⟨hsources, hdestinations, hcategories, hbudgets, htags, hbills, htypes, hexternal,
    hreference⟩ := (hlast 0).references_bare htype
  exact ⟨(hlast 0).word_eq_empty, (hlast 0).amountMin_eq_zero,
    Filter.dateAfter_of_accepts_bare fun date => haccepts date 0,
    Filter.eq_empty_iff.mpr ⟨rfl, hsources, hdestinations, hcategories, hbudgets, htags, hbills,
      hequals, rfl, hmost, hrange, hbefore, rfl, hcreated, hupdated, htypes, hexternal,
      hreference⟩⟩

/-- Without links, the number of a transaction makes no difference. -/
theorem Filter.Accepts.bare_id {id other : Int} {type : String} {date : Instant} {amount : Rat}
    (h : f.Accepts fold [] (.bare id type date amount)) :
    f.Accepts fold [] (.bare other type date amount) where
  words := h.words
  sourceAccounts := h.sourceAccounts
  destinationAccounts := h.destinationAccounts
  categories := h.categories
  budgets := h.budgets
  bills := h.bills
  tags hne := by
    obtain ⟨tag, -, hlink⟩ := h.tags hne
    cases hlink
  amountEquals := h.amountEquals
  amountMin := h.amountMin
  amountMax := h.amountMax
  dateRange := h.dateRange
  dateBefore := h.dateBefore
  dateAfter := h.dateAfter
  createdOn := h.createdOn
  updatedOn := h.updatedOn
  types := h.types
  externalId := h.externalId
  internalReference := h.internalReference

/-- What is not vacuous leaves out a transaction that nothing is said of, whatever its number. -/
theorem Filter.exists_bare_not_accepts (hdays : ∀ day ∈ f.days, day ≠ Date.last)
    (h : ¬ f.IsVacuous since) (fold : Char → Char) :
    ∃ type date amount, ∀ id, (Transaction.bare id type date amount).IsSince since ∧
      ¬ f.Accepts fold [] (.bare id type date amount) := by
  obtain ⟨type, htype⟩ := Infinite.exists_notMem_finset f.types.toFinset
  rw [List.mem_toFinset] at htype
  by_contra hnone
  have haccepts (date : Instant) (amount : Rat)
      (hsince : (Transaction.bare 0 type date amount).IsSince since) :
      f.Accepts fold [] (.bare 0 type date amount) := by
    by_contra hnot
    exact hnone ⟨type, date, amount, fun id => ⟨hsince, fun haccepts => hnot haccepts.bare_id⟩⟩
  exact h (isVacuous_of_accepts_bare hdays htype haccepts)

end

namespace Sql

/-! ## Statements that select everything -/

/-- The statement selects every transaction of these days. -/
def Statement.SelectsAll (since : Option Date) (s : Statement) : Prop :=
  ∀ (fold : Char → Char) (links : List TagLink) (t : Transaction), t.IsSince since →
    s.Selects fold links t

/-- From every table of transactions of these days, the statement lists a page of all of them. The
transactions of a table have different numbers. -/
def Statement.ListsAll (since : Option Date) (page pageSize : Int) (s : Statement) : Prop :=
  ∀ (fold : Char → Char) (links : List TagLink) (table rows : List Transaction),
    (table.map (·.id)).Nodup → (∀ t ∈ table, t.IsSince since) →
      (s.Lists fold links table rows ↔
        ∃ ordered : List Transaction, ordered.Perm table ∧ ordered.Pairwise Precedes ∧
          rows = pageOf pageSize.toNat ordered (page - 1).toNat)

section

variable {since : Option Date} {f : Filter} {cs : List Condition}
  (hcs : Condition.ofFilter f = .ok cs)

include hcs

theorem selectsAll_countStatement_iff :
    (countStatement cs).SelectsAll since ↔ f.IsVacuous since := by
  have hdays := (Condition.exists_ofFilter_iff f).mp ⟨cs, hcs⟩
  constructor
  · intro hall
    by_contra hnot
    obtain ⟨type, date, amount, hbare⟩ := Filter.exists_bare_not_accepts hdays hnot id
    obtain ⟨hsince, hrejected⟩ := hbare 0
    exact hrejected ((selects_countStatement_iff hcs).mp (hall id [] _ hsince))
  · intro hvacuous fold links t ht
    exact (selects_countStatement_iff hcs).mpr (hvacuous.accepts ht)

theorem selectsAll_selectStatement_iff (page pageSize : Int) :
    (selectStatement cs page pageSize).SelectsAll since ↔ f.IsVacuous since := by
  rw [← selectsAll_countStatement_iff hcs]
  simp only [Statement.SelectsAll, selects_selectStatement_iff]

/-- A page of a filter is always a page of all transactions exactly if the filter leaves nothing
out. Otherwise there is a table that fills the page with what it leaves out. -/
theorem listsAll_selectStatement_iff {page pageSize : Int} (hpage : 1 ≤ page)
    (hsize : 1 ≤ pageSize) :
    (selectStatement cs page pageSize).ListsAll since page pageSize ↔ f.IsVacuous since := by
  have hdays := (Condition.exists_ofFilter_iff f).mp ⟨cs, hcs⟩
  constructor
  · intro hall
    by_contra hnot
    obtain ⟨type, date, amount, hbare⟩ := Filter.exists_bare_not_accepts hdays hnot id
    let table : List Transaction := (List.range (page.toNat * pageSize.toNat)).map fun n : Nat =>
      .bare n type date amount
    have hids : (table.map (·.id)).Nodup := by
      rw [List.map_map]
      exact List.nodup_range.map Nat.cast_injective
    have hsince : ∀ t ∈ table, t.IsSince since :=
      List.forall_mem_map.mpr fun n _ => (hbare n).1
    have hnone : table.filter ((countStatement cs).Selects id [] ·) = [] := by
      rw [List.filter_eq_nil_iff]
      refine List.forall_mem_map.mpr fun n _ => ?_
      rw [decide_eq_true_eq, selects_countStatement_iff hcs]
      exact (hbare n).2
    have hlists : (selectStatement cs page pageSize).Lists id [] table [] := by
      rw [lists_selectStatement_iff cs hpage hsize, hnone]
      exact ⟨[], .refl _, .nil, by rw [pageOf, List.drop_nil, List.take_nil]⟩
    obtain ⟨ordered, hperm, -, hrows⟩ := (hall id [] table [] hids hsince).mp hlists
    have hlength : ordered.length = page.toNat * pageSize.toNat := by
      rw [hperm.length_eq, List.length_map, List.length_range]
    refine (pageOf_ne_nil_iff (by omega)).mpr ?_ hrows.symm
    rw [hlength]
    exact Nat.mul_lt_mul_of_pos_right (by omega) (by omega)
  · intro hvacuous fold links table rows _ hsince
    rw [lists_selectStatement_iff cs hpage hsize, List.filter_eq_self.mpr]
    intro t ht
    rw [decide_eq_true_eq, selects_countStatement_iff hcs]
    exact hvacuous.accepts (hsince t ht)

end

end Sql

end LedgerSearch
