import Mathlib.Data.List.Nodup
import LedgerSearch.Proofs.Sql.Conditions
import LedgerSearch.Proofs.Sql.Meaning

/-!
# Pages of transactions

The end of a statement says how the selected rows are ordered, how many of them
are skipped and how many after these are kept. The statement of a page lists the
rows that the counting statement counts, the latest first; numbers tell rows of
the same date apart, so there is only one such list, and the pages cut it into
pieces.

* `Statement.paging?`: reads the end of a statement.
* `Statement.Lists`: the rows answer a statement that selects a page.
* `paging?_selectStatement`: what the end of the statement of a page says.
* `Precedes.exists_sorted`, `eq_of_sorted`: the list that the pages are cut from.
* `paginates_pageOf`: the pieces of a list are its pages.
-/

namespace LedgerSearch.Sql

open Calendar

/-! ## Reading the end of a statement -/

/-- A column to order by, from the least value up or from the greatest one down. -/
structure SortKey where
  row : String
  column : String
  descending : Bool
  deriving DecidableEq

/-- How rows are ordered, how many of them are kept, and how many are skipped before. -/
structure Paging where
  order : List SortKey
  limit : Nat
  offset : Nat
  deriving DecidableEq

/-- The columns to order by, between commas, and what follows them. -/
def sortKeys? : List Token → Option (List SortKey × List Token)
  | .symbol row :: .symbol "." :: .symbol column :: .symbol "DESC" :: .symbol "," :: ts =>
    (sortKeys? ts).map fun (keys, rest) => (⟨row, column, true⟩ :: keys, rest)
  | .symbol row :: .symbol "." :: .symbol column :: .symbol "," :: ts =>
    (sortKeys? ts).map fun (keys, rest) => (⟨row, column, false⟩ :: keys, rest)
  | .symbol row :: .symbol "." :: .symbol column :: .symbol "DESC" :: ts =>
    some ([⟨row, column, true⟩], ts)
  | .symbol row :: .symbol "." :: .symbol column :: ts => some ([⟨row, column, false⟩], ts)
  | _ => none

/-- Reads how many rows are kept and how many are skipped. Neither number is negative. -/
def bounds? : List Token → Option (Nat × Nat)
  | [.symbol "LIMIT", .value (.integer limit), .symbol "OFFSET", .value (.integer offset)] =>
    if 0 ≤ limit ∧ 0 ≤ offset then some (limit.toNat, offset.toNat) else none
  | _ => none

/-- Reads the end of a statement. -/
def paging? : List Token → Option Paging
  | .symbol "ORDER" :: .symbol "BY" :: ts => do
    let (order, ts) ← sortKeys? ts
    let (limit, offset) ← bounds? ts
    return ⟨order, limit, offset⟩
  | _ => none

/-- What a statement says at its end. -/
def Statement.paging? (s : Statement) : Option Paging :=
  (place? (symbols s.text.toList) s.params).bind fun ts =>
    Sql.paging? (ts.dropWhile (· != .symbol "ORDER"))

theorem mem_of_place? {ss : List String} {vs : List Param} {ts : List Token} {s : String}
    (h : place? ss vs = some ts) (hs : .symbol s ∈ ts) : s ∈ ss := by
  induction ss generalizing vs ts with
  | nil =>
    cases vs with
    | nil =>
      cases h
      cases hs
    | cons v vs => cases h
  | cons first ss ih =>
    rw [place?] at h
    split at h
    · obtain ⟨v, -, h⟩ := Option.bind_eq_some_iff.mp h
      obtain ⟨us, hus, rfl⟩ := Option.map_eq_some_iff.mp h
      rcases List.mem_cons.mp hs with hs | hs
      · cases hs
      · exact List.mem_cons_of_mem _ (ih hus hs)
    · obtain ⟨us, hus, rfl⟩ := Option.map_eq_some_iff.mp h
      rcases List.mem_cons.mp hs with hs | hs
      · cases hs
        exact List.mem_cons_self
      · exact List.mem_cons_of_mem _ (ih hus hs)

/-- No condition mentions an order. -/
theorem order_notMem_conjunction (c : Condition) (cs : List Condition) :
    "ORDER" ∉ symbols (" AND ".intercalate ((c :: cs).map (·.predicate.sql))).toList := by
  have hcondition : ∀ p : Predicate, "ORDER" ∉ p.symbols := by
    intro p
    cases p with
    | description | tag | type => decide
    | key column | notBefore column | before column | text column => cases column <;> decide
    | size comparison => cases comparison <;> decide
  induction cs generalizing c with
  | nil =>
    rw [List.map_singleton, String.intercalate_singleton, Condition.symbols_sql]
    exact hcondition c.predicate
  | cons d cs ih =>
    rw [List.map_cons, List.map_cons, String.intercalate_cons_cons, symbols_and,
      Condition.symbols_sql, List.mem_append, List.mem_cons]
    rintro (h | h | h)
    · exact hcondition c.predicate h
    · exact absurd h (by decide)
    · exact ih d h

theorem order_notMem_fromWhere (cs : List Condition) :
    "ORDER" ∉ symbols (fromWhere cs).toList := by
  cases cs with
  | nil => decide
  | cons c cs =>
    rw [symbols_fromWhere, List.mem_append]
    rintro (h | h)
    · exact absurd h (by decide)
    · exact order_notMem_conjunction c cs h

/-- The end of the statement of a page, with its values. -/
def pageEnding (limit offset : Int) : List Token :=
  [.symbol "ORDER", .symbol "BY", .symbol "t", .symbol ".", .symbol "date", .symbol "DESC",
    .symbol ",", .symbol "t", .symbol ".", .symbol "id", .symbol "DESC",
    .symbol "LIMIT", .value (.integer limit), .symbol "OFFSET", .value (.integer offset)]

theorem exists_place?_selectStatement (cs : List Condition) (page pageSize : Int) :
    ∃ ts, .symbol "ORDER" ∉ ts ∧
      place? (symbols (selectStatement cs page pageSize).text.toList)
        (selectStatement cs page pageSize).params =
          some (ts ++ pageEnding pageSize ((page - 1) * pageSize)) := by
  obtain ⟨ts, hplace, -⟩ := exists_fromWhere cs
  have hhead : place? selectOpening [] = some (selectOpening.map .symbol) := rfl
  have hending : place? selectEnding [.integer pageSize, .integer ((page - 1) * pageSize)] =
      some (pageEnding pageSize ((page - 1) * pageSize)) := rfl
  refine ⟨selectOpening.map .symbol ++
    ([.symbol "FROM", .symbol "transactions", .symbol "t"] ++ ts), ?_, ?_⟩
  · rw [List.mem_append]
    rintro (h | h)
    · exact absurd h (by decide)
    · exact order_notMem_fromWhere cs (mem_of_place? hplace h)
  · rw [symbols_selectStatement, selectStatement, ← List.nil_append (cs.map (·.param) ++ _),
      place?_append hhead, place?_append hplace, hending]
    simp only [Option.map_some, List.append_assoc]

/-- The latest transactions come first, and among those of one date the ones with the greatest
numbers. -/
def pageOrder : List SortKey :=
  [⟨"t", "date", true⟩, ⟨"t", "id", true⟩]

theorem paging?_pageEnding {limit offset : Int} (hlimit : 0 ≤ limit) (hoffset : 0 ≤ offset) :
    Sql.paging? (pageEnding limit offset) = some ⟨pageOrder, limit.toNat, offset.toNat⟩ := by
  have hbounds : bounds? [.symbol "LIMIT", .value (.integer limit), .symbol "OFFSET",
      .value (.integer offset)] = some (limit.toNat, offset.toNat) :=
    if_pos ⟨hlimit, hoffset⟩
  change (bounds? _).bind (fun bounds => some (Paging.mk pageOrder bounds.1 bounds.2)) = _
  rw [hbounds]
  rfl

/-- The statement of a page skips what stands on the pages before. -/
theorem paging?_selectStatement (cs : List Condition) {page pageSize : Int} (hpage : 1 ≤ page)
    (hsize : 1 ≤ pageSize) :
    (selectStatement cs page pageSize).paging? =
      some ⟨pageOrder, pageSize.toNat, ((page - 1) * pageSize).toNat⟩ := by
  obtain ⟨ts, horder, hplace⟩ := exists_place?_selectStatement cs page pageSize
  have hbefore : ∀ t ∈ ts, (t != .symbol "ORDER") = true := by
    intro t ht
    rw [bne_iff_ne]
    rintro rfl
    exact horder ht
  have hoffset : 0 ≤ (page - 1) * pageSize := Int.mul_nonneg (by omega) (by omega)
  rw [Statement.paging?, hplace, Option.bind_some, List.dropWhile_append_of_pos hbefore]
  exact paging?_pageEnding (by omega) hoffset

/-! ## Answers -/

/-- The first row has to come before the second one. -/
def SortKey.Before (key : SortKey) (a b : View) : Prop :=
  ∃ x ∈ a key.row key.column, ∃ y ∈ b key.row key.column,
    if key.descending then y.Compares .less x else x.Compares .less y

/-- The two rows agree in the column. -/
def SortKey.Ties (key : SortKey) (a b : View) : Prop :=
  ∃ x ∈ a key.row key.column, ∃ y ∈ b key.row key.column, x.Compares .equal y

/-- The first row may come before the second one: the first column in which they differ decides. -/
def InOrder : List SortKey → View → View → Prop
  | [], _, _ => True
  | key :: keys, a, b => key.Before a b ∨ (key.Ties a b ∧ InOrder keys a b)

section

variable (fold : Char → Char) (links : List TagLink)

/-- The rows answer a statement that selects a page of a table: all that it selects can be put into
its order such that the rows are those that are kept after the ones that are skipped. -/
def Statement.Lists (s : Statement) (table rows : List Transaction) : Prop :=
  ∃ selection ∈ s.selection?, ∃ paging ∈ s.paging?, ∃ ordered : List Transaction,
    ordered.Perm (table.filter (s.Selects fold links ·)) ∧
    ordered.Pairwise (fun a b => InOrder paging.order
      (View.only selection.row (transactionColumns a))
      (View.only selection.row (transactionColumns b))) ∧
    rows = (ordered.drop paging.offset).take paging.limit

/-- The number of rows of a table that a statement selects. -/
def Statement.counted (s : Statement) (table : List Transaction) : Nat :=
  table.countP (s.Selects fold links ·)

end

/-! ## The order of transactions -/

/-- One transaction comes before another: it has a later date, or the same date and a greater
number. -/
def ComesBefore (a b : Transaction) : Prop :=
  b.date < a.date ∨ (a.date = b.date ∧ b.id < a.id)

/-- One transaction comes no later than another. -/
def Precedes (a b : Transaction) : Prop :=
  b.date < a.date ∨ (a.date = b.date ∧ b.id ≤ a.id)

instance (a b : Transaction) : Decidable (Precedes a b) :=
  inferInstanceAs (Decidable (_ ∨ (_ ∧ _)))

namespace Precedes

variable {a b c : Transaction}

theorem iff_microseconds : Precedes a b ↔ b.date.microseconds < a.date.microseconds ∨
    (a.date.microseconds = b.date.microseconds ∧ b.id ≤ a.id) := by
  have hdate : a.date = b.date ↔ a.date.microseconds = b.date.microseconds :=
    ⟨congrArg Instant.microseconds, congrArg Instant.mk⟩
  rw [Precedes, hdate]
  rfl

theorem trans (hab : Precedes a b) (hbc : Precedes b c) : Precedes a c := by
  rw [iff_microseconds] at *
  omega

theorem total (a b : Transaction) : Precedes a b ∨ Precedes b a := by
  rw [iff_microseconds, iff_microseconds]
  omega

theorem id_eq (hab : Precedes a b) (hba : Precedes b a) : a.id = b.id := by
  rw [iff_microseconds] at *
  omega

theorem comesBefore (hab : Precedes a b) (hid : a.id ≠ b.id) : ComesBefore a b := by
  rcases hab with hdate | ⟨hdate, hle⟩
  · exact .inl hdate
  · exact .inr ⟨hdate, by omega⟩

/-- Transactions can always be put into order. -/
theorem exists_sorted (l : List Transaction) :
    ∃ ordered : List Transaction, ordered.Perm l ∧ ordered.Pairwise Precedes := by
  have htrans : ∀ a b c : Transaction, decide (Precedes a b) = true →
      decide (Precedes b c) = true → decide (Precedes a c) = true := by
    simp only [decide_eq_true_eq]
    exact fun _ _ _ => trans
  have htotal : ∀ a b : Transaction, (decide (Precedes a b) || decide (Precedes b a)) = true := by
    simp only [Bool.or_eq_true, decide_eq_true_eq]
    exact total
  have hsorted := List.pairwise_mergeSort htrans htotal l
  exact ⟨_, List.mergeSort_perm _ _, hsorted.imp of_decide_eq_true⟩

/-- Transactions with different numbers have one order only. -/
theorem eq_of_sorted {l ordered other : List Transaction} (hids : (l.map (·.id)).Nodup)
    (hperm : ordered.Perm l) (hordered : ordered.Pairwise Precedes) (hperm' : other.Perm l)
    (hother : other.Pairwise Precedes) : ordered = other := by
  refine (hperm.trans hperm'.symm).eq_of_pairwise ?_ hordered hother
  intro a b ha hb hab hba
  exact List.inj_on_of_nodup_map hids (hperm.subset ha) (hperm'.subset hb) (id_eq hab hba)

end Precedes

theorem SortKey.before_iff {key : SortKey} {a b : View} {x y : Value}
    (hx : a key.row key.column = some x) (hy : b key.row key.column = some y) :
    key.Before a b ↔ if key.descending then y.Compares .less x else x.Compares .less y := by
  simp only [Before, hx, hy, Option.mem_some_iff, exists_eq_left']

theorem SortKey.ties_iff {key : SortKey} {a b : View} {x y : Value}
    (hx : a key.row key.column = some x) (hy : b key.row key.column = some y) :
    key.Ties a b ↔ x.Compares .equal y := by
  simp only [Ties, hx, hy, Option.mem_some_iff, exists_eq_left']

/-- What the statement of a page asks for is the order of transactions. -/
theorem inOrder_pageOrder_iff {a b : Transaction} :
    InOrder pageOrder (View.only "t" (transactionColumns a))
      (View.only "t" (transactionColumns b)) ↔ Precedes a b := by
  have hdate (t : Transaction) : View.only "t" (transactionColumns t) "t" "date" =
      some (.instant t.date) := rfl
  have hid (t : Transaction) : View.only "t" (transactionColumns t) "t" "id" =
      some (.integer t.id) := rfl
  rw [pageOrder, InOrder, InOrder, InOrder, SortKey.before_iff (hdate a) (hdate b),
    SortKey.ties_iff (hdate a) (hdate b), SortKey.before_iff (hid a) (hid b),
    SortKey.ties_iff (hid a) (hid b), and_true, if_pos rfl, if_pos rfl]
  change b.date < a.date ∨ (a.date = b.date ∧ (b.id < a.id ∨ a.id = b.id)) ↔
    b.date < a.date ∨ (a.date = b.date ∧ b.id ≤ a.id)
  rw [Int.le_iff_lt_or_eq, eq_comm (a := a.id)]

/-! ## Pieces of a list -/

section

variable {α : Type} {size : Nat} {l : List α}

/-- The piece of a list after so many pieces of this size. -/
def pageOf (size : Nat) (l : List α) (before : Nat) : List α :=
  (l.drop (before * size)).take size

theorem pageOf_sublist (i : Nat) : (pageOf size l i).Sublist l :=
  (List.take_sublist _ _).trans (List.drop_sublist _ _)

/-- The first pieces make up the beginning of the list. -/
theorem flatMap_pageOf (k : Nat) : (List.range k).flatMap (pageOf size l) = l.take (k * size) := by
  induction k with
  | zero => simp
  | succ k ih =>
    rw [List.range_succ, List.flatMap_append, ih, Nat.succ_mul, List.take_add]
    simp [pageOf]

theorem length_pageOf (i : Nat) : (pageOf size l i).length = min size (l.length - i * size) := by
  rw [pageOf, List.length_take, List.length_drop]

theorem pageOf_ne_nil_iff (hsize : 0 < size) {i : Nat} :
    pageOf size l i ≠ [] ↔ i * size < l.length := by
  rw [← List.length_pos_iff, length_pageOf]
  omega

/-- A piece is full if a later one holds anything. -/
theorem length_pageOf_of_lt {i j : Nat} (hij : i < j) (hj : pageOf size l j ≠ []) :
    (pageOf size l i).length = size := by
  rw [← List.length_pos_iff, length_pageOf] at hj
  have hle : (i + 1) * size ≤ j * size := Nat.mul_le_mul_right size hij
  rw [Nat.add_mul, Nat.one_mul] at hle
  rw [length_pageOf]
  omega

theorem exists_mem_pageOf (hsize : 0 < size) {a : α} (ha : a ∈ l) : ∃ i, a ∈ pageOf size l i := by
  have hall : (List.range l.length).flatMap (pageOf size l) = l := by
    rw [flatMap_pageOf, List.take_of_length_le (Nat.le_mul_of_pos_right _ hsize)]
  rw [← hall, List.mem_flatMap] at ha
  obtain ⟨i, -, hi⟩ := ha
  exact ⟨i, hi⟩

/-- An earlier piece lies within the beginning of the list that a later one begins after. -/
theorem disjoint_pageOf_of_lt (hl : l.Nodup) {i j : Nat} (hij : i < j) :
    (pageOf size l i).Disjoint (pageOf size l j) := by
  have hle : i * size + size ≤ j * size := by
    rw [← Nat.succ_mul]
    exact Nat.mul_le_mul_right size hij
  have htake : pageOf size l i ⊆ l.take (j * size) := by
    rw [pageOf, List.take_drop]
    exact List.Subset.trans (List.drop_subset _ _) (List.take_prefix_take_left hle).subset
  have hdrop : pageOf size l j ⊆ l.drop (j * size) := List.take_subset _ _
  intro a ha ha'
  exact List.disjoint_take_drop hl (Nat.le_refl _) (htake ha) (hdrop ha')

theorem disjoint_pageOf (hl : l.Nodup) {i j : Nat} (hij : i ≠ j) :
    (pageOf size l i).Disjoint (pageOf size l j) := by
  rcases Nat.lt_or_gt_of_ne hij with h | h
  · exact disjoint_pageOf_of_lt hl h
  · exact List.disjoint_symm (disjoint_pageOf_of_lt hl h)

end

/-! ## The pages of a list -/

/-- The rows of each page, counted from 1, are the pieces of a list of transactions. -/
structure Paginates (pageSize : Int) (matching : List Transaction) (rows : Int → List Transaction) :
    Prop where
  subset : ∀ page, rows page ⊆ matching
  nodup : ∀ page, (rows page).Nodup
  /-- Every transaction is on one page and on no other. -/
  existsUnique : ∀ t ∈ matching, ∃! page, 1 ≤ page ∧ t ∈ rows page
  disjoint : ∀ page other, 1 ≤ page → 1 ≤ other → page ≠ other → (rows page).Disjoint (rows other)
  /-- The first pages, one after the other, are the beginning of the list, and all of it if they are
  enough of them. -/
  flatMap : ∀ k : Nat, (List.range k).flatMap (fun before : Nat => rows (before + 1)) =
    matching.take (k * pageSize.toNat)
  length : ∀ page later, 1 ≤ page → page < later → rows later ≠ [] →
    ((rows page).length : Int) = pageSize
  ne_nil_iff : ∀ page, 1 ≤ page → (rows page ≠ [] ↔ (page - 1) * pageSize < matching.length)

theorem paginates_pageOf {pageSize : Int} (hsize : 1 ≤ pageSize) {matching : List Transaction}
    (hnodup : matching.Nodup) :
    Paginates pageSize matching fun page => pageOf pageSize.toNat matching (page - 1).toNat := by
  obtain ⟨size, rfl⟩ := Int.eq_ofNat_of_zero_le (Int.le_trans (by decide) hsize)
  have hpos : 0 < size := by omega
  have hdisjoint : ∀ page other : Int, 1 ≤ page → 1 ≤ other → page ≠ other →
      (pageOf size matching (page - 1).toNat).Disjoint
        (pageOf size matching (other - 1).toNat) :=
    fun page other hpage hother hne => disjoint_pageOf hnodup (by omega)
  constructor
  case subset => exact fun page => (pageOf_sublist _).subset
  case nodup => exact fun page => hnodup.sublist (pageOf_sublist _)
  case existsUnique =>
    intro t ht
    obtain ⟨i, hi⟩ := exists_mem_pageOf hpos ht
    refine ⟨i + 1, ⟨by omega, by simpa using hi⟩, ?_⟩
    rintro page ⟨hpage, hmem⟩
    by_contra hne
    exact hdisjoint page (i + 1) hpage (by omega) hne hmem (by simpa using hi)
  case disjoint => exact hdisjoint
  case flatMap =>
    intro k
    have hrows : (fun before : Nat => pageOf size matching ((before : Int) + 1 - 1).toNat) =
        pageOf size matching := by
      funext before
      rw [Int.add_sub_cancel, Int.toNat_natCast]
    exact (congrArg (List.range k).flatMap hrows).trans (flatMap_pageOf k)
  case length =>
    intro page later hpage hlt hlater
    exact congrArg Nat.cast (length_pageOf_of_lt (by omega) hlater)
  case ne_nil_iff =>
    intro page hpage
    obtain ⟨before, hbefore⟩ := Int.eq_ofNat_of_zero_le (Int.sub_nonneg_of_le hpage)
    simp only [hbefore, Int.toNat_natCast]
    rw [pageOf_ne_nil_iff hpos]
    exact_mod_cast Iff.rfl

/-! ## The pages of a filter -/

section

variable {fold : Char → Char} {links : List TagLink} {table rows : List Transaction}

/-- The statement of a page selects the transactions that the statement that counts selects. -/
theorem selects_selectStatement_iff (cs : List Condition) (page pageSize : Int) (t : Transaction) :
    (selectStatement cs page pageSize).Selects fold links t ↔
      (countStatement cs).Selects fold links t := by
  rw [Statement.Selects, Statement.Selects, selection?_selectStatement, selection?_countStatement]

theorem lists_selectStatement_iff (cs : List Condition) {page pageSize : Int} (hpage : 1 ≤ page)
    (hsize : 1 ≤ pageSize) :
    (selectStatement cs page pageSize).Lists fold links table rows ↔
      ∃ ordered : List Transaction,
        ordered.Perm (table.filter ((countStatement cs).Selects fold links ·)) ∧
        ordered.Pairwise Precedes ∧ rows = pageOf pageSize.toNat ordered (page - 1).toNat := by
  have hoffset : ((page - 1) * pageSize).toNat = (page - 1).toNat * pageSize.toNat :=
    Int.toNat_mul (by omega) (by omega)
  simp only [Statement.Lists, selection?_selectStatement, paging?_selectStatement cs hpage hsize,
    selects_selectStatement_iff, Option.mem_some_iff, exists_eq_left', inOrder_pageOrder_iff,
    hoffset, pageOf]

end

/-- What a statement that selects a page begins with. -/
theorem selectedColumns_text :
    "SELECT " ++ ", ".intercalate (selectedColumns.map ("t." ++ ·)) ++ " " =
      "SELECT t.id, t.date, t.description, t.amount, t.type, " ++
        "t.source_account_id, t.destination_account_id, t.category_id, t.budget_id, " ++
        "t.bill_id, t.external_id, t.internal_reference, t.created_at, t.updated_at " := by
  decide +kernel

/-- The statements of the pages of a filter frame the same source and the same values as the
statement that counts. Each has one answer, and these answers are the pages of all transactions that
are counted, the latest first. -/
theorem pages_partition_matching (fold : Char → Char) (links : List TagLink)
    {table : List Transaction} (hids : (table.map (·.id)).Nodup) {f : Filter} {count : Statement}
    (hcount : countAll f = .ok count) {pageSize : Int} (hsize : 1 ≤ pageSize) :
    ∃ (source : String) (select : Int → Statement) (matching : List Transaction)
      (rows : Int → List Transaction),
      count.text = "SELECT COUNT(*)::bigint " ++ source ∧
      (∀ page, 1 ≤ page →
        selectPage f page pageSize = .ok (select page) ∧
        (select page).text = "SELECT t.id, t.date, t.description, t.amount, t.type, " ++
          "t.source_account_id, t.destination_account_id, t.category_id, t.budget_id, " ++
          "t.bill_id, t.external_id, t.internal_reference, t.created_at, t.updated_at " ++
          source ++ " ORDER BY t.date DESC, t.id DESC LIMIT %s OFFSET %s" ∧
        (select page).params =
          count.params ++ [.integer pageSize, .integer ((page - 1) * pageSize)] ∧
        ∀ answer, (select page).Lists fold links table answer ↔ answer = rows page) ∧
      matching.Perm (table.filter (count.Selects fold links ·)) ∧
      matching.Pairwise ComesBefore ∧
      matching.length = count.counted fold links table ∧
      Paginates pageSize matching rows := by
  obtain ⟨cs, hcs, rfl⟩ := countAll_eq_ok.mp hcount
  obtain ⟨matching, hperm, hordered⟩ :=
    Precedes.exists_sorted (table.filter ((countStatement cs).Selects fold links ·))
  have hmatching : ((table.filter ((countStatement cs).Selects fold links ·)).map (·.id)).Nodup :=
    hids.sublist (List.filter_sublist.map _)
  have hdistinct : (matching.map (·.id)).Nodup := (hperm.map _).nodup_iff.mpr hmatching
  refine ⟨fromWhere cs, fun page => selectStatement cs page pageSize, matching, _,
    text_countStatement cs, ?_, hperm, ?_, ?_, paginates_pageOf hsize (hdistinct.of_map _)⟩
  · intro page hpage
    refine ⟨selectPage_eq_ok.mpr ⟨hpage, hsize, cs, hcs, rfl⟩, ?_, rfl, fun answer => ?_⟩
    · rw [text_selectStatement, ← selectedColumns_text]
    · rw [lists_selectStatement_iff cs hpage hsize]
      constructor
      · rintro ⟨ordered, hperm', hordered', rfl⟩
        rw [Precedes.eq_of_sorted hmatching hperm' hordered' hperm hordered]
      · rintro rfl
        exact ⟨matching, hperm, hordered, rfl⟩
  · exact hordered.imp₂ (fun _ _ => Precedes.comesBefore) (List.pairwise_map.mp hdistinct)
  · rw [hperm.length_eq, Statement.counted, List.countP_eq_length_filter]

/-- Two of three rents are of the same date. The first page of two holds two of the three, the
second one the third, and no other page holds any. -/
theorem pages_partition_matching_threeRents :
    let rent (id : Int) (date : Instant) : Transaction :=
      { id
        date
        description := "Rent, 100%"
        amount := -700
        type := "withdrawal"
        sourceAccount := some 1
        destinationAccount := none
        category := none
        budget := none
        bill := none
        externalId := none
        internalReference := none
        createdAt := date
        updatedAt := date }
    let table := [rent 1 ⟨0⟩, rent 2 ⟨86400000000⟩, { rent 3 ⟨0⟩ with description := "Food" },
      rent 4 ⟨0⟩]
    let count := countStatement [Condition.ofWord "rent"]
    ∃ (select : Int → Statement) (rows : Int → List Transaction),
      countAll { words := ["rent"] } = .ok count ∧ count.counted Char.toLower [] table = 3 ∧
      (∀ page, 1 ≤ page → selectPage { words := ["rent"] } page 2 = .ok (select page) ∧
        ∀ answer, (select page).Lists Char.toLower [] table answer ↔ answer = rows page) ∧
      (rows 1).length = 2 ∧ rows 2 ≠ [] ∧ ∀ page, 3 ≤ page → rows page = [] := by
  intro rent table count
  have hids : (table.map (·.id)).Nodup := by decide
  have hcount : countAll { words := ["rent"] } = .ok count := rfl
  have hsize : (1 : Int) ≤ 2 := by decide
  obtain ⟨source, select, matching, rows, -, hselect, -, -, hlength, hpages⟩ :=
    pages_partition_matching Char.toLower [] hids hcount hsize
  have hcounted : count.counted Char.toLower [] table = 3 := by decide +kernel
  have hthree : matching.length = 3 := hlength.trans hcounted
  have hsecond : rows 2 ≠ [] := (hpages.ne_nil_iff 2 (by decide)).mpr (by rw [hthree]; decide)
  have hfirst := hpages.length 1 2 (by decide) (by decide) hsecond
  refine ⟨select, rows, hcount, hcounted, fun page hpage => ?_, by exact_mod_cast hfirst, hsecond,
    fun page hpage => ?_⟩
  · exact ⟨(hselect page hpage).1, (hselect page hpage).2.2.2⟩
  · by_contra hne
    have hlt := (hpages.ne_nil_iff page (by omega)).mp hne
    rw [hthree] at hlt
    omega

end LedgerSearch.Sql
