import Mathlib.Data.List.Lex
import Mathlib.Data.Prod.Lex
import Mathlib.Data.String.Basic
import LedgerSearch.Proofs.Sql.Meaning

/-!
# Statements that list the rows of a table

A statement may name columns of one table, tests that its rows pass, columns to
order them by, and how many rows to keep. What it is answered with is a
relation: rows that agree in all columns they are ordered by may come in any
order. Nothing here knows how the text of the statement was made.

* `Statement.listing?`: reads a statement as a listing.
* `Listing.IsAnswer`: the rows answer the listing.
* `Listing.isAnswer_answer`: every listing has an answer, and it can be computed.
-/

namespace LedgerSearch.Sql

/-! ## Reading -/

/-- The columns that a statement lists of a table's rows, the tests that the rows pass, the columns
that they are ordered by, and how many of them are kept. -/
structure Listing where
  columns : List String
  table : String
  tests : List Test
  order : List String
  limit : Option Nat
  deriving DecidableEq

/-- The names at the beginning, between commas, and what follows them. -/
def names? : List Token → Option (List String × List Token)
  | .symbol name :: .symbol "," :: ts => (names? ts).map fun (names, rest) => (name :: names, rest)
  | .symbol name :: ts => some ([name], ts)
  | _ => none

/-- Reads how many rows are kept. A limit that holds nothing keeps all rows, like none at all, and
no limit is negative. -/
def limit? : List Token → Option (Option Nat)
  | [] => some none
  | [.symbol "LIMIT", .value (.document .null)] => some none
  | [.symbol "LIMIT", .value (.integer n)] => if n < 0 then none else some (some n.toNat)
  | _ => none

/-- Reads the order of the rows and how many are kept. -/
def ending? : List Token → Option (List String × Option Nat)
  | .symbol "ORDER" :: .symbol "BY" :: ts => do
    let (order, ts) ← names? ts
    let limit ← limit? ts
    return (order, limit)
  | _ => none

/-- Reads a test whose column is named without its row. -/
def columnTest? (row : String) (ts : List Token) : Option Test :=
  test? (.symbol row :: .symbol "." :: ts)

/-- Reads a listing. A row goes by the name of its table. -/
def listing? : List Token → Option Listing
  | .symbol "SELECT" :: ts => do
    let (columns, .symbol "FROM" :: .symbol table :: .symbol "WHERE" :: ts) ← names? ts | none
    let tests ← (conjuncts 0 ts).mapM (columnTest? table)
    let (order, limit) ← ending? (ts.dropWhile (· != .symbol "ORDER"))
    return ⟨columns, table, tests, order, limit⟩
  | _ => none

/-- What a statement lists. -/
def Statement.listing? (s : Statement) : Option Listing :=
  (place? (symbols s.text.toList) s.params).bind Sql.listing?

/-! ## Answers -/

/-- What a table says about one thing: a document in each column, the null one if there is nothing
to say. -/
abbrev Record := String → Document

/-- The records of each table, by its name. -/
abbrev Tables := String → List Record

/-- The value of a document. Only integers and texts have one. -/
def documentValue? : Document → Option Value
  | .integer n => some (.integer n)
  | .text s => some (.text s)
  | _ => none

/-- The rank of a document in the order of its column: integers by size and texts by code points.
Whatever has no value comes last. -/
def rank : Document → ℕ ×ₗ ℤ ×ₗ String
  | .integer n => toLex (0, toLex (n, ""))
  | .text s => toLex (1, toLex (0, s))
  | _ => toLex (2, toLex (0, ""))

@[simp] theorem rank_integer_lt {m n : Int} :
    rank (.integer m) < rank (.integer n) ↔ m < n := by
  simp [rank, Prod.Lex.toLex_lt_toLex]

@[simp] theorem rank_integer_inj {m n : Int} :
    rank (.integer m) = rank (.integer n) ↔ m = n := by
  simp [rank]

@[simp] theorem rank_text_lt {s t : String} : rank (.text s) < rank (.text t) ↔ s < t := by
  simp [rank, Prod.Lex.toLex_lt_toLex]

@[simp] theorem rank_text_inj {s t : String} : rank (.text s) = rank (.text t) ↔ s = t := by
  simp [rank]

namespace Listing

variable (l : Listing) (tables : Tables)

/-- The record passes all tests. Case makes no difference to what is like a pattern. -/
def Selects (r : Record) : Prop :=
  ∀ t ∈ l.tests, t.Holds Char.toLower (View.only l.table fun column => documentValue? (r column))

instance : DecidablePred l.Selects := fun r =>
  inferInstanceAs (Decidable (∀ t ∈ l.tests,
    t.Holds Char.toLower (View.only l.table fun column => documentValue? (r column))))

/-- The ranks of a record in the order of the rows. -/
def ranks (r : Record) : List (ℕ ×ₗ ℤ ×ₗ String) :=
  l.order.map fun column => Sql.rank (r column)

/-- Ranks compare column by column. -/
theorem ranks_cons_le {x y : ℕ ×ₗ ℤ ×ₗ String} {xs ys : List (ℕ ×ₗ ℤ ×ₗ String)} :
    x :: xs ≤ y :: ys ↔ x < y ∨ x = y ∧ xs ≤ ys := by
  rw [le_iff_lt_or_eq, le_iff_lt_or_eq, List.cons_lt_cons_iff, List.cons.injEq]
  tauto

/-- The rows that are kept of all. -/
def kept {α : Type} (rows : List α) : List α :=
  match l.limit with
  | some n => rows.take n
  | none => rows

theorem kept_map {α β : Type} (f : α → β) (as : List α) :
    l.kept (as.map f) = (l.kept as).map f := by
  unfold kept
  split
  · exact List.map_take.symm
  · rfl

/-- The columns of a record that are listed. -/
def row (r : Record) : List Document :=
  l.columns.map r

/-- The rows answer the listing: they are the first of the selected records in some order that
agrees with the one asked for. -/
def IsAnswer (rows : List (List Document)) : Prop :=
  ∃ ordered : List Record,
    ordered.Perm ((tables l.table).filter (l.Selects ·)) ∧
    ordered.Pairwise (fun a b => l.ranks a ≤ l.ranks b) ∧
    rows = (l.kept ordered).map l.row

/-- The answer that keeps the order of the table where the listing has none. -/
def answer : List (List Document) :=
  (l.kept (((tables l.table).filter (l.Selects ·)).mergeSort
    fun a b => l.ranks a ≤ l.ranks b)).map l.row

theorem isAnswer_answer : l.IsAnswer tables (l.answer tables) := by
  have htrans : ∀ a b c : Record, decide (l.ranks a ≤ l.ranks b) = true →
      decide (l.ranks b ≤ l.ranks c) = true → decide (l.ranks a ≤ l.ranks c) = true := by
    simp only [decide_eq_true_eq]
    exact fun a b c => le_trans
  have htotal : ∀ a b : Record,
      (decide (l.ranks a ≤ l.ranks b) || decide (l.ranks b ≤ l.ranks a)) = true := by
    simp only [Bool.or_eq_true, decide_eq_true_eq]
    exact fun a b => le_total _ _
  have hordered := List.pairwise_mergeSort htrans htotal ((tables l.table).filter (l.Selects ·))
  exact ⟨_, List.mergeSort_perm _ _, hordered.imp of_decide_eq_true, rfl⟩

end Listing

end LedgerSearch.Sql
