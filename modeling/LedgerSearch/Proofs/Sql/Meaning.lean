import LedgerSearch.Proofs.Sql.Matching
import LedgerSearch.Proofs.Sql.Reading
import LedgerSearch.Proofs.Transaction

/-!
# The meaning of statements

A statement selects a row when all its clauses hold of it. A column that holds
nothing, and one that does not exist, satisfies no test; values of different
kinds do not compare. Texts compare only for equality, because the order of
texts depends on the database.
-/

namespace LedgerSearch.Sql

open Calendar

/-! ## Values -/

/-- What a column or a placeholder holds. -/
inductive Value where
  | integer (n : Int)
  | text (s : String)
  | number (q : Rat)
  | instant (x : Instant)
  | integers (ns : List Int)
  | texts (ss : List String)

/-- The value of a placeholder. A document has none. -/
def Param.value? : Param → Option Value
  | .integer n => some (.integer n)
  | .text s => some (.text s)
  | .integers ns => some (.integers ns)
  | .texts ss => some (.texts ss)
  | .decimal d => some (.number d.value)
  | .midnight day => some (.instant day.start)
  | .document _ => none

/-- The relation between two elements of an order. -/
def Relation.Between {α : Type} [LE α] [LT α] : Relation → α → α → Prop
  | .equal, a, b => a = b
  | .less, a, b => a < b
  | .atMost, a, b => a ≤ b
  | .atLeast, a, b => b ≤ a

instance {α : Type} [LE α] [LT α] [DecidableEq α] [DecidableLE α] [DecidableLT α]
    (a b : α) : (relation : Relation) → Decidable (relation.Between a b)
  | .equal => inferInstanceAs (Decidable (a = b))
  | .less => inferInstanceAs (Decidable (a < b))
  | .atMost => inferInstanceAs (Decidable (a ≤ b))
  | .atLeast => inferInstanceAs (Decidable (b ≤ a))

namespace Value

/-- The values compare so. -/
def Compares (relation : Relation) : Value → Value → Prop
  | .integer a, .integer b => relation.Between a b
  | .number a, .number b => relation.Between a b
  | .instant a, .instant b => relation.Between a b
  | .text a, .text b => relation = .equal ∧ a = b
  | _, _ => False

/-- The value is an element of the list. -/
def IsOneOf : Value → Value → Prop
  | .integer n, .integers ns => n ∈ ns
  | .text s, .texts ss => s ∈ ss
  | _, _ => False

/-- The text matches the pattern. -/
def IsLike (fold : Char → Char) : Value → Value → Prop
  | .text s, .text pattern => Pattern.Matches fold pattern.toList s.toList
  | _, _ => False

instance (relation : Relation) (a b : Value) : Decidable (a.Compares relation b) := by
  cases a <;> cases b <;> dsimp only [Compares] <;> infer_instance

instance (a b : Value) : Decidable (a.IsOneOf b) := by
  cases a <;> cases b <;> dsimp only [IsOneOf] <;> infer_instance

instance (fold : Char → Char) (a b : Value) : Decidable (a.IsLike fold b) := by
  cases a <;> cases b <;> dsimp only [IsLike] <;> infer_instance

end Value

/-! ## Rows -/

/-- The columns of a row; a column that holds nothing has no value. -/
abbrev Columns := String → Option Value

def transactionColumns (t : Transaction) : Columns
  | "id" => some (.integer t.id)
  | "date" => some (.instant t.date)
  | "description" => some (.text t.description)
  | "amount" => some (.number t.amount)
  | "type" => some (.text t.type)
  | "source_account_id" => t.sourceAccount.map .integer
  | "destination_account_id" => t.destinationAccount.map .integer
  | "category_id" => t.category.map .integer
  | "budget_id" => t.budget.map .integer
  | "bill_id" => t.bill.map .integer
  | "external_id" => t.externalId.map .text
  | "internal_reference" => t.internalReference.map .text
  | "created_at" => some (.instant t.createdAt)
  | "updated_at" => some (.instant t.updatedAt)
  | _ => none

def linkColumns (link : TagLink) : Columns
  | "transaction_id" => some (.integer link.transaction)
  | "tag_id" => some (.integer link.tag)
  | _ => none

/-- The rows of the tables that a clause may look into. -/
def rowsOf (links : List TagLink) : String → List Columns
  | "transaction_tags" => links.map linkColumns
  | _ => []

/-- The rows in view, by the names that a statement gives them. -/
abbrev View := String → Columns

def View.add (view : View) (row : String) (columns : Columns) : View :=
  fun name => if name = row then columns else view name

/-- Nothing but one row is in view. -/
def View.only (row : String) (columns : Columns) : View :=
  View.add (fun _ _ => none) row columns

theorem View.only_self (row : String) (columns : Columns) : View.only row columns row = columns :=
  if_pos rfl

/-! ## Clauses -/

section

variable (fold : Char → Char) (links : List TagLink)

def Operand.value? (view : View) : Operand → Option Value
  | .column row name => view row name
  | .size row name =>
    match view row name with
    | some (.number q) => some (.number |q|)
    | _ => none
  | .value v => v.value?

def Test.Holds (view : View) : Test → Prop
  | .compare relation left right =>
    ∃ a ∈ left.value? view, ∃ b ∈ right.value? view, a.Compares relation b
  | .oneOf left values => ∃ a ∈ left.value? view, ∃ b ∈ values.value?, a.IsOneOf b
  | .like left pattern => ∃ a ∈ left.value? view, ∃ b ∈ pattern.value?, a.IsLike fold b

instance (view : View) : (t : Test) → Decidable (t.Holds fold view)
  | .compare relation left right => inferInstanceAs
      (Decidable (∃ a ∈ left.value? view, ∃ b ∈ right.value? view, a.Compares relation b))
  | .oneOf left values => inferInstanceAs
      (Decidable (∃ a ∈ left.value? view, ∃ b ∈ values.value?, a.IsOneOf b))
  | .like left pattern => inferInstanceAs
      (Decidable (∃ a ∈ left.value? view, ∃ b ∈ pattern.value?, a.IsLike fold b))

def Clause.Holds (view : View) : Clause → Prop
  | .test t => t.Holds fold view
  | .holdsIn table row tests =>
    ∃ columns ∈ rowsOf links table, ∀ t ∈ tests, t.Holds fold (view.add row columns)

instance (view : View) : (clause : Clause) → Decidable (clause.Holds fold links view)
  | .test t => inferInstanceAs (Decidable (t.Holds fold view))
  | .holdsIn table row tests => inferInstanceAs (Decidable
      (∃ columns ∈ rowsOf links table, ∀ t ∈ tests, t.Holds fold (view.add row columns)))

variable {fold} {view : View} {a b : Operand} {x y : Value} {v : Param}

theorem Test.holds_compare (relation : Relation) (ha : a.value? view = some x)
    (hb : b.value? view = some y) :
    (Test.compare relation a b).Holds fold view ↔ x.Compares relation y := by
  simp only [Test.Holds, ha, hb, Option.mem_some_iff, exists_eq_left']

theorem Test.holds_oneOf (ha : a.value? view = some x) (hv : v.value? = some y) :
    (Test.oneOf a v).Holds fold view ↔ x.IsOneOf y := by
  simp only [Test.Holds, ha, hv, Option.mem_some_iff, exists_eq_left']

theorem Test.holds_like (ha : a.value? view = some x) (hv : v.value? = some y) :
    (Test.like a v).Holds fold view ↔ x.IsLike fold y := by
  simp only [Test.Holds, ha, hv, Option.mem_some_iff, exists_eq_left']

variable (fold)

/-- The statement can be read, and all its clauses hold of the transaction. -/
def Statement.Selects (s : Statement) (t : Transaction) : Prop :=
  ∃ selection ∈ s.selection?, selection.table = "transactions" ∧
    ∀ clause ∈ selection.clauses,
      clause.Holds fold links (View.only selection.row (transactionColumns t))

instance (s : Statement) : DecidablePred (s.Selects fold links) := fun t =>
  inferInstanceAs (Decidable (∃ selection ∈ s.selection?, selection.table = "transactions" ∧
    ∀ clause ∈ selection.clauses,
      clause.Holds fold links (View.only selection.row (transactionColumns t))))

end

end LedgerSearch.Sql
