/-!
# Documents

Values as they are exchanged: nothing, truth values, integers, texts, lists, and
objects with named fields in order.

* `same_iff`: the comparison of documents decides their equality.
-/

namespace LedgerSearch

/-- A value of the exchange format. -/
inductive Document where
  | null
  | bool (b : Bool)
  | integer (n : Int)
  | text (s : String)
  | list (items : List Document)
  | object (fields : List (String × Document))

instance : Inhabited Document := ⟨.null⟩

namespace Document

/-- The value of the first field with a name. -/
def field? (fields : List (String × Document)) (name : String) : Option Document :=
  fields.lookup name

/-! ## Equality -/

mutual

/-- Whether two documents are the same. -/
def same : Document → Document → Bool
  | .null, .null => true
  | .bool a, .bool b => a == b
  | .integer a, .integer b => a == b
  | .text a, .text b => a == b
  | .list as, .list bs => sameItems as bs
  | .object as, .object bs => sameFields as bs
  | _, _ => false

/-- Whether two lists hold the same documents in the same order. -/
def sameItems : List Document → List Document → Bool
  | [], [] => true
  | a :: as, b :: bs => same a b && sameItems as bs
  | _, _ => false

/-- Whether two objects have the same fields in the same order. -/
def sameFields : List (String × Document) → List (String × Document) → Bool
  | [], [] => true
  | (m, a) :: as, (n, b) :: bs => m == n && same a b && sameFields as bs
  | _, _ => false

end

mutual

theorem same_self : (a : Document) → same a a = true
  | .null => rfl
  | .bool a => by simp [same]
  | .integer a => by simp [same]
  | .text a => by simp [same]
  | .list as => by simpa [same] using sameItems_self as
  | .object as => by simpa [same] using sameFields_self as

theorem sameItems_self : (as : List Document) → sameItems as as = true
  | [] => rfl
  | a :: as => by simp [sameItems, same_self a, sameItems_self as]

theorem sameFields_self : (as : List (String × Document)) → sameFields as as = true
  | [] => rfl
  | (m, a) :: as => by simp [sameFields, same_self a, sameFields_self as]

end

mutual

theorem eq_of_same : (a b : Document) → same a b = true → a = b
  | .null, b => by cases b <;> simp [same]
  | .bool a, b => by cases b <;> simp [same]
  | .integer a, b => by cases b <;> simp [same]
  | .text a, b => by cases b <;> simp [same]
  | .list as, b => by
    cases b with
    | list bs => simpa [same] using eq_of_sameItems as bs
    | _ => simp [same]
  | .object as, b => by
    cases b with
    | object bs => simpa [same] using eq_of_sameFields as bs
    | _ => simp [same]

theorem eq_of_sameItems : (as bs : List Document) → sameItems as bs = true → as = bs
  | [], bs => by cases bs <;> simp [sameItems]
  | a :: as, bs => by
    cases bs with
    | nil => simp [sameItems]
    | cons b bs =>
      simp only [sameItems, Bool.and_eq_true, List.cons.injEq]
      intro h
      exact ⟨eq_of_same a b h.1, eq_of_sameItems as bs h.2⟩

theorem eq_of_sameFields : (as bs : List (String × Document)) → sameFields as bs = true → as = bs
  | [], bs => by cases bs <;> simp [sameFields]
  | (m, a) :: as, bs => by
    cases bs with
    | nil => simp [sameFields]
    | cons b bs =>
      simp only [sameFields, Bool.and_eq_true, beq_iff_eq, List.cons.injEq]
      intro h
      exact ⟨Prod.ext h.1.1 (eq_of_same a b.2 h.1.2), eq_of_sameFields as bs h.2⟩

end

theorem same_iff {a b : Document} : same a b = true ↔ a = b :=
  ⟨eq_of_same a b, fun h => h ▸ same_self a⟩

instance : DecidableEq Document := fun _ _ => decidable_of_iff _ same_iff

end Document

end LedgerSearch
