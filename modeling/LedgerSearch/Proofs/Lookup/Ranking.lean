import Mathlib.Data.List.Infix
import LedgerSearch.Proofs.Lookup.Order

/-!
# Every answer is the beginning of one ordered list

A catalogue answers a lookup from the ordered list of all items that hold the term.
A limit cuts that list and does nothing else: it leaves out the last items, those that
come after the others. So a smaller limit gives the beginning of the answer to a larger
one, and the order in which a catalogue stores its items plays no part as long as the
items can be told apart by name and number.

* `Ranks.of_ordered`: what cutting an ordered list gives.
* `find_eq_of_perm`: the answer of a catalogue that stores its items in another order.
* `lookups_rank`: the answers of a catalogue.
-/

namespace LedgerSearch

open Text

/-- One entity comes no later than another: by name, then by number. -/
def Entity.NoLater (a b : Entity) : Prop :=
  a.name < b.name ∨ (a.name = b.name ∧ a.id ≤ b.id)

instance (a b : Entity) : Decidable (a.NoLater b) :=
  inferInstanceAs (Decidable (_ ∨ _))

namespace Catalogue

/-- The answers, one for each limit, that an ordered list of the matching items gives. Without a
limit the answer is the list. A limit cuts it: what is left out comes no earlier than what is kept,
and a negative limit says how many items are left out. -/
structure Ranks {α : Type} (entity : α → Entity) (matching : List α)
    (answer : Option Int → List α) : Prop where
  perm : (answer none).Perm matching
  ordered : (answer none).Pairwise fun a b => (entity a).NoLater (entity b)
  first (n : Nat) : answer (some n) = (answer none).take n
  leftOut (n : Nat) : ∃ rest, answer none = answer (some n) ++ rest ∧
    ∀ a ∈ answer (some n), ∀ b ∈ rest, (entity a).NoLater (entity b)
  grows (m n : Nat) : m ≤ n → answer (some m) <+: answer (some n)
  fromEnd (n : Nat) : 0 < n → ∃ rest, answer none = answer (some (-n)) ++ rest ∧
    rest.length = min n (answer none).length

section

variable {α : Type} {entity : α → Entity}

theorem upTo_natCast (n : Nat) (l : List α) : upTo (some n) l = l.take n := by
  rw [upTo, if_neg (Int.not_lt.mpr (Int.natCast_nonneg n)), Int.toNat_natCast]

theorem upTo_neg {n : Nat} (hn : 0 < n) (l : List α) :
    upTo (some (-n)) l = l.take (l.length - n) := by
  have hneg : -(n : Int) < 0 := by omega
  rw [upTo, if_pos hneg, Int.natAbs_neg, Int.natAbs_natCast]

theorem Ranks.of_ordered {l matching : List α} (hperm : l.Perm matching)
    (hordered : l.Pairwise fun a b => (entity a).NoLater (entity b)) :
    Ranks entity matching (upTo · l) where
  perm := hperm
  ordered := hordered
  first n := upTo_natCast n l
  leftOut n := by
    refine ⟨l.drop n, ?_, ?_⟩
    · rw [upTo_natCast]
      exact (List.take_append_drop n l).symm
    · rw [← List.take_append_drop n l, List.pairwise_append] at hordered
      rw [upTo_natCast]
      exact hordered.2.2
  grows m n h := by
    rw [upTo_natCast, upTo_natCast]
    exact List.take_prefix_take_left h
  fromEnd n hn := by
    refine ⟨l.drop (l.length - n), ?_, ?_⟩
    · rw [upTo_neg hn]
      exact (List.take_append_drop _ l).symm
    · rw [List.length_drop, upTo]
      omega

/-- The order in which items are stored plays no part, if those that hold the term can be told apart
by name and number. -/
theorem find_eq_of_perm {items items' : List α} {term : String} (limit : Option Int)
    (hperm : items'.Perm items)
    (hentity : ∀ a ∈ items.filter fun a => holds (entity a).name term,
      ∀ b ∈ items.filter fun b => holds (entity b).name term, entity a = entity b → a = b) :
    find entity items' term limit = find entity items term limit := by
  have hsorted := List.mergeSort_perm (items.filter fun a => holds (entity a).name term)
    fun a b => (entity a).precedes (entity b)
  refine find_eq_upTo _ limit (hsorted.trans (hperm.symm.filter _)) (pairwise_sorted _) ?_
  intro a ha b hb
  exact hentity a (hsorted.subset ha) b (hsorted.subset hb)

theorem ranks_find (entity : α → Entity) (items : List α) (term : String) :
    Ranks entity (items.filter fun a => holds (entity a).name term)
      (find entity items term) := by
  refine .of_ordered (List.mergeSort_perm _ _) ((pairwise_sorted _).imp fun h => ?_)
  exact Entity.precedes_iff.mp h

end

/-- The accounts of the given kinds whose names hold the term when case is folded. -/
def accountsHolding (c : Catalogue) (kinds : List AccountKind) (term : String) : List Account :=
  c.accounts.filter fun a => a.kind ∈ kinds ∧ foldChars term.toList <:+: foldChars a.name.toList

/-- The entities of a kind whose names hold the term when case is folded. -/
def entitiesHolding (c : Catalogue) (kind : EntityKind) (term : String) : List Entity :=
  (c.entitiesOf kind).filter fun e => foldChars term.toList <:+: foldChars e.name.toList

theorem filter_holds_eq_accountsHolding (c : Catalogue) (kinds : List AccountKind) (term : String) :
    ((c.accounts.filter (kinds.contains ·.kind)).filter fun a => holds a.name term) =
      c.accountsHolding kinds term := by
  rw [List.filter_filter]
  refine List.filter_congr fun a _ => ?_
  rw [Bool.eq_iff_iff]
  simp [holds, isInfix_iff, and_comm]

theorem filter_holds_eq_entitiesHolding (c : Catalogue) (kind : EntityKind) (term : String) :
    ((c.entitiesOf kind).filter fun e => holds e.name term) = c.entitiesHolding kind term := by
  refine List.filter_congr fun e _ => ?_
  rw [Bool.eq_iff_iff]
  simp [holds, isInfix_iff]

/-- A lookup is always answered, with the beginning of one ordered list: of the accounts of the
kinds asked for, or of the entities of the kind, whose names hold the term. Another catalogue that
stores the same accounts in another order answers the same, unless two accounts of different kinds
that hold the term have one name and one number; two other entities of one name and one number are
the same. -/
theorem lookups_rank (c : Catalogue) :
    (∀ kinds term, ∃ answer,
      (∀ limit, c.resolver.accounts kinds term limit = .ok (answer limit)) ∧
      Ranks Account.toEntity (c.accountsHolding kinds term) answer) ∧
    (∀ kind term, ∃ answer,
      (∀ limit, c.resolver.entities kind term limit = .ok (answer limit)) ∧
      Ranks id (c.entitiesHolding kind term) answer) ∧
    (∀ c' : Catalogue, c'.accounts.Perm c.accounts → ∀ kinds term,
      (∀ a ∈ c.accountsHolding kinds term, ∀ b ∈ c.accountsHolding kinds term,
        a.toEntity = b.toEntity → a = b) →
      ∀ limit, c'.resolver.accounts kinds term limit = c.resolver.accounts kinds term limit) ∧
    ∀ (c' : Catalogue) kind, (c'.entitiesOf kind).Perm (c.entitiesOf kind) → ∀ term limit,
      c'.resolver.entities kind term limit = c.resolver.entities kind term limit := by
  refine ⟨fun kinds term => ?_, fun kind term => ?_, fun c' hperm kinds term hkinds limit => ?_,
    fun c' kind hperm term limit => ?_⟩
  · refine ⟨find Account.toEntity (c.accounts.filter (kinds.contains ·.kind)) term,
      fun _ => rfl, ?_⟩
    rw [← filter_holds_eq_accountsHolding]
    exact ranks_find _ _ _
  · refine ⟨find id (c.entitiesOf kind) term, fun _ => rfl, ?_⟩
    rw [← filter_holds_eq_entitiesHolding]
    exact ranks_find _ _ _
  · rw [← filter_holds_eq_accountsHolding] at hkinds
    exact congrArg Except.ok (find_eq_of_perm limit (hperm.filter _) hkinds)
  · exact congrArg Except.ok (find_eq_of_perm limit hperm fun _ _ _ _ => id)

def streets : Catalogue where
  accounts :=
    [⟨⟨2, "Straße"⟩, .asset⟩, ⟨⟨9, "Große Straße"⟩, .loan⟩, ⟨⟨4, "STRASSE"⟩, .asset⟩,
      ⟨⟨1, "STRASSE"⟩, .loan⟩, ⟨⟨3, "Street"⟩, .asset⟩, ⟨⟨5, "strasse"⟩, .cash⟩]

def streetsReversed : Catalogue where
  accounts := streets.accounts.reverse

/-- The folding of some of the names is longer than they are. Two accounts have one name, and only
their numbers order them. -/
theorem lookups_rank_streets :
    streetsReversed.accounts.Perm streets.accounts ∧
    (∀ a ∈ streets.accountsHolding [.loan, .asset] "rASSe",
      ∀ b ∈ streets.accountsHolding [.loan, .asset] "rASSe", a.toEntity = b.toEntity → a = b) ∧
    streetsReversed.resolver.accounts [.loan, .asset] "rASSe" (some 2) =
      .ok [⟨⟨9, "Große Straße"⟩, .loan⟩, ⟨⟨1, "STRASSE"⟩, .loan⟩] ∧
    streetsReversed.resolver.accounts [.loan, .asset] "rASSe" (some (-1)) =
      .ok [⟨⟨9, "Große Straße"⟩, .loan⟩, ⟨⟨1, "STRASSE"⟩, .loan⟩, ⟨⟨4, "STRASSE"⟩, .asset⟩] := by
  have hfound (limit : Option Int) :
      streets.resolver.accounts [.loan, .asset] "rASSe" limit =
        .ok (upTo limit [⟨⟨9, "Große Straße"⟩, .loan⟩, ⟨⟨1, "STRASSE"⟩, .loan⟩,
          ⟨⟨4, "STRASSE"⟩, .asset⟩, ⟨⟨2, "Straße"⟩, .asset⟩]) :=
    congrArg Except.ok (find_eq_upTo _ limit (by decide +kernel) (by decide +kernel)
      (by decide +kernel))
  have hperm : streetsReversed.accounts.Perm streets.accounts := List.reverse_perm _
  have hdistinct : ∀ a ∈ streets.accountsHolding [.loan, .asset] "rASSe",
      ∀ b ∈ streets.accountsHolding [.loan, .asset] "rASSe", a.toEntity = b.toEntity → a = b := by
    decide +kernel
  have hreversed := (lookups_rank streets).2.2.1 streetsReversed hperm [.loan, .asset] "rASSe"
    hdistinct
  exact ⟨hperm, hdistinct, (hreversed _).trans (hfound _), (hreversed _).trans (hfound _)⟩

end Catalogue

end LedgerSearch
