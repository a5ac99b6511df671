import LedgerSearch.Distinct
import LedgerSearch.Lookup.Catalogue

/-!
# The order of what a lookup finds

Entities are in order by name and then by number, and this order is total. So
what a catalogue finds is in order as well, and so is what is left of it when
only the first item of every number is kept. There each item then comes strictly
before the next, whatever numbers repeat in the catalogue.

* `Entity.precedes_trans`, `Entity.precedes_total`: the order of entities.
* `Catalogue.pairwise_find`, `Catalogue.length_find_le`: the order and the length of an answer.
* `Catalogue.exists_mem_find_iff`: which entities are found within the limit.
* `Catalogue.find_eq_upTo`: the answer is the only ordered list of the items that hold the term.
* `Catalogue.pairwise_distinctBy_find`: the order without repeats.
-/

namespace LedgerSearch

/-- One entity comes strictly before another: by name, then by number. -/
def Entity.ComesBefore (a b : Entity) : Prop :=
  a.name < b.name ∨ (a.name = b.name ∧ a.id < b.id)

instance (a b : Entity) : Decidable (a.ComesBefore b) :=
  inferInstanceAs (Decidable (_ ∨ _))

namespace Entity

theorem precedes_iff {a b : Entity} :
    a.precedes b = true ↔ a.name < b.name ∨ (a.name = b.name ∧ a.id ≤ b.id) := by
  simp [precedes]

theorem precedes_trans {a b c : Entity} (hab : a.precedes b = true) (hbc : b.precedes c = true) :
    a.precedes c = true := by
  rw [precedes_iff] at *
  rcases hab with hab | ⟨hab, hid⟩
  · rcases hbc with hbc | ⟨hbc, -⟩
    · exact .inl (String.lt_trans hab hbc)
    · exact .inl (hbc ▸ hab)
  · rcases hbc with hbc | ⟨hbc, hid'⟩
    · exact .inl (hab ▸ hbc)
    · exact .inr ⟨hab.trans hbc, Int.le_trans hid hid'⟩

theorem precedes_total (a b : Entity) : (a.precedes b || b.precedes a) = true := by
  rw [Bool.or_eq_true, precedes_iff, precedes_iff]
  by_cases hname : a.name = b.name
  · rcases Int.le_total a.id b.id with hid | hid
    · exact .inl (.inr ⟨hname, hid⟩)
    · exact .inr (.inr ⟨hname.symm, hid⟩)
  · rcases String.le_total a.name b.name with hle | hle
    · exact .inl (.inl (String.not_le.mp fun hge => hname (String.le_antisymm hle hge)))
    · exact .inr (.inl (String.not_le.mp fun hge => hname (String.le_antisymm hge hle)))

theorem comesBefore_of_precedes {a b : Entity} (h : a.precedes b = true) (hid : a.id ≠ b.id) :
    a.ComesBefore b := by
  rcases precedes_iff.mp h with hname | ⟨hname, hle⟩
  · exact .inl hname
  · exact .inr ⟨hname, Int.lt_iff_le_and_ne.mpr ⟨hle, hid⟩⟩

theorem not_comesBefore_self (a : Entity) : ¬ a.ComesBefore a := by
  rintro (hname | ⟨-, hid⟩)
  · exact String.lt_irrefl _ hname
  · exact Int.lt_irrefl _ hid

theorem ComesBefore.of_precedes {a b c : Entity} (hab : a.precedes b = true)
    (hbc : b.ComesBefore c) : a.ComesBefore c := by
  rcases precedes_iff.mp hab with hab | ⟨hab, hid⟩
  · rcases hbc with hbc | ⟨hbc, -⟩
    · exact .inl (String.lt_trans hab hbc)
    · exact .inl (hbc ▸ hab)
  · rcases hbc with hbc | ⟨hbc, hid'⟩
    · exact .inl (hab ▸ hbc)
    · exact .inr ⟨hab.trans hbc, Int.lt_of_le_of_lt hid hid'⟩

theorem eq_or_comesBefore_of_precedes {a b : Entity} (h : a.precedes b = true) :
    a = b ∨ a.ComesBefore b := by
  by_cases hid : a.id = b.id
  · rcases precedes_iff.mp h with hname | ⟨hname, -⟩
    · exact .inr (.inl hname)
    · cases a
      cases b
      cases hid
      cases hname
      exact .inl rfl
  · exact .inr (comesBefore_of_precedes h hid)

/-- Entities that come no later than each other are the same. -/
theorem eq_of_precedes {a b : Entity} (hab : a.precedes b = true) (hba : b.precedes a = true) :
    a = b := by
  by_cases hid : a.id = b.id
  · have hname : a.name = b.name := by
      rcases precedes_iff.mp hab with hlt | ⟨hname, -⟩
      · rcases precedes_iff.mp hba with hgt | ⟨hname, -⟩
        · exact absurd hgt (String.lt_asymm hlt)
        · exact hname.symm
      · exact hname
    cases a
    cases b
    cases hid
    cases hname
    rfl
  · rcases comesBefore_of_precedes hab hid with hlt | ⟨hname, hlt⟩
    · rcases precedes_iff.mp hba with hgt | ⟨hname, -⟩
      · exact absurd hgt (String.lt_asymm hlt)
      · exact absurd hlt (hname ▸ String.lt_irrefl _)
    · rcases precedes_iff.mp hba with hgt | ⟨-, hle⟩
      · exact absurd hgt (hname ▸ String.lt_irrefl _)
      · exact absurd (Int.le_antisymm (Int.le_of_lt hlt) hle) hid

end Entity

namespace Catalogue

section

variable {α : Type} {entity : α → Entity} {items : List α} {term : String}

theorem upTo_sublist (limit : Option Int) (l : List α) : (upTo limit l).Sublist l := by
  unfold upTo
  split
  · exact List.Sublist.refl l
  · split <;> exact List.take_sublist _ _

theorem pairwise_sorted (items : List α) :
    (items.mergeSort fun a b => (entity a).precedes (entity b)).Pairwise fun a b =>
      (entity a).precedes (entity b) = true := by
  have htrans : ∀ a b c : α, (entity a).precedes (entity b) = true →
      (entity b).precedes (entity c) = true → (entity a).precedes (entity c) = true :=
    fun _ _ _ => Entity.precedes_trans
  have htotal : ∀ a b : α,
      ((entity a).precedes (entity b) || (entity b).precedes (entity a)) = true :=
    fun a b => Entity.precedes_total (entity a) (entity b)
  exact List.pairwise_mergeSort htrans htotal items

theorem pairwise_find (limit : Option Int) :
    (find entity items term limit).Pairwise fun a b => (entity a).precedes (entity b) = true :=
  (pairwise_sorted _).sublist (upTo_sublist limit _)

/-- In an ordered list an entity is among the first `n` exactly when fewer than `n` items come
before it. -/
theorem exists_mem_take_iff {l : List α}
    (hordered : l.Pairwise fun a b => (entity a).precedes (entity b) = true) {a : α} (ha : a ∈ l)
    (n : Nat) :
    (∃ b ∈ l.take n, entity b = entity a) ↔
      l.countP (fun b => (entity b).ComesBefore (entity a)) < n := by
  induction l generalizing n with
  | nil => cases ha
  | cons x l ih =>
    obtain ⟨hx, hl⟩ := List.pairwise_cons.mp hordered
    cases n with
    | zero => simp
    | succ n =>
      by_cases hbefore : (entity x).ComesBefore (entity a)
      · have hne : entity x ≠ entity a := by
          intro h
          exact Entity.not_comesBefore_self _ (h ▸ hbefore)
        have hmem : a ∈ l := by
          rcases List.mem_cons.mp ha with rfl | h
          · exact absurd rfl hne
          · exact h
        rw [List.take_succ_cons, List.countP_cons, if_pos (decide_eq_true hbefore),
          Nat.add_lt_add_iff_right, ← ih hl hmem]
        simp [hne]
      · -- Nothing after `x` comes before `a` either, so `x` is the entity of `a`.
        have hcount : (x :: l).countP (fun b => (entity b).ComesBefore (entity a)) = 0 := by
          rw [List.countP_eq_zero]
          intro b hb
          rw [decide_eq_true_eq]
          rcases List.mem_cons.mp hb with rfl | hb
          · exact hbefore
          · exact fun h => hbefore (.of_precedes (hx b hb) h)
        have hsame : entity x = entity a := by
          rcases List.mem_cons.mp ha with rfl | h
          · rfl
          · exact (Entity.eq_or_comesBefore_of_precedes (hx a h)).resolve_right hbefore
        rw [hcount]
        exact iff_of_true ⟨x, List.mem_cons_self, hsame⟩ n.succ_pos

variable (entity items term) in
/-- An entity is found exactly when it holds the term and fewer items than the limit hold the term
and come before it. -/
theorem exists_mem_find_iff (n : Nat) (P : Entity → Prop) :
    (∃ b ∈ find entity items term (some n), P (entity b)) ↔
      ∃ a ∈ items, holds (entity a).name term = true ∧ P (entity a) ∧
        items.countP (fun b => holds (entity b).name term &&
          decide ((entity b).ComesBefore (entity a))) < n := by
  have hfind : find entity items term (some n) =
      ((items.filter fun b => holds (entity b).name term).mergeSort
        fun a b => (entity a).precedes (entity b)).take n := by
    rw [find, upTo, if_neg (Int.not_lt.mpr (Int.natCast_nonneg n)), Int.toNat_natCast]
  have hperm := List.mergeSort_perm (items.filter fun b => holds (entity b).name term)
    fun a b => (entity a).precedes (entity b)
  have hcount (a : α) : ((items.filter fun b => holds (entity b).name term).mergeSort
        fun a b => (entity a).precedes (entity b)).countP
          (fun b => (entity b).ComesBefore (entity a)) =
      items.countP fun b => holds (entity b).name term &&
        decide ((entity b).ComesBefore (entity a)) := by
    rw [hperm.countP_eq, List.countP_filter]
    simp only [Bool.and_comm]
  rw [hfind]
  constructor
  · rintro ⟨b, hb, hP⟩
    have hmem := List.mem_of_mem_take hb
    obtain ⟨hitems, hholds⟩ := List.mem_filter.mp (hperm.subset hmem)
    refine ⟨b, hitems, hholds, hP, ?_⟩
    rw [← hcount]
    exact (exists_mem_take_iff (pairwise_sorted _) hmem n).mp ⟨b, hb, rfl⟩
  · rintro ⟨a, hitems, hholds, hP, hlt⟩
    have hmem := hperm.symm.subset (List.mem_filter.mpr ⟨hitems, hholds⟩)
    rw [← hcount] at hlt
    obtain ⟨b, hb, hsame⟩ := (exists_mem_take_iff (pairwise_sorted _) hmem n).mpr hlt
    exact ⟨b, hb, hsame ▸ hP⟩

/-- What is found is known from the items that hold the term: it is their ordered list up to the
limit, if they can be told apart by name and number. -/
theorem find_eq_upTo (ordered : List α) (limit : Option Int)
    (hperm : ordered.Perm (items.filter fun a => holds (entity a).name term))
    (hordered : ordered.Pairwise fun a b => (entity a).precedes (entity b) = true)
    (hentity : ∀ a ∈ ordered, ∀ b ∈ ordered, entity a = entity b → a = b) :
    find entity items term limit = upTo limit ordered := by
  have hsorted := hperm.trans (List.mergeSort_perm _ fun a b => (entity a).precedes (entity b)).symm
  have heq := hsorted.eq_of_pairwise (fun a b ha hb hab hba => hentity a ha b
    (hsorted.symm.subset hb) (Entity.eq_of_precedes hab hba)) hordered (pairwise_sorted _)
  rw [find, ← heq]

theorem length_find_le {n : Int} (hn : 0 ≤ n) :
    (find entity items term (some n)).length ≤ n.toNat := by
  rw [find, upTo, if_neg (Int.not_lt.mpr hn)]
  exact List.length_take_le _ _

/-- Without repeated numbers, each item that is found comes strictly before the next. -/
theorem pairwise_distinctBy_find (limit : Option Int) {kept : List α}
    (hkept : kept.Sublist (find entity items term limit)) :
    (distinctBy (fun a => (entity a).id) kept).Pairwise fun a b =>
      (entity a).ComesBefore (entity b) := by
  have hordered := ((pairwise_find limit).sublist hkept).sublist
    (distinctBy_sublist (fun a => (entity a).id) kept)
  have hdistinct := List.pairwise_map.mp (distinctBy_nodup (fun a => (entity a).id) kept)
  exact hordered.imp₂ (fun _ _ hle hid => Entity.comesBefore_of_precedes hle hid) hdistinct

end

end Catalogue

end LedgerSearch
