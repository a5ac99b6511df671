import LedgerSearch.Proofs.Calendar.DayNumber
import LedgerSearch.Sql.Transactions

/-!
# Filters that have conditions

Only the constraints on days can fail to give conditions: the last day of the
calendar has no day after it, so it has no window. A filter has conditions
exactly when it does not name that day.
-/

namespace LedgerSearch

open Calendar

theorem bind_eq_ok {ε α β : Type} {x : Except ε α} {f : α → Except ε β} {b : β} :
    x >>= f = .ok b ↔ ∃ a, x = .ok a ∧ f a = .ok b := by
  cases x with
  | error e =>
    constructor
    · intro h
      cases h
    · rintro ⟨a, h, -⟩
      cases h
  | ok a =>
    constructor
    · intro h
      exact ⟨a, rfl, h⟩
    · rintro ⟨a, h, hb⟩
      cases h
      exact hb

/-- The days that a filter names. -/
def Filter.days (f : Filter) : List Date :=
  (f.dateRange.toList.flatMap fun range => [range.first, range.last]) ++
    f.dateAfter.toList ++ f.dateBefore.toList ++ f.createdOn.toList ++ f.updatedOn.toList

namespace Sql.Condition

/-- Conditions that are made from the window of a day. -/
theorem ofWindow_eq_ok {d : Date} {conditions : Window → List Condition} {cs : List Condition} :
    (Window.ofDays d d >>= fun window => .ok (conditions window)) = .ok cs ↔
      ∃ n, d.next = .ok n ∧ cs = conditions ⟨d, n⟩ := by
  rw [bind_eq_ok]
  constructor
  · rintro ⟨w, hw, h⟩
    obtain ⟨n, hn, rfl⟩ := Window.ofDays_eq_ok.mp hw
    cases h
    exact ⟨n, hn, rfl⟩
  · rintro ⟨n, hn, rfl⟩
    exact ⟨⟨d, n⟩, Window.ofDays_eq_ok.mpr ⟨n, hn, rfl⟩, rfl⟩

theorem fromDay_some_eq_ok {column : TimeColumn} {d : Date} {cs : List Condition} :
    fromDay column (some d) = .ok cs ↔
      ∃ n, d.next = .ok n ∧ cs = [⟨.notBefore column, .midnight d⟩] :=
  ofWindow_eq_ok

theorem upToDay_some_eq_ok {column : TimeColumn} {d : Date} {cs : List Condition} :
    upToDay column (some d) = .ok cs ↔
      ∃ n, d.next = .ok n ∧ cs = [⟨.before column, .midnight n⟩] :=
  ofWindow_eq_ok

/-- What is made from the windows of days can be made exactly of days other than the last one. -/
theorem exists_ofWindow_iff {make : Option Date → Except DateError (List Condition)}
    {conditions : Date → Date → List Condition} (hnone : make none = .ok [])
    (hsome : ∀ d cs, make (some d) = .ok cs ↔ ∃ n, d.next = .ok n ∧ cs = conditions d n)
    (day : Option Date) :
    (∃ cs, make day = .ok cs) ↔ ∀ d ∈ day.toList, d ≠ Date.last := by
  cases day with
  | none => exact iff_of_true ⟨[], hnone⟩ (List.forall_mem_nil _)
  | some d =>
    rw [Option.toList_some, List.forall_mem_singleton, ← Date.exists_next_iff]
    constructor
    · rintro ⟨cs, h⟩
      obtain ⟨n, hn, -⟩ := (hsome d cs).mp h
      exact ⟨n, hn⟩
    · rintro ⟨n, hn⟩
      exact ⟨_, (hsome d _).mpr ⟨n, hn, rfl⟩⟩

theorem exists_fromDay_iff (column : TimeColumn) (day : Option Date) :
    (∃ cs, fromDay column day = .ok cs) ↔ ∀ d ∈ day.toList, d ≠ Date.last :=
  exists_ofWindow_iff rfl (fun _ _ => fromDay_some_eq_ok) day

theorem exists_upToDay_iff (column : TimeColumn) (day : Option Date) :
    (∃ cs, upToDay column day = .ok cs) ↔ ∀ d ∈ day.toList, d ≠ Date.last :=
  exists_ofWindow_iff rfl (fun _ _ => upToDay_some_eq_ok) day

theorem ofDays_eq_ok {column : TimeColumn} {first last : Option Date} {cs : List Condition} :
    ofDays column first last = .ok cs ↔
      ∃ a b, fromDay column first = .ok a ∧ upToDay column last = .ok b ∧ cs = a ++ b := by
  rw [ofDays, bind_eq_ok]
  constructor
  · rintro ⟨a, ha, h⟩
    obtain ⟨b, hb, h⟩ := bind_eq_ok.mp h
    cases h
    exact ⟨a, b, ha, hb, rfl⟩
  · rintro ⟨a, b, ha, hb, rfl⟩
    exact ⟨a, ha, bind_eq_ok.mpr ⟨b, hb, rfl⟩⟩

theorem exists_ofDays_iff (column : TimeColumn) (first last : Option Date) :
    (∃ cs, ofDays column first last = .ok cs) ↔
      ∀ d ∈ first.toList ++ last.toList, d ≠ Date.last := by
  rw [List.forall_mem_append, ← exists_fromDay_iff column, ← exists_upToDay_iff column]
  constructor
  · rintro ⟨cs, h⟩
    obtain ⟨a, b, ha, hb, -⟩ := ofDays_eq_ok.mp h
    exact ⟨⟨a, ha⟩, ⟨b, hb⟩⟩
  · rintro ⟨⟨a, ha⟩, ⟨b, hb⟩⟩
    exact ⟨a ++ b, ofDays_eq_ok.mpr ⟨a, b, ha, hb, rfl⟩⟩

/-- A filter has conditions exactly when it does not name the last day. -/
theorem exists_ofFilter_iff (f : Filter) :
    (∃ cs, ofFilter f = .ok cs) ↔ ∀ d ∈ f.days, d ≠ Date.last := by
  have hdays : (∀ d ∈ f.days, d ≠ Date.last) ↔
      (∃ cs, ofDays .date (f.dateRange.map (·.first)) (f.dateRange.map (·.last)) = .ok cs) ∧
      (∃ cs, ofDays .date f.dateAfter f.dateBefore = .ok cs) ∧
      (∃ cs, ofDays .createdAt f.createdOn f.createdOn = .ok cs) ∧
      (∃ cs, ofDays .updatedAt f.updatedOn f.updatedOn = .ok cs) := by
    simp only [exists_ofDays_iff, Filter.days, List.forall_mem_append]
    cases f.dateRange <;> simp [and_assoc]
  rw [hdays]
  constructor
  · rintro ⟨cs, h⟩
    obtain ⟨range, hrange, h⟩ := bind_eq_ok.mp h
    obtain ⟨bounds, hbounds, h⟩ := bind_eq_ok.mp h
    obtain ⟨created, hcreated, h⟩ := bind_eq_ok.mp h
    obtain ⟨updated, hupdated, -⟩ := bind_eq_ok.mp h
    exact ⟨⟨range, hrange⟩, ⟨bounds, hbounds⟩, ⟨created, hcreated⟩, ⟨updated, hupdated⟩⟩
  · rintro ⟨⟨range, hrange⟩, ⟨bounds, hbounds⟩, ⟨created, hcreated⟩, ⟨updated, hupdated⟩⟩
    exact ⟨_, bind_eq_ok.mpr ⟨range, hrange, bind_eq_ok.mpr ⟨bounds, hbounds,
      bind_eq_ok.mpr ⟨created, hcreated, bind_eq_ok.mpr ⟨updated, hupdated, rfl⟩⟩⟩⟩⟩

end Sql.Condition

namespace Sql

theorem countAll_eq_ok {f : Filter} {s : Statement} :
    countAll f = .ok s ↔ ∃ cs, Condition.ofFilter f = .ok cs ∧ s = countStatement cs := by
  rw [countAll]
  cases Condition.ofFilter f with
  | error e => simp [Except.map]
  | ok cs => simp [Except.map, eq_comm]

/-- A valid page leaves it to the filter whether there is a statement. -/
theorem selectPage_of_valid {f : Filter} {page pageSize : Int} (hpage : 1 ≤ page)
    (hsize : 1 ≤ pageSize) :
    selectPage f page pageSize =
      match Condition.ofFilter f with
      | .ok conditions => .ok (selectStatement conditions page pageSize)
      | .error e => .error (.date e) :=
  (if_neg (Int.not_lt.mpr hpage)).trans (if_neg (Int.not_lt.mpr hsize))

theorem selectPage_eq_ok {f : Filter} {page pageSize : Int} {s : Statement} :
    selectPage f page pageSize = .ok s ↔ 1 ≤ page ∧ 1 ≤ pageSize ∧
      ∃ cs, Condition.ofFilter f = .ok cs ∧ s = selectStatement cs page pageSize := by
  rw [selectPage]
  by_cases hpage : page < 1
  · simp [hpage]
  by_cases hsize : pageSize < 1
  · simp [hpage, hsize]
  rw [if_neg hpage, if_neg hsize]
  have hvalid : 1 ≤ page ∧ 1 ≤ pageSize := ⟨Int.not_lt.mp hpage, Int.not_lt.mp hsize⟩
  cases Condition.ofFilter f with
  | error e => simp
  | ok cs => simp [hvalid, eq_comm]

end Sql

end LedgerSearch
