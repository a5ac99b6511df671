import Mathlib.Data.Prod.Lex
import Mathlib.Data.Set.Lattice
import Mathlib.Order.CompletePartialOrder
import LedgerSearch.Proofs.Calendar.Instant

/-!
# Windows tile time

Days are ordered by year, month and day of month, and an instant belongs to one day
in universal time. The window of a run of days is half open: it holds the instant at
which its first day begins, and not the one at which the day after its last one
begins. So it holds exactly the instants of its days, and where one run ends and the
next one begins there is neither a gap nor an overlap.

* `civil_le_civil_iff`: the order of day numbers is the order of written days.
* `exists_day?_between_iff`: the instants whose day lies between two days.
* `mem_instants_iff`: the instants of a window.
* `instants_eq_union`, `disjoint_instants`: two windows that meet are one.
-/

namespace LedgerSearch.Calendar

/-! ## The order of days -/

namespace Date

/-- Year, month and day of month, in the order in which they decide between two days. -/
def civil (d : Date) : ℕ ×ₗ ℕ ×ₗ ℕ :=
  toLex (d.year, toLex (d.month, d.day))

variable {a b : Date}

theorem civil_injective (h : a.civil = b.civil) : a = b := by
  have hfields : a.year = b.year ∧ a.month = b.month ∧ a.day = b.day := by
    simpa [civil] using h
  rw [← Option.some_inj, ← ofCivil?_self b]
  exact (ofCivil?_eq_some.mpr hfields).symm

theorem dayNumber_lt_of_civil_lt (h : a.civil < b.civil) : a.dayNumber < b.dayNumber := by
  have hfields : a.year < b.year ∨ a.year = b.year ∧
      (a.month < b.month ∨ a.month = b.month ∧ a.day < b.day) := by
    simpa [civil, Prod.Lex.toLex_lt_toLex] using h
  rcases hfields with hyear | ⟨hyear, hmonth | ⟨hmonth, hday⟩⟩
  · exact dayNumber_lt_of_year_lt hyear
  · exact dayNumber_lt_of_month_lt hyear hmonth
  · rw [dayNumber, dayNumber, hyear, hmonth]
    exact Nat.add_lt_add_left hday _

/-- Days are in the order of their years, months and days of month. -/
theorem civil_lt_civil_iff : a.civil < b.civil ↔ a < b := by
  constructor
  · exact dayNumber_lt_of_civil_lt
  · intro h
    rcases lt_trichotomy a.civil b.civil with hlt | heq | hgt
    · exact hlt
    · rw [civil_injective heq] at h
      exact absurd h (Nat.lt_irrefl _)
    · exact absurd h (Nat.lt_asymm (dayNumber_lt_of_civil_lt hgt))

theorem civil_le_civil_iff : a.civil ≤ b.civil ↔ a ≤ b := by
  rw [← not_lt, civil_lt_civil_iff]
  exact Nat.not_lt

end Date

variable {first middle next last day : Date} {x : Instant}

/-! ## The day of an instant -/

/-- The day in universal time, where it belongs to the calendar. -/
def Instant.day? (x : Instant) : Option Date :=
  Date.ofDayNumber? x.dayNumber

theorem day?_eq_some_iff : x.day? = some day ↔ x.dayNumber = day.dayNumber := by
  constructor
  · intro h
    exact (Date.dayNumber_of_ofDayNumber? h).symm
  · intro h
    rw [Instant.day?, h, Date.ofDayNumber?_dayNumber]

/-- No day between two days of the calendar lies outside it. -/
theorem exists_day?_between_iff :
    (∃ day, x.day? = some day ∧ first.civil ≤ day.civil ∧ day.civil ≤ last.civil) ↔
      (first.dayNumber : Int) ≤ x.dayNumber ∧ x.dayNumber ≤ last.dayNumber := by
  simp only [Date.civil_le_civil_iff]
  constructor
  · rintro ⟨day, hday, hfirst, hlast⟩
    rw [day?_eq_some_iff.mp hday]
    exact ⟨Int.ofNat_le.mpr hfirst, Int.ofNat_le.mpr hlast⟩
  · rintro ⟨hfirst, hlast⟩
    have hone := Date.one_le_dayNumber first
    have hmost : last.dayNumber ≤ Date.last.dayNumber := Date.le_last last
    obtain ⟨day, hday⟩ : ∃ day : Date, (day.dayNumber : Int) = x.dayNumber :=
      Date.exists_dayNumber_eq (by omega) (by omega)
    rw [← hday] at hfirst hlast
    exact ⟨day, day?_eq_some_iff.mpr hday.symm, Int.ofNat_le.mp hfirst, Int.ofNat_le.mp hlast⟩

theorem dayNumber_start (d : Date) : d.start.dayNumber = d.dayNumber := by
  rw [Instant.dayNumber, Date.start, Int.mul_ediv_cancel _ (by decide)]
  omega

theorem start_lt_start_iff : first.start < last.start ↔ first < last := by
  rw [lt_start_iff, dayNumber_start]
  exact Int.ofNat_lt

/-! ## Windows -/

namespace Window

/-- The first instant of a window. -/
def opens (w : Window) : Instant :=
  w.start.start

/-- The first instant after a window. -/
def closes (w : Window) : Instant :=
  w.stop.start

def instants (w : Window) : Set Instant :=
  {x | w.opens ≤ x ∧ x < w.closes}

variable {u v w : Window}

/-- Days before the last one of the calendar have a window. -/
theorem exists_ofDays (first : Date) (h : last < Date.last) : ∃ w, ofDays first last = .ok w := by
  have hne : last ≠ Date.last := by
    rintro rfl
    exact Nat.lt_irrefl _ h
  obtain ⟨stop, hstop⟩ := (Date.exists_next_iff last).mpr hne
  exact ⟨_, ofDays_eq_ok.mpr ⟨stop, hstop, rfl⟩⟩

theorem mem_instants_iff (h : ofDays first last = .ok w) :
    x ∈ w.instants ↔ (first.dayNumber : Int) ≤ x.dayNumber ∧ x.dayNumber ≤ last.dayNumber := by
  obtain ⟨stop, hstop, rfl⟩ := ofDays_eq_ok.mp h
  exact and_congr start_le_iff (lt_start_next_iff hstop)

theorem opens_lt_closes (h : ofDays first last = .ok w) (hle : first ≤ last) :
    w.opens < w.closes := by
  obtain ⟨stop, hstop, rfl⟩ := ofDays_eq_ok.mp h
  refine start_lt_start_iff.mpr ?_
  show first.dayNumber < stop.dayNumber
  rw [Date.dayNumber_of_next hstop]
  exact Nat.lt_succ_of_le hle

/-! ## Windows that meet -/

section Meeting

variable (hnext : middle.next = .ok next) (hu : ofDays first middle = .ok u)
  (hv : ofDays next last = .ok v)

include hnext hu hv

theorem closes_eq_opens : u.closes = v.opens := by
  obtain ⟨stop, hstop, rfl⟩ := ofDays_eq_ok.mp hu
  obtain ⟨_, -, rfl⟩ := ofDays_eq_ok.mp hv
  rw [hnext] at hstop
  cases hstop
  rfl

theorem disjoint_instants : Disjoint u.instants v.instants := by
  have hsucc := Date.dayNumber_of_next hnext
  refine Set.disjoint_left.mpr fun x hxu hxv => ?_
  rw [mem_instants_iff hu] at hxu
  rw [mem_instants_iff hv] at hxv
  omega

theorem instants_eq_union (hw : ofDays first last = .ok w) (hfirst : first ≤ middle)
    (hlast : middle < last) : w.instants = u.instants ∪ v.instants := by
  have hsucc := Date.dayNumber_of_next hnext
  have hfirst : first.dayNumber ≤ middle.dayNumber := hfirst
  have hlast : middle.dayNumber < last.dayNumber := hlast
  ext x
  rw [Set.mem_union, mem_instants_iff hu, mem_instants_iff hv, mem_instants_iff hw]
  omega

end Meeting

end Window

/-- Days up to one before the last day of the calendar have a window, which holds the instants of
these days and no other. Cut after any of its days, it falls into the windows of the days before and
after the cut: the first closes when the second opens, and every instant is in one of them only. -/
theorem windows_tile_time (hle : first.civil ≤ last.civil) (hlast : last.civil < Date.last.civil) :
    ∃ w, Window.ofDays first last = .ok w ∧ w.opens < w.closes ∧
      (∀ x : Instant, w.opens ≤ x ∧ x < w.closes ↔
        ∃ day, x.day? = some day ∧ first.civil ≤ day.civil ∧ day.civil ≤ last.civil) ∧
      ∀ middle : Date, first.civil ≤ middle.civil → middle.civil < last.civil →
        ∃ next u v, middle.next = .ok next ∧ next.civil ≤ last.civil ∧
          Window.ofDays first middle = .ok u ∧ Window.ofDays next last = .ok v ∧
          u.closes = v.opens ∧ w.instants = u.instants ∪ v.instants ∧
          Disjoint u.instants v.instants := by
  rw [Date.civil_le_civil_iff] at hle
  rw [Date.civil_lt_civil_iff] at hlast
  obtain ⟨w, hw⟩ := Window.exists_ofDays first hlast
  refine ⟨w, hw, Window.opens_lt_closes hw hle, fun x => ?_, fun middle hfirst hmiddle => ?_⟩
  · rw [exists_day?_between_iff]
    exact Window.mem_instants_iff hw
  · rw [Date.civil_le_civil_iff] at hfirst
    rw [Date.civil_lt_civil_iff] at hmiddle
    obtain ⟨u, hu⟩ := Window.exists_ofDays first (Nat.lt_trans hmiddle hlast)
    obtain ⟨next, hnext, -⟩ := Window.ofDays_eq_ok.mp hu
    obtain ⟨v, hv⟩ := Window.exists_ofDays next hlast
    refine ⟨next, u, v, hnext, ?_, hu, hv, Window.closes_eq_opens hnext hu hv,
      Window.instants_eq_union hnext hu hv hw hfirst hmiddle,
      Window.disjoint_instants hnext hu hv⟩
    rw [Date.civil_le_civil_iff]
    show next.dayNumber ≤ last.dayNumber
    rw [Date.dayNumber_of_next hnext]
    exact Nat.succ_le_of_lt hmiddle

/-- The leap day of a century is cut from the day after it at midnight: the last microsecond before
it belongs to the first of two windows, and midnight itself to the second one. -/
theorem windows_tile_time_centuryLeapDay :
    let first : Date := ⟨1999, 12, 31, by decide⟩
    let leapDay : Date := ⟨2000, 2, 29, by decide⟩
    let last : Date := ⟨2000, 12, 31, by decide⟩
    (first.civil ≤ last.civil ∧ last.civil < Date.last.civil ∧
      first.civil ≤ leapDay.civil ∧ leapDay.civil < last.civil) ∧
    ∃ u v, Window.ofDays first leapDay = .ok u ∧
      Window.ofDays ⟨2000, 3, 1, by decide⟩ last = .ok v ∧ u.closes = v.opens ∧
      ⟨951868799999999⟩ ∈ u.instants ∧ ⟨951868800000000⟩ ∈ v.instants ∧
      ⟨951868800000000⟩ ∉ u.instants ∧
      (⟨951868800000000⟩ : Instant).day? = some ⟨2000, 3, 1, by decide⟩ := by
  intro first leapDay last
  have hle : first.civil ≤ last.civil := by decide
  have hlast : last.civil < Date.last.civil := by decide
  have hfirst : first.civil ≤ leapDay.civil := by decide
  have hleapDay : leapDay.civil < last.civil := by decide
  have hmarch : leapDay.next = .ok ⟨2000, 3, 1, by decide⟩ := by decide +kernel
  obtain ⟨w, -, -, -, htile⟩ := windows_tile_time hle hlast
  obtain ⟨next, u, v, hnext, -, hu, hv, hmeet, -, hdisjoint⟩ := htile leapDay hfirst hleapDay
  obtain rfl : next = ⟨2000, 3, 1, by decide⟩ := Except.ok.inj (hnext.symm.trans hmarch)
  have hbefore : ⟨951868799999999⟩ ∈ u.instants := (Window.mem_instants_iff hu).mpr (by decide)
  have hmidnight : ⟨951868800000000⟩ ∈ v.instants := (Window.mem_instants_iff hv).mpr (by decide)
  exact ⟨⟨hle, hlast, hfirst, hleapDay⟩, u, v, hu, hv, hmeet, hbefore, hmidnight,
    fun h => Set.disjoint_left.mp hdisjoint h hmidnight, by decide +kernel⟩

end LedgerSearch.Calendar
