import Mathlib.Data.List.Basic
import LedgerSearch.Text.Case

/-!
# Upper case

Upper case moves characters to places that it does not move any further: the code
points that are reached and those that move are spans that have nothing in common.
A text in upper case therefore stays as it is.

* `Span.not_covers_of_apart`: spans apart from each other have no code point in common.
* `upper_upper`: upper case is its own upper case.
* `upper_eq_empty_iff`: no character is lost.
-/

namespace LedgerSearch.Text

/-! ## Spans of code points -/

/-- Every `step`-th code point from `first` to `last`. -/
structure Span where
  first : Nat
  last : Nat
  step : Nat

namespace Span

def Covers (s : Span) (n : Nat) : Prop :=
  s.first ≤ n ∧ n ≤ s.last ∧ (n - s.first) % s.step = 0

/-- The span of one code point. Its step is 2, so that it has the code points of one parity only. -/
def single (n : Nat) : Span :=
  ⟨n, n, 2⟩

/-- Whether one span ends before the other begins, or one has even code points only and the other
one odd ones. -/
def apart (s t : Span) : Bool :=
  s.last.blt t.first || t.last.blt s.first ||
    (s.step == 2 && t.step == 2 && (s.first + t.first) % 2 == 1)

theorem not_covers_of_apart {s t : Span} (h : s.apart t = true) {n : Nat} (hs : s.Covers n) :
    ¬ t.Covers n := by
  simp only [apart, Bool.or_eq_true, Nat.blt_eq, Bool.and_eq_true, beq_iff_eq] at h
  obtain ⟨hfirst, hlast, hstep⟩ := hs
  rintro ⟨hfirst', hlast', hstep'⟩
  rcases h with (h | h) | ⟨⟨htwo, htwo'⟩, hodd⟩
  · omega
  · omega
  · rw [htwo] at hstep
    rw [htwo'] at hstep'
    omega

theorem covers_single (n : Nat) : (single n).Covers n := by
  simp [Covers, single]

end Span

/-! ## The spans of a table -/

namespace CaseMap.Shift

/-- The step of a shift, where a shift of one code point keeps among those of its parity. -/
def stride (s : Shift) : Nat :=
  if s.first = s.last then 2 else s.step

/-- The code points that a shift moves. -/
def domain (s : Shift) : Span :=
  ⟨s.first, s.last, s.stride⟩

/-- The code points to which a shift moves others. -/
def range (s : Shift) : Span :=
  ⟨(s.first + s.distance).toNat, (s.last + s.distance).toNat, s.stride⟩

variable {s : Shift} {n image : Nat}

theorem bounds_of_image? (h : s.image? n = some image) :
    s.first ≤ n ∧ n ≤ s.last ∧ (n - s.first) % s.stride = 0 ∧ image = (n + s.distance).toNat := by
  rw [image?] at h
  split at h
  · rename_i hcovers
    simp only [Bool.and_eq_true, decide_eq_true_eq, beq_iff_eq] at hcovers
    obtain ⟨⟨hfirst, hlast⟩, hstep⟩ := hcovers
    refine ⟨hfirst, hlast, ?_, by simpa using h.symm⟩
    rw [stride]
    split
    · have hsame : n - s.first = 0 := by omega
      rw [hsame]
    · exact hstep
  · cases h

theorem domain_covers (h : s.image? n = some image) : s.domain.Covers n := by
  obtain ⟨hfirst, hlast, hstep, -⟩ := bounds_of_image? h
  exact ⟨hfirst, hlast, hstep⟩

theorem range_covers (h : s.image? n = some image) (hs : 0 ≤ s.first + s.distance) :
    s.range.Covers image := by
  obtain ⟨hfirst, hlast, hstep, rfl⟩ := bounds_of_image? h
  -- Nothing moves below zero, so the distance to the first code point stays what it was.
  have hoffset : (n + s.distance).toNat - (s.first + s.distance).toNat = n - s.first := by omega
  refine ⟨by simp only [range]; omega, by simp only [range]; omega, ?_⟩
  simpa only [range, hoffset] using hstep

end CaseMap.Shift

/-! ## Upper case -/

/-- The code points that upper case moves: small letters of ASCII, and those of the tables. -/
def upperMoves : List Span :=
  ⟨'a'.toNat, 'z'.toNat, 1⟩ :: upperShifts.map (·.domain) ++
    upperExpansions.map fun e => .single e.1

/-- The code points that upper case leads to: capital letters of ASCII, and those of the tables. -/
def upperReaches : List Span :=
  .single 0 :: ⟨'A'.toNat, 'Z'.toNat, 1⟩ :: upperShifts.map (·.range) ++
    upperExpansions.flatMap fun e => e.2.map .single

/-- No code point that is reached moves. -/
theorem upperReaches_apart_upperMoves :
    (upperReaches.all fun s => upperMoves.all s.apart) = true := by
  decide +kernel

/-- What replaces a character: its image in ASCII, the characters of an expansion, the one that a
shift leads to, or the character itself. -/
theorem CaseMap.char_cases (m : CaseMap) (c : Char) :
    (c.toNat < 0x80 ∧ m.char c = [m.ascii c]) ∨
      (∃ codes, (c.toNat, codes) ∈ m.expansions ∧ m.char c = codes.map Char.ofNat) ∨
      (∃ s ∈ m.shifts, ∃ n, s.image? c.toNat = some n ∧ m.char c = [Char.ofNat n]) ∨
      m.char c = [c] := by
  rw [CaseMap.char]
  split
  · rename_i hascii
    exact .inl ⟨hascii, rfl⟩
  · refine .inr ?_
    split
    · rename_i codes hcodes
      obtain ⟨front, back, hsplit, -⟩ := List.lookup_eq_some_iff.mp hcodes
      exact .inl ⟨codes, by simp [hsplit], rfl⟩
    · refine .inr ?_
      split
      · rename_i n hn
        obtain ⟨s, hs, himage⟩ := List.exists_of_findSome?_eq_some hn
        exact .inl ⟨s, hs, n, himage, rfl⟩
      · exact .inr rfl

theorem toUpper_of_ascii {c : Char} (h : c.toNat < 0x80) :
    ('a'.toNat ≤ c.toNat ∧ c.toNat ≤ 'z'.toNat ∧ 'A'.toNat ≤ c.toUpper.toNat ∧
      c.toUpper.toNat ≤ 'Z'.toNat) ∨ c.toUpper = c := by
  have hall : ∀ n < 0x80, ('a'.toNat ≤ (Char.ofNat n).toNat ∧ (Char.ofNat n).toNat ≤ 'z'.toNat ∧
      'A'.toNat ≤ (Char.ofNat n).toUpper.toNat ∧ (Char.ofNat n).toUpper.toNat ≤ 'Z'.toNat) ∨
        (Char.ofNat n).toUpper = Char.ofNat n := by
    decide
  simpa only [Char.ofNat_toNat] using hall c.toNat h

/-- A character that does not move is replaced by itself. -/
theorem upperMap_char_eq_self {c : Char} (h : ∀ s ∈ upperMoves, ¬ s.Covers c.toNat) :
    upperMap.char c = [c] := by
  rcases upperMap.char_cases c with
    ⟨hascii, hc⟩ | ⟨codes, hcodes, -⟩ | ⟨s, hs, n, himage, -⟩ | hc
  · rcases toUpper_of_ascii hascii with ⟨hfirst, hlast, -⟩ | hsame
    · refine absurd ⟨hfirst, hlast, Nat.mod_one _⟩ (h ⟨'a'.toNat, 'z'.toNat, 1⟩ ?_)
      exact List.mem_cons_self
    · rw [hc]
      exact congrArg ([·]) hsame
  · refine absurd (Span.covers_single c.toNat) (h _ ?_)
    exact List.mem_append_right _ (List.mem_map_of_mem hcodes)
  · refine absurd (CaseMap.Shift.domain_covers himage) (h _ ?_)
    exact List.mem_append_left _ (List.mem_cons_of_mem _ (List.mem_map_of_mem hs))
  · exact hc

theorem toNat_ofNat (n : Nat) : (Char.ofNat n).toNat = n ∨ (Char.ofNat n).toNat = 0 := by
  by_cases h : n.isValidChar
  · left
    rw [Char.ofNat, dif_pos h]
    rfl
  · right
    rw [Char.ofNat, dif_neg h]
    rfl

/-- The character of a code point that is reached is reached; there may be none, and NUL in its
place. -/
theorem exists_covers_ofNat {s : Span} {n : Nat} (hs : s ∈ upperReaches) (hn : s.Covers n) :
    ∃ s ∈ upperReaches, s.Covers (Char.ofNat n).toNat := by
  rcases toNat_ofNat n with h | h
  · rw [h]
    exact ⟨s, hs, hn⟩
  · exact ⟨.single 0, List.mem_cons_self, h ▸ Span.covers_single 0⟩

theorem nonneg_upperShifts : ∀ s ∈ upperShifts, 0 ≤ s.first + s.distance := by
  decide +kernel

/-- The characters that replace one that moves are reached. -/
theorem upperMap_char_eq_self_or_reached (c : Char) :
    upperMap.char c = [c] ∨
      ∀ d ∈ upperMap.char c, ∃ s ∈ upperReaches, s.Covers d.toNat := by
  rcases upperMap.char_cases c with
    ⟨hascii, hc⟩ | ⟨codes, hcodes, hc⟩ | ⟨s, hs, n, himage, hc⟩ | hc
  · rcases toUpper_of_ascii hascii with ⟨-, -, hfirst, hlast⟩ | hsame
    · refine .inr ?_
      rw [hc, List.forall_mem_singleton]
      refine ⟨⟨'A'.toNat, 'Z'.toNat, 1⟩, ?_, hfirst, hlast, Nat.mod_one _⟩
      exact List.mem_cons_of_mem _ List.mem_cons_self
    · rw [hc]
      exact .inl (congrArg ([·]) hsame)
  · refine .inr ?_
    rw [hc, List.forall_mem_map]
    intro code hcode
    refine exists_covers_ofNat (List.mem_append_right _ ?_) (Span.covers_single code)
    exact List.mem_flatMap.mpr ⟨_, hcodes, List.mem_map_of_mem hcode⟩
  · refine .inr ?_
    rw [hc, List.forall_mem_singleton]
    have hrange := CaseMap.Shift.range_covers himage (nonneg_upperShifts s hs)
    refine exists_covers_ofNat (List.mem_append_left _ ?_) hrange
    exact List.mem_cons_of_mem _ (List.mem_cons_of_mem _ (List.mem_map_of_mem hs))
  · exact .inl hc

theorem upperMap_char_of_reached {c : Char} (h : ∃ s ∈ upperReaches, s.Covers c.toNat) :
    upperMap.char c = [c] := by
  obtain ⟨s, hs, hcovers⟩ := h
  have hapart := List.all_eq_true.mp (List.all_eq_true.mp upperReaches_apart_upperMoves s hs)
  exact upperMap_char_eq_self fun t ht => Span.not_covers_of_apart (hapart t ht) hcovers

theorem upperMap_apply_char (c : Char) : upperMap.apply (upperMap.char c) = upperMap.char c := by
  rcases upperMap_char_eq_self_or_reached c with hself | hreached
  · rw [hself, CaseMap.apply, List.flatMap_singleton, hself]
  · rw [CaseMap.apply, List.flatMap_congr fun d hd => upperMap_char_of_reached (hreached d hd),
      List.flatMap_singleton']

/-- A text in upper case stays as it is. -/
@[simp] theorem upper_upper (s : String) : upper (upper s) = upper s := by
  rw [upper, upper, String.toList_ofList, CaseMap.apply, CaseMap.apply, List.flatMap_assoc]
  exact congrArg String.ofList (List.flatMap_congr fun c _ => upperMap_apply_char c)

theorem upperMap_char_ne_nil (c : Char) : upperMap.char c ≠ [] := by
  have hexpansions : ∀ e ∈ upperExpansions, e.2 ≠ [] := by
    decide
  rcases upperMap.char_cases c with ⟨-, hc⟩ | ⟨codes, hcodes, hc⟩ | ⟨_, _, _, _, hc⟩ | hc
  · simp [hc]
  · rw [hc]
    exact List.map_eq_nil_iff.not.mpr (hexpansions _ hcodes)
  · simp [hc]
  · simp [hc]

/-- No character is lost in upper case. -/
theorem upper_eq_empty_iff {s : String} : upper s = "" ↔ s = "" := by
  have hnil : upperMap.apply s.toList = [] ↔ s.toList = [] := by
    rw [CaseMap.apply, List.flatMap_eq_nil_iff]
    constructor
    · intro h
      exact List.eq_nil_iff_forall_not_mem.mpr fun c hc => upperMap_char_ne_nil c (h c hc)
    · intro h
      rw [h]
      exact List.forall_mem_nil _
  rw [upper, String.ofList_eq_empty_iff, hnil, String.toList_eq_nil_iff]

end LedgerSearch.Text
