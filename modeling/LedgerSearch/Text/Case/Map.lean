/-!
# Case maps

A case map sends a character to one or more characters. ASCII has its own rule;
elsewhere most characters move by a fixed distance that whole runs of letters
share, and a few become several characters.
-/

namespace LedgerSearch.Text

/-- Every `step`-th code point from `first` to `last` moves by `distance`. -/
structure CaseMap.Shift where
  first : Nat
  last : Nat
  step : Nat
  distance : Int

/-- Where a shift sends a code point, if it covers it. -/
def CaseMap.Shift.image? (s : CaseMap.Shift) (n : Nat) : Option Nat :=
  if s.first ≤ n && n ≤ s.last && (n - s.first) % s.step == 0 then
    some (n + s.distance).toNat
  else
    none

/-- A map on characters: a rule for ASCII, and tables for the rest. -/
structure CaseMap where
  ascii : Char → Char
  shifts : List CaseMap.Shift
  expansions : List (Nat × List Nat)

/-- The characters that replace one character. -/
def CaseMap.char (m : CaseMap) (c : Char) : List Char :=
  if c.toNat < 0x80 then
    [m.ascii c]
  else
    match m.expansions.lookup c.toNat with
    | some codes => codes.map Char.ofNat
    | none =>
      match m.shifts.findSome? (·.image? c.toNat) with
      | some n => [Char.ofNat n]
      | none => [c]

/-- Replaces every character on its own. -/
def CaseMap.apply (m : CaseMap) (cs : List Char) : List Char :=
  cs.flatMap m.char

theorem CaseMap.char_of_ascii (m : CaseMap) {c : Char} (h : c.toNat < 0x80) :
    m.char c = [m.ascii c] := by
  simp [CaseMap.char, h]

@[simp] theorem CaseMap.apply_nil (m : CaseMap) : m.apply [] = [] := rfl

theorem CaseMap.apply_append (m : CaseMap) (a b : List Char) :
    m.apply (a ++ b) = m.apply a ++ m.apply b := by
  simp [CaseMap.apply]

end LedgerSearch.Text
