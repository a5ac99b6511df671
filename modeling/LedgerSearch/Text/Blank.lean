/-!
# Blank characters

The characters that separate words: the white space and separator characters of
Unicode together with the four information separators U+001C … U+001F. Zero
width space, the Mongolian vowel separator, the byte order mark and NUL are not
among them.

* `trimmed_eq_nil_iff`: trimming leaves nothing exactly when all is blank.
-/

namespace LedgerSearch.Text

/-- Whether a character separates words. -/
def isBlank (c : Char) : Bool :=
  let n := c.toNat
  (0x09 ≤ n && n ≤ 0x0D) || (0x1C ≤ n && n ≤ 0x20) || n == 0x85 || n == 0xA0 || n == 0x1680 ||
    (0x2000 ≤ n && n ≤ 0x200A) || n == 0x2028 || n == 0x2029 || n == 0x202F || n == 0x205F ||
    n == 0x3000

/-- Whether a character is an information separator. -/
def isInformationSeparator (c : Char) : Bool :=
  0x1C ≤ c.toNat && c.toNat ≤ 0x1F

/-- Whether a character is blank, the information separators apart: the white space of Unicode. -/
def isSpace (c : Char) : Bool :=
  isBlank c && !isInformationSeparator c

/-- The characters without those of a class at either end. -/
def trimmedOf (p : Char → Bool) (cs : List Char) : List Char :=
  ((cs.dropWhile p).reverse.dropWhile p).reverse

/-- The characters without the blank ones at either end. -/
def trimmed (cs : List Char) : List Char :=
  trimmedOf isBlank cs

def trim (s : String) : String :=
  String.ofList (trimmed s.toList)

theorem dropWhile_eq_nil_iff_all {p : Char → Bool} {cs : List Char} :
    cs.dropWhile p = [] ↔ cs.all p = true := by
  induction cs with
  | nil => simp
  | cons c cs ih =>
    by_cases h : p c
    · simp only [List.dropWhile_cons, h, if_true, List.all_cons, Bool.true_and]
      exact ih
    · simp [h]

theorem trimmedOf_eq_nil_iff {p : Char → Bool} {cs : List Char} :
    trimmedOf p cs = [] ↔ cs.all p = true := by
  simp only [trimmedOf, List.reverse_eq_nil_iff, dropWhile_eq_nil_iff_all, List.all_reverse]
  rw [← @dropWhile_eq_nil_iff_all p cs]
  constructor
  · intro h
    cases hd : cs.dropWhile p with
    | nil => rfl
    | cons c r =>
      have hhead := List.head?_dropWhile_not p cs
      rw [hd] at h hhead
      simp only [List.all_cons, Bool.and_eq_true] at h
      simp only [List.head?_cons] at hhead
      rw [h.1] at hhead
      cases hhead
  · intro h
    simp [h]

/-- Trimming leaves nothing exactly when every character is blank. -/
theorem trimmed_eq_nil_iff {cs : List Char} : trimmed cs = [] ↔ cs.all isBlank = true :=
  trimmedOf_eq_nil_iff

end LedgerSearch.Text
