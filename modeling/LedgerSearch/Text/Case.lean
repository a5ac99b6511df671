import LedgerSearch.Text.Case.Map
import LedgerSearch.Text.Case.Upper
import LedgerSearch.Text.Case.Lower
import LedgerSearch.Text.Case.Fold
import LedgerSearch.Text.Case.Context

/-!
# Upper case, lower case and case folding

The three full case mappings of Unicode. Upper case and folding replace each
character on its own; lower case looks around a capital sigma, which has a form
of its own at the end of a word.

* `foldChars_append`: folding a joined text folds its parts.
* `foldChars_of_ascii`: on ASCII, folding is the ASCII lower case.
-/

namespace LedgerSearch.Text

def upperMap : CaseMap := ⟨Char.toUpper, upperShifts, upperExpansions⟩

/-- The lower case map, without the final sigma. -/
def lowerMap : CaseMap := ⟨Char.toLower, lowerShifts, lowerExpansions⟩

def foldMap : CaseMap := ⟨Char.toLower, foldShifts, foldExpansions⟩

def upper (s : String) : String :=
  String.ofList (upperMap.apply s.toList)

/-- The text with its first character in upper case and the rest kept. -/
def capitalize (s : String) : String :=
  match s.toList with
  | [] => ""
  | c :: cs => String.ofList (upperMap.char c ++ cs)

/-- Whether a capital sigma between `before` (nearest first) and `after` ends a word: a letter with
case comes before it and none after it, marks passed over. -/
def sigmaEndsWord (before after : List Char) : Bool :=
  (before.dropWhile isCaseIgnorable).head?.any isCased &&
    !(after.dropWhile isCaseIgnorable).head?.any isCased

/-- Lower case of the second list, where `before` holds the characters before it, nearest first. -/
def lowerAfter (before : List Char) : List Char → List Char
  | [] => []
  | c :: cs =>
    (if c = 'Σ' then [if sigmaEndsWord before cs then 'ς' else 'σ'] else lowerMap.char c) ++
      lowerAfter (c :: before) cs

def lower (s : String) : String :=
  String.ofList (lowerAfter [] s.toList)

/-- The characters of a text with all distinctions of case removed. -/
def foldChars (cs : List Char) : List Char :=
  foldMap.apply cs

def fold (s : String) : String :=
  String.ofList (foldChars s.toList)

theorem foldChars_append (a b : List Char) : foldChars (a ++ b) = foldChars a ++ foldChars b :=
  foldMap.apply_append a b

/-- On ASCII, folding is the ASCII lower case. -/
theorem foldChars_of_ascii {cs : List Char} (h : ∀ c ∈ cs, c.toNat < 0x80) :
    foldChars cs = cs.map Char.toLower := by
  induction cs with
  | nil => rfl
  | cons c cs ih =>
    have hc := foldMap.char_of_ascii (h c List.mem_cons_self)
    have hs := ih fun d hd => h d (List.mem_cons_of_mem c hd)
    simp only [foldChars, CaseMap.apply, List.flatMap_cons] at hs ⊢
    rw [hc, hs]
    rfl

end LedgerSearch.Text
