import LedgerSearch.Text.Infix
import LedgerSearch.Text.Integer

/-!
# Whole numbers in documents

A document may write an integer as a text, in ASCII digits with an optional sign
and with spaces around the whole. The reading is liberal. Step by step it drops

* a plus sign that no minus sign follows;
* zeros in front, with the low lines among them, both before a minus sign and
  after one that comes first; of zeros alone one is kept;
* a point at the end with nothing but zeros after it, of which there is one;
* low lines, if each of them stands alone and none at an end.

What is left has to be a number in its shortest form.
-/

namespace LedgerSearch.Text

/-- Whether a character is a digit other than zero. -/
def isPositiveDigit (c : Char) : Bool :=
  c.isDigit && c != '0'

/-- A text without the zeros and low lines in front, where `last` is the character before it. Digits
and a minus sign may come next. Before a point, and at the end, the last character dropped is kept.
-/
def dropZerosAfter? (last : Char) : List Char → Option (List Char)
  | [] => some [last]
  | c :: cs =>
    if c = '0' || c = '_' then dropZerosAfter? c cs
    else if isPositiveDigit c || c = '-' then some (c :: cs)
    else if c = '.' then some (last :: '.' :: cs)
    else none

/-- A text without the zeros in front. It has to begin with a digit or a minus sign. -/
def dropZeros? : List Char → Option (List Char)
  | '0' :: cs => dropZerosAfter? '0' cs
  | c :: cs => if isPositiveDigit c || c = '-' then some (c :: cs) else none
  | [] => none

/-- Cuts a point and the zeros after it off the end, if there is at least one zero. -/
def dropZeroFraction (cs : List Char) : List Char :=
  let whole := cs.takeWhile (· != '.')
  match cs.dropWhile (· != '.') with
  | _ :: zeros => if !zeros.isEmpty && zeros.all (· == '0') then whole else cs
  | [] => cs

/-- A text without its low lines, unless one stands at an end or next to another. -/
def dropLowLines (cs : List Char) : List Char :=
  if cs.head? = some '_' || cs.getLast? = some '_' || isInfix ['_', '_'] cs then cs
  else cs.filter (· != '_')

/-- A text without a plus sign in front; a minus sign cannot follow it. -/
def dropPlus? : List Char → Option (List Char)
  | '+' :: '-' :: _ => none
  | '+' :: cs => some cs
  | cs => some cs

/-- The number in its shortest form that a text comes down to, if it is a number. -/
def shortestForm? (s : String) : Option (List Char) := do
  let stripped ←
    match ← dropPlus? (trimmedOf isSpace s.toList) with
    | '-' :: cs => (dropZeros? cs).map ('-' :: ·)
    | cs => dropZeros? cs
  return dropLowLines (dropZeroFraction stripped)

/-- Splits a minus sign off: whether there is one, and the rest. -/
def splitMinus : List Char → Bool × List Char
  | '-' :: cs => (true, cs)
  | cs => (false, cs)

/-- The digits of a number in its shortest form: no zero comes first in a longer one, and there are
not too many. -/
def shortestDigits? : List Char → Option (List Nat)
  | ['0'] => some [0]
  | c :: cs =>
    if isPositiveDigit c && cs.length < mostDigits then (c :: cs).mapM asciiDigitValue? else none
  | [] => none

/-- How many digits come first in a text, after a minus sign if there is one. They do not count if
the first of them is a zero. -/
def leadingDigitCount (cs : List Char) : Nat :=
  match (splitMinus cs).2 with
  | c :: cs => if isPositiveDigit c then (cs.takeWhile Char.isDigit).length + 1 else 0
  | [] => 0

/-- Reads a whole number. Too many digits are told apart from other flaws only where the text begins
with them; if they come to light step by step, the text is malformed. -/
def parseWholeNumber (s : String) : Except IntegerError Int :=
  let count := leadingDigitCount s.toList
  if mostDigits < count then
    .error (.longText count)
  else
    let number? : Option Int := do
      let (negative, unsigned) := splitMinus (← shortestForm? s)
      return signed negative (numberOfDigits (← shortestDigits? unsigned))
    match number? with
    | some n => .ok n
    | none => .error (.malformed s)

end LedgerSearch.Text
