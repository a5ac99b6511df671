import LedgerSearch.Decimal
import LedgerSearch.Text.Blank
import LedgerSearch.Text.Digit
import LedgerSearch.Text.Integer

/-!
# Written numbers

A number is written as a sign, digits with at most one point among them, and an
exponent after the letter `e`; sign, point and exponent may be absent. Blanks
around it and low lines anywhere in it do not count, and a digit of any script
stands for its ASCII counterpart.

A decimal is printed with all its digits: plainly if the exponent is at most
zero and the first digit stands no further than six places after the point, with
one digit before the point and an exponent otherwise.
-/

namespace LedgerSearch

open Text

namespace Numeral

/-- The text with low lines removed and every decimal digit replaced by its ASCII counterpart. -/
def plainText (cs : List Char) : List Char :=
  (cs.filter (· ≠ '_')).map fun c =>
    match digitValue? c with
    | some d => Char.ofNat (0x30 + d)
    | none => c

def asciiNumber (cs : List Char) : Nat :=
  numberOfDigits (cs.map fun c => c.toNat - 0x30)

/-- Reads what may follow the digits: nothing, or the letter of the exponent and an integer. -/
def exponent? : List Char → Option Int
  | [] => some 0
  | c :: cs =>
    if c = 'e' || c = 'E' then
      let (negative, digits) := splitSign cs
      if !digits.isEmpty && digits.all Char.isDigit then
        some (signed negative (asciiNumber digits))
      else
        none
    else
      none

/-- Reads digits with at most one point among them, and the exponent. The point moves to the end of
the digits, and the exponent makes up for it. -/
def unsignedDecimal? (negative : Bool) (cs : List Char) : Option Decimal :=
  let whole := cs.takeWhile Char.isDigit
  let afterWhole := cs.dropWhile Char.isDigit
  let (fraction, rest) :=
    match afterWhole with
    | '.' :: tail => (tail.takeWhile Char.isDigit, tail.dropWhile Char.isDigit)
    | _ => ([], afterWhole)
  if (whole ++ fraction).isEmpty then
    none
  else
    (exponent? rest).map fun e =>
      ⟨negative, asciiNumber (whole ++ fraction), e - fraction.length⟩

/-- Reads the words for an infinity and for no number, in any case. -/
def named? (negative : Bool) (cs : List Char) : Option Numeral :=
  let payload? (digits : List Char) : Option Nat :=
    if digits.all Char.isDigit then some (asciiNumber digits) else none
  match cs.map Char.toLower with
  | ['i', 'n', 'f'] => some (.infinite negative)
  | ['i', 'n', 'f', 'i', 'n', 'i', 't', 'y'] => some (.infinite negative)
  | 'n' :: 'a' :: 'n' :: digits => (payload? digits).map (.notANumber negative false)
  | 's' :: 'n' :: 'a' :: 'n' :: digits => (payload? digits).map (.notANumber negative true)
  | _ => none

/-- Reads a numeral. A decimal outside the limits of decimals is refused. -/
def read? (s : String) : Option Numeral :=
  let (negative, cs) := splitSign (plainText (trimmed s.toList))
  match named? negative cs with
  | some n => some n
  | none => do
    let d ← unsignedDecimal? negative cs
    if d.InRange then some (.finite d) else none

end Numeral

namespace Decimal

def digits (d : Decimal) : List Char :=
  Nat.toDigits 10 d.coefficient

/-- Whether the decimal is printed without an exponent. -/
def isPlain (d : Decimal) : Bool :=
  d.exponent ≤ 0 && -6 ≤ d.adjusted

/-- The digits with the point before the last `places` of them, filled up with zeros. -/
def plainNotation (ds : List Char) (places : Nat) : List Char :=
  if places = 0 then
    ds
  else if ds.length ≤ places then
    '0' :: '.' :: (List.replicate (places - ds.length) '0' ++ ds)
  else
    ds.take (ds.length - places) ++ '.' :: ds.drop (ds.length - places)

/-- The digits with the point after the first of them and the exponent of that digit. -/
def scientificNotation (ds : List Char) (adjusted : Int) : List Char :=
  let mantissa :=
    match ds with
    | first :: rest@(_ :: _) => first :: '.' :: rest
    | _ => ds
  let sign := if adjusted < 0 then '-' else '+'
  mantissa ++ 'E' :: sign :: Nat.toDigits 10 adjusted.natAbs

def toChars (d : Decimal) : List Char :=
  let body :=
    if d.isPlain then plainNotation d.digits (-d.exponent).toNat
    else scientificNotation d.digits d.adjusted
  if d.negative then '-' :: body else body

def print (d : Decimal) : String :=
  String.ofList d.toChars

end Decimal

def Numeral.print : Numeral → String
  | .finite d => d.print
  | .infinite negative => (if negative then "-" else "") ++ "Infinity"
  | .notANumber negative signalling payload =>
    (if negative then "-" else "") ++ (if signalling then "sNaN" else "NaN") ++
      (if payload = 0 then "" else String.ofList (Nat.toDigits 10 payload))

/-- Reads the size of a sum of money; what is no finite number has none. -/
def Amount.read? (s : String) : Option Amount :=
  match Numeral.read? s with
  | some (.finite d) => some (Amount.ofDecimal d)
  | _ => none

end LedgerSearch
