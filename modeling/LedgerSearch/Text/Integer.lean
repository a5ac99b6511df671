import LedgerSearch.Text.Blank
import LedgerSearch.Text.Digit
import LedgerSearch.Text.Quoted

/-!
# Integers in text

An integer is written with an optional sign and decimal digits of any script;
single low lines may stand between digits, and spaces around the whole, of which
the information separators are none. Numbers have no bound of their own, but text
and number are converted into each other up to a number of digits only. Zeros in
front count as digits of a text, low lines do not.

* `digitRun?_append`: a run of digits is read as a whole, up to what follows.
-/

namespace LedgerSearch.Text

/-- The most digits of an integer that is converted. -/
def mostDigits : Nat := 4300

/-- Why an integer is not converted. -/
inductive IntegerError where
  /-- The text is no integer. -/
  | malformed (text : String)
  | longText (digits : Nat)
  | longNumber
  deriving DecidableEq

/-- The wording of an integer error; of a long text only the beginning is shown. -/
def IntegerError.message : IntegerError → String
  | .malformed text =>
    "invalid literal for int() with base 10: " ++ String.ofList ((quoted text).toList.take 200)
  | .longText digits =>
    "Exceeds the limit (4300 digits) for integer string conversion: value has " ++
      toString digits ++ " digits; use sys.set_int_max_str_digits() to increase the limit"
  | .longNumber =>
    "Exceeds the limit (4300 digits) for integer string conversion; " ++
      "use sys.set_int_max_str_digits() to increase the limit"

/-- Splits an optional sign off: whether it is a minus, and the rest. -/
def splitSign : List Char → Bool × List Char
  | '-' :: cs => (true, cs)
  | '+' :: cs => (false, cs)
  | cs => (false, cs)

/-- The integer with the given sign and digits. -/
def signed (negative : Bool) (n : Nat) : Int :=
  if negative then -n else n

/-- Reads the digits at the beginning of a text, between which single low lines may stand: their
values, and what follows them. `none` if a low line has a digit on its left only. -/
def digitRun? (value? : Char → Option Nat) : List Char → Option (List Nat × List Char)
  | [] => some ([], [])
  | c :: '_' :: cs =>
    match value? c with
    | none => some ([], c :: '_' :: cs)
    | some d =>
      match digitRun? value? cs with
      | some (e :: ds, rest) => some (d :: e :: ds, rest)
      | _ => none
  | c :: cs =>
    match value? c with
    | none => some ([], c :: cs)
    | some d => (digitRun? value? cs).map fun (ds, rest) => (d :: ds, rest)

/-- Reads an integer. Whether the digits are too many is decided before what follows them is looked
at. -/
def parseInteger (s : String) : Except IntegerError Int :=
  let (negative, cs) := splitSign (trimmedOf isSpace s.toList)
  match digitRun? digitValue? cs with
  | some (d :: ds, rest) =>
    if mostDigits < (d :: ds).length then .error (.longText (d :: ds).length)
    else if rest.isEmpty then .ok (signed negative (numberOfDigits (d :: ds)))
    else .error (.malformed s)
  | _ => .error (.malformed s)

def printInteger (n : Int) : Except IntegerError String :=
  if mostDigits < (toString n.natAbs).length then .error .longNumber else .ok (toString n)

end LedgerSearch.Text
