import LedgerSearch.Calendar.Notation

/-!
# Reading days

A day that is typed may stand in a standard notation, blanks around it apart. Any
other text is left to a reader of dates, of whose answer only the day counts. The
reader may find no day in the text, or one that would lie outside the calendar.
-/

namespace LedgerSearch.Calendar

/-- Someone who reads days in other notations than the standard ones. -/
structure DateReader where
  read : List Char → Except DateError (Option Date)

/-- Reads a day. -/
def Date.read? (dates : DateReader) (s : String) : Except DateError (Option Date) :=
  match Text.trimmed s.toList with
  | [] => .ok none
  | cs =>
    match Notation.standard? cs with
    | some day => .ok (some day)
    | none => dates.read cs

end LedgerSearch.Calendar
