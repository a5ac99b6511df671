import LedgerSearch.Document
import LedgerSearch.Text.Quoted

/-!
# Values as literals

A value is shown as a literal in messages: texts are quoted, lists stand in
brackets and objects in braces. On its own a text is displayed as it stands.
-/

namespace LedgerSearch.Document

mutual

/-- A value as a literal. -/
def literal : Document → String
  | .null => "None"
  | .bool b => if b then "True" else "False"
  | .integer n => toString n
  | .text s => Text.quoted s
  | .list items => "[" ++ ", ".intercalate (literals items) ++ "]"
  | .object fields => "\x7b" ++ ", ".intercalate (fieldLiterals fields) ++ "\x7d"

/-- Several values as literals. -/
def literals : List Document → List String
  | [] => []
  | d :: ds => d.literal :: literals ds

/-- Fields as literals. -/
def fieldLiterals : List (String × Document) → List String
  | [] => []
  | (name, d) :: fields => (Text.quoted name ++ ": " ++ d.literal) :: fieldLiterals fields

end

/-- A value on its own. -/
def display : Document → String
  | .text s => s
  | d => d.literal

end LedgerSearch.Document
