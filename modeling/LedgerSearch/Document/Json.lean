import LedgerSearch.Document
import LedgerSearch.Text.Quoted

/-!
# Documents in JSON

A document is written over several lines, each level indented by two spaces more
than the one around it. Lists and objects without content take no line of their
own. Only quotes, backslashes and control characters are escaped in texts.
-/

namespace LedgerSearch.Document

/-- One character of a JSON text. -/
def jsonChar (c : Char) : List Char :=
  if c = '"' then ['\\', '"']
  else if c = '\\' then ['\\', '\\']
  else if c = '\n' then ['\\', 'n']
  else if c = '\r' then ['\\', 'r']
  else if c = '\t' then ['\\', 't']
  else if c.toNat = 0x08 then ['\\', 'b']
  else if c.toNat = 0x0C then ['\\', 'f']
  else if c.toNat < 0x20 then '\\' :: 'u' :: Text.hexDigits 4 c.toNat
  else [c]

/-- A text in JSON. -/
def jsonText (s : String) : String :=
  String.ofList ('"' :: s.toList.flatMap jsonChar ++ ['"'])

/-- A line end and the indentation of a level. -/
def newLine (level : Nat) : String :=
  String.ofList ('\n' :: List.replicate (2 * level) ' ')

/-- The parts of a list or an object between its brackets, each on a line of its own. -/
def block (level : Nat) (opening closing : String) : List String → String
  | [] => opening ++ closing
  | parts =>
    opening ++ newLine (level + 1) ++ ("," ++ newLine (level + 1)).intercalate parts ++
      newLine level ++ closing

mutual

/-- A document in JSON, where its first line is indented to a level. -/
def jsonAt (level : Nat) : Document → String
  | .null => "null"
  | .bool b => if b then "true" else "false"
  | .integer n => toString n
  | .text s => jsonText s
  | .list items => block level "[" "]" (jsonItems (level + 1) items)
  | .object fields => block level "\x7b" "\x7d" (jsonFields (level + 1) fields)

/-- The items of a list in JSON. -/
def jsonItems (level : Nat) : List Document → List String
  | [] => []
  | d :: ds => jsonAt level d :: jsonItems level ds

/-- The fields of an object in JSON. -/
def jsonFields (level : Nat) : List (String × Document) → List String
  | [] => []
  | (name, d) :: fields =>
    (jsonText name ++ ": " ++ jsonAt level d) :: jsonFields level fields

end

/-- A document in JSON. -/
def toJson (d : Document) : String :=
  jsonAt 0 d

end LedgerSearch.Document
