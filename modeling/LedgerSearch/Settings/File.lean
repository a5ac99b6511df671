import LedgerSearch.Settings.Environment
import LedgerSearch.Text.Quoted

/-!
# Files of variables

A file names variables, one on a line: a name, an equals sign and a value, with
blanks around each of them. The name may stand between single quotes, and behind
the word `export`. A value reaches up to the end of the line or a comment, which
begins with a number sign after a blank, or it stands between quotes, where lines
may end as well. Between double quotes a backslash and a letter stand for a control
character; between single quotes a backslash only protects itself and the quote.

A line that is nothing of this is passed over. The last value of a name counts, and
the variables come in the order in which their names do. References from one value
to other variables are not followed.
-/

namespace LedgerSearch.Environment

open Text

/-! ## Characters -/

def isLineEnd (c : Char) : Bool :=
  c == '\n' || c == '\r'

/-- Whether a character is blank and does not end a line. -/
def isGap (c : Char) : Bool :=
  isBlank c && !isLineEnd c

/-- The character for a backslash and a letter between double quotes. -/
def escaped? (c : Char) : Option Char :=
  [('\\', '\\'), (singleQuote, singleQuote), (doubleQuote, doubleQuote), ('a', '\x07'),
    ('b', '\x08'), ('f', '\x0c'), ('n', '\n'), ('r', '\r'), ('t', '\t'), ('v', '\x0b')].lookup c

/-- The character for a backslash and what it protects between single quotes. -/
def protected? (c : Char) : Option Char :=
  [('\\', '\\'), (singleQuote, singleQuote)].lookup c

/-- A text with its escapes replaced. -/
def unescaped (escape? : Char → Option Char) : List Char → List Char
  | [] => []
  | [c] => [c]
  | b :: c :: cs =>
    match b, escape? c with
    | '\\', some d => d :: unescaped escape? cs
    | _, _ => b :: unescaped escape? (c :: cs)

/-! ## Variables -/

/-- What stands before the next quote without a backslash in front, and what follows the quote. -/
def upToQuote? (quote : Char) : List Char → Option (List Char × List Char)
  | [] => none
  | [c] => if c = quote then some ([], []) else none
  | b :: c :: cs =>
    if b = quote then some ([], c :: cs)
    else if b = '\\' && c = quote then
      (upToQuote? quote cs).map fun (text, rest) => (b :: c :: text, rest)
    else
      (upToQuote? quote (c :: cs)).map fun (text, rest) => (b :: text, rest)

/-- What comes before a comment. -/
def beforeComment : List Char → List Char
  | a :: b :: cs => if isBlank a && b == '#' then [] else a :: beforeComment (b :: cs)
  | cs => cs

/-- What follows the line. -/
def afterLine (cs : List Char) : List Char :=
  (cs.dropWhile (!isLineEnd ·)).drop 1

/-- Whether nothing but a comment follows on the line. -/
def isLineDone (cs : List Char) : Bool :=
  match cs.dropWhile isGap with
  | [] => true
  | c :: _ => isLineEnd c || c == '#'

/-- Reads the name of a variable: what it is, and what follows. -/
def name? : List Char → Option (List Char × List Char)
  | [] => none
  | c :: cs =>
    if c = singleQuote then
      match cs.takeWhile (· != singleQuote), cs.dropWhile (· != singleQuote) with
      | first :: name, _ :: rest => some (first :: name, rest)
      | _, _ => none
    else
      let isPart (c : Char) : Bool := !(isBlank c || c == '=' || c == '#')
      match (c :: cs).takeWhile isPart with
      | [] => none
      | name => some (name, (c :: cs).dropWhile isPart)

/-- Reads a value between quotes, or one that ends with its line: what it is, and what follows. -/
def value? (cs : List Char) : Option (List Char × List Char) :=
  match cs.dropWhile isGap with
  | [] => some ([], [])
  | c :: quoted =>
    if c = singleQuote then
      (upToQuote? c quoted).map fun (text, rest) => (unescaped protected? text, rest)
    else if c = doubleQuote then
      (upToQuote? c quoted).map fun (text, rest) => (unescaped escaped? text, rest)
    else
      some (trimmed (beforeComment (cs.takeWhile (!isLineEnd ·))), cs.dropWhile (!isLineEnd ·))

/-- What follows the word `export` and the blanks behind it, if it stands there. -/
def afterExport (cs : List Char) : List Char :=
  let word := "export".toList
  if word.isPrefixOf cs && ((cs.drop word.length).head?.any isGap) then
    (cs.drop word.length).dropWhile isGap
  else
    cs

/-- Reads a variable that may have no value, and tells what follows its line. Without a variable the
line is passed over. -/
def binding (cs : List Char) : Option (String × Option String) × List Char :=
  match name? (afterExport cs) with
  | none => (none, afterLine cs)
  | some (name, rest) =>
    match rest.dropWhile isGap with
    | '=' :: rest =>
      match value? rest with
      | none => (none, afterLine rest)
      | some (value, rest) =>
        if isLineDone rest then
          (some (String.ofList name, some (String.ofList value)), afterLine rest)
        else
          (none, afterLine rest)
    | rest =>
      if isLineDone rest then (some (String.ofList name, none), afterLine rest)
      else (none, afterLine rest)

/-- Reads variables from so many lines at most. -/
def bindings : Nat → List Char → List (String × Option String)
  | 0, _ => []
  | lines + 1, cs =>
    match cs.dropWhile isBlank with
    | [] => []
    | cs =>
      let (found, rest) := binding cs
      found.toList ++ bindings lines rest

/-- The variables of a file. -/
def ofFile (text : String) : Environment :=
  let found := bindings text.length text.toList
  (found.map (·.1)).eraseDups.filterMap fun name =>
    ((found.reverse.lookup name).bind id).map fun value => (name, value)

end LedgerSearch.Environment
