import LedgerSearch.Text.Integer

/-!
# Arguments

The command takes one query and four options: help, the number of a page, whether
to show the statement, and whether to run it. An option may be cut short as long
as its name stays recognisable, and takes its value from the same argument after
an equals sign or from the next one. Two hyphens end the options; what looks like
a negative number, or holds a space, is no option either.

Arguments are first classified one by one and then consumed from left to right.
Asking for help ends the command at once; so does a mistake, and surplus
arguments are a mistake at the end.
-/

namespace LedgerSearch.CommandLine

/-- The options of the command. -/
inductive Switch where
  | help
  | page
  | sql
  | run
  deriving DecidableEq

/-- What the command is asked to do. -/
structure Request where
  query : String
  page : Int := 1
  showSql : Bool := false
  run : Bool := false
  deriving DecidableEq

/-- Why the command does not start. -/
inductive Refusal where
  | help
  | misuse
  deriving DecidableEq

/-- The exit status of a command that does not start. -/
def Refusal.status : Refusal → Nat
  | .help => 0
  | .misuse => 2

/-! ## Classifying arguments -/

/-- What an argument looks like. -/
inductive Argument where
  | value (text : String)
  | separator
  /-- An option, and the value that the same argument gives it. -/
  | switch (switch : Switch) (value : Option (List Char))
  /-- The short option for help with something attached, directly or after an equals sign. -/
  | attached (tail : List Char)
  /-- What begins like an option and is none. -/
  | unknown
  deriving DecidableEq

def switchNames : List (String × Switch) :=
  [("-h", .help), ("--help", .help), ("--page", .page), ("--sql", .sql), ("--run", .run)]

/-- Whether a text is a negative number, in digits of any script. -/
def isNegativeNumber (cs : List Char) : Bool :=
  let isDigit (c : Char) : Bool := (Text.digitValue? c).isSome
  match cs with
  | '-' :: number =>
    let number := if number.getLast? = some '\n' then number.dropLast else number
    match number.dropWhile isDigit with
    | [] => !number.isEmpty
    | '.' :: fraction => !fraction.isEmpty && fraction.all isDigit
    | _ => false
  | _ => false

def splitEquals? (cs : List Char) : Option (List Char × List Char) :=
  match cs.dropWhile (· != '=') with
  | _ :: value => some (cs.takeWhile (· != '='), value)
  | [] => none

def switchOf? (cs : List Char) : Option Switch :=
  switchNames.lookup (String.ofList cs)

/-- The long options whose names begin with a text. -/
def switchesFrom (cs : List Char) : List Switch :=
  (switchNames.filter fun s => cs.isPrefixOf s.1.toList).map (·.2)

/-- What an argument that begins with a hyphen and is not the full name of an option looks like;
`none` if it begins like several options. -/
def classifyRest? (cs : List Char) : Option Argument :=
  let (name, value) :=
    match splitEquals? cs with
    | some (name, value) => (name, some value)
    | none => (cs, none)
  match switchOf? name, value with
  | some switch, some value =>
    if name = ['-', 'h'] then some (.attached value) else some (.switch switch (some value))
  | _, _ =>
    let candidates := if ['-', '-'].isPrefixOf cs then switchesFrom name else []
    match candidates with
    | [switch] => some (.switch switch value)
    | _ :: _ :: _ => none
    | [] =>
      if ['-', 'h'].isPrefixOf cs then some (.attached (cs.drop 2))
      else if isNegativeNumber cs || cs.contains ' ' then some (.value (String.ofList cs))
      else some .unknown

/-- What an argument before the end of the options looks like. -/
def classifyOne? (text : String) : Option Argument :=
  let cs := text.toList
  match switchOf? cs with
  | some switch => some (.switch switch none)
  | none => if cs.head? = some '-' && cs.length ≠ 1 then classifyRest? cs else some (.value text)

/-- What the arguments look like; after two hyphens all of them are values. -/
def classify? : List String → Option (List Argument)
  | [] => some []
  | text :: rest =>
    if text = "--" then
      some (.separator :: rest.map .value)
    else do
      let argument ← classifyOne? text
      let arguments ← classify? rest
      return argument :: arguments

/-! ## Consuming arguments -/

/-- What has been consumed. -/
structure Progress where
  query : Option String := none
  page : Int := 1
  showSql : Bool := false
  run : Bool := false
  surplus : Bool := false
  deriving DecidableEq

/-- The request of all arguments: there is a query, and nothing is left over. -/
def Progress.finish (p : Progress) : Except Refusal Request :=
  match p.query with
  | some query =>
    if p.surplus then .error .misuse else .ok ⟨query, p.page, p.showSql, p.run⟩
  | none => .error .misuse

def Progress.withPage (p : Progress) (text : String) : Except Refusal Progress :=
  match Text.parseInteger text with
  | .ok n => .ok { p with page := n }
  | .error _ => .error .misuse

/-- The answer to the short option for help with something attached. Each character of it is a short
option again, and only the one for help exists. An equals sign that attaches nothing is a mistake.
-/
def Refusal.ofAttached (tail : List Char) : Refusal :=
  if !tail.isEmpty && tail.all (· == 'h') then .help else .misuse

/-- Consumes arguments. The two hyphens belong to the query next to them; anywhere else they are
surplus. -/
def consume (p : Progress) : List Argument → Except Refusal Request
  | [] => p.finish
  | .value text :: .separator :: rest =>
    match p.query with
    | none => consume { p with query := some text } rest
    | some _ => consume { p with surplus := true } rest
  | .value text :: rest =>
    match p.query with
    | none => consume { p with query := some text } rest
    | some _ => consume { p with surplus := true } rest
  | .separator :: rest =>
    match p.query with
    | none => consume p rest
    | some _ => consume { p with surplus := true } rest
  | .unknown :: rest => consume { p with surplus := true } rest
  | .attached tail :: _ => .error (Refusal.ofAttached tail)
  | .switch .help none :: _ => .error .help
  | .switch .sql none :: rest => consume { p with showSql := true } rest
  | .switch .run none :: rest => consume { p with run := true } rest
  | .switch .page none :: .value text :: rest =>
    match p.withPage text with
    | .ok p => consume p rest
    | .error e => .error e
  | .switch .page (some text) :: rest =>
    match p.withPage (String.ofList text) with
    | .ok p => consume p rest
    | .error e => .error e
  | .switch _ _ :: _ => .error .misuse

def Request.ofArguments (arguments : List String) : Except Refusal Request :=
  match classify? arguments with
  | some arguments => consume {} arguments
  | none => .error .misuse

end LedgerSearch.CommandLine
