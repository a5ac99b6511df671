import LedgerSearch.Document.Checked
import LedgerSearch.Operator.Registry
import LedgerSearch.Settings.Environment
import LedgerSearch.Text.Case
import LedgerSearch.Text.Split

/-!
# Settings

A program is set up by four variables: where the database is, which operators a
search accepts, how many transactions a page holds, and the log level. All of
them may be absent. What is given for them is checked like a document.

* `Settings.defaults`: the settings of an empty environment.
-/

namespace LedgerSearch

/-- How a program is set up. The operators may repeat. -/
structure Settings where
  databaseUrl : Option String := none
  operators : Option (List Operator) := none
  pageSize : Int := 50
  logLevel : String := "INFO"
  one_le_pageSize : 1 ≤ pageSize := by decide
  deriving DecidableEq

namespace Settings

def defaults : Settings := {}

/-! ## Checking values -/

/-- The names in a text, separated by commas. Blanks around a name, names that are blank, and
distinctions of case do not count. -/
def operatorNames (s : String) : List String :=
  ((Text.split (· == ',') s.toList).map Text.trimmed).filterMap fun part =>
    if part.isEmpty then none else some (Text.lower (String.ofList part))

/-- Expects names of operators. All that are none are reported together, in the order given. -/
def checkOperatorNames (names : List String) : Checked (List Operator) :=
  match names.filter fun name => (Operator.ofName? name).isNone with
  | [] => .ok (names.filterMap Operator.ofName?)
  | unknown => .flaw (.rule (RegistryError.unknownOperators unknown).message)

/-- Expects operators, as one text or as a list of names, or nothing. -/
def checkOperators : Document → Checked (Option (List Operator))
  | .null => .ok none
  | .text s => some <$> checkOperatorNames (operatorNames s)
  | .list items =>
    (Checked.each Document.checkText items).andThen fun names => some <$> checkOperatorNames names
  | _ => .flaw .notList

def checkPageSize (d : Document) : Checked { n : Int // 1 ≤ n } :=
  (Document.checkInteger d).andThen fun n =>
    if h : 1 ≤ n then .ok ⟨n, h⟩ else .flaw .tooSmall

/-- Expects the name of a log level, which is kept in upper case. -/
def checkLogLevel (d : Document) : Checked String :=
  Text.upper <$> Document.checkText d

/-- The settings of the fields of a document. Other fields do not count. -/
def ofFields (fields : List (String × Document)) : Checked Settings :=
  (fun url operators size level =>
    { databaseUrl := url
      operators := operators
      pageSize := size.val
      logLevel := level
      one_le_pageSize := size.property })
    <$> Document.checkDefaulted fields "DATABASE_URL" none
      (Document.checkOptional Document.checkText)
    <*> Document.checkDefaulted fields "SEARCH_OPERATORS" none checkOperators
    <*> Document.checkDefaulted fields "SEARCH_PAGE_SIZE" ⟨50, by decide⟩ checkPageSize
    <*> Document.checkDefaulted fields "LOG_LEVEL" "INFO" checkLogLevel

/-! ## Where the values come from -/

def variableNames : List String :=
  ["DATABASE_URL", "SEARCH_OPERATORS", "SEARCH_PAGE_SIZE", "LOG_LEVEL"]

/-- The value that is given for a variable: that of the first field whose name is the name of the
variable in any case. -/
def givenValue? (given : List (String × Document)) (name : String) : Option Document :=
  (given.find? fun f => Text.lower f.1 == Text.lower name).map (·.2)

/-- The values of the variables: what is given directly comes first, then the environment, then the
file. -/
def sources (given : List (String × Document)) (env file : Environment) :
    List (String × Document) :=
  let named (value? : String → Option Document) : List (String × Document) :=
    variableNames.filterMap fun name => (value? name).map fun d => (name, d)
  named (givenValue? given) ++ named (fun name => (env.getAnyCase? name).map .text) ++
    named (fun name => (file.getAnyCase? name).map .text)

/-- The settings of an environment and a file, where some values are given directly. -/
def load (given : List (String × Document)) (env file : Environment) : Checked Settings :=
  ofFields (sources given env file)

/-! ## What follows from the settings -/

/-- The operators that a search accepts. -/
def registry (s : Settings) : Except RegistryError Registry :=
  match s.operators with
  | none => .ok .full
  | some operators => Registry.full.restrict (operators.map (·.name))

end Settings

/-- Why a program cannot be configured. -/
inductive ConfigurationError where
  /-- The values of variables are not what is expected. -/
  | invalid (issues : List Issue)
  /-- Nothing says where the database is. -/
  | noDatabase
  deriving DecidableEq

/-- The wording of a configuration error; the issues are reported on their own. -/
def ConfigurationError.message : ConfigurationError → String
  | .invalid _ => "Invalid environment configuration"
  | .noDatabase => "DATABASE_URL is required (set it in .env or environment)"

/-- Where the database is, according to an environment. -/
def Environment.databaseUrl (env : Environment) : Except ConfigurationError String :=
  match env.get? "DATABASE_URL" with
  | some url => if url.isEmpty then .error .noDatabase else .ok url
  | none => .error .noDatabase

end LedgerSearch
