import LedgerSearch.Text.Case
import LedgerSearch.Text.Quoted

/-!
# Log levels

The levels at which a program reports what it does, and the names that stand for
them. Two levels have two names.
-/

namespace LedgerSearch

/-- A log level. -/
inductive LogLevel where
  | critical
  | error
  | warning
  | info
  | debug
  | notSet
  deriving DecidableEq

/-- Why a name stands for no level. -/
inductive LogLevelError where
  | unknown (name : String)
  deriving DecidableEq

/-- The wording of a log level error. -/
def LogLevelError.message : LogLevelError → String
  | .unknown name => "Unknown level: " ++ Text.quoted name

namespace LogLevel

/-- The name under which a level is reported. -/
def name : LogLevel → String
  | critical => "CRITICAL"
  | error => "ERROR"
  | warning => "WARNING"
  | info => "INFO"
  | debug => "DEBUG"
  | notSet => "NOTSET"

/-- How much a level matters. -/
def severity : LogLevel → Nat
  | critical => 50
  | error => 40
  | warning => 30
  | info => 20
  | debug => 10
  | notSet => 0

/-- The names of the levels. -/
def names : List (String × LogLevel) :=
  [("CRITICAL", critical), ("FATAL", critical), ("ERROR", error), ("WARN", warning),
    ("WARNING", warning), ("INFO", info), ("DEBUG", debug), ("NOTSET", notSet)]

/-- The level of a name, in any case. -/
def parse (s : String) : Except LogLevelError LogLevel :=
  let wanted := Text.upper s
  match names.lookup wanted with
  | some level => .ok level
  | none => .error (.unknown wanted)

/-- The level to report at: the first name that is there and not empty decides, and otherwise the
level is `INFO`. -/
def choose (choices : List (Option String)) : Except LogLevelError LogLevel :=
  parse <| ((choices.filterMap id).find? (!·.isEmpty)).getD "INFO"

end LogLevel

end LedgerSearch
