import LedgerSearch.LogLevel

/-!
# Logging

What a program says about its own work: records of a level, the name of the part
that made them and a message. A program that is set up writes the records from
its level upwards to the standard error, a line for each of them. If handlers have
been put in place before, they keep the records and the level stays what it was,
so the level that is asked for is not even looked at.
-/

namespace LedgerSearch

/-- A record of what a part of the program has done. -/
structure LogRecord where
  level : LogLevel
  logger : String
  message : String
  deriving DecidableEq

/-- A record on a line of its own, behind the time at which it is written. -/
def LogRecord.line (stamp : String) (r : LogRecord) : String :=
  stamp ++ " " ++ r.level.name ++ " " ++ r.logger ++ " " ++ r.message ++ "\n"

/-- What the program finds before it is set up: the level at which records are kept, and whether
somebody handles them already. -/
structure RootLogger where
  level : LogLevel := .warning
  hasHandlers : Bool := false
  deriving DecidableEq

/-- How the program reports: the levels of its parts, and whether it has a handler of its own, which
writes to the standard error. -/
structure Logging where
  root : LogLevel
  writes : Bool
  database : LogLevel := .warning
  dates : LogLevel := .warning
  deriving DecidableEq

namespace Logging

/-- Sets logging up. The level is looked at only where nobody handles records yet. -/
def configure (before : RootLogger) (choices : List (Option String)) :
    Except LogLevelError Logging :=
  if before.hasHandlers then
    .ok { root := before.level, writes := false }
  else
    match LogLevel.choose choices with
    | .ok level => .ok { root := level, writes := true }
    | .error e => .error e

/-- Whether records of a part of the program without a level of its own are kept. -/
def keeps (l : Logging) (r : LogRecord) : Bool :=
  l.root.severity ≤ r.level.severity

/-- The records that the program writes itself. -/
def written (l : Logging) (records : List LogRecord) : List LogRecord :=
  if l.writes then records.filter l.keeps else []

/-- The lines of the records that the program writes, each with the time for its number. -/
def lines (l : Logging) (stamp : Nat → String) (records : List LogRecord) : List String :=
  (l.written records).mapIdx fun n r => r.line (stamp n)

end Logging

end LedgerSearch
