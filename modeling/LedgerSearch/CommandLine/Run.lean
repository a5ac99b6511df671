import LedgerSearch.CommandLine.Arguments
import LedgerSearch.CommandLine.Report
import LedgerSearch.Database.Lookup
import LedgerSearch.Logging
import LedgerSearch.Settings

/-!
# Running the command

The command reads its settings, sets its logging up, begins a session, interprets
the query with the lookups of the database, and prints a report. If asked to, it
also counts the transactions and selects a page of them. A query or a page that is
wrong ends the command with a message; anything else that goes wrong ends it as a
failure.

A run tells what happened to the database, what was recorded and what was printed,
each in order. The records are those of this program: what the driver of the
database and the reader of dates record on their own is left out, and so is the
report on a failure.

* `World`: what a run depends on.
* `Run.standardError`: what a run leaves on the standard error.
-/

namespace LedgerSearch.CommandLine

open Database Sql

/-- What the clocks show during a run. -/
structure Clock where
  /-- The times at which the lines of the log are written. -/
  stamp : Nat → String
  /-- How long interpreting the query takes, in whole milliseconds. -/
  milliseconds : Nat
  /-- The same, to the nearest microsecond. -/
  microseconds : Nat

/-- What the command runs in: its variables, the variables of its file, how the database answers,
who reads its dates, what has been done about logging before, what the clocks show, and the name
under which the command records. -/
structure World where
  environment : Environment
  file : Environment
  database : Database
  dates : Calendar.DateReader
  rootLogger : RootLogger
  clock : Clock
  name : String

/-- Why the command fails. -/
inductive RunError where
  | configuration (error : ConfigurationError)
  | logLevel (error : LogLevelError)
  | registry (error : RegistryError)
  | interpretation (error : Failure)
  | statement (error : Calendar.DateError)
  /-- The statement cannot be printed. -/
  | report (error : Text.IntegerError)
  /-- The database refuses a statement on transactions. -/
  | database (error : DatabaseError)
  | scalar (error : ScalarError)
  deriving DecidableEq

/-- The wording of a failure. Issues of documents are not spelled out. -/
def RunError.message : RunError → String
  | .configuration e => e.message
  | .logLevel e => e.message
  | .registry e => e.message
  | .interpretation (.query e) => e.message
  | .interpretation (.date e) => e.message
  | .interpretation (.lookup e) => e.message
  | .interpretation (.filter _) => "invalid filter"
  | .statement e => e.message
  | .report e => e.message
  | .database e => e.message
  | .scalar e => e.message

/-- How the command ends. -/
inductive Ending where
  | refused (refusal : Refusal)
  /-- It ends with an exit status, and has printed a text on each of its outputs. -/
  | exited (status : Nat) (output errors : String)
  /-- It fails after it has printed a text. -/
  | failed (output : String) (error : RunError)
  deriving DecidableEq

/-- What the command itself prints on the standard error. -/
def Ending.errors : Ending → String
  | .exited _ _ errors => errors
  | _ => ""

/-- A run of the command: how it ends, what happened to the database, what was recorded, and which
lines the log has on the standard error. -/
structure Run where
  ending : Ending
  events : List Event
  log : List LogRecord
  logged : List String
  deriving DecidableEq

/-- The lines of the log on the standard error, and behind them what the command prints. -/
def Run.standardError (r : Run) : String :=
  String.join r.logged ++ r.ending.errors

/-- Everything that has to be in place before a session begins. -/
structure Setup where
  logging : Logging
  registry : Registry
  pageSize : Int
  databaseUrl : String
  deriving DecidableEq

/-- Sets the command up. The variables of the file count as variables of the environment where that
has none of the same name. -/
def setUp (w : World) : Except RunError Setup :=
  let environment := w.environment.withDefaults w.file
  match Settings.load [] environment w.file with
  | .issues issues => .error (.configuration (.invalid issues))
  | .ok settings =>
    match Logging.configure w.rootLogger [some settings.logLevel, environment.get? "LOG_LEVEL"] with
    | .error e => .error (.logLevel e)
    | .ok logging =>
      match settings.registry with
      | .error e => .error (.registry e)
      | .ok registry =>
        match settings.databaseUrl.filter (!·.isEmpty) with
        | some url => .ok ⟨logging, registry, settings.pageSize, url⟩
        | none =>
          match environment.databaseUrl with
          | .ok url => .ok ⟨logging, registry, settings.pageSize, url⟩
          | .error e => .error (.configuration e)

/-- What happened to the database and what was recorded, and how the command ends. -/
structure Course where
  events : List Event
  log : List LogRecord
  ending : Ending
  deriving DecidableEq

/-- A course after earlier events and records. -/
def Course.after (c : Course) (events : List Event) (log : List LogRecord) : Course :=
  ⟨events ++ c.events, log ++ c.log, c.ending⟩

/-- The course of a command that rejects its query, and records that it does. -/
def rejected (name message : String) : Course :=
  ⟨[], [⟨.info, name, "rejected query reason=" ++ message⟩],
    .exited 2 "" ("error: " ++ message ++ "\n")⟩

/-- Counts the transactions and selects a page of them, after a text that is printed. -/
def listTransactions (db : Database) (count select : Statement) (printed : String) : Course :=
  match db.rows count with
  | .error e => ⟨[.statement count], [], .failed printed (.database e)⟩
  | .ok counted =>
    match scalar counted with
    | .error e => ⟨[.statement count], [], .failed printed (.scalar e)⟩
    | .ok total =>
      let printed := printed ++ "total: " ++ toString total ++ "\n"
      match db.rows select with
      | .error e => ⟨[.statement count, .statement select], [], .failed printed (.database e)⟩
      | .ok rows =>
        ⟨[.statement count, .statement select], [],
          .exited 0 (printed ++ String.join (rows.map (displayRow · ++ "\n"))) ""⟩

/-- Answers a request whose query has an interpretation. -/
def answer (w : World) (setup : Setup) (request : Request) (i : Interpretation) : Course :=
  match selectPage i.filter request.page setup.pageSize with
  | .error (.page e) => rejected w.name e.message
  | .error (.date e) => ⟨[], [], .failed "" (.statement e)⟩
  | .ok select =>
    match report i w.clock.microseconds (if request.showSql then some select else none) with
    | .error e => ⟨[], [], .failed "" (.report e)⟩
    | .ok document =>
      let printed := document.toJson ++ "\n"
      if request.run then
        match countAll i.filter with
        | .error e => ⟨[], [], .failed printed (.statement e)⟩
        | .ok count => listTransactions w.database count select printed
      else
        ⟨[], [], .exited 0 printed ""⟩

/-- What happens to the database in a lookup; a record does nothing to it. -/
def eventsOf : Happening → List Event
  | .lookup l => [.statement (lookupStatement l)]
  | .record _ => []

/-- What is recorded of a lookup, or the record itself. -/
def logOf (db : Database) : Happening → List LogRecord
  | .lookup l => recordsOf db l
  | .record r => [r]

/-- The search that a command makes when it is set up. -/
def Setup.search (setup : Setup) (w : World) : Search :=
  ⟨setup.registry, Database.resolver w.database, w.dates⟩

/-- What follows on the interpretation of the query. -/
def reply (w : World) (setup : Setup) (request : Request) :
    Except Failure Interpretation → Course
  | .error (.query e) => rejected w.name e.message
  | .error e => ⟨[], [], .failed "" (.interpretation e)⟩
  | .ok i => answer w setup request i

/-- A session: it begins, the query is interpreted, and the request is answered. -/
def course (w : World) (setup : Setup) (request : Request) : Course :=
  let interpreted := (setup.search w).process w.clock.milliseconds request.query
  (reply w setup request interpreted.outcome).after
    (opening setup.databaseUrl defaultTimeout ++ interpreted.trace.flatMap eventsOf)
    (interpreted.trace.flatMap (logOf w.database))

def serve (w : World) (request : Request) : Run :=
  match setUp w with
  | .error e => ⟨.failed "" e, [], [], []⟩
  | .ok setup =>
    let c := course w setup request
    ⟨c.ending, c.events, c.log, setup.logging.lines w.clock.stamp c.log⟩

def run (w : World) (arguments : List String) : Run :=
  match Request.ofArguments arguments with
  | .error refusal => ⟨.refused refusal, [], [], []⟩
  | .ok request => serve w request

end LedgerSearch.CommandLine
