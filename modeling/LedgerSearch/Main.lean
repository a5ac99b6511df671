import LedgerSearch.Calendar.EnglishReader
import LedgerSearch.CommandLine.Run
import LedgerSearch.Settings.File

/-!
# The command

Reads the variables and the file `.env` of the working directory and runs the
command with them. No server is reached: every statement is answered without
rows, so the command shows how a query is interpreted and which statement it
gives. No clock is read either, and dates are read in English.
-/

open LedgerSearch LedgerSearch.CommandLine

/-- How the command is used. -/
def usage : String :=
  "usage: ledger-search [-h] [--page PAGE] [--sql] [--run] query"

/-- The variables that are set. -/
def readEnvironment : IO Environment :=
  Settings.variableNames.filterMapM fun name => do
    return (← IO.getEnv name).map fun value => (name, value)

/-- The variables of the file, if there is one. -/
def readFile : IO Environment := do
  try
    return Environment.ofFile (← IO.FS.readFile ".env")
  catch _ =>
    return []

/-- A clock that stands still at the beginning of 1970. -/
def stoppedClock : Clock :=
  ⟨fun _ => "1970-01-01 00:00:00,000", 0, 0⟩

/-- Reports what a run has written and how it ended. -/
def finish (r : Run) : IO UInt32 := do
  IO.eprint r.standardError
  match r.ending with
  | .refused refusal => do
    match refusal with
    | .help => IO.println usage
    | .misuse => IO.eprintln usage
    return refusal.status.toUInt32
  | .exited status output _ => do
    IO.print output
    return status.toUInt32
  | .failed output error => do
    IO.print output
    IO.eprintln error.message
    return 1

def main (arguments : List String) : IO UInt32 := do
  let world : World :=
    { environment := ← readEnvironment
      file := ← readFile
      database := Database.ofTables []
      dates := .english
      rootLogger := {}
      clock := stoppedClock
      name := "__main__" }
  finish (run world arguments)
