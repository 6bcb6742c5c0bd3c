import RecordMapper.CommandLine.Options
import RecordMapper.CommandLine.Parameter
import RecordMapper.CommandLine.Rows
import RecordMapper.Opening
import RecordMapper.Session.Record

/-!
# Runs of the program

A run reads the command line, loads the settings and does what it is asked to. It ends with a text
for standard output, or with the cause of a failure.
-/

namespace RecordMapper.CommandLine

/-- Why a run fails. -/
inductive Failure where
  | usage (fault : UsageFault)
  | error (e : Error)
  | unwritable (cause : ConversionError)

namespace Failure

def message : Failure → String
  | usage fault => fault.message
  | error e => e.message
  | unwritable cause => cause.message

/-- The exit code of a failed run. -/
def exitCode : Failure → Nat
  | usage _ => 2
  | _ => 1

end Failure

/-- The end of a run: what it prints, or why it fails, and what was logged on the way. -/
structure Ending where
  result : Except Failure String
  verbose : Bool := false
  log : List LogEntry := []

def Ending.exitCode (e : Ending) : Nat :=
  match e.result with
  | .ok _ => 0
  | .error failure => failure.exitCode

/-- The label of the session that runs a statement. -/
def hint : String := "cli"

def versionText : String := "lborm 0.0.1\n"

def helpText : String :=
  "Run SQL through the lborm record layer\n\n" ++
  "Usage: lborm [-v] [-c FILE] [-d FILE] COMMAND\n\n" ++
  "Commands:\n" ++
  "  exec SQL [PARAM...]            run a statement that returns no rows\n" ++
  "  query SQL [PARAM...] [--json]  run a query and print its rows\n" ++
  "  init [-f]                      write a starter config file\n"

variable {m : Type → Type} [Monad m] [Files m]

/-- Opens the database of the settings, runs a statement on a session and keeps the database. -/
def withDatabase {α : Type} (s : Settings)
    (run : Session → StoreEngine .none →
      Attempt (Session × StoreEngine .none) α) : m (Except Error α × List LogEntry) := do
  match s.target with
  | .error e => return (.error e, [])
  | .ok target =>
    match ← StoreEngine.ofSettings s with
    | .error e => return (.error e, [])
    | .ok engine =>
      let (answer, _, engine) := run (.fresh engine.dialect (some hint)) engine
      let log := Event.log engine.events
      match ← engine.keep target with
      | .ok () => return (answer, log)
      | .error e => return (answer.bind fun _ => .error e, log)

/-- What `exec` prints. -/
def affectedText (n : Int) : String :=
  toString n ++ " row(s) affected\n"

/-- What `query` prints. -/
def rowsText (json : Bool) (rows : List (List Value)) : Except Failure String :=
  if json then
    match Rows.json rows with
    | .ok text => .ok (text ++ "\n")
    | .error cause => .error (.unwritable cause)
  else .ok (Rows.table rows ++ "\n")

/-- Does what is asked for under the given settings. -/
def perform (i : Invocation) (s : Settings) : m (Except Failure String × List LogEntry) := do
  match i.action with
  | .exec sql params =>
    let (answer, log) ← withDatabase s (Session.execRaw sql (params.map parameter))
    return ((answer.mapError .error).map affectedText, log)
  | .query sql params json =>
    let (answer, log) ← withDatabase s (Session.queryRaw sql (params.map parameter))
    return ((answer.mapError .error).bind (rowsText json), log)
  | .init force =>
    let path := i.config?.getD Settings.defaultPath
    let starter :=
      { Settings.starter s.database? with dialect := s.dialect, logFilter? := s.logFilter? }
    let saved ← starter.save path force
    return ((saved.mapError .error).map fun () => "Wrote " ++ path ++ "\n", [])

/-- Runs the program with the given arguments. -/
def run (arguments : List String) : m Ending := do
  match Invocation.read arguments with
  | .error .version => return ⟨.ok versionText, false, []⟩
  | .error .help => return ⟨.ok helpText, false, []⟩
  | .error (.misuse fault) => return ⟨.error (.usage fault), false, []⟩
  | .ok i =>
    match ← Settings.load i.config? with
    | .error e => return ⟨.error (.error e), i.verbose, []⟩
    | .ok s =>
      let (result, log) ← perform i { s with database? := i.database? <|> s.database? }
      return ⟨result, i.verbose, log⟩

end RecordMapper.CommandLine
