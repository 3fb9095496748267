import CsvQuery.Cli.Args
import CsvQuery.Cli.Config
import CsvQuery.Catalog.Load
import CsvQuery.Query.OfSql
import CsvQuery.Plan.Explain
import CsvQuery.Exec.Pipeline
import CsvQuery.Log.Scope

/-!
# Running commands

Both commands load the settings, then the catalog, then read, parse and plan the query
file. `query` runs the plan to completion and only then writes the output file, one tuple
per line, so that a failed run leaves the file as it was. `explain` prints the plan's JSON
document, for a rejected query too, and then reports the rejection.

A run works on a session: the files it sees, its log and what it printed. The query run's
identifier and its duration come from outside, as they differ from run to run.
-/

namespace CsvQuery

/-- What a command works on and leaves behind: the files, the log, and the text printed. -/
structure Session where
  files : FileTree
  log : Log := {}
  printed : String := ""
deriving Repr, Inhabited

/-- What differs from run to run: the query run's identifier and its duration in
milliseconds, as text. -/
structure RunStamp where
  queryId : String
  elapsedMs : String
deriving DecidableEq, Repr, Inhabited

namespace Session

/-- Writes records to the session's log. -/
def logAll (s : Session) (rs : List LogRecord) : Session := { s with log := s.log.writeAll rs }

/-- Reads the query file: UTF-8 text that is not blank. -/
def readQuery (files : FileTree) (path : String) : Except CliError String :=
  match files.readText path with
  | .error e => .error (.io ("Failed to read " ++ path ++ ": " ++ e.message))
  | .ok sql =>
    if Blank.isAllBlank sql.toList then .error (.io ("Query file " ++ path ++ " is empty"))
    else .ok sql

/-- Loads the catalog, reads the query file, parses and plans. A catalog or file failure
fails the step; a rejected query is its result. -/
def planFile (s : Session) (db input : String) (cfg : EngineConfig) :
    Session × Except CliError (Catalog × Except PlanError Plan) :=
  match Catalog.load s.files db cfg.schemaFile cfg.dataSubdir with
  | .error e => (s, .error (.catalog e))
  | .ok (c, records) =>
    let s := s.logAll records
    match readQuery s.files input with
    | .error e => (s, .error e)
    | .ok sql =>
      match Query.ofSql sql with
      | .error e => (s, .ok (c, .error e))
      | .ok q =>
        let (records, planned) := c.plan q
        (s.logAll records, .ok (c, planned))

/-- Loads the settings and sets the log threshold from them. -/
def configure (s : Session) (path : Option String) : Session × Except CliError EngineConfig :=
  match EngineConfig.load s.files path with
  | .error e => (s, .error e)
  | .ok cfg =>
    match cfg.severity with
    | .error e => (s, .error e)
    | .ok sev => ({ s with log := { s.log with threshold := sev } }, .ok cfg)

/-- Plans, runs and writes the result of a query file; returns the number of rows. -/
def queryOutcome (s : Session) (db input output : String) (cfg : EngineConfig) :
    Session × Except CliError Nat :=
  match s.planFile db input cfg with
  | (s, .error e) => (s, .error e)
  | (s, .ok (_, .error e)) => (s, .error (.plan e))
  | (s, .ok (c, .ok p)) =>
    let (records, result) := c.execute s.files p
    let s := s.logAll records
    match result with
    | .error e => (s, .error (.exec e))
    | .ok r =>
      match s.files.create output (Utf8.encodeString r.text) with
      | .error e => (s, .error (.io ("Failed to create " ++ output ++ ": " ++ e.message)))
      | .ok files => ({ s with files }, .ok r.tuples.length)

/-- The `query` command, inside a scope named `QUERY`. -/
def runQuery (stamp : RunStamp) (s : Session) (db input output : String)
    (config : Option String) : Session × Except CliError Unit :=
  match s.configure config with
  | (s, .error e) => (s, .error e)
  | (s, .ok cfg) =>
    let scope : Scope := ⟨"QUERY", [("input_file", input), ("query_id", stamp.queryId)]⟩
    let s := s.logAll [scope.beginRecord]
    match s.queryOutcome db input output cfg with
    | (s, .ok rows) =>
      (s.logAll [scope.completeRecord [("rows", Decimal.renderNat rows)] stamp.elapsedMs], .ok ())
    | (s, .error e) => (s.logAll [scope.failRecord e.code e.display], .error e)

/-- The explanation of a query file, with the settings given; the log threshold is left
as it is. -/
def explainPlan (s : Session) (db input : String) (config : Option String) :
    Session × Except CliError Explanation :=
  match EngineConfig.load s.files config with
  | .error e => (s, .error e)
  | .ok cfg =>
    match s.planFile db input cfg with
    | (s, .error e) => (s, .error e)
    | (s, .ok (_, planned)) =>
      (s, .ok (match planned with
        | .ok p => Explanation.ofPlan p
        | .error e => Explanation.ofError e))

/-- The `explain` command: prints the explanation's JSON document, then reports a
rejection. -/
def runExplain (s : Session) (db input : String) (config : Option String) :
    Session × Except CliError Unit :=
  match s.configure config with
  | (s, .error e) => (s, .error e)
  | (s, .ok cfg) =>
    match s.planFile db input cfg with
    | (s, .error e) => (s, .error e)
    | (s, .ok (_, planned)) =>
      let x := match planned with
        | .ok p => Explanation.ofPlan p
        | .error e => Explanation.ofError e
      let s := { s with printed := s.printed ++ x.toJson.render ++ "\n" }
      match planned with
      | .ok _ => (s, .ok ())
      | .error e => (s, .error (.plan e))

end Session

/-- Runs a command in a session. -/
def Command.run (stamp : RunStamp) (s : Session) : Command → Session × Except CliError Unit
  | .query db input output config => s.runQuery stamp db input output config
  | .explain db input config => s.runExplain db input config

end CsvQuery
