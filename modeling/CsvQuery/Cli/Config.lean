import CsvQuery.Cli.Error
import CsvQuery.Json.Read
import CsvQuery.Log.Basic
import CsvQuery.Text.Blank

/-!
# Engine settings

The settings file is optional, and so is each of its fields: the schema file's name inside
the database directory (`schema.txt`), the data directory's name (`data`) and the log level
(`info`). It is JSON: an object with the fields by name (other members are ignored) or an
array with them in that order. Settings are checked in order: neither name may be blank,
and the level must name a severity, in any ASCII case.
-/

namespace CsvQuery

/-- The engine's settings. -/
structure EngineConfig where
  schemaFile : String := "schema.txt"
  dataSubdir : String := "data"
  logLevel : String := "info"
deriving DecidableEq, Repr, Inhabited

namespace EngineConfig

/-- The field names, in array order. -/
def fieldNames : List String := ["schema_file", "data_subdir", "log_level"]

/-- The severity the log level names. -/
def severity (c : EngineConfig) : Except CliError Severity :=
  match Severity.ofLevel? c.logLevel with
  | some s => .ok s
  | none =>
    .error (.config ("Invalid log_level: '" ++ c.logLevel
      ++ "'. Must be one of trace, info, warn, error, fatal."))

/-- Checks the settings: the names are not blank and the level is known. -/
def validate (c : EngineConfig) : Except CliError Unit := do
  if Blank.isAllBlank c.schemaFile.toList then throw (.config "schema_file must not be empty")
  if Blank.isAllBlank c.dataSubdir.toList then throw (.config "data_subdir must not be empty")
  discard c.severity

/-- Settings from the text of a settings file. -/
def ofText (text : String) : Except CliError EngineConfig := do
  let fields ← match Json.readRecordText "struct EngineConfig" fieldNames text with
    | .ok fs => pure fs
    | .error m => throw (.config ("Invalid config JSON: " ++ m))
  let field (i : Nat) (default : String) := ((fields[i]?).bind id).getD default
  let c : EngineConfig := ⟨field 0 "schema.txt", field 1 "data", field 2 "info"⟩
  c.validate
  return c

/-- Settings from the file at `path`, or the defaults with no file. -/
def load (files : FileTree) : Option String → Except CliError EngineConfig
  | none => .ok {}
  | some path =>
    match files.readText path with
    | .error e => .error (.config ("Failed to read config: " ++ e.message))
    | .ok text => ofText text

end EngineConfig

end CsvQuery
