import CsvQuery.Catalog.Basic
import CsvQuery.Plan.Error
import CsvQuery.Exec.Error

/-!
# Command errors

A command fails for one of its own reasons (a bad settings file, an unreadable or empty
query file, an output file that cannot be created) or passes on the error of the stage
that failed: loading the catalog, planning, or running. Each keeps its stage's code; the
text of a stage's error is the stage's own, and its chain of causes lists that text and
then the file failure beneath it, if any.
-/

namespace CsvQuery

/-- Why a command failed. -/
inductive CliError where
  /-- The settings file is unreadable or invalid. -/
  | config (message : String)
  /-- A file of the command could not be read or written. -/
  | io (message : String)
  | catalog (e : CatalogError)
  | plan (e : PlanError)
  | exec (e : ExecError)
deriving DecidableEq, Repr, Inhabited

namespace CliError

/-- The code of the failure. -/
def code : CliError → String
  | .config _ => "AERO_CLI_CONFIG_ERROR"
  | .io _ => "AERO_CLI_IO_ERROR"
  | .catalog e => e.code
  | .plan e => e.code
  | .exec e => e.code

/-- The full text of the failure. -/
def display : CliError → String
  | .config m => "AERO_CLI_CONFIG_ERROR: " ++ m
  | .io m => "AERO_CLI_IO_ERROR: " ++ m
  | .catalog e => e.code ++ ": " ++ e.message
  | .plan e => e.display
  | .exec e => e.display

/-- The chain of causes beneath the failure, outermost first. -/
def sources : CliError → List String
  | .config _ | .io _ => []
  | .catalog e => e.message :: (e.cause?.map IoFailure.message).toList
  | .plan e => [e.display]
  | .exec e => e.display :: (e.cause?.map IoFailure.message).toList

end CliError

end CsvQuery
