import CsvQuery.Text.Decimal

/-!
# Planning errors

Why a SQL text or a query is rejected before anything runs, by cause. The code tells the
kind (invalid, unsupported, unknown table, unknown column); `message` holds the wording.
The text of a syntax error and of a statement that is not a query is the SQL reader's own,
so `message?` has none for them.
-/

namespace CsvQuery

/-- Why a query is rejected. -/
inductive PlanError where
  /-- The SQL text does not parse; `detail` says where. -/
  | malformed (detail : String)
  /-- The text holds other than exactly one statement. -/
  | statementCount (count : Nat)
  /-- The statement is not a query; its canonical text. -/
  | notAQuery (text : String)
  /-- A construct outside the supported SELECT. -/
  | unsupported (construct : String)
  /-- A SELECT without FROM. -/
  | noFromClause
  /-- SUM called with other than one argument. -/
  | sumArity
  /-- A numeric literal that is not a 64-bit integer. -/
  | notAnInteger (text : String)
  /-- A query with no tables. -/
  | noTables
  /-- Two tables known by one reference. -/
  | duplicateReference (reference : String)
  /-- A SUM target over an input with no columns. -/
  | sumOverEmptyInput
  /-- A table the catalog does not hold. -/
  | unknownTable (table : String)
  /-- A column that resolves against no table in scope. -/
  | unknownColumn (column : String)
deriving DecidableEq, Repr, Inhabited

namespace PlanError

/-- The stable code of each cause. -/
def code : PlanError → String
  | .unsupported _ | .notAQuery _ => "AERO_QUERY_UNSUPPORTED"
  | .unknownTable _ => "AERO_UNKNOWN_TABLE"
  | .unknownColumn _ => "AERO_QUERY_UNKNOWN_COLUMN"
  | _ => "AERO_QUERY_INVALID"

/-- The message of each cause. -/
def message : PlanError → String
  | .malformed d => "sql parser error: " ++ d
  | .statementCount n => "Expected exactly one statement, found " ++ Decimal.renderNat n
  | .notAQuery t => "Unsupported construct: statement '" ++ t ++ "'"
  | .unsupported c => "Unsupported construct: " ++ c
  | .noFromClause => "SELECT requires a FROM clause"
  | .sumArity => "SUM takes one argument"
  | .notAnInteger t => "'" ++ t ++ "' is not an integer"
  | .noTables => "Query has no tables"
  | .duplicateReference r => "Table reference '" ++ r ++ "' appears more than once; use an alias"
  | .sumOverEmptyInput => "SUM over an empty input"
  | .unknownTable t => "Table '" ++ t ++ "' not found in catalog"
  | .unknownColumn c => "Column '" ++ c ++ "' does not resolve against any table in scope"

/-- The message, unless its wording belongs to the SQL reader. -/
def message? : PlanError → Option String
  | .malformed _ | .notAQuery _ => none
  | e => some e.message

/-- The full text: severity, code and message. -/
def display (e : PlanError) : String := "[REJECT] " ++ e.code ++ ": " ++ e.message

end PlanError

end CsvQuery
