import CsvQuery.FileTree
import CsvQuery.Text.Decimal

/-!
# Execution errors

Every way running a pipeline can fail, by cause. Each cause has a code and a severity:
`assembly` marks operators wired with arguments they cannot use (an out-of-range position,
a comparison on a boolean), `data` marks input that cannot produce a result (a malformed
row, an unreadable table, an overflowing sum). `message` is the one place where the
wording lives.
-/

namespace CsvQuery

/-- How bad an execution error is. -/
inductive ExecSeverity where
  | data
  | assembly
deriving DecidableEq, Repr, Inhabited

/-- The upper-case name of a severity. -/
def ExecSeverity.name : ExecSeverity → String
  | .data => "DATA"
  | .assembly => "ASSEMBLY"

/-- Why running a pipeline failed. -/
inductive ExecError where
  /-- A column name resolves in no position of the schema. -/
  | columnNotFound (column : String)
  /-- A field of a table line is not a 32-bit integer; `line` is 1-based. -/
  | malformedField (table : String) (line : Nat) (field : String)
  /-- A table's rows cannot be opened or read. -/
  | sourceUnavailable (table : String) (cause : IoFailure)
  /-- Two tuples compared on a column that one of them lacks. -/
  | compareArity (column leftArity rightArity : Nat)
  /-- A comparison met a boolean operand. -/
  | expectsInteger (op : String)
  /-- A connective or a predicate met an integer. -/
  | expectsBoolean (context : String)
  /-- A sort key lies beyond a tuple's arity. -/
  | sortColumnMissing (column arity : Nat)
  /-- A SUM target over a schema with no columns. -/
  | sumOfEmptySchema
  /-- A scan of a table the catalog does not hold. -/
  | tableNotInCatalog (table : String)
  /-- A tuple position past the tuple's arity. -/
  | indexOutOfRange (index arity : Nat)
  /-- A sum that does not fit a 32-bit field. -/
  | valueOverflow (value : Int)
  /-- A step of the 64-bit sum accumulator left the 64-bit range. -/
  | accumulatorOverflow (op : String) (left right : Int)
deriving DecidableEq, Repr, Inhabited

namespace ExecError

/-- The stable code of each cause. -/
def code : ExecError → String
  | .columnNotFound _ => "AERO_COLUMN_NOT_FOUND"
  | .malformedField .. => "AERO_MALFORMED_ROW"
  | .sourceUnavailable .. => "AERO_SOURCE_UNAVAILABLE"
  | .compareArity .. | .expectsInteger _ | .expectsBoolean _ | .sortColumnMissing ..
  | .sumOfEmptySchema | .tableNotInCatalog _ => "AERO_INVALID_ARGUMENT"
  | .indexOutOfRange .. => "AERO_INDEX_OUT_OF_RANGE"
  | .valueOverflow _ | .accumulatorOverflow .. => "AERO_VALUE_OVERFLOW"

/-- Invalid arguments and out-of-range positions are assembly errors; the rest are data
errors. -/
def severity : ExecError → ExecSeverity
  | .compareArity .. | .expectsInteger _ | .expectsBoolean _ | .sortColumnMissing ..
  | .sumOfEmptySchema | .tableNotInCatalog _ | .indexOutOfRange .. => .assembly
  | _ => .data

/-- The message of each cause, without code, severity or underlying failure. -/
def message : ExecError → String
  | .columnNotFound c => "Column '" ++ c ++ "' not found in schema"
  | .malformedField t n f =>
    "Table '" ++ t ++ "' line " ++ Decimal.renderNat n ++ ": field '" ++ f
      ++ "' is not a 32-bit integer"
  | .sourceUnavailable t _ => "Cannot read rows of table '" ++ t ++ "'"
  | .compareArity c a b =>
    "Cannot compare on column " ++ Decimal.renderNat c ++ ": tuple arities are "
      ++ Decimal.renderNat a ++ " and " ++ Decimal.renderNat b
  | .expectsInteger op => "'" ++ op ++ "' expects integer operands, got a boolean"
  | .expectsBoolean ctx => "'" ++ ctx ++ "' expects boolean operands, got an integer"
  | .sortColumnMissing c a =>
    "Sort column " ++ Decimal.renderNat c ++ " missing from tuple of arity "
      ++ Decimal.renderNat a
  | .sumOfEmptySchema => "SUM projected from an empty schema"
  | .tableNotInCatalog t => "table '" ++ t ++ "' is not in the catalog"
  | .indexOutOfRange i a =>
    "Index " ++ Decimal.renderNat i ++ " out of range for tuple of arity " ++ Decimal.renderNat a
  | .valueOverflow v => "Value " ++ Decimal.render v ++ " does not fit a 32-bit tuple field"
  | .accumulatorOverflow op l r =>
    "i64 accumulator overflowed computing " ++ Decimal.render l ++ " " ++ op ++ " "
      ++ Decimal.render r

/-- The column a column-not-found error names. -/
def column? : ExecError → Option String
  | .columnNotFound c => some c
  | _ => none

/-- The underlying file failure, if any. -/
def cause? : ExecError → Option IoFailure
  | .sourceUnavailable _ e => some e
  | _ => none

/-- The full text: severity, code and message, then the underlying failure. -/
def display (e : ExecError) : String :=
  let base := "[" ++ e.severity.name ++ "] " ++ e.code ++ ": " ++ e.message
  match e.cause? with
  | some c => base ++ " (caused by: " ++ c.message ++ ")"
  | none => base

end ExecError

end CsvQuery
