import CsvQuery.Query.Predicate
import CsvQuery.Query.Sum

/-!
# Queries

A query names its tables (each under an optional alias), an optional predicate, an
optional list of output targets (absent for `*`), a DISTINCT flag, grouping columns and
sort keys. It is what a SQL SELECT reads to and what the planner works from. Adding a
predicate conjoins it after those already present.
-/

namespace CsvQuery

/-- Ascending or descending order. -/
inductive SortDirection where
  | asc
  | desc
deriving DecidableEq, Repr, Inhabited

/-- The lower-case name of a direction. -/
def SortDirection.name : SortDirection → String
  | .asc => "asc"
  | .desc => "desc"

/-- A sort key: a column and a direction. -/
structure OrderItem where
  column : ColumnRef
  direction : SortDirection
deriving DecidableEq, Repr, Inhabited

/-- The text of a sort key: `col asc` or `col desc`. -/
def OrderItem.render (o : OrderItem) : String := o.column.name ++ " " ++ o.direction.name

/-- A base table, with the alias it is known by in the query, if any. -/
structure TableRef where
  table : String
  aliasName : Option String
deriving DecidableEq, Repr, Inhabited

/-- The name that qualifies the table's columns: its alias if it has one. -/
def TableRef.reference (t : TableRef) : String := t.aliasName.getD t.table

/-- One output target: a column, or the SUM. -/
inductive SelectTarget where
  | col (column : ColumnRef)
  | sum (expr : SumExpr)
deriving DecidableEq, Repr, Inhabited

/-- The text of a target: the column name, or `SUM(...)`. -/
def SelectTarget.render : SelectTarget → String
  | .col c => c.name
  | .sum e => "SUM(" ++ e.render ++ ")"

/-- A SELECT over base tables. -/
structure Query where
  tables : List TableRef
  selection : Option Expr := none
  projection : Option (List SelectTarget) := none
  distinct : Bool := false
  groupBy : List ColumnRef := []
  orderBy : List OrderItem := []
deriving DecidableEq, Repr, Inhabited

namespace Query

/-- `SELECT * FROM tables`. -/
def ofTables (tables : List TableRef) : Query := { tables }

/-- Conjoins a predicate after the present one. -/
def withPredicate (q : Query) (p : Expr) : Query :=
  { q with selection := some (match q.selection with | some e => .and e p | none => p) }

/-- The SUM of the SELECT list: the first SUM target, if any. -/
def sumExpr? (q : Query) : Option SumExpr :=
  (q.projection.getD []).findSome? fun | .sum e => some e | .col _ => none

/-- Whether the query needs an aggregate: it has a SUM or grouping columns. -/
def isAggregate (q : Query) : Bool := q.sumExpr?.isSome || !q.groupBy.isEmpty

end Query

end CsvQuery
