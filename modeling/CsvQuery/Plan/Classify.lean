import CsvQuery.Query.Basic
import CsvQuery.Table.Schema
import CsvQuery.Plan.Error

/-!
# Sorting WHERE conjuncts into selections and join conditions

The predicate is split into its top-level conjuncts, and each goes to one bucket chosen by
the table references it mentions anywhere: none (`1 = 2`) makes it a selection on the first
table in FROM, one makes it a selection on that table, several make it a join condition.

Before that, columns are resolved against the tables in scope: a bare name is qualified by
the leftmost table that has the column; a qualified name whose table is in scope must name
one of its columns; a qualifier naming no table in scope is left as it is, and the
planner drops the conjunct later. The first column that fails, left to right, is the error.
-/

namespace CsvQuery

/-- A table in scope: its name, the reference its columns are qualified by, and its schema
under that reference. -/
structure ScopeTable where
  table : String
  reference : String
  schema : Schema
deriving DecidableEq, Repr, Inhabited

/-- Conjuncts by bucket, each bucket in WHERE order. -/
structure Classification where
  /-- Single-table conjuncts, with the reference they belong to. -/
  selections : List (String × Expr) := []
  /-- Conjuncts over several tables. -/
  joinConditions : List Expr := []
deriving DecidableEq, Repr, Inhabited

namespace Classification

/-- The selections on one reference, in WHERE order. -/
def selectionsFor (c : Classification) (reference : String) : List Expr :=
  c.selections.filterMap fun (r, e) => if r = reference then some e else none

end Classification

/-- Resolves one column against the tables in scope. -/
def ScopeTable.qualify (scope : List ScopeTable) (c : ColumnRef) : Except PlanError ColumnRef :=
  match c.qualifier with
  | none =>
    match scope.find? (·.schema.hasColumn c.column) with
    | some t => .ok ⟨some t.reference, c.column⟩
    | none => .error (.unknownColumn c.name)
  | some q =>
    match scope.find? (·.reference = q) with
    | some t => if t.schema.hasColumn c.name then .ok c else .error (.unknownColumn c.name)
    | none => .ok c

/-- Resolves every column of a conjunct; the first failure, left to right, is the error. -/
def ScopeTable.qualifyAll (scope : List ScopeTable) (e : Expr) : Except PlanError Expr :=
  match e.columns.findSome? fun c =>
      match ScopeTable.qualify scope c with
      | .error err => some err
      | .ok _ => none with
  | some err => .error err
  | none => .ok (e.mapColumns fun c => (ScopeTable.qualify scope c).toOption.getD c)

/-- The distinct table references a conjunct mentions, in sorted order. -/
def Expr.references (e : Expr) : List String :=
  (e.columns.filterMap (·.qualifier)).foldl (fun acc q => insertSorted q acc) []

/-- Sorts the conjuncts of a predicate into buckets. -/
def classify (predicate : Option Expr) (scope : List ScopeTable) :
    Except PlanError Classification := do
  match predicate with
  | none => return {}
  | some p =>
    let some first := scope.head? | throw .noTables
    let mut result : Classification := {}
    for conjunct in p.conjuncts do
      let e ← ScopeTable.qualifyAll scope conjunct
      match e.references with
      | [] => result := { result with selections := result.selections ++ [(first.reference, e)] }
      | [r] => result := { result with selections := result.selections ++ [(r, e)] }
      | _ => result := { result with joinConditions := result.joinConditions ++ [e] }
    return result

end CsvQuery
