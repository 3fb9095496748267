import CsvQuery.Plan.Node
import CsvQuery.Plan.Classify
import CsvQuery.Catalog.Basic
import CsvQuery.Log.Basic

/-!
# Planning a query

`Catalog.plan` turns a query into a plan tree whose shape is fixed by the clauses present,
bottom-up:

1. one scan per table in FROM order, each under one selection per conjunct on it, in
   WHERE order;
2. left-deep joins; a join condition goes to the first join whose combined schema resolves
   all of its columns;
3. an aggregate, if the query has a SUM or GROUP BY;
4. a projection, unless the SELECT list is `*`;
5. a duplicate filter keyed on every output column, for DISTINCT;
6. a sort, in ORDER BY order.

A sort key that the projection removes is still honoured: the sort then goes directly
beneath the projection. Conjuncts that no operator can evaluate (a selection on a table not
in FROM, or a join condition no join resolves) are dropped and logged. Planning also logs
the finished plan; what it logged is returned with the result, also on failure.
-/

namespace CsvQuery

/-- A plan: its tree, and the WHERE conjuncts that no operator evaluates. -/
structure Plan where
  root : PlanNode
  dropped : List Expr
deriving DecidableEq, Repr, Inhabited

/-- The schema of a plan's result. -/
def Plan.outputSchema (p : Plan) : Schema := p.root.schema

/-- The qualifier of the columns an aggregate produces. -/
def aggregateQualifier : String := "Aggregated"

/-- The schema entry a name resolves to. -/
def Schema.qualifiedName (s : Schema) (name : String) : Except PlanError String :=
  match (s.indexOf name).bind s.columnName? with
  | some n => .ok n
  | none => .error (.unknownColumn name)

namespace Planner

/-- The tables of a query, looked up in the catalog, each under its reference. -/
def resolveTables (c : Catalog) (tables : List TableRef) : Except PlanError (List ScopeTable) := do
  if tables.isEmpty then throw .noTables
  let mut seen : List String := []
  let mut out : List ScopeTable := []
  for t in tables do
    let some def_ := c.table? t.table | throw (.unknownTable t.table)
    let r := t.reference
    if seen.contains r then throw (.duplicateReference r)
    seen := seen ++ [r]
    out := out ++ [⟨def_.name, r, def_.schema r⟩]
  return out

/-- A table's scan under the selections on it. -/
def scanOf (cls : Classification) (t : ScopeTable) : PlanNode :=
  (cls.selectionsFor t.reference).foldl (fun node p => .select p t.schema node)
    (.scan t.table t.reference t.schema)

/-- Joins `inputs` left-deep onto `root`; each join takes the pending conditions that its
schema resolves. Returns the tree and the conditions no join took. -/
def joinAll (root : PlanNode) (pending : List Expr) : List PlanNode → PlanNode × List Expr
  | [] => (root, pending)
  | right :: rest =>
    let schema := Schema.combine root.schema right.schema
    let fits := fun (e : Expr) => e.columnNames.all schema.hasColumn
    joinAll (.join (pending.filter fits) schema root right) (pending.filter (!fits ·)) rest

/-- The aggregate over `input`. -/
def aggregate (q : Query) (input : PlanNode) : Except PlanError PlanNode := do
  let s := input.schema
  let groupBy ← q.groupBy.mapM fun c => s.qualifiedName c.name
  let sum := q.sumExpr?.getD (.lit 0)
  for c in sum.columns do
    let _ ← s.qualifiedName c
  let names := groupBy.map (fun g => aggregateQualifier ++ "." ++ g) ++ [aggregateQualifier ++ ".Sum"]
  return .aggregate sum groupBy ⟨names⟩ input

/-- The schema of projecting `targets` from `input`: a column keeps its entry, a SUM takes
the last one. -/
def projectSchema (input : Schema) (targets : List SelectTarget) : Except PlanError Schema := do
  let names ← targets.mapM fun
    | .col c => input.qualifiedName c.name
    | .sum _ => match input.columns.getLast? with
      | some n => pure n
      | none => throw .sumOverEmptyInput
  return ⟨names⟩

/-- The projection over `input`, its columns named by their schema entries. -/
def project (targets : List SelectTarget) (input : PlanNode) : Except PlanError PlanNode := do
  let schema ← projectSchema input.schema targets
  let ts ← targets.mapM fun
    | .col c => do return .col (ColumnRef.ofName (← input.schema.qualifiedName c.name))
    | .sum e => pure (.sum e)
  return .project ts schema input

/-- The sort over `input`, its keys named by their schema entries. -/
def sort (keys : List OrderItem) (input : PlanNode) : Except PlanError PlanNode := do
  let ks ← keys.mapM fun k => do
    return ⟨ColumnRef.ofName (← input.schema.qualifiedName k.column.name), k.direction⟩
  return .sort ks input.schema input

/-- Aggregate, projection, duplicate filter and sort over the joined input. -/
def finish (q : Query) (joined : PlanNode) : Except PlanError PlanNode := do
  let mut root := joined
  if q.isAggregate then root ← aggregate q root
  let mut sortPlaced := false
  if let some targets := q.projection then
    if !q.orderBy.isEmpty then
      let projected ← projectSchema root.schema targets
      if !q.orderBy.all fun k => projected.hasColumn k.column.name then
        root ← sort q.orderBy root
        sortPlaced := true
    root ← project targets root
  if q.distinct then root := .distinct root.schema.columns root.schema root
  if !q.orderBy.isEmpty && !sortPlaced then root ← sort q.orderBy root
  return root

end Planner

/-- The reason logged for a dropped conjunct. -/
def droppedReason : String := "references a table not in FROM"

/-- Plans a query against the catalog. Returns what planning logged, in order, with the
plan or the reason there is none. -/
def Catalog.plan (c : Catalog) (q : Query) : List LogRecord × Except PlanError Plan :=
  match Planner.resolveTables c q.tables with
  | .error e => ([], .error e)
  | .ok scope =>
    let sums := (q.projection.getD []).countP fun | .sum _ => true | .col _ => false
    if sums > 1 then ([], .error (.unsupported "more than one SUM in SELECT"))
    else
      match classify q.selection scope with
      | .error e => ([], .error e)
      | .ok cls =>
        let strays := cls.selections.filterMap fun (r, e) =>
          if scope.any (·.reference = r) then none else some e
        match scope.map (Planner.scanOf cls) with
        | [] => ([], .error .noTables)
        | first :: rest =>
          let (joined, leftover) := Planner.joinAll first cls.joinConditions rest
          let dropped := strays ++ leftover
          let drops := dropped.map fun p =>
            Event.predicateDropped.record [("predicate", p.render), ("reason", droppedReason)]
          match Planner.finish q joined with
          | .error e => (drops, .error e)
          | .ok root =>
            let built := Event.planBuilt.record
              [("operators", Decimal.renderNat root.operatorCount), ("plan", root.compact)]
            (drops ++ [built], .ok ⟨root, dropped⟩)

end CsvQuery
