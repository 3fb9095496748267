import CsvQuery.Exec.Operator
import CsvQuery.Catalog.Basic
import CsvQuery.Plan.Build
import CsvQuery.Log.Basic

/-!
# Pipelines: operators built from a plan

Each plan node becomes the operator of the same kind, its input built first. A scan opens
its table's data file in the catalog; a sort resolves its key columns before building its
input, the other operators after. Sorts and aggregates read their whole input while being
built, so a data error can surface here.
-/

namespace CsvQuery

/-- The operator for a plan node, reading data files from `files`. -/
def Catalog.build (files : FileTree) (c : Catalog) : PlanNode → Except ExecError Operator
  | .scan table _ _ =>
    match c.table? table with
    | none => .error (.tableNotInCatalog table)
    | some entry =>
      match LineSource.openFile files entry.path with
      | .ok src => .ok (Operator.scanOf table src)
      | .error e => .error (.sourceUnavailable table e)
  | .select p s input => do Operator.selectOf (← c.build files input) p s
  | .join cs s l r => do
    let left ← c.build files l
    let right ← c.build files r
    Operator.joinOf left right cs s
  | .aggregate sum g _ input => do Operator.aggregateOf (← c.build files input) sum g input.schema
  | .project ts _ input => do Operator.projectOf (← c.build files input) input.schema ts
  | .distinct ks _ input => do Operator.distinctOf (← c.build files input) input.schema ks
  | .sort ks _ input => do
    let keys ← ks.mapM fun item =>
      match input.schema.indexOf item.column.name with
      | some p => pure ⟨p, item.direction = .asc⟩
      | none => throw (.columnNotFound item.column.name)
    Operator.sortOf (← c.build files input) keys

/-- The record of an opened pipeline: the plan's operator count and the root's name. -/
def PlanNode.openedRecord (n : PlanNode) (op : Operator) : LogRecord :=
  Event.pipelineOpened.record [("operators", Decimal.renderNat n.operatorCount), ("root", op.name)]

/-- Builds the pipeline of a plan; on success also the record of its opening. -/
def Catalog.openPipeline (files : FileTree) (c : Catalog) (n : PlanNode) :
    Except ExecError (Operator × LogRecord) := do
  let op ← c.build files n
  return (op, n.openedRecord op)

/-- A finished run: the output columns and the tuples in order. -/
structure QueryResult where
  schema : Schema
  tuples : List Tuple
deriving Repr, Inhabited

/-- One line per tuple, fields separated by a comma and a space. -/
def QueryResult.text (r : QueryResult) : String :=
  String.join (r.tuples.map fun t => t.render ++ "\n")

/-- Runs a plan to completion: builds its pipeline and reads every tuple. There is no
result unless every tuple was produced; the opening record is returned whenever the
pipeline was built. -/
def Catalog.execute (files : FileTree) (c : Catalog) (p : Plan) :
    List LogRecord × Except ExecError QueryResult :=
  match c.openPipeline files p.root with
  | .error e => ([], .error e)
  | .ok (op, opened) =>
    match op.drainAll with
    | .ok ts => ([opened], .ok ⟨p.outputSchema, ts⟩)
    | .error e => ([opened], .error e)

end CsvQuery
