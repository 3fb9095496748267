import CsvQuery.Query.Basic
import CsvQuery.Table.Schema
import CsvQuery.Json.Basic

/-!
# Plan trees

A plan is a tree of operators, each carrying its output schema: scans at the leaves, then
selections, left-deep joins, an aggregate, a projection, a duplicate filter and a sort.
A plan has three texts: the compact one-line form (`Project(Join(Scan(R), Scan(S)))`), the
indented tree with one operator per line and its arguments, and a JSON document with the
operator's kind under `"operator"` followed by its fields.
-/

namespace CsvQuery

/-- One operator of a plan, with its output schema and its inputs. -/
inductive PlanNode where
  | scan (table reference : String) (schema : Schema)
  | select (predicate : Expr) (schema : Schema) (input : PlanNode)
  | join (conditions : List Expr) (schema : Schema) (left right : PlanNode)
  | aggregate (sum : SumExpr) (groupBy : List String) (schema : Schema) (input : PlanNode)
  | project (targets : List SelectTarget) (schema : Schema) (input : PlanNode)
  | distinct (keys : List String) (schema : Schema) (input : PlanNode)
  | sort (keys : List OrderItem) (schema : Schema) (input : PlanNode)
deriving DecidableEq, Repr, Inhabited

namespace PlanNode

/-- The output schema of the operator. -/
def schema : PlanNode → Schema
  | .scan _ _ s | .select _ s _ | .join _ s _ _ | .aggregate _ _ s _ | .project _ s _
  | .distinct _ s _ | .sort _ s _ => s

/-- The operator's name. -/
def name : PlanNode → String
  | .scan .. => "Scan"
  | .select .. => "Select"
  | .join .. => "Join"
  | .aggregate .. => "Aggregate"
  | .project .. => "Project"
  | .distinct .. => "Distinct"
  | .sort .. => "Sort"

/-- The number of operators in the tree. -/
def operatorCount : PlanNode → Nat
  | .scan .. => 1
  | .join _ _ l r => 1 + l.operatorCount + r.operatorCount
  | .select _ _ i | .aggregate _ _ _ i | .project _ _ i | .distinct _ _ i | .sort _ _ i =>
    1 + i.operatorCount

/-- The compact one-line form: `Scan(ref)`, and `Name(input, ...)` above it. -/
def compact : PlanNode → String
  | .scan _ r _ => "Scan(" ++ r ++ ")"
  | .join _ _ l r => "Join(" ++ l.compact ++ ", " ++ r.compact ++ ")"
  | .select _ _ i => "Select(" ++ i.compact ++ ")"
  | .aggregate _ _ _ i => "Aggregate(" ++ i.compact ++ ")"
  | .project _ _ i => "Project(" ++ i.compact ++ ")"
  | .distinct _ _ i => "Distinct(" ++ i.compact ++ ")"
  | .sort _ _ i => "Sort(" ++ i.compact ++ ")"

/-- The line of the indented tree that describes the operator itself. -/
def headline : PlanNode → String
  | .scan t r _ => if t = r then "Scan " ++ t else "Scan " ++ t ++ " AS " ++ r
  | .select p _ _ => "Select [" ++ p.render ++ "]"
  | .join cs _ _ _ => "Join [" ++ " AND ".intercalate (cs.map Expr.render) ++ "]"
  | .aggregate s g _ _ => "Aggregate [SUM(" ++ s.render ++ ") BY " ++ ", ".intercalate g ++ "]"
  | .project _ s _ => "Project [" ++ ", ".intercalate s.columns ++ "]"
  | .distinct k _ _ => "Distinct [" ++ ", ".intercalate k ++ "]"
  | .sort k _ _ => "Sort [" ++ ", ".intercalate (k.map OrderItem.render) ++ "]"

/-- The indented tree: one line per operator, two spaces of indentation per level, inputs
after their operator, each line ending in a newline. -/
def tree (depth : Nat) (n : PlanNode) : String :=
  let line := String.ofList (List.replicate (2 * depth) ' ') ++ n.headline ++ "\n"
  match n with
  | .scan .. => line
  | .join _ _ l r => line ++ tree (depth + 1) l ++ tree (depth + 1) r
  | .select _ _ i | .aggregate _ _ _ i | .project _ _ i | .distinct _ _ i | .sort _ _ i =>
    line ++ tree (depth + 1) i

/-- The JSON document of the tree. -/
def toJson : PlanNode → Json
  | .scan t r s =>
    .obj [("operator", .str "scan"), ("table", .str t), ("reference", .str r),
      ("schema", Json.strs s.columns)]
  | .select p s i =>
    .obj [("operator", .str "select"), ("predicate", .str p.render),
      ("schema", Json.strs s.columns), ("input", i.toJson)]
  | .join cs s l r =>
    .obj [("operator", .str "join"), ("conditions", Json.strs (cs.map Expr.render)),
      ("schema", Json.strs s.columns), ("left", l.toJson), ("right", r.toJson)]
  | .aggregate sum g s i =>
    .obj [("operator", .str "aggregate"), ("sum", .str sum.render), ("group_by", Json.strs g),
      ("schema", Json.strs s.columns), ("input", i.toJson)]
  | .project ts s i =>
    .obj [("operator", .str "project"), ("targets", Json.strs (ts.map SelectTarget.render)),
      ("schema", Json.strs s.columns), ("input", i.toJson)]
  | .distinct k s i =>
    .obj [("operator", .str "distinct"), ("keys", Json.strs k),
      ("schema", Json.strs s.columns), ("input", i.toJson)]
  | .sort k s i =>
    .obj [("operator", .str "sort"), ("keys", Json.strs (k.map OrderItem.render)),
      ("schema", Json.strs s.columns), ("input", i.toJson)]

end PlanNode

end CsvQuery
