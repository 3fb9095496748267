import CsvQuery.Plan.Build

/-!
# Explaining a plan

The explanation of a query is the plan that was built, with its output columns and dropped
conjuncts, or the reason the query was rejected. Its JSON document has the members
`accepted`, `plan`, `output_columns`, `dropped_predicates`, `rejection_code` and
`rejection_reason`, in that order, leaving out `plan` for a rejection and the two rejection
members for a plan. Its text is the plan's indented tree, or `REJECTED code: reason`.
-/

namespace CsvQuery

/-- What explaining a query reports. -/
structure Explanation where
  accepted : Bool
  plan : Option PlanNode
  outputColumns : List String
  droppedPredicates : List String
  rejectionCode : Option String
  rejectionReason : Option String
deriving DecidableEq, Repr, Inhabited

namespace Explanation

/-- The explanation of a plan. -/
def ofPlan (p : Plan) : Explanation :=
  ⟨true, some p.root, p.outputSchema.columns, p.dropped.map Expr.render, none, none⟩

/-- The explanation of a rejection. -/
def ofError (e : PlanError) : Explanation := ⟨false, none, [], [], some e.code, some e.message⟩

/-- The JSON document. -/
def toJson (x : Explanation) : Json :=
  .obj <| [("accepted", .bool x.accepted)]
    ++ (match x.plan with | some p => [("plan", p.toJson)] | none => [])
    ++ [("output_columns", Json.strs x.outputColumns),
        ("dropped_predicates", Json.strs x.droppedPredicates)]
    ++ (match x.rejectionCode with | some c => [("rejection_code", .str c)] | none => [])
    ++ (match x.rejectionReason with | some r => [("rejection_reason", .str r)] | none => [])

/-- The text: the indented tree, or the rejection line. -/
def text (x : Explanation) : String :=
  match x.plan with
  | some p => p.tree 0
  | none => "REJECTED " ++ x.rejectionCode.getD "" ++ ": " ++ x.rejectionReason.getD "" ++ "\n"

end Explanation

end CsvQuery
