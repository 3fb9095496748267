import CsvQuery.Proofs.Pipeline.Operators
import CsvQuery.Proofs.Plan.Placement

/-!
# Plans that differ below their finishing operators

The operators that finish a plan (aggregate, projection, duplicate filter, sort) read
nothing of their input but its stream and its schema. So two plans whose trees differ only
in their join trees, where both join trees have the same schema and build to operators
with the same stream (or fail alike), run to the same result (`execute_withJoinTree`).

A run's result is read off the stream of the pipeline built for its tree
(`Catalog.execute_eq`): the tuples when the stream ends, its error otherwise.
-/

namespace CsvQuery

namespace PlanNode

/-- The tree with its join tree replaced by `j`; the operators that finish it stay. -/
def withJoinTree : PlanNode → PlanNode → PlanNode
  | .aggregate sum g s n, j => .aggregate sum g s (n.withJoinTree j)
  | .project ts s n, j => .project ts s (n.withJoinTree j)
  | .distinct ks s n, j => .distinct ks s (n.withJoinTree j)
  | .sort ks s n, j => .sort ks s (n.withJoinTree j)
  | _, j => j

theorem withJoinTree_joinTree : ∀ n : PlanNode, n.withJoinTree n.joinTree = n
  | .scan .. | .select .. | .join .. => rfl
  | .aggregate _ _ _ n | .project _ _ n | .distinct _ _ n | .sort _ _ n => by
    simp [withJoinTree, joinTree, withJoinTree_joinTree n]

theorem schema_withJoinTree {j₁ j₂ : PlanNode} (h : j₁.schema = j₂.schema) :
    ∀ n : PlanNode, (n.withJoinTree j₁).schema = (n.withJoinTree j₂).schema
  | .scan .. | .select .. | .join .. => h
  | .aggregate .. | .project .. | .distinct .. | .sort .. => rfl

end PlanNode

theorem Operator.map_rest_bind {x₁ x₂ : Except ExecError Operator}
    {f₁ f₂ : Operator → Except ExecError Operator} (hx : x₁.map rest = x₂.map rest)
    (hf : ∀ o₁ o₂, x₁ = .ok o₁ → x₂ = .ok o₂ → o₁.rest = o₂.rest →
      (f₁ o₁).map rest = (f₂ o₂).map rest) :
    (x₁ >>= f₁).map rest = (x₂ >>= f₂).map rest := by
  cases x₁ with
  | error e₁ =>
    cases x₂ with
    | error e₂ =>
      simp only [Except.map, Except.error.injEq] at hx
      subst hx
      rfl
    | ok o₂ => simp [Except.map] at hx
  | ok o₁ =>
    cases x₂ with
    | error e₂ => simp [Except.map] at hx
    | ok o₂ => exact hf o₁ o₂ rfl rfl (by simpa [Except.map] using hx)

theorem Operator.map_rest_bind_left {α : Type} (x : Except ExecError α)
    {f₁ f₂ : α → Except ExecError Operator} (hf : ∀ a, (f₁ a).map rest = (f₂ a).map rest) :
    (x >>= f₁).map rest = (x >>= f₂).map rest := by
  cases x with
  | error e => rfl
  | ok a => exact hf a

namespace Catalog

variable {files : FileTree} {c : Catalog}

/-- The finishing operators built over two join trees with the same schema and the same
stream have the same stream. -/
theorem build_withJoinTree {j₁ j₂ : PlanNode} (hs : j₁.schema = j₂.schema)
    (h : (c.build files j₁).map Operator.rest = (c.build files j₂).map Operator.rest) :
    ∀ n : PlanNode, (c.build files (n.withJoinTree j₁)).map Operator.rest =
      (c.build files (n.withJoinTree j₂)).map Operator.rest
  | .scan .. | .select .. | .join .. => h
  | .aggregate sum g s n => by
    simp only [PlanNode.withJoinTree, Catalog.build]
    rw [PlanNode.schema_withJoinTree hs n]
    refine Operator.map_rest_bind (build_withJoinTree hs h n) fun o₁ o₂ h₁ h₂ hrest => ?_
    rw [Operator.aggregateOf_congr (Catalog.built h₁).fresh (Catalog.built h₂).fresh hrest]
  | .project ts s n => by
    simp only [PlanNode.withJoinTree, Catalog.build]
    rw [PlanNode.schema_withJoinTree hs n]
    exact Operator.map_rest_bind (build_withJoinTree hs h n) fun o₁ o₂ _ _ hrest =>
      Operator.projectOf_congr hrest _ ts
  | .distinct ks s n => by
    simp only [PlanNode.withJoinTree, Catalog.build]
    rw [PlanNode.schema_withJoinTree hs n]
    refine Operator.map_rest_bind (build_withJoinTree hs h n) fun o₁ o₂ h₁ h₂ hrest => ?_
    rw [Operator.rest_distinctOf (Catalog.built h₁).fresh, Operator.rest_distinctOf (Catalog.built h₂).fresh,
      hrest]
  | .sort ks s n => by
    simp only [PlanNode.withJoinTree, Catalog.build]
    rw [PlanNode.schema_withJoinTree hs n]
    -- the keys are resolved in the schema alone, before the input is built
    refine Operator.map_rest_bind_left _ fun keys => ?_
    refine Operator.map_rest_bind (build_withJoinTree hs h n) fun o₁ o₂ h₁ h₂ hrest => ?_
    rw [Operator.sortOf_congr (Catalog.built h₁).fresh (Catalog.built h₂).fresh hrest]

/-- A run answers the plan's schema with the stream of the pipeline built for its tree,
or the first error of building or of the stream. -/
theorem execute_eq (P : Plan) :
    (c.execute files P).2 = ((c.build files P.root).map Operator.rest).bind
      fun T => T.result.map (⟨P.outputSchema, ·⟩) := by
  unfold Catalog.execute Catalog.openPipeline
  cases h : c.build files P.root with
  | error e => rfl
  | ok op =>
    simp only [bind, Except.bind, pure, Except.pure, Except.map]
    rw [Operator.drainAll_of_fresh (Catalog.built h).fresh]
    unfold Trace.result
    cases op.rest.stop <;> rfl

/-- Replacing a plan's join tree by one with the same schema whose pipeline has the same
stream leaves the result of running the plan unchanged. -/
theorem execute_withJoinTree {P : Plan} {j : PlanNode} (hs : j.schema = P.root.joinTree.schema)
    (h : (c.build files j).map Operator.rest = (c.build files P.root.joinTree).map Operator.rest) :
    (c.execute files { P with root := P.root.withJoinTree j }).2 = (c.execute files P).2 := by
  have hb := build_withJoinTree hs h P.root
  have hsch := PlanNode.schema_withJoinTree hs P.root
  rw [PlanNode.withJoinTree_joinTree] at hb hsch
  rw [execute_eq, execute_eq]
  simp only [Plan.outputSchema, hb, hsch]

end Catalog

end CsvQuery
