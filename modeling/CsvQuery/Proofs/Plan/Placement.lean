import CsvQuery.Plan.Build
import CsvQuery.Proofs.Except

/-!
# Where planning puts each WHERE conjunct

The conjuncts of a query's predicate, once their columns are resolved against the tables in
FROM, go to one place each (`placement`):

* a conjunct over no table, or over one table in FROM, is a selection stacked over that
  table's scan (the first table's, for a conjunct over none);
* a conjunct over one table not in FROM is dropped;
* a conjunct over several tables is a condition of the first join, bottom-up, whose schema
  resolves every column it names; if no join does, it is dropped.

A successful plan finishes the planner's joins of the tables in scope (`plan_eq_joined`),
whose join tree is left-deep over the tables in FROM order, each scan carrying the
selections placed on it and each join the conditions placed on it, in WHERE order
(`leftDeep_joinedScans`); every conjunct has exactly one place (`perm_placed`).
-/

namespace CsvQuery

namespace Expr

/-- The reference a conjunct is a selection on: the first table's for a conjunct over no
table, its table's for a conjunct over one; none for a conjunct over several tables, which
is a join condition. -/
def bucket (first : String) (e : Expr) : Option String :=
  match e.references with
  | [] => some first
  | [r] => some r
  | _ => none

end Expr

/-- The conjuncts of a WHERE predicate, left to right, each with its columns resolved
against the tables in scope. -/
def qualifiedConjuncts (scope : List ScopeTable) : Option Expr → Except PlanError (List Expr)
  | none => .ok []
  | some p => p.conjuncts.mapM (ScopeTable.qualifyAll scope)

namespace Classification

/-- One step of classifying: the conjunct goes to the bucket its references choose. -/
def add (first : String) (c : Classification) (e : Expr) : Classification :=
  match e.bucket first with
  | some r => { c with selections := c.selections ++ [(r, e)] }
  | none => { c with joinConditions := c.joinConditions ++ [e] }

/-- The buckets of qualified conjuncts, each in WHERE order. -/
def ofConjuncts (first : String) (cs : List Expr) : Classification :=
  ⟨cs.filterMap fun e => (e.bucket first).map (·, e), cs.filter fun e => (e.bucket first).isNone⟩

theorem foldl_add (first : String) (cs : List Expr) (init : Classification) :
    cs.foldl (add first) init =
      ⟨init.selections ++ (ofConjuncts first cs).selections,
        init.joinConditions ++ (ofConjuncts first cs).joinConditions⟩ := by
  induction cs generalizing init with
  | nil => simp [ofConjuncts]
  | cons e cs ih =>
    rw [List.foldl_cons, ih]
    cases hb : e.bucket first <;> simp [add, ofConjuncts, hb]

theorem selectionsFor_ofConjuncts (first r : String) (cs : List Expr) :
    (ofConjuncts first cs).selectionsFor r = cs.filter (·.bucket first = some r) := by
  induction cs with
  | nil => rfl
  | cons e cs ih =>
    simp only [selectionsFor, ofConjuncts] at ih ⊢
    cases hb : e.bucket first with
    | none => simp [hb, ih]
    | some r' => by_cases hr : r' = r <;> simp [hb, hr, ih]

end Classification

theorem forIn_classify (scope : List ScopeTable) (first : String)
    (f : Expr → Classification → Except PlanError (ForInStep Classification))
    (hf : ∀ c s, f c s = (fun e => .yield (s.add first e)) <$> ScopeTable.qualifyAll scope c)
    (l : List Expr) (init : Classification) :
    forIn l init f =
      (l.mapM (ScopeTable.qualifyAll scope)).map fun cs => cs.foldl (Classification.add first) init := by
  induction l generalizing init with
  | nil => rfl
  | cons c l ih =>
    rw [List.forIn_cons, hf, List.mapM_cons]
    cases hq : ScopeTable.qualifyAll scope c with
    | error e => rfl
    | ok e =>
      simp only [Functor.map, Except.map, bind, Except.bind]
      rw [ih]
      cases List.mapM (ScopeTable.qualifyAll scope) l <;> rfl

theorem classify_eq {scope : List ScopeTable} {t : ScopeTable} (hfirst : scope.head? = some t)
    (sel : Option Expr) :
    classify sel scope = (qualifiedConjuncts scope sel).map (Classification.ofConjuncts t.reference) := by
  cases sel with
  | none => rfl
  | some p =>
    simp only [classify, hfirst, qualifiedConjuncts]
    rw [forIn_classify scope t.reference _ ?_]
    · cases List.mapM (ScopeTable.qualifyAll scope) p.conjuncts with
      | error e => rfl
      | ok cs =>
        simp only [Except.map, bind, Except.bind, pure, Except.pure, Classification.foldl_add]
        rfl
    · -- the loop body adds the conjunct to the bucket its references choose
      intro c s
      cases hq : ScopeTable.qualifyAll scope c with
      | error e => rfl
      | ok e =>
        simp only [bind, Except.bind, Functor.map, Except.map]
        cases hr : e.references with
        | nil => simp [Classification.add, Expr.bucket, hr, pure, Except.pure]
        | cons r rs => cases rs <;> simp [Classification.add, Expr.bucket, hr, pure, Except.pure]

/-! ## Views of a plan tree -/

namespace PlanNode

/-- A scan under selections: the scan's reference and the selections' predicates,
bottom-up; none for any other tree. -/
def selected : PlanNode → Option (String × List Expr)
  | .scan _ r _ => some (r, [])
  | .select p _ n => n.selected.map fun (r, ps) => (r, ps ++ [p])
  | _ => none

/-- A left-deep join tree over scans under selections: its inputs left to right, and the
conditions of its joins bottom-up; none for any other tree. -/
def leftDeep : PlanNode → Option (List (String × List Expr) × List (List Expr))
  | .join cs _ l r =>
    match l.leftDeep, r.selected with
    | some (ins, conds), some input => some (ins ++ [input], conds ++ [cs])
    | _, _ => none
  | n => n.selected.map fun input => ([input], [])

/-- The join tree under the operators that finish a plan: aggregate, projection, duplicate
filter and sort. -/
def joinTree : PlanNode → PlanNode
  | .aggregate _ _ _ n | .project _ _ n | .distinct _ _ n | .sort _ _ n => n.joinTree
  | n => n

end PlanNode

theorem selected_scanOf (cls : Classification) (t : ScopeTable) :
    (Planner.scanOf cls t).selected = some (t.reference, cls.selectionsFor t.reference) ∧
      (Planner.scanOf cls t).schema = t.schema := by
  unfold Planner.scanOf
  -- the selections are stacked one at a time over the scan
  suffices h : ∀ (ps : List Expr) (n : PlanNode) (qs : List Expr),
      n.selected = some (t.reference, qs) → n.schema = t.schema →
      (ps.foldl (fun node p => .select p t.schema node) n).selected = some (t.reference, qs ++ ps) ∧
      (ps.foldl (fun node p => .select p t.schema node) n).schema = t.schema from
    h _ _ [] rfl rfl
  intro ps
  induction ps with
  | nil => intro n qs hn hs; simpa using ⟨hn, hs⟩
  | cons p ps ih =>
    intro n qs hn hs
    have := ih (.select p t.schema n) (qs ++ [p]) (by simp [PlanNode.selected, hn]) rfl
    simpa using this

/-- The schemas of the joins of a left input of schema `s` with right inputs of schemas
`rs`, bottom-up: each join's schema is its left input's followed by its right input's. -/
def joinSchemas (s : Schema) : List Schema → List Schema
  | [] => []
  | r :: rs => Schema.combine s r :: joinSchemas (Schema.combine s r) rs

/-- Whether a schema resolves every column a condition names. -/
def Schema.resolvesAll (s : Schema) (e : Expr) : Bool := e.columnNames.all s.hasColumn

/-- The first of the schemas that resolves every column of a condition. -/
def firstResolving (schemas : List Schema) (e : Expr) : Option Nat :=
  schemas.findIdx? (·.resolvesAll e)

theorem length_joinSchemas (s : Schema) (rs : List Schema) : (joinSchemas s rs).length = rs.length := by
  induction rs generalizing s with
  | nil => rfl
  | cons r rs ih => simp [joinSchemas, ih]

theorem firstResolving_cons (s : Schema) (ss : List Schema) (e : Expr) :
    firstResolving (s :: ss) e = if s.resolvesAll e then some 0 else (firstResolving ss e).map (· + 1) := by
  simp only [firstResolving, List.findIdx?_cons]

theorem filter_resolvesAll (s : Schema) (ss : List Schema) (l : List Expr) :
    l.filter (s.resolvesAll ·) = l.filter (firstResolving (s :: ss) · = some 0) := by
  apply List.filter_congr
  intro e _
  rw [firstResolving_cons]
  cases s.resolvesAll e <;> simp

theorem filter_not_resolvesAll (s : Schema) (ss : List Schema) (l : List Expr) (j : Option Nat) :
    (l.filter (!s.resolvesAll ·)).filter (firstResolving ss · = j) =
      l.filter (firstResolving (s :: ss) · = j.map (· + 1)) := by
  rw [List.filter_filter]
  apply List.filter_congr
  intro e _
  rw [firstResolving_cons]
  cases s.resolvesAll e <;> cases j <;> cases firstResolving ss e <;> simp

/-- Joining right inputs one by one onto a left-deep tree gives a left-deep tree; each join
takes the pending conditions it is the first to resolve, and the conditions no join
resolves are left over. -/
theorem leftDeep_joinAll :
    ∀ (rights : List PlanNode) (inputs : List (String × List Expr)) (root : PlanNode)
      (ins : List (String × List Expr)) (conds : List (List Expr)) (pending : List Expr),
      root.leftDeep = some (ins, conds) → rights.map PlanNode.selected = inputs.map some →
      (Planner.joinAll root pending rights).1.leftDeep =
          some (ins ++ inputs, conds ++ (List.range rights.length).map fun j =>
            pending.filter (firstResolving (joinSchemas root.schema (rights.map PlanNode.schema)) · = some j)) ∧
        (Planner.joinAll root pending rights).2 =
          pending.filter (firstResolving (joinSchemas root.schema (rights.map PlanNode.schema)) · = none) := by
  intro rights
  induction rights with
  | nil =>
    intro inputs root ins conds pending hroot hin
    obtain rfl : inputs = [] := by simpa using hin.symm
    refine ⟨by simp [Planner.joinAll, hroot], (List.filter_eq_self.2 fun _ _ => rfl).symm⟩
  | cons right rest ih =>
    intro inputs root ins conds pending hroot hin
    obtain ⟨input, inputs', rfl⟩ : ∃ input inputs', inputs = input :: inputs' := by
      cases inputs with
      | nil => simp at hin
      | cons input inputs' => exact ⟨input, inputs', rfl⟩
    simp only [List.map_cons, List.cons.injEq] at hin
    obtain ⟨hright, hrest⟩ := hin
    -- the first join takes the conditions its schema resolves and passes the rest on
    have hjoin : (PlanNode.join (pending.filter ((Schema.combine root.schema right.schema).resolvesAll ·))
        (Schema.combine root.schema right.schema) root right).leftDeep =
        some (ins ++ [input],
          conds ++ [pending.filter ((Schema.combine root.schema right.schema).resolvesAll ·)]) := by
      simp [PlanNode.leftDeep, hroot, hright]
    obtain ⟨h1, h2⟩ := ih inputs' _ _ _
      (pending.filter fun e => !(Schema.combine root.schema right.schema).resolvesAll e) hjoin hrest
    have hsch : joinSchemas root.schema ((right :: rest).map PlanNode.schema) =
        Schema.combine root.schema right.schema ::
          joinSchemas (Schema.combine root.schema right.schema) (rest.map PlanNode.schema) := rfl
    have hstep : Planner.joinAll root pending (right :: rest) = Planner.joinAll
        (.join (pending.filter ((Schema.combine root.schema right.schema).resolvesAll ·))
          (Schema.combine root.schema right.schema) root right)
        (pending.filter fun e => !(Schema.combine root.schema right.schema).resolvesAll e) rest := rfl
    have hS : (PlanNode.join (pending.filter ((Schema.combine root.schema right.schema).resolvesAll ·))
        (Schema.combine root.schema right.schema) root right).schema =
        Schema.combine root.schema right.schema := rfl
    rw [hS] at h1 h2
    refine ⟨?_, ?_⟩
    · rw [hstep, h1, hsch, List.length_cons, List.range_succ_eq_map, List.map_cons,
        filter_resolvesAll _ (joinSchemas (Schema.combine root.schema right.schema) (rest.map PlanNode.schema))]
      simp only [List.map_map, filter_not_resolvesAll, List.append_assoc, List.cons_append]
      rfl
    · rw [hstep, h2, hsch, filter_not_resolvesAll]
      rfl


/-! ## The operators that finish a plan -/

theorem joinTree_aggregate {q : Query} {n m : PlanNode} (h : Planner.aggregate q n = .ok m) :
    m.joinTree = n.joinTree := by
  simp only [Planner.aggregate, bind_eq_ok, pure, Except.pure, Except.ok.injEq] at h
  obtain ⟨_, _, _, _, rfl⟩ := h
  rfl

theorem joinTree_project {ts : List SelectTarget} {n m : PlanNode} (h : Planner.project ts n = .ok m) :
    m.joinTree = n.joinTree := by
  simp only [Planner.project, bind_eq_ok, pure, Except.pure, Except.ok.injEq] at h
  obtain ⟨_, _, _, _, rfl⟩ := h
  rfl

theorem joinTree_sort {ks : List OrderItem} {n m : PlanNode} (h : Planner.sort ks n = .ok m) :
    m.joinTree = n.joinTree := by
  simp only [Planner.sort, bind_eq_ok, pure, Except.pure, Except.ok.injEq] at h
  obtain ⟨_, _, rfl⟩ := h
  rfl

namespace Planner

/-- The tree below the projection: the joins, under the aggregate when there is one. -/
def grouped (q : Query) (joined : PlanNode) : Except PlanError PlanNode :=
  if q.isAggregate then aggregate q joined else pure joined

/-- The query's projection over `n`; `n` itself for `*`. -/
def projected (q : Query) (n : PlanNode) : Except PlanError PlanNode :=
  match q.projection with
  | some targets => project targets n
  | none => pure n

/-- The duplicate filter over `n` keyed on its output columns, for DISTINCT. -/
def deduplicated (q : Query) (n : PlanNode) : PlanNode :=
  if q.distinct then .distinct n.schema.columns n.schema n else n

/-- The sort over `n`, for ORDER BY. -/
def ordered (q : Query) (n : PlanNode) : Except PlanError PlanNode :=
  if q.orderBy.isEmpty then pure n else sort q.orderBy n

theorem finish_eq (q : Query) (J : PlanNode) :
    finish q J = grouped q J >>= fun A =>
      match q.projection with
      | some targets =>
        if q.orderBy.isEmpty then project targets A >>= fun P => pure (deduplicated q P)
        else projectSchema A.schema targets >>= fun projected =>
          if !q.orderBy.all fun k => projected.hasColumn k.column.name then
            sort q.orderBy A >>= fun S => project targets S >>= fun P => pure (deduplicated q P)
          else project targets A >>= fun P => sort q.orderBy (deduplicated q P)
      | none => ordered q (deduplicated q A) := by
  unfold finish grouped
  cases q.isAggregate <;> simp only [Bool.false_eq_true, if_false, if_true, pure_bind]
  · rcases q.projection with _ | targets <;>
      cases hd : q.distinct <;> cases he : q.orderBy.isEmpty <;>
      simp [ordered, deduplicated, hd, he]
  · congr 1
    funext A
    rcases q.projection with _ | targets <;>
      cases hd : q.distinct <;> cases he : q.orderBy.isEmpty <;>
      simp [ordered, deduplicated, hd, he]

/-- What each stage of finishing a plan keeps, finishing keeps: the aggregate, the
projection, the duplicate filter and the sort. -/
theorem finish_preserves (P : PlanNode → Prop) {q : Query}
    (hagg : ∀ n m, P n → aggregate q n = .ok m → P m)
    (hproj : ∀ ts n m, P n → project ts n = .ok m → P m)
    (hsort : ∀ ks n m, P n → sort ks n = .ok m → P m)
    (hdistinct : ∀ n, P n → P (.distinct n.schema.columns n.schema n))
    {joined root : PlanNode} (hj : P joined) (h : finish q joined = .ok root) : P root := by
  have hdedup : ∀ n, P n → P (deduplicated q n) := fun n hn => by
    unfold deduplicated
    split
    · exact hdistinct n hn
    · exact hn
  rw [finish_eq, bind_eq_ok] at h
  obtain ⟨A, hA, h⟩ := h
  have hPA : P A := by
    unfold grouped at hA
    split at hA
    · exact hagg _ _ hj hA
    · cases hA
      exact hj
  split at h
  · -- a projection, with the sort above it or, when a key is projected away, below it
    split at h
    · obtain ⟨Pn, hP, h⟩ := bind_eq_ok.1 h
      cases h
      exact hdedup _ (hproj _ _ _ hPA hP)
    · obtain ⟨_, -, h⟩ := bind_eq_ok.1 h
      split at h
      · obtain ⟨S, hS, h⟩ := bind_eq_ok.1 h
        obtain ⟨Pn, hP, h⟩ := bind_eq_ok.1 h
        cases h
        exact hdedup _ (hproj _ _ _ (hsort _ _ _ hPA hS) hP)
      · obtain ⟨Pn, hP, h⟩ := bind_eq_ok.1 h
        exact hsort _ _ _ (hdedup _ (hproj _ _ _ hPA hP)) h
  · -- no projection
    unfold ordered at h
    split at h
    · cases h
      exact hdedup _ hPA
    · exact hsort _ _ _ (hdedup _ hPA) h

end Planner

theorem joinTree_finish {q : Query} {joined root : PlanNode} (h : Planner.finish q joined = .ok root) :
    root.joinTree = joined.joinTree :=
  Planner.finish_preserves (·.joinTree = joined.joinTree)
    (fun _ _ hn h => (joinTree_aggregate h).trans hn) (fun _ _ _ hn h => (joinTree_project h).trans hn)
    (fun _ _ _ hn h => (joinTree_sort h).trans hn) (fun _ hn => hn) rfl h

/-! ## A successful plan -/

/-- What a successful plan is made of: the tables in scope, the buckets of the conjuncts,
one scan under its selections per table, the left-deep joins over them with the
conditions each join resolves first, the operators that finish the plan, and the dropped
conjuncts. -/
theorem plan_eq_ok {c : Catalog} {q : Query} {logs : List LogRecord} {P : Plan}
    (h : c.plan q = (logs, .ok P)) :
    ∃ scope cls first rest, Planner.resolveTables c q.tables = .ok scope ∧
      classify q.selection scope = .ok cls ∧ scope.map (Planner.scanOf cls) = first :: rest ∧
      Planner.finish q (Planner.joinAll first cls.joinConditions rest).1 = .ok P.root ∧
      P.dropped = cls.selections.filterMap (fun (r, e) =>
          if scope.any (·.reference = r) then none else some e) ++
        (Planner.joinAll first cls.joinConditions rest).2 := by
  unfold Catalog.plan at h
  split at h
  · cases h
  · rename_i scope hscope
    dsimp only at h
    split at h
    · simp at h
    split at h
    · cases h
    · rename_i cls hcls
      split at h
      · cases h
      · rename_i first rest hscans
        split at h
        · cases h
        · rename_i root hroot
          simp only [Prod.mk.injEq, Except.ok.injEq] at h
          obtain ⟨-, rfl⟩ := h
          exact ⟨scope, cls, first, rest, hscope, hcls, hscans, hroot, rfl⟩

theorem nodup_resolveTables {c : Catalog} {tables : List TableRef} {scope : List ScopeTable}
    (h : Planner.resolveTables c tables = .ok scope) : (scope.map (·.reference)).Nodup := by
  unfold Planner.resolveTables at h
  split at h
  · cases h
  dsimp only at h
  rw [bind_eq_ok] at h
  obtain ⟨st, hloop, h⟩ := h
  cases h
  -- the references seen so far are those of the tables resolved so far, each once
  obtain ⟨hseen, hnd⟩ : st.1 = st.2.map (·.reference) ∧ st.1.Nodup := by
    refine forIn_invariant (fun st : List String × List ScopeTable =>
      st.1 = st.2.map (·.reference) ∧ st.1.Nodup) ?_ ⟨rfl, List.nodup_nil⟩ hloop
    rintro t - ⟨seen, out⟩ s' ⟨hseen, hnd⟩ hstep
    dsimp only at hstep hseen hnd
    split at hstep
    · split at hstep
      · simp [throw, throwThe, MonadExceptOf.throw, bind, Except.bind] at hstep
      · rename_i hfresh
        simp only [pure, Except.pure, Except.ok.injEq, ForInStep.yield.injEq, reduceCtorEq,
          or_false] at hstep
        subst hstep
        simp only [List.contains_iff_mem] at hfresh
        refine ⟨by simp [hseen], List.nodup_append.2 ⟨hnd, by simp, ?_⟩⟩
        rintro a ha b hb rfl
        rw [List.mem_singleton] at hb
        exact hfresh (hb ▸ ha)
    · simp [throw, throwThe, MonadExceptOf.throw, bind, Except.bind] at hstep
  exact hseen ▸ hnd

/-! ## Placement -/

/-- Where planning puts a conjunct. -/
inductive Placement where
  /-- a selection over the scan of the table with this reference -/
  | select (reference : String)
  /-- a condition of the join with this index, bottom-up from 0 -/
  | join (index : Nat)
  /-- dropped: a selection on a table not in FROM -/
  | strayTable
  /-- dropped: a join condition that no join resolves -/
  | unresolved
deriving DecidableEq, Repr

/-- Where a qualified conjunct goes, with the tables `t :: ts` in scope. -/
def placement (t : ScopeTable) (ts : List ScopeTable) (e : Expr) : Placement :=
  match e.bucket t.reference with
  | some r => if (t :: ts).any (·.reference = r) then .select r else .strayTable
  | none =>
    match firstResolving (joinSchemas t.schema (ts.map (·.schema))) e with
    | some j => .join j
    | none => .unresolved

/-- The conjuncts placed at one place, in WHERE order. -/
def placed (t : ScopeTable) (ts : List ScopeTable) (cs : List Expr) (k : Placement) : List Expr :=
  cs.filter (placement t ts · = k)

section Placed

variable {t : ScopeTable} {ts : List ScopeTable} {e : Expr}

theorem placement_eq_select {r : String} (hr : r ∈ (t :: ts).map (·.reference)) :
    placement t ts e = .select r ↔ e.bucket t.reference = some r := by
  unfold placement
  have hany : (t :: ts).any (·.reference = r) = true := by
    obtain ⟨u, hu, rfl⟩ := List.mem_map.1 hr
    exact List.any_eq_true.2 ⟨u, hu, by simp⟩
  split
  · rename_i r' hb
    rw [hb]
    by_cases h : r' = r
    · subst h
      simp [hany]
    · split <;> simp [h]
  · split <;> simp_all

theorem placement_eq_join {j : Nat} :
    placement t ts e = .join j ↔
      e.bucket t.reference = none ∧ firstResolving (joinSchemas t.schema (ts.map (·.schema))) e = some j := by
  unfold placement
  split
  · split <;> simp_all
  · split <;> simp_all

theorem placement_eq_unresolved :
    placement t ts e = .unresolved ↔
      e.bucket t.reference = none ∧ firstResolving (joinSchemas t.schema (ts.map (·.schema))) e = none := by
  unfold placement
  split
  · split <;> simp_all
  · split <;> simp_all

theorem placement_eq_strayTable :
    placement t ts e = .strayTable ↔
      ∃ r, e.bucket t.reference = some r ∧ (t :: ts).any (·.reference = r) = false := by
  cases hb : e.bucket t.reference with
  | none =>
    simp only [placement, hb, reduceCtorEq, false_and, exists_false, iff_false]
    split <;> simp
  | some r =>
    simp only [placement, hb, Option.some.injEq, exists_eq_left']
    cases (t :: ts).any (·.reference = r) <;> simp

theorem placement_mem (e : Expr) :
    placement t ts e ∈ (t :: ts).map (fun u => Placement.select u.reference) ++
      (List.range ts.length).map .join ++ [.strayTable, .unresolved] := by
  unfold placement
  split
  · split
    · rename_i hany
      simp only [List.any_eq_true, decide_eq_true_eq] at hany
      obtain ⟨u, hu, rfl⟩ := hany
      simp only [List.mem_append, List.mem_map]
      exact .inl (.inl ⟨u, hu, rfl⟩)
    · simp
  · split
    · rename_i j hj
      have hlt : j < ts.length := by
        have := List.findIdx?_eq_some_iff_getElem.1 hj
        obtain ⟨hlt, -⟩ := this
        simpa [length_joinSchemas] using hlt
      simp [hlt]
    · simp

end Placed

theorem perm_flatMap_filter {α β : Type} [DecidableEq β] (f : α → β) :
    ∀ {K : List β} (l : List α), K.Nodup → (∀ a ∈ l, f a ∈ K) →
      (K.flatMap fun k => l.filter (f · = k)).Perm l
  | [], l, _, hcover => by
    cases l with
    | nil => simp
    | cons a l => exact absurd (hcover a (by simp)) (by simp)
  | k :: K, l, hK, hcover => by
    rw [List.nodup_cons] at hK
    obtain ⟨hk, hK⟩ := hK
    -- the other keys only see the elements whose key is not k
    have hrest : (K.flatMap fun k' => l.filter (f · = k')) =
        K.flatMap fun k' => (l.filter fun a => !decide (f a = k)).filter (f · = k') := by
      rw [List.flatMap_def, List.flatMap_def, List.map_congr_left]
      intro k' hk'
      rw [List.filter_filter]
      apply List.filter_congr
      intro a _
      by_cases h : f a = k'
      · subst h
        simp [show f a ≠ k from fun h => hk (h ▸ hk')]
      · simp [h]
    have hcover' : ∀ a ∈ l.filter (fun a => !decide (f a = k)), f a ∈ K := by
      intro a ha
      simp only [List.mem_filter, Bool.not_eq_eq_eq_not, Bool.not_true, decide_eq_false_iff_not] at ha
      simpa [ha.2] using hcover a ha.1
    rw [List.flatMap_cons, hrest]
    exact ((perm_flatMap_filter f _ hK hcover').append_left _).trans (List.filter_append_perm _ l)

/-- Every conjunct sits at exactly one of its places: on one scan, on one join, or among the
dropped ones. -/
theorem perm_placed (t : ScopeTable) (ts : List ScopeTable) (cs : List Expr)
    (hnd : ((t :: ts).map (·.reference)).Nodup) :
    (((t :: ts).map fun u => placed t ts cs (.select u.reference)).flatten ++
      ((List.range ts.length).map fun j => placed t ts cs (.join j)).flatten ++
      (placed t ts cs .strayTable ++ placed t ts cs .unresolved)).Perm cs := by
  have hK : ((t :: ts).map (fun u : ScopeTable => Placement.select u.reference) ++
      (List.range ts.length).map Placement.join ++ [Placement.strayTable, .unresolved]).Nodup := by
    have hsel : ((t :: ts).map (fun u : ScopeTable => Placement.select u.reference)).Nodup := by
      have : (((t :: ts).map (·.reference)).map Placement.select).Nodup :=
        List.Pairwise.map Placement.select (fun _ _ h e => h (Placement.select.inj e)) hnd
      rw [List.map_map] at this
      exact this
    have hjoin : ((List.range ts.length).map Placement.join).Nodup :=
      List.Pairwise.map Placement.join (fun _ _ h e => h (Placement.join.inj e)) List.nodup_range
    simp only [List.nodup_append, hsel, hjoin, true_and]
    simp only [List.mem_append, List.mem_map, List.mem_cons, List.mem_range, ne_eq]
    refine ⟨?_, ?_, ?_⟩
    · rintro _ ⟨_, _, rfl⟩ _ ⟨_, _, rfl⟩
      simp
    · simp
    · rintro _ (⟨_, _, rfl⟩ | ⟨_, _, rfl⟩) <;> simp
  have := perm_flatMap_filter (placement t ts) cs hK (fun e _ => placement_mem e)
  simpa [List.flatMap_def, List.map_map, placed, Function.comp_def, List.append_assoc] using this

/-! ## The buckets of classifying, as placements -/

section Buckets

variable {t : ScopeTable} {ts : List ScopeTable} (cs : List Expr)

theorem selectionsFor_eq_placed {u : ScopeTable} (hu : u ∈ t :: ts) :
    (Classification.ofConjuncts t.reference cs).selectionsFor u.reference =
      placed t ts cs (.select u.reference) := by
  rw [Classification.selectionsFor_ofConjuncts]
  apply List.filter_congr
  intro e _
  simp [placement_eq_select (List.mem_map_of_mem hu)]

theorem joinConditions_eq_placed (j : Nat) :
    (Classification.ofConjuncts t.reference cs).joinConditions.filter
        (firstResolving (joinSchemas t.schema (ts.map (·.schema))) · = some j) =
      placed t ts cs (.join j) := by
  simp only [Classification.ofConjuncts, placed, List.filter_filter]
  apply List.filter_congr
  intro e _
  cases hb : e.bucket t.reference <;> simp [placement_eq_join, hb]

theorem joinConditions_eq_unresolved :
    (Classification.ofConjuncts t.reference cs).joinConditions.filter
        (firstResolving (joinSchemas t.schema (ts.map (·.schema))) · = none) =
      placed t ts cs .unresolved := by
  simp only [Classification.ofConjuncts, placed, List.filter_filter]
  apply List.filter_congr
  intro e _
  cases hb : e.bucket t.reference <;> simp [placement_eq_unresolved, hb]

theorem strays_eq_placed :
    (Classification.ofConjuncts t.reference cs).selections.filterMap (fun (r, e) =>
        if (t :: ts).any (·.reference = r) then none else some e) =
      placed t ts cs .strayTable := by
  induction cs with
  | nil => rfl
  | cons e cs ih =>
    simp only [Classification.ofConjuncts, placed] at ih ⊢
    cases hb : e.bucket t.reference with
    | none =>
      rw [List.filterMap_cons_none (by simp [hb]),
        List.filter_cons_of_neg (by simp [placement_eq_strayTable, hb]), ih]
    | some r =>
      rw [List.filterMap_cons_some (b := (r, e)) (by simp [hb])]
      -- a selection is dropped exactly when its reference is not in scope
      cases hr : (t :: ts).any (·.reference = r)
      · rw [List.filterMap_cons_some (by simp only [hr]; rfl),
          List.filter_cons_of_pos (by rw [decide_eq_true_eq]; exact placement_eq_strayTable.2 ⟨r, hb, hr⟩),
          ih]
      · rw [List.filterMap_cons_none (by simp only [hr]; rfl),
          List.filter_cons_of_neg (by simp only [decide_eq_true_eq, placement_eq_strayTable, hb,
            Option.some.injEq, exists_eq_left', hr, Bool.true_eq_false, not_false_eq_true]), ih]

end Buckets

/-! ## The plan's join tree -/

namespace PlanNode

theorem leftDeep_of_selected {n : PlanNode} {input : String × List Expr}
    (h : n.selected = some input) : n.leftDeep = some ([input], []) := by
  cases n <;> simp_all [leftDeep, selected]

theorem joinTree_of_leftDeep {n : PlanNode} {x : List (String × List Expr) × List (List Expr)}
    (h : n.leftDeep = some x) : n.joinTree = n := by
  cases n <;> simp_all [leftDeep, selected, joinTree]

end PlanNode

theorem leftDeep_joinAll_scans (cls : Classification) (t : ScopeTable) (ts : List ScopeTable) :
    (Planner.joinAll (Planner.scanOf cls t) cls.joinConditions (ts.map (Planner.scanOf cls))).1.leftDeep =
        some ((t :: ts).map (fun u => (u.reference, cls.selectionsFor u.reference)),
          (List.range ts.length).map fun j => cls.joinConditions.filter
            (firstResolving (joinSchemas t.schema (ts.map (·.schema))) · = some j)) ∧
      (Planner.joinAll (Planner.scanOf cls t) cls.joinConditions (ts.map (Planner.scanOf cls))).2 =
        cls.joinConditions.filter (firstResolving (joinSchemas t.schema (ts.map (·.schema))) · = none) := by
  have hsch : (ts.map (Planner.scanOf cls)).map PlanNode.schema = ts.map (·.schema) := by
    simp [List.map_map, Function.comp_def, (selected_scanOf cls _).2]
  obtain ⟨h1, h2⟩ := leftDeep_joinAll (ts.map (Planner.scanOf cls))
    (ts.map fun u => (u.reference, cls.selectionsFor u.reference)) (Planner.scanOf cls t)
    [(t.reference, cls.selectionsFor t.reference)] [] cls.joinConditions
    (PlanNode.leftDeep_of_selected (selected_scanOf cls t).1)
    (by simp [List.map_map, Function.comp_def, (selected_scanOf cls _).1])
  rw [hsch, (selected_scanOf cls t).2, List.length_map] at h1
  rw [hsch, (selected_scanOf cls t).2] at h2
  exact ⟨by simpa using h1, h2⟩

/-- The joins the planner builds over the tables in scope `t :: ts` for the qualified
conjuncts `cs`, and the conditions no join takes: left-deep over the scans in FROM order,
each scan under its selections, each condition on the first join that resolves it. -/
def joinedScans (t : ScopeTable) (ts : List ScopeTable) (cs : List Expr) : PlanNode × List Expr :=
  Planner.joinAll (Planner.scanOf (Classification.ofConjuncts t.reference cs) t)
    (Classification.ofConjuncts t.reference cs).joinConditions
    (ts.map (Planner.scanOf (Classification.ofConjuncts t.reference cs)))

/-- Each scan of the planner's joins carries the conjuncts placed on it and each join the
conditions placed on it, in WHERE order. -/
theorem leftDeep_joinedScans (t : ScopeTable) (ts : List ScopeTable) (cs : List Expr) :
    (joinedScans t ts cs).1.leftDeep = some
      ((t :: ts).map (fun u => (u.reference, placed t ts cs (.select u.reference))),
        (List.range ts.length).map fun j => placed t ts cs (.join j)) := by
  rw [joinedScans, (leftDeep_joinAll_scans (Classification.ofConjuncts t.reference cs) t ts).1]
  have hsel : (t :: ts).map (fun u => (u.reference,
        (Classification.ofConjuncts t.reference cs).selectionsFor u.reference)) =
      (t :: ts).map fun u => (u.reference, placed t ts cs (.select u.reference)) :=
    List.map_congr_left fun u hu => by rw [selectionsFor_eq_placed cs hu]
  simp only [hsel, joinConditions_eq_placed]

/-- A successful plan finishes the planner's joins of the tables in scope over the
qualified conjuncts, and drops the conjuncts on a stray table, then those no join
resolves. -/
theorem plan_eq_joined {c : Catalog} {q : Query} {logs : List LogRecord} {P : Plan}
    (h : c.plan q = (logs, .ok P)) :
    ∃ t ts cs, Planner.resolveTables c q.tables = .ok (t :: ts) ∧
      qualifiedConjuncts (t :: ts) q.selection = .ok cs ∧
      Planner.finish q (joinedScans t ts cs).1 = .ok P.root ∧
      P.dropped = placed t ts cs .strayTable ++ placed t ts cs .unresolved := by
  obtain ⟨scope, cls, first, rest, hscope, hcls, hscans, hroot, hdropped⟩ := plan_eq_ok h
  obtain ⟨t, ts, rfl⟩ : ∃ t ts, scope = t :: ts := by
    cases scope with
    | nil => cases hscans
    | cons t ts => exact ⟨t, ts, rfl⟩
  simp only [List.map_cons, List.cons.injEq] at hscans
  obtain ⟨rfl, rfl⟩ := hscans
  rw [classify_eq rfl] at hcls
  obtain ⟨cs, hcs, rfl⟩ : ∃ cs, qualifiedConjuncts (t :: ts) q.selection = .ok cs ∧
      Classification.ofConjuncts t.reference cs = cls := by
    cases hq : qualifiedConjuncts (t :: ts) q.selection with
    | error e => rw [hq] at hcls; cases hcls
    | ok cs => rw [hq] at hcls; cases hcls; exact ⟨cs, rfl, rfl⟩
  refine ⟨t, ts, cs, hscope, hcs, hroot, ?_⟩
  rw [hdropped, (leftDeep_joinAll_scans (Classification.ofConjuncts t.reference cs) t ts).2,
    strays_eq_placed, joinConditions_eq_unresolved]

end CsvQuery
