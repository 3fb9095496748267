import CsvQuery.Proofs.Pipeline.Product
import CsvQuery.Proofs.Pipeline.Finish
import CsvQuery.Proofs.Plan.Qualify

/-!
# Pushing selections down keeps the result

The planner evaluates each WHERE conjunct as early as it can: a conjunct on one table is a
selection over that table's scan, a conjunct over several tables a condition of the first
join whose schema resolves it. The plan it replaces is the plain product of the scans in
FROM order under one selection per conjunct, each conjunct as written and bound to the
whole FROM schema (`Catalog.unpushed`), leaving out the conjuncts that the plan drops.

`pushdown_keeps_result` says the two plans answer alike, when the FROM clause, the catalog
columns and the name parts of the WHERE columns hold no dot, the WHERE clause is a
predicate, and each table's data file reads to the end. The argument:

* the planner's join tree is bindable and separated (`joinedScans_bindable`,
  `joinedScans_separated`), so its rows are the product of its scans filtered by all of
  its predicates at once, read through the whole FROM schema (`Bindable.rows_eq_filter`);
* its predicates are the resolved conjuncts that the plan does not drop
  (`mem_predicates_joinedScans`), and a resolved conjunct reads the same values of the whole
  FROM schema as the conjunct as written (`PlainScope.truth_qualifyAll`);
* so both join trees build to pipelines with the same rows, and the operators that finish
  the plan see the same stream (`Catalog.execute_withJoinTree`).
-/

namespace CsvQuery

namespace PlanNode

/-! ## Selections stacked over a tree -/

/-- The selections `ws` stacked over `n` in order, each bound to the schema `s`. -/
def selectAll (s : Schema) (ws : List Expr) (n : PlanNode) : PlanNode :=
  ws.foldl (fun n w => .select w s n) n

@[simp] theorem selectAll_nil (s : Schema) (n : PlanNode) : selectAll s [] n = n := rfl

theorem selectAll_cons (s : Schema) (w : Expr) (ws : List Expr) (n : PlanNode) :
    selectAll s (w :: ws) n = selectAll s ws (.select w s n) := rfl

theorem scanOf_eq (cls : Classification) (u : ScopeTable) :
    Planner.scanOf cls u =
      selectAll u.schema (cls.selectionsFor u.reference) (.scan u.table u.reference u.schema) := rfl

section SelectAll

variable {s : Schema}

theorem rows_selectAll (src : String → List Tuple) :
    ∀ (ws : List Expr) (n : PlanNode),
      (selectAll s ws n).rows src = (n.rows src).filter fun x => ws.all (·.truth (s.valuation x))
  | [], n => (List.filter_eq_self.2 fun _ _ => rfl).symm
  | w :: ws, n => by
    rw [selectAll_cons, rows_selectAll src ws, rows, List.filter_filter]
    apply List.filter_congr
    intro x _
    simp [Bool.and_comm]

theorem predicates_selectAll : ∀ (ws : List Expr) (n : PlanNode),
    (selectAll s ws n).predicates = n.predicates ++ ws
  | [], n => by simp
  | w :: ws, n => by
    rw [selectAll_cons, predicates_selectAll ws]
    simp [predicates]

theorem scans_selectAll : ∀ (ws : List Expr) (n : PlanNode), (selectAll s ws n).scans = n.scans
  | [], _ => rfl
  | w :: ws, n => by rw [selectAll_cons, scans_selectAll ws]; rfl

theorem separated_selectAll : ∀ (ws : List Expr) (n : PlanNode),
    (selectAll s ws n).Separated ↔ n.Separated
  | [], _ => .rfl
  | w :: ws, n => by rw [selectAll_cons, separated_selectAll ws]; rfl

theorem Bindable.selectAll {ws : List Expr} {n : PlanNode} (hn : n.Bindable) (hs : n.schema = s)
    (hw : ∀ w ∈ ws, s.Binds w) : (selectAll s ws n).Bindable ∧ (selectAll s ws n).schema = s := by
  induction ws generalizing n with
  | nil => exact ⟨hn, hs⟩
  | cons w ws ih =>
    subst hs
    exact ih (Bindable.select hn (hw w List.mem_cons_self)) rfl
      fun w' hw' => hw w' (List.mem_cons_of_mem w hw')

end SelectAll

/-! ## Predicates of a left-deep tree -/

theorem predicates_of_selected : ∀ {n : PlanNode} {r : String} {ps : List Expr},
    n.selected = some (r, ps) → n.predicates = ps
  | .scan .., r, ps, h => by
    simp only [selected, Option.some.injEq, Prod.mk.injEq] at h
    rw [← h.2]
    rfl
  | .select p _ n, r, ps, h => by
    simp only [selected, Option.map_eq_some_iff, Prod.exists, Prod.mk.injEq] at h
    obtain ⟨r', ps', hn, -, rfl⟩ := h
    simp [predicates, predicates_of_selected hn]
  | .join .., _, _, h | .aggregate .., _, _, h | .project .., _, _, h | .distinct .., _, _, h
  | .sort .., _, _, h => by simp [selected] at h

theorem mem_predicates_of_leftDeep {e : Expr} :
    ∀ {n : PlanNode} {ins : List (String × List Expr)} {conds : List (List Expr)},
      n.leftDeep = some (ins, conds) →
        (e ∈ n.predicates ↔ (∃ i ∈ ins, e ∈ i.2) ∨ ∃ cs ∈ conds, e ∈ cs)
  | .join cs _ l r, ins, conds, h => by
    simp only [leftDeep] at h
    split at h
    · rename_i ins' conds' input hl hr
      simp only [Option.some.injEq, Prod.mk.injEq] at h
      obtain ⟨rfl, rfl⟩ := h
      rw [predicates, List.mem_append, List.mem_append, mem_predicates_of_leftDeep hl,
        predicates_of_selected hr]
      simp only [List.mem_append, List.mem_singleton]
      constructor
      · rintro (((h | ⟨cs', hcs', he⟩) | he) | he)
        · exact .inl (h.imp fun i hi => ⟨.inl hi.1, hi.2⟩)
        · exact .inr ⟨cs', .inl hcs', he⟩
        · exact .inl ⟨input, .inr rfl, he⟩
        · exact .inr ⟨cs, .inr rfl, he⟩
      · rintro (⟨i, hi | rfl, he⟩ | ⟨cs', hcs' | rfl, he⟩)
        · exact .inl (.inl (.inl ⟨i, hi, he⟩))
        · exact .inl (.inr he)
        · exact .inl (.inl (.inr ⟨cs', hcs', he⟩))
        · exact .inr he
    · cases h
  | .scan .., ins, conds, h | .select .., ins, conds, h => by
    simp only [leftDeep, Option.map_eq_some_iff, Prod.mk.injEq] at h
    obtain ⟨input, hsel, rfl, rfl⟩ := h
    simp [predicates_of_selected hsel]
  | .aggregate .., _, _, h | .project .., _, _, h | .distinct .., _, _, h | .sort .., _, _, h => by
    simp [leftDeep, selected] at h

end PlanNode

/-! ## The planner's joins -/

namespace Planner

theorem joinAll_cons (root : PlanNode) (pending : List Expr) (right : PlanNode)
    (rest : List PlanNode) :
    joinAll root pending (right :: rest) =
      joinAll (.join (pending.filter ((root.schema.combine right.schema).resolvesAll ·))
          (root.schema.combine right.schema) root right)
        (pending.filter fun e => !(root.schema.combine right.schema).resolvesAll e) rest := rfl

theorem schema_joinAll : ∀ (rights : List PlanNode) (root : PlanNode) (pending : List Expr),
    (joinAll root pending rights).1.schema =
      ⟨root.schema.columns ++ rights.flatMap (·.schema.columns)⟩
  | [], root, _ => by simp [joinAll]
  | right :: rest, root, pending => by
    rw [joinAll_cons, schema_joinAll rest]
    simp [PlanNode.schema, Schema.combine]

theorem scans_joinAll : ∀ (rights : List PlanNode) (root : PlanNode) (pending : List Expr),
    (joinAll root pending rights).1.scans = root.scans ++ rights.flatMap PlanNode.scans
  | [], root, _ => by simp [joinAll]
  | right :: rest, root, pending => by
    rw [joinAll_cons, scans_joinAll rest]
    simp [PlanNode.scans]

end Planner

theorem Schema.binds_of_resolvesAll {s : Schema} {e : Expr} (hp : e.isPredicate)
    (h : s.resolvesAll e) : s.Binds e := by
  refine ⟨hp, fun c hc => ?_⟩
  have hall := List.all_eq_true.1 h c.name (Expr.mem_columnNames.2 ⟨c, hc, rfl⟩)
  simpa [Schema.hasColumn] using hall

namespace PlanNode

theorem Bindable.joinAll : ∀ {rights : List PlanNode} {root : PlanNode} {pending : List Expr},
    root.Bindable → (∀ r ∈ rights, r.Bindable) → (∀ e ∈ pending, e.isPredicate) →
      (Planner.joinAll root pending rights).1.Bindable
  | [], _, _, hroot, _, _ => hroot
  | right :: rest, root, pending, hroot, hrights, hpending => by
    rw [Planner.joinAll_cons]
    refine Bindable.joinAll ?_ (fun r hr => hrights r (List.mem_cons_of_mem right hr))
      fun e he => hpending e (List.mem_filter.1 he).1
    refine Bindable.join hroot (hrights right List.mem_cons_self) fun e he => ?_
    rw [List.mem_filter] at he
    exact Schema.binds_of_resolvesAll (hpending e he.1) he.2

theorem Separated.joinAll :
    ∀ {rights : List PlanNode} {root : PlanNode} {pending : List Expr},
      root.Separated → root.schema.Plain → (∀ r ∈ rights, r.Separated ∧ r.schema.Plain) →
      (∀ r ∈ rights, ∀ e ∈ r.predicates, ∀ c ∈ e.columns, root.schema.indexOf c.name = none) →
      rights.Pairwise (fun r r' => ∀ e ∈ r'.predicates, ∀ c ∈ e.columns, r.schema.indexOf c.name = none) →
      (Planner.joinAll root pending rights).1.Separated
  | [], _, _, hroot, _, _, _, _ => hroot
  | right :: rest, root, pending, hroot, hplain, hrights, hfree, hpair => by
    rw [Planner.joinAll_cons]
    rw [List.pairwise_cons] at hpair
    have hright := hrights right List.mem_cons_self
    refine Separated.joinAll ⟨hroot, hright.1, hfree right List.mem_cons_self⟩
      (hplain.combine hright.2) (fun r hr => hrights r (List.mem_cons_of_mem right hr)) ?_ hpair.2
    -- a later input's predicates resolve neither in the root nor in this right input
    intro r hr e he c hc
    show (root.schema.combine right.schema).indexOf c.name = none
    rw [Schema.indexOf_combine hplain hright.2, hfree r (List.mem_cons_of_mem right hr) e he c hc,
      hpair.1 r hr e he c hc]
    rfl

end PlanNode

/-! ## The planner's joins over a plain scope -/

section Joined

variable {t : ScopeTable} {ts : List ScopeTable} {cs : List Expr}

theorem mem_placed {k : Placement} {e : Expr} :
    e ∈ placed t ts cs k ↔ e ∈ cs ∧ placement t ts e = k := by
  simp [placed]

/-- The predicates of the planner's joins are the conjuncts that are not dropped. -/
theorem mem_predicates_joinedScans {e : Expr} :
    e ∈ (joinedScans t ts cs).1.predicates ↔
      e ∈ cs ∧ e ∉ placed t ts cs .strayTable ++ placed t ts cs .unresolved := by
  rw [PlanNode.mem_predicates_of_leftDeep (leftDeep_joinedScans t ts cs)]
  simp only [List.mem_map, List.mem_range, List.mem_append, mem_placed]
  constructor
  · rintro (⟨_, ⟨u, -, rfl⟩, he⟩ | ⟨_, ⟨j, -, rfl⟩, he⟩) <;> rw [mem_placed] at he <;>
      simp [he.1, he.2]
  · rintro ⟨he, hnot⟩
    -- a conjunct that is not dropped sits on a scan or on a join
    rcases List.mem_append.1 (@placement_mem t ts e) with hk | hk
    · rcases List.mem_append.1 hk with hk | hk
      · obtain ⟨u, hu, hk⟩ := List.mem_map.1 hk
        exact .inl ⟨_, ⟨u, hu, rfl⟩, mem_placed.2 ⟨he, hk.symm⟩⟩
      · obtain ⟨j, hj, hk⟩ := List.mem_map.1 hk
        exact .inr ⟨_, ⟨j, List.mem_range.1 hj, rfl⟩, mem_placed.2 ⟨he, hk.symm⟩⟩
    · simp only [List.mem_cons, List.mem_nil_iff, or_false] at hk
      rcases hk with hk | hk
      · exact absurd (.inl ⟨he, hk⟩) hnot
      · exact absurd (.inr ⟨he, hk⟩) hnot

theorem schema_scanOf (cls : Classification) (u : ScopeTable) :
    (Planner.scanOf cls u).schema = u.schema :=
  (selected_scanOf cls u).2

theorem schema_joinedScans : (joinedScans t ts cs).1.schema = Schema.ofScope (t :: ts) := by
  rw [joinedScans, Planner.schema_joinAll, schema_scanOf]
  simp [Schema.ofScope, List.flatMap_map, schema_scanOf]

theorem scans_joinedScans :
    (joinedScans t ts cs).1.scans = (t :: ts).map fun u => (u.table, u.schema) := by
  rw [joinedScans, Planner.scans_joinAll, List.flatMap_map, List.map_eq_flatMap]
  simp [PlanNode.scanOf_eq, PlanNode.scans_selectAll, PlanNode.scans]

theorem forall_scans_joinedScans {P : String × Schema → Prop}
    (h : ∀ u ∈ t :: ts, P (u.table, u.schema)) : ∀ p ∈ (joinedScans t ts cs).1.scans, P p := by
  rw [scans_joinedScans]
  intro p hp
  obtain ⟨u, hu, rfl⟩ := List.mem_map.1 hp
  exact h u hu

variable (hcs : ∀ e ∈ cs, e.isPredicate ∧ Qualified (t :: ts) e)
include hcs

theorem qualifier_of_selection {u : ScopeTable} {e : Expr}
    (he : e ∈ (Classification.ofConjuncts t.reference cs).selectionsFor u.reference) :
    ∀ c ∈ e.columns, c.qualifier = some u.reference := by
  rw [Classification.selectionsFor_ofConjuncts, List.mem_filter] at he
  exact (hcs e he.1).2.qualifier_of_bucket (of_decide_eq_true he.2)

theorem bindable_scanOf {u : ScopeTable} (hu : u ∈ t :: ts) :
    (Planner.scanOf (Classification.ofConjuncts t.reference cs) u).Bindable := by
  rw [PlanNode.scanOf_eq]
  refine (PlanNode.Bindable.selectAll (.scan _ _ _) rfl fun e he => ⟨?_, fun c hc => ?_⟩).1
  · rw [Classification.selectionsFor_ofConjuncts, List.mem_filter] at he
    exact (hcs e he.1).1
  · have hq := qualifier_of_selection hcs he c hc
    have he' : e ∈ cs := by
      rw [Classification.selectionsFor_ofConjuncts, List.mem_filter] at he
      exact he.1
    obtain ⟨-, r, hr, hres⟩ := (hcs e he').2 c hc
    exact hres u hu (Option.some.inj (hq.symm.trans hr))

theorem indexOf_selection_other (hs : PlainScope (t :: ts)) {u v : ScopeTable} (hu : u ∈ t :: ts) (hv : v ∈ t :: ts)
    (hne : v.reference ≠ u.reference) {e : Expr}
    (he : e ∈ (Planner.scanOf (Classification.ofConjuncts t.reference cs) u).predicates) :
    ∀ c ∈ e.columns, v.schema.indexOf c.name = none := by
  rw [PlanNode.scanOf_eq, PlanNode.predicates_selectAll] at he
  intro c hc
  have hq := qualifier_of_selection hcs (List.mem_append.1 he |>.resolve_left nofun) c hc
  have hname : c.name = u.reference ++ "." ++ c.column := by simp [ColumnRef.name, hq]
  rw [hname]
  exact hs.indexOf_other hv (hs.table u hu).1 hne

/-- The planner's joins over a plain scope bind every selection and condition. -/
theorem joinedScans_bindable : (joinedScans t ts cs).1.Bindable := by
  refine PlanNode.Bindable.joinAll (bindable_scanOf hcs List.mem_cons_self) ?_ fun e he => ?_
  · intro r hr
    obtain ⟨u, hu, rfl⟩ := List.mem_map.1 hr
    exact bindable_scanOf hcs (List.mem_cons_of_mem t hu)
  · simp only [Classification.ofConjuncts, List.mem_filter] at he
    exact (hcs e he.1).1

/-- No selection of a later table names a column of an earlier one. -/
theorem joinedScans_separated (hs : PlainScope (t :: ts)) : (joinedScans t ts cs).1.Separated := by
  have hsep : ∀ u : ScopeTable, (Planner.scanOf (Classification.ofConjuncts t.reference cs) u).Separated :=
    fun u => by rw [PlanNode.scanOf_eq, PlanNode.separated_selectAll]; trivial
  have hplain : ∀ u ∈ t :: ts, (Planner.scanOf (Classification.ofConjuncts t.reference cs) u).schema.Plain :=
    fun u hu => by rw [schema_scanOf]; exact hs.schema_plain hu
  have hnd := hs.nodup
  rw [List.map_cons, List.nodup_cons] at hnd
  refine PlanNode.Separated.joinAll (hsep t) (hplain t List.mem_cons_self) ?_ ?_ ?_
  · intro r hr
    obtain ⟨u, hu, rfl⟩ := List.mem_map.1 hr
    exact ⟨hsep u, hplain u (List.mem_cons_of_mem t hu)⟩
  · -- the first table's schema resolves no column of a later table's selections
    intro r hr e he c hc
    obtain ⟨u, hu, rfl⟩ := List.mem_map.1 hr
    rw [schema_scanOf]
    exact indexOf_selection_other hcs hs (List.mem_cons_of_mem t hu) List.mem_cons_self
      (fun h => hnd.1 (h ▸ List.mem_map_of_mem hu)) he c hc
  · rw [List.pairwise_map]
    refine (List.pairwise_map.1 hnd.2).imp_of_mem fun hv hu hne e he c hc => ?_
    rw [schema_scanOf]
    exact indexOf_selection_other hcs hs (List.mem_cons_of_mem t hu) (List.mem_cons_of_mem t hv)
      hne he c hc

end Joined

/-! ## The plan with its selections lifted -/

/-- The WHERE conjuncts as written, left to right, whose resolved form is not among
`dropped`. -/
def keptConjuncts (scope : List ScopeTable) (selection : Option Expr) (dropped : List Expr) :
    List Expr :=
  ((selection.map Expr.conjuncts).getD []).filter fun w =>
    match ScopeTable.qualifyAll scope w with
    | .ok e => decide (e ∉ dropped)
    | .error _ => false

/-- The plan with its selections and join conditions lifted: the plain product of its scans
in FROM order, under one selection per conjunct as written that the plan does not drop,
each bound to the whole FROM schema, with the plan's finishing operators over it. -/
def Catalog.unpushed (c : Catalog) (q : Query) (P : Plan) : Plan :=
  let scope := (Planner.resolveTables c q.tables).toOption.getD []
  { P with
    root := P.root.withJoinTree <|
      PlanNode.selectAll (Schema.ofScope scope) (keptConjuncts scope q.selection P.dropped)
        P.root.joinTree.unfiltered }

section Lifted

variable {scope : List ScopeTable} {sel : Option Expr} {cs : List Expr}

theorem mem_keptConjuncts {dropped : List Expr} {w : Expr} :
    w ∈ keptConjuncts scope sel dropped ↔ w ∈ (sel.map Expr.conjuncts).getD [] ∧
      ∃ e, ScopeTable.qualifyAll scope w = .ok e ∧ e ∉ dropped := by
  unfold keptConjuncts
  rw [List.mem_filter]
  cases h : ScopeTable.qualifyAll scope w <;> simp

theorem mem_qualifiedConjuncts (h : qualifiedConjuncts scope sel = .ok cs) {e : Expr} :
    e ∈ cs ↔ ∃ w ∈ (sel.map Expr.conjuncts).getD [], ScopeTable.qualifyAll scope w = .ok e := by
  cases sel with
  | none =>
    cases h
    simp
  | some p => exact mem_of_mapM_eq_ok h e

theorem conjunct_of_where
    (hwhere : ∀ p, sel = some p → p.isPredicate ∧ ∀ col ∈ p.columns, DotFree col.column)
    {w : Expr} (hw : w ∈ (sel.map Expr.conjuncts).getD []) :
    w.isPredicate ∧ ∀ col ∈ w.columns, DotFree col.column := by
  cases sel with
  | none => cases hw
  | some p =>
    obtain ⟨hp, hd⟩ := hwhere p rfl
    have hw' : w ∈ p.flatten := by simpa [Expr.conjuncts_eq_flatten] using hw
    exact ⟨Expr.isPredicate_of_mem_flatten hp hw', fun col hc =>
      hd col (Expr.columns_of_mem_flatten hw' col hc)⟩

/-- A resolved conjunct reads the same values of the whole FROM schema as the conjunct as
written. -/
theorem PlainScope.truth_qualifyAll (hs : PlainScope scope) {w e : Expr}
    (h : ScopeTable.qualifyAll scope w = .ok e) (hw : ∀ c ∈ w.columns, DotFree c.column)
    (x : Tuple) :
    e.truth ((Schema.ofScope scope).valuation x) = w.truth ((Schema.ofScope scope).valuation x) := by
  obtain ⟨hcols, rfl⟩ := ScopeTable.qualifyAll_eq_ok h
  rw [Expr.truth_mapColumns]
  apply Expr.truth_congr
  intro c hc
  obtain ⟨c', hq⟩ := hcols c hc
  simp only [Function.comp_apply, hq, Except.toOption, Option.getD_some, Schema.valuation,
    Schema.lookup]
  rw [hs.indexOf_qualify (hw c hc) hq]

theorem PlainScope.binds_of_qualifyAll (hs : PlainScope scope) {w e : Expr}
    (h : ScopeTable.qualifyAll scope w = .ok e)
    (hw : w.isPredicate ∧ ∀ c ∈ w.columns, DotFree c.column)
    (he : ∀ c ∈ e.columns, ((Schema.ofScope scope).indexOf c.name).isSome) :
    (Schema.ofScope scope).Binds w := by
  obtain ⟨hcols, rfl⟩ := ScopeTable.qualifyAll_eq_ok h
  refine ⟨hw.1, fun c hc => ?_⟩
  obtain ⟨c', hq⟩ := hcols c hc
  rw [← hs.indexOf_qualify (hw.2 c hc) hq]
  apply he
  rw [Expr.columns_mapColumns]
  exact List.mem_map.2 ⟨c, hc, by simp [hq, Except.toOption]⟩

end Lifted

section Rows

variable {c : Catalog} {files : FileTree} {t : ScopeTable} {ts : List ScopeTable}
  {sel : Option Expr} {cs : List Expr}

theorem PlainScope.qualified_conjuncts (hs : PlainScope (t :: ts))
    (hcs : qualifiedConjuncts (t :: ts) sel = .ok cs)
    (hwhere : ∀ p, sel = some p → p.isPredicate ∧ ∀ col ∈ p.columns, DotFree col.column) :
    ∀ e ∈ cs, e.isPredicate ∧ Qualified (t :: ts) e := by
  intro e he
  obtain ⟨w, hw, hwe⟩ := (mem_qualifiedConjuncts hcs).1 he
  have hw' := conjunct_of_where hwhere hw
  obtain ⟨-, rfl⟩ := ScopeTable.qualifyAll_eq_ok hwe
  exact ⟨by rw [Expr.isPredicate_mapColumns]; exact hw'.1, hs.qualified hwe hw'.2⟩

theorem PlainScope.binds_keptConjuncts (hs : PlainScope (t :: ts))
    (hcs : qualifiedConjuncts (t :: ts) sel = .ok cs)
    (hwhere : ∀ p, sel = some p → p.isPredicate ∧ ∀ col ∈ p.columns, DotFree col.column) :
    ∀ w ∈ keptConjuncts (t :: ts) sel (placed t ts cs .strayTable ++ placed t ts cs .unresolved),
      (Schema.ofScope (t :: ts)).Binds w := by
  have hbind := joinedScans_bindable (hs.qualified_conjuncts hcs hwhere)
  have hplain : ∀ p ∈ (joinedScans t ts cs).1.scans, p.2.Plain :=
    forall_scans_joinedScans fun u hu => hs.schema_plain hu
  intro w hw
  obtain ⟨hw, e, hwe, hnot⟩ := mem_keptConjuncts.1 hw
  have he := mem_predicates_joinedScans.2 ⟨(mem_qualifiedConjuncts hcs).2 ⟨w, hw, hwe⟩, hnot⟩
  refine hs.binds_of_qualifyAll hwe (conjunct_of_where hwhere hw) fun col hc => ?_
  rw [← schema_joinedScans]
  exact hbind.resolves hplain e he col hc

/-- The predicates of the planner's joins hold of a row exactly when the conjuncts as
written that the plan keeps do, both read through the whole FROM schema. -/
theorem all_predicates_joinedScans (hs : PlainScope (t :: ts))
    (hcs : qualifiedConjuncts (t :: ts) sel = .ok cs)
    (hwhere : ∀ p, sel = some p → p.isPredicate ∧ ∀ col ∈ p.columns, DotFree col.column)
    (x : Tuple) :
    (joinedScans t ts cs).1.predicates.all (·.truth ((Schema.ofScope (t :: ts)).valuation x)) =
      (keptConjuncts (t :: ts) sel (placed t ts cs .strayTable ++ placed t ts cs .unresolved)).all
        (·.truth ((Schema.ofScope (t :: ts)).valuation x)) := by
  rw [Bool.eq_iff_iff, List.all_eq_true, List.all_eq_true]
  constructor
  · intro hall w hw
    obtain ⟨hw, e, hwe, hdrop⟩ := mem_keptConjuncts.1 hw
    have he : e ∈ cs := (mem_qualifiedConjuncts hcs).2 ⟨w, hw, hwe⟩
    rw [← hs.truth_qualifyAll hwe (conjunct_of_where hwhere hw).2 x]
    exact hall e (mem_predicates_joinedScans.2 ⟨he, hdrop⟩)
  · intro hall e he
    obtain ⟨he, hdrop⟩ := mem_predicates_joinedScans.1 he
    obtain ⟨w, hw, hwe⟩ := (mem_qualifiedConjuncts hcs).1 he
    rw [hs.truth_qualifyAll hwe (conjunct_of_where hwhere hw).2 x]
    exact hall w (mem_keptConjuncts.2 ⟨hw, e, hwe, hdrop⟩)

theorem readsRows_of_resolveTables {tables : List TableRef} {scope : List ScopeTable}
    (h : Planner.resolveTables c tables = .ok scope)
    (hstocked : ∀ t ∈ tables, ∀ d, c.table? t.table = some d → d.Stocked files) :
    ∀ u ∈ scope, c.ReadsRows files u.table u.schema.size := by
  intro u hu
  obtain ⟨tr, htr, d, hd, rfl⟩ := resolveTables_spec h u hu
  have hd' : c.table? d.name = some d := by rw [Catalog.table?_name hd]; exact hd
  simpa [TableDef.schema, Schema.ofTable, Schema.size] using
    Catalog.readsRows_of_stocked (hstocked tr htr d hd) hd'

end Rows

/-- Pushing selections down keeps the result. For a query whose FROM references, catalog
columns and WHERE column names hold no dot and whose WHERE clause is a predicate, over
tables whose data files read to the end, running the plan answers what running it with its
selections and join conditions lifted answers: the plain product of its scans, under the
conjuncts as written that the plan does not drop, each read through the whole FROM
schema. -/
theorem pushdown_keeps_result {c : Catalog} {q : Query} {logs : List LogRecord} {P : Plan}
    (files : FileTree) (hplan : c.plan q = (logs, .ok P))
    (hwhere : ∀ p, q.selection = some p → p.isPredicate ∧ ∀ col ∈ p.columns, DotFree col.column)
    (hrefs : ∀ t ∈ q.tables, DotFree t.reference)
    (htables : ∀ t ∈ q.tables, ∀ d, c.table? t.table = some d →
      (∀ col ∈ d.columns, DotFree col) ∧ d.Stocked files) :
    (c.execute files P).2 = (c.execute files (c.unpushed q P)).2 := by
  obtain ⟨t, ts, cs, hscope, hcs, hroot, hdrop⟩ := plan_eq_joined hplan
  have hs := plainScope_resolveTables hscope hrefs fun u hu d hd => (htables u hu d hd).1
  have hJ : P.root.joinTree = (joinedScans t ts cs).1 := by
    rw [joinTree_finish hroot, PlanNode.joinTree_of_leftDeep (leftDeep_joinedScans t ts cs)]
  have hqual := hs.qualified_conjuncts hcs hwhere
  have hbind := joinedScans_bindable hqual
  have hplain : ∀ p ∈ (joinedScans t ts cs).1.scans, p.2.Plain :=
    forall_scans_joinedScans fun u hu => hs.schema_plain hu
  have hreads : ∀ p ∈ (joinedScans t ts cs).1.scans, c.ReadsRows files p.1 p.2.size :=
    forall_scans_joinedScans <|
      readsRows_of_resolveTables hscope fun tr htr d hd => (htables tr htr d hd).2
  -- the lifted tree: the product of the scans under the kept conjuncts
  obtain ⟨hbase, hbase_schema, hbase_scans⟩ := hbind.unfiltered
  have hkept : ∀ w ∈ keptConjuncts (t :: ts) q.selection P.dropped, (Schema.ofScope (t :: ts)).Binds w := by
    rw [hdrop]
    exact hs.binds_keptConjuncts hcs hwhere
  obtain ⟨hlifted, hlifted_schema⟩ := PlanNode.Bindable.selectAll hbase
    (hbase_schema.trans schema_joinedScans) hkept
  have hunp : c.unpushed q P =
      { P with
        root := P.root.withJoinTree <|
          PlanNode.selectAll (Schema.ofScope (t :: ts)) (keptConjuncts (t :: ts) q.selection P.dropped)
            (joinedScans t ts cs).1.unfiltered } := by
    simp only [Catalog.unpushed, hscope, hJ]
    rfl
  rw [hunp]
  refine (Catalog.execute_withJoinTree ?_ ?_).symm
  · rw [hlifted_schema, hJ, schema_joinedScans]
  · rw [hJ]
    obtain ⟨op, hop, hrest⟩ := Catalog.build_rows hbind hreads
    obtain ⟨op', hop', hrest'⟩ := Catalog.build_rows hlifted
      (by rw [PlanNode.scans_selectAll, hbase_scans]; exact hreads)
    rw [hop, hop']
    simp only [Except.map, hrest, hrest', Except.ok.injEq, Trace.mk.injEq, and_true]
    -- both trees filter the product of the scans, by the same test
    rw [hbind.rows_eq_filter (joinedScans_separated hqual hs) hplain fun p hp => (hreads p hp).arity,
      PlanNode.rows_selectAll, schema_joinedScans, hdrop]
    exact List.filter_congr fun x _ => (all_predicates_joinedScans hs hcs hwhere x).symm

/-- Two tables with data files, `R (A)` at `R` and `S (B)` at `S`. -/
def stockedPair : Catalog where
  dataDir := ""
  registry := [⟨"R", ["A"], "R"⟩, ⟨"S", ["B"], "S"⟩]
  order := ["R", "S"]

/-- `R` holds the rows 1 and 2, `S` the row 2. -/
def stockedPairFiles : FileTree := ⟨[(["R"], .file [49, 10, 50, 10]), (["S"], .file [50, 10])]⟩

/-- `SELECT * FROM R, S WHERE R.A = S.B AND A = 2`. -/
def equiJoin : Query where
  tables := [⟨"R", none⟩, ⟨"S", none⟩]
  selection := some (.and (.cmp .eq (.col (.qualified "R" "A")) (.col (.qualified "S" "B")))
    (.cmp .eq (.col (.bare "A")) (.lit 2)))

/-- The plan of `equiJoin`: the selection over the scan of `R`, the condition on the join. -/
def equiJoinPlan : Plan :=
  ⟨.join [.cmp .eq (.col (.qualified "R" "A")) (.col (.qualified "S" "B"))] ⟨["R.A", "S.B"]⟩
      (.select (.cmp .eq (.col (.qualified "R" "A")) (.lit 2)) ⟨["R.A"]⟩ (.scan "R" "R" ⟨["R.A"]⟩))
      (.scan "S" "S" ⟨["S.B"]⟩), []⟩

/-- `equiJoin` over `stockedPair` meets the conditions of `pushdown_keeps_result`: its plan,
with a selection on `R` and a condition on the join, answers as the plain product of `R`
and `S` under both conjuncts. -/
theorem equiJoin_keeps_result :
    stockedPair.plan equiJoin = ((stockedPair.plan equiJoin).1, .ok equiJoinPlan) ∧
      (stockedPair.execute stockedPairFiles equiJoinPlan).2 =
        (stockedPair.execute stockedPairFiles (stockedPair.unpushed equiJoin equiJoinPlan)).2 := by
  have hplan : stockedPair.plan equiJoin = ((stockedPair.plan equiJoin).1, .ok equiJoinPlan) :=
    Prod.ext rfl (eq_ok_of_toOption (by decide +kernel))
  -- the paths and the lines of the data files have no separator in them
  have hpath : ∀ s ∈ ["R", "S"], s.splitOn "/" = [s] := by
    intro s hs
    simp only [List.mem_cons, List.mem_nil_iff, or_false] at hs
    rcases hs with rfl | rfl <;> exact String.splitOn_eq_singleton _ rfl (by decide)
  have hline : ∀ s ∈ ["1", "2"], s.splitOn "," = [s] := by
    intro s hs
    simp only [List.mem_cons, List.mem_nil_iff, or_false] at hs
    rcases hs with rfl | rfl <;> exact String.splitOn_eq_singleton _ rfl (by decide)
  have hR : TableDef.Stocked stockedPairFiles ⟨"R", ["A"], "R"⟩ := by
    refine ⟨[49, 10, 50, 10], by rw [FileTree.parts, hpath "R" (by simp)]; rfl, ?_⟩
    rw [show LineSource.fileLines [49, 10, 50, 10] = [.ok "1", .ok "2"] from rfl]
    intro l hl
    simp only [List.mem_cons, List.mem_nil_iff, or_false] at hl
    rcases hl with rfl | rfl <;> intro _
    · rw [hline "1" (by simp)]
      exact ⟨rfl, by decide⟩
    · rw [hline "2" (by simp)]
      exact ⟨rfl, by decide⟩
  have hS : TableDef.Stocked stockedPairFiles ⟨"S", ["B"], "S"⟩ := by
    refine ⟨[50, 10], by rw [FileTree.parts, hpath "S" (by simp)]; rfl, ?_⟩
    rw [show LineSource.fileLines [50, 10] = [.ok "2"] from rfl]
    intro l hl
    simp only [List.mem_cons, List.mem_nil_iff, or_false] at hl
    subst hl
    intro _
    rw [hline "2" (by simp)]
    exact ⟨rfl, by decide⟩
  refine ⟨hplan, pushdown_keeps_result stockedPairFiles hplan ?_ (by decide) ?_⟩
  · intro p hp
    simp only [equiJoin, Option.some.injEq] at hp
    subst hp
    decide
  · intro t ht d hd
    simp only [equiJoin, List.mem_cons, List.mem_nil_iff, or_false] at ht
    rcases ht with rfl | rfl
    · obtain rfl : d = ⟨"R", ["A"], "R"⟩ := Option.some.inj (hd.symm.trans (by decide))
      exact ⟨by decide, hR⟩
    · obtain rfl : d = ⟨"S", ["B"], "S"⟩ := Option.some.inj (hd.symm.trans (by decide))
      exact ⟨by decide, hS⟩

end CsvQuery
