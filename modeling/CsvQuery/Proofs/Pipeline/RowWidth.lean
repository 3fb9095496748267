import CsvQuery.Proofs.Pipeline.Aggregate
import CsvQuery.Proofs.Plan.Qualify
import CsvQuery.Proofs.Pipeline.Rows

/-!
# Rows as wide as their schema

A plan node carries its output schema, and its operator answers rows of values. The
planner gives every node a schema with one column per value of those rows
(`PlanNode.Sized`, `Catalog.sized_plan`): a scan its table's columns, a join both inputs'
side by side, an aggregate one column per GROUP BY column and one for the SUM, a projection
one per target, and every other node its input's. So when every non-blank line of every
data file has one field per column of its table (`TableDef.Wide`), every row a built
operator answers is as wide as its node's schema (`Catalog.wide_build`).

* `Trace.wide_filter`, `Trace.wide_project`, `Trace.Wide.primed`, `Trace.Wide.primedDedup`,
  `Trace.wide_scanLines`  each stream function keeps, adds up or sets the widths of the
  rows it answers;
* `Trace.grouped_keys`, `wide_finishGroups`  an aggregate's rows are its groups' keys and
  their totals.
-/

namespace CsvQuery

namespace Trace

/-- Every tuple of the stream has `k` values. -/
def Wide (k : Nat) (T : Trace) : Prop := ∀ t ∈ T.tuples, t.arity = k

variable {k m : Nat}

@[simp] theorem wide_done : done.Wide k := by simp [Wide, done]

@[simp] theorem wide_fail (e : ExecError) : (fail e).Wide k := by simp [Wide, fail]

theorem Wide.cons {t : Tuple} {T : Trace} (ht : t.arity = k) (hT : T.Wide k) :
    (Trace.cons t T).Wide k :=
  List.forall_mem_cons.2 ⟨ht, hT⟩

theorem Wide.andThen {a b : Trace} (ha : a.Wide k) (hb : b.Wide k) : (a.andThen b).Wide k := by
  unfold Trace.andThen
  split
  · exact List.forall_mem_append.2 ⟨ha, hb⟩
  · exact ha

theorem Wide.keepIf (ok : Bool) {t : Tuple} {T : Trace} (ht : t.arity = k) (hT : T.Wide k) :
    (Trace.keepIf ok t T).Wide k := by
  unfold Trace.keepIf
  split
  · exact hT.cons ht
  · exact hT

/-! ## Selections and projections -/

theorem wide_filter (p : Bound) {ts : List Tuple} (hts : ∀ t ∈ ts, t.arity = k)
    (s : Option ExecError) : (filter p ts s).Wide k := by
  induction ts with
  | nil => simp [Wide, filter]
  | cons t ts ih =>
    rw [List.forall_mem_cons] at hts
    unfold filter
    split
    · exact (ih hts.2).cons hts.1
    · exact ih hts.2
    · exact wide_fail _

theorem wide_project (slots : List Slot) (ts : List Tuple) (s : Option ExecError) :
    (project slots ts s).Wide slots.length := by
  induction ts with
  | nil => simp [Wide, project]
  | cons t ts ih =>
    unfold project
    split
    · rename_i vs hvs
      exact ih.cons (length_of_mapM_eq_ok hvs)
    · exact wide_fail _

/-! ## Joins: a left row and a right row side by side -/

theorem wide_pass (cs : List Bound) {lt : Tuple} (hlt : lt.arity = k) :
    ∀ {rt : Tuple} {rs : List Tuple} (s : Option ExecError), rt.arity = m →
      (∀ r ∈ rs, r.arity = m) → (pass cs lt rt rs s).Wide (k + m)
  | rt, [], s, hrt, _ => by
    unfold pass
    split
    · exact wide_fail _
    · exact wide_fail _
    · exact wide_done.keepIf _ (by rw [Tuple.arity_concat, hlt, hrt])
  | rt, rt' :: rs, s, hrt, hrs => by
    rw [List.forall_mem_cons] at hrs
    unfold pass
    split
    · exact wide_fail _
    · exact (wide_pass cs hlt s hrs.1 hrs.2).keepIf _ (by rw [Tuple.arity_concat, hlt, hrt])

theorem wide_pass_mk (cs : List Bound) {lt rt : Tuple} {rs : List Tuple} {rstop : Option ExecError}
    (hlt : lt.arity = k) (hR : (⟨rt :: rs, rstop⟩ : Trace).Wide m) :
    (pass cs lt rt rs rstop).Wide (k + m) :=
  wide_pass cs hlt rstop (hR rt List.mem_cons_self) fun r hr => hR r (List.mem_cons_of_mem _ hr)

theorem wide_advance (cs : List Bound) {R : Trace} (hR : R.Wide m) {ls : List Tuple}
    (hls : ∀ l ∈ ls, l.arity = k) (s : Option ExecError) :
    (advance cs (.ok R) ls s).Wide (k + m) := by
  obtain ⟨rts, rstop⟩ := R
  induction ls with
  | nil =>
    cases s with
    | some e => exact wide_fail e
    | none =>
      unfold advance
      split <;> simp
  | cons lt ls ih =>
    rw [List.forall_mem_cons] at hls
    rcases rts with _ | ⟨rt, rs⟩
    · cases rstop with
      | some e => exact wide_fail e
      | none => exact ih hls.2
    · exact (wide_pass_mk cs hls.1 hR).andThen (ih hls.2)

/-- A join's rows are as wide as its two inputs' rows together. -/
theorem Wide.primed {cs : List Bound} {L R T : Trace} (hL : L.Wide k) (hR : R.Wide m)
    (h : primed cs L R = .ok T) : T.Wide (k + m) := by
  unfold Trace.primed at h
  split at h
  · cases h
  · cases h
  · cases h
    exact wide_done
  · cases h
    exact wide_done
  · rename_i lt ls s rt rs rstop
    cases h
    exact (wide_pass_mk cs (hL lt List.mem_cons_self) hR).andThen
      (wide_advance cs hR (fun l hl => hL l (List.mem_cons_of_mem _ hl)) s)

/-! ## Duplicate filters -/

theorem wide_dedup (ks : List Nat) {ts : List Tuple} (hts : ∀ t ∈ ts, t.arity = k) :
    ∀ (seen : List (List Int)) (s : Option ExecError), (dedup ks seen ts s).Wide k := by
  induction ts with
  | nil => intro seen s; simp [Wide, dedup]
  | cons t ts ih =>
    intro seen s
    rw [List.forall_mem_cons] at hts
    unfold dedup
    split
    · exact wide_fail _
    · split
      · exact ih hts.2 seen s
      · exact (ih hts.2 _ s).cons hts.1

theorem wide_lag {t : Tuple} (ht : t.arity = k) :
    ∀ {us : List Tuple} (s : Option ExecError), (∀ u ∈ us, u.arity = k) → (lag t us s).Wide k
  | [], none, _ => wide_done.cons ht
  | [], some e, _ => wide_fail e
  | u :: _, s, hus =>
    (wide_lag (hus u List.mem_cons_self) s fun v hv => hus v (List.mem_cons_of_mem _ hv)).cons ht

theorem Wide.held {D : Trace} (hD : D.Wide k) : D.held.Wide k := by
  obtain ⟨_ | ⟨u, _⟩, s⟩ := D
  · exact wide_done
  · exact wide_lag (hD u List.mem_cons_self) s fun v hv => hD v (List.mem_cons_of_mem _ hv)

theorem Wide.primedDedup {ks : List Nat} {C T : Trace} (hC : C.Wide k)
    (h : primedDedup ks C = .ok T) : T.Wide k := by
  obtain ⟨_, -, rfl⟩ := map_eq_ok.1 h
  exact (wide_dedup ks hC [] C.stop).held

/-! ## Scans -/

theorem arity_of_parseRow {table : String} {line : Nat} {text : String} {t : Tuple}
    (h : parseRow table line text = .ok t) : t.arity = (text.splitOn ",").length := by
  obtain ⟨vs, hvs, rfl⟩ := map_eq_ok.1 h
  exact length_of_mapM_eq_ok hvs

/-- A scan of lines whose non-blank ones have `n` fields answers rows of `n` values. -/
theorem wide_scanLines {table : String} {n : Nat} :
    ∀ (line : Nat) (ls : List (Except IoFailure String)),
      (∀ text, .ok text ∈ ls → Blank.isAllBlank text.toList = false →
        (text.splitOn ",").length = n) → (scanLines table line ls).Wide n
  | _, [], _ => wide_done
  | _, .error _ :: _, _ => wide_fail _
  | line, .ok text :: ls, h => by
    have ih : (scanLines table (line + 1) ls).Wide n :=
      wide_scanLines (line + 1) ls fun t ht => h t (List.mem_cons_of_mem _ ht)
    unfold scanLines
    split
    · exact ih
    · rename_i hblank
      split
      · rename_i t ht
        exact ih.cons ((arity_of_parseRow ht).trans
          (h text List.mem_cons_self (by simpa using hblank)))
      · exact wide_fail _

/-! ## Aggregates -/

theorem addToGroup_keys (P : List Int → Prop) {groups groups' : List (List Int × Int)}
    {key : List Int} {c : Int} (h : Operator.addToGroup groups key c = .ok groups')
    (hg : ∀ g ∈ groups, P g.1) (hk : P key) : ∀ g ∈ groups', P g.1 := by
  unfold Operator.addToGroup at h
  dsimp only at h
  split at h
  · split at h
    · cases h
      intro g hg'
      rcases List.mem_or_eq_of_mem_set hg' with hg' | rfl
      · exact hg g hg'
      · exact hk
    · cases h
  · cases h
    intro g hg'
    rcases List.mem_append.1 hg' with hg' | hg'
    · exact hg g hg'
    · rw [List.mem_singleton.1 hg']
      exact hk

/-- An aggregate's groups have one key value per key column. -/
theorem grouped_keys {keys : List Nat} {factors : List SumFactor} :
    ∀ {ts : List Tuple} {stop : Option ExecError} {groups gs : List (List Int × Int)},
      (∀ g ∈ groups, g.1.length = keys.length) → grouped keys factors ts stop groups = .ok gs →
      ∀ g ∈ gs, g.1.length = keys.length
  | [], none, _, _, hg, h => by
    cases h
    exact hg
  | [], some _, _, _, _, h => by cases h
  | t :: ts, stop, groups, gs, hg, h => by
    obtain ⟨key, hkey, h⟩ := bind_eq_ok.1 h
    obtain ⟨c, -, h⟩ := bind_eq_ok.1 h
    obtain ⟨groups', hadd, h⟩ := bind_eq_ok.1 h
    exact grouped_keys (addToGroup_keys (·.length = keys.length) hadd hg (length_of_mapM_eq_ok hkey)) h

end Trace

/-- An aggregate's rows are its groups' keys, each followed by the group's total; a global
aggregate with no group has the one row of its total. -/
theorem wide_finishGroups {global : Bool} {groups : List (List Int × Int)} {rows : List Tuple}
    {n : Nat} (hg : ∀ g ∈ groups, g.1.length = n) (hglobal : global = true → n = 0)
    (h : finishGroups global groups = .ok rows) : ∀ t ∈ rows, t.arity = n + 1 := by
  intro t ht
  obtain ⟨⟨vs, total⟩, hmem, hvt⟩ := (mem_of_mapM_eq_ok h t).1 ht
  by_cases hfit : Decimal.fitsInt32 total
  · simp only [hfit, if_true, pure, Except.pure, Except.ok.injEq] at hvt
    subst hvt
    -- the key comes from a group, or is the empty key of a global aggregate with no group
    have hvs : vs.length = n := by
      split at hmem
      · rename_i hempty
        rw [List.mem_singleton, Prod.mk.injEq] at hmem
        rw [hmem.1, List.length_nil, hglobal (Bool.and_eq_true_iff.1 hempty).2]
      · exact hg _ hmem
    simp [Tuple.arity, hvs]
  · simp [hfit, throw, throwThe, MonadExceptOf.throw] at hvt

/-! ## Sized plans -/

/-- A table whose data file's non-blank lines each have one field per column of the table. -/
def TableDef.Wide (files : FileTree) (d : TableDef) : Prop :=
  ∀ bytes, files.lookup (FileTree.parts d.path) = .ok (.file bytes) →
    ∀ text, .ok text ∈ LineSource.fileLines bytes → Blank.isAllBlank text.toList = false →
      (text.splitOn ",").length = d.columns.length

namespace PlanNode

/-- Each node's schema has one column per value of the rows its operator answers: a scan's
as many as its table's columns, a join's as its inputs' together, an aggregate's one per
GROUP BY column and one for the SUM, a projection's one per target, and every other node's
as many as its input's. -/
def Sized (c : Catalog) : PlanNode → Prop
  | .scan table _ s => ∀ d, c.table? table = some d → s.size = d.columns.length
  | .select _ s n | .distinct _ s n | .sort _ s n => s.size = n.schema.size ∧ n.Sized c
  | .join _ s l r => s.size = l.schema.size + r.schema.size ∧ l.Sized c ∧ r.Sized c
  | .aggregate _ groupBy s n => s.size = groupBy.length + 1 ∧ n.Sized c
  | .project ts s n => s.size = ts.length ∧ n.Sized c

end PlanNode

namespace Catalog

variable {files : FileTree} {c : Catalog}

/-- Every row the operator of a sized node answers is as wide as the node's schema, when
every table's data file has lines as wide as the table. -/
theorem wide_build (hw : ∀ name d, c.table? name = some d → d.Wide files) :
    ∀ {n : PlanNode} {op : Operator}, n.Sized c → c.build files n = .ok op →
      op.rest.Wide n.schema.size
  | .scan table _ s, op, hs, h => by
    simp only [Catalog.build] at h
    split at h
    · cases h
    · rename_i d hd
      split at h
      · rename_i src hsrc
        cases h
        rw [PlanNode.schema, hs d hd]
        -- the source holds the file's lines, or fails at every read
        unfold LineSource.openFile at hsrc
        split at hsrc
        · rename_i bytes hbytes
          cases hsrc
          exact Trace.wide_scanLines 0 _ (hw table d hd bytes hbytes)
        · cases hsrc
          exact Trace.wide_fail _
        · cases hsrc
      · cases h
  | .select _ s n, op, ⟨hsize, hn⟩, h => by
    rw [Catalog.build] at h
    obtain ⟨child, hchild, h⟩ := bind_eq_ok.1 h
    obtain ⟨b, -, rfl⟩ := Operator.selectOf_eq_ok h
    rw [PlanNode.schema, hsize]
    exact Trace.wide_filter b (wide_build hw hn hchild) _
  | .join cs s l r, op, ⟨hsize, hl, hr⟩, h => by
    rw [Catalog.build] at h
    obtain ⟨left, hleft, h⟩ := bind_eq_ok.1 h
    obtain ⟨right, hright, h⟩ := bind_eq_ok.1 h
    have hj := Operator.rest_joinOf (Catalog.built hleft).fresh (Catalog.built hright).fresh cs s
    rw [h] at hj
    obtain ⟨bs, -, hT⟩ := bind_eq_ok.1 hj.symm
    rw [PlanNode.schema, hsize]
    exact (wide_build hw hl hleft).primed (wide_build hw hr hright) hT
  | .aggregate sum groupBy s n, op, ⟨hsize, _⟩, h => by
    rw [Catalog.build] at h
    obtain ⟨child, hchild, h⟩ := bind_eq_ok.1 h
    rw [aggregateOf_eq] at h
    obtain ⟨keyed, hkeyed, h⟩ := bind_eq_ok.1 h
    obtain ⟨factors, -, h⟩ := bind_eq_ok.1 h
    obtain ⟨groups, hgroups, h⟩ := bind_eq_ok.1 h
    obtain ⟨rows, hrows, h⟩ := bind_eq_ok.1 h
    cases h
    rw [Operator.groupFrom_fresh (Catalog.built hchild).fresh] at hgroups
    -- one key value per GROUP BY column, then the total
    have hkeys := Trace.grouped_keys (by simp) hgroups
    have hlen : (keyed.map (·.1)).length = groupBy.length := by
      rw [List.length_map]
      exact length_of_mapM_eq_ok hkeyed
    rw [PlanNode.schema, hsize, ← hlen]
    intro t ht
    exact wide_finishGroups hkeys (fun hg => List.length_eq_zero_iff.2 (List.isEmpty_iff.1 hg))
      hrows t (by simpa [Operator.rest] using ht)
  | .project ts s n, op, ⟨hsize, _⟩, h => by
    rw [Catalog.build] at h
    obtain ⟨child, -, h⟩ := bind_eq_ok.1 h
    obtain ⟨picked, hpicked, h⟩ := bind_eq_ok.1 h
    cases h
    rw [PlanNode.schema, hsize, ← length_of_mapM_eq_ok hpicked, ← List.length_map (·.1)]
    exact Trace.wide_project _ _ _
  | .distinct ks s n, op, ⟨hsize, hn⟩, h => by
    rw [Catalog.build] at h
    obtain ⟨child, hchild, h⟩ := bind_eq_ok.1 h
    have hd := Operator.rest_distinctOf (Catalog.built hchild).fresh n.schema ks
    rw [h] at hd
    obtain ⟨_, -, hT⟩ := bind_eq_ok.1 hd.symm
    rw [PlanNode.schema, hsize]
    exact (wide_build hw hn hchild).primedDedup hT
  | .sort ks s n, op, ⟨hsize, hn⟩, h => by
    rw [Catalog.build] at h
    obtain ⟨keys, -, h⟩ := bind_eq_ok.1 h
    obtain ⟨child, hchild, h⟩ := bind_eq_ok.1 h
    simp only [Operator.sortOf, Operator.collectFrom_fresh (Catalog.built hchild).fresh] at h
    obtain ⟨ts, hts, h⟩ := bind_eq_ok.1 h
    obtain ⟨-, rfl, -⟩ := Trace.collected_eq_ok hts
    cases h
    rw [PlanNode.schema, hsize]
    -- a sort answers its input's rows, reordered
    intro t ht
    exact wide_build hw hn hchild t (by simpa [Operator.rest] using ht)

/-! ## The planner builds sized plans -/

theorem sized_scanOf (cls : Classification) {u : ScopeTable}
    (hu : ∀ d, c.table? u.table = some d → u.schema.size = d.columns.length) :
    (Planner.scanOf cls u).Sized c := by
  -- each selection is bound to the table's schema, the schema of the node below it
  suffices h : ∀ (ps : List Expr) (node : PlanNode), node.schema = u.schema → node.Sized c →
      (ps.foldl (fun node p => .select p u.schema node) node).Sized c from h _ _ rfl hu
  intro ps
  induction ps with
  | nil => exact fun _ _ hn => hn
  | cons p ps ih => exact fun node hs hn => ih _ rfl ⟨by rw [hs], hn⟩

theorem sized_joinAll : ∀ (rights : List PlanNode) (root : PlanNode) (pending : List Expr),
    root.Sized c → (∀ r ∈ rights, r.Sized c) → (Planner.joinAll root pending rights).1.Sized c
  | [], _, _, hroot, _ => hroot
  | right :: rest, root, pending, hroot, hrights => by
    rw [List.forall_mem_cons] at hrights
    exact sized_joinAll rest _ _ ⟨Schema.size_combine _ _, hroot, hrights.1⟩ hrights.2

theorem size_schema (d : TableDef) (reference : String) : (d.schema reference).size = d.columns.length := by
  simp [TableDef.schema, Schema.ofTable, Schema.size]

theorem sized_joinedScans {tables : List TableRef} {t : ScopeTable} {ts : List ScopeTable}
    (h : Planner.resolveTables c tables = .ok (t :: ts)) (cs : List Expr) :
    (joinedScans t ts cs).1.Sized c := by
  -- a table in scope has its catalog entry's schema
  have hscan : ∀ u ∈ t :: ts, ∀ d, c.table? u.table = some d → u.schema.size = d.columns.length := by
    intro u hu d hd
    obtain ⟨r, -, d', hd', rfl⟩ := resolveTables_spec h u hu
    rw [Catalog.table?_name hd', hd'] at hd
    cases hd
    exact size_schema _ _
  refine sized_joinAll _ _ _ (sized_scanOf _ (hscan t List.mem_cons_self)) ?_
  intro r hr
  obtain ⟨u, hu, rfl⟩ := List.mem_map.1 hr
  exact sized_scanOf _ (hscan u (List.mem_cons_of_mem _ hu))

theorem sized_aggregate {q : Query} {n m : PlanNode} (hn : n.Sized c)
    (h : Planner.aggregate q n = .ok m) : m.Sized c := by
  simp only [Planner.aggregate, bind_eq_ok, pure, Except.pure, Except.ok.injEq] at h
  obtain ⟨_, _, _, _, rfl⟩ := h
  exact ⟨by simp [Schema.size], hn⟩

theorem sized_project {targets : List SelectTarget} {n m : PlanNode} (hn : n.Sized c)
    (h : Planner.project targets n = .ok m) : m.Sized c := by
  simp only [Planner.project, bind_eq_ok, pure, Except.pure, Except.ok.injEq] at h
  obtain ⟨schema, hschema, ts, hts, rfl⟩ := h
  simp only [Planner.projectSchema, bind_eq_ok, pure, Except.pure, Except.ok.injEq] at hschema
  obtain ⟨names, hnames, rfl⟩ := hschema
  exact ⟨by rw [Schema.size, length_of_mapM_eq_ok hnames, length_of_mapM_eq_ok hts], hn⟩

theorem sized_sort {keys : List OrderItem} {n m : PlanNode} (hn : n.Sized c)
    (h : Planner.sort keys n = .ok m) : m.Sized c := by
  simp only [Planner.sort, bind_eq_ok, pure, Except.pure, Except.ok.injEq] at h
  obtain ⟨_, _, rfl⟩ := h
  exact ⟨rfl, hn⟩

/-- Every plan the planner makes is sized. -/
theorem sized_plan {q : Query} {logs : List LogRecord} {P : Plan} (h : c.plan q = (logs, .ok P)) :
    P.root.Sized c := by
  obtain ⟨t, ts, cs, hscope, -, hroot, -⟩ := plan_eq_joined h
  exact Planner.finish_preserves (·.Sized c) (fun _ _ hn h => sized_aggregate hn h)
    (fun _ _ _ hn h => sized_project hn h) (fun _ _ _ hn h => sized_sort hn h)
    (fun _ hn => ⟨rfl, hn⟩) (sized_joinedScans hscope cs) hroot

end Catalog

end CsvQuery
