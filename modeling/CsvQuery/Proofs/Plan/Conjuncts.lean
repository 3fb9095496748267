import CsvQuery.Proofs.Plan.Pushdown

/-!
# Where each conjunct goes

`plan_places_each_conjunct` reads off a successful plan where every resolved WHERE conjunct
sits: the join tree under the operators that finish the plan is left-deep over the tables
in FROM order, each scan carries the selections placed on it and each join the conditions
placed on it, in WHERE order, the dropped conjuncts come single-table ones first, and every
conjunct occurs exactly once.

Over plain names, that is FROM references, catalog columns and the name parts of the WHERE
columns without dots, the place is the one the query names:

* the tables joined so far resolve a resolved conjunct exactly when they include every
  table it names (`PlainScope.resolvesAll_ofScope`);
* so a conjunct is dropped exactly when one of its qualifiers names no FROM table
  (`PlainScope.placement_dropped_iff`), and a conjunct over two or more FROM tables is a
  condition of the join whose right input is the last of them in FROM order
  (`PlainScope.placement_join_last`).

A catalog column with a dot breaks the second point: the join below that last table may
resolve a column under another table's name (`dotted_columns_place_conditions_early`).
-/

namespace CsvQuery

/-! ## Distinct references -/

namespace Expr

theorem pairwise_insertSorted (n : String) :
    ∀ {l : List String}, l.Pairwise (· < ·) → (insertSorted n l).Pairwise (· < ·)
  | [], _ => by simp [insertSorted]
  | m :: ms, h => by
    rw [List.pairwise_cons] at h
    unfold insertSorted
    split
    · rename_i hlt
      refine List.pairwise_cons.2 ⟨fun x hx => ?_, List.pairwise_cons.2 h⟩
      rcases List.mem_cons.1 hx with rfl | hx
      · exact hlt
      · exact lt_trans hlt (h.1 x hx)
    · split
      · exact List.pairwise_cons.2 h
      · rename_i hnlt hne
        have hgt : m < n := lt_of_le_of_ne (not_lt.1 hnlt) (Ne.symm hne)
        refine List.pairwise_cons.2 ⟨fun x hx => ?_, pairwise_insertSorted n h.2⟩
        rcases mem_insertSorted.1 hx with rfl | hx
        · exact hgt
        · exact h.1 x hx

/-- The references of a conjunct are sorted, so each table is named once. -/
theorem nodup_references (e : Expr) : e.references.Nodup := by
  suffices h : ∀ (qs acc : List String), acc.Pairwise (· < ·) →
      (qs.foldl (fun acc q => insertSorted q acc) acc).Pairwise (· < ·) from
    (h _ [] List.Pairwise.nil).imp ne_of_lt
  intro qs
  induction qs with
  | nil => exact fun _ h => h
  | cons q qs ih => exact fun acc h => ih _ (pairwise_insertSorted q h)

end Expr

/-! ## Resolving in the tables joined so far -/

namespace Schema

theorem hasColumn_of_dot {s : Schema} (hs : s.Plain) {n : String} (hn : '.' ∈ n.toList) :
    s.hasColumn n = true ↔ n ∈ s.columns := by
  simp [hasColumn, indexOf_of_dot hs hn, List.findIdx?_isSome]

theorem mem_ofScope {us : List ScopeTable} {n : String} :
    n ∈ (Schema.ofScope us).columns ↔ ∃ u ∈ us, n ∈ u.schema.columns := by
  simp [Schema.ofScope]

@[simp] theorem ofScope_singleton (u : ScopeTable) : Schema.ofScope [u] = u.schema := by
  simp [Schema.ofScope]

theorem ofScope_append (us vs : List ScopeTable) :
    Schema.ofScope (us ++ vs) = (Schema.ofScope us).combine (Schema.ofScope vs) := by
  simp [Schema.ofScope, Schema.combine]

end Schema

theorem joinSchemas_ofScope : ∀ (us vs : List ScopeTable),
    joinSchemas (Schema.ofScope us) (vs.map (·.schema)) =
      (List.range vs.length).map fun j => Schema.ofScope (us ++ vs.take (j + 1))
  | _, [] => rfl
  | us, v :: vs => by
    have h : (Schema.ofScope us).combine v.schema = Schema.ofScope (us ++ [v]) := by
      rw [Schema.ofScope_append, Schema.ofScope_singleton]
    rw [List.map_cons, joinSchemas, h, joinSchemas_ofScope, List.length_cons,
      List.range_succ_eq_map]
    simp

theorem firstResolving_joinSchemas (t : ScopeTable) (ts : List ScopeTable) (e : Expr) :
    firstResolving (joinSchemas t.schema (ts.map (·.schema))) e =
      (List.range ts.length).findIdx? fun j => (Schema.ofScope (t :: ts.take (j + 1))).resolvesAll e := by
  have h := joinSchemas_ofScope [t] ts
  rw [Schema.ofScope_singleton] at h
  rw [firstResolving, h, List.findIdx?_map]
  rfl

namespace PlainScope

variable {scope : List ScopeTable} (hs : PlainScope scope)
include hs

theorem reference_of_mem {u : ScopeTable} (hu : u ∈ scope) {r d : String} (hd : DotFree d)
    (h : r ++ "." ++ d ∈ u.schema.columns) : u.reference = r := by
  obtain ⟨-, cols, hcols, hsch⟩ := hs.table u hu
  rw [hsch] at h
  simp only [Schema.ofTable, List.mem_map] at h
  obtain ⟨col, hcol, heq⟩ := h
  exact ((dotted_inj_right (hcols col hcol) hd).1 heq).1

theorem hasColumn_ofScope {us : List ScopeTable} (hus : ∀ u ∈ us, u ∈ scope) {r d : String}
    (hd : DotFree d) :
    (Schema.ofScope us).hasColumn (r ++ "." ++ d) = true ↔
      ∃ u ∈ us, u.reference = r ∧ (u.schema.indexOf (r ++ "." ++ d)).isSome := by
  have hdot : '.' ∈ (r ++ "." ++ d).toList := by
    rw [toList_dotted]
    simp
  have hplain : (Schema.ofScope us).Plain := fun e he => by
    obtain ⟨u, hu, he⟩ := Schema.mem_ofScope.1 he
    exact hs.schema_plain (hus u hu) e he
  rw [Schema.hasColumn_of_dot hplain hdot, Schema.mem_ofScope]
  constructor
  · rintro ⟨u, hu, hmem⟩
    exact ⟨u, hu, hs.reference_of_mem (hus u hu) hd hmem,
      (Schema.hasColumn_of_dot (hs.schema_plain (hus u hu)) hdot).2 hmem⟩
  · rintro ⟨u, hu, -, hres⟩
    exact ⟨u, hu, (Schema.hasColumn_of_dot (hs.schema_plain (hus u hu)) hdot).1 hres⟩

/-- Tables of the scope side by side resolve every column of a resolved conjunct exactly
when they include every table it names. -/
theorem resolvesAll_ofScope {us : List ScopeTable} (hus : ∀ u ∈ us, u ∈ scope) {e : Expr}
    (he : Qualified scope e) :
    (Schema.ofScope us).resolvesAll e = true ↔ ∀ r ∈ e.references, r ∈ us.map (·.reference) := by
  simp only [Schema.resolvesAll, List.all_eq_true, Expr.mem_columnNames]
  constructor
  · intro hall r hr
    obtain ⟨c, hc, hq⟩ := Expr.mem_references.1 hr
    have hname : c.name = r ++ "." ++ c.column := by simp [ColumnRef.name, hq]
    obtain ⟨u, hu, hur, -⟩ :=
      (hs.hasColumn_ofScope hus (he c hc).1).1 (hname ▸ hall c.name ⟨c, hc, rfl⟩)
    exact List.mem_map.2 ⟨u, hu, hur⟩
  · rintro hrefs n ⟨c, hc, rfl⟩
    obtain ⟨hd, r, hq, hres⟩ := he c hc
    have hname : c.name = r ++ "." ++ c.column := by simp [ColumnRef.name, hq]
    obtain ⟨u, hu, hur⟩ := List.mem_map.1 (hrefs r (Expr.mem_references.2 ⟨c, hc, hq⟩))
    rw [hname] at hres ⊢
    exact (hs.hasColumn_ofScope hus hd).2 ⟨u, hu, hur, hres u (hus u hu) hur⟩

end PlainScope

/-! ## The place of a conjunct over plain names -/

/-- Of two or more tables named, the last in FROM order is the right input of the first join
whose tables joined so far include them all: without it, the join before would include
them already. -/
theorem named_of_first_prefix {t : ScopeTable} {ts : List ScopeTable} {refs : List String}
    {r₁ r₂ : String} (hr₁ : r₁ ∈ refs) (hr₂ : r₂ ∈ refs) (hne : r₁ ≠ r₂) {j : Nat}
    (hjlt : j < ts.length) (hj : ∀ r ∈ refs, r ∈ (t :: ts.take (j + 1)).map (·.reference))
    (hbefore : ∀ i < j, ¬ ∀ r ∈ refs, r ∈ (t :: ts.take (i + 1)).map (·.reference)) :
    ts[j].reference ∈ refs := by
  by_contra hnot
  have hprev : ∀ r ∈ refs, r ∈ (t :: ts.take j).map (·.reference) := by
    intro r hr
    have hr' := hj r hr
    rw [List.take_succ_eq_append_getElem hjlt] at hr'
    simp only [List.map_cons, List.map_append, List.map_nil, List.mem_cons, List.mem_append,
      List.not_mem_nil, or_false] at hr' ⊢
    rcases hr' with h | h | h
    · exact .inl h
    · exact .inr h
    · exact absurd (h ▸ hr) hnot
  cases j with
  | zero =>
    -- only the first table is left, and two tables are named
    have h₁ := hprev r₁ hr₁
    have h₂ := hprev r₂ hr₂
    simp only [List.take_zero, List.map_cons, List.map_nil, List.mem_singleton] at h₁ h₂
    exact hne (h₁.trans h₂.symm)
  | succ i => exact hbefore i (by omega) hprev

namespace PlainScope

variable {t : ScopeTable} {ts : List ScopeTable} (hs : PlainScope (t :: ts)) {e : Expr}
  (he : Qualified (t :: ts) e)
include hs he

theorem resolvesAll_joined (j : Nat) :
    (Schema.ofScope (t :: ts.take (j + 1))).resolvesAll e = true ↔
      ∀ r ∈ e.references, r ∈ (t :: ts.take (j + 1)).map (·.reference) := by
  refine hs.resolvesAll_ofScope (fun u hu => ?_) he
  rcases List.mem_cons.1 hu with rfl | hu
  · exact List.mem_cons_self
  · exact List.mem_cons_of_mem _ (List.mem_of_mem_take hu)

theorem placement_of_stray (hout : ∃ r ∈ e.references, r ∉ (t :: ts).map (·.reference)) :
    placement t ts e = .strayTable ∨ placement t ts e = .unresolved := by
  obtain ⟨r, hr, hnot⟩ := hout
  rcases hrefs : e.references with _ | ⟨r₁, _ | ⟨r₂, rs⟩⟩
  · rw [hrefs] at hr
    cases hr
  · -- one table, not in FROM
    obtain rfl : r = r₁ := by simpa [hrefs] using hr
    refine .inl (placement_eq_strayTable.2 ⟨r, by simp [Expr.bucket, hrefs], ?_⟩)
    rw [Bool.eq_false_iff, ne_eq, List.any_eq_true]
    rintro ⟨u, hu, hur⟩
    exact hnot (List.mem_map.2 ⟨u, hu, of_decide_eq_true hur⟩)
  · -- several tables: none of the joins has the one not in FROM
    refine .inr (placement_eq_unresolved.2 ⟨by simp [Expr.bucket, hrefs], ?_⟩)
    rw [firstResolving_joinSchemas, List.findIdx?_eq_none_iff]
    intro j _
    rw [Bool.eq_false_iff, ne_eq, hs.resolvesAll_joined he j]
    intro hall
    obtain ⟨u, hu, rfl⟩ := List.mem_map.1 (hall _ hr)
    rcases List.mem_cons.1 hu with rfl | hu
    · exact hnot (List.mem_map_of_mem List.mem_cons_self)
    · exact hnot (List.mem_map_of_mem (List.mem_cons_of_mem _ (List.mem_of_mem_take hu)))

/-- A conjunct over two or more FROM tables is a condition of the join `j`, whose right
input `u` is the last of them in FROM order. -/
theorem placement_join_last (h2 : 2 ≤ e.references.length)
    (hin : ∀ r ∈ e.references, r ∈ (t :: ts).map (·.reference)) :
    ∃ j u, ts[j]? = some u ∧ u.reference ∈ e.references ∧
      (∀ r ∈ e.references, r ∈ (t :: ts.take (j + 1)).map (·.reference)) ∧
      placement t ts e = .join j := by
  obtain ⟨r₁, r₂, rs, hrefs⟩ : ∃ r₁ r₂ rs, e.references = r₁ :: r₂ :: rs := by
    rcases hr : e.references with _ | ⟨r₁, _ | ⟨r₂, rs⟩⟩ <;> rw [hr] at h2
    · simp at h2
    · simp at h2
    · exact ⟨r₁, r₂, rs, rfl⟩
  have hne : r₁ ≠ r₂ := by
    have hnd := e.nodup_references
    rw [hrefs, List.nodup_cons, List.mem_cons, not_or] at hnd
    exact hnd.1.1
  -- two tables named, one of them beside the first: there is a join
  have hts : 0 < ts.length := by
    rcases ts with _ | ⟨u, ts⟩
    · have h₁ := hin r₁ (by simp [hrefs])
      have h₂ := hin r₂ (by simp [hrefs])
      simp only [List.map_cons, List.map_nil, List.mem_singleton] at h₁ h₂
      exact absurd (h₁.trans h₂.symm) hne
    · simp
  cases hj : (List.range ts.length).findIdx?
      fun j => (Schema.ofScope (t :: ts.take (j + 1))).resolvesAll e with
  | none =>
    -- the last join joins every table, so it resolves the conjunct
    rw [List.findIdx?_eq_none_iff] at hj
    have hlast := hj (ts.length - 1) (List.mem_range.2 (by omega))
    rw [Bool.eq_false_iff, ne_eq, hs.resolvesAll_joined he, Nat.sub_add_cancel hts,
      List.take_length] at hlast
    exact absurd hin hlast
  | some j =>
    obtain ⟨hjlt, hjres, hbefore⟩ := List.findIdx?_eq_some_iff_getElem.1 hj
    rw [List.length_range] at hjlt
    simp only [List.getElem_range] at hjres hbefore
    rw [hs.resolvesAll_joined he] at hjres
    refine ⟨j, ts[j], List.getElem?_eq_getElem hjlt,
      named_of_first_prefix (by simp [hrefs]) (by simp [hrefs]) hne hjlt hjres fun i hi => ?_,
      hjres, ?_⟩
    · have hi' := hbefore i hi
      rwa [hs.resolvesAll_joined he] at hi'
    · rw [placement_eq_join, firstResolving_joinSchemas]
      exact ⟨by simp [Expr.bucket, hrefs], hj⟩

/-- A conjunct is dropped exactly when one of its qualifiers names no FROM table. -/
theorem placement_dropped_iff :
    (placement t ts e = .strayTable ∨ placement t ts e = .unresolved) ↔
      ∃ r ∈ e.references, r ∉ (t :: ts).map (·.reference) := by
  refine ⟨fun hdrop => ?_, hs.placement_of_stray he⟩
  by_contra hall
  simp only [not_exists, not_and, not_not] at hall
  -- every table named is in FROM: the conjunct sits on a scan or on a join
  rcases hrefs : e.references with _ | ⟨r, _ | ⟨r₂, rs⟩⟩
  · have hsel : placement t ts e = .select t.reference :=
      (placement_eq_select (List.mem_map_of_mem List.mem_cons_self)).2 (by simp [Expr.bucket, hrefs])
    rw [hsel] at hdrop
    simp at hdrop
  · have hsel : placement t ts e = .select r :=
      (placement_eq_select (hall r (by simp [hrefs]))).2 (by simp [Expr.bucket, hrefs])
    rw [hsel] at hdrop
    simp at hdrop
  · obtain ⟨j, -, -, -, -, hjoin⟩ := hs.placement_join_last he (by simp [hrefs]) hall
    rw [hjoin] at hdrop
    simp at hdrop

end PlainScope

theorem PlainScope.qualified_of_where {t : ScopeTable} {ts : List ScopeTable} {sel : Option Expr}
    {cs : List Expr} (hs : PlainScope (t :: ts)) (hcs : qualifiedConjuncts (t :: ts) sel = .ok cs)
    (hwhere : ∀ p, sel = some p → ∀ col ∈ p.columns, DotFree col.column) :
    ∀ e ∈ cs, Qualified (t :: ts) e := by
  intro e he
  obtain ⟨w, hw, hwe⟩ := (mem_qualifiedConjuncts hcs).1 he
  refine hs.qualified hwe fun col hc => ?_
  cases sel with
  | none => cases hw
  | some p =>
    have hw' : w ∈ p.flatten := by simpa [Expr.conjuncts_eq_flatten] using hw
    exact hwhere p rfl col (Expr.columns_of_mem_flatten hw' col hc)

/-! ## Where each conjunct goes -/

/-- Over plain names, a resolved conjunct is dropped exactly when one of its qualifiers
names no FROM table, and one over two or more FROM tables sits on the join whose right input
is the last of them. -/
theorem PlainScope.places_as_named {t : ScopeTable} {ts : List ScopeTable} {cs : List Expr}
    (hs : PlainScope (t :: ts)) (hq : ∀ e ∈ cs, Qualified (t :: ts) e) :
    ∀ e ∈ cs, (e ∈ placed t ts cs .strayTable ++ placed t ts cs .unresolved ↔
        ∃ r ∈ e.references, r ∉ (t :: ts).map (·.reference)) ∧
      (2 ≤ e.references.length → (∀ r ∈ e.references, r ∈ (t :: ts).map (·.reference)) →
        ∃ j u, ts[j]? = some u ∧ u.reference ∈ e.references ∧
          (∀ r ∈ e.references, r ∈ (t :: ts.take (j + 1)).map (·.reference)) ∧
          e ∈ placed t ts cs (.join j)) := by
  intro e he
  constructor
  · rw [List.mem_append, mem_placed, mem_placed, ← hs.placement_dropped_iff (hq e he)]
    simp [he]
  · intro h2 hin
    obtain ⟨j, u, hu, hur, hall, hjoin⟩ := hs.placement_join_last (hq e he) h2 hin
    exact ⟨j, u, hu, hur, hall, mem_placed.2 ⟨he, hjoin⟩⟩

/-- Planning places every qualified WHERE conjunct exactly once. The join tree under the
operators that finish the plan is left-deep over the tables in FROM order; each scan
carries the conjuncts placed on it and each join the conditions placed on it, in WHERE
order; the dropped conjuncts are those on a stray table, then those no join resolves, each
in WHERE order; and the conjuncts on scans, on joins and dropped are the qualified
conjuncts, each as often as it occurs there. When the FROM references, the catalog columns
and the name parts of the WHERE columns hold no dot, a conjunct is dropped exactly when one
of its qualifiers names no FROM table, and a conjunct over two or more FROM tables is a
condition of the join whose right input is the last of them in FROM order. -/
theorem plan_places_each_conjunct {c : Catalog} {q : Query} {logs : List LogRecord} {P : Plan}
    (h : c.plan q = (logs, .ok P)) :
    ∃ t ts cs, Planner.resolveTables c q.tables = .ok (t :: ts) ∧
      qualifiedConjuncts (t :: ts) q.selection = .ok cs ∧
      P.root.joinTree.leftDeep = some
        ((t :: ts).map (fun u => (u.reference, placed t ts cs (.select u.reference))),
          (List.range ts.length).map fun j => placed t ts cs (.join j)) ∧
      P.dropped = placed t ts cs .strayTable ++ placed t ts cs .unresolved ∧
      (((t :: ts).map fun u => placed t ts cs (.select u.reference)).flatten ++
        ((List.range ts.length).map fun j => placed t ts cs (.join j)).flatten ++ P.dropped).Perm cs ∧
      ((∀ r ∈ q.tables, DotFree r.reference) →
        (∀ r ∈ q.tables, ∀ d, c.table? r.table = some d → ∀ col ∈ d.columns, DotFree col) →
        (∀ p, q.selection = some p → ∀ col ∈ p.columns, DotFree col.column) →
        ∀ e ∈ cs, (e ∈ P.dropped ↔ ∃ r ∈ e.references, r ∉ (t :: ts).map (·.reference)) ∧
          (2 ≤ e.references.length → (∀ r ∈ e.references, r ∈ (t :: ts).map (·.reference)) →
            ∃ j u, ts[j]? = some u ∧ u.reference ∈ e.references ∧
              (∀ r ∈ e.references, r ∈ (t :: ts.take (j + 1)).map (·.reference)) ∧
              e ∈ placed t ts cs (.join j))) := by
  obtain ⟨t, ts, cs, hscope, hcs, hroot, hdrop⟩ := plan_eq_joined h
  have hleft := leftDeep_joinedScans t ts cs
  refine ⟨t, ts, cs, hscope, hcs, ?_, hdrop, ?_, fun hrefs hcols hwhere => ?_⟩
  · rw [joinTree_finish hroot, PlanNode.joinTree_of_leftDeep hleft, hleft]
  · rw [hdrop]
    exact perm_placed t ts cs (nodup_resolveTables hscope)
  · -- over plain names each conjunct goes where the tables it names say
    have hs := plainScope_resolveTables hscope hrefs hcols
    rw [hdrop]
    exact hs.places_as_named (hs.qualified_of_where hcs hwhere)

/-- Two tables, `R (A)` and `S (B)`. -/
def twoTables : Catalog where
  dataDir := ""
  registry := [⟨"R", ["A"], ""⟩, ⟨"S", ["B"], ""⟩]
  order := ["R", "S"]

/-- `SELECT * FROM R, S WHERE R.A = 1 AND R.A = S.B AND Z.x = 2`. -/
def selectJoinStray : Query where
  tables := [⟨"R", none⟩, ⟨"S", none⟩]
  selection := some (.and (.and (.cmp .eq (.col (.qualified "R" "A")) (.lit 1))
    (.cmp .eq (.col (.qualified "R" "A")) (.col (.qualified "S" "B"))))
    (.cmp .eq (.col (.qualified "Z" "x")) (.lit 2)))

/-- The plan of `selectJoinStray`: the selection over the scan of `R`, the condition on the
join, the conjunct over `Z` dropped. -/
def selectJoinStrayPlan : Plan :=
  ⟨.join [.cmp .eq (.col (.qualified "R" "A")) (.col (.qualified "S" "B"))] ⟨["R.A", "S.B"]⟩
      (.select (.cmp .eq (.col (.qualified "R" "A")) (.lit 1)) ⟨["R.A"]⟩ (.scan "R" "R" ⟨["R.A"]⟩))
      (.scan "S" "S" ⟨["S.B"]⟩),
    [.cmp .eq (.col (.qualified "Z" "x")) (.lit 2)]⟩

/-- Each conjunct of `selectJoinStray` sits at its one place in the plan. -/
theorem plan_places_selection_join_and_stray :
    twoTables.plan selectJoinStray = ((twoTables.plan selectJoinStray).1, .ok selectJoinStrayPlan) ∧
    ∃ t ts cs, Planner.resolveTables twoTables selectJoinStray.tables = .ok (t :: ts) ∧
      qualifiedConjuncts (t :: ts) selectJoinStray.selection = .ok cs ∧
      selectJoinStrayPlan.root.joinTree.leftDeep = some
        ((t :: ts).map (fun u => (u.reference, placed t ts cs (.select u.reference))),
          (List.range ts.length).map fun j => placed t ts cs (.join j)) ∧
      selectJoinStrayPlan.dropped = placed t ts cs .strayTable ++ placed t ts cs .unresolved ∧
      (((t :: ts).map fun u => placed t ts cs (.select u.reference)).flatten ++
        ((List.range ts.length).map fun j => placed t ts cs (.join j)).flatten ++
        selectJoinStrayPlan.dropped).Perm cs ∧
      ((∀ r ∈ selectJoinStray.tables, DotFree r.reference) →
        (∀ r ∈ selectJoinStray.tables, ∀ d, twoTables.table? r.table = some d →
          ∀ col ∈ d.columns, DotFree col) →
        (∀ p, selectJoinStray.selection = some p → ∀ col ∈ p.columns, DotFree col.column) →
        ∀ e ∈ cs,
          (e ∈ selectJoinStrayPlan.dropped ↔ ∃ r ∈ e.references, r ∉ (t :: ts).map (·.reference)) ∧
          (2 ≤ e.references.length → (∀ r ∈ e.references, r ∈ (t :: ts).map (·.reference)) →
            ∃ j u, ts[j]? = some u ∧ u.reference ∈ e.references ∧
              (∀ r ∈ e.references, r ∈ (t :: ts.take (j + 1)).map (·.reference)) ∧
              e ∈ placed t ts cs (.join j))) := by
  have hok : (twoTables.plan selectJoinStray).2.toOption = some selectJoinStrayPlan := by
    decide +kernel
  have h : twoTables.plan selectJoinStray =
      ((twoTables.plan selectJoinStray).1, .ok selectJoinStrayPlan) :=
    Prod.ext rfl (eq_ok_of_toOption hok)
  exact ⟨h, plan_places_each_conjunct h⟩

/-- A catalog column may itself hold a dot. With `S` declaring columns `T.c` and `Z.d`, the
join of `R` with `S` already resolves `T.c` and `Z.d`, as `S.T.c` and `S.Z.d`: the condition
over `Z`, a table not in FROM, sits on that join instead of being dropped, and the condition
over `T` sits below the join with `T`. -/
theorem dotted_columns_place_conditions_early :
    (Catalog.plan
        { dataDir := "", registry := [⟨"R", ["A"], ""⟩, ⟨"S", ["T.c", "Z.d"], ""⟩, ⟨"T", ["c"], ""⟩],
          order := ["R", "S", "T"] }
        { tables := [⟨"R", none⟩, ⟨"S", none⟩, ⟨"T", none⟩],
          selection := some (.and (.cmp .eq (.col (.qualified "R" "A")) (.col (.qualified "T" "c")))
            (.cmp .eq (.col (.qualified "R" "A")) (.col (.qualified "Z" "d")))) }).2.toOption.map
        (fun P => (P.dropped, P.root.leftDeep.map Prod.snd)) =
      some ([], some [[.cmp .eq (.col (.qualified "R" "A")) (.col (.qualified "T" "c")),
        .cmp .eq (.col (.qualified "R" "A")) (.col (.qualified "Z" "d"))], []]) := by
  decide +kernel

end CsvQuery
