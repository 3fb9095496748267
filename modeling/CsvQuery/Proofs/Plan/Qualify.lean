import CsvQuery.Proofs.Plan.Placement
import CsvQuery.Proofs.Plan.Names
import CsvQuery.Proofs.Predicate.Truth
import CsvQuery.Proofs.Catalog.Load

/-!
# Resolving columns against tables with plain names

Before classifying, the planner resolves each column of a conjunct (`ScopeTable.qualify`):
a bare column takes the reference of the first table in scope that has it, a qualified one
is checked against the table it names. The tables in scope are plain here (`PlainScope`):
their references are distinct and their schemas join a dot-free reference to dot-free
columns, as every scope resolved from a catalog and a FROM clause without dots is
(`plainScope_resolveTables`). Then, for a column whose name part holds no dot:

* its resolved form names the same position of the whole FROM schema (`Schema.ofScope`)
  as the column as written (`PlainScope.indexOf_qualify`), so resolving changes no value
  read through that schema;
* its resolved form carries a reference, and the table in scope with that reference
  resolves it (`PlainScope.qualify_resolves`);
* a resolved conjunct on one table names that table's columns only
  (`Qualified.qualifier_of_bucket`), which no other table's schema resolves
  (`PlainScope.indexOf_other`).
-/

namespace CsvQuery

/-! ## Sorted names -/

namespace Expr

theorem mem_insertSorted {a n : String} : ∀ {l : List String}, a ∈ insertSorted n l ↔ a = n ∨ a ∈ l
  | [] => by simp [insertSorted]
  | m :: ms => by
    unfold insertSorted
    split
    · simp
    · split
      · rename_i h
        subst h
        simp
      · rw [List.mem_cons, List.mem_cons, mem_insertSorted, or_left_comm]

theorem mem_foldl_insertSorted {β : Type} (g : β → String) {a : String} :
    ∀ {l : List β} {acc : List String},
      a ∈ l.foldl (fun acc x => insertSorted (g x) acc) acc ↔ a ∈ acc ∨ ∃ x ∈ l, g x = a
  | [], acc => by simp
  | x :: l, acc => by
    rw [List.foldl_cons, mem_foldl_insertSorted g, mem_insertSorted]
    simp only [List.mem_cons, exists_eq_or_imp]
    constructor
    · rintro ((rfl | h) | h)
      · exact .inr (.inl rfl)
      · exact .inl h
      · exact .inr (.inr h)
    · rintro (h | rfl | h)
      · exact .inl (.inr h)
      · exact .inl (.inl rfl)
      · exact .inr h

theorem mem_references {e : Expr} {r : String} :
    r ∈ e.references ↔ ∃ c ∈ e.columns, c.qualifier = some r := by
  refine (mem_foldl_insertSorted id).trans ?_
  simp [List.mem_filterMap]

theorem mem_columnNames {e : Expr} {n : String} :
    n ∈ e.columnNames ↔ ∃ c ∈ e.columns, c.name = n := by
  refine (mem_foldl_insertSorted ColumnRef.name).trans ?_
  simp

end Expr

/-! ## Resolving columns -/

namespace ScopeTable

variable {scope : List ScopeTable} {c c' : ColumnRef} {w e : Expr}

theorem qualifyAll_eq_ok (h : qualifyAll scope w = .ok e) :
    (∀ c ∈ w.columns, ∃ c', qualify scope c = .ok c') ∧
      e = w.mapColumns fun c => (qualify scope c).toOption.getD c := by
  unfold qualifyAll at h
  split at h
  · cases h
  · rename_i hnone
    cases h
    refine ⟨fun c hc => ?_, rfl⟩
    have := List.findSome?_eq_none_iff.1 hnone c hc
    cases hq : qualify scope c with
    | error err => simp [hq] at this
    | ok c' => exact ⟨c', rfl⟩

theorem qualify_shape (h : qualify scope c = .ok c') :
    c'.column = c.column ∧ ∃ r, c'.qualifier = some r := by
  unfold qualify at h
  split at h
  · split at h
    · cases h
      exact ⟨rfl, _, rfl⟩
    · cases h
  · rename_i q hq
    split at h
    · split at h
      · cases h
        exact ⟨rfl, q, hq⟩
      · cases h
    · cases h
      exact ⟨rfl, q, hq⟩

end ScopeTable

/-! ## Plain scopes -/

/-- The whole FROM schema: the schemas of the tables in scope side by side, in order. -/
def Schema.ofScope (scope : List ScopeTable) : Schema := ⟨scope.flatMap (·.schema.columns)⟩

@[simp] theorem Schema.ofScope_cons (u : ScopeTable) (us : List ScopeTable) :
    Schema.ofScope (u :: us) = u.schema.combine (Schema.ofScope us) := rfl

/-- Tables in scope with distinct references, each schema joining a dot-free reference to
dot-free columns. -/
structure PlainScope (scope : List ScopeTable) : Prop where
  nodup : (scope.map (·.reference)).Nodup
  table : ∀ u ∈ scope, DotFree u.reference ∧
    ∃ cols, (∀ c ∈ cols, DotFree c) ∧ u.schema = Schema.ofTable u.reference cols

namespace PlainScope

theorem tail {u : ScopeTable} {us : List ScopeTable} (hs : PlainScope (u :: us)) : PlainScope us :=
  ⟨(List.nodup_cons.1 hs.nodup).2, fun v hv => hs.table v (List.mem_cons_of_mem u hv)⟩

variable {scope : List ScopeTable} (hs : PlainScope scope)
include hs

theorem schema_plain {u : ScopeTable} (hu : u ∈ scope) : u.schema.Plain := by
  obtain ⟨hr, cols, hcols, hsch⟩ := hs.table u hu
  rw [hsch]
  exact Schema.plain_ofTable hr hcols

theorem ofScope_plain : (Schema.ofScope scope).Plain := by
  intro e he
  simp only [Schema.ofScope, List.mem_flatMap] at he
  obtain ⟨u, hu, he⟩ := he
  exact hs.schema_plain hu e he

theorem eq_of_reference_eq {u v : ScopeTable} (hu : u ∈ scope) (hv : v ∈ scope)
    (h : u.reference = v.reference) : u = v := by
  induction scope with
  | nil => cases hu
  | cons x xs ih =>
    have hnd := List.nodup_cons.1 hs.nodup
    rcases List.mem_cons.1 hu with rfl | hu' <;> rcases List.mem_cons.1 hv with rfl | hv'
    · rfl
    · exact absurd (List.mem_map.2 ⟨v, hv', h.symm⟩) hnd.1
    · exact absurd (List.mem_map.2 ⟨u, hu', h⟩) hnd.1
    · exact ih hs.tail hu' hv'

/-- A table's schema resolves no column qualified by another reference. -/
theorem indexOf_other {u : ScopeTable} (hu : u ∈ scope) {r d : String} (hr : DotFree r)
    (hne : u.reference ≠ r) : u.schema.indexOf (r ++ "." ++ d) = none := by
  obtain ⟨hur, cols, hcols, hsch⟩ := hs.table u hu
  rw [hsch, Schema.indexOf_ofTable_qualified hur hcols hr, if_neg hne]

theorem indexOf_own {u : ScopeTable} (hu : u ∈ scope) {d : String} (hd : DotFree d) :
    u.schema.indexOf (u.reference ++ "." ++ d) = u.schema.indexOf d := by
  obtain ⟨hur, cols, hcols, hsch⟩ := hs.table u hu
  rw [hsch, Schema.indexOf_ofTable_qualified hur hcols hur, if_pos rfl,
    Schema.indexOf_ofTable_bare hur hcols hd]

theorem indexOf_first {d : String} (hd : DotFree d) {t : ScopeTable}
    (ht : scope.find? (·.schema.hasColumn d) = some t) :
    (Schema.ofScope scope).indexOf (t.reference ++ "." ++ d) = (Schema.ofScope scope).indexOf d := by
  induction scope with
  | nil => cases ht
  | cons u us ih =>
    have hu : u ∈ u :: us := List.mem_cons_self
    rw [Schema.ofScope_cons, Schema.indexOf_combine (hs.schema_plain hu) (PlainScope.tail hs).ofScope_plain,
      Schema.indexOf_combine (hs.schema_plain hu) (PlainScope.tail hs).ofScope_plain]
    rw [List.find?_cons] at ht
    cases hcol : u.schema.hasColumn d
    · -- the first table lacks the column, and `t` comes later with another reference
      rw [hcol] at ht
      have htu : t ∈ us := List.mem_of_find?_eq_some ht
      have hne : u.reference ≠ t.reference := fun h =>
        (List.nodup_cons.1 hs.nodup).1 (List.mem_map.2 ⟨t, htu, h.symm⟩)
      have hnone : u.schema.indexOf d = none := by
        simpa [Schema.hasColumn] using hcol
      rw [hs.indexOf_other hu (hs.table t (List.mem_cons_of_mem u htu)).1 hne, hnone,
        ih hs.tail ht]
    · rw [hcol] at ht
      cases ht
      -- the first table has the column: both names resolve there, at the same position
      obtain ⟨p, hp⟩ := Option.isSome_iff_exists.1 (by simpa [Schema.hasColumn] using hcol)
      rw [hs.indexOf_own hu hd, hp]
      rfl

/-- Resolving a column with a dot-free name part keeps the position it names in the whole
FROM schema. -/
theorem indexOf_qualify {c c' : ColumnRef} (hc : DotFree c.column)
    (h : ScopeTable.qualify scope c = .ok c') :
    (Schema.ofScope scope).indexOf c'.name = (Schema.ofScope scope).indexOf c.name := by
  unfold ScopeTable.qualify at h
  split at h
  · rename_i hq
    split at h
    · rename_i t ht
      cases h
      simp only [ColumnRef.name, hq]
      exact hs.indexOf_first hc ht
    · cases h
  · split at h
    · split at h
      · cases h
        rfl
      · cases h
    · cases h
      rfl

/-- The table in scope with the reference of a resolved column resolves it. -/
theorem qualify_resolves {c c' : ColumnRef} (hc : DotFree c.column)
    (h : ScopeTable.qualify scope c = .ok c') :
    ∀ u ∈ scope, c'.qualifier = some u.reference → (u.schema.indexOf c'.name).isSome := by
  intro u hu hqu
  unfold ScopeTable.qualify at h
  split at h
  · split at h
    · rename_i t ht
      cases h
      -- the column was resolved by the first table that has it, the only one with its reference
      obtain rfl : t = u := hs.eq_of_reference_eq (List.mem_of_find?_eq_some ht) hu
        (Option.some.inj hqu)
      simpa [ColumnRef.name, hs.indexOf_own hu hc, Schema.hasColumn] using List.find?_some ht
    · cases h
  · rename_i q hq
    split at h
    · rename_i t ht
      split at h
      · rename_i hcol
        cases h
        have htq : t.reference = q := by simpa using List.find?_some ht
        obtain rfl : t = u := hs.eq_of_reference_eq (List.mem_of_find?_eq_some ht) hu
          (htq.trans (Option.some.inj (hq.symm.trans hqu)))
        simpa [Schema.hasColumn] using hcol
      · cases h
    · rename_i hnone
      cases h
      have := List.find?_eq_none.1 hnone u hu
      simp [← Option.some.inj (hq.symm.trans hqu)] at this

end PlainScope

/-! ## Resolved conjuncts -/

/-- Every column of the conjunct carries a reference and a dot-free name part, and the table
in scope with that reference, if any, resolves it. -/
def Qualified (scope : List ScopeTable) (e : Expr) : Prop :=
  ∀ c ∈ e.columns, DotFree c.column ∧
    ∃ r, c.qualifier = some r ∧ ∀ u ∈ scope, u.reference = r → (u.schema.indexOf c.name).isSome

theorem PlainScope.qualified {scope : List ScopeTable} (hs : PlainScope scope) {w e : Expr}
    (h : ScopeTable.qualifyAll scope w = .ok e) (hw : ∀ c ∈ w.columns, DotFree c.column) :
    Qualified scope e := by
  obtain ⟨hcols, rfl⟩ := ScopeTable.qualifyAll_eq_ok h
  intro c' hc'
  rw [Expr.columns_mapColumns, List.mem_map] at hc'
  obtain ⟨c, hc, rfl⟩ := hc'
  obtain ⟨c', hq⟩ := hcols c hc
  rw [hq]
  obtain ⟨hcol, r, hr⟩ := ScopeTable.qualify_shape hq
  exact ⟨hcol ▸ hw c hc, r, hr, fun u hu hur =>
    hs.qualify_resolves (hw c hc) hq u hu (hr.trans (congrArg some hur.symm))⟩

/-- A resolved conjunct on one table names that table's columns only. -/
theorem Qualified.qualifier_of_bucket {scope : List ScopeTable} {e : Expr} (he : Qualified scope e)
    {first r : String} (hb : e.bucket first = some r) : ∀ c ∈ e.columns, c.qualifier = some r := by
  intro c hc
  obtain ⟨-, q, hq, -⟩ := he c hc
  have hmem : q ∈ e.references := Expr.mem_references.2 ⟨c, hc, hq⟩
  unfold Expr.bucket at hb
  split at hb
  · rename_i hnil
    rw [hnil] at hmem
    cases hmem
  · rename_i r' hone
    rw [hone, List.mem_singleton] at hmem
    rw [hq, hmem, hb]
  · cases hb

/-! ## The scope of a FROM clause -/

theorem resolveTables_spec {c : Catalog} {tables : List TableRef} {scope : List ScopeTable}
    (h : Planner.resolveTables c tables = .ok scope) :
    ∀ u ∈ scope, ∃ t ∈ tables, ∃ d, c.table? t.table = some d ∧
      u = ⟨d.name, t.reference, d.schema t.reference⟩ := by
  unfold Planner.resolveTables at h
  split at h
  · cases h
  dsimp only at h
  rw [bind_eq_ok] at h
  obtain ⟨st, hloop, h⟩ := h
  cases h
  refine forIn_invariant (fun st : List String × List ScopeTable =>
    ∀ u ∈ st.2, ∃ t ∈ tables, ∃ d, c.table? t.table = some d ∧
      u = ⟨d.name, t.reference, d.schema t.reference⟩) ?_ (by simp) hloop
  rintro t ht ⟨seen, out⟩ s' hout hstep
  dsimp only at hstep hout
  split at hstep
  · rename_i d hd
    split at hstep
    · simp [throw, throwThe, MonadExceptOf.throw, bind, Except.bind] at hstep
    · simp only [pure, Except.pure, Except.ok.injEq, ForInStep.yield.injEq, reduceCtorEq,
        or_false] at hstep
      subst hstep
      intro u hu
      rcases List.mem_append.1 hu with hu | hu
      · exact hout u hu
      · rw [List.mem_singleton] at hu
        exact ⟨t, ht, d, hd, hu⟩
  · simp [throw, throwThe, MonadExceptOf.throw, bind, Except.bind] at hstep

/-- A FROM clause without dots, over catalog tables without dots in their columns, resolves
to a plain scope. -/
theorem plainScope_resolveTables {c : Catalog} {tables : List TableRef} {scope : List ScopeTable}
    (h : Planner.resolveTables c tables = .ok scope) (hrefs : ∀ t ∈ tables, DotFree t.reference)
    (hcols : ∀ t ∈ tables, ∀ d, c.table? t.table = some d → ∀ col ∈ d.columns, DotFree col) :
    PlainScope scope := by
  refine ⟨nodup_resolveTables h, fun u hu => ?_⟩
  obtain ⟨t, ht, d, hd, rfl⟩ := resolveTables_spec h u hu
  exact ⟨hrefs t ht, d.columns, hcols t ht d hd, rfl⟩

end CsvQuery
