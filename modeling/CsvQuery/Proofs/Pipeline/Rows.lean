import CsvQuery.Exec.Pipeline
import CsvQuery.Proofs.Pipeline.Operators
import CsvQuery.Proofs.Predicate.Truth
import CsvQuery.Proofs.Plan.Names
import CsvQuery.Proofs.Text.Fields

/-!
# The rows of a join tree

Below the operators that finish a plan sits a join tree: scans, selections over them, and
joins. Its rows are a list computation over the rows of its tables (`PlanNode.rows`): a
selection keeps the rows its predicate is true of, read through the schema it is bound to,
and a join pairs each left row with the right rows that all its conditions are true of
(`joinRows`).

The pipeline built from a join tree answers exactly those rows, with no error, when
every selection and condition is a predicate whose columns the schema it is bound to
resolves (`PlanNode.Bindable`) and every table's data file reads to the end with rows as
wide as its scan's schema (`Catalog.ReadsRows`): that is `build_rows`. On the way, the
streams of selections and joins whose predicates never fail are plain list filters
(`Trace.filter_of_holds`, `Trace.primed_of_holdAll`).
-/

namespace CsvQuery

/-- The pairs of a row of `L` and a row of `R` that `keep` accepts, left rows outermost,
each pair being the two rows side by side. -/
def joinRows (keep : Tuple → Tuple → Bool) (L R : List Tuple) : List Tuple :=
  L.flatMap fun a => (R.filter (keep a)).map a.concat

@[simp] theorem joinRows_nil_left (keep : Tuple → Tuple → Bool) (R : List Tuple) :
    joinRows keep [] R = [] := rfl

@[simp] theorem joinRows_cons_left (keep : Tuple → Tuple → Bool) (a : Tuple) (L R : List Tuple) :
    joinRows keep (a :: L) R = (R.filter (keep a)).map a.concat ++ joinRows keep L R := rfl

@[simp] theorem joinRows_nil_right (keep : Tuple → Tuple → Bool) (L : List Tuple) :
    joinRows keep L [] = [] := by
  induction L with
  | nil => rfl
  | cons a L ih => simpa using ih

namespace Trace

/-! ## Streams whose predicates never fail -/

/-- A selection whose predicate answers on every tuple keeps the tuples it is true of. -/
theorem filter_of_holds {p : Bound} {keep : Tuple → Bool} :
    ∀ {ts : List Tuple}, (∀ t ∈ ts, p.holds (.single t) = .ok (keep t)) →
      filter p ts none = ⟨ts.filter keep, none⟩
  | [], _ => rfl
  | t :: ts, h => by
    have ih : filter p ts none = ⟨ts.filter keep, none⟩ :=
      filter_of_holds fun t' ht' => h t' (List.mem_cons_of_mem t ht')
    cases hk : keep t <;> simp [filter, h t List.mem_cons_self, hk, ih, cons]

theorem pass_of_holdAll {cs : List Bound} {lt : Tuple} {keep : Tuple → Bool} :
    ∀ {rt : Tuple} {rs : List Tuple},
      (∀ r ∈ rt :: rs, Bound.holdAll (.pair lt r) cs = .ok (keep r)) →
        pass cs lt rt rs none = ⟨((rt :: rs).filter keep).map lt.concat, none⟩
  | rt, [], h => by
    cases hk : keep rt <;> simp [pass, h rt List.mem_cons_self, hk, keepIf, cons, done]
  | rt, rt' :: rs, h => by
    have ih : pass cs lt rt' rs none = ⟨((rt' :: rs).filter keep).map lt.concat, none⟩ :=
      pass_of_holdAll fun r hr => h r (List.mem_cons_of_mem rt hr)
    cases hk : keep rt <;> simp [pass, h rt List.mem_cons_self, hk, ih, keepIf, cons]

theorem advance_of_holdAll {cs : List Bound} {keep : Tuple → Tuple → Bool} {R : List Tuple} :
    ∀ {L : List Tuple}, (∀ l ∈ L, ∀ r ∈ R, Bound.holdAll (.pair l r) cs = .ok (keep l r)) →
      advance cs (.ok ⟨R, none⟩) L none = ⟨joinRows keep L R, none⟩
  | [], _ => by cases R <;> rfl
  | l :: L, h => by
    have ih : advance cs (.ok ⟨R, none⟩) L none = ⟨joinRows keep L R, none⟩ :=
      advance_of_holdAll fun l' hl' r hr => h l' (List.mem_cons_of_mem l hl') r hr
    cases R with
    | nil => simpa [advance] using ih
    | cons rt rs =>
      rw [advance, pass_of_holdAll fun r hr => h l List.mem_cons_self r hr, ih]
      simp [andThen]

/-- A join whose conditions answer on every pair, over two streams that end without error,
pairs each left tuple with the right tuples its conditions are true of. -/
theorem primed_of_holdAll {cs : List Bound} {keep : Tuple → Tuple → Bool} {L R : List Tuple}
    (h : ∀ l ∈ L, ∀ r ∈ R, Bound.holdAll (.pair l r) cs = .ok (keep l r)) :
    primed cs ⟨L, none⟩ ⟨R, none⟩ = .ok ⟨joinRows keep L R, none⟩ := by
  cases R with
  | nil => cases L <;> simp [primed, done]
  | cons rt rs =>
    cases L with
    | nil => rfl
    | cons lt ls =>
      simp only [primed]
      rw [pass_of_holdAll fun r hr => h lt List.mem_cons_self r hr,
        advance_of_holdAll fun l hl r hr => h l (List.mem_cons_of_mem lt hl) r hr]
      simp [andThen]

end Trace

/-! ## Reading columns from rows -/

namespace Schema

/-- The value of each column in a row laid out by the schema, 0 for a column it does not
resolve. -/
def valuation (s : Schema) (x : Tuple) (c : ColumnRef) : Int := (s.lookup x c.name).getD 0

/-- A predicate the schema can bind: comparisons joined by `AND` and `OR` whose every
column the schema resolves. -/
def Binds (s : Schema) (e : Expr) : Prop := e.isPredicate ∧ ∀ c ∈ e.columns, (s.indexOf c.name).isSome

@[simp] theorem size_combine (s₁ s₂ : Schema) : (s₁.combine s₂).size = s₁.size + s₂.size := by
  simp [combine, size]

theorem getElem?_of_indexOf {s : Schema} {x : Tuple} (hx : x.arity = s.size) {c : ColumnRef}
    {p : Nat} (hp : s.indexOf c.name = some p) : x.values[p]? = some (s.valuation x c) := by
  have hlt : p < x.values.length := by
    have := lt_size_of_indexOf hp
    rw [← hx] at this
    exact this
  simp [valuation, lookup, hp, List.getElem?_eq_getElem hlt]

end Schema

namespace Bound

theorem exists_bind {s : Schema} :
    ∀ {e : Expr}, (∀ c ∈ e.columns, (s.indexOf c.name).isSome) → ∃ b, bind s e = .ok b
  | .lit v, _ => ⟨.lit v, rfl⟩
  | .col c, h => by
    obtain ⟨p, hp⟩ := Option.isSome_iff_exists.1 (h c (by simp [Expr.columns]))
    exact ⟨.pos p, by simp [Bound.bind, hp]⟩
  | .cmp op l r, h => by
    simp only [Expr.columns, List.mem_append] at h
    obtain ⟨bl, hbl⟩ := exists_bind fun c hc => h c (.inl hc)
    obtain ⟨br, hbr⟩ := exists_bind fun c hc => h c (.inr hc)
    exact ⟨.cmp op bl br, by simp [Bound.bind, hbl, hbr, Bind.bind, Except.bind, pure, Except.pure]⟩
  | .and l r, h => by
    simp only [Expr.columns, List.mem_append] at h
    obtain ⟨bl, hbl⟩ := exists_bind fun c hc => h c (.inl hc)
    obtain ⟨br, hbr⟩ := exists_bind fun c hc => h c (.inr hc)
    exact ⟨.and bl br, by simp [Bound.bind, hbl, hbr, Bind.bind, Except.bind, pure, Except.pure]⟩
  | .or l r, h => by
    simp only [Expr.columns, List.mem_append] at h
    obtain ⟨bl, hbl⟩ := exists_bind fun c hc => h c (.inl hc)
    obtain ⟨br, hbr⟩ := exists_bind fun c hc => h c (.inr hc)
    exact ⟨.or bl br, by simp [Bound.bind, hbl, hbr, Bind.bind, Except.bind, pure, Except.pure]⟩

theorem holds_of_bind {s : Schema} {e : Expr} {b : Bound} (he : s.Binds e)
    (hb : bind s e = .ok b) {β : Binding} {v : ColumnRef → Int}
    (hv : ∀ c p, s.indexOf c.name = some p → β.valueAt p = .ok (v c)) :
    b.holds β = .ok (e.truth v) := by
  obtain ⟨b', hb', h⟩ := holds_bind he.1 fun c hc => by
    obtain ⟨p, hp⟩ := Option.isSome_iff_exists.1 (he.2 c hc)
    exact ⟨p, hp, hv c p hp⟩
  rw [hb] at hb'
  cases hb'
  exact h

theorem holdAll_mapM_bind {s : Schema} :
    ∀ {es : List Expr}, (∀ e ∈ es, s.Binds e) →
      ∃ bs, es.mapM (bind s) = .ok bs ∧ ∀ (β : Binding) (v : ColumnRef → Int),
        (∀ c p, s.indexOf c.name = some p → β.valueAt p = .ok (v c)) →
          holdAll β bs = .ok (es.all (·.truth v))
  | [], _ => ⟨[], rfl, fun _ _ _ => rfl⟩
  | e :: es, h => by
    have he := h e List.mem_cons_self
    obtain ⟨b, hb⟩ := exists_bind he.2
    obtain ⟨bs, hbs, hall⟩ := holdAll_mapM_bind fun e' he' => h e' (List.mem_cons_of_mem e he')
    refine ⟨b :: bs, by simp [List.mapM_cons, hb, hbs, Bind.bind, Except.bind, pure, Except.pure],
      fun β v hv => ?_⟩
    have hhead := holds_of_bind he hb hv
    cases ht : e.truth v <;>
      simp [holdAll, hhead, ht, hall β v hv, Bind.bind, Except.bind, pure, Except.pure]

end Bound

/-! ## Join trees -/

namespace PlanNode

/-- The rows of a join tree, from the rows `src` of each table: a selection keeps the rows
its predicate is true of in the schema it is bound to, a join pairs each left row with the
right rows all its conditions are true of. The operators that finish a plan have none. -/
def rows (src : String → List Tuple) : PlanNode → List Tuple
  | .scan table _ _ => src table
  | .select e s n => (n.rows src).filter fun x => e.truth (s.valuation x)
  | .join cs s l r =>
    joinRows (fun a b => cs.all (·.truth (s.valuation (a.concat b)))) (l.rows src) (r.rows src)
  | _ => []

/-- The tables a join tree scans, each with its scan's schema, left to right. -/
def scans : PlanNode → List (String × Schema)
  | .scan table _ s => [(table, s)]
  | .select _ _ n => n.scans
  | .join _ _ l r => l.scans ++ r.scans
  | _ => []

/-- A join tree whose every selection and condition the schema it is bound to binds, each
selection bound to its input's schema and each join to its inputs' schemas side by side. -/
inductive Bindable : PlanNode → Prop
  | scan (table reference : String) (s : Schema) : Bindable (.scan table reference s)
  | select {e : Expr} {n : PlanNode} : Bindable n → n.schema.Binds e →
      Bindable (.select e n.schema n)
  | join {cs : List Expr} {l r : PlanNode} : Bindable l → Bindable r →
      (∀ e ∈ cs, (l.schema.combine r.schema).Binds e) →
      Bindable (.join cs (l.schema.combine r.schema) l r)

theorem Bindable.arity_rows {src : String → List Tuple} {n : PlanNode} (hn : n.Bindable)
    (hs : ∀ p ∈ n.scans, ∀ x ∈ src p.1, x.arity = p.2.size) :
    ∀ x ∈ n.rows src, x.arity = n.schema.size := by
  induction hn with
  | scan table reference s => simpa [scans, rows, schema] using hs
  | select _ _ ih =>
    intro x hx
    simp only [rows, List.mem_filter] at hx
    exact ih hs x hx.1
  | join _ _ _ ihl ihr =>
    intro x hx
    simp only [scans, List.mem_append] at hs
    simp only [rows, joinRows, List.mem_flatMap, List.mem_map, List.mem_filter] at hx
    obtain ⟨a, ha, b, ⟨hb, -⟩, rfl⟩ := hx
    rw [Tuple.arity_concat, ihl (fun p hp => hs p (.inl hp)) a ha,
      ihr (fun p hp => hs p (.inr hp)) b hb]
    simp [schema]

end PlanNode

/-- A line of a table's data file that a scan reads without error: text that, unless
blank, has one field per column of the table, each a 32-bit integer. -/
def TableDef.ReadableLine (d : TableDef) : Except IoFailure String → Prop
  | .ok text => Blank.isAllBlank text.toList = false →
      (text.splitOn ",").length = d.columns.length ∧
        ∀ f ∈ text.splitOn ",", (Decimal.readInt32? (Blank.trimString f).toList).isSome
  | .error _ => False

/-- A table whose data file exists and has only lines a scan reads without error. -/
def TableDef.Stocked (files : FileTree) (d : TableDef) : Prop :=
  ∃ bytes, files.lookup (FileTree.parts d.path) = .ok (.file bytes) ∧
    ∀ l ∈ LineSource.fileLines bytes, d.ReadableLine l

theorem parseRow_of_fields {text : String}
    (h : ∀ f ∈ text.splitOn ",", (Decimal.readInt32? (Blank.trimString f).toList).isSome)
    (table : String) (line : Nat) :
    parseRow table line text =
      .ok ⟨(text.splitOn ",").map fun f => (Decimal.readInt32? (Blank.trimString f).toList).getD 0⟩ := by
  unfold parseRow
  rw [mapM_eq_ok_of_forall (g := fun f => (Decimal.readInt32? (Blank.trimString f).toList).getD 0)]
  · rfl
  · intro f hf
    obtain ⟨v, hv⟩ := Option.isSome_iff_exists.1 (h f hf)
    simp [hv]

/-- A scan of lines it reads without error ends without error, each row as wide as the
table. -/
theorem scanLines_of_readable (d : TableDef) :
    ∀ (ls : List (Except IoFailure String)) (line : Nat), (∀ l ∈ ls, d.ReadableLine l) →
      (Trace.scanLines d.name line ls).stop = none ∧
        ∀ x ∈ (Trace.scanLines d.name line ls).tuples, x.arity = d.columns.length
  | [], _, _ => by simp [Trace.scanLines, Trace.done]
  | .error _ :: _, _, h => (h _ List.mem_cons_self : False).elim
  | .ok text :: ls, line, h => by
    have ih := scanLines_of_readable d ls (line + 1) fun l hl => h l (List.mem_cons_of_mem _ hl)
    unfold Trace.scanLines
    split
    · exact ih
    · rename_i hblank
      obtain ⟨hlen, hfields⟩ := h _ List.mem_cons_self (by simpa using hblank)
      rw [parseRow_of_fields hfields]
      refine ⟨ih.1, fun x hx => ?_⟩
      simp only [Trace.cons, List.mem_cons] at hx
      rcases hx with rfl | hx
      · simp [Tuple.arity, hlen]
      · exact ih.2 x hx

namespace Catalog

variable {files : FileTree} {c : Catalog}

/-- The rows a scan of a table reads from its data file; none when the table or its file
is missing. -/
def tableRows (files : FileTree) (c : Catalog) (table : String) : List Tuple :=
  match c.table? table with
  | none => []
  | some d =>
    match LineSource.openFile files d.path with
    | .ok src => (src.trace table 0).tuples
    | .error _ => []

/-- A scan of the table reads its data file to the end with no error, each row of `n`
values. -/
def ReadsRows (files : FileTree) (c : Catalog) (table : String) (n : Nat) : Prop :=
  ∃ d src, c.table? table = some d ∧ LineSource.openFile files d.path = .ok src ∧
    (src.trace table 0).stop = none ∧ ∀ x ∈ (src.trace table 0).tuples, x.arity = n

theorem ReadsRows.arity {table : String} {n : Nat} (h : c.ReadsRows files table n) :
    ∀ x ∈ c.tableRows files table, x.arity = n := by
  obtain ⟨d, src, hd, hsrc, -, harity⟩ := h
  simpa [tableRows, hd, hsrc] using harity

theorem ReadsRows.build {table reference : String} {s : Schema} (h : c.ReadsRows files table s.size) :
    ∃ op, c.build files (.scan table reference s) = .ok op ∧
      op.rest = ⟨c.tableRows files table, none⟩ := by
  obtain ⟨d, src, hd, hsrc, hstop, -⟩ := h
  refine ⟨Operator.scanOf table src, by simp [Catalog.build, hd, hsrc], ?_⟩
  cases ht : src.trace table 0
  simp_all [Operator.scanOf, Operator.rest, tableRows]

theorem readsRows_of_stocked {d : TableDef} (h : d.Stocked files) (hd : c.table? d.name = some d) :
    c.ReadsRows files d.name d.columns.length := by
  obtain ⟨bytes, hbytes, hlines⟩ := h
  obtain ⟨hstop, harity⟩ := scanLines_of_readable d _ 0 hlines
  exact ⟨d, .lines (LineSource.fileLines bytes) (LineSource.fileLines bytes), hd,
    by simp [LineSource.openFile, hbytes], hstop, harity⟩

/-- The pipeline of a bindable join tree over tables whose files read to the end, with rows
as wide as their scans' schemas, answers the tree's rows and ends without error. -/
theorem build_rows {n : PlanNode} (hn : n.Bindable)
    (hs : ∀ p ∈ n.scans, c.ReadsRows files p.1 p.2.size) :
    ∃ op, c.build files n = .ok op ∧ op.rest = ⟨n.rows (c.tableRows files), none⟩ := by
  induction hn with
  | scan table reference s => exact (hs (table, s) (by simp [PlanNode.scans])).build
  | select hn he ih =>
    obtain ⟨op, hop, hrest⟩ := ih hs
    obtain ⟨b, hb⟩ := Bound.exists_bind he.2
    refine ⟨.select op b, by
      simp [Catalog.build, hop, Operator.selectOf, hb, Bind.bind, Except.bind, Functor.map,
        Except.map], ?_⟩
    have hx := hn.arity_rows fun p hp => (hs p hp).arity
    simp only [Operator.rest, hrest, PlanNode.rows]
    exact Trace.filter_of_holds fun x hxm => Bound.holds_of_bind he hb fun c p hp =>
      Binding.valueAt_single (Schema.getElem?_of_indexOf (hx x hxm) hp)
  | @join cs l r hl hr hcs ihl ihr =>
    simp only [PlanNode.scans, List.mem_append] at hs
    obtain ⟨opl, hopl, hrestl⟩ := ihl fun p hp => hs p (.inl hp)
    obtain ⟨opr, hopr, hrestr⟩ := ihr fun p hp => hs p (.inr hp)
    have hxl := hl.arity_rows fun p hp => (hs p (.inl hp)).arity
    have hxr := hr.arity_rows fun p hp => (hs p (.inr hp)).arity
    obtain ⟨bs, hbs, hall⟩ := Bound.holdAll_mapM_bind hcs
    -- every pair of a left and a right row is as wide as the join's schema
    have hprimed : Trace.primed bs opl.rest opr.rest =
        .ok ⟨(PlanNode.join cs (l.schema.combine r.schema) l r).rows (c.tableRows files), none⟩ := by
      rw [hrestl, hrestr]
      exact Trace.primed_of_holdAll fun a ha b hb => hall _ _ fun col p hp =>
        Binding.valueAt_pair (Schema.getElem?_of_indexOf
          (by rw [Tuple.arity_concat, hxl a ha, hxr b hb, Schema.size_combine]) hp)
    have hjoin := Operator.rest_joinOf (Catalog.built hopl).fresh (Catalog.built hopr).fresh cs
      (l.schema.combine r.schema)
    rw [hbs] at hjoin
    simp only [Except.bind, hprimed] at hjoin
    obtain ⟨op, hop, hrest⟩ := map_eq_ok.1 hjoin
    exact ⟨op, by simp [Catalog.build, hopl, hopr, hop, Bind.bind, Except.bind], hrest⟩

end Catalog

end CsvQuery
