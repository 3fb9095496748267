import CsvQuery.Proofs.Query.Grammar
import CsvQuery.Proofs.Predicate.Truth

/-!
# A join's ON condition reads as a conjunct of WHERE

A query read from SQL lists the tables of its FROM clause in the order written, the table
of every join included, and selects by the conjunction of every `ON` condition in the order
written, then the WHERE predicate (`join_on_reads_as_where`). So writing every join as a
comma, and its `ON` condition, in parentheses, as a conjunct ahead of WHERE, reads as the
same query:

* `Sql.Select.tableFactors`  the tables of a SELECT block's FROM clause, joins included;
* `Sql.Select.conditions`    its `ON` conditions in the order written, then its WHERE
                             predicate;
* `Sql.Select.commaForm`     the block with each table a FROM item of its own and the
                             conditions conjoined as `(c₁) AND (c₂) AND …` in WHERE;
* `Expr.conjoin`             the conjunction of predicates, grouped to the left.

`Select.toQuery` reads the FROM and WHERE clauses (`Sql.Select.fromWhere`) and then adds
DISTINCT, the SELECT list, GROUP BY and ORDER BY (`Sql.Select.finishQuery`), which do not
touch the tables or the selection (`Sql.Select.toQuery_eq`).
-/

namespace CsvQuery

/-! ## Conjunctions of predicates -/

/-- The conjunction of predicates, grouped to the left; none for no predicate. -/
def Expr.conjoin : List Expr → Option Expr
  | [] => none
  | p :: ps => some (ps.foldl .and p)

theorem Expr.flatten_foldl_and : ∀ (ps : List Expr) (p : Expr),
    (ps.foldl .and p).flatten = p.flatten ++ ps.flatMap Expr.flatten
  | [], p => by simp
  | q :: ps, p => by
    rw [List.foldl_cons, flatten_foldl_and ps, List.flatMap_cons, flatten, List.append_assoc]

theorem Expr.conjuncts_conjoin (ps : List Expr) :
    ((Expr.conjoin ps).map Expr.conjuncts).getD [] = ps.flatMap Expr.conjuncts := by
  rw [show Expr.conjuncts = Expr.flatten from funext conjuncts_eq_flatten]
  cases ps with
  | nil => rfl
  | cons p ps => simp only [conjoin, Option.map_some, Option.getD_some, flatten_foldl_and, List.flatMap_cons]

@[simp] theorem Expr.conjoin_toList_conjoin (ps : List Expr) :
    Expr.conjoin (Expr.conjoin ps).toList = Expr.conjoin ps := by
  cases ps <;> rfl

theorem Query.foldl_withPredicate_some : ∀ (ps : List Expr) (q : Query) (e : Expr),
    q.selection = some e → ps.foldl Query.withPredicate q = { q with selection := some (ps.foldl .and e) }
  | [], q, e, h => by simp [← h]
  | p :: ps, q, e, h => by
    rw [List.foldl_cons, foldl_withPredicate_some ps _ (.and e p) (by simp [withPredicate, h])]
    simp [withPredicate]

theorem Query.foldl_withPredicate_ofTables (tables : List TableRef) (ps : List Expr) :
    ps.foldl Query.withPredicate (.ofTables tables) =
      { Query.ofTables tables with selection := Expr.conjoin ps } := by
  cases ps with
  | nil => rfl
  | cons p ps =>
    rw [List.foldl_cons, foldl_withPredicate_some ps _ p rfl]
    rfl

theorem Query.withPredicate_foldl_ofTables (tables : List TableRef) (ps : List Expr) (p : Expr) :
    (ps.foldl Query.withPredicate (.ofTables tables)).withPredicate p =
      { Query.ofTables tables with selection := Expr.conjoin (ps ++ [p]) } := by
  rw [← foldl_withPredicate_ofTables, List.foldl_append]
  rfl

namespace Sql

/-! ## The tables and conditions of a SELECT block -/

/-- The table a join adds. -/
def Join.relation : Join → TableFactor
  | .mk rel _ _ _ => rel

/-- The condition of an inner join with `ON`; other joins add none. -/
def Join.onCondition : Join → Option Expr
  | .mk _ .inner (.on e) _ => some e
  | _ => none

/-- The tables of a FROM item in the order written: its first table, then the table of each
join. -/
def FromItem.tableFactors : FromItem → List TableFactor
  | .mk rel joins => rel :: joins.map Join.relation

/-- The `ON` conditions of a FROM item's joins, in the order written. -/
def FromItem.onConditions : FromItem → List Expr
  | .mk _ joins => joins.filterMap Join.onCondition

/-- The tables of a block's FROM clause, joins included, in the order written. -/
def Select.tableFactors : Select → List TableFactor
  | .mk _ _ _ _ source _ _ _ _ _ _ => source.flatMap FromItem.tableFactors

/-- The `ON` conditions of a block's joins in the order written, then its WHERE predicate. -/
def Select.conditions : Select → List Expr
  | .mk _ _ _ _ source _ selection _ _ _ _ => source.flatMap FromItem.onConditions ++ selection.toList

/-- The conjunction `(e₁) AND (e₂) AND …` of expressions in parentheses, grouped to the
left; none for no expression. -/
def conjoinNested : List Expr → Option Expr
  | [] => none
  | e :: es => some (es.foldl (fun acc e => .binary acc .and (.nested e)) (.nested e))

/-- The block with its joins written as commas: each table is a FROM item of its own, and
the `ON` conditions, in parentheses, are conjoined ahead of the WHERE predicate. -/
def Select.commaForm (s : Select) : Select :=
  match s with
  | .mk distinct top items into _ prewhere _ groupBy having qualify clauses =>
    .mk distinct top items into (s.tableFactors.map (FromItem.mk · [])) prewhere
      (conjoinNested s.conditions) groupBy having qualify clauses

/-- A query body with the joins of its SELECT block written as commas. -/
def SetExpr.commaForm : SetExpr → SetExpr
  | .select s => .select s.commaForm
  | body => body

/-- A query with the joins of its SELECT block written as commas. -/
def Query.commaForm : Query → Query
  | .mk w body orderBy limit offset limitBy fetch locks clauses =>
    .mk w body.commaForm orderBy limit offset limitBy fetch locks clauses

/-- The SELECT block that is a query's body. -/
def Query.block? : Query → Option Select
  | .mk _ (.select s) _ _ _ _ _ _ _ => some s
  | _ => none

/-! ## Reading the FROM clause -/

theorem Join.toTable_reads {j : Join} {r : TableRef × Option CsvQuery.Expr}
    (h : j.toTable = .ok r) :
    j.relation.toTableRef = .ok r.1 ∧ j.onCondition.mapM Expr.toPredicate = .ok r.2 := by
  obtain ⟨rel, kind, c, global⟩ := j
  obtain ⟨t, ht, h⟩ := bind_eq_ok.1 h
  -- each way a join reads adds its table `t`, and only `INNER ... ON` a condition
  split at h
  · obtain ⟨p, hp, h⟩ := bind_eq_ok.1 h
    cases h
    exact ⟨ht, by simp [onCondition, hp, Functor.map, Except.map]⟩
  · cases h
    exact ⟨ht, rfl⟩
  · cases h
  · cases h
    exact ⟨ht, rfl⟩
  · cases h

theorem Join.mapM_toTable_reads :
    ∀ {joins : List Join} {js : List (TableRef × Option CsvQuery.Expr)},
      joins.mapM Join.toTable = .ok js →
        (joins.map Join.relation).mapM TableFactor.toTableRef = .ok (js.map (·.1)) ∧
          (joins.filterMap Join.onCondition).mapM Expr.toPredicate = .ok (js.filterMap (·.2))
  | [], js, h => by
    cases h
    exact ⟨rfl, rfl⟩
  | j :: joins, js, h => by
    obtain ⟨r, hr, js', hjs', rfl⟩ := mapM_cons_eq_ok.1 h
    obtain ⟨htable, hcond⟩ := toTable_reads hr
    obtain ⟨htables, hconds⟩ := mapM_toTable_reads hjs'
    refine ⟨by rw [List.map_cons, List.mapM_cons, htable, htables]; rfl, ?_⟩
    rw [List.filterMap_cons, List.filterMap_cons]
    -- the condition of `j`, if any, comes first
    cases hc : j.onCondition with
    | none =>
      rw [hc, Option.mapM_none] at hcond
      rw [← Except.ok.inj hcond]
      exact hconds
    | some e =>
      rw [hc, Option.mapM_some] at hcond
      obtain ⟨p, hp, hpr⟩ := map_eq_ok.1 hcond
      rw [← hpr, List.mapM_cons, hp, hconds]
      rfl

theorem FromItem.toTables_reads {f : FromItem} {r : List TableRef × List CsvQuery.Expr}
    (h : f.toTables = .ok r) :
    f.tableFactors.mapM TableFactor.toTableRef = .ok r.1 ∧
      f.onConditions.mapM Expr.toPredicate = .ok r.2 := by
  obtain ⟨rel, joins⟩ := f
  obtain ⟨t, ht, h⟩ := bind_eq_ok.1 h
  obtain ⟨js, hjs, h⟩ := bind_eq_ok.1 h
  cases h
  obtain ⟨htables, hconds⟩ := Join.mapM_toTable_reads hjs
  exact ⟨by rw [tableFactors, List.mapM_cons, ht, htables]; rfl, hconds⟩

theorem FromItem.mapM_toTables_reads :
    ∀ {items : List FromItem} {parts : List (List TableRef × List CsvQuery.Expr)},
      items.mapM FromItem.toTables = .ok parts →
        (items.flatMap FromItem.tableFactors).mapM TableFactor.toTableRef = .ok (parts.flatMap (·.1)) ∧
          (items.flatMap FromItem.onConditions).mapM Expr.toPredicate = .ok (parts.flatMap (·.2))
  | [], parts, h => by
    cases h
    exact ⟨rfl, rfl⟩
  | f :: items, parts, h => by
    obtain ⟨r, hr, parts', hparts', rfl⟩ := mapM_cons_eq_ok.1 h
    obtain ⟨htables, hconds⟩ := toTables_reads hr
    obtain ⟨htables', hconds'⟩ := mapM_toTables_reads hparts'
    exact ⟨mapM_append_eq_ok htables htables', mapM_append_eq_ok hconds hconds'⟩

theorem fromTables_reads {source : List FromItem} {tables : List TableRef}
    {conds : List CsvQuery.Expr} (h : fromTables source = .ok (tables, conds)) :
    source ≠ [] ∧ (source.flatMap FromItem.tableFactors).mapM TableFactor.toTableRef = .ok tables ∧
      (source.flatMap FromItem.onConditions).mapM Expr.toPredicate = .ok conds := by
  cases source with
  | nil => cases h
  | cons f items =>
    obtain ⟨parts, hparts, h⟩ := bind_eq_ok.1 h
    cases h
    exact ⟨List.cons_ne_nil f items, FromItem.mapM_toTables_reads hparts⟩

theorem FromItem.mapM_toTables_single :
    ∀ {factors : List TableFactor} {tables : List TableRef},
      factors.mapM TableFactor.toTableRef = .ok tables →
        (factors.map (FromItem.mk · [])).mapM FromItem.toTables = .ok (tables.map fun t => ([t], []))
  | [], tables, h => by
    cases h
    rfl
  | rel :: factors, tables, h => by
    obtain ⟨t, ht, tables', htables', rfl⟩ := mapM_cons_eq_ok.1 h
    rw [List.map_cons, List.mapM_cons, toTables, ht, mapM_toTables_single htables']
    rfl

theorem fromTables_single_items {factors : List TableFactor} {tables : List TableRef}
    (h : factors.mapM TableFactor.toTableRef = .ok tables) (hne : factors ≠ []) :
    fromTables (factors.map (FromItem.mk · [])) = .ok (tables, []) := by
  cases factors with
  | nil => exact absurd rfl hne
  | cons rel factors =>
    have hparts := FromItem.mapM_toTables_single h
    rw [List.map_cons] at hparts
    simp [fromTables, hparts, pure, Except.pure, bind, Except.bind, List.flatMap_map]

/-! ## Reading the WHERE clause -/

theorem toPredicate_foldl_nested : ∀ (es : List Expr) (acc : Expr) (A : CsvQuery.Expr)
    (ps : List CsvQuery.Expr), acc.toPredicate = .ok A → es.mapM Expr.toPredicate = .ok ps →
      (es.foldl (fun acc e => .binary acc .and (.nested e)) acc).toPredicate = .ok (ps.foldl .and A)
  | [], _, _, _, hacc, h => by
    cases h
    exact hacc
  | e :: es, acc, A, ps, hacc, h => by
    obtain ⟨p, hp, ps', hps', rfl⟩ := mapM_cons_eq_ok.1 h
    have hnext : (Expr.binary acc .and (.nested e)).toPredicate = .ok (.and A p) := by
      rw [Expr.toPredicate, hacc, Expr.toPredicate, hp]
      rfl
    exact toPredicate_foldl_nested es _ _ ps' hnext hps'

theorem mapM_conjoinNested {es : List Expr} {ps : List CsvQuery.Expr}
    (h : es.mapM Expr.toPredicate = .ok ps) :
    (conjoinNested es).mapM Expr.toPredicate = .ok (CsvQuery.Expr.conjoin ps) := by
  cases es with
  | nil =>
    cases h
    rfl
  | cons e es =>
    obtain ⟨p, hp, ps', hps', rfl⟩ := mapM_cons_eq_ok.1 h
    have hfirst : (Expr.nested e).toPredicate = .ok p := by rw [Expr.toPredicate, hp]
    rw [conjoinNested, Option.mapM_some, toPredicate_foldl_nested es _ p ps' hfirst hps']
    rfl

theorem mapM_toList {sel : Option Expr} {S : Option CsvQuery.Expr}
    (h : sel.mapM Expr.toPredicate = .ok S) : sel.toList.mapM Expr.toPredicate = .ok S.toList := by
  cases sel with
  | none =>
    cases h
    rfl
  | some w =>
    obtain ⟨W, hW, rfl⟩ := map_eq_ok.1 h
    rw [Option.toList_some, List.mapM_cons, hW]
    rfl

/-! ## A SELECT block in two parts -/

/-- The query of a block's FROM and WHERE clauses: its tables, under its join conditions
and then its WHERE predicate. -/
def Select.fromWhere (source : List FromItem) (selection : Option Expr) :
    Except PlanError CsvQuery.Query := do
  let (tables, conditions) ← fromTables source
  let q := conditions.foldl CsvQuery.Query.withPredicate (CsvQuery.Query.ofTables tables)
  match selection with
  | some p => pure (q.withPredicate (← p.toPredicate))
  | none => pure q

/-- What a block adds to the query of its FROM and WHERE clauses: DISTINCT, the SELECT
list, GROUP BY and ORDER BY. -/
def Select.finishQuery (orderBy : List OrderExpr) (distinct : Option Distinct)
    (items : List SelectItem) (groupBy : GroupBy) (q : CsvQuery.Query) :
    Except PlanError CsvQuery.Query := do
  let isDistinct ← match distinct with
    | none => pure false
    | some .plain => pure true
    | some (.on _) => throw (.unsupported "DISTINCT ON")
  let projection ← toTargets items
  let groupCols ← match groupBy with
    | .exprs es _ => es.mapM Expr.toColumnRef
    | .all _ => throw (.unsupported "GROUP BY ALL")
  let keys ← orderBy.mapM OrderExpr.toOrderItem
  return { q with distinct := isDistinct, projection, groupBy := groupCols, orderBy := keys }

/-- A block without HAVING reads its FROM and WHERE clauses, then finishes the query. -/
theorem Select.toQuery_eq (orderBy : List OrderExpr) (distinct : Option Distinct)
    (top : Option String) (items : List SelectItem) (into : Option String)
    (source : List FromItem) (prewhere selection : Option Expr) (groupBy : GroupBy)
    (qualify : Option Expr) (clauses : SelectClauses) :
    (Select.mk distinct top items into source prewhere selection groupBy none qualify clauses).toQuery
        orderBy = fromWhere source selection >>= finishQuery orderBy distinct items groupBy := by
  rw [toQuery, fromWhere]
  cases fromTables source with
  | error e => rfl
  | ok r =>
    cases selection with
    | none => rfl
    | some p =>
      dsimp only
      cases p.toPredicate <;> rfl

theorem Select.toQuery_having {orderBy : List OrderExpr} {distinct : Option Distinct}
    {top : Option String} {items : List SelectItem} {into : Option String}
    {source : List FromItem} {prewhere selection : Option Expr} {groupBy : GroupBy}
    {having : Expr} {qualify : Option Expr} {clauses : SelectClauses} {q : CsvQuery.Query} :
    (Select.mk distinct top items into source prewhere selection groupBy (some having) qualify
      clauses).toQuery orderBy ≠ .ok q := by
  simp [toQuery, throw, throwThe, MonadExceptOf.throw, bind, Except.bind]

theorem Select.finishQuery_keeps {orderBy : List OrderExpr} {distinct : Option Distinct}
    {items : List SelectItem} {groupBy : GroupBy} {q q' : CsvQuery.Query}
    (h : finishQuery orderBy distinct items groupBy q = .ok q') :
    q'.tables = q.tables ∧ q'.selection = q.selection := by
  unfold finishQuery at h
  -- the branches that succeed return `q` with only its other fields set
  rcases distinct with _ | _ | _ <;> cases groupBy <;>
    simp [bind_eq_ok, throw, throwThe, MonadExceptOf.throw, pure, Except.pure] at h
  all_goals
    obtain ⟨_, -, _, -, _, -, rfl⟩ := h
    exact ⟨rfl, rfl⟩

theorem Select.fromWhere_of_fromTables {source : List FromItem} {tables : List TableRef}
    {conds : List CsvQuery.Expr} (hf : fromTables source = .ok (tables, conds))
    (selection : Option Expr) :
    fromWhere source selection =
      (fun S => { CsvQuery.Query.ofTables tables with
        selection := CsvQuery.Expr.conjoin (conds ++ S.toList) }) <$> selection.mapM Expr.toPredicate := by
  rw [fromWhere, hf]
  cases selection with
  | none => simp [CsvQuery.Query.foldl_withPredicate_ofTables, pure, Except.pure, bind, Except.bind,
      Functor.map, Except.map]
  | some w =>
    cases hw : w.toPredicate <;>
      simp [hw, CsvQuery.Query.withPredicate_foldl_ofTables, pure, Except.pure, bind, Except.bind,
        Functor.map, Except.map]

theorem Select.fromWhere_eq_ok {source : List FromItem} {selection : Option Expr}
    {Q : CsvQuery.Query} (h : fromWhere source selection = .ok Q) :
    ∃ tables conds S, fromTables source = .ok (tables, conds) ∧
      selection.mapM Expr.toPredicate = .ok S ∧
      Q = { CsvQuery.Query.ofTables tables with selection := CsvQuery.Expr.conjoin (conds ++ S.toList) } := by
  obtain ⟨⟨tables, conds⟩, hf, -⟩ := bind_eq_ok.1 h
  rw [fromWhere_of_fromTables hf] at h
  obtain ⟨S, hS, rfl⟩ := map_eq_ok.1 h
  exact ⟨tables, conds, S, hf, hS, rfl⟩

theorem Select.toQuery_mk_eq_ok {orderBy : List OrderExpr} {distinct : Option Distinct}
    {top : Option String} {items : List SelectItem} {into : Option String}
    {source : List FromItem} {prewhere selection : Option Expr} {groupBy : GroupBy}
    {having qualify : Option Expr} {clauses : SelectClauses} {q : CsvQuery.Query}
    (h : (Select.mk distinct top items into source prewhere selection groupBy having qualify
      clauses).toQuery orderBy = .ok q) :
    having = none ∧ ∃ Q, fromWhere source selection = .ok Q ∧
      finishQuery orderBy distinct items groupBy Q = .ok q := by
  cases having with
  | some e => exact absurd h toQuery_having
  | none =>
    rw [toQuery_eq] at h
    exact ⟨rfl, bind_eq_ok.1 h⟩

/-! ## Joins and commas -/

/-- A block that reads lists the tables of its FROM clause in the order written, selects by
the conjunction of its conditions' predicates, and reads the same with its joins written as
commas. -/
theorem Select.reads_as_commaForm {orderBy : List OrderExpr} {s : Select} {q : CsvQuery.Query}
    (h : s.toQuery orderBy = .ok q) :
    ∃ ps, s.tableFactors.mapM TableFactor.toTableRef = .ok q.tables ∧
      s.conditions.mapM Expr.toPredicate = .ok ps ∧ q.selection = CsvQuery.Expr.conjoin ps ∧
      s.commaForm.toQuery orderBy = .ok q := by
  obtain ⟨distinct, top, items, into, source, prewhere, selection, groupBy, having, qualify,
    clauses⟩ := s
  obtain ⟨rfl, Q, hQ, hfinish⟩ := toQuery_mk_eq_ok h
  obtain ⟨tables, conds, S, hf, hS, rfl⟩ := fromWhere_eq_ok hQ
  obtain ⟨hne, htables, hconds⟩ := fromTables_reads hf
  obtain ⟨htab, hsel⟩ := finishQuery_keeps hfinish
  have hps := mapM_append_eq_ok hconds (mapM_toList hS)
  refine ⟨conds ++ S.toList, htab ▸ htables, hps, hsel, ?_⟩
  -- written with commas, the FROM clause reads as the same tables and no join condition
  have hfactors : source.flatMap FromItem.tableFactors ≠ [] := by
    obtain ⟨⟨rel, joins⟩, items, rfl⟩ := List.exists_cons_of_ne_nil hne
    simp [FromItem.tableFactors]
  have hf' := fromTables_single_items htables hfactors
  rw [commaForm, toQuery_eq, tableFactors, conditions, fromWhere_of_fromTables hf',
    mapM_conjoinNested hps]
  simp only [Functor.map, Except.map, List.nil_append, CsvQuery.Expr.conjoin_toList_conjoin]
  exact hfinish

/-- A query that reads has a SELECT block for its body, which reads as it does, and so does
the query with that block's joins written as commas. -/
theorem Query.toQuery_eq_ok {sq : Query} {q : CsvQuery.Query} (h : sq.toQuery = .ok q) :
    ∃ s orderBy, sq.block? = some s ∧ s.toQuery orderBy = .ok q ∧
      sq.commaForm.toQuery = s.commaForm.toQuery orderBy := by
  obtain ⟨w, body, orderBy, limit, offset, limitBy, fetch, locks, clauses⟩ := sq
  -- no WITH, LIMIT or OFFSET, and a SELECT block for the body
  cases w <;> cases limit <;> cases offset <;> cases body <;>
    simp [toQuery, throw, throwThe, MonadExceptOf.throw, bind, Except.bind] at h
  exact ⟨_, _, rfl, h, rfl⟩

end Sql

theorem Query.ofSql_eq_ok {text : String} {q : Query} (h : Query.ofSql text = .ok q) :
    ∃ sq, Sql.parse text = .ok [.query sq] ∧ sq.toQuery = .ok q := by
  unfold Query.ofSql Query.ofStatements at h
  split at h
  · cases h
  · cases h
  · next sq hparse => exact ⟨sq, hparse, h⟩
  · cases h
  · cases h

/-- A query read from SQL lists every table of its FROM clause, joins included, in the order
written, and its selection's conjuncts are those of every `ON` condition in the order
written, then those of the WHERE predicate. The same query is read with every join written
as a comma and its `ON` condition, in parentheses, conjoined ahead of the WHERE predicate. -/
theorem join_on_reads_as_where {text : String} {q : Query} (h : Query.ofSql text = .ok q) :
    ∃ sq s ps, Sql.parse text = .ok [.query sq] ∧ sq.block? = some s ∧
      s.tableFactors.mapM Sql.TableFactor.toTableRef = .ok q.tables ∧
      s.conditions.mapM Sql.Expr.toPredicate = .ok ps ∧
      (q.selection.map Expr.conjuncts).getD [] = ps.flatMap Expr.conjuncts ∧
      sq.commaForm.toQuery = .ok q := by
  obtain ⟨sq, hparse, hsq⟩ := Query.ofSql_eq_ok h
  obtain ⟨s, orderBy, hblock, hs, hcomma⟩ := Sql.Query.toQuery_eq_ok hsq
  obtain ⟨ps, htables, hconds, hsel, hs'⟩ := Sql.Select.reads_as_commaForm hs
  exact ⟨sq, s, ps, hparse, hblock, htables, hconds, by rw [hsel, Expr.conjuncts_conjoin],
    hcomma.trans hs'⟩

/-- A FROM clause of three joins, the first with a compound `ON` condition and one a
`CROSS JOIN`, and a WHERE predicate. -/
def joinText : String :=
  "SELECT * FROM R JOIN S ON R.A = S.A AND S.B > 0 CROSS JOIN T JOIN U ON T.C = U.C WHERE R.A < 5"

/-- `joinText` with its joins written as commas and its conditions in WHERE. -/
def commaText : String :=
  "SELECT * FROM R, S, T, U WHERE (R.A = S.A AND S.B > 0) AND (T.C = U.C) AND (R.A < 5)"

/-- The query both texts read as. -/
def joinQuery : Query :=
  { tables := [⟨"R", none⟩, ⟨"S", none⟩, ⟨"T", none⟩, ⟨"U", none⟩]
    selection := some (.and (.and (.and
      (.cmp .eq (.col (.qualified "R" "A")) (.col (.qualified "S" "A")))
      (.cmp .gt (.col (.qualified "S" "B")) (.lit 0)))
      (.cmp .eq (.col (.qualified "T" "C")) (.col (.qualified "U" "C"))))
      (.cmp .lt (.col (.qualified "R" "A")) (.lit 5))) }

theorem explicit_joins_read_as_commas :
    ∃ sq, Sql.parse joinText = .ok [.query sq] ∧ sq.commaForm.toQuery = .ok joinQuery ∧
      Query.ofSql commaText = .ok joinQuery := by
  obtain ⟨sq, -, -, hparse, -, -, -, -, hcomma⟩ :=
    join_on_reads_as_where (eq_ok_of_toOption (by decide +kernel) : Query.ofSql joinText = .ok joinQuery)
  exact ⟨sq, hparse, hcomma, eq_ok_of_toOption (by decide +kernel)⟩

end CsvQuery
