import CsvQuery.Query.OfSql
import CsvQuery.Proofs.Except

/-!
# The SQL that reads as a query

`Query.ofSql` accepts a text exactly when the text is one statement, a query whose parts
that the translation reads are in the documented grammar (`ofSql_accepts_documented`):

  `SELECT [DISTINCT] (* | item, ...) FROM t [[AS] a] {, t [[AS] a] | [INNER | CROSS] JOIN t
  [[AS] a] [ON p]} [WHERE p] [GROUP BY col, ...] [ORDER BY col [ASC | DESC], ...]`

The grammar (`Sql.Query.Documented`) is one predicate for each part of the syntax, and
each function of the translation succeeds exactly on its part's predicate. It constrains
only what the translation reads. What the reader keeps beyond that is accepted and changes
nothing: `TOP`, `INTO`, `PREWHERE`, `QUALIFY`, GROUP BY modifiers such as `WITH ROLLUP`,
`NULLS FIRST`, the FETCH and locking clauses, a table's arguments and hints, and the
quantifier, clauses and window of a SUM, so that `SUM(DISTINCT x)` reads as `SUM(x)`.
-/

namespace CsvQuery

namespace Sql

/-! ## The grammar -/

/-- A column reference: a name, or a name qualified by one table reference. -/
inductive Expr.IsColumn : Expr → Prop
  | ident (i : Ident) : IsColumn (.ident i)
  | qualified (q c : Ident) : IsColumn (.compound [q, c])

/-- Literal text that reads as a 64-bit integer. -/
def IsInteger (text : String) : Prop := (Decimal.readInt64? text.toList).isSome

/-- A comparison operand: a 64-bit integer literal, possibly negated, or a column, in
parentheses or not. -/
inductive Expr.IsOperand : Expr → Prop
  | nested {e : Expr} : IsOperand e → IsOperand (.nested e)
  | lit {t : String} (long : Bool) : IsInteger t → IsOperand (.lit (.number t long))
  | neg {t : String} (long : Bool) : IsInteger ("-" ++ t) →
      IsOperand (.unary .minus (.lit (.number t long)))
  | column {e : Expr} : e.IsColumn → IsOperand e

/-- The comparison operators. -/
def BinOp.IsComparison (op : BinOp) : Prop := op ∈ [BinOp.eq, .ne, .lt, .le, .gt, .ge]

instance : DecidablePred BinOp.IsComparison := fun op => inferInstanceAs (Decidable (op ∈ _))

/-- A predicate: comparisons of two operands joined by `AND` and `OR`, in parentheses or
not. -/
inductive Expr.IsPredicate : Expr → Prop
  | nested {e : Expr} : IsPredicate e → IsPredicate (.nested e)
  | and {l r : Expr} : IsPredicate l → IsPredicate r → IsPredicate (.binary l .and r)
  | or {l r : Expr} : IsPredicate l → IsPredicate r → IsPredicate (.binary l .or r)
  | cmp {l r : Expr} {op : BinOp} : op.IsComparison → l.IsOperand → r.IsOperand →
      IsPredicate (.binary l op r)

/-- The argument of a SUM: operands joined by `*`, in parentheses or not. -/
inductive Expr.IsProduct : Expr → Prop
  | mul {l r : Expr} : IsProduct l → IsProduct r → IsProduct (.binary l .multiply r)
  | nested {e : Expr} : IsProduct e → IsProduct (.nested e)
  | operand {e : Expr} : e.IsOperand → IsProduct e

/-- An item of the SELECT list: a column, or a call of `SUM`, in any case, on one plain
argument. -/
inductive SelectItem.IsTarget : SelectItem → Prop
  | column {e : Expr} : e.IsColumn → IsTarget (.unnamed e)
  | sum {name : List Ident} {params : CallArgs} {quantifier : Option String} {e : Expr}
      {clauses : List CallClause} {withinGroup : List OrderExpr} {nulls : Option String}
      {window : Option Window} : (nameText name).toUpper = "SUM" → e.IsProduct →
      IsTarget (.unnamed (.call name params (.list quantifier [.unnamed e] clauses) withinGroup
        nulls window))

/-- The SELECT list: a lone `*`, or items each a column or a SUM. -/
def IsProjection (items : List SelectItem) : Prop :=
  (∃ options, items = [.wildcard options]) ∨ ∀ item ∈ items, item.IsTarget

/-- A base table, with an alias naming no columns, or with none. -/
inductive TableFactor.IsBase : TableFactor → Prop
  | plain (name : List Ident) (args : Option (List CallArg)) (hints : List Expr)
      (extras : TableExtras) : IsBase (.table name none args hints extras)
  | aliased (name : List Ident) (a : Ident) (args : Option (List CallArg)) (hints : List Expr)
      (extras : TableExtras) : IsBase (.table name (some (.mk a [])) args hints extras)

/-- A join onto a base table: `INNER` with an `ON` predicate or with no condition, or
`CROSS`. -/
inductive Join.IsDocumented : Join → Prop
  | on {rel : TableFactor} {e : Expr} (global : Bool) : rel.IsBase → e.IsPredicate →
      IsDocumented (.mk rel .inner (.on e) global)
  | inner {rel : TableFactor} (global : Bool) : rel.IsBase →
      IsDocumented (.mk rel .inner .none global)
  | cross {rel : TableFactor} (c : JoinConstraint) (global : Bool) : rel.IsBase →
      IsDocumented (.mk rel .cross c global)

/-- A FROM item: a base table followed by documented joins. -/
def FromItem.IsDocumented : FromItem → Prop
  | .mk rel joins => rel.IsBase ∧ ∀ j ∈ joins, j.IsDocumented

/-- A sort key: a column, ascending or descending. -/
def OrderExpr.IsDocumented : OrderExpr → Prop
  | .mk e _ _ _ => e.IsColumn

/-- GROUP BY: columns. -/
def GroupBy.IsDocumented : GroupBy → Prop
  | .exprs es _ => ∀ e ∈ es, e.IsColumn
  | .all _ => False

/-- A SELECT block in the grammar, under the ORDER BY entries of its query. -/
def Select.Documented (orderBy : List OrderExpr) : Select → Prop
  | .mk distinct _ items _ source _ selection groupBy having _ _ =>
    having = none ∧ source ≠ [] ∧ (∀ f ∈ source, f.IsDocumented) ∧
      (∀ p, selection = some p → p.IsPredicate) ∧ (∀ d, distinct = some d → d = .plain) ∧
      IsProjection items ∧ groupBy.IsDocumented ∧ ∀ o ∈ orderBy, o.IsDocumented

/-- A query in the grammar: no WITH, LIMIT or OFFSET, and a SELECT block for its body. -/
def Query.Documented : Query → Prop
  | .mk w body orderBy limit offset _ _ _ _ =>
    w = none ∧ limit = none ∧ offset = none ∧
      ∃ s, body = .select s ∧ s.Documented (orderBy.getD [])

/-! ## Expressions -/

theorem integerOf_ok_iff (text : String) : (∃ v, integerOf text = .ok v) ↔ IsInteger text := by
  unfold integerOf IsInteger
  cases Decimal.readInt64? text.toList <;> simp

theorem Expr.toColumnRef_ok_iff (e : Expr) : (∃ c, e.toColumnRef = .ok c) ↔ e.IsColumn := by
  constructor
  · rintro ⟨c, h⟩
    unfold toColumnRef at h
    split at h
    · exact .ident _
    · exact .qualified _ _
    · cases h
    · cases h
  · rintro (⟨i⟩ | ⟨q, c⟩) <;> exact ⟨_, rfl⟩

theorem Expr.toOperand_ok_iff (e : Expr) : (∃ a, e.toOperand = .ok a) ↔ e.IsOperand := by
  fun_induction toOperand e with
  | case1 e ih =>
    rw [ih]
    refine ⟨.nested, fun h => ?_⟩
    cases h with
    | nested h => exact h
    | column h => cases h
  | case2 t long =>
    rw [exists_map_eq_ok, integerOf_ok_iff]
    refine ⟨.lit long, fun h => ?_⟩
    cases h with
    | lit _ h => exact h
    | column h => cases h
  | case3 t long =>
    rw [exists_map_eq_ok, integerOf_ok_iff]
    refine ⟨.neg long, fun h => ?_⟩
    cases h with
    | neg _ h => exact h
    | column h => cases h
  | case4 e hlit =>
    refine ⟨fun ⟨_, h⟩ => (by cases h), fun h => ?_⟩
    cases h with
    | neg long _ => exact (hlit _ long rfl).elim
    | column h => cases h
  | case5 i => exact ⟨fun _ => .column (.ident i), fun _ => ⟨_, rfl⟩⟩
  | case6 parts =>
    rw [exists_map_eq_ok, toColumnRef_ok_iff]
    refine ⟨.column, fun h => ?_⟩
    cases h with
    | column h => exact h
  | case7 e hnested hlit hneg hminus hident hcompound =>
    refine ⟨fun ⟨_, h⟩ => (by cases h), fun h => ?_⟩
    cases h with
    | nested => exact (hnested _ rfl).elim
    | lit long => exact (hlit _ long rfl).elim
    | neg long => exact (hneg _ long rfl).elim
    | column h =>
      cases h with
      | ident i => exact (hident i rfl).elim
      | qualified q c => exact (hcompound _ rfl).elim

theorem Expr.toOperand_ok_shape (e : Expr) :
    ∀ {a : CsvQuery.Expr}, e.toOperand = .ok a → (∃ v, a = .lit v) ∨ ∃ c, a = .col c := by
  fun_induction toOperand e with
  | case1 e ih => exact ih
  | case2 t long =>
    intro a h
    cases hi : integerOf t <;> simp [hi, Except.map] at h
    exact .inl ⟨_, h.symm⟩
  | case3 t long =>
    intro a h
    cases hi : integerOf ("-" ++ t) <;> simp [hi, Except.map] at h
    exact .inl ⟨_, h.symm⟩
  | case4 => intro a h; cases h
  | case5 i => intro a h; cases h; exact .inr ⟨_, rfl⟩
  | case6 parts =>
    intro a h
    cases hc : (Expr.compound parts).toColumnRef <;> simp [hc, Except.map] at h
    exact .inr ⟨_, h.symm⟩
  | case7 => intro a h; cases h

theorem BinOp.toCompareOp_ok_iff (op : BinOp) :
    (∃ c, op.toCompareOp = .ok c) ↔ op.IsComparison := by
  cases op <;> simp [toCompareOp, IsComparison]

theorem Expr.toPredicate_ok_iff (e : Expr) : (∃ p, e.toPredicate = .ok p) ↔ e.IsPredicate := by
  fun_induction toPredicate e with
  | case1 e ih =>
    rw [ih]
    refine ⟨.nested, fun h => ?_⟩
    cases h with
    | nested h => exact h
  | case2 l r ihl ihr =>
    simp only [exists_bind_eq_ok, pure, Except.pure, Except.ok.injEq, exists_eq', and_true,
      exists_and_right]
    rw [ihl, ihr]
    refine ⟨fun ⟨hl, hr⟩ => .and hl hr, fun h => ?_⟩
    cases h with
    | and hl hr => exact ⟨hl, hr⟩
    | cmp hop => exact absurd hop (by decide)
  | case3 l r ihl ihr =>
    simp only [exists_bind_eq_ok, pure, Except.pure, Except.ok.injEq, exists_eq', and_true,
      exists_and_right]
    rw [ihl, ihr]
    refine ⟨fun ⟨hl, hr⟩ => .or hl hr, fun h => ?_⟩
    cases h with
    | or hl hr => exact ⟨hl, hr⟩
    | cmp hop => exact absurd hop (by decide)
  | case4 l op r hand hor =>
    simp only [exists_bind_eq_ok, pure, Except.pure, Except.ok.injEq, exists_eq', and_true,
      exists_and_right]
    rw [BinOp.toCompareOp_ok_iff, toOperand_ok_iff, toOperand_ok_iff]
    refine ⟨fun ⟨hop, hl, hr⟩ => .cmp hop hl hr, fun h => ?_⟩
    cases h with
    | and => exact (hand rfl).elim
    | or => exact (hor rfl).elim
    | cmp hop hl hr => exact ⟨hop, hl, hr⟩
  | case5 e hnested hand hor hbinary =>
    refine ⟨fun ⟨_, h⟩ => (by cases h), fun h => ?_⟩
    cases h with
    | nested => exact (hnested _ rfl).elim
    | and => exact (hand _ _ rfl).elim
    | or => exact (hor _ _ rfl).elim
    | cmp => exact (hbinary _ _ _ rfl).elim

theorem Expr.sumFactors_ok_iff (e : Expr) : (∃ fs, e.sumFactors = .ok fs) ↔ e.IsProduct := by
  fun_induction sumFactors e with
  | case1 l r ihl ihr =>
    simp only [exists_bind_eq_ok, pure, Except.pure, Except.ok.injEq, exists_eq', and_true,
      exists_and_right]
    rw [ihl, ihr]
    refine ⟨fun ⟨hl, hr⟩ => .mul hl hr, fun h => ?_⟩
    cases h with
    | mul hl hr => exact ⟨hl, hr⟩
    | operand h => cases h with | column h => cases h
  | case2 e ih =>
    rw [ih]
    refine ⟨.nested, fun h => ?_⟩
    cases h with
    | nested h => exact h
    | operand h =>
      cases h with
      | nested h => exact .operand h
      | column h => cases h
  | case3 e hmul hnested =>
    -- an operand reads as a literal or a column, each a factor of its own
    rw [exists_bind_eq_ok]
    constructor
    · rintro ⟨a, ha, -⟩
      exact .operand ((toOperand_ok_iff e).1 ⟨a, ha⟩)
    · intro h
      have hoperand : e.IsOperand := by
        cases h with
        | mul => exact (hmul _ _ rfl).elim
        | nested => exact (hnested _ rfl).elim
        | operand h => exact h
      obtain ⟨a, ha⟩ := (toOperand_ok_iff e).2 hoperand
      refine ⟨a, ha, ?_⟩
      rcases toOperand_ok_shape e ha with ⟨v, rfl⟩ | ⟨c, rfl⟩ <;> exact ⟨_, rfl⟩

theorem Expr.IsProduct.not_wildcard {e : Expr} (h : e.IsProduct) :
    e ≠ .wildcard ∧ ∀ parts, e ≠ .qualifiedWildcard parts := by
  refine ⟨?_, fun parts => ?_⟩ <;> rintro rfl <;>
    cases h with | operand h => cases h with | column h => cases h

theorem Expr.toSumExpr_ok_iff (e : Expr) : (∃ s, e.toSumExpr = .ok s) ↔ e.IsProduct := by
  rw [← sumFactors_ok_iff]
  unfold toSumExpr
  rw [exists_bind_eq_ok]
  -- any list of factors makes a SUM argument
  refine ⟨fun ⟨fs, hfs, _⟩ => ⟨fs, hfs⟩, fun ⟨fs, hfs⟩ => ⟨fs, hfs, ?_⟩⟩
  split <;> exact ⟨_, rfl⟩

theorem CallArgs.toSumExpr_ok_iff (args : CallArgs) :
    (∃ s, args.toSumExpr = .ok s) ↔
      ∃ quantifier e clauses, args = .list quantifier [.unnamed e] clauses ∧ e.IsProduct := by
  unfold toSumExpr
  split
  · split
    · refine ⟨fun ⟨_, h⟩ => (by cases h), ?_⟩
      rintro ⟨_, e, _, h, he⟩
      simp only [list.injEq, List.cons.injEq, CallArg.unnamed.injEq, and_true] at h
      obtain ⟨-, rfl, -⟩ := h
      exact (he.not_wildcard.1 rfl).elim
    · refine ⟨fun ⟨_, h⟩ => (by cases h), ?_⟩
      rintro ⟨_, e, _, h, he⟩
      simp only [list.injEq, List.cons.injEq, CallArg.unnamed.injEq, and_true] at h
      obtain ⟨-, rfl, -⟩ := h
      exact (he.not_wildcard.2 _ rfl).elim
    · refine ⟨fun ⟨_, h⟩ => (by cases h), ?_⟩
      rintro ⟨_, e, _, h, -⟩
      simp at h
    · rw [Expr.toSumExpr_ok_iff]
      refine ⟨fun h => ⟨_, _, _, rfl, h⟩, ?_⟩
      rintro ⟨_, e, _, h, he⟩
      simp only [list.injEq, List.cons.injEq, CallArg.unnamed.injEq, and_true] at h
      obtain ⟨-, rfl, -⟩ := h
      exact he
  · next hone =>
    refine ⟨fun ⟨_, h⟩ => (by cases h), ?_⟩
    rintro ⟨quantifier, e, clauses, rfl, -⟩
    exact (hone quantifier (.unnamed e) clauses rfl).elim

theorem SelectItem.toTarget_ok_iff (item : SelectItem) :
    (∃ t, item.toTarget = .ok t) ↔ item.IsTarget := by
  unfold toTarget
  split
  · dsimp only
    split
    · next hsum =>
      rw [exists_map_eq_ok, CallArgs.toSumExpr_ok_iff]
      constructor
      · rintro ⟨_, e, _, rfl, he⟩
        exact .sum hsum he
      · intro h
        cases h with
        | column h => cases h
        | sum _ he => exact ⟨_, _, _, rfl, he⟩
    · next hsum =>
      refine ⟨fun ⟨_, h⟩ => (by cases h), fun h => ?_⟩
      cases h with
      | column h => cases h
      | sum h => exact (hsum h).elim
  · next e hcall =>
    rw [exists_map_eq_ok, Expr.toColumnRef_ok_iff]
    refine ⟨.column, fun h => ?_⟩
    cases h with
    | column h => exact h
    | sum => exact (hcall _ _ _ _ _ _ rfl).elim
  all_goals exact ⟨fun ⟨_, h⟩ => (by cases h), fun h => by cases h⟩

/-- The quantifier of a SUM is not read: `SUM(DISTINCT A)` reads as `SUM(A)`. -/
example :
    SelectItem.toTarget (.unnamed (.call [⟨"SUM", none⟩] .none
      (.list (some "DISTINCT") [.unnamed (.ident ⟨"A", none⟩)] []) [] none none)) =
    SelectItem.toTarget (.unnamed (.call [⟨"SUM", none⟩] .none
      (.list none [.unnamed (.ident ⟨"A", none⟩)] []) [] none none)) := rfl

theorem toTargets_ok_iff (items : List SelectItem) :
    (∃ t, toTargets items = .ok t) ↔ IsProjection items := by
  unfold toTargets IsProjection
  split
  · exact ⟨fun _ => .inl ⟨_, rfl⟩, fun _ => ⟨_, rfl⟩⟩
  · next hwild =>
    show (∃ t, (items.mapM SelectItem.toTarget).map some = .ok t) ↔ _
    rw [exists_map_eq_ok, exists_mapM_eq_ok]
    simp only [SelectItem.toTarget_ok_iff]
    exact ⟨.inr, fun h => h.resolve_left fun ⟨o, ho⟩ => hwild o ho⟩

/-! ## FROM, GROUP BY and ORDER BY -/

theorem TableFactor.toTableRef_ok_iff (f : TableFactor) :
    (∃ t, f.toTableRef = .ok t) ↔ f.IsBase := by
  unfold toTableRef
  split
  · exact ⟨fun _ => .aliased .., fun _ => ⟨_, rfl⟩⟩
  · next hcolumns =>
    refine ⟨fun ⟨_, h⟩ => (by cases h), fun h => ?_⟩
    cases h with
    | aliased _ a => exact (hcolumns a rfl).elim
  · exact ⟨fun _ => .plain .., fun _ => ⟨_, rfl⟩⟩
  · next haliased _ hplain =>
    refine ⟨fun ⟨_, h⟩ => (by cases h), fun h => ?_⟩
    cases h with
    | plain => exact (hplain _ _ _ _ rfl).elim
    | aliased => exact (haliased _ _ _ _ _ rfl).elim

theorem Join.toTable_ok_iff (j : Join) : (∃ r, j.toTable = .ok r) ↔ j.IsDocumented := by
  obtain ⟨rel, kind, c, global⟩ := j
  rw [toTable, exists_bind_eq_ok]
  constructor
  · rintro ⟨t, ht, r, hr⟩
    have hbase := (TableFactor.toTableRef_ok_iff rel).1 ⟨t, ht⟩
    split at hr
    · obtain ⟨p, hp, -⟩ := bind_eq_ok.1 hr
      exact .on global hbase ((Expr.toPredicate_ok_iff _).1 ⟨p, hp⟩)
    · exact .inner global hbase
    · cases hr
    · exact .cross c global hbase
    · cases hr
  · intro h
    cases h with
    | on _ hbase he =>
      obtain ⟨t, ht⟩ := (TableFactor.toTableRef_ok_iff rel).2 hbase
      obtain ⟨p, hp⟩ := (Expr.toPredicate_ok_iff _).2 he
      exact ⟨t, ht, (t, some p), by simp [hp, pure, Except.pure, bind, Except.bind]⟩
    | inner _ hbase | cross _ _ hbase =>
      obtain ⟨t, ht⟩ := (TableFactor.toTableRef_ok_iff rel).2 hbase
      exact ⟨t, ht, _, rfl⟩

theorem FromItem.toTables_ok_iff (f : FromItem) : (∃ r, f.toTables = .ok r) ↔ f.IsDocumented := by
  obtain ⟨rel, joins⟩ := f
  simp only [toTables, IsDocumented, exists_bind_eq_ok, pure, Except.pure, Except.ok.injEq,
    exists_eq', and_true, exists_and_right, TableFactor.toTableRef_ok_iff, exists_mapM_eq_ok,
    Join.toTable_ok_iff]

theorem fromTables_ok_iff (source : List FromItem) :
    (∃ r, fromTables source = .ok r) ↔ source ≠ [] ∧ ∀ f ∈ source, f.IsDocumented := by
  cases source with
  | nil => simp [fromTables, throw, throwThe, MonadExceptOf.throw, bind, Except.bind]
  | cons f fs =>
    simp only [fromTables, List.isEmpty_cons, Bool.false_eq_true, ↓reduceIte, exists_bind_eq_ok,
      pure, Except.pure, Except.ok.injEq, exists_eq', and_true, exists_mapM_eq_ok,
      FromItem.toTables_ok_iff]
    exact ⟨fun h => ⟨List.cons_ne_nil f fs, h⟩, And.right⟩

theorem OrderExpr.toOrderItem_ok_iff (o : OrderExpr) :
    (∃ k, o.toOrderItem = .ok k) ↔ o.IsDocumented := by
  obtain ⟨e, asc, nulls, fill⟩ := o
  simp only [toOrderItem, IsDocumented, exists_bind_eq_ok, pure, Except.pure, Except.ok.injEq,
    exists_eq', and_true, Expr.toColumnRef_ok_iff]

/-! ## Queries -/

theorem Select.toQuery_ok_iff (orderBy : List OrderExpr) (s : Select) :
    (∃ q, s.toQuery orderBy = .ok q) ↔ s.Documented orderBy := by
  obtain ⟨distinct, top, items, into, source, prewhere, selection, groupBy, having, qualify,
    clauses⟩ := s
  cases having with
  | some => simp [toQuery, Documented, throw, throwThe, MonadExceptOf.throw, bind, Except.bind]
  | none =>
    rcases selection with _ | p <;> rcases distinct with _ | _ | d <;> cases groupBy <;>
      simp [-Prod.exists, toQuery, Documented, exists_bind_eq_ok, exists_fmap_eq_ok, fromTables_ok_iff,
        Expr.toPredicate_ok_iff, toTargets_ok_iff, exists_mapM_eq_ok, Expr.toColumnRef_ok_iff,
        OrderExpr.toOrderItem_ok_iff, GroupBy.IsDocumented, and_assoc]

theorem Query.toQuery_ok_iff (q : Query) : (∃ Q, q.toQuery = .ok Q) ↔ q.Documented := by
  obtain ⟨w, body, orderBy, limit, offset, limitBy, fetch, locks, clauses⟩ := q
  cases w <;> cases limit <;> cases offset <;> cases body <;>
    simp [toQuery, Documented, throw, throwThe, MonadExceptOf.throw, bind, Except.bind,
      Select.toQuery_ok_iff]

end Sql

/-- A text reads as a query exactly when it is one statement, a query in the documented
grammar on every part the translation reads. -/
theorem ofSql_accepts_documented (text : String) :
    (∃ q, Query.ofSql text = .ok q) ↔ ∃ sq, Sql.parse text = .ok [.query sq] ∧ sq.Documented := by
  unfold Query.ofSql Query.ofStatements
  split
  · next d h => simp [h]
  · next h => simp [h]
  · next q h => simp [h, Sql.Query.toQuery_ok_iff]
  · next keyword command h => simp [h]
  · next stmts hquery _ h =>
    -- more statements than one, or none
    simp only [h, Except.ok.injEq]
    exact ⟨fun ⟨_, h⟩ => (by cases h), fun ⟨sq, hsq, _⟩ => (hquery sq hsq).elim⟩

end CsvQuery
