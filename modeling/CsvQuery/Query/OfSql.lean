import CsvQuery.Sql.Statement
import CsvQuery.Query.Basic
import CsvQuery.Plan.Error

/-!
# Queries from SQL text

`Query.ofSql` reads one SELECT statement over base tables:

  `SELECT [DISTINCT] (* | item, ...) FROM t [[AS] a] {, t [[AS] a] | [INNER | CROSS] JOIN t
  [[AS] a] [ON p]} [WHERE p] [GROUP BY col, ...] [ORDER BY col [ASC | DESC], ...]`

An item is a column or `SUM(e)`, where `e` is an integer, a column or a `*` product of
those. A predicate is built from comparisons of integers and columns with `AND` and `OR`.
`JOIN ... ON` conditions are conjoined ahead of the WHERE predicate, in the order written.

Everything else the SQL reader accepts is refused with the construct it uses, checked in a
fixed order: WITH, LIMIT or OFFSET, set operations, HAVING, the FROM items and their join
conditions, the WHERE predicate, DISTINCT ON, the SELECT list, GROUP BY, ORDER BY. Clauses
that change nothing here (`FILTER` on a SUM, locking clauses, `WITH ROLLUP`, hints) are
read and ignored.
-/

namespace CsvQuery

namespace Sql

/-- The dotted text of a name: its parts' values joined by `.`, without quotes. -/
def nameText (parts : List Ident) : String := ".".intercalate (parts.map (·.value))

/-- Reads a 64-bit integer literal. -/
def integerOf (text : String) : Except PlanError Int :=
  match Decimal.readInt64? text.toList with
  | some v => .ok v
  | none => .error (.notAnInteger text)

/-- A column reference: a name, or a name qualified by one table reference. -/
def Expr.toColumnRef : Expr → Except PlanError ColumnRef
  | .ident i => .ok (.bare i.value)
  | .compound [q, c] => .ok (.qualified q.value c.value)
  | .compound parts => .error (.unsupported ("column name '" ++ nameText parts ++ "'"))
  | e => .error (.unsupported ("expression '" ++ e.render ++ "' where a column is expected"))

/-- A comparison operand: an integer literal, possibly negated, or a column. -/
def Expr.toOperand : Expr → Except PlanError CsvQuery.Expr
  | .nested e => e.toOperand
  | .lit (.number t _) => (integerOf t).map .lit
  | .unary .minus (.lit (.number t _)) => (integerOf ("-" ++ t)).map .lit
  | .unary .minus _ => .error (.unsupported "negation of non-literals")
  | .ident i => .ok (.col (.bare i.value))
  | .compound parts => (Expr.compound parts).toColumnRef.map .col
  | e => .error (.unsupported ("operand '" ++ e.render ++ "'"))

/-- The comparison a binary operator stands for. -/
def BinOp.toCompareOp : BinOp → Except PlanError CompareOp
  | .eq => .ok .eq
  | .ne => .ok .ne
  | .lt => .ok .lt
  | .le => .ok .le
  | .gt => .ok .gt
  | .ge => .ok .ge
  | op => .error (.unsupported ("operator '" ++ op.symbol ++ "'"))

/-- A predicate: comparisons joined by `AND` and `OR`, parentheses dropped. -/
def Expr.toPredicate : Expr → Except PlanError CsvQuery.Expr
  | .nested e => e.toPredicate
  | .binary l .and r => do return .and (← l.toPredicate) (← r.toPredicate)
  | .binary l .or r => do return .or (← l.toPredicate) (← r.toPredicate)
  | .binary l op r => do
    let c ← op.toCompareOp
    let a ← l.toOperand
    let b ← r.toOperand
    return .cmp c a b
  | e => .error (.unsupported ("predicate '" ++ e.render ++ "'"))

/-- The factors of a SUM argument: the operands of its `*` products, left to right. -/
def Expr.sumFactors : Expr → Except PlanError (List SumTerm)
  | .binary l .multiply r => do return (← l.sumFactors) ++ (← r.sumFactors)
  | .nested e => e.sumFactors
  | e => do
    match ← e.toOperand with
    | .lit v => return [.lit v]
    | .col c => return [.col c.name]
    | _ => throw (.unsupported "SUM operand")

/-- A SUM argument; a single factor stands alone rather than as a product. -/
def Expr.toSumExpr (e : Expr) : Except PlanError SumExpr := do
  match ← e.sumFactors with
  | [.lit v] => return .lit v
  | [.col c] => return .col c
  | ts => return .product ts

/-- The argument of `SUM(...)`: exactly one plain expression. -/
def CallArgs.toSumExpr : CallArgs → Except PlanError SumExpr
  | .list _ [a] _ =>
    match a with
    | .unnamed .wildcard | .unnamed (.qualifiedWildcard _) | .named .. =>
      .error (.unsupported "SUM argument form")
    | .unnamed e => e.toSumExpr
  | _ => .error .sumArity

/-- One output target: a column or a SUM. -/
def SelectItem.toTarget : SelectItem → Except PlanError SelectTarget
  | .unnamed (.call name _ args _ _ _) =>
    let n := nameText name
    if n.toUpper = "SUM" then args.toSumExpr.map .sum
    else .error (.unsupported ("function " ++ n))
  | .unnamed e => e.toColumnRef.map .col
  | .aliased .. => .error (.unsupported "column aliases in SELECT")
  | .wildcard _ | .qualifiedWildcard .. => .error (.unsupported "'*' mixed with other SELECT items")

/-- The output targets: none for a lone `*`. -/
def toTargets (items : List SelectItem) : Except PlanError (Option (List SelectTarget)) :=
  match items with
  | [.wildcard _] => .ok none
  | _ => some <$> items.mapM SelectItem.toTarget

/-- A base table with its alias. -/
def TableFactor.toTableRef : TableFactor → Except PlanError TableRef
  | .table name (some (.mk a [])) _ _ _ => .ok ⟨nameText name, some a.value⟩
  | .table _ (some _) _ _ _ => .error (.unsupported "column aliases on tables")
  | .table name none _ _ _ => .ok ⟨nameText name, none⟩
  | _ => .error (.unsupported "FROM sources other than base tables")

/-- The table and join condition, if any, that a join adds. -/
def Join.toTable : Join → Except PlanError (TableRef × Option CsvQuery.Expr)
  | .mk rel kind c _ => do
    let t ← rel.toTableRef
    match kind, c with
    | .inner, .on e => return (t, some (← e.toPredicate))
    | .inner, .none => return (t, none)
    | .inner, _ => throw (.unsupported "JOIN ... USING / NATURAL")
    | .cross, _ => return (t, none)
    | _, _ => throw (.unsupported "outer or lateral joins")

/-- The tables of a FROM item, and its join conditions. -/
def FromItem.toTables : FromItem → Except PlanError (List TableRef × List CsvQuery.Expr)
  | .mk rel joins => do
    let t ← rel.toTableRef
    let js ← joins.mapM Join.toTable
    return (t :: js.map (·.1), js.filterMap (·.2))

/-- The tables of a FROM clause, and the join conditions in the order written. -/
def fromTables (source : List FromItem) : Except PlanError (List TableRef × List CsvQuery.Expr) := do
  if source.isEmpty then throw .noFromClause
  let parts ← source.mapM FromItem.toTables
  return (parts.flatMap (·.1), parts.flatMap (·.2))

/-- A sort key; only `DESC` sorts descending. -/
def OrderExpr.toOrderItem : OrderExpr → Except PlanError OrderItem
  | .mk e asc _ _ => do
    let c ← e.toColumnRef
    return ⟨c, if asc = some false then .desc else .asc⟩

/-- The query a SELECT block stands for. -/
def Select.toQuery (orderBy : List OrderExpr) : Select → Except PlanError CsvQuery.Query
  | .mk distinct _ items _ source _ selection groupBy having _ _ => do
    if having.isSome then throw (.unsupported "HAVING")
    let (tables, conditions) ← fromTables source
    let q := conditions.foldl CsvQuery.Query.withPredicate (CsvQuery.Query.ofTables tables)
    let q ← match selection with
      | some p => do pure (q.withPredicate (← p.toPredicate))
      | none => pure q
    let isDistinct ← match distinct with
      | none => pure false
      | some .plain => pure true
      | some (.on _) => throw (.unsupported "DISTINCT ON")
    let projection ← toTargets items
    let groupCols ← match groupBy with
      | .exprs es _ => es.mapM Expr.toColumnRef
      | .all _ => throw (.unsupported "GROUP BY ALL")
    let keys ← orderBy.mapM OrderExpr.toOrderItem
    return { q with distinct := isDistinct, projection, groupBy := groupCols, orderBy := keys }

/-- The query a SQL query stands for, if it is a plain SELECT. -/
def Query.toQuery : Query → Except PlanError CsvQuery.Query
  | .mk w body orderBy limit offset _ _ _ _ => do
    if w.isSome then throw (.unsupported "WITH")
    if limit.isSome || offset.isSome then throw (.unsupported "LIMIT/OFFSET")
    match body with
    | .select s => s.toQuery (orderBy.getD [])
    | _ => throw (.unsupported "set operations")

end Sql

/-- The query of what the SQL reader made of a text: exactly one statement, a SELECT over
base tables. -/
def Query.ofStatements : Except Sql.ReadError (List Sql.Statement) → Except PlanError Query
  | .error (.malformed d) => .error (.malformed d)
  | .error .tooDeep => .error (.malformed "recursion limit exceeded")
  | .ok [.query q] => q.toQuery
  | .ok [.command _ text] => .error (.notAQuery text)
  | .ok stmts => .error (.statementCount stmts.length)

/-- Reads a query from SQL text. -/
def Query.ofSql (text : String) : Except PlanError Query := Query.ofStatements (Sql.parse text)

end CsvQuery
