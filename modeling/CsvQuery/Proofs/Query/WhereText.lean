import CsvQuery.Query.OfSql
import CsvQuery.Proofs.Predicate.Truth
import CsvQuery.Proofs.Text.Decimal

/-!
# A predicate written after WHERE reads back

A predicate is written with its comparisons bare and each connective in parentheses
(`Expr.render`). Its text is the SQL spelling of a syntax tree, `Expr.toSyntax`: each
comparison a binary operator, each `AND` and `OR` a binary operator nested in parentheses, a
negative literal a minus sign on its magnitude. Turning that tree into a query again drops
the parentheses and rebuilds each literal from its sign and digits, the smallest 64-bit
integer included.

So any SQL reader that reads `SELECT * FROM T WHERE ` and the spelling of that tree as the
query of `T` with the tree as its WHERE expression reads the written predicate back as the
query of `T` that selects by the predicate itself (`where_predicate_reads_back`). The reader
of this library is such a reader on predicates that fit its recursion limit
(`extremes_read_back`), and refuses deeper ones (`deep_disjunction_chain_is_refused`).

* `Expr.render_eq_spelling`  the text of a predicate is the spelling of its tree;
* `Expr.toPredicate_toSyntax`  the tree is turned back into the predicate;
* `Sql.toQuery_starWhereQuery`  the query around the WHERE expression is the query of `T`.
-/

namespace CsvQuery

/-! ## The SQL spelling of a syntax tree -/

namespace Sql

/-- The symbol of a binary operator in SQL text; `!=` for inequality. -/
def BinOp.spelling : BinOp → String
  | .ne => "!="
  | op => op.symbol

/-- The SQL text of a tree of comparisons: each binary operator between its operands, a
minus sign before its operand, parentheses around a nested expression; names and numbers as
the tree holds them. -/
def Expr.spelling : Expr → String
  | .binary l op r => l.spelling ++ " " ++ op.spelling ++ " " ++ r.spelling
  | .unary .minus e => "-" ++ e.spelling
  | .nested e => "(" ++ e.spelling ++ ")"
  | e => e.render

@[simp] theorem Expr.spelling_binary (l r : Expr) (op : BinOp) :
    (Expr.binary l op r).spelling = l.spelling ++ " " ++ op.spelling ++ " " ++ r.spelling := rfl

@[simp] theorem Expr.spelling_minus (e : Expr) : (Expr.unary .minus e).spelling = "-" ++ e.spelling :=
  rfl

@[simp] theorem Expr.spelling_nested (e : Expr) : (Expr.nested e).spelling = "(" ++ e.spelling ++ ")" :=
  rfl

@[simp] theorem Expr.spelling_ident (i : Ident) : (Expr.ident i).spelling = i.render := rfl

@[simp] theorem Expr.spelling_compound (parts : List Ident) :
    (Expr.compound parts).spelling = renderName parts := rfl

@[simp] theorem Expr.spelling_lit (v : Literal) : (Expr.lit v).spelling = v.render := rfl

/-- The SELECT block of `SELECT * FROM T WHERE p`. -/
def starWhereSelect (p : Expr) : Select :=
  .mk none none [.wildcard ""] none [.mk (.table [⟨"T", none⟩] none none [] {}) []] none (some p)
    (.exprs [] []) none none {}

/-- The query of `SELECT * FROM T WHERE p`. -/
def starWhereQuery (p : Expr) : Query :=
  .mk none (.select (starWhereSelect p)) none none none [] none [] {}

end Sql

/-- The binary operator of a comparison. -/
def CompareOp.toBinOp : CompareOp → Sql.BinOp
  | .eq => .eq
  | .ne => .ne
  | .lt => .lt
  | .le => .le
  | .gt => .gt
  | .ge => .ge

/-- The SQL tree of a column's name. -/
def ColumnRef.toSyntax (c : ColumnRef) : Sql.Expr :=
  match c.qualifier with
  | some q => .compound [⟨q, none⟩, ⟨c.column, none⟩]
  | none => .ident ⟨c.column, none⟩

namespace Expr

/-- The integer literals, left to right. -/
def literals : Expr → List Int
  | .lit v => [v]
  | .col _ => []
  | .cmp _ l r | .and l r | .or l r => l.literals ++ r.literals

/-- The SQL tree of a written integer: a negative one is a minus sign on its magnitude. -/
def litSyntax : Int → Sql.Expr
  | .ofNat n => .lit (.number (Decimal.renderNat n) false)
  | .negSucc n => .unary .minus (.lit (.number (Decimal.renderNat (n + 1)) false))

/-- The SQL tree of an expression, with each connective in parentheses. -/
def toSyntax : Expr → Sql.Expr
  | .lit v => litSyntax v
  | .col c => c.toSyntax
  | .cmp op l r => .binary l.toSyntax op.toBinOp r.toSyntax
  | .and l r => .nested (.binary l.toSyntax .and r.toSyntax)
  | .or l r => .nested (.binary l.toSyntax .or r.toSyntax)

end Expr

/-! ## The text of a predicate is the spelling of its tree -/

theorem CompareOp.spelling_toBinOp (op : CompareOp) : op.toBinOp.spelling = op.symbol := by
  cases op <;> rfl

theorem ColumnRef.spelling_toSyntax (c : ColumnRef) : c.toSyntax.spelling = c.name := by
  obtain ⟨_ | q, col⟩ := c <;>
    simp [ColumnRef.toSyntax, ColumnRef.name, Sql.renderName, Sql.Ident.render]

theorem Expr.spelling_litSyntax (v : Int) : (litSyntax v).spelling = Decimal.render v := by
  cases v <;> simp [litSyntax, Sql.Literal.render, Decimal.render, Decimal.renderChars,
    Decimal.renderNat, String.ofList_cons]

/-- A predicate is written as the SQL spelling of its tree: `!=` for inequality, the
parentheses of each connective those of a nested expression, a negative literal a minus
sign and the digits of its magnitude. -/
theorem Expr.render_eq_spelling : ∀ e : Expr, e.render = e.toSyntax.spelling
  | .lit v => (spelling_litSyntax v).symm
  | .col c => (c.spelling_toSyntax).symm
  | .cmp op l r => by
    simp only [render, toSyntax, Sql.Expr.spelling_binary, l.render_eq_spelling,
      r.render_eq_spelling, op.spelling_toBinOp]
  | .and l r | .or l r => by
    simp only [render, toSyntax, Sql.Expr.spelling_nested, Sql.Expr.spelling_binary,
      Sql.BinOp.spelling, Sql.BinOp.symbol, l.render_eq_spelling, r.render_eq_spelling,
      String.append_assoc]
    rfl

/-! ## From the tree back to the predicate -/

open Sql

theorem Expr.toOperand_toSyntax {e : Expr} (he : e.isOperand = true)
    (hlits : ∀ v ∈ e.literals, Decimal.fitsInt64 v = true) : e.toSyntax.toOperand = .ok e := by
  match e, he with
  | .lit v, _ =>
    have hread : Decimal.readInt64? (Decimal.renderChars v) = some v :=
      Decimal.readInt64?_renderChars (hlits v (List.mem_singleton_self v))
    cases v with
    | ofNat n =>
      simp only [Expr.toSyntax, Expr.litSyntax, Sql.Expr.toOperand, integerOf, Decimal.renderNat,
        String.toList_ofList]
      rw [show Decimal.natDigits n = Decimal.renderChars (.ofNat n) from rfl, hread]
      rfl
    | negSucc n =>
      -- the minus sign is read together with the digits, so the smallest integer survives
      simp only [Expr.toSyntax, Expr.litSyntax, Sql.Expr.toOperand, integerOf, Decimal.renderNat,
        String.toList_append, String.toList_ofList]
      rw [show "-".toList ++ Decimal.natDigits (n + 1) = Decimal.renderChars (.negSucc n) from rfl,
        hread]
      rfl
  | .col ⟨none, c⟩, _ => rfl
  | .col ⟨some q, c⟩, _ => rfl

/-- The tree of a predicate is turned back into the predicate. -/
theorem Expr.toPredicate_toSyntax : ∀ {e : Expr}, e.isPredicate = true →
    (∀ v ∈ e.literals, Decimal.fitsInt64 v = true) → e.toSyntax.toPredicate = .ok e
  | .cmp op l r, he, hlits => by
    simp only [Expr.isPredicate, Bool.and_eq_true] at he
    have hl := Expr.toOperand_toSyntax he.1 fun v hv => hlits v (List.mem_append_left _ hv)
    have hr := Expr.toOperand_toSyntax he.2 fun v hv => hlits v (List.mem_append_right _ hv)
    cases op <;> simp [Expr.toSyntax, CompareOp.toBinOp, Sql.Expr.toPredicate, BinOp.toCompareOp,
      hl, hr, bind, Except.bind, pure, Except.pure]
  | .and l r, he, hlits | .or l r, he, hlits => by
    simp only [Expr.isPredicate, Bool.and_eq_true] at he
    have hl := Expr.toPredicate_toSyntax he.1 fun v hv => hlits v (List.mem_append_left _ hv)
    have hr := Expr.toPredicate_toSyntax he.2 fun v hv => hlits v (List.mem_append_right _ hv)
    simp [Expr.toSyntax, Sql.Expr.toPredicate, hl, hr, bind, Except.bind, pure, Except.pure]

/-- `SELECT * FROM T WHERE p` stands for the query of `T` that selects by the predicate `p`
stands for. -/
theorem Sql.toQuery_starWhereQuery (p : Sql.Expr) :
    (starWhereQuery p).toQuery =
      p.toPredicate.map fun e => { tables := [⟨"T", none⟩], selection := some e } := by
  cases hp : p.toPredicate <;>
    simp [Sql.Query.toQuery, starWhereQuery, Sql.Select.toQuery, starWhereSelect, fromTables,
      FromItem.toTables, TableFactor.toTableRef, nameText, toTargets, hp, Query.ofTables,
      Query.withPredicate, Except.map] <;> rfl

/-! ## The round trip -/

/-- A predicate over 64-bit literals, written after `SELECT * FROM T WHERE `, reads back as
the query of `T` that selects by it, with any SQL reader `read` that reads the spelling of
the predicate's tree as that tree. -/
theorem where_predicate_reads_back (read : String → Except ReadError (List Statement))
    {e : Expr} (he : e.isPredicate = true) (hlits : ∀ v ∈ e.literals, Decimal.fitsInt64 v = true)
    (reads_spelling : read ("SELECT * FROM T WHERE " ++ e.toSyntax.spelling) =
      .ok [.query (starWhereQuery e.toSyntax)]) :
    Query.ofStatements (read ("SELECT * FROM T WHERE " ++ e.render)) =
      .ok { tables := [⟨"T", none⟩], selection := some e } := by
  rw [e.render_eq_spelling, reads_spelling, Query.ofStatements, toQuery_starWhereQuery,
    Expr.toPredicate_toSyntax he hlits]
  rfl

/-! ## Checking what the reader gives for a fixed text

Syntax trees have no decidable equality. Trees of comparisons are compared by
`Sql.Expr.sameTree`, and a statement is seen to be `SELECT * FROM T WHERE p` by
`Sql.whereOfStarQuery`, so that what the reader gives for a fixed text is checked by
evaluation. -/

namespace Sql

/-- Whether two trees of comparisons are the same: names, numbers, minus signs, binary
operators and parentheses; a tree of any other form is the same as none. -/
def Expr.sameTree : Expr → Expr → Bool
  | .ident i, .ident j => i == j
  | .compound ps, .compound qs => ps == qs
  | .lit v, .lit w => v == w
  | .unary .minus e, .unary .minus f => e.sameTree f
  | .binary l op r, .binary l' op' r' => l.sameTree l' && op == op' && r.sameTree r'
  | .nested e, .nested f => e.sameTree f
  | _, _ => false

theorem Expr.eq_of_sameTree {p q : Expr} (h : p.sameTree q = true) : p = q := by
  fun_induction Expr.sameTree p q <;> simp_all

/-- The WHERE expression of the statement `SELECT * FROM T WHERE p`, written with nothing
else. -/
def whereOfStarQuery : Statement → Option Expr
  | .query (.mk none (.select (.mk none none [.wildcard ""] none
      [.mk (.table [⟨"T", none⟩] none none [] extras) []] none (some p) (.exprs [] []) none none
      clauses)) none none none [] none [] queryClauses) =>
    if extras = {} ∧ clauses = {} ∧ queryClauses = {} then some p else none
  | _ => none

theorem eq_of_whereOfStarQuery {st : Statement} {p : Expr} (h : whereOfStarQuery st = some p) :
    st = .query (starWhereQuery p) := by
  unfold whereOfStarQuery at h
  split at h
  · split at h
    · rename_i hdefaults
      obtain ⟨rfl, rfl, rfl⟩ := hdefaults
      cases h
      rfl
    · cases h
  · cases h

/-- Whether the reader gave the one statement `SELECT * FROM T WHERE p`. -/
def readsStarWhere (r : Except ReadError (List Statement)) (p : Expr) : Bool :=
  match r with
  | .ok [st] => (whereOfStarQuery st).any (·.sameTree p)
  | _ => false

theorem eq_of_readsStarWhere {r : Except ReadError (List Statement)} {p : Expr}
    (h : readsStarWhere r p = true) : r = .ok [.query (starWhereQuery p)] := by
  unfold readsStarWhere at h
  split at h
  · rename_i st
    cases hw : whereOfStarQuery st with
    | none => simp [hw] at h
    | some q =>
      simp only [hw, Option.any_some] at h
      rw [eq_of_whereOfStarQuery hw, Expr.eq_of_sameTree h]
  · cases h

end Sql

/-- `(A.x != -9223372036854775808 AND (B <= 9223372036854775807 OR (A.x > -1 AND B = 0)))`:
inequality, both 64-bit extremes, a negative literal and nested connectives. -/
def extremesPredicate : Expr :=
  .and (.cmp .ne (.col ⟨some "A", "x"⟩) (.lit (-9223372036854775808)))
    (.or (.cmp .le (.col ⟨none, "B"⟩) (.lit 9223372036854775807))
      (.and (.cmp .gt (.col ⟨some "A", "x"⟩) (.lit (-1))) (.cmp .eq (.col ⟨none, "B"⟩) (.lit 0))))

theorem extremes_read_back :
    extremesPredicate.isPredicate = true ∧
      (∀ v ∈ extremesPredicate.literals, Decimal.fitsInt64 v = true) ∧
      Sql.parse ("SELECT * FROM T WHERE " ++ extremesPredicate.toSyntax.spelling) =
        .ok [.query (starWhereQuery extremesPredicate.toSyntax)] ∧
      Query.ofSql ("SELECT * FROM T WHERE " ++ extremesPredicate.render) =
        .ok { tables := [⟨"T", none⟩], selection := some extremesPredicate } := by
  have he : extremesPredicate.isPredicate = true := by decide
  have hlits : ∀ v ∈ extremesPredicate.literals, Decimal.fitsInt64 v = true :=
    List.all_eq_true.1 (by decide : extremesPredicate.literals.all Decimal.fitsInt64)
  have hread : Sql.parse ("SELECT * FROM T WHERE " ++ extremesPredicate.toSyntax.spelling) =
      .ok [.query (starWhereQuery extremesPredicate.toSyntax)] := by
    apply Sql.eq_of_readsStarWhere
    rw [← extremesPredicate.render_eq_spelling]
    decide +kernel
  exact ⟨he, hlits, hread, where_predicate_reads_back Sql.parse he hlits hread⟩

/-- A chain of `n` disjunctions nested to the right around `A = -1`, each with `A = 1` on its
left: `(A = 1 OR (A = 1 OR ... A = -1))`. -/
def disjunctionChain : Nat → Expr
  | 0 => .cmp .eq (.col ⟨none, "A"⟩) (.lit (-1))
  | n + 1 => .or (.cmp .eq (.col ⟨none, "A"⟩) (.lit 1)) (disjunctionChain n)

/-- Twenty-three disjunctions nest deeper than the reader's recursion limit of 50 levels,
and the text is refused. -/
theorem deep_disjunction_chain_is_refused :
    Query.ofSql ("SELECT * FROM T WHERE " ++ (disjunctionChain 23).render) =
      .error (.malformed "recursion limit exceeded") := by
  decide +kernel

end CsvQuery
