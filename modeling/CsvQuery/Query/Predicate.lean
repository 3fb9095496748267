import CsvQuery.Query.Column
import CsvQuery.Text.Decimal

/-!
# Predicates over columns and integer literals

A predicate is a tree of comparisons joined by AND and OR; the operands of a comparison
are 64-bit integer literals or column references. It is written with comparisons bare and
every connective in parentheses: `(R.A = 1 AND (S.B < 2 OR S.B > 5))`.

Splitting a predicate into its top-level conjuncts walks an explicit stack of pending
subtrees, and gives the in-order flattening of its ANDs, `flatten`.
-/

namespace CsvQuery

/-- The six comparisons. -/
inductive CompareOp where
  | eq | ne | lt | le | gt | ge
deriving DecidableEq, Repr, Inhabited

namespace CompareOp

/-- The symbol of a comparison; `!=` for inequality. -/
def symbol : CompareOp → String
  | .eq => "="
  | .ne => "!="
  | .lt => "<"
  | .le => "<="
  | .gt => ">"
  | .ge => ">="

/-- Applies a comparison to two integers. -/
def apply : CompareOp → Int → Int → Bool
  | .eq, a, b => a == b
  | .ne, a, b => a != b
  | .lt, a, b => decide (a < b)
  | .le, a, b => decide (a ≤ b)
  | .gt, a, b => decide (a > b)
  | .ge, a, b => decide (a ≥ b)

end CompareOp

/-- A predicate expression: literals, columns, comparisons, AND, OR. -/
inductive Expr where
  | lit (value : Int)
  | col (column : ColumnRef)
  | cmp (op : CompareOp) (left right : Expr)
  | and (left right : Expr)
  | or (left right : Expr)
deriving DecidableEq, Repr, Inhabited

namespace Expr

/-- The text of an expression. -/
def render : Expr → String
  | .lit v => Decimal.render v
  | .col c => c.name
  | .cmp op l r => l.render ++ " " ++ op.symbol ++ " " ++ r.render
  | .and l r => "(" ++ l.render ++ " AND " ++ r.render ++ ")"
  | .or l r => "(" ++ l.render ++ " OR " ++ r.render ++ ")"

/-- The number of nodes. -/
def size : Expr → Nat
  | .and l r | .or l r | .cmp _ l r => l.size + r.size + 1
  | _ => 1

theorem size_pos (e : Expr) : 0 < e.size := by
  cases e <;> simp [size]

/-- The in-order flattening of top-level ANDs. -/
def flatten : Expr → List Expr
  | .and l r => l.flatten ++ r.flatten
  | e => [e]

/-- Pops pending subtrees: an AND pushes its right then its left part, anything else is a
conjunct. `out` holds the conjuncts found so far, last first. -/
def conjunctsFrom (stack out : List Expr) : List Expr :=
  match stack with
  | [] => out.reverse
  | .and l r :: rest => conjunctsFrom (l :: r :: rest) out
  | e :: rest => conjunctsFrom rest (e :: out)
termination_by stack.foldr (fun e n => e.size + n) 0
decreasing_by
  · simp only [List.foldr_cons, size]; omega
  · simp only [List.foldr_cons]; have := size_pos e; omega

/-- The top-level conjuncts, left to right. -/
def conjuncts (e : Expr) : List Expr := conjunctsFrom [e] []

/-- Visits every column reference, left to right. -/
def columns : Expr → List ColumnRef
  | .lit _ => []
  | .col c => [c]
  | .cmp _ l r | .and l r | .or l r => l.columns ++ r.columns

/-- Inserts a name into a sorted list without duplicates. -/
def insertSorted (n : String) : List String → List String
  | [] => [n]
  | m :: ms => if n < m then n :: m :: ms else if n = m then m :: ms else m :: insertSorted n ms

/-- The lookup names of all referenced columns, sorted and without duplicates. -/
def columnNames (e : Expr) : List String :=
  e.columns.foldl (fun acc c => insertSorted c.name acc) []

/-- Applies `f` to every column reference, keeping the shape of the expression. -/
def mapColumns (f : ColumnRef → ColumnRef) : Expr → Expr
  | .lit v => .lit v
  | .col c => .col (f c)
  | .cmp op l r => .cmp op (l.mapColumns f) (r.mapColumns f)
  | .and l r => .and (l.mapColumns f) (r.mapColumns f)
  | .or l r => .or (l.mapColumns f) (r.mapColumns f)

end Expr

end CsvQuery
