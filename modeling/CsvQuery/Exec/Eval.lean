import CsvQuery.Query.Predicate
import CsvQuery.Table.Schema
import CsvQuery.Table.Tuple

/-!
# Evaluating predicates over tuples

A predicate is bound to a schema once, which replaces each column by the position it
resolves to, and is then evaluated per tuple. Values are 64-bit integers and booleans:
a comparison needs two integers, `AND` and `OR` need booleans and stop at the first
operand that decides them, and a predicate must come out boolean. A join binds its
conditions to the combined schema and reads a position below the left tuple's actual
arity from the left tuple, any other from the right one, shifted.
-/

namespace CsvQuery

/-- A predicate with its columns replaced by tuple positions. -/
inductive Bound where
  | lit (value : Int)
  | pos (position : Nat)
  | cmp (op : CompareOp) (left right : Bound)
  | and (left right : Bound)
  | or (left right : Bound)
deriving DecidableEq, Repr, Inhabited

/-- The tuple or tuple pair a bound predicate reads. -/
inductive Binding where
  | single (t : Tuple)
  | pair (left right : Tuple)
deriving DecidableEq, Repr, Inhabited

/-- The result of evaluating an expression. -/
inductive EvalValue where
  | int (v : Int)
  | bool (b : Bool)
deriving DecidableEq, Repr, Inhabited

namespace Binding

/-- The value at a position of the bound tuples. -/
def valueAt : Binding → Nat → Except ExecError Int
  | .single t, p => t.valueAt p
  | .pair l r, p => if p < l.arity then l.valueAt p else r.valueAt (p - l.arity)

end Binding

namespace Bound

/-- Binds a predicate to a schema: each column becomes its position. -/
def bind (s : Schema) : Expr → Except ExecError Bound
  | .lit v => .ok (.lit v)
  | .col c =>
    match s.indexOf c.name with
    | some p => .ok (.pos p)
    | none => .error (.columnNotFound c.name)
  | .cmp op l r => do return .cmp op (← bind s l) (← bind s r)
  | .and l r => do return .and (← bind s l) (← bind s r)
  | .or l r => do return .or (← bind s l) (← bind s r)

/-- The integer in a value, or the error of operator `op`. -/
def expectInt (op : String) : EvalValue → Except ExecError Int
  | .int v => .ok v
  | .bool _ => .error (.expectsInteger op)

/-- The boolean in a value, or the error of context `ctx`. -/
def expectBool (ctx : String) : EvalValue → Except ExecError Bool
  | .bool b => .ok b
  | .int _ => .error (.expectsBoolean ctx)

/-- Evaluates a bound expression. -/
def eval (b : Binding) : Bound → Except ExecError EvalValue
  | .lit v => .ok (.int v)
  | .pos p => (b.valueAt p).map .int
  | .cmp op l r => do
    let x ← expectInt op.symbol (← eval b l)
    let y ← expectInt op.symbol (← eval b r)
    return .bool (op.apply x y)
  | .and l r => do
    if !(← expectBool "AND" (← eval b l)) then return .bool false
    return .bool (← expectBool "AND" (← eval b r))
  | .or l r => do
    if ← expectBool "OR" (← eval b l) then return .bool true
    return .bool (← expectBool "OR" (← eval b r))

/-- Evaluates a bound predicate, which must be boolean. -/
def holds (b : Binding) (e : Bound) : Except ExecError Bool := do
  expectBool "predicate" (← eval b e)

end Bound

/-- Binds an expression to a schema and evaluates it once. -/
def Expr.evaluate (e : Expr) (s : Schema) (b : Binding) : Except ExecError EvalValue := do
  (← Bound.bind s e).eval b

end CsvQuery
