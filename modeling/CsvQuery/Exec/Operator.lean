import CsvQuery.Exec.Eval
import CsvQuery.Exec.Source
import CsvQuery.Query.Basic
import CsvQuery.Text.Blank

/-!
# Operators: pull-based tuple streams

An operator is a state; `next` returns the next tuple (or the end of the stream, or an
error) together with the new state, and `reset` starts the stream over. The state after
an error is returned too, so a stream goes on from where the error left it: a scan that
failed on one line reads the next line on the following call.

* A scan reads lines, skips blank ones (they still count as lines), and reads the
  comma-separated fields of the others as 32-bit integers.
* A selection pulls until a tuple satisfies its predicate.
* A join pairs each left tuple with every right tuple in turn, rewinding the right input
  for each left tuple, and keeps the pairs that satisfy all its conditions. It holds one
  left and one right tuple ahead, read when it is built or reset.
* A projection picks positions, or the last position for a SUM.
* An aggregate and a sort read their whole input when they are built, then replay their
  result.
* A duplicate filter holds one tuple ahead and passes the first tuple of each key.

Every step takes fuel; the loops above stop with the end of the stream when it runs out.
`Operator.fuel` is more than any single call uses.
-/

namespace CsvQuery

/-- Where a projection takes one output value from. -/
inductive Slot where
  | pos (position : Nat)
  | last
deriving DecidableEq, Repr, Inhabited

/-- A sort key: a tuple position and a direction. -/
structure SortKey where
  column : Nat
  ascending : Bool
deriving DecidableEq, Repr, Inhabited

/-- One factor of a SUM, resolved: a literal or a tuple position. -/
inductive SumFactor where
  | lit (value : Int)
  | pos (position : Nat)
deriving DecidableEq, Repr, Inhabited

/-- The state of an operator tree. -/
inductive Operator where
  /-- A scan: its table, its lines, the number of lines read, and whether the lines ran
  out. -/
  | scan (table : String) (source : LineSource) (line : Nat) (exhausted : Bool)
  | select (child : Operator) (predicate : Bound)
  /-- A join: its inputs, its conditions over `schema`, and the left and right tuples it
  holds ahead. -/
  | join (left right : Operator) (conditions : List Bound) (schema : Schema)
      (current partner : Option Tuple)
  | project (child : Operator) (slots : List Slot) (schema : Schema)
  /-- An aggregate: its result tuples and how many were returned. -/
  | aggregate (results : List Tuple) (cursor : Nat) (schema : Schema)
  | sort (tuples : List Tuple) (cursor : Nat)
  /-- A duplicate filter: its input, its key positions, the keys passed, and the tuple it
  holds ahead. -/
  | distinct (child : Operator) (keys : List Nat) (seen : List (List Int))
      (lookahead : Option Tuple)
deriving Repr, Inhabited

/-- Reads the comma-separated fields of a line as 32-bit integers; `line` is its number. -/
def parseRow (table : String) (line : Nat) (text : String) : Except ExecError Tuple :=
  Tuple.mk <$> (text.splitOn ",").mapM fun f =>
    let field := Blank.trimString f
    match Decimal.readInt32? field.toList with
    | some v => .ok v
    | none => .error (.malformedField table line field)

/-- Whether all conditions hold of a pair, checked in order and stopping at the first
that fails. -/
def Bound.holdAll (b : Binding) : List Bound → Except ExecError Bool
  | [] => .ok true
  | c :: cs => do if ← c.holds b then holdAll b cs else return false

/-- The value a slot takes from a tuple. -/
def Slot.valueIn (t : Tuple) : Slot → Except ExecError Int
  | .pos p => t.valueAt p
  | .last => if t.arity = 0 then .error (.indexOutOfRange 0 0) else t.valueAt (t.arity - 1)

namespace Operator

/-- The operator's name. -/
def name : Operator → String
  | .scan .. => "Scan"
  | .select .. => "Select"
  | .join .. => "Join"
  | .project .. => "Project"
  | .aggregate .. => "Aggregate"
  | .sort .. => "Sort"
  | .distinct .. => "Distinct"

/-- The schema a join, projection or aggregate declares for its output. -/
def outputSchema? : Operator → Option Schema
  | .join _ _ _ s _ _ | .project _ _ s | .aggregate _ _ s => some s
  | _ => none

/-- Scans lines from `src` until a non-blank one, which becomes the next tuple. -/
def scanNext (table : String) : Nat → LineSource → Nat → Operator × Except ExecError (Option Tuple)
  | 0, src, line => (.scan table src line false, .ok none)
  | n + 1, src, line =>
    match src.next with
    | (src', .error e) => (.scan table src' line false, .error (.sourceUnavailable table e))
    | (src', .ok none) => (.scan table src' line true, .ok none)
    | (src', .ok (some text)) =>
      if Blank.isAllBlank text.toList then scanNext table n src' (line + 1)
      else (.scan table src' (line + 1) false, some <$> parseRow table (line + 1) text)

mutual

/-- The next tuple of the stream, and the new state. -/
def next : Nat → Operator → Operator × Except ExecError (Option Tuple)
  | 0, op => (op, .ok none)
  | n + 1, .scan t src line exhausted =>
    if exhausted then (.scan t src line exhausted, .ok none) else scanNext t n src line
  | n + 1, .select c p => selectNext n c p
  | n + 1, .join l r cs s cur partner => joinNext n l r cs s cur partner
  | n + 1, .project c slots s =>
    match next n c with
    | (c', .error e) => (.project c' slots s, .error e)
    | (c', .ok none) => (.project c' slots s, .ok none)
    | (c', .ok (some t)) => (.project c' slots s, (fun vs => some ⟨vs⟩) <$> slots.mapM (Slot.valueIn t))
  | _ + 1, .aggregate rs k s =>
    match rs[k]? with
    | some t => (.aggregate rs (k + 1) s, .ok (some t))
    | none => (.aggregate rs k s, .ok none)
  | _ + 1, .sort ts k =>
    match ts[k]? with
    | some t => (.sort ts (k + 1), .ok (some t))
    | none => (.sort ts k, .ok none)
  | _ + 1, .distinct c ks seen none => (.distinct c ks seen none, .ok none)
  | n + 1, .distinct c ks seen (some t) =>
    match distinctAdvance n c ks seen with
    | ((c', seen'), .error e) => (.distinct c' ks seen' none, .error e)
    | ((c', seen'), .ok ahead) => (.distinct c' ks seen' ahead, .ok (some t))

/-- Pulls from `c` until a tuple satisfies `p`. -/
def selectNext : Nat → Operator → Bound → Operator × Except ExecError (Option Tuple)
  | 0, c, p => (.select c p, .ok none)
  | n + 1, c, p =>
    match next n c with
    | (c', .error e) => (.select c' p, .error e)
    | (c', .ok none) => (.select c' p, .ok none)
    | (c', .ok (some t)) =>
      match p.holds (.single t) with
      | .error e => (.select c' p, .error e)
      | .ok true => (.select c' p, .ok (some t))
      | .ok false => selectNext n c' p

/-- The next pair of a join that satisfies its conditions. With no right tuple held, the
left input moves on and the right input starts over. -/
def joinNext : Nat → Operator → Operator → List Bound → Schema → Option Tuple → Option Tuple →
    Operator × Except ExecError (Option Tuple)
  | 0, l, r, cs, s, cur, partner => (.join l r cs s cur partner, .ok none)
  | _ + 1, l, r, cs, s, none, partner => (.join l r cs s none partner, .ok none)
  | n + 1, l, r, cs, s, some lt, none =>
    match next n l with
    | (l', .error e) => (.join l' r cs s (some lt) none, .error e)
    | (l', .ok cur) =>
      match reset n r with
      | (r', .error e) => (.join l' r' cs s cur none, .error e)
      | (r', .ok ()) =>
        match next n r' with
        | (r'', .error e) => (.join l' r'' cs s cur none, .error e)
        | (r'', .ok partner) => joinNext n l' r'' cs s cur partner
  | n + 1, l, r, cs, s, some lt, some rt =>
    match Bound.holdAll (.pair lt rt) cs with
    | .error e => (.join l r cs s (some lt) none, .error e)
    | .ok ok =>
      match next n r with
      | (r', .error e) => (.join l r' cs s (some lt) none, .error e)
      | (r', .ok partner) =>
        if ok then (.join l r' cs s (some lt) partner, .ok (some (lt.concat rt)))
        else joinNext n l r' cs s (some lt) partner

/-- Reads the first left and right tuples of a join; with no right tuple there is no left
one either. -/
def joinPrime : Nat → Operator → Operator → List Bound → Schema → Option Tuple → Option Tuple →
    Operator × Except ExecError Unit
  | 0, l, r, cs, s, cur, partner => (.join l r cs s cur partner, .ok ())
  | n + 1, l, r, cs, s, cur, partner =>
    match next n l with
    | (l', .error e) => (.join l' r cs s cur partner, .error e)
    | (l', .ok cur') =>
      match next n r with
      | (r', .error e) => (.join l' r' cs s cur' partner, .error e)
      | (r', .ok partner') =>
        (.join l' r' cs s (if partner'.isNone then none else cur') partner', .ok ())

/-- Pulls from `c` until a tuple with a key not in `seen`, which is added; returns that
tuple, or none at the end of the input. -/
def distinctAdvance : Nat → Operator → List Nat → List (List Int) →
    (Operator × List (List Int)) × Except ExecError (Option Tuple)
  | 0, c, _, seen => ((c, seen), .ok none)
  | n + 1, c, ks, seen =>
    match next n c with
    | (c', .error e) => ((c', seen), .error e)
    | (c', .ok none) => ((c', seen), .ok none)
    | (c', .ok (some t)) =>
      match ks.mapM t.valueAt with
      | .error e => ((c', seen), .error e)
      | .ok key =>
        if seen.contains key then distinctAdvance n c' ks seen
        else ((c', seen ++ [key]), .ok (some t))

/-- Starts the stream over, and the new state. -/
def reset : Nat → Operator → Operator × Except ExecError Unit
  | 0, op => (op, .ok ())
  | _ + 1, .scan t src _ _ => (.scan t src.rewind 0 false, .ok ())
  | n + 1, .select c p =>
    match reset n c with
    | (c', res) => (.select c' p, res)
  | n + 1, .join l r cs s cur partner =>
    match reset n l with
    | (l', .error e) => (.join l' r cs s cur partner, .error e)
    | (l', .ok ()) =>
      match reset n r with
      | (r', .error e) => (.join l' r' cs s cur partner, .error e)
      | (r', .ok ()) => joinPrime n l' r' cs s cur partner
  | n + 1, .project c slots s =>
    match reset n c with
    | (c', res) => (.project c' slots s, res)
  | _ + 1, .aggregate rs _ s => (.aggregate rs 0 s, .ok ())
  | _ + 1, .sort ts _ => (.sort ts 0, .ok ())
  | n + 1, .distinct c ks seen ahead =>
    match reset n c with
    | (c', .error e) => (.distinct c' ks seen ahead, .error e)
    | (c', .ok ()) =>
      match distinctAdvance n c' ks [] with
      | ((c'', seen'), .error e) => (.distinct c'' ks seen' ahead, .error e)
      | ((c'', seen'), .ok ahead') => (.distinct c'' ks seen' ahead', .ok ())

end

/-- A bound on the tuples an operator can produce between two resets, plus two. -/
def work : Operator → Nat
  | .scan _ src _ _ => src.size + 2
  | .select c _ | .project c _ _ | .distinct c _ _ _ => c.work
  | .join l r .. => l.work * r.work
  | .aggregate rs _ _ => rs.length + 2
  | .sort ts _ => ts.length + 2

/-- The number of operators in the tree. -/
def nodes : Operator → Nat
  | .select c _ | .project c _ _ | .distinct c _ _ _ => c.nodes + 1
  | .join l r .. => l.nodes + r.nodes + 1
  | _ => 1

/-- Fuel enough for any one call of `next` or `reset`: each loop runs at most once per
tuple its input can produce, and loops nest at most once per operator. -/
def fuel (op : Operator) : Nat := Nat.pow (op.work + 2) 3 * (op.nodes + 2) * 4

/-- The next tuple, with enough fuel. -/
def step (op : Operator) : Operator × Except ExecError (Option Tuple) := next op.fuel op

/-- Starts the stream over, with enough fuel. -/
def restart (op : Operator) : Operator × Except ExecError Unit := reset op.fuel op

/-- Pulls every remaining tuple, at most `bound` of them, each with `fuel`. Returns the
tuples read before an error, and the error. -/
def drainFrom (fuel : Nat) : Nat → Operator → List Tuple →
    Operator × List Tuple × Option ExecError
  | 0, op, acc => (op, acc.reverse, none)
  | k + 1, op, acc =>
    match next fuel op with
    | (op', .error e) => (op', acc.reverse, some e)
    | (op', .ok none) => (op', acc.reverse, none)
    | (op', .ok (some t)) => drainFrom fuel k op' (t :: acc)

/-- Pulls every remaining tuple. The fuel is computed once: `work` and `nodes` depend
only on the inputs' sizes, which no step changes. -/
def drain (op : Operator) : Operator × List Tuple × Option ExecError :=
  let fuel := op.fuel
  drainFrom fuel fuel op []

/-- Pulls every tuple, failing at the first error. -/
def drainAll (op : Operator) : Except ExecError (List Tuple) :=
  match op.drain with
  | (_, ts, none) => .ok ts
  | (_, _, some e) => .error e

/-- A scan over lines. -/
def scanOf (table : String) (source : LineSource) : Operator := .scan table source 0 false

/-- A selection of `child` by a predicate over `schema`. -/
def selectOf (child : Operator) (predicate : Expr) (schema : Schema) : Except ExecError Operator :=
  (Operator.select child ·) <$> Bound.bind schema predicate

/-- A join of two inputs on conditions over the combined `schema`; it reads its first
tuples. -/
def joinOf (left right : Operator) (conditions : List Expr) (schema : Schema) :
    Except ExecError Operator := do
  let cs ← conditions.mapM (Bound.bind schema)
  let fuel := (Operator.join left right cs schema none none).fuel
  match joinPrime fuel left right cs schema none none with
  | (op, .ok ()) => pure op
  | (_, .error e) => throw e

/-- A projection of `targets` from `child`, whose output follows `schema`. -/
def projectOf (child : Operator) (schema : Schema) (targets : List SelectTarget) :
    Except ExecError Operator := do
  let picked ← targets.mapM fun
    | .col c =>
      match schema.indexOf c.name with
      | some p => pure (Slot.pos p, (schema.columnName? p).getD "")
      | none => throw (.columnNotFound c.name)
    | .sum _ =>
      match schema.columns.getLast? with
      | some n => pure (Slot.last, n)
      | none => throw .sumOfEmptySchema
  return .project child (picked.map (·.1)) ⟨picked.map (·.2)⟩

/-- The product of a tuple's SUM factors, from 1, left to right; every partial product
must fit 64 bits. -/
def SumFactor.productIn (t : Tuple) (fs : List SumFactor) : Except ExecError Int :=
  fs.foldlM (fun acc f => do
    let v ← match f with
      | .lit v => pure v
      | .pos p => t.valueAt p
    let r := acc * v
    if Decimal.fitsInt64 r then pure r else throw (.accumulatorOverflow "*" acc v)) 1

/-- Adds a contribution to the group of `key`, opening the group if it is new; every total
must fit 64 bits. -/
def addToGroup (groups : List (List Int × Int)) (key : List Int) (c : Int) :
    Except ExecError (List (List Int × Int)) :=
  match groups.findIdx? (·.1 == key) with
  | some i =>
    let total := (groups[i]?.map (·.2)).getD 0
    if Decimal.fitsInt64 (total + c) then .ok (groups.set i (key, total + c))
    else .error (.accumulatorOverflow "+" total c)
  | none => .ok (groups ++ [(key, c)])

/-- Reads all of `child` into groups, in order of first appearance. -/
def groupFrom (keys : List Nat) (factors : List SumFactor) :
    Nat → Operator → List (List Int × Int) → Except ExecError (List (List Int × Int))
  | 0, _, groups => .ok groups
  | k + 1, child, groups =>
    match child.step with
    | (_, .error e) => .error e
    | (_, .ok none) => .ok groups
    | (child', .ok (some t)) => do
      let key ← keys.mapM t.valueAt
      let c ← SumFactor.productIn t factors
      let groups' ← addToGroup groups key c
      groupFrom keys factors k child' groups'

/-- An aggregate of `child`: one tuple per group of the `groupBy` columns, in order of first
appearance, with the group's SUM last. With no input and no groups there is one tuple, 0. -/
def aggregateOf (child : Operator) (sum : SumExpr) (groupBy : List String) (schema : Schema) :
    Except ExecError Operator := do
  let keyed ← groupBy.mapM fun c =>
    match schema.indexOf c with
    | some p => pure (p, "Aggregated." ++ (schema.columnName? p).getD c)
    | none => throw (.columnNotFound c)
  let resolve := fun (c : String) =>
    match schema.indexOf c with
    | some p => Except.ok (SumFactor.pos p)
    | none => Except.error (ExecError.columnNotFound c)
  let factors ← match sum with
    | .lit v => pure [SumFactor.lit v]
    | .col c => (fun f => [f]) <$> resolve c
    | .product ts => ts.mapM fun
      | .lit v => pure (SumFactor.lit v)
      | .col c => resolve c
  let keys := keyed.map (·.1)
  let groups ← groupFrom keys factors child.fuel child []
  let groups := if groups.isEmpty && keys.isEmpty then [([], 0)] else groups
  let results ← groups.mapM fun (vs, total) =>
    if Decimal.fitsInt32 total then pure (Tuple.mk (vs ++ [total]))
    else throw (.valueOverflow total)
  return .aggregate results 0 ⟨keyed.map (·.2) ++ ["Aggregated.Sum"]⟩

/-- Orders two tuples by the keys in turn; the first key that differs decides. -/
def SortKey.compareAll (keys : List SortKey) (a b : Tuple) : Ordering :=
  keys.foldl (fun acc k =>
    if acc != .eq then acc
    else
      let o := match a.values[k.column]?, b.values[k.column]? with
        | some x, some y => compare x y
        | _, _ => .eq
      if k.ascending then o else o.swap) .eq

/-- Reads all of `child`; every tuple must hold every key column. -/
def collectFrom (keys : List SortKey) : Nat → Operator → List Tuple → Except ExecError (List Tuple)
  | 0, _, acc => .ok acc.reverse
  | k + 1, child, acc =>
    match child.step with
    | (_, .error e) => .error e
    | (_, .ok none) => .ok acc.reverse
    | (child', .ok (some t)) =>
      match keys.find? (·.column ≥ t.arity) with
      | some key => .error (.sortColumnMissing key.column t.arity)
      | none => collectFrom keys k child' (t :: acc)

/-- A sort of `child` on the keys; tuples equal on every key keep their input order. -/
def sortOf (child : Operator) (keys : List SortKey) : Except ExecError Operator := do
  let ts ← collectFrom keys child.fuel child []
  return .sort (ts.mergeSort fun a b => SortKey.compareAll keys a b != .gt) 0

/-- A duplicate filter of `child` on the `keys` columns of `schema`; it reads its first
tuple. -/
def distinctOf (child : Operator) (schema : Schema) (keys : List String) :
    Except ExecError Operator := do
  let ks ← keys.mapM fun c =>
    match schema.indexOf c with
    | some p => pure p
    | none => throw (.columnNotFound c)
  match distinctAdvance child.fuel child ks [] with
  | ((c', seen), .ok ahead) => pure (.distinct c' ks seen ahead)
  | (_, .error e) => throw e

end Operator

end CsvQuery
