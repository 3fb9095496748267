import CsvQuery.Exec.Error

/-!
# Tuples: rows of 32-bit integers

A tuple is a list of values, each within the 32-bit signed range. Its arity is its
length; rows of one table may differ in arity. A tuple is written as its values joined by
`", "` (the empty tuple as the empty text). Looking up a position past the arity and
comparing two tuples on a column that one lacks are errors, never defaults.
-/

namespace CsvQuery

/-- A row of values. -/
structure Tuple where
  values : List Int
deriving DecidableEq, Repr, Inhabited

namespace Tuple

/-- The number of values. -/
def arity (t : Tuple) : Nat := t.values.length

/-- The values of `l` followed by those of `r`. -/
def concat (l r : Tuple) : Tuple := ⟨l.values ++ r.values⟩

/-- The value at a 0-based position. -/
def valueAt (t : Tuple) (i : Nat) : Except ExecError Int :=
  match t.values[i]? with
  | some v => .ok v
  | none => .error (.indexOutOfRange i t.arity)

/-- Compares two tuples on one column only. -/
def compareBy (a b : Tuple) (column : Nat) : Except ExecError Ordering :=
  match a.values[column]?, b.values[column]? with
  | some x, some y => .ok (compare x y)
  | _, _ => .error (.compareArity column a.arity b.arity)

/-- The values joined by `", "`. -/
def render (t : Tuple) : String := ", ".intercalate (t.values.map Decimal.render)

@[simp] theorem arity_concat (l r : Tuple) : (concat l r).arity = l.arity + r.arity := by
  simp [arity, concat]

end Tuple

end CsvQuery
