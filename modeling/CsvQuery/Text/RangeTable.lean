/-!
# Tables of code point ranges

A character property given by the Unicode standard is kept as an array of half-open code
point ranges `[lo, hi)`, disjoint and in increasing order. `RangeTable.contains` finds the
range that could hold a code point by halving the window of candidates; the window shrinks
at every step, so the array's size bounds the number of steps.
-/

namespace CsvQuery.RangeTable

/-- Whether `n` lies in one of the ranges `t[lo:hi]`, with `fuel` halving steps left. -/
def searchIn (t : Array (Nat × Nat)) (n : Nat) : Nat → Nat → Nat → Bool
  | 0, _, _ => false
  | fuel + 1, lo, hi =>
    if lo < hi then
      let mid := (lo + hi) / 2
      let r := t.getD mid (0, 0)
      if n < r.1 then searchIn t n fuel lo mid
      else if n < r.2 then true
      else searchIn t n fuel (mid + 1) hi
    else false

/-- Whether the code point `n` lies in one of the ranges of `t`. -/
def contains (t : Array (Nat × Nat)) (n : Nat) : Bool := searchIn t n (t.size + 1) 0 t.size

example : contains #[(1, 3), (5, 6)] 2 = true ∧ contains #[(1, 3), (5, 6)] 4 = false := by decide

end CsvQuery.RangeTable
