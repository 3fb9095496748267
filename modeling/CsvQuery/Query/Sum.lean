import CsvQuery.Text.Blank
import CsvQuery.Text.Decimal

/-!
# SUM expressions

What a SUM adds up per tuple: a 64-bit integer literal, a column, or a product of such
factors. Its text form is the factors joined by `" * "`. Reading text trims it, splits it
at every `*`, trims each factor, and reads a factor as a literal when it is a 64-bit
integer and as a column name otherwise; an empty text or an empty factor reads as nothing.
-/

namespace CsvQuery

/-- One factor of a SUM product. -/
inductive SumTerm where
  | lit (value : Int)
  | col (name : String)
deriving DecidableEq, Repr, Inhabited

/-- A SUM expression. -/
inductive SumExpr where
  | lit (value : Int)
  | col (name : String)
  | product (terms : List SumTerm)
deriving DecidableEq, Repr, Inhabited

namespace SumTerm

/-- Reads a factor: a 64-bit integer literal, or else a column name. -/
def ofText (cs : List Char) : SumTerm :=
  match Decimal.readInt64? cs with
  | some v => .lit v
  | none => .col (String.ofList cs)

/-- The text of a factor. -/
def render : SumTerm → String
  | .lit v => Decimal.render v
  | .col c => c

end SumTerm

namespace SumExpr

/-- Splits text at every `*`. -/
def splitStars (cs : List Char) : List (List Char) := cs.splitOn '*'

/-- Reads the factors of a product; `none` if one is empty after trimming. -/
def readFactors : List (List Char) → Option (List SumTerm)
  | [] => some []
  | part :: rest =>
    let p := Blank.trim part
    if p.isEmpty then none else (readFactors rest).map (SumTerm.ofText p :: ·)

/-- Reads a SUM expression from its text form. -/
def ofText? (s : String) : Option SumExpr :=
  let cs := Blank.trim s.toList
  if cs.isEmpty then none
  else if cs.contains '*' then (readFactors (splitStars cs)).map product
  else
    match SumTerm.ofText cs with
    | .lit v => some (lit v)
    | .col c => some (col c)

/-- The text of a SUM expression. -/
def render : SumExpr → String
  | .lit v => Decimal.render v
  | .col c => c
  | .product ts => " * ".intercalate (ts.map SumTerm.render)

/-- The column names read, in order. -/
def columns : SumExpr → List String
  | .lit _ => []
  | .col c => [c]
  | .product ts => ts.filterMap fun | .col c => some c | .lit _ => none

end SumExpr

end CsvQuery
