/-!
# Column references

A column is named bare (`A`) or behind a qualifier, a table name or alias (`S.A`).
Reading a name splits it at its last `.`; the lookup name joins the two parts again, so
`ofName` followed by `name` gives back the text it read.
-/

namespace CsvQuery

/-- A column name, with the table name or alias it was written behind, if any. -/
structure ColumnRef where
  qualifier : Option String
  column : String
deriving DecidableEq, Repr, Inhabited

namespace ColumnRef

/-- A column written behind a qualifier. -/
def qualified (q c : String) : ColumnRef := ⟨some q, c⟩

/-- A column written bare. -/
def bare (c : String) : ColumnRef := ⟨none, c⟩

/-- The lookup name: `q.c` or `c`. -/
def name (c : ColumnRef) : String :=
  match c.qualifier with
  | some q => q ++ "." ++ c.column
  | none => c.column

/-- Splits a name at its last `.`: the part before is the qualifier. -/
def ofName (s : String) : ColumnRef :=
  let cs := s.toList
  match cs.reverse.idxOf? '.' with
  | some k =>
    let cut := cs.length - 1 - k
    qualified (String.ofList (cs.take cut)) (String.ofList (cs.drop (cut + 1)))
  | none => bare s

example : ofName "a.b.c" = qualified "a.b" "c" := by decide
example : ofName "A" = bare "A" := by decide

end ColumnRef

end CsvQuery
