/-!
# Schemas: column names by position

A schema lists the qualified names (`table.column`) of a tuple's positions. A name
resolves to the leftmost position holding exactly that name; failing that, to the leftmost
position whose name ends in `.` followed by it, so a bare column name finds its table's
column. Combining two schemas appends the right one's names, shifting its positions.
-/

namespace CsvQuery

/-- Qualified column names, in tuple position order. -/
structure Schema where
  columns : List String
deriving DecidableEq, Repr, Inhabited

namespace Schema

/-- The schema of one table's columns under a table name or alias. -/
def ofTable (reference : String) (columns : List String) : Schema :=
  ⟨columns.map fun c => reference ++ "." ++ c⟩

/-- The columns of `l` then those of `r`. -/
def combine (l r : Schema) : Schema := ⟨l.columns ++ r.columns⟩

/-- The number of columns. -/
def size (s : Schema) : Nat := s.columns.length

/-- Whether `entry` is `name` behind a qualifier: it ends in `.` followed by `name`. -/
def endsWithQualified (entry name : String) : Bool :=
  let e := entry.toList
  let n := name.toList
  n.length < e.length && n.isSuffixOf e && e[e.length - n.length - 1]? == some '.'

/-- The position a name resolves to: exact match first, then the leftmost qualified
suffix match. -/
def indexOf (s : Schema) (name : String) : Option Nat :=
  match s.columns.findIdx? (· == name) with
  | some i => some i
  | none => s.columns.findIdx? (endsWithQualified · name)

/-- Whether a name resolves. -/
def hasColumn (s : Schema) (name : String) : Bool := (s.indexOf name).isSome

/-- The qualified name at a position. -/
def columnName? (s : Schema) (i : Nat) : Option String := s.columns[i]?

example : (Schema.mk ["R.A", "S.A", "A"]).indexOf "A" = some 2 := by decide
example : (Schema.mk ["R.A", "S.A"]).indexOf "A" = some 0 := by decide
example : (Schema.mk ["R.AB", "S.B"]).indexOf "B" = some 1 := by decide

end Schema

end CsvQuery
