import CsvQuery.FileTree
import CsvQuery.Table.Schema

/-!
# Catalogs: the tables a database declares

A catalog holds its table definitions in a registry looked up by table name, and the
names in registration order beside it; each definition has its columns and the path of its
data file inside the data directory (`<dir>/<name>.csv`). Registering a table adds it to
both, and fails, leaving the catalog as it was, when the name is taken, when there are no
columns, or when a column repeats (the first column seen a second time is named).
-/

namespace CsvQuery

/-- Why loading or extending a catalog failed. -/
inductive CatalogError where
  /-- The schema file does not exist. -/
  | schemaMissing (path : String)
  /-- The schema file exists but cannot be read as text. -/
  | io (path : String) (cause : IoFailure)
  /-- A table name registered twice. -/
  | duplicateTable (name : String)
  /-- A table with no columns. -/
  | noColumns (name : String)
  /-- A column declared twice in one table. -/
  | duplicateColumn (table column : String)
deriving DecidableEq, Repr, Inhabited

namespace CatalogError

/-- The stable code of each cause. -/
def code : CatalogError → String
  | .schemaMissing _ => "AERO_CATALOG_SCHEMA_MISSING"
  | .io .. => "AERO_CATALOG_IO"
  | .duplicateTable _ => "AERO_CATALOG_DUPLICATE_TABLE"
  | .noColumns _ => "AERO_CATALOG_NO_COLUMNS"
  | .duplicateColumn .. => "AERO_CATALOG_DUPLICATE_COLUMN"

/-- The message of each cause. -/
def message : CatalogError → String
  | .schemaMissing p => "Schema file not found: " ++ p
  | .io p e => "I/O error reading " ++ p ++ ": " ++ e.message
  | .duplicateTable n => "Table '" ++ n ++ "' is already registered"
  | .noColumns n => "Table '" ++ n ++ "' must have at least one column"
  | .duplicateColumn t c => "Table '" ++ t ++ "' declares column '" ++ c ++ "' more than once"

/-- The underlying file failure, if any. -/
def cause? : CatalogError → Option IoFailure
  | .io _ e => some e
  | _ => none

end CatalogError

/-- A declared table: its name, its columns and the path of its data file. -/
structure TableDef where
  name : String
  columns : List String
  path : String
deriving DecidableEq, Repr, Inhabited

/-- The table's schema with its columns qualified by `reference`. -/
def TableDef.schema (t : TableDef) (reference : String) : Schema := Schema.ofTable reference t.columns

/-- A schema line that was not registered, with its 1-based number and the reason. -/
structure SkippedLine where
  line : Nat
  reason : String
deriving DecidableEq, Repr, Inhabited

/-- The declared tables: the registry, where a definition is found by its table name, and
the registered names in registration order. -/
structure Catalog where
  dataDir : String
  registry : List TableDef := []
  order : List String := []
  skipped : List SkippedLine := []
deriving DecidableEq, Repr, Inhabited

/-- The first entry that occurs earlier in the list too. -/
def firstRepeat : List String → List String → Option String
  | _, [] => none
  | seen, c :: cs => if seen.contains c then some c else firstRepeat (c :: seen) cs

namespace Catalog

/-- A catalog with no tables, reading data files from `dataDir`. -/
def empty (dataDir : String) : Catalog := { dataDir }

/-- The definition of a table, by exact name, from the registry. -/
def table? (c : Catalog) (name : String) : Option TableDef := c.registry.find? (·.name == name)

/-- Whether the registry holds a table name. -/
def contains (c : Catalog) (name : String) : Bool := (c.table? name).isSome

/-- The registered names, in order. -/
def tableNames (c : Catalog) : List String := c.order

/-- The number of tables in the registry. -/
def size (c : Catalog) : Nat := c.registry.length

/-- The definitions of the registered names, in order. -/
def tables (c : Catalog) : List TableDef := c.order.filterMap c.table?

/-- The definition `register` makes of a table. -/
def tableDef (c : Catalog) (name : String) (columns : List String) : TableDef :=
  ⟨name, columns, FileTree.join c.dataDir (name ++ ".csv")⟩

/-- Registers a table after the checks: name free, some columns, no repeated column. The
name goes at the end of the order, the definition into the registry. -/
def register (c : Catalog) (name : String) (columns : List String) : Except CatalogError Catalog :=
  if c.contains name then .error (.duplicateTable name)
  else if columns.isEmpty then .error (.noColumns name)
  else match firstRepeat [] columns with
    | some col => .error (.duplicateColumn name col)
    | none =>
      .ok { c with order := c.order ++ [name], registry := c.tableDef name columns :: c.registry }

end Catalog

end CsvQuery
