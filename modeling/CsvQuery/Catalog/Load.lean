import CsvQuery.Catalog.Basic
import CsvQuery.Log.Basic
import CsvQuery.Text.Blank
import CsvQuery.Text.Decimal

/-!
# Loading a catalog from its schema file

The schema file holds one table per line: a name, then its columns, separated by blanks.
Lines end at a line feed (a carriage return before it is dropped); blank lines are
ignored. A line is skipped, with the first reason that applies, when it declares no
columns, when its table is already defined, or when it repeats a column; skipped lines
keep their 1-based numbers, blank lines counted. Every other line registers its table.

Loading logs one warning per skipped line, then a summary.
-/

namespace CsvQuery

/-- Drops one carriage return at the end. -/
def dropCarriageReturn (cs : List Char) : List Char :=
  match cs.getLast? with
  | some '\r' => cs.dropLast
  | _ => cs

/-- Splits text into lines at line feeds; `current` holds the line read so far, reversed.
A line ended by a line feed loses one carriage return before it; a final line without
line feed is kept as it is, and no empty line follows a final line feed. -/
def linesFrom (current : List Char) : List Char → List (List Char)
  | [] => if current.isEmpty then [] else [current.reverse]
  | '\n' :: rest => dropCarriageReturn current.reverse :: linesFrom [] rest
  | c :: rest => linesFrom (c :: current) rest

/-- The lines of a text. -/
def textLines (s : String) : List String := (linesFrom [] s.toList).map String.ofList

/-- Why a schema line with words `name :: columns` is not registered, if it is not. -/
def skipReason (c : Catalog) (name : String) (columns : List String) : Option String :=
  if columns.isEmpty then some ("table '" ++ name ++ "' declares no columns")
  else if c.contains name then some ("table '" ++ name ++ "' is already defined")
  else match firstRepeat [] columns with
    | some col => some ("table '" ++ name ++ "' repeats column '" ++ col ++ "'")
    | none => none

/-- Reads numbered schema lines into a catalog, with the warnings of the skipped ones. -/
def readSchemaLines (display : String) :
    Catalog × List LogRecord → List (Nat × String) → Except CatalogError (Catalog × List LogRecord)
  | acc, [] => .ok acc
  | (c, logs), (n, line) :: rest =>
    match Blank.wordsOf line with
    | [] => readSchemaLines display (c, logs) rest
    | name :: columns =>
      match skipReason c name columns with
      | some reason =>
        let record := Event.catalogLineSkipped.record
          [("line", Decimal.renderNat n), ("reason", reason), ("schema_file", display)]
        readSchemaLines display
          ({ c with skipped := c.skipped ++ [⟨n, reason⟩] }, logs ++ [record]) rest
      | none =>
        match c.register name columns with
        | .ok c' => readSchemaLines display (c', logs) rest
        | .error e => .error e

/-- Builds a catalog from the text of a schema file. -/
def Catalog.ofSchemaText (display dataDir text : String) :
    Except CatalogError (Catalog × List LogRecord) :=
  let numbered := (textLines text).zipIdx.map fun (l, i) => (i + 1, l)
  match readSchemaLines display (Catalog.empty dataDir, []) numbered with
  | .ok (c, logs) =>
    let summary := Event.catalogLoaded.record
      [("schema_file", display), ("skipped", Decimal.renderNat c.skipped.length),
       ("tables", Decimal.renderNat c.size)]
    .ok (c, logs ++ [summary])
  | .error e => .error e

/-- Loads the catalog of the database directory `dbDir`: the schema file `schemaFile`
inside it, and data files under `dataSubdir`. Returns the records to log. -/
def Catalog.load (files : FileTree) (dbDir schemaFile dataSubdir : String) :
    Except CatalogError (Catalog × List LogRecord) :=
  let path := FileTree.join dbDir schemaFile
  match files.readText path with
  | .error .notFound => .error (.schemaMissing path)
  | .error e => .error (.io path e)
  | .ok text => Catalog.ofSchemaText path (FileTree.join dbDir dataSubdir) text

end CsvQuery
