import CsvQuery.FileTree
import CsvQuery.Text.Decimal

/-!
# Row sources: the lines a scan reads

A row source yields text lines one at a time and can be rewound to its first line. Lines
in memory are yielded as given. A file is cut after every `\n`; each piece must be UTF-8
and loses all its trailing `\r` and `\n` characters. A piece that is not UTF-8 fails when
it is read, and reading goes on with the next piece. A directory opens, but every read
fails. Rows of integers are written as their values joined by `,`.
-/

namespace CsvQuery

/-- Where a scan reads lines from, and how far it has read. -/
inductive LineSource where
  /-- Lines, each either its text or the failure met reading it: all of them, and those
  not read yet. -/
  | lines (all rest : List (Except IoFailure String))
  /-- A source whose every read fails. -/
  | broken (cause : IoFailure)
deriving Repr, Inhabited

namespace LineSource

/-- Cuts bytes after every newline; the last piece is kept if it is not empty. -/
def pieces (current : List UInt8) : List UInt8 → List (List UInt8)
  | [] => if current.isEmpty then [] else [current.reverse]
  | b :: rest =>
    if b = 10 then (b :: current).reverse :: pieces [] rest else pieces (b :: current) rest

/-- Drops every trailing `\r` and `\n`. -/
def stripLineEnd (cs : List Char) : List Char :=
  (cs.reverse.dropWhile fun c => c = '\n' || c = '\r').reverse

/-- The lines of a file's bytes. -/
def fileLines (bytes : List UInt8) : List (Except IoFailure String) :=
  (pieces [] bytes).map fun piece =>
    match Utf8.decode? piece with
    | some cs => .ok (String.ofList (stripLineEnd cs))
    | none => .error .invalidUtf8

/-- A source over lines held in memory. -/
def ofLines (ls : List String) : LineSource := .lines (ls.map .ok) (ls.map .ok)

/-- A source over rows of integers, each written as its values joined by `,`. -/
def ofRows (rows : List (List Int)) : LineSource :=
  ofLines (rows.map fun r => ",".intercalate (r.map Decimal.render))

/-- Opens the file at `path`: a file yields its lines, a directory fails on every read. -/
def openFile (files : FileTree) (path : String) : Except IoFailure LineSource :=
  match files.lookup (FileTree.parts path) with
  | .ok (.file bytes) => .ok (.lines (fileLines bytes) (fileLines bytes))
  | .ok .directory => .ok (.broken .isDirectory)
  | .error e => .error e

/-- Reads the next line: `none` once all lines are read. -/
def next : LineSource → LineSource × Except IoFailure (Option String)
  | .lines all [] => (.lines all [], .ok none)
  | .lines all (.ok s :: rest) => (.lines all rest, .ok (some s))
  | .lines all (.error e :: rest) => (.lines all rest, .error e)
  | .broken e => (.broken e, .error e)

/-- Goes back to the first line. -/
def rewind : LineSource → LineSource
  | .lines all _ => .lines all all
  | .broken e => .broken e

/-- The number of lines the source holds. -/
def size : LineSource → Nat
  | .lines all _ => all.length
  | .broken _ => 0

end LineSource

end CsvQuery
