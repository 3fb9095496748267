import CsvQuery.Text.Utf8

/-!
# File trees: the files a run reads and writes

A run sees a working directory as data: a list of entries, each a path and either a
file's bytes or a directory. A directory also exists implicitly above every entry. Paths
are `/`-separated; `.` and empty parts are skipped and `..` steps back out. Reading a
directory, a missing path, or a path through a file fails with the operating system's
reason (`IoFailure`); creating a file needs an existing parent directory.
-/

namespace CsvQuery

/-- Why a file operation failed. -/
inductive IoFailure where
  /-- The path names nothing. -/
  | notFound
  /-- The path names a directory where a file was needed. -/
  | isDirectory
  /-- A leading part of the path names a file. -/
  | notDirectory
  /-- The bytes read are not well-formed UTF-8 text. -/
  | invalidUtf8
deriving DecidableEq, Repr, Inhabited

/-- The operating system's wording of each failure. -/
def IoFailure.message : IoFailure → String
  | .notFound => "No such file or directory (os error 2)"
  | .isDirectory => "Is a directory (os error 21)"
  | .notDirectory => "Not a directory (os error 20)"
  | .invalidUtf8 => "stream did not contain valid UTF-8"

/-- What a path holds. -/
inductive FileNode where
  | file (bytes : List UInt8)
  | directory
deriving DecidableEq, Repr, Inhabited

/-- The entries of a working directory, each under its path's parts. -/
structure FileTree where
  entries : List (List String × FileNode) := []
deriving Repr, Inhabited

namespace FileTree

/-- Adds one normalized part to a reversed part list: `..` steps back, `.` and `` are
skipped. -/
def pushPart (acc : List String) (part : String) : List String :=
  if part = "" || part = "." then acc
  else if part = ".." then acc.drop 1
  else part :: acc

/-- The parts of a path, with `.`, `..` and repeated separators resolved. -/
def parts (path : String) : List String :=
  ((path.splitOn "/").foldl pushPart []).reverse

/-- Joins a relative path onto a base, inserting a separator where needed; an absolute
`rel` replaces the base. -/
def join (base rel : String) : String :=
  if rel.startsWith "/" || base = "" then rel
  else if base.endsWith "/" then base ++ rel
  else base ++ "/" ++ rel

/-- What the tree holds at a path, or why it holds nothing there. -/
def lookup (t : FileTree) (ps : List String) : Except IoFailure FileNode :=
  if ps.isEmpty then .ok .directory
  else
    match (t.entries.reverse.find? fun e => e.1 = ps) with
    | some (_, node) => .ok node
    | none =>
      if t.entries.any fun e => ps.isPrefixOf e.1 then .ok .directory
      else if ((List.range ps.length).map ps.take).any fun pre =>
          t.entries.any fun e => e.1 = pre && e.2 != .directory then .error .notDirectory
      else .error .notFound

/-- The bytes of the file at `path`. -/
def readBytes (t : FileTree) (path : String) : Except IoFailure (List UInt8) :=
  match t.lookup (parts path) with
  | .ok (.file bs) => .ok bs
  | .ok .directory => .error .isDirectory
  | .error e => .error e

/-- The text of the file at `path`, which must be UTF-8. -/
def readText (t : FileTree) (path : String) : Except IoFailure String :=
  match t.readBytes path with
  | .ok bs =>
    match Utf8.decodeString? bs with
    | some s => .ok s
    | none => .error .invalidUtf8
  | .error e => .error e

/-- The file's bytes, if `path` names a file. -/
def contents? (t : FileTree) (path : String) : Option (List UInt8) :=
  match t.readBytes path with
  | .ok bs => some bs
  | .error _ => none

/-- Sets the entry at `ps`, replacing an earlier one. -/
def setEntry (t : FileTree) (ps : List String) (node : FileNode) : FileTree :=
  { entries := (t.entries.filter fun e => e.1 != ps) ++ [(ps, node)] }

/-- Creates or truncates the file at `path` and writes `bytes` to it. -/
def create (t : FileTree) (path : String) (bytes : List UInt8) : Except IoFailure FileTree :=
  let ps := parts path
  match t.lookup ps with
  | .ok .directory => .error .isDirectory
  | .ok (.file _) => .ok (t.setEntry ps (.file bytes))
  | .error .notDirectory => .error .notDirectory
  | .error _ =>
    match t.lookup ps.dropLast with
    | .ok .directory => .ok (t.setEntry ps (.file bytes))
    | .ok (.file _) => .error .notDirectory
    | .error e => .error e

end FileTree

end CsvQuery
