import CsvQuery.Cli.Run

/-!
# The command-line program

The thin outer layer: it reads the command line, loads from the file system the files a
command can touch (the settings file, the schema file, the query file, the data files the
schema declares, and the output path), runs the command on them, and then prints what it
printed, writes its log lines to standard error, and writes back the output file if the
command created or changed it. A failed command prints its error and exits with status 1.
-/

namespace CsvQuery

namespace Main

/-- What the file system holds at a path: a file, a directory, or nothing readable. -/
def probe (path : String) : IO (Option FileNode) := do
  try
    let bytes ← IO.FS.readBinFile path
    return some (.file bytes.toList)
  catch e =>
    match e with
    | .inappropriateType _ 21 _ => return some .directory
    | .otherError 21 _ => return some .directory
    | _ => return none

/-- Adds to the tree what the file system holds along a path: its directories, and the
file at its end. -/
def loadPath (tree : FileTree) (path : String) : IO FileTree := do
  let ps := FileTree.parts path
  let lead := if path.startsWith "/" then "/" else ""
  let mut t := tree
  for k in List.range ps.length do
    let front := ps.take (k + 1)
    match ← probe (lead ++ "/".intercalate front) with
    | some .directory => t := t.setEntry front .directory
    | some node =>
      t := t.setEntry front node
      break
    | none => break
  return t

/-- Loads several paths. -/
def loadPaths (tree : FileTree) (paths : List String) : IO FileTree :=
  paths.foldlM loadPath tree

/-- The files a command can touch, loaded from the file system. -/
def filesFor (cmd : Command) : IO FileTree := do
  let (db, input, output, config) := match cmd with
    | .query db input output config => (db, input, some output, config)
    | .explain db input config => (db, input, none, config)
  let t ← loadPaths {} config.toList
  let cfg := (EngineConfig.load t config).toOption.getD {}
  let t ← loadPaths t ([FileTree.join db cfg.schemaFile, input] ++ output.toList)
  let tables := match Catalog.load t db cfg.schemaFile cfg.dataSubdir with
    | .ok (c, _) => c.tables.map (·.path)
    | .error _ => []
  loadPaths t tables

/-- A random identifier in the 8-4-4-4-12 hexadecimal form, version 4. -/
def randomId : IO String := do
  let mut digits : List Char := []
  for k in List.range 32 do
    let n ← IO.rand 0 15
    let n := if k = 12 then 4 else if k = 16 then 8 + n % 4 else n
    digits := digits ++ [Json.hexDigit n]
  let group (a b : Nat) := String.ofList ((digits.drop a).take (b - a))
  return "-".intercalate [group 0 8, group 8 12, group 12 16, group 16 20, group 20 32]

/-- Writes back the output file if the run created or changed it. -/
def writeBack (before after : FileTree) : Command → IO Unit
  | .query _ _ output _ =>
    match after.contents? output with
    | some bytes => do
      if before.contents? output != some bytes then
        IO.FS.writeBinFile output (ByteArray.mk bytes.toArray)
    | none => pure ()
  | .explain .. => pure ()

/-- Help text for the command line. -/
def usage : String :=
  "Usage:\n  query <database_dir> <input_file> <output_file> [--config <path>]\n"
    ++ "  explain <database_dir> <input_file> [--config <path>]\n"

end Main

end CsvQuery

open CsvQuery CsvQuery.Main in
/-- Runs the program on its command line; returns the exit status. -/
def main (args : List String) : IO UInt32 := do
  match Command.ofArgs args with
  | .error k =>
    match k with
    | .displayHelp | .displayVersion => IO.print usage; return 0
    | _ => IO.eprint ("error: " ++ k.name ++ "\n" ++ usage); return 2
  | .ok cmd =>
    let files ← filesFor cmd
    let stamp : RunStamp := ⟨← randomId, "0"⟩
    let start ← IO.monoMsNow
    let (s, r) := cmd.run stamp { files }
    let elapsed := (← IO.monoMsNow) - start
    IO.print s.printed
    for entry in s.log.written do
      let entry := { entry with fields := entry.fields.map fun (k, v) =>
        if k = "elapsed_ms" then (k, Decimal.renderNat elapsed) else (k, v) }
      IO.eprintln entry.line
    writeBack files s.files cmd
    match r with
    | .ok () => return 0
    | .error e => IO.eprintln e.display; return 1
