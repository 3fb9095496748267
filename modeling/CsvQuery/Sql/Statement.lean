import CsvQuery.Sql.Lexer
import CsvQuery.Sql.Command

/-!
# SQL statements

`Sql.parse` reads SQL text into statements separated by semicolons. A query is read into
its tree. Any other statement is checked against its grammar and kept as the text of its
tokens, which is all that is ever said about it:

* `EXPLAIN`, `DESCRIBE` and `DESC` take a statement, or else a table name; an explanation
  of an explanation is refused;
* `PREPARE name [(types)] AS statement` holds a statement;
* the other statements are read by `readCommandBody`, and `CREATE PROCEDURE` holds a list
  of statements between `BEGIN` and `END`.

A statement ends at the end of the text or at `;`; after a statement, a plain `END` ends
the list.
-/

namespace CsvQuery.Sql

open Reader

/-- A statement: a query, or another statement known by its leading keyword and kept as
its text. -/
inductive Statement where
  | query (q : Query)
  | command (keyword : String) (text : String)

/-- The canonical text of a statement. -/
def Statement.render : Statement → String
  | .query q => q.render
  | .command _ text => text

/-- The keywords that explain a statement. -/
def explainKeywords : List String := ["EXPLAIN", "DESCRIBE", "DESC"]

/-- Runs `p` and yields the text of the tokens it consumed. -/
def consumedText (p : Reader Unit) : Reader String := fun ts =>
  match p ts with
  | .ok ((), rest) => .ok (renderTokens (ts.take (ts.length - rest.length)), rest)
  | .error e => .error e

/-- Reads one option of `EXPLAIN (...)`: a name and an optional value. -/
def readUtilityOption (n d : Nat) : Reader Unit := do
  let _ ← readIdent
  match ← peek with
  | some .comma | some .rparen => pure ()
  | _ =>
    let _ ← readExprAt n d

/-- Reads the options of an explanation: `(...)` after `EXPLAIN`, or `QUERY PLAN`, or
`ANALYZE`, `VERBOSE` and `FORMAT f`. -/
def readExplainOptions (n d : Nat) (keyword : String) : Reader Unit := do
  if keyword = "EXPLAIN" && (← nextIs .lparen) then
    advance
    let _ ← commaSep (readUtilityOption n d)
    expect .rparen ")"
    return
  if ← eatKeywords ["QUERY", "PLAN"] then return
  let _ ← eatKeyword "ANALYZE"
  let _ ← eatKeyword "VERBOSE"
  if ← eatKeyword "FORMAT" then
    if !(← eatAnyKeyword ["TEXT", "GRAPHVIZ", "JSON"]) then failWith "Expected: fileformat"

/-- Reads statements with `statement`, separated by semicolons; empty statements are
skipped, and a plain `END` after a statement ends the list. -/
def readStatementsWith (statement : Reader Statement) : Nat → Bool → Reader (List Statement)
  | 0, _ => pure []
  | k + 1, expectingEnd => do
    let ts ← get
    let ts' := ts.dropWhile (· = .semicolon)
    let expectingEnd := expectingEnd && ts'.length = ts.length
    set ts'
    match ts' with
    | [] => pure []
    | t :: _ =>
      if expectingEnd && t.isKeyword "END" then return []
      if expectingEnd then failWith "Expected: end of statement"
      let s ← statement
      return s :: (← readStatementsWith statement k true)

/-- Reads one statement with `depth` levels of nesting left. An explanation, a prepared
statement and a procedure read the statements they hold with one level less. -/
def readStatementAt : Nat → Nat → Reader Statement
  | 0, _ => outOfFuel
  | n + 1, depth => do
    if depth = 0 then throw .tooDeep
    let d := depth - 1
    match ← peek with
    | some t =>
      if t.isAnyKeyword ["SELECT", "WITH", "VALUES"] || t = .lparen then
        return .query (← readQuery false n d)
      let keyword := match t with | .word v _ => upperWord v | _ => ""
      if t.isAnyKeyword explainKeywords then
        advance
        let options ← consumedText (readExplainOptions n d keyword)
        match ← attempt (readStatementAt n d) with
        | some s =>
          let nested := match s with
            | .command k _ => explainKeywords.contains k
            | .query _ => false
          if nested then failWith "Explain must be root of the plan"
          return .command keyword (keyword ++ " " ++ options ++ " " ++ s.render)
        | none =>
          let rest ← consumedText do
            let _ ← eatOneOf ["EXTENDED", "FORMATTED"]
            let _ ← readObjectName
          return .command keyword (keyword ++ " " ++ options ++ " " ++ rest)
      if t.isKeyword "PREPARE" then
        advance
        let head ← consumedText do
          let _ ← readIdent
          if ← eat .lparen then
            let _ ← commaSep (readDataType (readExprText n d))
            expect .rparen ")"
          expectKeyword "AS"
        let s ← readStatementAt n d
        return .command "PREPARE" ("PREPARE " ++ head ++ " " ++ s.render)
      if t.isAnyKeyword commandKeywords then
        advance
        let body : Reader Unit := do
          let _ ← fun ts => readStatementsWith (readStatementAt n d) (ts.length + 1) false ts
        let text ← consumedText (readCommandBody n d body keyword)
        return .command keyword (renderTokens [t] ++ " " ++ text)
      failWith "Expected: an SQL statement"
    | none => failWith "Expected: an SQL statement"

/-- Reads SQL text into its statements. -/
def parse (text : String) : Except ReadError (List Statement) :=
  match tokenize text with
  | .error msg => .error (.malformed msg)
  | .ok tokens =>
    let fuel := 16 * (tokens.length + 2)
    (readStatementsWith (readStatementAt fuel 50) (tokens.length + 1) false tokens).map (·.1)

end CsvQuery.Sql
