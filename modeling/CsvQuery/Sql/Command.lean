import CsvQuery.Sql.Definition

/-!
# Other statements

Readers of the statements that are neither queries nor data definitions, each after its
leading keyword: session and transaction control (`SET`, `BEGIN`, `COMMIT`, ...), cursors,
privileges, data movement (`DELETE`, `COPY`, `MERGE`, ...) and the small commands of single
engines (`KILL`, `FLUSH`, `PRAGMA`, ...). Like the data definition readers they check the
grammar and keep nothing.
-/

namespace CsvQuery.Sql

open Reader

/-! ## Session and transactions -/

/-- Reads `KILL [CONNECTION | QUERY | MUTATION] id`. -/
def readKill : Reader Unit := do
  let _ ← eatOneOf ["CONNECTION", "QUERY", "MUTATION"]
  let _ ← readLiteralUint

/-- Reads the rest of `FLUSH TABLES`: words, and names after a word that is no keyword,
up to the first token that is not a word, which is taken too. -/
def readFlushTables : Nat → Reader Unit
  | 0 => pure ()
  | k + 1 => do
    match ← peek with
    | some (.word v q) =>
      if q.isNone && Keyword.isKeyword v then
        advance
        if spells v "WITH" then
          let _ ← eatKeywords ["READ", "LOCK"]
        else if spells v "FOR" then
          let _ ← eatKeyword "EXPORT"
      else
        let _ ← commaSep readObjectName
      readFlushTables k
    | some _ => advance
    | none => pure ()

/-- Reads the rest of `FLUSH`: an optional location and what is flushed. -/
def readFlush : Reader Unit := do
  if !(← eatKeyword "NO_WRITE_TO_BINLOG") then
    let _ ← eatKeyword "LOCAL"
  if ← anyOf [eatKeywords ["BINARY", "LOGS"], eatKeywords ["ENGINE", "LOGS"],
      eatKeywords ["ERROR", "LOGS"], eatKeywords ["GENERAL", "LOGS"], eatKeyword "HOSTS",
      eatKeyword "PRIVILEGES", eatKeyword "OPTIMIZER_COSTS"] then return
  if ← eatKeywords ["RELAY", "LOGS"] then
    if ← eatKeywords ["FOR", "CHANNEL"] then
      let _ ← readObjectName
    return
  if ← anyOf [eatKeywords ["SLOW", "LOGS"], eatKeyword "STATUS", eatKeyword "USER_RESOURCES",
      eatKeyword "LOGS"] then return
  if ← eatKeyword "TABLES" then return ← fun ts => readFlushTables (ts.length + 1) ts
  failWith "Expected: BINARY LOGS, ENGINE LOGS, ERROR LOGS, GENERAL LOGS, HOSTS, LOGS, PRIVILEGES, OPTIMIZER_COSTS, RELAY LOGS [FOR CHANNEL channel], SLOW LOGS, STATUS, USER_RESOURCES"

/-- Reads transaction modes: `ISOLATION LEVEL level`, `READ ONLY` and `READ WRITE`. A comma
after a mode makes another one required. -/
def readTransactionModes : Nat → Bool → Reader Unit
  | 0, _ => pure ()
  | k + 1, required => do
    if ← eatKeywords ["ISOLATION", "LEVEL"] then
      if !(← anyOf [eatKeywords ["READ", "UNCOMMITTED"], eatKeywords ["READ", "COMMITTED"],
          eatKeywords ["REPEATABLE", "READ"], eatKeyword "SERIALIZABLE"]) then
        failWith "Expected: isolation level"
    else if !(← anyOf [eatKeywords ["READ", "ONLY"], eatKeywords ["READ", "WRITE"]]) then
      if required then failWith "Expected: transaction mode"
      return
    readTransactionModes k (← eat .comma)

/-- Reads a list of transaction modes, possibly empty. -/
def readModes : Reader Unit := fun ts => readTransactionModes (ts.length + 1) false ts

/-- Reads the rest of `START TRANSACTION`. -/
def readStart : Reader Unit := do
  expectKeyword "TRANSACTION"
  readModes

/-- Reads the rest of `BEGIN`: a modifier, `TRANSACTION` or `WORK`, and modes. -/
def readBegin : Reader Unit := do
  let _ ← eatOneOf ["DEFERRED", "IMMEDIATE", "EXCLUSIVE"]
  let _ ← eatOneOf ["TRANSACTION", "WORK"]
  readModes

/-- Reads the rest of `COMMIT` or `END`: `TRANSACTION` or `WORK`, and
`AND [NO] CHAIN`. -/
def readChain : Reader Unit := do
  let _ ← eatOneOf ["TRANSACTION", "WORK"]
  if ← eatKeyword "AND" then
    let _ ← eatKeyword "NO"
    expectKeyword "CHAIN"

/-- Reads the rest of `ROLLBACK`: the chain part and `TO [SAVEPOINT] name`. -/
def readRollback : Reader Unit := do
  readChain
  if ← eatKeyword "TO" then
    let _ ← eatKeyword "SAVEPOINT"
    let _ ← readIdent

/-- Whether a name is one plain identifier spelling `word` in any case of its ASCII
letters. -/
def plainNameIs (name : List Ident) (word : String) : Bool :=
  match name with
  | [⟨v, none⟩] => v.map Char.toUpper == word
  | _ => false

/-- Whether a name is one plain identifier written exactly as `word`. -/
def plainNameExactly (name : List Ident) (word : String) : Bool :=
  match name with
  | [⟨v, none⟩] => v == word
  | _ => false

/-- Reads one value of `SET`: a query starting with `SELECT` or `WITH`, or an
expression. -/
def readSetValue (n d : Nat) : Reader Unit := do
  if ← nextIsKeyword ["SELECT", "WITH"] then
    let _ ← readQuery false n d
  else
    let _ ← readExprAt n d

/-- Reads the rest of `SET`: a modifier, then a role, the character set of names, values
of one variable or of several in parentheses, the time zone, or the characteristics of
transactions. -/
def readSet (n d : Nat) : Reader Unit := do
  let modifier ← eatOneOf ["SESSION", "LOCAL", "HIVEVAR"]
  if modifier = some "HIVEVAR" then expect .colon ":"
  else
    let role ← attempt do
      expectKeyword "ROLE"
      if !(← eatKeyword "NONE") then
        let _ ← readIdent
    if role.isSome then return
  let target ← do
    if ← eatKeywords ["TIME", "ZONE"] then pure (some [⟨"TIMEZONE", none⟩])
    else if ← eat .lparen then
      let _ ← commaSep readIdent
      expect .rparen ")"
      pure none
    else some <$> readObjectName
  let name := target.getD []
  if plainNameIs name "NAMES" then
    if ← eatKeyword "DEFAULT" then return
    let _ ← readLiteralString
    if ← eatKeyword "COLLATE" then
      let _ ← readLiteralString
    return
  if ← anyOf [eat .eq, eatKeyword "TO"] then
    let parenthesized := target.isNone
    if parenthesized then expect .lparen "("
    let _ ← commaSep (readSetValue n d)
    if parenthesized then expect .rparen ")"
    return
  if target.isNone then failWith "Expected: set variable"
  if plainNameIs name "TIMEZONE" then
    let _ ← readExprAt n d
  else if plainNameExactly name "CHARACTERISTICS" then
    expectKeyword "AS"
    expectKeyword "TRANSACTION"
    readModes
  else if plainNameExactly name "TRANSACTION" && modifier.isNone then
    if ← eatKeyword "SNAPSHOT" then
      let _ ← readValue
    else readModes
  else failWith "Expected: equals sign or TO"

/-- Reads a `SHOW` filter: `LIKE 'pattern'`, `ILIKE 'pattern'`, `WHERE condition`, or a
bare pattern. -/
def readShowFilter (n d : Nat) : Reader Unit := do
  if ← eatAnyKeyword ["LIKE", "ILIKE"] then
    let _ ← readLiteralString
  else if ← eatKeyword "WHERE" then
    let _ ← readExprAt n d
  else
    let _ ← attempt readLiteralString

/-- Reads an optional `FROM | IN name`. -/
def readShowSource : Reader Unit := do
  if ← eatAnyKeyword ["FROM", "IN"] then
    let _ ← readIdent

/-- Reads the rest of `SHOW`: flags, then columns, tables, views, functions, a `CREATE`
statement, collations, variables, status, databases or schemas, each with its filter.
Anything else names a variable, and the statement runs to the end of the text or to `=`. -/
def readShow (n d : Nat) : Reader Unit := do
  let extended ← eatKeyword "EXTENDED"
  let full ← eatKeyword "FULL"
  let _ ← eatKeyword "SESSION"
  let _ ← eatKeyword "GLOBAL"
  if ← eatAnyKeyword ["COLUMNS", "FIELDS"] then
    if !(← eatAnyKeyword ["FROM", "IN"]) then failWith "Expected: one of FROM or IN"
    let _ ← readObjectName
    readShowSource
    return ← readShowFilter n d
  if ← anyOf [eatKeyword "TABLES", eatKeywords ["MATERIALIZED", "VIEWS"], eatKeyword "VIEWS"] then
    readShowSource
    return ← readShowFilter n d
  if ← eatKeyword "FUNCTIONS" then return ← readShowFilter n d
  if extended || full then failWith "EXTENDED/FULL are not supported with this type of SHOW query"
  if ← eatKeyword "CREATE" then
    if !(← eatAnyKeyword ["TABLE", "TRIGGER", "FUNCTION", "PROCEDURE", "EVENT", "VIEW"]) then
      failWith "Expected: one of TABLE or TRIGGER or FUNCTION or PROCEDURE or EVENT or VIEW"
    let _ ← readObjectName
    return
  if ← eatAnyKeyword ["COLLATION", "VARIABLES", "STATUS", "DATABASES", "SCHEMAS"] then
    return ← readShowFilter n d
  modify fun ts => ts.dropWhile (· != .eq)

/-- Reads a privilege: a keyword, with optional columns for `INSERT`, `REFERENCES`,
`SELECT` and `UPDATE`. -/
def readPrivilege : Reader Unit := do
  match ← eatOneOf ["CONNECT", "CREATE", "DELETE", "EXECUTE", "INSERT", "REFERENCES", "SELECT",
      "TEMPORARY", "TRIGGER", "TRUNCATE", "UPDATE", "USAGE"] with
  | some k =>
    if ["INSERT", "REFERENCES", "SELECT", "UPDATE"].contains k then readOptionalColumnList
  | none => failWith "Expected: a privilege keyword"

/-- Reads the privileges and objects of `GRANT` and `REVOKE`: `ALL [PRIVILEGES]` or a list
of privileges, then `ON` and the objects. -/
def readPrivilegesOn : Reader Unit := do
  if ← eatKeyword "ALL" then
    let _ ← eatKeyword "PRIVILEGES"
  else
    let _ ← commaSep readPrivilege
  expectKeyword "ON"
  if !(← anyOf [eatKeywords ["ALL", "TABLES", "IN", "SCHEMA"],
      eatKeywords ["ALL", "SEQUENCES", "IN", "SCHEMA"]]) then
    let _ ← eatOneOf ["SEQUENCE", "SCHEMA", "TABLE"]
  let _ ← commaSep readObjectName

/-- Reads the rest of `GRANT`: privileges, objects, `TO` grantees, `WITH GRANT OPTION` and
`GRANTED BY`. -/
def readGrant : Reader Unit := do
  readPrivilegesOn
  expectKeyword "TO"
  let _ ← commaSep readIdent
  let _ ← eatKeywords ["WITH", "GRANT", "OPTION"]
  if ← eatKeywords ["GRANTED", "BY"] then
    let _ ← readIdent

/-- Reads the rest of `REVOKE`: privileges, objects, `FROM` grantees, `GRANTED BY`, and
at most one of `CASCADE` and `RESTRICT`. -/
def readRevoke : Reader Unit := do
  readPrivilegesOn
  expectKeyword "FROM"
  let _ ← commaSep readIdent
  if ← eatKeywords ["GRANTED", "BY"] then
    let _ ← readIdent
  let cascade ← eatKeyword "CASCADE"
  let restrict ← eatKeyword "RESTRICT"
  if cascade && restrict then failWith "Cannot specify both CASCADE and RESTRICT in REVOKE"

/-! ## Cursors and prepared statements -/

/-- Reads the rest of `DECLARE name ... CURSOR ... FOR query`. -/
def readDeclare (n d : Nat) : Reader Unit := do
  let _ ← readIdent
  let _ ← eatKeyword "BINARY"
  let _ ← eatOneOf ["INSENSITIVE", "ASENSITIVE"]
  if !(← eatKeyword "SCROLL") then
    let _ ← eatKeywords ["NO", "SCROLL"]
  expectKeyword "CURSOR"
  if (← eatOneOf ["WITH", "WITHOUT"]).isSome then expectKeyword "HOLD"
  expectKeyword "FOR"
  let _ ← readQuery false n d

/-- Reads the rest of `FETCH`: a direction, `FROM | IN cursor` and `INTO name`. -/
def readFetchStatement : Reader Unit := do
  if ← eatAnyKeyword ["NEXT", "PRIOR", "FIRST", "LAST"] then pure ()
  else if ← eatAnyKeyword ["ABSOLUTE", "RELATIVE"] then
    let _ ← readNumberText
  else if ← eatAnyKeyword ["FORWARD", "BACKWARD"] then
    if !(← eatKeyword "ALL") then
    let _ ← readNumberText
  else if ← eatKeyword "ALL" then pure ()
  else
    let _ ← readNumberText
  if !(← eatAnyKeyword ["FROM", "IN"]) then failWith "Expected: one of FROM or IN"
  let _ ← readIdent
  if ← eatKeyword "INTO" then
    let _ ← readObjectName

/-- Reads the rest of `CLOSE`: `ALL` or a cursor. -/
def readClose : Reader Unit := do
  if !(← eatKeyword "ALL") then
    let _ ← readIdent

/-- Reads the rest of `EXECUTE`: the name, parameters with or without parentheses, and
`USING` expressions. -/
def readExecute (n d : Nat) : Reader Unit := do
  let _ ← readObjectName
  let parenthesized ← eat .lparen
  let noParameters ← do
    if parenthesized then nextIs .rparen
    else
      match ← peek with
      | none => pure true
      | some t => pure (t.isKeyword "USING" || t = .semicolon)
  if !noParameters then
    let _ ← commaSep (readExprAt n d)
  if parenthesized then expect .rparen ")"
  if ← eatKeyword "USING" then
    let _ ← commaSep (readExprAt n d)

/-! ## Data movement -/

/-- Reads the rest of a `DELETE`: its tables with or without `FROM`, and its optional
`USING`, `WHERE`, `RETURNING`, `ORDER BY` and `LIMIT` clauses. -/
def readDelete (n d : Nat) : Reader Unit := do
  let _ ← eatKeyword "FROM"
  let _ ← commaSep (readFromItem false n d)
  if ← eatKeyword "USING" then
    let _ ← commaSep (readFromItem false n d)
  let _ ← readClause false n d "WHERE"
  let _ ← readReturning false n d
  if ← eatKeywords ["ORDER", "BY"] then
    let _ ← commaSep (readOrderExpr (readQuery false n) false n d)
  if ← eatKeyword "LIMIT" then
    if !(← eatKeyword "ALL") then
      let _ ← readExprAt n d

/-- Reads one option of `COPY` in parentheses. -/
def readCopyOption : Reader Unit := do
  match ← eatOneOf ["FORMAT", "FREEZE", "DELIMITER", "NULL", "HEADER", "QUOTE", "ESCAPE",
      "FORCE_QUOTE", "FORCE_NOT_NULL", "FORCE_NULL", "ENCODING"] with
  | some "FORMAT" =>
    let _ ← readIdent
  | some "FREEZE" | some "HEADER" =>
    let _ ← eatOneOf ["TRUE", "FALSE"]
  | some "DELIMITER" | some "QUOTE" | some "ESCAPE" => readLiteralChar
  | some "NULL" | some "ENCODING" =>
    let _ ← readLiteralString
  | some _ =>
    let _ ← readParenIdents
  | none => failWith "Expected: option"

/-- Reads one option of `CSV` in the older form of `COPY` options. -/
def readCopyCsvOption : Reader Unit := do
  match ← eatOneOf ["HEADER", "QUOTE", "ESCAPE", "FORCE"] with
  | some "HEADER" => pure ()
  | some "QUOTE" | some "ESCAPE" =>
    let _ ← eatKeyword "AS"
    readLiteralChar
  | some _ =>
    if ← anyOf [eatKeywords ["NOT", "NULL"], eatKeyword "QUOTE"] then
      let _ ← commaSep readIdent
    else failWith "Expected: csv option"
  | none => failWith "Expected: csv option"

/-- Reads the options of `CSV`, as many as can be read. -/
def readCopyCsvOptions : Nat → Reader Unit
  | 0 => pure ()
  | k + 1 => do
    if (← attempt readCopyCsvOption).isSome then readCopyCsvOptions k

/-- Reads one option of `COPY` in its older form: `BINARY`, `DELIMITER [AS] 'c'`,
`NULL [AS] 'text'` or `CSV` with its own options. -/
def readCopyLegacyOption : Reader Unit := do
  match ← eatOneOf ["BINARY", "DELIMITER", "NULL", "CSV"] with
  | some "BINARY" => pure ()
  | some "DELIMITER" =>
    let _ ← eatKeyword "AS"
    readLiteralChar
  | some "NULL" =>
    let _ ← eatKeyword "AS"
    let _ ← readLiteralString
  | some _ => fun ts => readCopyCsvOptions (ts.length + 1) ts
  | none => failWith "Expected: option"

/-- Reads older `COPY` options, as many as can be read. -/
def readCopyLegacyOptions : Nat → Reader Unit
  | 0 => pure ()
  | k + 1 => do
    if (← attempt readCopyLegacyOption).isSome then readCopyLegacyOptions k

/-- Skips the rows that follow `COPY ... FROM STDIN;`: every token up to `\.`, or to the end
of the text. A backslash takes the token after it. -/
def skipCopyRows : List Token → List Token
  | [] => []
  | .other "\\" :: .period :: rest => rest
  | .other "\\" :: _ :: rest => skipCopyRows rest
  | _ :: rest => skipCopyRows rest

/-- Reads the rest of `COPY`: a query in parentheses or a table with columns, `FROM` or
`TO`, the target, options, and, when copying from standard input, the rows after `;`. -/
def readCopy (n d : Nat) : Reader Unit := do
  let fromQuery ← eat .lparen
  if fromQuery then
    let _ ← readQuery false n d
    expect .rparen ")"
  else
    let _ ← readObjectName
    readOptionalColumnList
  let toTarget ← do
    match ← eatOneOf ["FROM", "TO"] with
    | some "TO" => pure true
    | some _ => pure false
    | none => failWith "Expected: FROM or TO"
  if !toTarget && fromQuery then failWith "COPY ... FROM does not support query as a source"
  let stdin ← eatKeyword "STDIN"
  if !stdin then
    if !(← eatKeyword "STDOUT") then
      let _ ← eatKeyword "PROGRAM"
      let _ ← readLiteralString
  let _ ← eatKeyword "WITH"
  if ← eat .lparen then
    let _ ← commaSep readCopyOption
    expect .rparen ")"
  fun ts => readCopyLegacyOptions (ts.length + 1) ts
  if stdin then
    expect .semicolon ";"
    modify skipCopyRows

/-- Reads one clause of `MERGE`: `WHEN [NOT] MATCHED [BY SOURCE | TARGET] [AND condition]
THEN` and an update or delete for rows that match or only the source has, or an insert for
rows only the target lacks. -/
def readMergeClause (n d : Nat) : Reader Unit := do
  expectKeyword "WHEN"
  let notMatched ← eatKeyword "NOT"
  expectKeyword "MATCHED"
  let inserting ← do
    if notMatched then
      if ← eatKeywords ["BY", "SOURCE"] then pure false
      else
        let _ ← eatKeywords ["BY", "TARGET"]
        pure true
    else pure false
  if ← eatKeyword "AND" then
    let _ ← readExprAt n d
  expectKeyword "THEN"
  match ← eatOneOf ["UPDATE", "INSERT", "DELETE"] with
  | some "UPDATE" =>
    if inserting then failWith "UPDATE is not allowed in a NOT MATCHED merge clause"
    expectKeyword "SET"
    let _ ← commaSep (readAssignment false n d)
  | some "DELETE" =>
    if inserting then failWith "DELETE is not allowed in a NOT MATCHED merge clause"
  | some _ =>
    if !inserting then failWith "INSERT is not allowed in a MATCHED merge clause"
    readOptionalColumnList
    if !(← eatKeyword "ROW") then
      expectKeyword "VALUES"
      let _ ← commaSep (readRow false n d)
  | none => failWith "expected UPDATE, DELETE or INSERT in merge clause"

/-- Reads the clauses of `MERGE` up to the end of the statement. -/
def readMergeClauses (n d : Nat) : Nat → Reader Unit
  | 0 => outOfFuel
  | k + 1 => do
    match ← peek with
    | none => pure ()
    | some .semicolon => pure ()
    | some _ =>
      readMergeClause n d
      readMergeClauses n d k

/-- Reads the rest of `MERGE`: `[INTO] target USING source ON condition` and its
clauses. -/
def readMerge (n d : Nat) : Reader Unit := do
  let _ ← eatKeyword "INTO"
  let _ ← readTableFactor false n d
  expectKeyword "USING"
  let _ ← readTableFactor false n d
  expectKeyword "ON"
  let _ ← readExprAt n d
  fun ts => readMergeClauses n d (ts.length + 1) ts

/-- Reads the rest of `UNLOAD (query) TO name [WITH (options)]`. -/
def readUnload (n d : Nat) : Reader Unit := do
  expect .lparen "("
  let _ ← readQuery false n d
  expect .rparen ")"
  expectKeyword "TO"
  let _ ← readIdent
  readOptions n d "WITH"

/-! ## Commands of single engines -/

/-- Reads the rest of `ANALYZE TABLE name` and its options. -/
def readAnalyzeOptions (n d : Nat) : Nat → Reader Unit
  | 0 => pure ()
  | k + 1 => do
    match ← eatOneOf ["PARTITION", "FOR", "CACHE", "NOSCAN", "COMPUTE"] with
    | some "PARTITION" =>
      readParenExprs n d
      readAnalyzeOptions n d k
    | some "FOR" =>
      expectKeyword "COLUMNS"
      let _ ← attempt (commaSep readIdent)
      readAnalyzeOptions n d k
    | some "CACHE" =>
      expectKeyword "METADATA"
      readAnalyzeOptions n d k
    | some "COMPUTE" =>
      expectKeyword "STATISTICS"
      readAnalyzeOptions n d k
    | some _ => readAnalyzeOptions n d k
    | none => pure ()

/-- Reads the rest of `ANALYZE`. -/
def readAnalyze (n d : Nat) : Reader Unit := do
  expectKeyword "TABLE"
  let _ ← readObjectName
  fun ts => readAnalyzeOptions n d (ts.length + 1) ts

/-- Reads the rest of `ATTACH [DATABASE] file AS name`. -/
def readAttach (n d : Nat) : Reader Unit := do
  let _ ← eatKeyword "DATABASE"
  let _ ← readExprAt n d
  expectKeyword "AS"
  let _ ← readIdent

/-- Reads the rest of `DETACH [DATABASE] [IF EXISTS] name`. -/
def readDetach : Reader Unit := do
  let _ ← eatKeyword "DATABASE"
  let _ ← eatKeywords ["IF", "EXISTS"]
  let _ ← readIdent

/-- Reads the rest of `MSCK [REPAIR] TABLE name [ADD | DROP | SYNC PARTITIONS]`. -/
def readMsck : Reader Unit := do
  let _ ← eatKeyword "REPAIR"
  expectKeyword "TABLE"
  let _ ← readObjectName
  let _ ← attempt do
    let _ ← eatOneOf ["ADD", "DROP", "SYNC"]
    expectKeyword "PARTITIONS"

/-- Reads what follows the table of `CACHE`: unless the text ends, options and a query
with an optional `AS`. -/
def readCacheQuery (n d : Nat) : Reader Unit := do
  if (← peek).isSome then
    if ← nextIsKeyword ["OPTIONS"] then readOptions n d "OPTIONS"
    match ← peek with
    | none => pure ()
    | some (.word _ _) =>
      let _ ← eatKeyword "AS"
      let _ ← readQuery false n d
    | some _ => failWith "Expected: a QUERY statement"

/-- Reads the rest of `CACHE [flag] TABLE name ...`. -/
def readCache (n d : Nat) : Reader Unit := do
  if !(← eatKeyword "TABLE") then
    let _ ← readObjectName
    expectKeyword "TABLE"
  let _ ← readObjectName
  readCacheQuery n d

/-- Reads the rest of `UNCACHE TABLE [IF EXISTS] name`. -/
def readUncache : Reader Unit := do
  expectKeyword "TABLE"
  let _ ← eatKeywords ["IF", "EXISTS"]
  let _ ← readObjectName

/-- Reads the rest of `DISCARD ALL | PLANS | SEQUENCES | TEMP | TEMPORARY`. -/
def readDiscard : Reader Unit := do
  if !(← eatAnyKeyword ["ALL", "PLANS", "SEQUENCES", "TEMP", "TEMPORARY"]) then
    failWith "Expected: ALL, PLANS, SEQUENCES, TEMP or TEMPORARY after DISCARD"

/-- Reads the rest of `CALL name [(arguments)]`. -/
def readCall (n d : Nat) : Reader Unit := do
  let name ← readObjectName
  if ← nextIs .lparen then
    let _ ← readFunction (readQuery false n) false n d name

/-- Reads the value of a `PRAGMA`: a string, a number or a placeholder. -/
def readPragmaValue : Reader Unit := do
  match ← peek with
  | some (.singleQuoted _) => advance
  | some (.word _ (some '"')) => advance
  | _ => do let _ ← readNumberText

/-- Reads the rest of `PRAGMA name [(value) | = value]`. -/
def readPragma : Reader Unit := do
  let _ ← readObjectName
  if ← eat .lparen then
    readPragmaValue
    expect .rparen ")"
  else if ← eat .eq then readPragmaValue

/-- Reads the rest of `OPTIMIZE TABLE name ...`: `ON CLUSTER`, a partition, `FINAL` and
`DEDUPLICATE [BY e]`. -/
def readOptimize (n d : Nat) : Reader Unit := do
  expectKeyword "TABLE"
  let _ ← readObjectName
  readOnCluster
  if ← eatKeyword "PARTITION" then
    if ← eatKeyword "ID" then
      let _ ← readIdent
    else
      let _ ← readExprAt n d
  let _ ← eatKeyword "FINAL"
  if ← eatKeyword "DEDUPLICATE" then
    if ← eatKeyword "BY" then
      let _ ← readExprAt n d

/-- Reads the rest of a statement other than a query, an explanation or a prepared
statement, after its keyword. The statements of a procedure body are read by `body`. -/
def readCommandBody (n d : Nat) (body : Reader Unit) (keyword : String) : Reader Unit :=
  match keyword with
  | "KILL" => readKill
  | "FLUSH" => readFlush
  | "ANALYZE" => readAnalyze n d
  | "TRUNCATE" => readTruncate n d
  | "ATTACH" => readAttach n d
  | "DETACH" => readDetach
  | "MSCK" => readMsck
  | "CREATE" => readCreate n d body
  | "CACHE" => readCache n d
  | "DROP" => readDrop n d
  | "DISCARD" => readDiscard
  | "DECLARE" => readDeclare n d
  | "FETCH" => readFetchStatement
  | "DELETE" => readDelete n d
  | "INSERT" => do let _ ← readInsert false n d "INSERT"
  | "REPLACE" => do let _ ← readInsert false n d "REPLACE"
  | "UNCACHE" => readUncache
  | "UPDATE" => do let _ ← readUpdate false n d
  | "ALTER" => readAlter n d
  | "CALL" => readCall n d
  | "COPY" => readCopy n d
  | "CLOSE" => readClose
  | "SET" => readSet n d
  | "SHOW" => readShow n d
  | "USE" => do let _ ← readObjectName
  | "GRANT" => readGrant
  | "REVOKE" => readRevoke
  | "START" => readStart
  | "BEGIN" => readBegin
  | "END" => readChain
  | "COMMIT" => readChain
  | "ROLLBACK" => readRollback
  | "SAVEPOINT" => do let _ ← readIdent
  | "RELEASE" => do
    let _ ← eatKeyword "SAVEPOINT"
    let _ ← readIdent
  | "ASSERT" => do
    let _ ← readExprAt n d
    if ← eatKeyword "AS" then
      let _ ← readExprAt n d
  | "DEALLOCATE" => do
    let _ ← eatKeyword "PREPARE"
    let _ ← readIdent
  | "EXECUTE" => readExecute n d
  | "EXEC" => readExecute n d
  | "MERGE" => readMerge n d
  | "PRAGMA" => readPragma
  | "UNLOAD" => readUnload n d
  | "INSTALL" => do let _ ← readIdent
  | "LOAD" => do let _ ← readIdent
  | "OPTIMIZE" => readOptimize n d
  | _ => failWith "Expected: an SQL statement"

/-- The keywords that begin a statement read by `readCommandBody`. -/
def commandKeywords : List String :=
  ["KILL", "FLUSH", "ANALYZE", "TRUNCATE", "ATTACH", "DETACH", "MSCK", "CREATE", "CACHE",
   "DROP", "DISCARD", "DECLARE", "FETCH", "DELETE", "INSERT", "REPLACE", "UNCACHE", "UPDATE",
   "ALTER", "CALL", "COPY", "CLOSE", "SET", "SHOW", "USE", "GRANT", "REVOKE", "START", "BEGIN",
   "END", "COMMIT", "ROLLBACK", "SAVEPOINT", "RELEASE", "ASSERT", "DEALLOCATE", "EXECUTE",
   "EXEC", "MERGE", "PRAGMA", "UNLOAD", "INSTALL", "LOAD", "OPTIMIZE"]

end CsvQuery.Sql
