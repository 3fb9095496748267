import CsvQuery.Sql.Parser

/-!
# Data definition statements

Readers of `CREATE`, `ALTER`, `DROP` and `TRUNCATE`, after their keyword. The planner never
runs such a statement; it only has to know whether the text is one. So the readers here
check the grammar and keep nothing: a statement read this way is written back from its
tokens.

Table constraints are shared by `CREATE TABLE`, `CREATE EXTERNAL TABLE` and `ALTER TABLE`;
column definitions and their options are read by `readColumnDef` and `readColumnOption`,
which data types share. Where the grammar makes a part optional and
takes a token even when that token does not fit (an optional name after `LIKE`, say), the
readers here take it too, so that the same texts are accepted.
-/

namespace CsvQuery.Sql

open Reader

/-! ## Small parts -/

/-- Reads an expression of a statement; its subqueries are read with the same fuel. -/
def readExprAt (n d : Nat) : Reader Expr := readExpr (readQuery false n) false n d

/-- Reads an optional `(column, ...)`; `()` is refused. -/
def readOptionalColumnList : Reader Unit := do
  if ← nextIs .lparen then
    let _ ← readParenIdents

/-- Reads a dotted name whose failure is no error: the tokens read up to the failure stay
consumed, the one that failed included. -/
def skipLooseNameFrom : Nat → Reader Unit
  | 0 => pure ()
  | k + 1 => do
    match ← next with
    | some t =>
      if t.ident?.isSome then
        if ← eat .period then skipLooseNameFrom k
    | none => pure ()

/-- Reads an optional dotted name that takes its tokens even when it fails. -/
def skipLooseName : Reader Unit := fun ts => skipLooseNameFrom (ts.length + 1) ts

/-- Reads a literal string of exactly one byte. -/
def readLiteralChar : Reader Unit := do
  let s ← readLiteralString
  if s.utf8ByteSize != 1 then failWith ("Expect a char, found " ++ s)

/-- Reads an optional `ON CLUSTER name`. -/
def readOnCluster : Reader Unit := do
  if ← eatKeywords ["ON", "CLUSTER"] then
    let _ ← readIdent

/-- Reads a parenthesized list of expressions. -/
def readParenExprs (n d : Nat) : Reader Unit := do
  expect .lparen "("
  let _ ← commaSep (readExprAt n d)
  expect .rparen ")"

/-- Reads the text of an expression of a statement. -/
def readExprText (n d : Nat) : Reader String := Expr.render <$> readExprAt n d

/-- Reads `(option, ...)` after the keywords `kws`, if they come next; says whether they
did. -/
def readOptionsAfter (n d : Nat) (kws : List String) : Reader Bool :=
  (·.isSome) <$> readSqlOptionsAfter (readExprText n d) kws

/-- Reads `(option, ...)` after `keyword`, if it comes next. -/
def readOptions (n d : Nat) (keyword : String) : Reader Unit := do
  let _ ← readOptionsAfter n d [keyword]

/-! ## Constraints -/

/-- Reads an optional `USING BTREE | HASH`; says whether it was there. -/
def readOptionalIndexType : Reader Bool := do
  if ← eatKeyword "USING" then
    if (← eatOneOf ["BTREE", "HASH"]).isNone then failWith "Expected: index type BTREE or HASH"
    return true
  return false

/-- Reads index options: `USING BTREE | HASH` and `COMMENT 'text'`, any number of them. -/
def readIndexOptions : Nat → Reader Unit
  | 0 => pure ()
  | k + 1 => do
    if ← readOptionalIndexType then return ← readIndexOptions k
    if ← eatKeyword "COMMENT" then
      let _ ← readLiteralString
      return ← readIndexOptions k

/-- Reads an optional index name: a token that is a name is taken, any other is left. -/
def readOptionalIndexName : Reader Unit := do
  let _ ← attempt readIdent

/-- Reads the columns of a key or an index, then its options and characteristics. -/
def readKeyColumns : Reader Unit := do
  let _ ← readOptionalIndexType
  let _ ← readParenIdents
  fun ts => readIndexOptions (ts.length + 1) ts
  let _ ← readCharacteristics

/-- Reads a table constraint if one comes next, and says whether one did: `[CONSTRAINT
name]` then `UNIQUE`, `PRIMARY KEY`, `FOREIGN KEY` or `CHECK`, or, without a name,
`INDEX`, `KEY`, `FULLTEXT` or `SPATIAL`. -/
def readTableConstraint (n d : Nat) : Reader Bool := do
  let named ← eatKeyword "CONSTRAINT"
  if named then
    let _ ← readIdent
  if ← eatKeyword "UNIQUE" then
    let _ ← eatOneOf ["KEY", "INDEX"]
    readOptionalIndexName
    readKeyColumns
    return true
  if ← eatKeyword "PRIMARY" then
    expectKeyword "KEY"
    readOptionalIndexName
    readKeyColumns
    return true
  if ← eatKeyword "FOREIGN" then
    expectKeyword "KEY"
    let _ ← readParenIdents
    expectKeyword "REFERENCES"
    let _ ← readObjectName
    let _ ← readParenIdents
    let _ ← readReferentialActions 2 none none
    let _ ← readCharacteristics
    return true
  if ← eatKeyword "CHECK" then
    expect .lparen "("
    let _ ← readExprAt n d
    expect .rparen ")"
    return true
  if !named then
    if (← eatOneOf ["INDEX", "KEY"]).isSome then
      if !(← nextIsKeyword ["USING"]) then readOptionalIndexName
      let _ ← readOptionalIndexType
      let _ ← readParenIdents
      return true
    if (← eatOneOf ["FULLTEXT", "SPATIAL"]).isSome then
      let _ ← eatOneOf ["KEY", "INDEX"]
      readOptionalIndexName
      let _ ← readParenIdents
      return true
    return false
  failWith "Expected: PRIMARY, UNIQUE, FOREIGN, or CHECK"

/-! ## Columns -/

/-- Reads plain column options, as many as there are, stopping at the first that is not
one. -/
def readPlainColumnOptions (n d : Nat) : Nat → Reader Unit
  | 0 => pure ()
  | k + 1 => do
    if (← readColumnOption (readExprText n d)).isSome then readPlainColumnOptions n d k

/-- Reads an optional `FIRST` or `AFTER column`, where a column goes in a table. -/
def readColumnPosition : Reader Unit := do
  if ← eatKeyword "AFTER" then
    let _ ← readIdent
  else
    let _ ← eatKeyword "FIRST"

/-- Reads the entries of a column list after its `(`: columns and table constraints
separated by commas, up to the closing `)`. -/
def readColumnsFrom (n d : Nat) : Nat → Reader Unit
  | 0 => outOfFuel
  | k + 1 => do
    if !(← readTableConstraint n d) then
      match ← peek with
      | some (.word _ _) => do let _ ← readColumnDef (readExprText n d)
      | _ => failWith "Expected: column name or constraint definition"
    let comma ← eat .comma
    let close ← nextIs .rparen
    if !comma && !close then failWith "Expected: ',' or ')' after column definition"
    if close && !comma then advance
    else readColumnsFrom n d k

/-- Reads the optional column list of a table; `()` stands for none. -/
def readColumns (n d : Nat) : Reader Unit := do
  if ← eat .lparen then
    if !(← eat .rparen) then
      fun ts => readColumnsFrom n d (ts.length + 1) ts

/-! ## Tables -/

/-- Reads a storage format name such as `PARQUET`. -/
def readFileFormat : Reader Unit := do
  if (← eatOneOf fileFormats).isNone then failWith "Expected: fileformat"

/-- Reads the delimiters of a `ROW FORMAT DELIMITED`, any number of them; a delimiter
keyword not followed by the rest of its clause is taken and ends them. -/
def readRowDelimiters : Nat → Reader Unit
  | 0 => pure ()
  | k + 1 => do
    match ← eatOneOf ["FIELDS", "COLLECTION", "MAP", "LINES", "NULL"] with
    | some "FIELDS" =>
      if ← eatKeywords ["TERMINATED", "BY"] then
        let _ ← readIdent
        if ← eatKeywords ["ESCAPED", "BY"] then
          let _ ← readIdent
        readRowDelimiters k
    | some "COLLECTION" =>
      if ← eatKeywords ["ITEMS", "TERMINATED", "BY"] then
        let _ ← readIdent
        readRowDelimiters k
    | some "MAP" =>
      if ← eatKeywords ["KEYS", "TERMINATED", "BY"] then
        let _ ← readIdent
        readRowDelimiters k
    | some "LINES" =>
      if ← eatKeywords ["TERMINATED", "BY"] then
        let _ ← readIdent
        readRowDelimiters k
    | some _ =>
      if ← eatKeywords ["DEFINED", "AS"] then
        let _ ← readIdent
        readRowDelimiters k
    | none => pure ()

/-- Reads the storage clauses of a table, any number of them, in any order: `ROW FORMAT`,
`STORED AS`, `LOCATION` and `WITH SERDEPROPERTIES (...)`. -/
def readStorageClauses (n d : Nat) : Nat → Reader Unit
  | 0 => pure ()
  | k + 1 => do
    if ← eatKeyword "ROW" then
      expectKeyword "FORMAT"
      if ← eatKeyword "SERDE" then
        let _ ← readLiteralString
      else
        let _ ← eatKeyword "DELIMITED"
        fun ts => readRowDelimiters (ts.length + 1) ts
      return ← readStorageClauses n d k
    if ← eatKeyword "STORED" then
      expectKeyword "AS"
      if ← eatKeyword "INPUTFORMAT" then
        let _ ← readExprAt n d
        expectKeyword "OUTPUTFORMAT"
        let _ ← readExprAt n d
      else readFileFormat
      return ← readStorageClauses n d k
    if ← eatKeyword "LOCATION" then
      let _ ← readLiteralString
      return ← readStorageClauses n d k
    if ← readOptionsAfter n d ["WITH", "SERDEPROPERTIES"] then
      return ← readStorageClauses n d k

/-- Reads an optional `PARTITIONED BY (column, ...)`. -/
def readPartitionedBy (n d : Nat) : Reader Unit := do
  if ← eatKeywords ["PARTITIONED", "BY"] then
    expect .lparen "("
    let _ ← commaSep (readColumnDef (readExprText n d))
    expect .rparen ")"

/-- Reads `= word` after a table option such as `ENGINE` or `DEFAULT CHARSET`. -/
def readWordOption : Reader Unit := do
  expect .eq "="
  match ← next with
  | some (.word _ _) => pure ()
  | _ => failWith "Expected: identifier"

/-- Reads the number after `AUTO_INCREMENT`, which must fit in 32 bits. -/
def readAutoIncrement : Reader Unit := do
  let _ ← eat .eq
  match ← next with
  | some (.number t _) =>
    let digits := if t.startsWith "+" then (t.drop 1).toString else t
    match Decimal.readNat? digits.toList with
    | some v => if v ≥ Nat.pow 2 32 then failWith ("Could not parse '" ++ t ++ "' as u32")
    | none => failWith ("Could not parse '" ++ t ++ "' as u32")
  | _ => failWith "Expected: literal int"

/-- Reads `CLUSTERED BY (columns) [SORTED BY (...)] INTO n BUCKETS`, if it comes next. -/
def readClusteredBy (n d : Nat) : Reader Unit := do
  if ← eatKeywords ["CLUSTERED", "BY"] then
    let _ ← readParenIdents
    if ← eatKeywords ["SORTED", "BY"] then
      expect .lparen "("
      let _ ← commaSep (readOrderExpr (readQuery false n) false n d)
      expect .rparen ")"
    expectKeyword "INTO"
    let _ ← readNumberText
    expectKeyword "BUCKETS"

/-- Reads the rest of `CREATE TABLE`: `IF NOT EXISTS`, the name, `ON CLUSTER`, `LIKE` or
`CLONE`, the columns and constraints, then the table options in their order, and an
optional `AS query`. -/
def readCreateTable (n d : Nat) : Reader Unit := do
  let _ ← eatKeywords ["IF", "NOT", "EXISTS"]
  let _ ← readObjectName
  readOnCluster
  if ← anyOf [eatKeyword "LIKE", eatKeyword "ILIKE"] then skipLooseName
  if ← eatKeyword "CLONE" then skipLooseName
  readColumns n d
  let _ ← eatKeywords ["WITHOUT", "ROWID"]
  readPartitionedBy n d
  readClusteredBy n d
  fun ts => readStorageClauses n d (ts.length + 1) ts
  readOptions n d "WITH"
  readOptions n d "TBLPROPERTIES"
  if ← eatKeyword "ENGINE" then
    readWordOption
    if ← nextIs .lparen then
      let _ ← readParenIdents
  if ← eatKeyword "AUTO_INCREMENT" then readAutoIncrement
  if ← eatKeywords ["PRIMARY", "KEY"] then
    let _ ← readExprAt n d
  if ← eatKeywords ["ORDER", "BY"] then
    if ← eat .lparen then
      if !(← nextIs .rparen) then
        let _ ← commaSep (readExprAt n d)
      expect .rparen ")"
    else
      let _ ← readExprAt n d
  if ← eatKeywords ["PARTITION", "BY"] then
    let _ ← readExprAt n d
  if ← eatKeywords ["CLUSTER", "BY"] then
    let _ ← commaSep readIdent
  if ← nextIsKeyword ["OPTIONS"] then readOptions n d "OPTIONS"
  if ← eatKeywords ["DEFAULT", "CHARSET"] then readWordOption
  if ← eatKeyword "COLLATE" then readWordOption
  if !(← eatKeywords ["ON", "COMMIT", "DELETE", "ROWS"]) then
    if !(← eatKeywords ["ON", "COMMIT", "PRESERVE", "ROWS"]) then
      let _ ← eatKeywords ["ON", "COMMIT", "DROP"]
  let _ ← eatKeyword "STRICT"
  if ← eatKeyword "COMMENT" then
    let _ ← eat .eq
    match ← next with
    | some (.singleQuoted _) => pure ()
    | _ => failWith "Expected: comment"
  if ← eatKeyword "AS" then
    let _ ← readQuery false n d

/-- Reads the rest of `CREATE EXTERNAL TABLE`: `IF NOT EXISTS`, the name, the columns,
the partitioning and storage clauses, and `TBLPROPERTIES`. -/
def readCreateExternalTable (n d : Nat) : Reader Unit := do
  expectKeyword "TABLE"
  let _ ← eatKeywords ["IF", "NOT", "EXISTS"]
  let _ ← readObjectName
  readColumns n d
  readPartitionedBy n d
  fun ts => readStorageClauses n d (ts.length + 1) ts
  readOptions n d "TBLPROPERTIES"

/-- Reads one column of a view: a name and an optional `OPTIONS (...)` or
`COMMENT 'text'`. -/
def readViewColumn (n d : Nat) : Reader Unit := do
  let _ ← readIdent
  if ← nextIsKeyword ["OPTIONS", "COMMENT"] then
    let _ ← readColumnOption (readExprText n d)

/-- Reads the rest of `CREATE [MATERIALIZED] VIEW`: `IF NOT EXISTS`, the name, optional
columns, options, `CLUSTER BY`, `TO`, `COMMENT = 'text'`, `AS query` and
`WITH NO SCHEMA BINDING`. -/
def readCreateView (n d : Nat) : Reader Unit := do
  let _ ← eatKeyword "MATERIALIZED"
  expectKeyword "VIEW"
  let _ ← eatKeywords ["IF", "NOT", "EXISTS"]
  let _ ← readObjectName
  if ← eat .lparen then
    if !(← eat .rparen) then
      let _ ← commaSep (readViewColumn n d)
      expect .rparen ")"
  readOptions n d "WITH"
  if ← eatKeyword "CLUSTER" then
    expectKeyword "BY"
    readOptionalColumnList
  if ← nextIsKeyword ["OPTIONS"] then readOptions n d "OPTIONS"
  if ← eatKeyword "TO" then
    let _ ← readObjectName
  if ← eatKeyword "COMMENT" then
    expect .eq "="
    match ← next with
    | some (.singleQuoted _) => pure ()
    | _ => failWith "Expected: string literal"
  expectKeyword "AS"
  let _ ← readQuery false n d
  let _ ← eatKeywords ["WITH", "NO", "SCHEMA", "BINDING"]

/-- Reads the rest of `CREATE [UNIQUE] INDEX`: an optional name before `ON`, the table,
`USING method`, the indexed expressions, `INCLUDE`, `NULLS [NOT] DISTINCT`, `WITH (...)`
and `WHERE`. -/
def readCreateIndex (n d : Nat) : Reader Unit := do
  let _ ← eatKeyword "CONCURRENTLY"
  let ifNotExists ← eatKeywords ["IF", "NOT", "EXISTS"]
  if ifNotExists || !(← eatKeyword "ON") then
    let _ ← readObjectName
    expectKeyword "ON"
  let _ ← readObjectName
  if ← eatKeyword "USING" then
    let _ ← readIdent
  expect .lparen "("
  let _ ← commaSep (readOrderExpr (readQuery false n) false n d)
  expect .rparen ")"
  if ← eatKeyword "INCLUDE" then
    expect .lparen "("
    let _ ← commaSep readIdent
    expect .rparen ")"
  if ← eatKeyword "NULLS" then
    let _ ← eatKeyword "NOT"
    expectKeyword "DISTINCT"
  if ← eatKeyword "WITH" then readParenExprs n d
  if ← eatKeyword "WHERE" then
    let _ ← readExprAt n d

/-! ## Other objects -/

/-- Reads the rest of `CREATE SCHEMA`: `IF NOT EXISTS`, then a name, `AUTHORIZATION
owner`, or both. -/
def readCreateSchema : Reader Unit := do
  let _ ← eatKeywords ["IF", "NOT", "EXISTS"]
  if ← eatKeyword "AUTHORIZATION" then
    let _ ← readIdent
  else
    let _ ← readObjectName
    if ← eatKeyword "AUTHORIZATION" then
      let _ ← readIdent

/-- Reads the `LOCATION` and `MANAGEDLOCATION` of a database, any number of them. -/
def readDatabaseLocations : Nat → Reader Unit
  | 0 => pure ()
  | k + 1 => do
    if (← eatOneOf ["LOCATION", "MANAGEDLOCATION"]).isSome then
      let _ ← readLiteralString
      readDatabaseLocations k

/-- Reads the rest of `CREATE DATABASE`: `IF NOT EXISTS`, the name and its locations. -/
def readCreateDatabase : Reader Unit := do
  let _ ← eatKeywords ["IF", "NOT", "EXISTS"]
  let _ ← readObjectName
  fun ts => readDatabaseLocations (ts.length + 1) ts

/-- Reads the rest of `CREATE EXTENSION`: `IF NOT EXISTS`, the name, and
`WITH [SCHEMA s] [VERSION v] [CASCADE]`. -/
def readCreateExtension : Reader Unit := do
  let _ ← eatKeywords ["IF", "NOT", "EXISTS"]
  let _ ← readIdent
  if ← eatKeyword "WITH" then
    if ← eatKeyword "SCHEMA" then
      let _ ← readIdent
    if ← eatKeyword "VERSION" then
      let _ ← readIdent
    let _ ← eatKeyword "CASCADE"

/-- Reads the rest of `CREATE VIRTUAL TABLE`: the name, `USING module` and its optional
arguments. -/
def readCreateVirtualTable : Reader Unit := do
  expectKeyword "TABLE"
  let _ ← eatKeywords ["IF", "NOT", "EXISTS"]
  let _ ← readObjectName
  expectKeyword "USING"
  let _ ← readIdent
  readOptionalColumnList

/-- Reads the rest of `CREATE ROLE`: `IF NOT EXISTS`, the names and an optional `WITH`. -/
def readCreateRole : Reader Unit := do
  let _ ← eatKeywords ["IF", "NOT", "EXISTS"]
  let _ ← commaSep readObjectName
  let _ ← eatKeyword "WITH"

/-- Reads the rest of `CREATE SEQUENCE`: `IF NOT EXISTS`, the name, `AS type`, the
sequence options and `OWNED BY`. -/
def readCreateSequence (n d : Nat) : Reader Unit := do
  let _ ← eatKeywords ["IF", "NOT", "EXISTS"]
  let _ ← readObjectName
  if ← eatKeyword "AS" then
    let _ ← readDataType (readExprText n d)
  let _ ← readSequenceOptions
  if ← eatKeywords ["OWNED", "BY"] then
    if !(← eatKeyword "NONE") then
      let _ ← readObjectName

/-- Reads the attributes of a composite type after its `(`, up to the closing `)`; a
trailing comma is allowed. -/
def readTypeAttributes (n d : Nat) : Nat → Reader Unit
  | 0 => outOfFuel
  | k + 1 => do
    let _ ← readIdent
    let _ ← readDataType (readExprText n d)
    if ← eatKeyword "COLLATE" then
      let _ ← readObjectName
    let comma ← eat .comma
    if !(← eat .rparen) then
      if !comma then failWith "Expected: ',' or ')' after attribute definition"
      readTypeAttributes n d k

/-- Reads the rest of `CREATE TYPE`: the name, `AS`, and optional attributes. -/
def readCreateType (n d : Nat) : Reader Unit := do
  let _ ← readObjectName
  expectKeyword "AS"
  if ← eat .lparen then
    if !(← eat .rparen) then
      fun ts => readTypeAttributes n d (ts.length + 1) ts

/-- Reads the parameters of a procedure after its `(`, up to the closing `)`: names with
their types; a trailing comma is allowed. -/
def readProcedureParams (n d : Nat) : Nat → Reader Unit
  | 0 => outOfFuel
  | k + 1 => do
    if let some (.word _ _) ← peek then
      let _ ← readIdent
      let _ ← readDataType (readExprText n d)
    let comma ← eat .comma
    if !(← eat .rparen) then
      if !comma then failWith "Expected: ',' or ')' after parameter definition"
      readProcedureParams n d k

/-- Reads the rest of `CREATE PROCEDURE`: the name, optional parameters, and
`AS BEGIN statements END`, the statements being read by `body`. -/
def readCreateProcedure (n d : Nat) (body : Reader Unit) : Reader Unit := do
  let _ ← readObjectName
  if ← eat .lparen then
    if !(← eat .rparen) then
      fun ts => readProcedureParams n d (ts.length + 1) ts
  expectKeyword "AS"
  expectKeyword "BEGIN"
  body
  expectKeyword "END"

/-- Reads an argument of a function declaration: `IN`, `OUT` or `INOUT`, an optional name,
a type, and a default after `DEFAULT` or `=`. A first type that is no built-in type is the
argument's name. -/
def readFunctionArg (n d : Nat) : Reader Unit := do
  let _ ← eatOneOf ["IN", "OUT", "INOUT"]
  let t ← readTypeInfo (readExprText n d)
  if t.custom then
    let _ ← readDataType (readExprText n d)
  if ← anyOf [eatKeyword "DEFAULT", eat .eq] then
    let _ ← readExprAt n d

/-- Reads a function's name and its optional argument list. -/
def readFunctionDesc (n d : Nat) : Reader Unit := do
  let _ ← readObjectName
  if ← eat .lparen then
    if !(← eat .rparen) then
      let _ ← commaSep (readFunctionArg n d)
      expect .rparen ")"

/-- Reads a function body given as a string: dollar-quoted or a literal string. -/
def readFunctionBodyString : Reader Unit := do
  match ← peek with
  | some (.literal s) =>
    if s.startsWith "$" then advance
    else
      let _ ← readLiteralString
  | _ =>
    let _ ← readLiteralString

/-- Fails if a function attribute that may be given once is given again. -/
def onlyOnce (seen : Bool) (name : String) : Reader Unit :=
  if seen then failWith (name ++ " specified more than once") else pure ()

/-- Reads the attributes of a function definition, each at most once: its body after `AS`
or `RETURN`, `LANGUAGE`, its behaviour, its handling of null input, and `PARALLEL`. -/
def readFunctionAttributes (n d : Nat) : Nat → Bool → Bool → Bool → Bool → Bool → Reader Unit
  | 0, _, _, _, _, _ => pure ()
  | k + 1, body, language, behavior, onNull, parallel => do
    if ← eatKeyword "AS" then
      onlyOnce body "AS"
      readFunctionBodyString
      return ← readFunctionAttributes n d k true language behavior onNull parallel
    if ← eatKeyword "LANGUAGE" then
      onlyOnce language "LANGUAGE"
      let _ ← readIdent
      return ← readFunctionAttributes n d k body true behavior onNull parallel
    if (← eatOneOf ["IMMUTABLE", "STABLE", "VOLATILE"]).isSome then
      onlyOnce behavior "IMMUTABLE | STABLE | VOLATILE"
      return ← readFunctionAttributes n d k body language true onNull parallel
    if ← anyOf [eatKeywords ["CALLED", "ON", "NULL", "INPUT"],
        eatKeywords ["RETURNS", "NULL", "ON", "NULL", "INPUT"], eatKeyword "STRICT"] then
      onlyOnce onNull "CALLED ON NULL INPUT | RETURNS NULL ON NULL INPUT | STRICT"
      return ← readFunctionAttributes n d k body language behavior true parallel
    if ← eatKeyword "PARALLEL" then
      onlyOnce parallel "PARALLEL \x7b UNSAFE | RESTRICTED | SAFE \x7d"
      if (← eatOneOf ["UNSAFE", "RESTRICTED", "SAFE"]).isNone then
        failWith "Expected: one of UNSAFE | RESTRICTED | SAFE"
      return ← readFunctionAttributes n d k body language behavior onNull true
    if ← eatKeyword "RETURN" then
      onlyOnce body "RETURN"
      let _ ← readExprAt n d
      return ← readFunctionAttributes n d k true language behavior onNull parallel

/-- Reads the rest of `CREATE FUNCTION`: the name, the arguments in parentheses, an
optional return type and the function's attributes. -/
def readCreateFunction (n d : Nat) : Reader Unit := do
  let _ ← readObjectName
  expect .lparen "("
  if !(← nextIs .rparen) then
    let _ ← commaSep (readFunctionArg n d)
  expect .rparen ")"
  if ← eatKeyword "RETURNS" then
    let _ ← readDataType (readExprText n d)
  fun ts => readFunctionAttributes n d (ts.length + 1) false false false false false ts

/-- Reads one event of a trigger: `INSERT`, `UPDATE [OF columns]`, `DELETE` or
`TRUNCATE`. -/
def readTriggerEvent : Reader Unit := do
  match ← eatOneOf ["INSERT", "UPDATE", "DELETE", "TRUNCATE"] with
  | some "UPDATE" =>
    if ← eatKeyword "OF" then
      let _ ← commaSep readIdent
  | some _ => pure ()
  | none => failWith "Expected: one of INSERT or UPDATE or DELETE or TRUNCATE"

/-- Reads trigger events joined by `OR`. -/
def readTriggerEvents : Nat → Reader Unit
  | 0 => outOfFuel
  | k + 1 => do
    readTriggerEvent
    if ← eatKeyword "OR" then readTriggerEvents k

/-- Reads `REFERENCING` entries `OLD TABLE [AS] name` and `NEW TABLE [AS] name`, any number
of them; `OLD` or `NEW` without `TABLE` is taken and ends them. -/
def readTriggerReferencing : Nat → Reader Unit
  | 0 => pure ()
  | k + 1 => do
    if (← eatOneOf ["OLD", "NEW"]).isSome then
      if ← eatKeyword "TABLE" then
        let _ ← eatKeyword "AS"
        let _ ← readObjectName
        readTriggerReferencing k

/-- Reads the rest of `CREATE [CONSTRAINT] TRIGGER`: the name, when it fires, its events
joined by `OR`, the table, `FROM table`, characteristics, `REFERENCING`, `FOR [EACH] ROW |
STATEMENT`, `WHEN condition` and `EXECUTE FUNCTION | PROCEDURE f(args)`. -/
def readCreateTrigger (n d : Nat) : Reader Unit := do
  let _ ← readObjectName
  match ← eatOneOf ["BEFORE", "AFTER", "INSTEAD"] with
  | some "INSTEAD" => expectKeyword "OF"
  | some _ => pure ()
  | none => failWith "Expected: one of BEFORE or AFTER or INSTEAD"
  fun ts => readTriggerEvents (ts.length + 1) ts
  expectKeyword "ON"
  let _ ← readObjectName
  if ← eatKeyword "FROM" then skipLooseName
  let _ ← readCharacteristics
  if ← eatKeyword "REFERENCING" then
    fun ts => readTriggerReferencing (ts.length + 1) ts
  expectKeyword "FOR"
  let _ ← eatKeyword "EACH"
  if (← eatOneOf ["ROW", "STATEMENT"]).isNone then failWith "Expected: one of ROW or STATEMENT"
  if ← eatKeyword "WHEN" then
    let _ ← readExprAt n d
  expectKeyword "EXECUTE"
  if (← eatOneOf ["FUNCTION", "PROCEDURE"]).isNone then
    failWith "Expected: one of FUNCTION or PROCEDURE"
  readFunctionDesc n d

/-- Reads one argument of a macro: a name and a default after `:=` or `=>`. -/
def readMacroArg (n d : Nat) : Reader Unit := do
  let _ ← readIdent
  if ← anyOf [eat .assignment, eat .rightArrow] then
    let _ ← readExprAt n d

/-- Reads the rest of `CREATE MACRO`: the name, its arguments, `AS`, and an expression or
`TABLE query`. -/
def readCreateMacro (n d : Nat) : Reader Unit := do
  let _ ← readObjectName
  expect .lparen "("
  if !(← nextIs .rparen) then
    let _ ← commaSep (readMacroArg n d)
  expect .rparen ")"
  expectKeyword "AS"
  if ← eatKeyword "TABLE" then
    let _ ← readQuery false n d
  else
    let _ ← readExprAt n d

/-- Reads the rest of `CREATE SECRET`: `IF NOT EXISTS`, an optional name and storage
`IN s`, and `(TYPE t, key value, ...)`. The optional name and storage take their token
even when it is no name. -/
def readCreateSecret : Reader Unit := do
  let _ ← eatKeywords ["IF", "NOT", "EXISTS"]
  if !(← nextIs .lparen) then
    let storageKeyword ← eatKeyword "IN"
    let first ← next
    if !(storageKeyword && (first.bind Token.ident?).isSome) then
      if !(← nextIs .lparen) then
        if ← eatKeyword "IN" then advance
  expect .lparen "("
  expectKeyword "TYPE"
  let _ ← readIdent
  if ← eat .comma then
    let _ ← commaSep do
      let _ ← readIdent
      let _ ← readIdent
  expect .rparen ")"

/-- Reads a parenthesized condition of a policy. -/
def readPolicyCondition (n d : Nat) : Reader Unit := do
  expect .lparen "("
  let _ ← readExprAt n d
  expect .rparen ")"

/-- Reads the rest of `CREATE POLICY`: the name, `ON table`, `AS PERMISSIVE | RESTRICTIVE`,
`FOR command`, `TO owners`, `USING (e)` and `WITH CHECK (e)`. -/
def readCreatePolicy (n d : Nat) : Reader Unit := do
  let _ ← readIdent
  expectKeyword "ON"
  let _ ← readObjectName
  if ← eatKeyword "AS" then
    if (← eatOneOf ["PERMISSIVE", "RESTRICTIVE"]).isNone then
      failWith "Expected: one of PERMISSIVE or RESTRICTIVE"
  if ← eatKeyword "FOR" then
    if (← eatOneOf ["ALL", "SELECT", "INSERT", "UPDATE", "DELETE"]).isNone then
      failWith "Expected: one of ALL or SELECT or INSERT or UPDATE or DELETE"
  if ← eatKeyword "TO" then
    let _ ← commaSep readIdent
  if ← eatKeyword "USING" then readPolicyCondition n d
  if ← eatKeywords ["WITH", "CHECK"] then readPolicyCondition n d

/-- Reads the rest of a `CREATE` statement: its modifiers and the kind of object, then the
definition of that kind. `CREATE OR REPLACE` admits only tables, views, policies,
external tables, functions, triggers, macros and secrets. The statements of a procedure
are read by `body`. -/
def readCreate (n d : Nat) (body : Reader Unit) : Reader Unit := do
  let orReplace ← eatKeywords ["OR", "REPLACE"]
  let _ ← eatKeywords ["OR", "ALTER"]
  let _ ← eatKeyword "LOCAL"
  let _ ← eatKeyword "GLOBAL"
  let _ ← eatKeyword "TRANSIENT"
  let _ ← eatOneOf ["TEMP", "TEMPORARY"]
  if ← eatKeyword "TABLE" then return ← readCreateTable n d
  if ← nextIsKeyword ["MATERIALIZED", "VIEW"] then return ← readCreateView n d
  if ← eatKeyword "POLICY" then return ← readCreatePolicy n d
  if ← eatKeyword "EXTERNAL" then return ← readCreateExternalTable n d
  if ← eatKeyword "FUNCTION" then return ← readCreateFunction n d
  if ← eatKeyword "TRIGGER" then return ← readCreateTrigger n d
  if ← eatKeywords ["CONSTRAINT", "TRIGGER"] then return ← readCreateTrigger n d
  if ← eatKeyword "MACRO" then return ← readCreateMacro n d
  if ← eatKeyword "SECRET" then return ← readCreateSecret
  if orReplace then
    failWith "Expected: [EXTERNAL] TABLE or [MATERIALIZED] VIEW or FUNCTION after CREATE OR REPLACE"
  if ← eatKeyword "EXTENSION" then return ← readCreateExtension
  if ← eatKeyword "INDEX" then return ← readCreateIndex n d
  if ← eatKeywords ["UNIQUE", "INDEX"] then return ← readCreateIndex n d
  if ← eatKeyword "VIRTUAL" then return ← readCreateVirtualTable
  if ← eatKeyword "SCHEMA" then return ← readCreateSchema
  if ← eatKeyword "DATABASE" then return ← readCreateDatabase
  if ← eatKeyword "ROLE" then return ← readCreateRole
  if ← eatKeyword "SEQUENCE" then return ← readCreateSequence n d
  if ← eatKeyword "TYPE" then return ← readCreateType n d
  if ← eatKeyword "PROCEDURE" then return ← readCreateProcedure n d body
  failWith "Expected: an object type after CREATE"

/-! ## ALTER -/

/-- Reads `PART e` or `PARTITION e`. -/
def readPartOrPartition (n d : Nat) : Reader Unit := do
  if (← eatOneOf ["PART", "PARTITION"]).isNone then failWith "Expected: one of PART or PARTITION"
  let _ ← readExprAt n d

/-- Reads `[IF EXISTS] name [IN PARTITION p]` of a projection. -/
def readProjectionTarget : Reader Unit := do
  let _ ← eatKeywords ["IF", "EXISTS"]
  let _ ← readIdent
  if ← eatKeywords ["IN", "PARTITION"] then
    let _ ← readIdent

/-- Reads the query of a projection after `(SELECT`: its items, `GROUP BY` and
`ORDER BY`, and the closing `)`. -/
def readProjectionSelect (n d : Nat) : Reader Unit := do
  let _ ← commaSep (readSelectItem false n d)
  let _ ← readGroupBy false n d
  if ← eatKeywords ["ORDER", "BY"] then
    let _ ← commaSep (readOrderExpr (readQuery false n) false n d)
    let _ ← readInterpolate false n d
  expect .rparen ")"

/-- Reads `PARTITION (e, ...)` clauses, as many as there are. -/
def readAddedPartitions (n d : Nat) : Nat → Reader Unit
  | 0 => pure ()
  | k + 1 => do
    if ← eatKeyword "PARTITION" then
      readParenExprs n d
      readAddedPartitions n d k

/-- Reads what follows `ALTER [COLUMN] name` in `ALTER TABLE`. -/
def readAlterColumn (n d : Nat) : Reader Unit := do
  if ← eatKeywords ["SET", "NOT", "NULL"] then return
  if ← eatKeywords ["DROP", "NOT", "NULL"] then return
  if ← eatKeywords ["SET", "DEFAULT"] then
    let _ ← readExprAt n d
    return
  if ← eatKeywords ["DROP", "DEFAULT"] then return
  if ← eatKeywords ["SET", "DATA", "TYPE"] then
    let _ ← readDataType (readExprText n d)
    return
  if ← eatKeywords ["ADD", "GENERATED"] then
    if !(← eatKeyword "ALWAYS") then
      let _ ← eatKeywords ["BY", "DEFAULT"]
    expectKeyword "AS"
    expectKeyword "IDENTITY"
    if ← eat .lparen then
      let _ ← readSequenceOptions
      expect .rparen ")"
    return
  failWith "Expected: SET/DROP NOT NULL, SET DEFAULT, or SET DATA TYPE after ALTER COLUMN"

/-- Reads the rest of `ADD` in `ALTER TABLE`: a constraint, a projection, partitions, or a
column with its position. -/
def readAlterAdd (n d : Nat) : Reader Unit := do
  if ← readTableConstraint n d then return
  if ← eatKeyword "PROJECTION" then
    let _ ← eatKeywords ["IF", "NOT", "EXISTS"]
    let _ ← readIdent
    expect .lparen "("
    expectKeyword "SELECT"
    return ← readProjectionSelect n d
  let _ ← eatKeywords ["IF", "NOT", "EXISTS"]
  if ← nextIsKeyword ["PARTITION"] then
    return ← fun ts => readAddedPartitions n d (ts.length + 1) ts
  let _ ← eatKeyword "COLUMN"
  let _ ← eatKeywords ["IF", "NOT", "EXISTS"]
  let _ ← readColumnDef (readExprText n d)
  readColumnPosition

/-- Reads the rest of `DROP` in `ALTER TABLE`: partitions, a constraint, the primary key, a
projection, or a column. -/
def readAlterDrop (n d : Nat) : Reader Unit := do
  if ← eatKeywords ["IF", "EXISTS", "PARTITION"] then return ← readParenExprs n d
  if ← eatKeyword "PARTITION" then return ← readParenExprs n d
  if ← eatKeyword "CONSTRAINT" then
    let _ ← eatKeywords ["IF", "EXISTS"]
    let _ ← readIdent
    let _ ← eatKeyword "CASCADE"
    return
  if ← eatKeywords ["PRIMARY", "KEY"] then return
  if ← eatKeyword "PROJECTION" then
    let _ ← eatKeywords ["IF", "EXISTS"]
    let _ ← readIdent
    return
  let _ ← eatKeyword "COLUMN"
  let _ ← eatKeywords ["IF", "EXISTS"]
  let _ ← readIdent
  let _ ← eatKeyword "CASCADE"

/-- Reads one operation of `ALTER TABLE`. -/
def readAlterTableOperation (n d : Nat) : Reader Unit := do
  if ← eatKeyword "ADD" then return ← readAlterAdd n d
  if ← eatKeyword "RENAME" then
    if ← eatKeyword "TO" then
      let _ ← readObjectName
      return
    let _ ← eatKeyword "COLUMN"
    let _ ← readIdent
    expectKeyword "TO"
    let _ ← readIdent
    return
  if ← eatKeyword "DISABLE" then
    if ← eatKeywords ["ROW", "LEVEL", "SECURITY"] then return
    if (← eatOneOf ["RULE", "TRIGGER"]).isSome then
      let _ ← readIdent
      return
    failWith "Expected: ROW LEVEL SECURITY, RULE, or TRIGGER after DISABLE"
  if ← eatKeyword "ENABLE" then
    if ← eatKeywords ["ROW", "LEVEL", "SECURITY"] then return
    let _ ← eatOneOf ["ALWAYS", "REPLICA"]
    if (← eatOneOf ["RULE", "TRIGGER"]).isSome then
      let _ ← readIdent
      return
    failWith "Expected: ALWAYS, REPLICA, ROW LEVEL SECURITY, RULE, or TRIGGER after ENABLE"
  if ← anyOf [eatKeywords ["CLEAR", "PROJECTION"], eatKeywords ["MATERIALIZE", "PROJECTION"]] then
    return ← readProjectionTarget
  if ← eatKeyword "DROP" then return ← readAlterDrop n d
  if ← eatKeyword "PARTITION" then
    readParenExprs n d
    expectKeyword "RENAME"
    expectKeyword "TO"
    expectKeyword "PARTITION"
    return ← readParenExprs n d
  if ← eatKeyword "CHANGE" then
    let _ ← eatKeyword "COLUMN"
    let _ ← readIdent
    let _ ← readIdent
    let _ ← readDataType (readExprText n d)
    fun ts => readPlainColumnOptions n d (ts.length + 1) ts
    return ← readColumnPosition
  if ← eatKeyword "MODIFY" then
    let _ ← eatKeyword "COLUMN"
    let _ ← readIdent
    let _ ← readDataType (readExprText n d)
    fun ts => readPlainColumnOptions n d (ts.length + 1) ts
    return ← readColumnPosition
  if ← eatKeyword "ALTER" then
    let _ ← eatKeyword "COLUMN"
    let _ ← readIdent
    return ← readAlterColumn n d
  if ← eatKeyword "SWAP" then
    expectKeyword "WITH"
    let _ ← readObjectName
    return
  if ← eatKeywords ["OWNER", "TO"] then
    let _ ← readIdent
    return
  if ← anyOf [eatKeyword "ATTACH", eatKeyword "DETACH"] then return ← readPartOrPartition n d
  if ← anyOf [eatKeyword "FREEZE", eatKeyword "UNFREEZE"] then
    readPartOrPartition n d
    if ← eatKeyword "WITH" then
      expectKeyword "NAME"
      let _ ← readIdent
    return
  if ← readOptionsAfter n d ["SET", "TBLPROPERTIES"] then return
  failWith "Expected: ADD, RENAME, PARTITION, SWAP, DROP, or SET TBLPROPERTIES after ALTER TABLE"

/-- Reads the rest of `ALTER POLICY`: the name, `ON table`, and a rename or new `TO`,
`USING` and `WITH CHECK` parts. -/
def readAlterPolicy (n d : Nat) : Reader Unit := do
  let _ ← readIdent
  expectKeyword "ON"
  let _ ← readObjectName
  if ← eatKeyword "RENAME" then
    expectKeyword "TO"
    let _ ← readIdent
    return
  if ← eatKeyword "TO" then
    let _ ← commaSep readIdent
  if ← eatKeyword "USING" then readPolicyCondition n d
  if ← eatKeywords ["WITH", "CHECK"] then readPolicyCondition n d

/-- Reads the rest of an `ALTER` statement: a view, a table with its operations, an index
rename or a policy. Roles cannot be altered in this dialect. -/
def readAlter (n d : Nat) : Reader Unit := do
  match ← eatOneOf ["VIEW", "TABLE", "INDEX", "ROLE", "POLICY"] with
  | some "VIEW" =>
    let _ ← readObjectName
    readOptionalColumnList
    readOptions n d "WITH"
    expectKeyword "AS"
    let _ ← readQuery false n d
  | some "TABLE" =>
    let _ ← eatKeywords ["IF", "EXISTS"]
    let _ ← eatKeyword "ONLY"
    let _ ← readObjectName
    readOnCluster
    let _ ← commaSep (readAlterTableOperation n d)
    if ← anyOf [eatKeyword "LOCATION", eatKeywords ["SET", "LOCATION"]] then
      let _ ← readIdent
  | some "INDEX" =>
    let _ ← readObjectName
    if ← eatKeyword "RENAME" then
      if ← eatKeyword "TO" then
        let _ ← readObjectName
      else failWith "Expected: TO after RENAME"
    else failWith "Expected: RENAME after ALTER INDEX"
  | some "POLICY" => readAlterPolicy n d
  | some _ => failWith "ALTER ROLE is only support for PostgreSqlDialect, MsSqlDialect"
  | none => failWith "Expected: one of VIEW or TABLE or INDEX or ROLE or POLICY"

/-! ## DROP and TRUNCATE -/

/-- The kinds of object that `DROP` removes by name. -/
def dropKinds : List String :=
  ["TABLE", "VIEW", "INDEX", "ROLE", "SCHEMA", "DATABASE", "SEQUENCE", "STAGE", "TYPE"]

/-- Reads an optional `CASCADE` or `RESTRICT`. -/
def readCascadeOption : Reader Unit := do
  let _ ← eatOneOf ["CASCADE", "RESTRICT"]

/-- Reads the rest of a `DROP` of a function, procedure, policy, secret or trigger, after
its kind. -/
def readDropRoutine (n d : Nat) (kind : String) : Reader Unit := do
  let _ ← eatKeywords ["IF", "EXISTS"]
  if kind = "FUNCTION" || kind = "PROCEDURE" then
    let _ ← commaSep (readFunctionDesc n d)
    readCascadeOption
  else if kind = "POLICY" then
    let _ ← readIdent
    expectKeyword "ON"
    let _ ← readObjectName
    readCascadeOption
  else if kind = "SECRET" then
    let _ ← readIdent
    if ← eatKeyword "FROM" then advance
  else
    let _ ← readObjectName
    expectKeyword "ON"
    let _ ← readObjectName
    readCascadeOption

/-- Reads the rest of a `DROP`: the kind of object, `IF EXISTS`, the names, and at most one
of `CASCADE` and `RESTRICT`, then `PURGE`; a role takes none of the three. Functions,
procedures, policies, secrets and triggers have forms of their own. -/
def readDrop (n d : Nat) : Reader Unit := do
  let _ ← eatKeyword "TEMPORARY"
  match ← eatOneOf dropKinds with
  | some kind =>
    let _ ← eatKeywords ["IF", "EXISTS"]
    let _ ← commaSep readObjectName
    let cascade ← eatKeyword "CASCADE"
    let restrict ← eatKeyword "RESTRICT"
    let purge ← eatKeyword "PURGE"
    if cascade && restrict then failWith "Cannot specify both CASCADE and RESTRICT in DROP"
    if kind = "ROLE" && (cascade || restrict || purge) then
      failWith "Cannot specify CASCADE, RESTRICT, or PURGE in DROP ROLE"
  | none =>
    match ← eatOneOf ["FUNCTION", "POLICY", "PROCEDURE", "SECRET", "TRIGGER"] with
    | some kind => readDropRoutine n d kind
    | none => failWith "Expected: TABLE, VIEW, INDEX, ROLE, SCHEMA, DATABASE, FUNCTION, PROCEDURE, STAGE, TRIGGER, SECRET, SEQUENCE, or TYPE after DROP"

/-- Reads the rest of a `TRUNCATE`: `TABLE`, `ONLY`, the names, a partition list, the
identity and cascade options, and `ON CLUSTER`. -/
def readTruncate (n d : Nat) : Reader Unit := do
  let _ ← eatKeyword "TABLE"
  let _ ← eatKeyword "ONLY"
  let _ ← commaSep readObjectName
  if ← eatKeyword "PARTITION" then readParenExprs n d
  if !(← eatKeywords ["RESTART", "IDENTITY"]) then
    let _ ← eatKeywords ["CONTINUE", "IDENTITY"]
  readCascadeOption
  readOnCluster

end CsvQuery.Sql
