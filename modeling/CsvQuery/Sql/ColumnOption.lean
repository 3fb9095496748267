import CsvQuery.Sql.Reader

/-!
# Column options

Readers of what may follow the type of a column, each giving the option's canonical text:
`NOT NULL`, `DEFAULT e`, `PRIMARY KEY DEFERRABLE`, `REFERENCES t (c) ON DELETE CASCADE`,
`CHECK (e)`, `GENERATED ALWAYS AS IDENTITY ( START WITH 1 )`, `OPTIONS(k = v)`, and a
constraint name before an option, `CONSTRAINT c UNIQUE`. Here too are the pieces the
options share with table definitions: numbers of sequences, referential actions, constraint
characteristics and `key = value` options.

A column is also defined inside a data type (`Nested(x INT NOT NULL)`), and data types are
read inside expressions. So these readers come before both and take the reader of an
expression's text, `expr`, as an argument.
-/

namespace CsvQuery.Sql

open Reader

/-! ## Numbers and storage options -/

/-- Reads a number or a placeholder, as text. -/
def readNumberText : Reader String := do
  match ← peek with
  | some (.number _ _) | some .colon => Literal.render <$> readValue
  | some (.other s) =>
    if s = "@" then Literal.render <$> readValue
    else if s.startsWith "?" || s.startsWith "$" then
      advance
      pure s
    else failWith "Expected: literal number"
  | _ => failWith "Expected: literal number"

/-- Reads a number with an optional sign, or a placeholder, as text. -/
def readSignedNumberText : Reader String := do
  if ← eat .plus then return "+" ++ (← readNumberText)
  if ← eat .minus then return "-" ++ (← readNumberText)
  readNumberText

/-- Reads the storage option `CLUSTERED COLUMNSTORE INDEX [ORDER (columns)]` or
`CLUSTERED INDEX (column [ASC | DESC], ...)`, as text. -/
def readClusteredOption : Reader String := do
  if ← eatKeywords ["CLUSTERED", "COLUMNSTORE", "INDEX", "ORDER"] then
    return "CLUSTERED COLUMNSTORE INDEX ORDER (" ++ renderIdents (← readParenIdents) ++ ")"
  if ← eatKeywords ["CLUSTERED", "COLUMNSTORE", "INDEX"] then
    return "CLUSTERED COLUMNSTORE INDEX"
  if ← eatKeywords ["CLUSTERED", "INDEX"] then
    expect .lparen "("
    let cols ← commaSep do
      let c ← readIdent
      match ← eatOneOf ["ASC", "DESC"] with
      | some dir => pure (c.render ++ " " ++ dir)
      | none => pure c.render
    expect .rparen ")"
    return "CLUSTERED INDEX (" ++ commaList cols ++ ")"
  failWith "invalid CLUSTERED sequence"

/-- Reads one option of a list, as text: `name = value`; `HEAP` stands alone, and
`PARTITION (...)` and `CLUSTERED ...` describe a table's storage. -/
def readSqlOption (expr : Reader String) : Reader String := do
  if ← nextIsKeyword ["HEAP"] then return (← readIdent).render
  if ← eatKeyword "PARTITION" then
    expect .lparen "("
    let column ← readIdent
    expectKeyword "RANGE"
    let direction ← do
      match ← eatOneOf ["LEFT", "RIGHT"] with
      | some dir => pure (" " ++ dir)
      | none => pure ""
    expectKeyword "FOR"
    expectKeyword "VALUES"
    expect .lparen "("
    let values ← commaSep expr
    expect .rparen ")"
    expect .rparen ")"
    return "PARTITION (" ++ column.render ++ " RANGE" ++ direction ++ " FOR VALUES ("
      ++ commaList values ++ "))"
  if ← nextIsKeyword ["CLUSTERED"] then return ← readClusteredOption
  let name ← readIdent
  expect .eq "="
  return name.render ++ " = " ++ (← expr)

/-- Reads `(option, ...)` after the keywords `kws`, if they come next, and gives the
options' text. -/
def readSqlOptionsAfter (expr : Reader String) (kws : List String) :
    Reader (Option (List String)) := do
  if ← eatKeywords kws then
    expect .lparen "("
    let options ← commaSep (readSqlOption expr)
    expect .rparen ")"
    return some options
  return none

/-- Reads the options of a sequence, each optional and in this order: `INCREMENT [BY] n`,
`MINVALUE n | NO MINVALUE`, `MAXVALUE n | NO MAXVALUE`, `START [WITH] n`, `CACHE n` and
`[NO] CYCLE`. Gives their text, each option with a space before it. -/
def readSequenceOptions : Reader String := do
  let increment ← do
    if ← eatKeyword "INCREMENT" then
      let by_ ← eatKeyword "BY"
      pure (" INCREMENT" ++ (if by_ then " BY " else " ") ++ (← readSignedNumberText))
    else pure ""
  let minimum ← do
    if ← eatKeyword "MINVALUE" then pure (" MINVALUE " ++ (← readSignedNumberText))
    else if ← eatKeywords ["NO", "MINVALUE"] then pure " NO MINVALUE"
    else pure ""
  let maximum ← do
    if ← eatKeyword "MAXVALUE" then pure (" MAXVALUE " ++ (← readSignedNumberText))
    else if ← eatKeywords ["NO", "MAXVALUE"] then pure " NO MAXVALUE"
    else pure ""
  let start ← do
    if ← eatKeyword "START" then
      let with_ ← eatKeyword "WITH"
      pure (" START" ++ (if with_ then " WITH " else " ") ++ (← readSignedNumberText))
    else pure ""
  let cache ← do
    if ← eatKeyword "CACHE" then pure (" CACHE " ++ (← readSignedNumberText)) else pure ""
  let cycle ← do
    if ← eatKeywords ["NO", "CYCLE"] then pure " NO CYCLE"
    else if ← eatKeyword "CYCLE" then pure " CYCLE"
    else pure ""
  return increment ++ minimum ++ maximum ++ start ++ cache ++ cycle

/-! ## Constraints -/

/-- Reads what a referencing row does when the referenced row changes: `RESTRICT`,
`CASCADE`, `SET NULL`, `NO ACTION` or `SET DEFAULT`. -/
def readReferentialAction : Reader String := do
  if ← eatKeyword "RESTRICT" then return "RESTRICT"
  if ← eatKeyword "CASCADE" then return "CASCADE"
  if ← eatKeywords ["SET", "NULL"] then return "SET NULL"
  if ← eatKeywords ["NO", "ACTION"] then return "NO ACTION"
  if ← eatKeywords ["SET", "DEFAULT"] then return "SET DEFAULT"
  failWith "Expected: one of RESTRICT, CASCADE, SET NULL, NO ACTION or SET DEFAULT"

/-- Reads `ON DELETE action` and `ON UPDATE action`, each at most once, in either order;
gives the two actions. -/
def readReferentialActions : Nat → Option String → Option String →
    Reader (Option String × Option String)
  | 0, onDelete, onUpdate => pure (onDelete, onUpdate)
  | k + 1, onDelete, onUpdate => do
    if onDelete.isNone then
      if ← eatKeywords ["ON", "DELETE"] then
        return ← readReferentialActions k (some (← readReferentialAction)) onUpdate
    if onUpdate.isNone then
      if ← eatKeywords ["ON", "UPDATE"] then
        return ← readReferentialActions k onDelete (some (← readReferentialAction))
    pure (onDelete, onUpdate)

/-- The text of referential actions, each with a space before it. -/
def renderReferentialActions : Option String × Option String → String
  | (onDelete, onUpdate) =>
    (match onDelete with | some a => " ON DELETE " ++ a | none => "")
      ++ (match onUpdate with | some a => " ON UPDATE " ++ a | none => "")

/-- Reads the characteristics of a constraint: `[NOT] DEFERRABLE`,
`INITIALLY DEFERRED | IMMEDIATE` and `[NOT] ENFORCED`, each at most once and in any order.
Gives them in that order. -/
def readConstraintCharacteristics : Nat → Option String → Option String → Option String →
    Reader (List String)
  | 0, deferrable, initially, enforced => pure ([deferrable, initially, enforced].filterMap id)
  | k + 1, deferrable, initially, enforced => do
    if deferrable.isNone then
      if ← eatKeywords ["NOT", "DEFERRABLE"] then
        return ← readConstraintCharacteristics k (some "NOT DEFERRABLE") initially enforced
      if ← eatKeyword "DEFERRABLE" then
        return ← readConstraintCharacteristics k (some "DEFERRABLE") initially enforced
    if initially.isNone then
      if ← eatKeyword "INITIALLY" then
        match ← eatOneOf ["DEFERRED", "IMMEDIATE"] with
        | some when =>
          return ← readConstraintCharacteristics k deferrable (some ("INITIALLY " ++ when))
            enforced
        | none => failWith "Expected: one of DEFERRED or IMMEDIATE"
    if enforced.isNone then
      if ← eatKeyword "ENFORCED" then
        return ← readConstraintCharacteristics k deferrable initially (some "ENFORCED")
      if ← eatKeywords ["NOT", "ENFORCED"] then
        return ← readConstraintCharacteristics k deferrable initially (some "NOT ENFORCED")
    pure ([deferrable, initially, enforced].filterMap id)

/-- Reads the characteristics of a constraint and gives their text with a space before
it, or nothing when there are none. -/
def readCharacteristics : Reader String := do
  let cs ← readConstraintCharacteristics 4 none none none
  return if cs.isEmpty then "" else " " ++ " ".intercalate cs

/-! ## Options of a column -/

/-- Reads what follows `GENERATED` in a column: `ALWAYS AS IDENTITY` or
`BY DEFAULT AS IDENTITY`, each with optional sequence options in parentheses, or
`ALWAYS AS (e) [STORED | VIRTUAL]`. Other text after `GENERATED` gives no option, and the
options of the column end there. -/
def readGeneratedOption (expr : Reader String) : Reader (Option String) := do
  for (words, when) in [(["ALWAYS", "AS", "IDENTITY"], "ALWAYS"),
      (["BY", "DEFAULT", "AS", "IDENTITY"], "BY DEFAULT")] do
    if ← eatKeywords words then
      let sequence ← do
        if ← eat .lparen then
          let s ← readSequenceOptions
          expect .rparen ")"
          pure (if s.isEmpty then "" else " (" ++ s ++ " )")
        else pure ""
      return some ("GENERATED " ++ when ++ " AS IDENTITY" ++ sequence)
  if ← eatKeywords ["ALWAYS", "AS"] then
    if ← eat .lparen then
      let e ← expr
      expect .rparen ")"
      let mode ← do
        match ← eatOneOf ["STORED", "VIRTUAL"] with
        | some m => pure (" " ++ m)
        | none => pure ""
      return some ("GENERATED ALWAYS AS (" ++ e ++ ")" ++ mode)
  return none

/-- Reads one option of a column, if one comes next, as text. `GENERATED` followed by other
text is taken and gives none. -/
def readColumnOption (expr : Reader String) : Reader (Option String) := do
  if ← eatKeywords ["CHARACTER", "SET"] then
    return some ("CHARACTER SET " ++ renderName (← readObjectName))
  if ← eatKeywords ["NOT", "NULL"] then return some "NOT NULL"
  if ← eatKeyword "COMMENT" then
    match ← next with
    | some (.singleQuoted s) => return some ("COMMENT '" ++ escapeQuoted '\'' s ++ "'")
    | _ => failWith "Expected: string"
  if ← eatKeyword "NULL" then return some "NULL"
  match ← eatOneOf ["DEFAULT", "MATERIALIZED", "ALIAS"] with
  | some kw => return some (kw ++ " " ++ (← expr))
  | none => pure ()
  if ← eatKeyword "EPHEMERAL" then
    if (← nextIs .comma) || (← nextIs .rparen) then return some "EPHEMERAL"
    return some ("EPHEMERAL " ++ (← expr))
  if ← eatKeywords ["PRIMARY", "KEY"] then
    return some ("PRIMARY KEY" ++ (← readCharacteristics))
  if ← eatKeyword "UNIQUE" then return some ("UNIQUE" ++ (← readCharacteristics))
  if ← eatKeyword "REFERENCES" then
    let table ← readObjectName
    let columns ← if ← nextIs .lparen then readParenIdents else pure []
    let actions ← readReferentialActions 2 none none
    let characteristics ← readCharacteristics
    return some ("REFERENCES " ++ renderName table
      ++ (if columns.isEmpty then "" else " (" ++ renderIdents columns ++ ")")
      ++ renderReferentialActions actions ++ characteristics)
  if ← eatKeyword "CHECK" then
    expect .lparen "("
    let e ← expr
    expect .rparen ")"
    return some ("CHECK (" ++ e ++ ")")
  match ← eatOneOf ["AUTO_INCREMENT", "AUTOINCREMENT", "ASC", "DESC"] with
  | some kw => return some kw
  | none => pure ()
  if ← eatKeywords ["ON", "UPDATE"] then return some ("ON UPDATE " ++ (← expr))
  if ← eatKeyword "GENERATED" then return ← readGeneratedOption expr
  match ← readSqlOptionsAfter expr ["OPTIONS"] with
  | some options => return some ("OPTIONS(" ++ commaList options ++ ")")
  | none => pure ()
  if ← eatKeyword "AS" then
    expect .lparen "("
    let e ← expr
    expect .rparen ")"
    let mode ← do
      match ← eatOneOf ["STORED", "VIRTUAL"] with
      | some m => pure (" " ++ m)
      | none => pure ""
    return some ("AS (" ++ e ++ ")" ++ mode)
  if ← eatKeyword "IDENTITY" then
    if ← eat .lparen then
      let seed ← readSignedNumberText
      expect .comma ","
      let increment ← readSignedNumberText
      expect .rparen ")"
      return some ("IDENTITY(" ++ seed ++ ", " ++ increment ++ ")")
    return some "IDENTITY"
  if ← eatKeywords ["ON", "CONFLICT"] then
    match ← eatOneOf ["ROLLBACK", "ABORT", "FAIL", "IGNORE", "REPLACE"] with
    | some kw => return some ("ON CONFLICT " ++ kw)
    | none => failWith "Expected: one of ROLLBACK or ABORT or FAIL or IGNORE or REPLACE"
  return none

/-- Reads the options of a column, as many as there are: options, `CONSTRAINT name option`
and `COLLATE name`. Gives the collation, the last one named from `collation` on, and the
text of each option. -/
def readColumnOptions (expr : Reader String) :
    Nat → Option String → List String → Reader (Option String × List String)
  | 0, collation, acc => pure (collation, acc.reverse)
  | k + 1, collation, acc => do
    if ← eatKeyword "CONSTRAINT" then
      let name ← readIdent
      match ← readColumnOption expr with
      | some o =>
        let named := "CONSTRAINT " ++ name.render ++ " " ++ o
        return ← readColumnOptions expr k collation (named :: acc)
      | none => failWith "Expected: constraint details after CONSTRAINT <name>"
    match ← readColumnOption expr with
    | some o => return ← readColumnOptions expr k collation (o :: acc)
    | none => pure ()
    if ← eatKeyword "COLLATE" then
      return ← readColumnOptions expr k (some (renderName (← readObjectName))) acc
    pure (collation, acc.reverse)

end CsvQuery.Sql
