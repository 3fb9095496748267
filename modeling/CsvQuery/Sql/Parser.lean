import CsvQuery.Sql.Parser.Expr

/-!
# Reading SQL queries

The recursive-descent readers below build query trees of `CsvQuery.Sql.Syntax` from
tokens: WITH clauses, set operations, VALUES, SELECT blocks with their items, FROM items
and joins, GROUP BY, ORDER BY, LIMIT, OFFSET, FETCH and locking clauses. Expressions are
read by the readers of `CsvQuery.Sql.Parser.Expr`, which are handed `readQuery` for the
subqueries they hold.

Nesting is bounded: a statement, each query and each subexpression take one level of a
budget of fifty, and text nested deeper is refused with `tooDeep`.

Every reader of the query block also takes `cb`, which says whether it reads inside the
relationships of a `CONNECT BY`. There `PRIOR e` is an operator, in the subqueries of the
relationships too; elsewhere `PRIOR` is a plain word.

Every reader takes a fuel argument `n`, and its calls get `n - 1`. Between two consumed
tokens at most a fixed number of readers are entered, so sixteen units per token are more
than enough and `parse` never runs out; running out would be a syntax error.
-/

namespace CsvQuery.Sql

open Reader

/-- A bound of a pattern range, a number below 2^32, written back as that number. -/
def patternBound (t : String) : Reader String :=
  let failure := "Could not parse '" ++ t ++ "' as u32"
  match Decimal.readNat? t.toList with
  | some v => if v < Nat.pow 2 32 then pure (toString v) else failWith failure
  | none => failWith failure

/-- Reads the quantifier range of a row pattern after its `{`: `{n}`, `{n,}`, `{,m}` or
`{n,m}`. -/
def readPatternRange : Reader String := do
  let close := Token.other "\x7d"
  match ← next with
  | some .comma =>
    match ← next with
    | some (.number m _) =>
      expect close "\x7d"
      pure ("\x7b," ++ (← patternBound m) ++ "\x7d")
    | _ => failWith "Expected: literal number"
  | some (.number k _) =>
    if ← eat .comma then
      match ← next with
      | some (.number m _) =>
        expect close "\x7d"
        pure ("\x7b" ++ (← patternBound k) ++ "," ++ (← patternBound m) ++ "\x7d")
      | some t =>
        if t = close then pure ("\x7b" ++ (← patternBound k) ++ ",\x7d")
        else failWith "Expected: \x7d or upper bound"
      | none => failWith "Expected: \x7d or upper bound"
    else
      expect close "\x7d"
      pure ("\x7b" ++ (← patternBound k) ++ "\x7d")
  | _ => failWith "Expected: quantifier range"

/-- Reads an optional parenthesized list of column names. -/
def readOptionalColumns : Reader (List Ident) := do
  if ← eat .lparen then
    let cols ← commaSep readIdent
    expect .rparen ")"
    return cols
  return []

/-- File formats of a table or directory stored by a file system. -/
def fileFormats : List String :=
  ["TEXTFILE", "SEQUENCEFILE", "ORC", "PARQUET", "AVRO", "RCFILE", "JSONFILE"]

/-- Reads the `ON EMPTY` and `ON ERROR` handling of a JSON_TABLE column: each is `NULL`,
`ERROR` or `DEFAULT value`, then `ON EMPTY` or `ON ERROR`. -/
def readJsonErrorHandling : Nat → Reader String
  | 0 => pure ""
  | k + 1 => do
    let h ← do
      if ← eatKeyword "NULL" then pure (some "NULL")
      else if ← eatKeyword "ERROR" then pure (some "ERROR")
      else if ← eatKeyword "DEFAULT" then pure (some ("DEFAULT " ++ (← readValue).render))
      else pure none
    match h with
    | none => pure ""
    | some h =>
      expectKeyword "ON"
      let which ← do
        if ← eatKeyword "EMPTY" then pure "EMPTY"
        else
          expectKeyword "ERROR"
          pure "ERROR"
      return " " ++ h ++ " ON " ++ which ++ (← readJsonErrorHandling k)

mutual

/-- Reads a row pattern of `MATCH_RECOGNIZE`: sequences separated by `|`. -/
def readPatternFrom : Nat → Reader String
  | 0 => outOfFuel
  | n + 1 => do
    let first ← readPatternSequence n
    if ← eat .pipe then return first ++ " | " ++ (← readPatternFrom n)
    return first

/-- Reads a sequence of quantified pattern terms, up to `)` or `|`. -/
def readPatternSequence : Nat → Reader String
  | 0 => outOfFuel
  | n + 1 => do
    let first ← readPatternRepetition n
    match ← peek with
    | some .rparen | some .pipe => return first
    | _ => return first ++ " " ++ (← readPatternSequence n)

/-- Reads a pattern term and the quantifiers after it: `*`, `+`, `?` or a range. -/
def readPatternRepetition : Nat → Reader String
  | 0 => outOfFuel
  | n + 1 => do
    let base ← readPatternTerm n
    readPatternQuantifiers n base

/-- Reads the quantifiers after a pattern term `base`. -/
def readPatternQuantifiers : Nat → String → Reader String
  | 0, _ => outOfFuel
  | n + 1, base => do
    match ← peek with
    | some .mul => advance; readPatternQuantifiers n (base ++ "*")
    | some .plus => advance; readPatternQuantifiers n (base ++ "+")
    | some (.other "?") => advance; readPatternQuantifiers n (base ++ "?")
    | some (.other "\x7b") =>
      advance
      readPatternQuantifiers n (base ++ (← readPatternRange))
    | _ => return base

/-- Reads one pattern term: `^`, `$`, an excluded symbol `\x7b- s -\x7d`,
`PERMUTE(s, ...)`, a parenthesized pattern, or a symbol. -/
def readPatternTerm : Nat → Reader String
  | 0 => outOfFuel
  | n + 1 => do
    match ← next with
    | some .caret => pure "^"
    | some (.other "$") => pure "$"
    | some (.other "\x7b") =>
      expect .minus "-"
      let s ← readIdent
      expect .minus "-"
      expect (.other "\x7d") "\x7d"
      pure ("\x7b- " ++ s.render ++ " -\x7d")
    | some .lparen =>
      let p ← readPatternFrom n
      expect .rparen ")"
      pure ("( " ++ p ++ " )")
    | some (.word "PERMUTE" none) =>
      expect .lparen "("
      let ss ← commaSep readIdent
      expect .rparen ")"
      pure ("PERMUTE(" ++ renderIdents ss ++ ")")
    | some t =>
      match t.ident? with
      | some i => pure i.render
      | none => failWith "Expected: identifier"
    | none => failWith "Expected: identifier"

end

mutual

/-- Reads a query: an optional WITH clause, a body with set operations, and the ORDER BY,
LIMIT, OFFSET, FETCH and locking clauses after it. -/
def readQuery : Bool → Nat → Nat → Reader Query
  | _, 0, _ => outOfFuel
  | cb, n + 1, depth => do
    if depth = 0 then throw .tooDeep
    let d := depth - 1
    let withClause ← do
      if ← eatKeyword "WITH" then
        let recursive ← eatKeyword "RECURSIVE"
        let ctes ← commaSep (readCte cb n d)
        pure (some ("WITH " ++ (if recursive then "RECURSIVE " else "") ++ commaList ctes))
      else pure none
    if ← eatKeyword "INSERT" then
      return .mk withClause (.command (← readInsert cb n d "INSERT")) none none none [] none [] {}
    if ← eatKeyword "UPDATE" then
      return .mk withClause (.command (← readUpdate cb n d)) none none none [] none [] {}
    let body ← readBody cb n d 0
    let (orderBy, interpolate) ← do
      if ← eatKeywords ["ORDER", "BY"] then
        let items ← commaSep (readOrderExpr (readQuery cb n) cb n d)
        pure (some items, ← readInterpolate cb n d)
      else pure (none, none)
    let lo ← readLimitRound cb n d (none, none)
    let (limit, offset) ← readLimitRound cb n d lo
    let limitBy ← if ← eatKeyword "BY" then commaSep (readExpr (readQuery cb n) cb n d) else pure []
    let settings ← readSettings
    let fetch ← if ← eatKeyword "FETCH" then some <$> readFetch else pure none
    let (locks, forClause) ← fun ts => readLocksFrom (ts.length + 1) ts
    let format ← do
      if ← eatKeyword "FORMAT" then
        if ← eatKeyword "NULL" then pure (some "FORMAT NULL")
        else pure (some ("FORMAT " ++ (← readIdent).render))
      else pure none
    let clauses : QueryClauses :=
      { interpolate, settings := settings.getD [], forClause, format }
    pure (.mk withClause body orderBy limit offset limitBy fetch locks clauses)

/-- One round of LIMIT and OFFSET; a query reads two rounds, so both may come in either
order. `LIMIT ALL` sets no limit, and `LIMIT a, b` is `LIMIT b OFFSET a`. -/
def readLimitRound : Bool → Nat → Nat → Option Expr × Option String →
    Reader (Option Expr × Option String)
  | _, 0, _, _ => outOfFuel
  | cb, n + 1, d, (limit, offset) => do
    let limit ← do
      if limit.isNone then
        if ← eatKeyword "LIMIT" then
          if ← eatKeyword "ALL" then pure none else some <$> readExpr (readQuery cb n) cb n d
        else pure none
      else pure limit
    let offset ← do
      if offset.isNone then
        if ← eatKeyword "OFFSET" then
          let v ← readExpr (readQuery cb n) cb n d
          let rows ← do
            if ← eatKeyword "ROW" then pure " ROW"
            else if ← eatKeyword "ROWS" then pure " ROWS"
            else pure ""
          pure (some ("OFFSET " ++ v.render ++ rows))
        else pure none
      else pure offset
    match limit, offset with
    | some l, none =>
      if ← eat .comma then
        let l2 ← readExpr (readQuery cb n) cb n d
        pure (some l2, some ("OFFSET " ++ l.render))
      else pure (limit, offset)
    | _, _ => pure (limit, offset)

/-- Reads an optional `keyword expression` clause, written back with a leading space. -/
def readClause : Bool → Nat → Nat → String → Reader String
  | _, 0, _, _ => outOfFuel
  | cb, n + 1, d, keyword => do
    if ← eatKeyword keyword then
      return " " ++ keyword ++ " " ++ (← readExpr (readQuery cb n) cb n d).render
    return ""

/-- Reads an optional `RETURNING` list, written back with a leading space. -/
def readReturning : Bool → Nat → Nat → Reader String
  | _, 0, _ => outOfFuel
  | cb, n + 1, d => do
    if ← eatKeyword "RETURNING" then
      return " RETURNING " ++ SelectItem.renderList (← commaSep (readSelectItem cb n d))
    return ""

/-- Reads `column = value`, or `(c1, c2) = value`. -/
def readAssignment : Bool → Nat → Nat → Reader String
  | _, 0, _ => outOfFuel
  | cb, n + 1, d => do
    let target ← do
      if ← eat .lparen then
        let names ← commaSep readObjectName
        expect .rparen ")"
        pure ("(" ++ commaList (names.map renderName) ++ ")")
      else renderName <$> readObjectName
    expect .eq "="
    return target ++ " = " ++ (← readExpr (readQuery cb n) cb n d).render

/-- Reads the rest of an `INSERT` or a `REPLACE` (`head`): options, the table, its columns,
and the rows as a query, or `DEFAULT VALUES`; then an optional row alias, an
`ON CONFLICT` or `ON DUPLICATE KEY UPDATE` clause, and `RETURNING`. An insert into a
directory takes a path, an optional file format and a query. -/
def readInsert : Bool → Nat → Nat → String → Reader String
  | _, 0, _, _ => outOfFuel
  | cb, n + 1, d, head => do
    let priority ← eatOneOf ["LOW_PRIORITY", "DELAYED", "HIGH_PRIORITY"]
    let ignore ← eatKeyword "IGNORE"
    let action ← eatOneOf ["INTO", "OVERWRITE"]
    let isLocal ← eatKeyword "LOCAL"
    if ← eatKeyword "DIRECTORY" then
      let path ← readLiteralString
      let format ← do
        if ← eatKeywords ["STORED", "AS"] then
          match ← eatOneOf fileFormats with
          | some f => pure (" STORED AS " ++ f)
          | none => failWith "Expected: fileformat"
        else pure ""
      let q ← readQuery cb n d
      return "INSERT" ++ (if action = some "OVERWRITE" then " OVERWRITE" else "")
        ++ (if isLocal then " LOCAL" else "") ++ " DIRECTORY '" ++ path ++ "'" ++ format ++ " "
        ++ q.render
    let tableKeyword ← eatKeyword "TABLE"
    let name ← readObjectName
    let (columns, partition, source) ← do
      if ← eatKeywords ["DEFAULT", "VALUES"] then pure ([], "", none)
      else
        let columns ← readOptionalColumns
        let partition ← do
          if ← eatKeyword "PARTITION" then
            expect .lparen "("
            let es ← commaSep (readExpr (readQuery cb n) cb n d)
            expect .rparen ")"
            pure ("PARTITION (" ++ Expr.renderList es ++ ") ")
          else pure ""
        pure (columns, partition, some (← readQuery cb n d))
    let aliasPart ← do
      if ← eatKeyword "AS" then
        let rowAlias ← readObjectName
        let cols ← readOptionalColumns
        pure (" AS " ++ renderName rowAlias
          ++ (if cols.isEmpty then "" else " (" ++ renderIdents cols ++ ")"))
      else pure ""
    let onPart ← do
      if ← eatKeyword "ON" then
        if ← eatKeyword "CONFLICT" then
          let target ← do
            if ← eatKeywords ["ON", "CONSTRAINT"] then
              pure (" ON CONSTRAINT " ++ renderName (← readObjectName))
            else if ← nextIs .lparen then pure ("(" ++ renderIdents (← readParenIdents) ++ ")")
            else pure ""
          expectKeyword "DO"
          if ← eatKeyword "NOTHING" then pure (" ON CONFLICT" ++ target ++ " DO NOTHING")
          else
            expectKeyword "UPDATE"
            expectKeyword "SET"
            let assignments ← commaSep (readAssignment cb n d)
            let wherePart ← readClause cb n d "WHERE"
            pure (" ON CONFLICT" ++ target ++ " DO UPDATE SET " ++ commaList assignments
              ++ wherePart)
        else
          expectKeyword "DUPLICATE"
          expectKeyword "KEY"
          expectKeyword "UPDATE"
          pure (" ON DUPLICATE KEY UPDATE " ++ commaList (← commaSep (readAssignment cb n d)))
      else pure ""
    let returning ← readReturning cb n d
    let start := head ++ (match priority with | some p => " " ++ p | none => "")
      ++ (if ignore then " IGNORE" else "")
      ++ (if action = some "OVERWRITE" then " OVERWRITE" else "")
      ++ (if action = some "INTO" then " INTO" else "")
      ++ (if tableKeyword then " TABLE" else "")
      ++ " " ++ renderName name ++ " "
    let columnPart := if columns.isEmpty then "" else "(" ++ renderIdents columns ++ ") "
    let body := match source with
      | some q => q.render
      | none => if columns.isEmpty then "DEFAULT VALUES" else ""
    return start ++ columnPart ++ partition ++ body ++ aliasPart ++ onPart ++ returning

/-- Reads the rest of an `UPDATE`: the table, `SET` and its assignments, and optional
`FROM`, `WHERE` and `RETURNING` clauses. A word after `UPDATE` is always the table, so
`UPDATE OR FAIL SET ...` updates the table `OR` under the alias `FAIL`. -/
def readUpdate : Bool → Nat → Nat → Reader String
  | _, 0, _ => outOfFuel
  | cb, n + 1, d => do
    let table ← readFromItem cb n d
    expectKeyword "SET"
    let assignments ← commaSep (readAssignment cb n d)
    let fromPart ← do
      if ← eatKeyword "FROM" then pure (" FROM " ++ (← readFromItem cb n d).render) else pure ""
    let wherePart ← readClause cb n d "WHERE"
    let returning ← readReturning cb n d
    return "UPDATE " ++ table.render
      ++ " SET " ++ commaList assignments ++ fromPart ++ wherePart ++ returning

/-- Reads a common table expression `name [(cols)] AS (query) [FROM source]`, as its
text. -/
def readCte : Bool → Nat → Nat → Reader String
  | _, 0, _ => outOfFuel
  | cb, n + 1, d => do
    let name ← readIdent
    let cols ← do
      if ← eatKeyword "AS" then pure []
      else
        let cols ← if ← nextIs .lparen then readParenIdents else pure []
        expectKeyword "AS"
        pure cols
    expect .lparen "("
    let q ← readQuery cb n d
    expect .rparen ")"
    let source ← if ← eatKeyword "FROM" then (" FROM " ++ ·.render) <$> readIdent else pure ""
    pure (name.render ++ (if cols.isEmpty then "" else " (" ++ renderIdents cols ++ ")")
      ++ " AS (" ++ q.render ++ ")" ++ source)

/-- Reads a query body whose set operations bind tighter than `prec`. -/
def readBody : Bool → Nat → Nat → Nat → Reader SetExpr
  | _, 0, _, _ => outOfFuel
  | cb, n + 1, d, prec => do
    let first ← do
      if ← nextIsKeyword ["SELECT"] then SetExpr.select <$> readSelect cb n d
      else if ← eat .lparen then
        let q ← readQuery cb n d
        expect .rparen ")"
        pure (SetExpr.query q)
      else if ← eatKeyword "VALUES" then readValuesBody cb n d
      else if ← eatKeyword "TABLE" then readTableBody
      else failWith "Expected: SELECT, VALUES, or a subquery in the query body"
    readSetTail cb n d prec first

/-- Reads the set operations after `left` that bind tighter than `prec`. -/
def readSetTail : Bool → Nat → Nat → Nat → SetExpr → Reader SetExpr
  | _, 0, _, _, _ => outOfFuel
  | cb, n + 1, d, prec, left => do
    match setOpOf (← peek) with
    | none => pure left
    | some (op, p) =>
      if p ≤ prec then pure left
      else
        advance
        let quant ← readSetQuantifier op
        let right ← readBody cb n d p
        readSetTail cb n d prec (.setOp left op quant right)

/-- Reads one row `[ROW] (e, ...)` of a VALUES body; says whether `ROW` was written. -/
def readRow : Bool → Nat → Nat → Reader (Bool × List Expr)
  | _, 0, _ => outOfFuel
  | cb, n + 1, d => do
    let row ← eatKeyword "ROW"
    expect .lparen "("
    let es ← commaSep (readExpr (readQuery cb n) cb n d)
    expect .rparen ")"
    pure (row, es)

/-- Reads the rows of a VALUES body, after `VALUES`. -/
def readValuesBody : Bool → Nat → Nat → Reader SetExpr
  | _, 0, _ => outOfFuel
  | cb, n + 1, d => do
    let rows ← commaSep (readRow cb n d)
    pure (.values (rows.any (·.1)) (rows.map (·.2)))

/-- Reads a SELECT block. -/
def readSelect : Bool → Nat → Nat → Reader Select
  | _, 0, _ => outOfFuel
  | cb, n + 1, d => do
    expectKeyword "SELECT"
    let distinct ← readDistinct cb n d
    let top ← if ← eatKeyword "TOP" then some <$> readTop cb n d else pure none
    let items ← commaSep (readSelectItem cb n d)
    let into ← do
      if ← eatKeyword "INTO" then
        let temporary ← (·.isSome) <$> eatOneOf ["TEMP", "TEMPORARY"]
        let unlogged ← eatKeyword "UNLOGGED"
        let table ← eatKeyword "TABLE"
        let name ← readObjectName
        pure (some ("INTO" ++ (if temporary then " TEMPORARY" else "")
          ++ (if unlogged then " UNLOGGED" else "") ++ (if table then " TABLE" else "") ++ " "
          ++ renderName name))
      else pure none
    let source ← if ← eatKeyword "FROM" then commaSep (readFromItem cb n d) else pure []
    let lateralViews ← readLateralViews cb n d
    let prewhere ←
      if ← eatKeyword "PREWHERE" then some <$> readExpr (readQuery cb n) cb n d else pure none
    let selection ←
      if ← eatKeyword "WHERE" then some <$> readExpr (readQuery cb n) cb n d else pure none
    let groupBy ← readGroupBy cb n d
    let byClause (words : List String) (title : String) : Reader String := do
      if ← eatKeywords words then
        pure (" " ++ title ++ " " ++ Expr.renderList (← commaSep (readExpr (readQuery cb n) cb n d)))
      else pure ""
    let clusterBy ← byClause ["CLUSTER", "BY"] "CLUSTER BY"
    let distributeBy ← byClause ["DISTRIBUTE", "BY"] "DISTRIBUTE BY"
    let sortBy ← byClause ["SORT", "BY"] "SORT BY"
    let having ←
      if ← eatKeyword "HAVING" then some <$> readExpr (readQuery cb n) cb n d else pure none
    let (windows, qualify, windowFirst) ← do
      if ← eatKeyword "WINDOW" then
        let ws ← commaSep (readNamedWindow cb n d)
        if ← eatKeyword "QUALIFY" then pure (ws, some (← readExpr (readQuery cb n) cb n d), true)
        else pure (ws, none, true)
      else if ← eatKeyword "QUALIFY" then
        let q ← readExpr (readQuery cb n) cb n d
        if ← eatKeyword "WINDOW" then pure (← commaSep (readNamedWindow cb n d), some q, false)
        else pure ([], some q, false)
      else pure ([], none, false)
    let connectBy ← do
      if ← nextIsKeyword ["START", "CONNECT"] then some <$> readConnectBy cb n d else pure none
    let clauses : SelectClauses :=
      { lateralViews, distribution := clusterBy ++ distributeBy ++ sortBy, windows, windowFirst,
        connectBy }
    pure (.mk distinct top items into source prewhere selection groupBy having qualify clauses)

/-- Reads `INTERPOLATE [(column [AS e], ...)]` after an ORDER BY, as its text; the list may
be empty. -/
def readInterpolate : Bool → Nat → Nat → Reader (Option String)
  | _, 0, _ => outOfFuel
  | cb, n + 1, d => do
    if ← eatKeyword "INTERPOLATE" then
      if ← eat .lparen then
        let items ← do
          if ← nextIs .rparen then pure []
          else commaSep do
            let col ← readIdent
            if ← eatKeyword "AS" then
              pure (col.render ++ " AS " ++ (← readExpr (readQuery cb n) cb n d).render)
            else pure col.render
        expect .rparen ")"
        return some ("INTERPOLATE (" ++ commaList items ++ ")")
      return some "INTERPOLATE"
    return none

/-- Reads a hierarchical query's `START WITH condition` and
`CONNECT BY relationship, ...`, in either order, as the text `START WITH c CONNECT BY r`.
Within the relationships `PRIOR e` names the parent row's value. -/
def readConnectBy : Bool → Nat → Nat → Reader String
  | _, 0, _ => outOfFuel
  | cb, n + 1, d => do
    let relationships : Reader String := do
      pure (Expr.renderList (← commaSep (readExpr (readQuery true n) true n d)))
    let (condition, rels) ← do
      if ← eatKeywords ["CONNECT", "BY"] then
        let rels ← relationships
        expectKeyword "START"
        expectKeyword "WITH"
        pure (← readExpr (readQuery cb n) cb n d, rels)
      else
        expectKeyword "START"
        expectKeyword "WITH"
        let c ← readExpr (readQuery cb n) cb n d
        expectKeyword "CONNECT"
        expectKeyword "BY"
        pure (c, ← relationships)
    pure ("START WITH " ++ condition.render ++ " CONNECT BY " ++ rels)

/-- Reads `LATERAL VIEW [OUTER] e name [aliases]` clauses, as their text, each with a
leading space. -/
def readLateralViews : Bool → Nat → Nat → Reader String
  | _, 0, _ => outOfFuel
  | cb, n + 1, d => do
    if ← eatKeywords ["LATERAL", "VIEW"] then
      let outer ← eatKeyword "OUTER"
      let e ← readExpr (readQuery cb n) cb n d
      let name ← readObjectName
      let aliases ← commaSep (readOptionalAlias ["WHERE", "GROUP", "CLUSTER", "HAVING", "LATERAL"])
      let aliases := aliases.filterMap id
      let text := " LATERAL VIEW" ++ (if outer then " OUTER" else "") ++ " " ++ e.render ++ " "
        ++ renderName name ++ (if aliases.isEmpty then "" else " AS " ++ renderIdents aliases)
      return text ++ (← readLateralViews cb n d)
    return ""

/-- Reads a named window `name AS (spec)` or `name AS other`, as its text. -/
def readNamedWindow : Bool → Nat → Nat → Reader String
  | _, 0, _ => outOfFuel
  | cb, n + 1, d => do
    let name ← readIdent
    expectKeyword "AS"
    let w ← do
      if ← eat .lparen then readWindowSpec (readQuery cb n) cb n d
      else Window.named <$> readIdent
    pure (name.render ++ " AS " ++ w.render)

/-- Reads `[ALL | DISTINCT [ON (e, ...)]]` at the start of a SELECT. -/
def readDistinct : Bool → Nat → Nat → Reader (Option Distinct)
  | _, 0, _ => outOfFuel
  | cb, n + 1, d => do
    let all ← eatKeyword "ALL"
    let distinct ← eatKeyword "DISTINCT"
    if !distinct then return none
    if all then failWith "Cannot specify both ALL and DISTINCT"
    if !(← eatKeyword "ON") then return some .plain
    expect .lparen "("
    let cols ← if ← nextIs .rparen then pure [] else commaSep (readExpr (readQuery cb n) cb n d)
    expect .rparen ")"
    return some (.on (Expr.renderList cols))

/-- Reads `TOP n | (e) [PERCENT] [WITH TIES]`, after `TOP`, as the text of the clause; a
count is written back as the number it reads as. -/
def readTop : Bool → Nat → Nat → Reader String
  | _, 0, _ => outOfFuel
  | cb, n + 1, d => do
    let quantity ← do
      if ← eat .lparen then
        let e ← readExpr (readQuery cb n) cb n d
        expect .rparen ")"
        pure ("(" ++ e.render ++ ")")
      else
        match ← next with
        | some (.number t _) =>
          match Decimal.readNat? t.toList with
          | some v =>
            if v < Nat.pow 2 64 then pure (toString v) else failWith ("Could not parse " ++ t)
          | none => failWith ("Could not parse " ++ t)
        | _ => failWith "Expected: literal int"
    let percent ← eatKeyword "PERCENT"
    let withTies ← eatKeywords ["WITH", "TIES"]
    pure ("TOP " ++ quantity ++ (if percent then " PERCENT" else "")
      ++ (if withTies then " WITH TIES" else ""))

/-- Reads one SELECT item: a wildcard with its options, or an expression with an optional
alias. -/
def readSelectItem : Bool → Nat → Nat → Reader SelectItem
  | _, 0, _ => outOfFuel
  | cb, n + 1, d => do
    let e ← readWildcardExpr (readQuery cb n) cb n d
    match e with
    | .qualifiedWildcard parts => pure (.qualifiedWildcard parts (← readWildcardOptions cb n d))
    | .wildcard => pure (.wildcard (← readWildcardOptions cb n d))
    | _ =>
      match e with
      | .ident ⟨v, none⟩ =>
        if v.toLower = "from" then failWith ("Expected an expression, found: " ++ v)
      | _ => pure ()
      match ← readOptionalAlias columnAliasReserved with
      | some a => pure (.aliased e a)
      | none => pure (.unnamed e)

/-- Reads the options after a wildcard (`ILIKE`, `EXCLUDE`, `EXCEPT`, `REPLACE`, `RENAME`),
as text. -/
def readWildcardOptions : Bool → Nat → Nat → Reader String
  | _, 0, _ => outOfFuel
  | cb, n + 1, d => do
    let mut out := ""
    let mut ilike := false
    if ← eatKeyword "ILIKE" then
      match ← next with
      | some (.singleQuoted s) =>
        out := out ++ " ILIKE '" ++ escapeQuoted '\'' s ++ "'"
        ilike := true
      | _ => failWith "Expected: ilike pattern"
    if !ilike then
      if ← eatKeyword "EXCLUDE" then
        if ← nextIs .lparen then
          let cols ← readParenIdents
          out := out ++ " EXCLUDE (" ++ renderIdents cols ++ ")"
        else
          let c ← readIdent
          out := out ++ " EXCLUDE " ++ c.render
    if ← eatKeyword "EXCEPT" then
      if ← nextIs .lparen then
        let cols ← readParenIdents
        out := out ++ " EXCEPT (" ++ renderIdents cols ++ ")"
      else
        let c ← readIdent
        out := out ++ " EXCEPT (" ++ c.render ++ ")"
    if ← eatKeyword "REPLACE" then
      if ← eat .lparen then
        let items ← commaSep do
          let e ← readExpr (readQuery cb n) cb n d
          let asKw ← eatKeyword "AS"
          let i ← readIdent
          pure (e.render ++ (if asKw then " AS " else " ") ++ i.render)
        expect .rparen ")"
        out := out ++ " REPLACE (" ++ commaList items ++ ")"
      else failWith "Expected: ( after REPLACE"
    if ← eatKeyword "RENAME" then
      if ← eat .lparen then
        let items ← commaSep readRenamePair
        expect .rparen ")"
        out := out ++ " RENAME (" ++ commaList items ++ ")"
      else
        out := out ++ " RENAME " ++ (← readRenamePair)
    pure out

/-- Reads a FROM item: a table factor and the joins after it. -/
def readFromItem : Bool → Nat → Nat → Reader FromItem
  | _, 0, _ => outOfFuel
  | cb, n + 1, d => do
    let rel ← readTableFactor cb n d
    let joins ← readJoins cb n d
    pure (.mk rel joins)

/-- Reads the joins after a table factor. A `GLOBAL` is taken even when no join follows it. -/
def readJoins : Bool → Nat → Nat → Reader (List Join)
  | _, 0, _ => outOfFuel
  | cb, n + 1, d => do
    let global ← eatKeyword "GLOBAL"
    if ← eatKeyword "CROSS" then
      let kind ← do
        if ← eatKeyword "JOIN" then pure JoinKind.cross
        else if ← eatKeyword "APPLY" then pure JoinKind.crossApply
        else failWith "Expected: JOIN or APPLY after CROSS"
      let rel ← readTableFactor cb n d
      return .mk rel kind .none global :: (← readJoins cb n d)
    if ← eatKeyword "OUTER" then
      expectKeyword "APPLY"
      let rel ← readTableFactor cb n d
      return .mk rel .outerApply .none global :: (← readJoins cb n d)
    if ← eatKeyword "ASOF" then
      expectKeyword "JOIN"
      let rel ← readTableFactor cb n d
      expectKeyword "MATCH_CONDITION"
      expect .lparen "("
      let m ← readExpr (readQuery cb n) cb n d
      expect .rparen ")"
      let c ← readJoinConstraint cb n d false
      return .mk rel (.asOf m.render) c global :: (← readJoins cb n d)
    let natural ← eatKeyword "NATURAL"
    match ← readJoinKind natural with
    | none => pure []
    | some kind =>
      let rel ← readTableFactor cb n d
      let c ← readJoinConstraint cb n d natural
      return .mk rel kind c global :: (← readJoins cb n d)

/-- Reads the condition of a join: `ON e`, `USING (cols)`, or nothing. -/
def readJoinConstraint : Bool → Nat → Nat → Bool → Reader JoinConstraint
  | _, 0, _, _ => outOfFuel
  | cb, n + 1, d, natural => do
    if natural then pure .natural
    else if ← eatKeyword "ON" then JoinConstraint.on <$> readExpr (readQuery cb n) cb n d
    else if ← eatKeyword "USING" then JoinConstraint.using <$> readParenIdents
    else pure .none

/-- Reads a table factor: a named table with optional arguments, alias and hints; a
subquery; a parenthesized join; or a table function. Parentheses around a lone table
factor are dropped, and an alias after them goes to the factor inside. -/
def readTableFactor : Bool → Nat → Nat → Reader TableFactor
  | _, 0, _ => outOfFuel
  | cb, n + 1, d => do
    if ← eatKeyword "LATERAL" then
      if ← eat .lparen then return ← readDerived cb n d true
      let name ← readObjectName
      expect .lparen "("
      let args ← if ← eat .rparen then pure [] else do
        let args ← commaSep (readCallArg (readQuery cb n) cb n d)
        expect .rparen ")"
        pure args
      let aliasName ← readTableAlias
      return .function name args aliasName
    if ← eatKeyword "TABLE" then
      expect .lparen "("
      let e ← readExpr (readQuery cb n) cb n d
      expect .rparen ")"
      let aliasName ← readTableAlias
      return .tableFunction e aliasName
    if ← eat .lparen then
      match ← attempt (readDerived cb n d false) with
      | some t => return ← readPivots cb n d t
      | none => pure ()
      let item ← readFromItem cb n d
      match item with
      | .mk rel joins =>
        if !joins.isEmpty then
          expect .rparen ")"
          return .nestedJoin item (← readTableAlias)
        match rel with
        | .nestedJoin .. =>
          expect .rparen ")"
          return .nestedJoin item (← readTableAlias)
        | _ =>
          expect .rparen ")"
          match ← readTableAlias with
          | none => return rel
          | some outer =>
            match rel with
            | .table name none args hints extras =>
              return .table name (some outer) args hints extras
            | .derived lat q none => return .derived lat q (some outer)
            | .function name args none => return .function name args (some outer)
            | .tableFunction e none => return .tableFunction e (some outer)
            | .nestedJoin i none => return .nestedJoin i (some outer)
            | .other text none after => return .other text (some outer) after
            | _ => failWith "duplicate alias"
    if ← eatKeyword "UNNEST" then
      expect .lparen "("
      let es ← commaSep (readExpr (readQuery cb n) cb n d)
      expect .rparen ")"
      let ordinality ← eatKeywords ["WITH", "ORDINALITY"]
      let aliasName ← readTableAlias
      -- a WITH that OFFSET does not follow is still taken
      let offset ← do
        if !(← eatKeyword "WITH") then pure ""
        else if !(← eatKeyword "OFFSET") then pure ""
        else match ← readOptionalAlias columnAliasReserved with
          | some o => pure (" WITH OFFSET AS " ++ o.render)
          | none => pure " WITH OFFSET"
      let text := "UNNEST(" ++ Expr.renderList es ++ ")"
        ++ (if ordinality then " WITH ORDINALITY" else "")
      return .other text aliasName offset
    if ← nextIsKeyword ["JSON_TABLE"] then
      if (← peekSecond) = some .lparen then
        advance
        advance
        let e ← readExpr (readQuery cb n) cb n d
        expect .comma ","
        let path ← readValue
        expectKeyword "COLUMNS"
        expect .lparen "("
        let cols ← commaSep (readJsonTableColumn cb n d)
        expect .rparen ")"
        expect .rparen ")"
        let aliasName ← readTableAlias
        return .other ("JSON_TABLE(" ++ e.render ++ ", " ++ path.render ++ " COLUMNS("
          ++ commaList cols ++ "))") aliasName ""
    let name ← readObjectName
    let partitions ← if ← eatKeyword "PARTITION" then readParenIdents else pure []
    let (args, settings) ← do
      if ← eat .lparen then
        if ← eat .rparen then pure (some [], none)
        else
          let (args, settings) ← readTableArgs cb n d []
          expect .rparen ")"
          pure (some args, settings)
      else pure (none, none)
    let withOrdinality ← eatKeywords ["WITH", "ORDINALITY"]
    let aliasName ← readTableAlias
    let hints ← do
      let saved ← get
      if ← eatKeyword "WITH" then
        if ← eat .lparen then
          let hs ← commaSep (readExpr (readQuery cb n) cb n d)
          expect .rparen ")"
          pure hs
        else
          set saved
          pure []
      else pure []
    let t ← readPivots cb n d (.table name aliasName args hints { partitions, settings, withOrdinality })
    if ← eatKeyword "MATCH_RECOGNIZE" then return ← readMatchRecognize cb n d t
    pure t

/-- Reads the arguments of a table function after its opening parenthesis, up to the
closing one: arguments joined by commas, where `SETTINGS k = v, ...` ends the list. -/
def readTableArgs : Bool → Nat → Nat → List CallArg → Reader (List CallArg × Option (List String))
  | _, 0, _, _ => outOfFuel
  | cb, n + 1, d, acc => do
    if let some settings ← readSettings then return (acc.reverse, some settings)
    let arg ← readCallArg (readQuery cb n) cb n d
    if ← eat .comma then readTableArgs cb n d (arg :: acc)
    else pure ((arg :: acc).reverse, none)

/-- Reads the `PIVOT (...)` and `UNPIVOT (...)` clauses after a table factor. -/
def readPivots : Bool → Nat → Nat → TableFactor → Reader TableFactor
  | _, 0, _, _ => outOfFuel
  | cb, n + 1, d, t => do
    if ← eatKeyword "PIVOT" then
      expect .lparen "("
      let aggs ← commaSep (readPivotAggregate cb n d)
      expectKeyword "FOR"
      let column ← readObjectName
      expectKeyword "IN"
      expect .lparen "("
      let source ← do
        if ← eatKeyword "ANY" then
          if ← eatKeywords ["ORDER", "BY"] then
            let items ← commaSep (readOrderExpr (readQuery cb n) cb n d)
            pure ("ANY ORDER BY " ++ OrderExpr.renderList items)
          else pure "ANY"
        else if ← nextIsKeyword ["SELECT", "WITH"] then Query.render <$> readQuery cb n d
        else commaList <$> commaSep (readExprWithAlias cb n d)
      expect .rparen ")"
      let default ← do
        if ← eatKeywords ["DEFAULT", "ON", "NULL"] then
          expect .lparen "("
          let e ← readExpr (readQuery cb n) cb n d
          expect .rparen ")"
          pure (" DEFAULT ON NULL (" ++ e.render ++ ")")
        else pure ""
      expect .rparen ")"
      let aliasName ← readTableAlias
      let text := t.render ++ " PIVOT(" ++ commaList aggs ++ " FOR " ++ renderName column
        ++ " IN (" ++ source ++ ")" ++ default ++ ")"
      return ← readPivots cb n d (.other text aliasName "")
    if ← eatKeyword "UNPIVOT" then
      expect .lparen "("
      let value ← readIdent
      expectKeyword "FOR"
      let name ← readIdent
      expectKeyword "IN"
      let cols ← readParenIdents
      expect .rparen ")"
      let aliasName ← readTableAlias
      let text := t.render ++ " UNPIVOT(" ++ value.render ++ " FOR " ++ name.render ++ " IN ("
        ++ renderIdents cols ++ "))"
      return ← readPivots cb n d (.other text aliasName "")
    return t

/-- Reads an aggregate of a PIVOT: a call of a named function, with an optional alias. -/
def readPivotAggregate : Bool → Nat → Nat → Reader String
  | _, 0, _ => outOfFuel
  | cb, n + 1, d => do
    match ← next with
    | some (.word v _) =>
      let call ← readFunction (readQuery cb n) cb n d [⟨v, none⟩]
      if ← eatKeyword "AS" then return call.render ++ " AS " ++ (← readIdent).render
      return call.render
    | _ => failWith "Expected: a function identifier"

/-- Reads an expression with an optional `AS alias`, as text. -/
def readExprWithAlias : Bool → Nat → Nat → Reader String
  | _, 0, _ => outOfFuel
  | cb, n + 1, d => do
    let e ← readExpr (readQuery cb n) cb n d
    if ← eatKeyword "AS" then return e.render ++ " AS " ++ (← readIdent).render
    return e.render

/-- Reads a column of `JSON_TABLE`: `NESTED [PATH] path COLUMNS (...)`,
`name FOR ORDINALITY`, or `name type [EXISTS] PATH path` with `ON EMPTY` and `ON ERROR`
handling. -/
def readJsonTableColumn : Bool → Nat → Nat → Reader String
  | _, 0, _ => outOfFuel
  | cb, n + 1, d => do
    if ← eatKeyword "NESTED" then
      let _ ← eatKeyword "PATH"
      let path ← readValue
      expectKeyword "COLUMNS"
      expect .lparen "("
      let cols ← commaSep (readJsonTableColumn cb n d)
      expect .rparen ")"
      return "NESTED PATH " ++ path.render ++ " COLUMNS (" ++ commaList cols ++ ")"
    let name ← readIdent
    if ← eatKeyword "FOR" then
      expectKeyword "ORDINALITY"
      return name.render ++ " FOR ORDINALITY"
    let t ← readDataType (Expr.render <$> readExpr (readQuery cb n) cb n d)
    let mustExist ← eatKeyword "EXISTS"
    expectKeyword "PATH"
    let path ← readValue
    let handling ← fun ts => readJsonErrorHandling (ts.length + 1) ts
    return name.render ++ " " ++ t ++ (if mustExist then " EXISTS" else "") ++ " PATH "
      ++ path.render ++ handling

/-- Reads the `MATCH_RECOGNIZE (...)` after the table factor `t`, as text: partitions,
ordering, measures, rows per match, where to resume after a match, the pattern and the
symbol definitions. The text writes `AFTER MATCH SKIP  TO NEXT ROW` with two spaces. -/
def readMatchRecognize : Bool → Nat → Nat → TableFactor → Reader TableFactor
  | _, 0, _, _ => outOfFuel
  | cb, n + 1, d, t => do
    expect .lparen "("
    let partitionBy ← do
      if ← eatKeywords ["PARTITION", "BY"] then
        pure ("PARTITION BY " ++ Expr.renderList (← commaSep (readExpr (readQuery cb n) cb n d))
          ++ " ")
      else pure ""
    let orderBy ← do
      if ← eatKeywords ["ORDER", "BY"] then
        pure ("ORDER BY "
          ++ OrderExpr.renderList (← commaSep (readOrderExpr (readQuery cb n) cb n d)) ++ " ")
      else pure ""
    let measures ← do
      if ← eatKeyword "MEASURES" then
        let ms ← commaSep do
          let e ← readExpr (readQuery cb n) cb n d
          let _ ← eatKeyword "AS"
          pure (e.render ++ " AS " ++ (← readIdent).render)
        pure ("MEASURES " ++ commaList ms ++ " ")
      else pure ""
    let rowsPerMatch ← do
      if ← eatKeywords ["ONE", "ROW", "PER", "MATCH"] then pure "ONE ROW PER MATCH "
      else if ← eatKeywords ["ALL", "ROWS", "PER", "MATCH"] then
        if ← eatKeywords ["SHOW", "EMPTY", "MATCHES"] then
          pure "ALL ROWS PER MATCH SHOW EMPTY MATCHES "
        else if ← eatKeywords ["OMIT", "EMPTY", "MATCHES"] then
          pure "ALL ROWS PER MATCH OMIT EMPTY MATCHES "
        else if ← eatKeywords ["WITH", "UNMATCHED", "ROWS"] then
          pure "ALL ROWS PER MATCH WITH UNMATCHED ROWS "
        else pure "ALL ROWS PER MATCH "
      else pure ""
    let afterMatch ← do
      if ← eatKeywords ["AFTER", "MATCH", "SKIP"] then
        let skip ← do
          if ← eatKeywords ["PAST", "LAST", "ROW"] then pure "PAST LAST ROW"
          else if ← eatKeywords ["TO", "NEXT", "ROW"] then pure " TO NEXT ROW"
          else if ← eatKeywords ["TO", "FIRST"] then pure ("TO FIRST " ++ (← readIdent).render)
          else if ← eatKeywords ["TO", "LAST"] then pure ("TO LAST " ++ (← readIdent).render)
          else failWith "Expected: after match skip option"
        pure ("AFTER MATCH SKIP " ++ skip ++ " ")
      else pure ""
    expectKeyword "PATTERN"
    expect .lparen "("
    let pattern ← fun ts => readPatternFrom (ts.length + 1) ts
    expect .rparen ")"
    expectKeyword "DEFINE"
    let symbols ← commaSep do
      let symbol ← readIdent
      expectKeyword "AS"
      pure (symbol.render ++ " AS " ++ (← readExpr (readQuery cb n) cb n d).render)
    expect .rparen ")"
    let aliasName ← readTableAlias
    return .other (t.render ++ " MATCH_RECOGNIZE(" ++ partitionBy ++ orderBy ++ measures
      ++ rowsPerMatch ++ afterMatch ++ "PATTERN (" ++ pattern ++ ") DEFINE " ++ commaList symbols
      ++ ")") aliasName ""

/-- Reads a subquery in FROM after its opening parenthesis, with its alias. -/
def readDerived : Bool → Nat → Nat → Bool → Reader TableFactor
  | _, 0, _, _ => outOfFuel
  | cb, n + 1, d, lateral => do
    let q ← readQuery cb n d
    expect .rparen ")"
    let aliasName ← readTableAlias
    pure (.derived lateral q aliasName)

/-- Reads GROUP BY: `ALL` or expressions, then `WITH ROLLUP | CUBE | TOTALS` modifiers. -/
def readGroupBy : Bool → Nat → Nat → Reader GroupBy
  | _, 0, _ => outOfFuel
  | cb, n + 1, d => do
    if ← eatKeywords ["GROUP", "BY"] then
      let items ←
        if ← eatKeyword "ALL" then pure none else some <$> commaSep (readGroupItem cb n d)
      let mods ← fun ts => readGroupModifiers (ts.length + 1) ts
      match items with
      | none => pure (.all mods)
      | some es => pure (.exprs es mods)
    else pure (.exprs [] [])

/-- Reads `WITH ROLLUP`, `WITH CUBE` and `WITH TOTALS` modifiers. -/
def readGroupModifiers : Nat → Reader (List String)
  | 0 => pure []
  | k + 1 => do
    if ← eatKeyword "WITH" then
      match ← eatOneOf ["ROLLUP", "CUBE", "TOTALS"] with
      | some m => return ("WITH " ++ m) :: (← readGroupModifiers k)
      | none => failWith "Expected: one of ROLLUP or CUBE or TOTALS"
    else return []

/-- Reads one GROUP BY item: `GROUPING SETS`, `CUBE`, `ROLLUP`, `()` or an expression. -/
def readGroupItem : Bool → Nat → Nat → Reader Expr
  | _, 0, _ => outOfFuel
  | cb, n + 1, d => do
    if ← eatKeywords ["GROUPING", "SETS"] then
      expect .lparen "("
      let sets ← commaSep (readGroupSet cb n d false)
      expect .rparen ")"
      return .keywordCall "GROUPING SETS " (sets.mapIdx fun i _ => if i = 0 then "" else ", ")
        (sets.map Expr.tuple)
    for kw in ["CUBE", "ROLLUP"] do
      if ← eatKeyword kw then
        expect .lparen "("
        let sets ← commaSep (readGroupSet cb n d true)
        expect .rparen ")"
        return .keywordCall (kw ++ " ") (sets.mapIdx fun i _ => if i = 0 then "" else ", ")
          (sets.map fun s => match s with | [e] => e | _ => .tuple s)
    let saved ← get
    if ← eat .lparen then
      if ← eat .rparen then return .tuple []
      set saved
    readExpr (readQuery cb n) cb n d

/-- Reads one set of a grouping list: `(e, ...)`, `()`, or, where `single`, a lone
expression. -/
def readGroupSet : Bool → Nat → Nat → Bool → Reader (List Expr)
  | _, 0, _, _ => outOfFuel
  | cb, n + 1, d, single => do
    if ← eat .lparen then
      if ← eat .rparen then return []
      let es ← commaSep (readExpr (readQuery cb n) cb n d)
      expect .rparen ")"
      return es
    if single then return [← readExpr (readQuery cb n) cb n d]
    failWith "Expected: ("

end

end CsvQuery.Sql
