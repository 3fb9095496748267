import CsvQuery.Sql.Token
import CsvQuery.Sql.Syntax
import CsvQuery.Sql.Keyword
import CsvQuery.Text.Decimal

/-!
# Token readers

The reading monad for SQL statements and its small readers: a reader consumes tokens from
the front of the remaining list and either yields a value or fails. Failing with
`malformed` is an ordinary syntax error; `tooDeep` says the text nests deeper than the
reader allows. `attempt` tries a reader and, on a syntax error, puts the tokens back; it
passes `tooDeep` on, so a nesting limit is never mistaken for a wrong guess.

The readers here need no expressions: identifiers and dotted names, aliases, data type
names, literal values, and the clauses built from them.
-/

namespace CsvQuery.Sql

/-- Why SQL text could not be read. -/
inductive ReadError where
  /-- The text is not a statement of the accepted grammar. -/
  | malformed (detail : String)
  /-- The text nests deeper than the reader's budget. -/
  | tooDeep
deriving DecidableEq, Repr, Inhabited

/-- A reader of a value from the front of a token list. -/
abbrev Reader := StateT (List Token) (Except ReadError)

namespace Reader

variable {α : Type}

/-- Fails with a syntax error. -/
def failWith (detail : String) : Reader α := throw (.malformed detail)

/-- The next token, not consumed. -/
def peek : Reader (Option Token) := fun ts => .ok (ts.head?, ts)

/-- The token after the next one, not consumed. -/
def peekSecond : Reader (Option Token) := fun ts => .ok ((ts.drop 1).head?, ts)

/-- Consumes and returns the next token. -/
def next : Reader (Option Token) := fun ts =>
  match ts with
  | [] => .ok (none, [])
  | t :: rest => .ok (some t, rest)

/-- Consumes the next token, whatever it is. -/
def advance : Reader Unit := fun ts => .ok ((), ts.drop 1)

/-- Consumes the next token if it is `t`. -/
def eat (t : Token) : Reader Bool := fun ts =>
  match ts with
  | u :: rest => if u = t then .ok (true, rest) else .ok (false, ts)
  | [] => .ok (false, [])

/-- Whether the next token is `t`. -/
def nextIs (t : Token) : Reader Bool := fun ts => .ok (ts.head? = some t, ts)

/-- Consumes `t` or fails. -/
def expect (t : Token) (what : String) : Reader Unit := do
  if ← eat t then pure () else failWith ("Expected: " ++ what)

/-- Whether the next token is one of the keywords `kws`. -/
def nextIsKeyword (kws : List String) : Reader Bool := fun ts =>
  .ok ((ts.head?.map fun t => t.isAnyKeyword kws).getD false, ts)

/-- Consumes the keyword `kw` if it is next. -/
def eatKeyword (kw : String) : Reader Bool := fun ts =>
  match ts with
  | t :: rest => if t.isKeyword kw then .ok (true, rest) else .ok (false, ts)
  | [] => .ok (false, [])

/-- Consumes the keywords `kws` if all of them come next, in order; otherwise nothing. -/
def eatKeywords (kws : List String) : Reader Bool := fun ts =>
  if kws.length ≤ ts.length && (ts.zip kws).all (fun p => p.1.isKeyword p.2) then
    .ok (true, ts.drop kws.length)
  else .ok (false, ts)

/-- Consumes the next token if it is one of the keywords `kws`, and says which. -/
def eatOneOf (kws : List String) : Reader (Option String) := fun ts =>
  match ts with
  | t :: rest =>
    match kws.find? t.isKeyword with
    | some k => .ok (some k, rest)
    | none => .ok (none, ts)
  | [] => .ok (none, [])

/-- Consumes the next token if it is one of the keywords `kws`; says whether it was. -/
def eatAnyKeyword (kws : List String) : Reader Bool := fun ts =>
  match ts with
  | t :: rest => if t.isAnyKeyword kws then .ok (true, rest) else .ok (false, ts)
  | [] => .ok (false, [])

/-- Tries the readers in turn until one says yes, and says whether one did. A reader that
says no must leave the tokens as they were; the ones after a yes are not run. -/
def anyOf : List (Reader Bool) → Reader Bool
  | [] => pure false
  | p :: ps => do if ← p then pure true else anyOf ps

/-- Consumes the keyword `kw` or fails. -/
def expectKeyword (kw : String) : Reader Unit := do
  if ← eatKeyword kw then pure () else failWith ("Expected: " ++ kw)

/-- Runs `p`; on a syntax error restores the tokens and yields `none`. -/
def attempt (p : Reader α) : Reader (Option α) := fun ts =>
  match p ts with
  | .ok (a, rest) => .ok (some a, rest)
  | .error .tooDeep => .error .tooDeep
  | .error (.malformed _) => .ok (none, ts)

/-- Reads `p`, then again after each separator `sep`, at most `bound` times. -/
def sepByFrom (sep : Token) (p : Reader α) : Nat → Reader (List α)
  | 0 => failWith "list longer than the text"
  | k + 1 => do
    let x ← p
    if ← eat sep then return x :: (← sepByFrom sep p k) else return [x]

/-- Reads one or more `p` separated by commas. Each repetition consumes a comma, so the
token count bounds the list. -/
def commaSep (p : Reader α) : Reader (List α) := fun ts => sepByFrom .comma p (ts.length + 1) ts

end Reader

open Reader

/-- The failure of a reader whose fuel is spent. -/
def outOfFuel {α : Type} : Reader α := failWith "statement too long"

/-- The text of a token as it was written. -/
def Token.render : Token → String
  | .word v q => Ident.render ⟨v, q⟩
  | .number t l => (Literal.number t l).render
  | .singleQuoted s => (Literal.singleQuoted s).render
  | .nationalString s => (Literal.nationalString s).render
  | .hexString s => (Literal.hexString s).render
  | .escapedString s => (Literal.escapedString s).render
  | .unicodeString s => (Literal.unicodeString s).render
  | .literal s => s
  | .lparen => "(" | .rparen => ")" | .comma => "," | .semicolon => ";" | .period => "."
  | .lbracket => "[" | .rbracket => "]" | .eq => "=" | .doubleEq => "==" | .neq => "<>"
  | .lt => "<" | .le => "<=" | .gt => ">" | .ge => ">=" | .spaceship => "<=>"
  | .plus => "+" | .minus => "-" | .mul => "*" | .div => "/" | .intDiv => "//"
  | .modulo => "%" | .concat => "||" | .pipe => "|" | .ampersand => "&" | .caret => "^"
  | .shiftLeft => "<<" | .shiftRight => ">>" | .doubleColon => "::" | .colon => ":"
  | .assignment => ":=" | .rightArrow => "=>"
  | .other s => s

/-- The text of a token with quotes around its content as it reads, no escape doubled:
how operator names and the modifiers of a type name are written back. -/
def Token.plainText : Token → String
  | .word v (some q) => q.toString ++ v ++ q.toString
  | .singleQuoted s => "'" ++ s ++ "'"
  | .escapedString s => "E'" ++ s ++ "'"
  | .unicodeString s => "U&'" ++ s ++ "'"
  | t => t.render

/-- The identifier a word or a single-quoted string stands for. -/
def Token.ident? : Token → Option Ident
  | .word v q => some ⟨v, q⟩
  | .singleQuoted s => some ⟨s, some '\''⟩
  | _ => none

/-- Reads an identifier: a word, keywords included, or a single-quoted string. -/
def readIdent : Reader Ident := do
  match (← next).bind Token.ident? with
  | some i => pure i
  | none => failWith "Expected: identifier"

/-- Reads a dotted name `a.b.c`. -/
def readObjectName : Reader (List Ident) := fun ts => sepByFrom .period readIdent (ts.length + 1) ts

/-- Reads `(a, b, ...)`, one or more identifiers in parentheses. -/
def readParenIdents : Reader (List Ident) := do
  expect .lparen "a list of columns in parentheses"
  let cols ← commaSep readIdent
  expect .rparen ")"
  pure cols

/-- Reads an optional alias. After `AS` any word is taken; without it, a word that is one of
the `reserved` keywords is left for the clause it starts. -/
def readOptionalAlias (reserved : List String) : Reader (Option Ident) := do
  let afterAs ← eatKeyword "AS"
  match ← peek with
  | some (.word v q) =>
    if afterAs || q.isSome || !(reserved.any (spells v ·)) then
      advance
      pure (some ⟨v, q⟩)
    else pure none
  | some (.singleQuoted s) =>
    advance
    pure (some ⟨s, some '\''⟩)
  | _ => if afterAs then failWith "Expected: an identifier after AS" else pure none

/-- Keywords that end a table factor instead of naming it. -/
def tableAliasReserved : List String :=
  ["WITH", "EXPLAIN", "ANALYZE", "SELECT", "WHERE", "GROUP", "SORT", "HAVING", "ORDER", "PIVOT",
   "UNPIVOT", "TOP", "LATERAL", "VIEW", "LIMIT", "OFFSET", "FETCH", "UNION", "EXCEPT",
   "INTERSECT", "ON", "JOIN", "INNER", "CROSS", "FULL", "LEFT", "RIGHT", "NATURAL", "USING",
   "CLUSTER", "DISTRIBUTE", "GLOBAL", "OUTER", "SET", "QUALIFY", "WINDOW", "END", "FOR",
   "PARTITION", "PREWHERE", "SETTINGS", "FORMAT", "START", "CONNECT", "MATCH_RECOGNIZE"]

/-- Keywords that end a SELECT item instead of naming it. -/
def columnAliasReserved : List String :=
  ["WITH", "EXPLAIN", "ANALYZE", "SELECT", "WHERE", "GROUP", "SORT", "HAVING", "ORDER", "TOP",
   "LATERAL", "VIEW", "LIMIT", "OFFSET", "FETCH", "UNION", "EXCEPT", "INTERSECT", "CLUSTER",
   "DISTRIBUTE", "RETURNING", "FROM", "INTO", "END"]

/-- Reads an optional table alias with optional column names. -/
def readTableAlias : Reader (Option TableAlias) := do
  match ← readOptionalAlias tableAliasReserved with
  | some name =>
    let cols ← if ← nextIs .lparen then readParenIdents else pure []
    pure (some (.mk name cols))
  | none => pure none

/-- Reads an unsigned integer written as a number token of decimal digits whose value fits
in 64 bits. -/
def readLiteralUint : Reader Nat := do
  match ← next with
  | some (.number t _) =>
    match Decimal.readNat? t.toList with
    | some v => if v < Nat.pow 2 64 then pure v else failWith ("Could not parse '" ++ t ++ "' as u64")
    | none => failWith ("Could not parse '" ++ t ++ "' as u64")
  | _ => failWith "Expected: literal int"

/-- Reads a literal string: a quoted string, a quoted word, or a plain word that is not a
keyword. -/
def readLiteralString : Reader String := do
  match ← next with
  | some (.word v none) =>
    if Keyword.isKeyword v then failWith "Expected: literal string" else pure v
  | some (.word v (some _)) => pure v
  | some (.singleQuoted s) => pure s
  | some (.escapedString s) => pure s
  | some (.unicodeString s) => pure s
  | _ => failWith "Expected: literal string"

/-- Reads a literal value: a number, a string, a boolean, `NULL` or a placeholder. -/
def readValue : Reader Literal := do
  match ← next with
  | some (.number t l) => pure (.number t l)
  | some (.singleQuoted s) => pure (.singleQuoted s)
  | some (.nationalString s) => pure (.nationalString s)
  | some (.hexString s) => pure (.hexString s)
  | some (.escapedString s) => pure (.escapedString s)
  | some (.unicodeString s) => pure (.unicodeString s)
  | some (.literal s) => pure (.raw s)
  | some (.word v none) =>
    if spells v "TRUE" then pure (.boolean true)
    else if spells v "FALSE" then pure (.boolean false)
    else if spells v "NULL" then pure .null
    else failWith "Expected: a concrete value"
  | some (.word v (some '"')) => pure (.raw ("\"" ++ escapeQuoted '"' v ++ "\""))
  | some (.word v (some '\'')) => pure (.singleQuoted v)
  | some .colon =>
    match ← next with
    | some (.word v _) => pure (.raw (":" ++ v))
    | some (.number t false) => pure (.raw (":" ++ t))
    | _ => failWith "Expected: placeholder"
  | some (.other "@") =>
    match ← next with
    | some (.word v _) => pure (.raw ("@" ++ v))
    | some (.number t false) => pure (.raw ("@" ++ t))
    | _ => failWith "Expected: placeholder"
  | some (.other s) =>
    if s.startsWith "?" || s.startsWith "$" then pure (.raw s) else failWith "Expected: a value"
  | _ => failWith "Expected: a value"

/-- Reads the quantifier after `UNION`, `EXCEPT` or `INTERSECT`, as text with a leading
space. -/
def readSetQuantifier (op : SetOp) : Reader String := do
  if op = .union then
    if ← eatKeywords ["DISTINCT", "BY", "NAME"] then return " DISTINCT BY NAME"
    if ← eatKeywords ["BY", "NAME"] then return " BY NAME"
    if ← eatKeyword "ALL" then
      if ← eatKeywords ["BY", "NAME"] then return " ALL BY NAME"
      return " ALL"
    if ← eatKeyword "DISTINCT" then return " DISTINCT"
    return ""
  else
    if ← eatKeyword "ALL" then return " ALL"
    if ← eatKeyword "DISTINCT" then return " DISTINCT"
    return ""

/-- The set operator a token starts, with its binding power. -/
def setOpOf : Option Token → Option (SetOp × Nat)
  | some t =>
    if t.isKeyword "UNION" then some (.union, 10)
    else if t.isKeyword "EXCEPT" then some (.except, 10)
    else if t.isKeyword "INTERSECT" then some (.intersect, 20)
    else none
  | none => none

/-- Reads `TABLE name` as a query body. Three tokens are taken whether or not the name is
dotted. -/
def readTableBody : Reader SetExpr := do
  let t1 ← next
  let t2 ← next
  let t3 ← next
  if t2 = some .period then
    match t1, t3 with
    | some (.word s _), some (.word t _) => pure (.table (s ++ "." ++ t))
    | some (.word _ _), _ => failWith "Expected: Table name"
    | _, _ => failWith "Expected: Schema name"
  else
    match t1 with
    | some (.word t _) => pure (.table t)
    | _ => failWith "Expected: Table name"

/-- Reads `FETCH { FIRST | NEXT } [n [PERCENT]] { ROW | ROWS } { ONLY | WITH TIES }`, after
`FETCH`, as the text of the clause: `FETCH FIRST [n [PERCENT]] ROWS ONLY | WITH TIES`. -/
def readFetch : Reader String := do
  if (← eatOneOf ["FIRST", "NEXT"]).isNone then failWith "Expected: one of FIRST or NEXT"
  let quantity ← do
    if (← eatOneOf ["ROW", "ROWS"]).isSome then pure ""
    else
      let v ← readValue
      let p ← eatKeyword "PERCENT"
      if (← eatOneOf ["ROW", "ROWS"]).isNone then failWith "Expected: one of ROW or ROWS"
      pure (v.render ++ (if p then " PERCENT" else "") ++ " ")
  let withTies ← do
    if ← eatKeyword "ONLY" then pure false
    else if ← eatKeywords ["WITH", "TIES"] then pure true
    else failWith "Expected: one of ONLY or WITH TIES"
  pure ("FETCH FIRST " ++ quantity ++ "ROWS " ++ (if withTies then "WITH TIES" else "ONLY"))

/-- Reads the optional `(name)` after `FOR XML RAW` or `FOR XML PATH`, as its text. -/
def readOptionalElementName : Reader String := do
  if ← eat .lparen then
    let name ← readLiteralString
    expect .rparen ")"
    pure ("('" ++ name ++ "')")
  else pure ""

/-- The options of `FOR XML`: `ELEMENTS`, `BINARY BASE64`, a `ROOT` name and `TYPE`. -/
structure XmlOptions where
  elements : Bool := false
  binaryBase64 : Bool := false
  root : Option String := none
  type : Bool := false

/-- The text of the options of `FOR XML`, each after a comma, in a fixed order. -/
def XmlOptions.render (o : XmlOptions) : String :=
  (if o.binaryBase64 then ", BINARY BASE64" else "") ++ (if o.type then ", TYPE" else "")
    ++ (match o.root with | some r => ", ROOT('" ++ r ++ "')" | none => "")
    ++ (if o.elements then ", ELEMENTS" else "")

/-- Reads the options of `FOR XML`, each after a comma: `ELEMENTS`, `BINARY BASE64`,
`ROOT('name')` or `TYPE`. A comma before anything else is taken alone. -/
def readXmlOptionsFrom : Nat → XmlOptions → Reader XmlOptions
  | 0, o => pure o
  | k + 1, o => do
    if ← eat .comma then
      let o ← do
        if ← eatKeyword "ELEMENTS" then pure { o with elements := true }
        else if ← eatKeyword "BINARY" then
          expectKeyword "BASE64"
          pure { o with binaryBase64 := true }
        else if ← eatKeyword "ROOT" then
          expect .lparen "("
          let r ← readLiteralString
          expect .rparen ")"
          pure { o with root := some r }
        else if ← eatKeyword "TYPE" then pure { o with type := true }
        else pure o
      readXmlOptionsFrom k o
    else pure o

/-- The options of `FOR JSON`: a `ROOT` name, `INCLUDE_NULL_VALUES` and
`WITHOUT_ARRAY_WRAPPER`. -/
structure JsonOptions where
  root : Option String := none
  includeNullValues : Bool := false
  withoutArrayWrapper : Bool := false

/-- The text of the options of `FOR JSON`, each after a comma, in a fixed order. -/
def JsonOptions.render (o : JsonOptions) : String :=
  (match o.root with | some r => ", ROOT('" ++ r ++ "')" | none => "")
    ++ (if o.includeNullValues then ", INCLUDE_NULL_VALUES" else "")
    ++ (if o.withoutArrayWrapper then ", WITHOUT_ARRAY_WRAPPER" else "")

/-- Reads the options of `FOR JSON`, each after a comma: `ROOT[('name')]`,
`INCLUDE_NULL_VALUES` or `WITHOUT_ARRAY_WRAPPER`. -/
def readJsonOptionsFrom : Nat → JsonOptions → Reader JsonOptions
  | 0, o => pure o
  | k + 1, o => do
    if ← eat .comma then
      let o ← do
        if ← eatKeyword "ROOT" then
          if ← eat .lparen then
            let r ← readLiteralString
            expect .rparen ")"
            pure { o with root := some r }
          else pure o
        else if ← eatKeyword "INCLUDE_NULL_VALUES" then pure { o with includeNullValues := true }
        else if ← eatKeyword "WITHOUT_ARRAY_WRAPPER" then
          pure { o with withoutArrayWrapper := true }
        else pure o
      readJsonOptionsFrom k o
    else pure o

/-- Reads the rest of a `FOR XML | JSON | BROWSE` clause after `FOR`, which asks for the
result in another form, as its text; `none` if none of these follows. -/
def readForClause : Reader (Option String) := do
  if ← eatKeyword "XML" then
    let mode ← do
      if ← eatKeyword "RAW" then pure ("RAW" ++ (← readOptionalElementName))
      else if ← eatKeyword "AUTO" then pure "AUTO"
      else if ← eatKeyword "EXPLICIT" then pure "EXPLICIT"
      else if ← eatKeyword "PATH" then pure ("PATH" ++ (← readOptionalElementName))
      else failWith "Expected FOR XML [RAW | AUTO | EXPLICIT | PATH ]"
    let opts ← fun ts => readXmlOptionsFrom (ts.length + 1) {} ts
    return some ("FOR XML " ++ mode ++ opts.render)
  if ← eatKeyword "JSON" then
    let mode ← match ← eatOneOf ["AUTO", "PATH"] with
      | some m => pure m
      | none => failWith "Expected FOR JSON [AUTO | PATH ]"
    let opts ← fun ts => readJsonOptionsFrom (ts.length + 1) {} ts
    return some ("FOR JSON " ++ mode ++ opts.render)
  if ← eatKeyword "BROWSE" then return some "FOR BROWSE"
  return none

/-- Reads locking clauses `FOR UPDATE | SHARE [OF name] [NOWAIT | SKIP LOCKED]`. A
`FOR XML`, `FOR JSON` or `FOR BROWSE` clause ends them, and is returned as its text. -/
def readLocksFrom : Nat → Reader (List Lock × Option String)
  | 0 => pure ([], none)
  | k + 1 => do
    if ← eatKeyword "FOR" then
      if let some c ← readForClause then return ([], some c)
      let share ← match ← eatOneOf ["UPDATE", "SHARE"] with
        | some "SHARE" => pure true
        | some _ => pure false
        | none => failWith "Expected: one of UPDATE or SHARE"
      let ofName ← if ← eatKeyword "OF" then some <$> readObjectName else pure none
      let nb ← do
        if ← eatKeyword "NOWAIT" then pure (some "NOWAIT")
        else if ← eatKeywords ["SKIP", "LOCKED"] then pure (some "SKIP LOCKED")
        else pure none
      let (rest, c) ← readLocksFrom k
      return (.mk share ofName nb :: rest, c)
    else return ([], none)

/-- Reads an optional `SETTINGS key = value, ...`, each entry as its text. -/
def readSettings : Reader (Option (List String)) := do
  if ← eatKeyword "SETTINGS" then
    some <$> commaSep do
      let key ← readIdent
      expect .eq "="
      let v ← readValue
      pure (key.render ++ " = " ++ v.render)
  else pure none

/-- Reads the join operator at the front, if any; `natural` says `NATURAL` came before. -/
def readJoinKind (natural : Bool) : Reader (Option JoinKind) := do
  match ← peek with
  | some t =>
    if t.isKeyword "INNER" || t.isKeyword "JOIN" then
      let _ ← eatKeyword "INNER"
      expectKeyword "JOIN"
      return some .inner
    if t.isKeyword "LEFT" || t.isKeyword "RIGHT" then
      advance
      let left := t.isKeyword "LEFT"
      match ← eatOneOf ["OUTER", "SEMI", "ANTI", "JOIN"] with
      | some "OUTER" =>
        expectKeyword "JOIN"
        return some (if left then .leftOuter else .rightOuter)
      | some "SEMI" =>
        expectKeyword "JOIN"
        return some (if left then .leftSemi else .rightSemi)
      | some "ANTI" =>
        expectKeyword "JOIN"
        return some (if left then .leftAnti else .rightAnti)
      | some _ => return some (if left then .leftOuter else .rightOuter)
      | none => failWith "expected OUTER, SEMI, ANTI or JOIN"
    if t.isKeyword "FULL" then
      advance
      let _ ← eatKeyword "OUTER"
      expectKeyword "JOIN"
      return some .fullOuter
    if t.isKeyword "OUTER" then failWith "Expected: LEFT, RIGHT, or FULL"
    if natural then failWith "Expected: a join type after NATURAL"
    return none
  | none => if natural then failWith "Expected: a join type after NATURAL" else return none

/-- Reads `ident => e`-style name and operator of a named argument. -/
def readArgName : Reader (Ident × String) := do
  let name ← readIdent
  match ← next with
  | some .rightArrow => pure (name, "=>")
  | some .assignment => pure (name, ":=")
  | _ => failWith "Expected: argument operator"

/-- Reads the parts after `first` of a dotted name in an expression: each is a word or a
single-quoted string. -/
def readDottedFrom : Nat → List Ident → Reader (List Ident)
  | 0, acc => pure acc
  | k + 1, acc => do
    if ← eat .period then
      match ← next with
      | some (.word v q) => readDottedFrom k (acc ++ [⟨v, q⟩])
      | some (.singleQuoted s) => readDottedFrom k (acc ++ [⟨s, some '\''⟩])
      | some .mul => failWith "Expected: an identifier after '.'"
      | _ => failWith "Expected: an identifier or a '*' after '.'"
    else pure acc

/-- Reads the rest of a qualified wildcard `a.b.*` after its first part: `some parts` if the
dotted name ends in `*`, `none` if it ends without one. -/
def readWildcardFrom : Nat → List Ident → Reader (Option (List Ident))
  | 0, _ => pure none
  | k + 1, acc => do
    if ← eat .period then
      match ← next with
      | some .mul => pure (some acc)
      | some t =>
        match t.ident? with
        | some i => readWildcardFrom k (acc ++ [i])
        | none => failWith "Expected: an identifier or a '*' after '.'"
      | none => failWith "Expected: an identifier or a '*' after '.'"
    else pure none

/-- Reads `a AS b` inside a wildcard's `RENAME`. -/
def readRenamePair : Reader String := do
  let a ← readIdent
  expectKeyword "AS"
  let b ← readIdent
  pure (a.render ++ " AS " ++ b.render)

/-! ## Writing back tokens -/

/-- Whether a space stands between two tokens written back: none after an opening bracket
or a period, and none before a closing bracket, a comma or a period. -/
def spaceBetween (a b : Token) : Bool :=
  !(a = .lparen || a = .lbracket || a = .period
    || b = .rparen || b = .rbracket || b = .comma || b = .period)

/-- Tokens written back one after another. -/
def renderTokens : List Token → String
  | [] => ""
  | [t] => t.render
  | a :: b :: rest => a.render ++ (if spaceBetween a b then " " else "") ++ renderTokens (b :: rest)

/-- Skips the tokens of a statement, up to the `;` that ends it outside parentheses. -/
def skipStatement : Nat → List Token → List Token
  | _, [] => []
  | depth, t :: rest =>
    match t with
    | .semicolon => if depth = 0 then t :: rest else skipStatement depth rest
    | .lparen => skipStatement (depth + 1) rest
    | .rparen => skipStatement (depth - 1) rest
    | _ => skipStatement depth rest

end CsvQuery.Sql
