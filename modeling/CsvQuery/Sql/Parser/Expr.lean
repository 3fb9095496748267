import CsvQuery.Sql.DataType

/-!
# Reading SQL expressions

The recursive-descent readers below build expression trees of `CsvQuery.Sql.Syntax` from
tokens: operands, operators by binding power, predicates, function calls, `CASE`, casts,
literals of arrays, dictionaries and maps, and the ORDER BY entries that calls and windows
hold.

Expressions are read by binding power, loosest first: `OR` 5, `AND` 10, prefix `NOT` 15,
`IS` 17, `LIKE` 19, comparisons, `IN` and `BETWEEN` 20, `|` 21, `^` and shifts 22, `&` 23,
`XOR` 24, `+ -` 30, `* / % ||` and prefix signs 40, `::`, postfix `!` and subscripts 50.
An operator takes as its right operand everything that binds tighter than itself, so
operators of one power group to the left.

An expression may hold a subquery. The readers take the reader of subqueries, `sub`, as a
parameter: given the levels of nesting left, it reads one query. So expressions and queries
are read by two separate groups of readers, and the query readers hand themselves in.

Every reader takes a fuel argument `n`, and its calls get `n - 1`; each subexpression takes
one level `d` of the nesting budget, and text nested deeper is refused with `tooDeep`.
-/

namespace CsvQuery.Sql

open Reader

/-- The binding power of the operator at the front of `ts`; `0` if none is there. -/
def precedenceOf : List Token → Nat
  | [] => 0
  | t :: rest =>
    match t with
    | .word _ none =>
      if t.isKeyword "OR" then 5
      else if t.isKeyword "AND" then 10
      else if t.isKeyword "XOR" then 24
      else if t.isKeyword "AT" then
        match rest with
        | a :: b :: _ => if a.isKeyword "TIME" && b.isKeyword "ZONE" then 41 else 0
        | _ => 0
      else if t.isKeyword "NOT" then
        match rest with
        | a :: _ =>
          if a.isAnyKeyword ["IN", "BETWEEN"] then 20
          else if a.isAnyKeyword ["LIKE", "ILIKE", "RLIKE", "REGEXP", "SIMILAR"] then 19
          else 0
        | [] => 0
      else if t.isKeyword "IS" then 17
      else if t.isAnyKeyword ["IN", "BETWEEN", "OPERATOR"] then 20
      else if t.isAnyKeyword ["LIKE", "ILIKE", "RLIKE", "REGEXP", "SIMILAR"] then 19
      else if t.isKeyword "DIV" then 40
      else 0
    | .eq | .lt | .le | .neq | .gt | .ge | .doubleEq | .spaceship => 20
    | .pipe => 21
    | .caret | .shiftLeft | .shiftRight => 22
    | .ampersand => 23
    | .plus | .minus => 30
    | .mul | .div | .intDiv | .modulo | .concat => 40
    | .doubleColon | .lbracket => 50
    | .other s =>
      if ["~", "~*", "!~", "!~*", "~~", "~~*", "!~~", "!~~*"].contains s then 20
      else if s = "#" then 22
      else if s = "!" || s = "&&" || s = "^@" then 50
      else if ["->", "->>", "#>", "#>>", "@>", "<@", "#-", "@?", "@@"].contains s then 16
      else 0
    | _ => 0

/-- The binary operator a token stands for between two operands. -/
def binOpOf (t : Token) : Option BinOp :=
  match t with
  | .spaceship => some .spaceship
  | .eq | .doubleEq => some .eq
  | .neq => some .ne
  | .gt => some .gt
  | .ge => some .ge
  | .lt => some .lt
  | .le => some .le
  | .plus => some .plus
  | .minus => some .minus
  | .mul => some .multiply
  | .div => some .divide
  | .modulo => some .modulo
  | .concat => some .concat
  | .pipe => some .bitOr
  | .caret => some .bitXor
  | .ampersand => some .bitAnd
  | .intDiv => some .intDiv
  | .shiftLeft => some .shiftLeft
  | .shiftRight => some .shiftRight
  | .other s =>
    if ["~", "~*", "!~", "!~*", "~~", "~~*", "!~~", "!~~*", "->", "->>", "#>", "#>>", "@>", "<@",
        "#-", "@?", "@@", "&&", "^@"].contains s then some (.other s)
    else none
  | _ =>
    if t.isKeyword "AND" then some .and
    else if t.isKeyword "OR" then some .or
    else if t.isKeyword "XOR" then some .xor
    else none

/-- Whether a binary operator compares, and so may take `ANY`, `ALL` or `SOME`. -/
def BinOp.isComparison : BinOp → Bool
  | .gt | .lt | .ge | .le | .eq | .ne => true
  | _ => false

/-- Whether a call's argument list holds a null treatment. -/
def CallArgs.hasNullTreatment : CallArgs → Bool
  | .list _ _ clauses => clauses.any fun | .nulls _ => true | _ => false
  | _ => false

/-- Reads an optional `IGNORE NULLS` or `RESPECT NULLS`, as text. -/
def readNullTreatment : Reader (Option String) := do
  match ← eatOneOf ["RESPECT", "IGNORE"] with
  | some k =>
    expectKeyword "NULLS"
    pure (some (k ++ " NULLS"))
  | none => pure none

/-- Reads the optional `FORMAT value [AT TIME ZONE value]` of a cast, as text with a
leading space. -/
def readCastFormat : Reader String := do
  if ← eatKeyword "FORMAT" then
    let v ← readValue
    if ← eatKeywords ["AT", "TIME", "ZONE"] then
      return " FORMAT " ++ v.render ++ " AT TIME ZONE " ++ (← readValue).render
    return " FORMAT " ++ v.render
  return ""

/-- Reads the operator name of `OPERATOR(schema.op)` after the keyword: tokens separated by
periods, written back as plain text. -/
def readOperatorName : Nat → Reader (List String)
  | 0 => outOfFuel
  | n + 1 => do
    let t ← match ← next with
      | some t => pure t.plainText
      | none => pure "EOF"
    if ← eat .period then return t :: (← readOperatorName n)
    return [t]

/-- Reads the search modifier of `MATCH (...) AGAINST (value modifier)`, as text. -/
def readSearchModifier : Reader (Option String) := do
  if ← eatKeywords ["IN", "NATURAL", "LANGUAGE", "MODE"] then
    if ← eatKeywords ["WITH", "QUERY", "EXPANSION"] then
      return some "IN NATURAL LANGUAGE MODE WITH QUERY EXPANSION"
    return some "IN NATURAL LANGUAGE MODE"
  if ← eatKeywords ["IN", "BOOLEAN", "MODE"] then return some "IN BOOLEAN MODE"
  if ← eatKeywords ["WITH", "QUERY", "EXPANSION"] then return some "WITH QUERY EXPANSION"
  return none

/-- Reads an optional `COLLATE name` after an operand. -/
def readCollate (e : Expr) : Reader Expr := do
  if ← eatKeyword "COLLATE" then return .collate e (← readObjectName)
  return e

section

variable (sub : Nat → Reader Query) (inConnectBy : Bool)

mutual

/-- Reads an expression that may also be `*` or `a.b.*`. -/
def readWildcardExpr : Nat → Nat → Reader Expr
  | 0, _ => outOfFuel
  | n + 1, d => do
    let saved ← get
    match ← next with
    | some .mul => pure .wildcard
    | some t =>
      match t.ident? with
      | some i =>
        if (← peek) = some .period then
          match ← fun ts => readWildcardFrom (ts.length + 1) [i] ts with
          | some parts => return .qualifiedWildcard parts
          | none => pure ()
        set saved
        readExpr n d
      | none =>
        set saved
        readExpr n d
    | none =>
      set saved
      readExpr n d

/-- Reads an ORDER BY entry: expression, direction, null placement, and a `WITH FILL`
clause, kept as its text. -/
def readOrderExpr : Nat → Nat → Reader OrderExpr
  | 0, _ => outOfFuel
  | n + 1, d => do
    let e ← readExpr n d
    let asc ← do
      if ← eatKeyword "ASC" then pure (some true)
      else if ← eatKeyword "DESC" then pure (some false)
      else pure none
    let nulls ← do
      if ← eatKeywords ["NULLS", "FIRST"] then pure (some true)
      else if ← eatKeywords ["NULLS", "LAST"] then pure (some false)
      else pure none
    let fill ← do
      if ← eatKeywords ["WITH", "FILL"] then
        let part (word : String) : Reader String := do
          if ← eatKeyword word then pure (" " ++ word ++ " " ++ (← readExpr n d).render)
          else pure ""
        let start ← part "FROM"
        let stop ← part "TO"
        let step ← part "STEP"
        pure (some ("WITH FILL" ++ start ++ stop ++ step))
      else pure none
    pure (.mk e asc nulls fill)

/-- Reads an expression. -/
def readExpr : Nat → Nat → Reader Expr
  | 0, _ => outOfFuel
  | n + 1, d => readSubexpr n d 0

/-- Reads an expression whose operators bind tighter than `prec`. -/
def readSubexpr : Nat → Nat → Nat → Reader Expr
  | 0, _, _ => outOfFuel
  | n + 1, depth, prec => do
    if depth = 0 then throw .tooDeep
    let d := depth - 1
    let e ← readPrefix n d
    readInfixLoop n d prec e

/-- Extends `e` by the operators after it that bind tighter than `prec`. -/
def readInfixLoop : Nat → Nat → Nat → Expr → Reader Expr
  | 0, _, _, _ => outOfFuel
  | n + 1, d, prec, e => do
    let p ← fun ts => Except.ok (precedenceOf ts, ts)
    if p ≤ prec then pure e
    else
      let e' ← readInfix n d e p
      readInfixLoop n d prec e'

/-- Reads an operator of binding power `prec` and its right side, after `e`. -/
def readInfix : Nat → Nat → Expr → Nat → Reader Expr
  | 0, _, _, _ => outOfFuel
  | n + 1, d, e, prec => do
    let saved ← get
    let some t ← next | failWith "Expected: an operator"
    let op? ← do
      match binOpOf t with
      | some op => pure (some op)
      | none =>
        if t.isKeyword "OPERATOR" then
          expect .lparen "("
          let parts ← fun ts => readOperatorName (ts.length + 1) ts
          expect .rparen ")"
          pure (some (BinOp.other ("OPERATOR(" ++ ".".intercalate parts ++ ")")))
        else pure none
    match op? with
    | some op =>
      match ← eatOneOf ["ANY", "ALL", "SOME"] with
      | some kw =>
        let beforeParen ← get
        expect .lparen "("
        let right ← do
          if ← nextIsKeyword ["SELECT", "WITH"] then
            set beforeParen
            readSubexpr n d prec
          else
            let r ← readSubexpr n d prec
            expect .rparen ")"
            pure r
        if !op.isComparison then failWith "Expected a comparison operator before ANY, ALL or SOME"
        pure (.quantified e op kw right)
      | none => pure (.binary e op (← readSubexpr n d prec))
    | none =>
      if t.isKeyword "IS" then readIsTest n d e
      else if t.isKeyword "AT" then
        expectKeyword "TIME"
        expectKeyword "ZONE"
        pure (.binary e (.other "AT TIME ZONE") (← readSubexpr n d prec))
      else if t.isAnyKeyword ["NOT", "IN", "BETWEEN", "LIKE", "ILIKE", "SIMILAR", "REGEXP", "RLIKE"]
      then
        set saved
        let neg ← eatKeyword "NOT"
        let regexp ← eatKeyword "REGEXP"
        let rlike ← eatKeyword "RLIKE"
        if regexp || rlike then
          let p ← readSubexpr n d 19
          pure (.matches (if regexp then .regexp else .rlike) neg false e p none)
        else if ← eatKeyword "IN" then readIn n d e neg
        else if ← eatKeyword "BETWEEN" then
          let lo ← readSubexpr n d 20
          expectKeyword "AND"
          let hi ← readSubexpr n d 20
          pure (.between e lo hi neg)
        else if ← eatKeyword "LIKE" then readMatch n d .like e neg
        else if ← eatKeyword "ILIKE" then readMatch n d .ilike e neg
        else if ← eatKeywords ["SIMILAR", "TO"] then readMatch n d .similarTo e neg
        else failWith "Expected: IN or BETWEEN after NOT"
      else if t = .doubleColon then
        pure (.cast "::" e (← readDataType (Expr.render <$> readExpr n d)))
      else if t = .other "!" then pure (.factorial e)
      else if t = .lbracket then readSubscript n d e
      else failWith "No infix parser for token"

/-- Reads the rest of `e[...]`, after `[`: an index, or a slice `[lower]:[upper][:stride]`
whose parts may each be left out. -/
def readSubscript : Nat → Nat → Expr → Reader Expr
  | 0, _, _ => outOfFuel
  | n + 1, d, e => do
    let lower ← do if ← eat .colon then pure none else some <$> readExpr n d
    if ← eat .rbracket then
      return match lower with
        | some i => .subscript e (some i) none none false
        | none => .subscript e none none none true
    if lower.isSome then expect .colon ":"
    if ← eat .rbracket then return .subscript e lower none none true
    let upper ← readExpr n d
    if ← eat .rbracket then return .subscript e lower (some upper) none true
    expect .colon ":"
    if ← eat .rbracket then return .subscript e lower (some upper) none true
    let stride ← readExpr n d
    expect .rbracket "]"
    return .subscript e lower (some upper) (some stride) true

/-- Reads the rest of `e IS ...`. -/
def readIsTest : Nat → Nat → Expr → Reader Expr
  | 0, _, _ => outOfFuel
  | n + 1, d, e => do
    if ← eatKeyword "NULL" then return .isTest e .null
    if ← eatKeywords ["NOT", "NULL"] then return .isTest e .notNull
    if ← eatKeyword "TRUE" then return .isTest e .true_
    if ← eatKeywords ["NOT", "TRUE"] then return .isTest e .notTrue
    if ← eatKeyword "FALSE" then return .isTest e .false_
    if ← eatKeywords ["NOT", "FALSE"] then return .isTest e .notFalse
    if ← eatKeyword "UNKNOWN" then return .isTest e .unknown
    if ← eatKeywords ["NOT", "UNKNOWN"] then return .isTest e .notUnknown
    if ← eatKeywords ["DISTINCT", "FROM"] then return .isDistinct e (← readExpr n d) false
    if ← eatKeywords ["NOT", "DISTINCT", "FROM"] then return .isDistinct e (← readExpr n d) true
    failWith "Expected: [NOT] NULL or TRUE|FALSE or [NOT] DISTINCT FROM after IS"

/-- Reads the rest of `e [NOT] IN ...`: `UNNEST(array)`, a subquery or a list. -/
def readIn : Nat → Nat → Expr → Bool → Reader Expr
  | 0, _, _, _ => outOfFuel
  | n + 1, d, e, neg => do
    if ← eatKeyword "UNNEST" then
      expect .lparen "("
      let a ← readExpr n d
      expect .rparen ")"
      return .inUnnest e a neg
    expect .lparen "("
    if ← nextIsKeyword ["SELECT", "WITH"] then
      let q ← sub d
      expect .rparen ")"
      return .inQuery e q neg
    let items ← commaSep (readExpr n d)
    expect .rparen ")"
    return .inList e items neg

/-- Reads the pattern and escape of `e [NOT] LIKE | ILIKE | SIMILAR TO ...`. -/
def readMatch : Nat → Nat → MatchOp → Expr → Bool → Reader Expr
  | 0, _, _, _, _ => outOfFuel
  | n + 1, d, op, e, neg => do
    let any ← if op = .similarTo then pure false else eatKeyword "ANY"
    let p ← readSubexpr n d 19
    let esc ← if ← eatKeyword "ESCAPE" then some <$> readLiteralString else pure none
    pure (.matches op neg any e p esc)

/-- Reads an operand. A data type followed by a literal string types that string, and
`INTERVAL` starts an interval; this is tried first. A word is then read as the keyword
form it starts, if it starts one, and a form that fails to read is an error; any other word
is read as a name. -/
def readPrefix : Nat → Nat → Reader Expr
  | 0, _ => outOfFuel
  | n + 1, d => do
    let typed ← attempt do
      let t ← readTypeInfo (Expr.render <$> readExpr n d)
      if t.custom then failWith "a custom type types no string"
      if t.text = "INTERVAL" then readIntervalBody n d
      else pure (Expr.typed t.text (← readLiteralString))
    if let some e := typed then return e
    match ← peek with
    | some (.word v q) =>
      advance
      let w : Ident := ⟨v, q⟩
      let afterWord ← get
      match readKeywordForm n d w afterWord with
      | .ok (some e, rest) =>
        set rest
        readCollate e
      | .ok (none, _) => readCollate (← readNamed n d w)
      | .error err => throw err
    | _ => readCollate (← readOperand n d)

/-- Reads the value and qualifier of an interval, after `INTERVAL`. -/
def readIntervalBody : Nat → Nat → Reader Expr
  | 0, _ => outOfFuel
  | n + 1, d => do
    let value ← readPrefix n d
    return .interval value (← readIntervalQualifier)

/-- Reads the keyword form that the word `w` starts, after the word: `some` form, or `none`
if the word starts none. -/
def readKeywordForm : Nat → Nat → Ident → Reader (Option Expr)
  | 0, _, _ => outOfFuel
  | n + 1, d, w => do
    if w.quote.isSome then return none
    let up := upperWord w.value
    if up = "TRUE" then return some (.lit (.boolean true))
    if up = "FALSE" then return some (.lit (.boolean false))
    if up = "NULL" then return some (.lit .null)
    if ["CURRENT_CATALOG", "CURRENT_USER", "SESSION_USER", "USER"].contains up then
      return some (.call [w] .none .none [] none none)
    if ["CURRENT_TIMESTAMP", "CURRENT_TIME", "CURRENT_DATE", "LOCALTIME",
        "LOCALTIMESTAMP"].contains up then
      if ← eat .lparen then
        return some (.call [w] .none (← readCallArgs n d) [] none none)
      return some (.call [w] .none .none [] none none)
    if up = "CASE" then return some (← readCase n d)
    if up = "CONVERT" || up = "TRY_CONVERT" then
      expect .lparen "("
      let e ← readExpr n d
      if ← eatKeyword "USING" then
        let charset ← readObjectName
        expect .rparen ")"
        return some (.keywordCall up ["", " USING "] [e, .verbatim (renderName charset)])
      expect .comma ","
      let t ← readDataType (Expr.render <$> readExpr n d)
      let charset ← do
        if ← eatKeywords ["CHARACTER", "SET"] then
          (" CHARACTER SET " ++ renderName ·) <$> readObjectName
        else pure ""
      expect .rparen ")"
      return some (.keywordCall up ["", ", "] [e, .verbatim (t ++ charset)])
    if ["CAST", "TRY_CAST", "SAFE_CAST"].contains up then
      expect .lparen "("
      let e ← readExpr n d
      expectKeyword "AS"
      let t ← readDataType (Expr.render <$> readExpr n d)
      let format ← readCastFormat
      expect .rparen ")"
      return some (.cast up e (t ++ format))
    if up = "EXISTS" then return some (← readExists n d false)
    if up = "EXTRACT" then
      expect .lparen "("
      let field ← readDateTimeField
      let sep ← do
        if ← eatKeyword "FROM" then pure " FROM "
        else if ← eat .comma then pure ", "
        else failWith "Expected 'FROM' or ','"
      let e ← readExpr n d
      expect .rparen ")"
      return some (.keywordCall "EXTRACT" ["", sep] [.verbatim field, e])
    if up = "CEIL" || up = "FLOOR" then
      expect .lparen "("
      let e ← readExpr n d
      if ← eatKeyword "TO" then
        let field ← readDateTimeField
        expect .rparen ")"
        return some (.keywordCall up ["", " TO "] [e, .verbatim field])
      if ← eat .comma then
        match ← readValue with
        | .number t l =>
          expect .rparen ")"
          return some (.keywordCall up ["", ", "] [e, .lit (.number t l)])
        | _ => failWith "Scale field can only be of number type"
      expect .rparen ")"
      return some (.keywordCall up [""] [e])
    if up = "POSITION" then
      if ← nextIs .lparen then
        let pos ← attempt do
          expect .lparen "("
          let e ← readSubexpr n d 20
          expectKeyword "IN"
          let r ← readExpr n d
          expect .rparen ")"
          pure (Expr.keywordCall "POSITION" ["", " IN "] [e, r])
        match pos with
        | some p => return some p
        | none => return some (← readFunction n d [w])
    if up = "SUBSTRING" then
      expect .lparen "("
      let e ← readExpr n d
      let special ← eat .comma
      let fromPart ← do
        if special then some <$> readExpr n d
        else if ← eatKeyword "FROM" then some <$> readExpr n d
        else pure none
      let forPart ← do
        if ← eatKeyword "FOR" then some <$> readExpr n d
        else if ← eat .comma then some <$> readExpr n d
        else pure none
      expect .rparen ")"
      let pieces := [("", e)]
        ++ (match fromPart with
            | some f => [(if special then ", " else " FROM ", f)]
            | none => [])
        ++ (match forPart with | some f => [(if special then ", " else " FOR ", f)] | none => [])
      return some (.keywordCall "SUBSTRING" (pieces.map (·.1)) (pieces.map (·.2)))
    if up = "OVERLAY" then
      expect .lparen "("
      let e ← readExpr n d
      expectKeyword "PLACING"
      let what ← readExpr n d
      expectKeyword "FROM"
      let start ← readExpr n d
      let len ← if ← eatKeyword "FOR" then some <$> readExpr n d else pure none
      expect .rparen ")"
      return some (match len with
        | some l => .keywordCall "OVERLAY" ["", " PLACING ", " FROM ", " FOR "] [e, what, start, l]
        | none => .keywordCall "OVERLAY" ["", " PLACING ", " FROM "] [e, what, start])
    if up = "TRIM" then return some (← readTrim n d)
    if up = "INTERVAL" then return some (← readIntervalBody n d)
    if up = "ARRAY" then
      if ← eat .lbracket then return some (← readArray n d true)
      if ← eat .lparen then
        let q ← sub d
        expect .rparen ")"
        return some (.call [w] .none (.subquery q) [] none none)
    if up = "NOT" then
      if ← eatKeyword "EXISTS" then return some (← readExists n d true)
      return some (.unary .not (← readSubexpr n d 15))
    if up = "MATCH" then
      let cols ← readParenIdents
      expectKeyword "AGAINST"
      expect .lparen "("
      let v ← readValue
      let modifier ← readSearchModifier
      expect .rparen ")"
      let head := "MATCH (" ++ renderIdents cols ++ ") AGAINST "
      return some (match modifier with
        | some m => .keywordCall head ["", " "] [.lit v, .verbatim m]
        | none => .keywordCall head [""] [.lit v])
    if up = "STRUCT" then
      let (fields, closes) ← readStructTypeDef (Expr.render <$> readExpr n d)
      if closes then failWith "unmatched > in STRUCT literal"
      expect .lparen "("
      let values ← commaSep (readStructValue n d !fields.isEmpty)
      expect .rparen ")"
      let head := "STRUCT" ++ (if fields.isEmpty then "" else "<" ++ commaList fields ++ ">")
      let pieces := values.zipIdx.flatMap fun ((e, name), i) =>
        [((if i = 0 then "" else ", "), e)]
          ++ (match name with | some a => [(" AS ", Expr.ident a)] | none => [])
      return some (.keywordCall head (pieces.map (·.1)) (pieces.map (·.2)))
    if up = "PRIOR" && inConnectBy then return some (.prior (← readSubexpr n d 30))
    if up = "MAP" then
      if ← eat (.other "\x7b") then return some (← readMapLiteral n d)
    return none

/-- Reads one value of a STRUCT literal: an expression, and `AS name` unless the struct's
fields are typed. -/
def readStructValue : Nat → Nat → Bool → Reader (Expr × Option Ident)
  | 0, _, _ => outOfFuel
  | n + 1, d, typed => do
    let e ← readExpr n d
    if ← eatKeyword "AS" then
      if typed then failWith "Typed syntax does not allow AS"
      return (e, some (← readIdent))
    return (e, none)

/-- Reads an operand that does not start with a word: a literal, a parenthesized
expression or subquery, an array, a dictionary, a signed operand or a placeholder. -/
def readOperand : Nat → Nat → Reader Expr
  | 0, _ => outOfFuel
  | n + 1, d => do
    match ← next with
    | some (.number t l) => pure (.lit (.number t l))
    | some (.singleQuoted s) => pure (.lit (.singleQuoted s))
    | some (.nationalString s) => pure (.lit (.nationalString s))
    | some (.hexString s) => pure (.lit (.hexString s))
    | some (.escapedString s) => pure (.lit (.escapedString s))
    | some (.unicodeString s) => pure (.lit (.unicodeString s))
    | some (.literal s) => pure (.lit (.raw s))
    | some .lparen => readParenthesized n d
    | some .lbracket => readArray n d false
    | some (.other "\x7b") => readDictionary n d
    | some .minus => pure (.unary .minus (← readSubexpr n d 40))
    | some .plus => pure (.unary .plus (← readSubexpr n d 40))
    | some .colon =>
      match ← next with
      | some (.word v _) => pure (.lit (.raw (":" ++ v)))
      | some (.number t false) => pure (.lit (.raw (":" ++ t)))
      | _ => failWith "Expected: placeholder"
    | some (.other "@") =>
      match ← next with
      | some (.word v _) => pure (.lit (.raw ("@" ++ v)))
      | some (.number t false) => pure (.lit (.raw ("@" ++ t)))
      | _ => failWith "Expected: placeholder"
    | some (.other s) =>
      if s.startsWith "?" || s.startsWith "$" then pure (.lit (.raw s))
      else failWith "Expected: an expression"
    | _ => failWith "Expected: an expression"

/-- Reads what follows a word read as a name: a dotted name, a call, a string after a
character set introducer (a word starting with `_`), or the word alone. -/
def readNamed : Nat → Nat → Ident → Reader Expr
  | 0, _, _ => outOfFuel
  | n + 1, d, w => do
    match ← peek with
    | some .lparen | some .period =>
      let parts ← fun ts => readDottedFrom (ts.length + 1) [w] ts
      if ← nextIs .lparen then readFunction n d parts
      else pure (.compound parts)
    | some (.singleQuoted s) =>
      if w.value.startsWith "_" then
        advance
        return .introduced w.value (.singleQuoted s)
      return .ident w
    | some (.hexString s) =>
      if w.value.startsWith "_" then
        advance
        return .introduced w.value (.hexString s)
      return .ident w
    | _ => pure (.ident w)

/-- Reads a call of the function `name`: arguments, and parameters before them when two
lists are written; then `WITHIN GROUP (ORDER BY ...)`, a null treatment unless the
arguments hold one, and `OVER`. -/
def readFunction : Nat → Nat → List Ident → Reader Expr
  | 0, _, _ => outOfFuel
  | n + 1, d, name => do
    expect .lparen "("
    let first ← readCallArgs n d
    let (params, args) ← do
      if ← eat .lparen then pure (first, ← readCallArgs n d) else pure (CallArgs.none, first)
    let withinGroup ← do
      if ← eatKeywords ["WITHIN", "GROUP"] then
        expect .lparen "("
        expectKeyword "ORDER"
        expectKeyword "BY"
        let items ← commaSep (readOrderExpr n d)
        expect .rparen ")"
        pure items
      else pure []
    let nulls ← if args.hasNullTreatment then pure none else readNullTreatment
    let window ← do
      if ← eatKeyword "OVER" then
        if ← eat .lparen then some <$> readWindowSpec n d
        else some <$> (Window.named <$> readIdent)
      else pure none
    pure (.call name params args withinGroup nulls window)

/-- Reads a call's argument list after its opening parenthesis: `ALL` or `DISTINCT`, the
arguments, and the clauses after them, each optional and in this order: a null treatment,
`ORDER BY`, `LIMIT`, `HAVING MIN | MAX`, `SEPARATOR` and `ON OVERFLOW`. -/
def readCallArgs : Nat → Nat → Reader CallArgs
  | 0, _ => outOfFuel
  | n + 1, d => do
    if ← eat .rparen then return .list none [] []
    let all ← eatKeyword "ALL"
    let distinct ← eatKeyword "DISTINCT"
    if all && distinct then failWith "Cannot specify both ALL and DISTINCT"
    let quant := if all then some "ALL" else if distinct then some "DISTINCT" else none
    let args ← commaSep (readCallArg n d)
    let nulls ← (·.map CallClause.nulls) <$> readNullTreatment
    let orderBy ← do
      if ← eatKeywords ["ORDER", "BY"] then
        (some ∘ CallClause.orderBy) <$> commaSep (readOrderExpr n d)
      else pure none
    let limit ← do
      if ← eatKeyword "LIMIT" then (some ∘ CallClause.limit) <$> readExpr n d else pure none
    let having ← do
      if ← eatKeyword "HAVING" then
        match ← eatOneOf ["MIN", "MAX"] with
        | some kind => (some ∘ CallClause.having kind) <$> readExpr n d
        | none => failWith "Expected: one of MIN or MAX"
      else pure none
    let separator ← do
      if ← eatKeyword "SEPARATOR" then (some ∘ CallClause.separator) <$> readValue else pure none
    let overflow ← do
      if ← eatKeywords ["ON", "OVERFLOW"] then
        if ← eatKeyword "ERROR" then pure (some CallClause.overflowError)
        else
          expectKeyword "TRUNCATE"
          let filler ← do
            match ← peek with
            | some t =>
              if t.isAnyKeyword ["WITH", "WITHOUT"] then pure none
              else
                match t with
                | .singleQuoted _ | .escapedString _ | .unicodeString _ | .nationalString _
                | .hexString _ => some <$> readExpr n d
                | _ => failWith "Expected: either filler, WITH, or WITHOUT in LISTAGG"
            | none => failWith "Expected: either filler, WITH, or WITHOUT in LISTAGG"
          let withCount ← eatKeyword "WITH"
          if !withCount then
            if !(← eatKeyword "WITHOUT") then failWith "Expected: either WITH or WITHOUT in LISTAGG"
          expectKeyword "COUNT"
          pure (some (CallClause.overflowTruncate filler withCount))
      else pure none
    expect .rparen ")"
    pure (.list quant args [nulls, orderBy, limit, having, separator, overflow].reduceOption)

/-- Reads one call argument: `name => e` (`e` may be a wildcard), `name := e`, or an
expression or wildcard. -/
def readCallArg : Nat → Nat → Reader CallArg
  | 0, _ => outOfFuel
  | n + 1, d => do
    let named ← attempt readArgName
    match named with
    | some (name, op) =>
      let e ← if op = "=>" then readWildcardExpr n d else readExpr n d
      pure (CallArg.named name op e)
    | none => CallArg.unnamed <$> readWildcardExpr n d

/-- Reads a window specification after its opening parenthesis. It starts with the name
of a window it extends when its first word is quoted or not a keyword. -/
def readWindowSpec : Nat → Nat → Reader Window
  | 0, _ => outOfFuel
  | n + 1, d => do
    let name ← do
      match ← peek with
      | some (.word v q) => if q.isSome || !Keyword.isKeyword v then attempt readIdent else pure none
      | _ => pure none
    let parts ← do
      if ← eatKeywords ["PARTITION", "BY"] then commaSep (readExpr n d) else pure []
    let orderBy ← do
      if ← eatKeywords ["ORDER", "BY"] then commaSep (readOrderExpr n d) else pure []
    let frame ← do
      if ← eat .rparen then pure none
      else
        let f ← readWindowFrame n d
        expect .rparen ")"
        pure (some f)
    pure (.spec name parts orderBy frame)

/-- Reads a window frame `ROWS | RANGE | GROUPS [BETWEEN a AND b | a]`, as text. -/
def readWindowFrame : Nat → Nat → Reader String
  | 0, _ => outOfFuel
  | n + 1, d => do
    let units ← match ← eatOneOf ["ROWS", "RANGE", "GROUPS"] with
      | some u => pure u
      | none => failWith "Expected: ROWS, RANGE, GROUPS"
    if ← eatKeyword "BETWEEN" then
      let s ← readFrameBound n d
      expectKeyword "AND"
      let e ← readFrameBound n d
      pure (units ++ " BETWEEN " ++ s ++ " AND " ++ e)
    else pure (units ++ " " ++ (← readFrameBound n d))

/-- Reads a frame bound: `CURRENT ROW`, or `UNBOUNDED` or an offset, then `PRECEDING` or
`FOLLOWING`. -/
def readFrameBound : Nat → Nat → Reader String
  | 0, _ => outOfFuel
  | n + 1, d => do
    if ← eatKeywords ["CURRENT", "ROW"] then return "CURRENT ROW"
    let amount ← do
      if ← eatKeyword "UNBOUNDED" then pure "UNBOUNDED"
      else
        match ← peek with
        | some (.singleQuoted _) => Expr.render <$> readIntervalBody n d
        | _ => Expr.render <$> readExpr n d
    if ← eatKeyword "PRECEDING" then pure (amount ++ " PRECEDING")
    else if ← eatKeyword "FOLLOWING" then pure (amount ++ " FOLLOWING")
    else failWith "Expected: PRECEDING or FOLLOWING"

/-- Reads what follows an opening parenthesis in an expression: a subquery, or one
expression or a tuple; then an optional `.field`. -/
def readParenthesized : Nat → Nat → Reader Expr
  | 0, _ => outOfFuel
  | n + 1, d => do
    let e ← do
      if ← nextIsKeyword ["SELECT", "WITH"] then Expr.subquery <$> sub d
      else
        let es ← commaSep (readExpr n d)
        match es with
        | [e] => pure (Expr.nested e)
        | _ => pure (Expr.tuple es)
    expect .rparen ")"
    if ← eat .period then
      match ← next with
      | some (.word v q) => return .field e ⟨v, q⟩
      | _ => failWith "Expected identifier"
    return e

/-- Reads an array literal after its opening bracket. -/
def readArray : Nat → Nat → Bool → Reader Expr
  | 0, _, _ => outOfFuel
  | n + 1, d, named => do
    if ← eat .rbracket then return .array [] named
    let es ← commaSep (readExpr n d)
    expect .rbracket "]"
    return .array es named

/-- Reads a dictionary after its opening brace: one or more `key: value` entries, each
key a name or a quoted string. -/
def readDictionary : Nat → Nat → Reader Expr
  | 0, _ => outOfFuel
  | n + 1, d => do
    let entries ← commaSep (readDictionaryEntry n d)
    expect (.other "\x7d") "\x7d"
    return .dictionary entries

/-- Reads one `key: value` entry of a dictionary. -/
def readDictionaryEntry : Nat → Nat → Reader Expr
  | 0, _ => outOfFuel
  | n + 1, d => do
    let key : Ident ← do
      match ← next with
      | some (.word v q) => pure ⟨v, q⟩
      | some (.singleQuoted s) => pure ⟨s, some '\''⟩
      | _ => failWith "Expected: identifier"
    expect .colon ":"
    return .keyValue (.ident key) (← readExpr n d)

/-- Reads a map literal after `MAP` and its opening brace: `key: value` entries, perhaps
none, each key an expression. -/
def readMapLiteral : Nat → Nat → Reader Expr
  | 0, _ => outOfFuel
  | n + 1, d => do
    if ← eat (.other "\x7d") then return .mapLiteral []
    let entries ← commaSep (readMapEntry n d)
    expect (.other "\x7d") "\x7d"
    return .mapLiteral entries

/-- Reads one `key: value` entry of a map literal. -/
def readMapEntry : Nat → Nat → Reader Expr
  | 0, _ => outOfFuel
  | n + 1, d => do
    let key ← readExpr n d
    expect .colon ":"
    return .keyValue key (← readExpr n d)

/-- Reads `CASE [operand] WHEN c THEN r ... [ELSE e] END`, after `CASE`. -/
def readCase : Nat → Nat → Reader Expr
  | 0, _ => outOfFuel
  | n + 1, d => do
    let operand ← do
      if ← eatKeyword "WHEN" then pure none
      else
        let o ← readExpr n d
        expectKeyword "WHEN"
        pure (some o)
    let branches ← readWhens n d
    let otherwise ← if ← eatKeyword "ELSE" then some <$> readExpr n d else pure none
    expectKeyword "END"
    pure (.caseWhen operand branches otherwise)

/-- Reads `c THEN r` branches, each after its `WHEN`. -/
def readWhens : Nat → Nat → Reader (List When)
  | 0, _ => outOfFuel
  | n + 1, d => do
    let c ← readExpr n d
    expectKeyword "THEN"
    let r ← readExpr n d
    if ← eatKeyword "WHEN" then return .mk c r :: (← readWhens n d)
    return [.mk c r]

/-- Reads `(query)` after `EXISTS`. -/
def readExists : Nat → Nat → Bool → Reader Expr
  | 0, _, _ => outOfFuel
  | _ + 1, d, neg => do
    expect .lparen "("
    let q ← sub d
    expect .rparen ")"
    pure (.exists q neg)

/-- Reads the argument list of `TRIM`. -/
def readTrim : Nat → Nat → Reader Expr
  | 0, _ => outOfFuel
  | n + 1, d => do
    expect .lparen "("
    let place ← eatOneOf ["BOTH", "LEADING", "TRAILING"]
    let lead := match place with | some p => p ++ " " | none => ""
    let e ← readExpr n d
    if ← eatKeyword "FROM" then
      let target ← readExpr n d
      expect .rparen ")"
      return .keywordCall "TRIM" [lead, " FROM "] [e, target]
    if ← eat .comma then
      let chars ← commaSep (readExpr n d)
      expect .rparen ")"
      return .keywordCall "TRIM" ("" :: chars.map fun _ => ", ") (e :: chars)
    expect .rparen ")"
    return .keywordCall "TRIM" [lead] [e]

end

end

end CsvQuery.Sql
