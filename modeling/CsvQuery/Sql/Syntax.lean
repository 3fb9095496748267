/-!
# SQL syntax trees and their canonical text

The statements the SQL reader recognizes, as trees: queries with their set operations,
SELECT blocks, FROM items and joins, and expressions with literals, operators, predicates
(`IN`, `BETWEEN`, `LIKE`, `IS`), function calls, `CASE`, `CAST` and subqueries.

`render` writes a tree in the canonical form that error messages quote: binary operators
between single spaces, `<>` for inequality, keywords in upper case, `NOT x` with a space
and `-x` without, parentheses only where the text had them, quoted identifiers with their
quotes, and lists joined by `", "`.
-/

namespace CsvQuery.Sql

/-- Writes a text between quotes `q`: a quote is doubled, a doubled quote is kept as it is,
and a quote after a backslash is kept single (the backslash then still counts as the
previous character). -/
def escapeQuotedFrom (q : Char) (prev : Char) : List Char → List Char
  | [] => []
  | [c] => if c ≠ q then [c] else if prev = '\\' then [c] else [q, q]
  | c :: d :: rest =>
    if c ≠ q then c :: escapeQuotedFrom q c (d :: rest)
    else if prev = '\\' then c :: escapeQuotedFrom q prev (d :: rest)
    else if d = q then q :: q :: escapeQuotedFrom q c rest
    else q :: q :: escapeQuotedFrom q c (d :: rest)
termination_by cs => cs.length

/-- The escaped body of a quoted text. -/
def escapeQuoted (q : Char) (s : String) : String :=
  String.ofList (escapeQuotedFrom q (Char.ofNat 0) s.toList)

/-- An identifier, with the quote it was written in, if any. -/
structure Ident where
  value : String
  quote : Option Char
deriving DecidableEq, Repr, Inhabited

/-- The text of an identifier: quoted ones keep their quotes. -/
def Ident.render (i : Ident) : String :=
  match i.quote with
  | some q => q.toString ++ escapeQuoted q i.value ++ q.toString
  | none => i.value

/-- A dotted name such as `db.s.R`. -/
def renderName (parts : List Ident) : String := ".".intercalate (parts.map Ident.render)

/-- An escaped string's text written back: quote, backslash and the control characters
line feed, tab and carriage return escaped by a backslash. -/
def escapeEscaped (s : String) : String :=
  String.ofList <| s.toList.flatMap fun c =>
    if c = '\'' then ['\\', '\'']
    else if c = '\\' then ['\\', '\\']
    else if c = '\n' then ['\\', 'n']
    else if c = '\t' then ['\\', 't']
    else if c = '\r' then ['\\', 'r']
    else [c]

/-- An upper-case hexadecimal numeral of at least `width` digits. -/
def hexUpper (width n : Nat) : List Char :=
  let ds := (Nat.toDigits 16 n).map Char.toUpper
  List.replicate (width - ds.length) '0' ++ ds

/-- A Unicode string's text written back: quotes doubled, backslashes doubled, and
characters outside ASCII as `\XXXX` or, beyond four digits, `\+XXXXXX`. -/
def escapeUnicode (s : String) : String :=
  String.ofList <| s.toList.flatMap fun c =>
    if c = '\'' then ['\'', '\'']
    else if c = '\\' then ['\\', '\\']
    else if c.toNat < 128 then [c]
    else if c.toNat ≤ 0xFFFF then '\\' :: hexUpper 4 c.toNat
    else '\\' :: '+' :: hexUpper 6 c.toNat

/-- A literal value. -/
inductive Literal where
  | number (text : String) (long : Bool)
  | singleQuoted (text : String)
  | nationalString (text : String)
  | hexString (text : String)
  /-- `E'...'`, by the text its escapes stand for. -/
  | escapedString (text : String)
  /-- `U&'...'`, by the text its code point escapes stand for. -/
  | unicodeString (text : String)
  | boolean (value : Bool)
  | null
  /-- A literal kept as written: a placeholder such as `?` or `:name`, or a double-quoted
  string. -/
  | raw (text : String)
deriving DecidableEq, Repr, Inhabited

/-- The text of a literal. -/
def Literal.render : Literal → String
  | .number t l => t ++ (if l then "L" else "")
  | .singleQuoted s => "'" ++ escapeQuoted '\'' s ++ "'"
  | .nationalString s => "N'" ++ s ++ "'"
  | .hexString s => "X'" ++ s ++ "'"
  | .escapedString s => "E'" ++ escapeEscaped s ++ "'"
  | .unicodeString s => "U&'" ++ escapeUnicode s ++ "'"
  | .boolean b => if b then "true" else "false"
  | .null => "NULL"
  | .raw t => t

/-- Binary operators. -/
inductive BinOp where
  | plus | minus | multiply | divide | modulo | concat
  | gt | lt | ge | le | spaceship | eq | ne
  | and | or | xor | bitOr | bitAnd | bitXor | intDiv | shiftLeft | shiftRight
  /-- Any other operator, by its text. -/
  | other (symbol : String)
deriving DecidableEq, Repr, Inhabited

/-- The text of a binary operator. -/
def BinOp.symbol : BinOp → String
  | .plus => "+" | .minus => "-" | .multiply => "*" | .divide => "/" | .modulo => "%"
  | .concat => "||" | .gt => ">" | .lt => "<" | .ge => ">=" | .le => "<="
  | .spaceship => "<=>" | .eq => "=" | .ne => "<>" | .and => "AND" | .or => "OR"
  | .xor => "XOR" | .bitOr => "|" | .bitAnd => "&" | .bitXor => "^" | .intDiv => "//"
  | .shiftLeft => "<<" | .shiftRight => ">>" | .other s => s

/-- Unary operators. -/
inductive UnOp where
  | plus | minus | not
deriving DecidableEq, Repr, Inhabited

/-- The `IS` tests with no second operand. -/
inductive IsTest where
  | null | notNull | true_ | notTrue | false_ | notFalse | unknown | notUnknown
deriving DecidableEq, Repr, Inhabited

/-- The text of an `IS` test after its operand. -/
def IsTest.render : IsTest → String
  | .null => "IS NULL" | .notNull => "IS NOT NULL" | .true_ => "IS TRUE"
  | .notTrue => "IS NOT TRUE" | .false_ => "IS FALSE" | .notFalse => "IS NOT FALSE"
  | .unknown => "IS UNKNOWN" | .notUnknown => "IS NOT UNKNOWN"

/-- Pattern matching operators. -/
inductive MatchOp where
  | like | ilike | similarTo | regexp | rlike
deriving DecidableEq, Repr, Inhabited

/-- The keyword of a pattern matching operator. -/
def MatchOp.keyword : MatchOp → String
  | .like => "LIKE" | .ilike => "ILIKE" | .similarTo => "SIMILAR TO" | .regexp => "REGEXP"
  | .rlike => "RLIKE"

/-- Set operators between query bodies. -/
inductive SetOp where
  | union | except | intersect
deriving DecidableEq, Repr, Inhabited

/-- The keyword of a set operator. -/
def SetOp.keyword : SetOp → String
  | .union => "UNION" | .except => "EXCEPT" | .intersect => "INTERSECT"

/-- The kinds of join. -/
inductive JoinKind where
  | inner | leftOuter | rightOuter | fullOuter | leftSemi | rightSemi | leftAnti | rightAnti
  | cross | crossApply | outerApply
  /-- `ASOF JOIN ... MATCH_CONDITION (m)`, with the text of its match condition. -/
  | asOf (matchCondition : String)
deriving DecidableEq, Repr, Inhabited

/-- Clauses of a SELECT block that no later stage reads, kept as their text so that the
block is written back whole. -/
structure SelectClauses where
  /-- `LATERAL VIEW` clauses, each with a leading space. -/
  lateralViews : String := ""
  /-- `CLUSTER BY`, `DISTRIBUTE BY` and `SORT BY`, each with a leading space. -/
  distribution : String := ""
  /-- The named windows of `WINDOW`, each `name AS definition`. -/
  windows : List String := []
  /-- Whether `WINDOW` was written before `QUALIFY`; they are written back in that order. -/
  windowFirst : Bool := false
  /-- A hierarchical query's `START WITH c CONNECT BY r`. -/
  connectBy : Option String := none
deriving DecidableEq, Repr, Inhabited

/-- Clauses of a query that no later stage reads, kept as their text. -/
structure QueryClauses where
  /-- `INTERPOLATE [(...)]` after the ORDER BY entries. -/
  interpolate : Option String := none
  /-- The `key = value` entries of `SETTINGS`. -/
  settings : List String := []
  /-- `FOR XML ...`, `FOR JSON ...` or `FOR BROWSE`. -/
  forClause : Option String := none
  /-- `FORMAT name` or `FORMAT NULL`. -/
  format : Option String := none
deriving DecidableEq, Repr, Inhabited

/-- Parts of a named table in FROM that no later stage reads. -/
structure TableExtras where
  /-- The partitions of `name PARTITION (p, ...)`. -/
  partitions : List Ident := []
  /-- The `key = value` entries of `SETTINGS` at the end of the table's arguments. -/
  settings : Option (List String) := none
  /-- Whether `WITH ORDINALITY` follows the arguments. -/
  withOrdinality : Bool := false
deriving DecidableEq, Repr, Inhabited

/-- A locking clause `FOR UPDATE | SHARE [OF name] [NOWAIT | SKIP LOCKED]`. -/
inductive Lock where
  | mk (share : Bool) (of : Option (List Ident)) (nonblock : Option String)

/-- `DISTINCT`, or `DISTINCT ON (...)` with the text of its expressions. -/
inductive Distinct where
  | plain
  | on (exprs : String)

/-- An alias with optional column names. -/
inductive TableAlias where
  | mk (name : Ident) (columns : List Ident)

mutual

/-- Expressions. -/
inductive Expr where
  | ident (i : Ident)
  | compound (parts : List Ident)
  | lit (v : Literal)
  | typed (typeName : String) (text : String)
  | binary (left : Expr) (op : BinOp) (right : Expr)
  | quantified (left : Expr) (op : BinOp) (quantifier : String) (right : Expr)
  | unary (op : UnOp) (e : Expr)
  | nested (e : Expr)
  | tuple (items : List Expr)
  | inList (e : Expr) (items : List Expr) (negated : Bool)
  | inQuery (e : Expr) (q : Query) (negated : Bool)
  /-- `e [NOT] IN UNNEST(array)`. -/
  | inUnnest (e array : Expr) (negated : Bool)
  | between (e low high : Expr) (negated : Bool)
  | matches (op : MatchOp) (negated any : Bool) (e pattern : Expr) (escape : Option String)
  | isTest (e : Expr) (test : IsTest)
  | isDistinct (e other : Expr) (negated : Bool)
  /-- A call `name(params)(args)`: `params` is present only when two argument lists are
  written. `withinGroup` is the ordering of `WITHIN GROUP (ORDER BY ...)`, and `nulls` a null
  treatment written after the call. -/
  | call (name : List Ident) (params args : CallArgs) (withinGroup : List OrderExpr)
      (nulls : Option String) (window : Option Window)
  | exists (q : Query) (negated : Bool)
  | subquery (q : Query)
  | array (items : List Expr) (keyword : Bool)
  | caseWhen (operand : Option Expr) (branches : List When) (otherwise : Option Expr)
  /-- A conversion: `kind` is `CAST`, `TRY_CAST`, `SAFE_CAST`, or `::` for the postfix form. -/
  | cast (kind : String) (e : Expr) (typeName : String)
  | interval (value : Expr) (qualifier : String)
  /-- A keyword form with its own argument syntax, such as `EXTRACT(YEAR FROM d)`:
  `seps` holds the text written before each argument. -/
  | keywordCall (name : String) (seps : List String) (args : List Expr)
  /-- Text that a keyword form holds as it was read, such as the data type of `CONVERT`. -/
  | verbatim (text : String)
  /-- A string after a character set introducer: `_utf8 'text'`. -/
  | introduced (charset : String) (value : Literal)
  /-- `PRIOR e`, the value of `e` in the parent row of a hierarchical query. -/
  | prior (e : Expr)
  | collate (e : Expr) (collation : List Ident)
  | field (e : Expr) (key : Ident)
  /-- `{key: value, ...}`, a dictionary; each entry is a `keyValue` whose key is a name. -/
  | dictionary (entries : List Expr)
  /-- `MAP {key: value, ...}`; each entry is a `keyValue`. -/
  | mapLiteral (entries : List Expr)
  /-- `key: value`, an entry of a dictionary or a map. -/
  | keyValue (key value : Expr)
  /-- `e!`, the factorial of `e`. -/
  | factorial (e : Expr)
  /-- `e[i]`, or the slice `e[lower:upper:stride]` when `slice` holds. -/
  | subscript (e : Expr) (lower upper stride : Option Expr) (slice : Bool)
  | wildcard
  | qualifiedWildcard (parts : List Ident)

/-- One `WHEN c THEN r` branch. -/
inductive When where
  | mk (condition result : Expr)

/-- The parenthesized part of a call: absent, an argument list, or a subquery. -/
inductive CallArgs where
  | none
  | list (quantifier : Option String) (args : List CallArg) (clauses : List CallClause)
  | subquery (q : Query)

/-- A clause after the arguments of a call, inside its parentheses. -/
inductive CallClause where
  /-- `IGNORE NULLS` or `RESPECT NULLS`. -/
  | nulls (text : String)
  | orderBy (items : List OrderExpr)
  | limit (e : Expr)
  /-- `HAVING MIN e` or `HAVING MAX e`. -/
  | having (kind : String) (e : Expr)
  | separator (v : Literal)
  /-- `ON OVERFLOW ERROR`. -/
  | overflowError
  /-- `ON OVERFLOW TRUNCATE [filler] WITH | WITHOUT COUNT`. -/
  | overflowTruncate (filler : Option Expr) (withCount : Bool)

/-- A call argument, plain or named. -/
inductive CallArg where
  | unnamed (e : Expr)
  | named (name : Ident) (op : String) (e : Expr)

/-- A window: inline specification or a named window. -/
inductive Window where
  | spec (name : Option Ident) (partitionBy : List Expr) (orderBy : List OrderExpr)
      (frame : Option String)
  | named (name : Ident)

/-- An ORDER BY entry: `asc` is `some true` for ASC, `some false` for DESC. -/
inductive OrderExpr where
  /-- `fill` is the text of a `WITH FILL` clause. -/
  | mk (e : Expr) (asc : Option Bool) (nullsFirst : Option Bool) (fill : Option String)

/-- A query: WITH clause, body, ORDER BY, LIMIT, OFFSET and trailing clauses; the WITH,
OFFSET and FETCH clauses are kept as their text. -/
inductive Query where
  | mk (withClause : Option String) (body : SetExpr) (orderBy : Option (List OrderExpr))
      (limit : Option Expr) (offset : Option String) (limitBy : List Expr)
      (fetch : Option String) (locks : List Lock) (clauses : QueryClauses)

/-- The body of a query. -/
inductive SetExpr where
  | select (s : Select)
  | query (q : Query)
  | setOp (left : SetExpr) (op : SetOp) (quantifier : String) (right : SetExpr)
  /-- `VALUES` rows; `explicitRow` when some row was written `ROW(...)`, and then every
  row is written so. -/
  | values (explicitRow : Bool) (rows : List (List Expr))
  | table (name : String)
  /-- An `INSERT` or `UPDATE` standing as the body of a query, by its text. -/
  | command (text : String)

/-- A SELECT block; `top` and `into` are the text of its `TOP` and `INTO` clauses. -/
inductive Select where
  | mk (distinct : Option Distinct) (top : Option String) (items : List SelectItem)
      (into : Option String) (source : List FromItem) (prewhere : Option Expr)
      (selection : Option Expr) (groupBy : GroupBy) (having : Option Expr)
      (qualify : Option Expr) (clauses : SelectClauses)

/-- An entry of the SELECT list. -/
inductive SelectItem where
  | unnamed (e : Expr)
  | aliased (e : Expr) (aliasName : Ident)
  | qualifiedWildcard (parts : List Ident) (options : String)
  | wildcard (options : String)

/-- GROUP BY: expressions or ALL, with modifiers such as `WITH ROLLUP`. -/
inductive GroupBy where
  | exprs (items : List Expr) (modifiers : List String)
  | all (modifiers : List String)

/-- A FROM item: a table factor followed by joins. -/
inductive FromItem where
  | mk (relation : TableFactor) (joins : List Join)

/-- A join onto the item before it. -/
inductive Join where
  | mk (relation : TableFactor) (kind : JoinKind) (constraint : JoinConstraint) (global : Bool)

/-- The condition of a join. -/
inductive JoinConstraint where
  | on (e : Expr)
  | using (columns : List Ident)
  | natural
  | none

/-- A table factor. -/
inductive TableFactor where
  | table (name : List Ident) (aliasName : Option TableAlias) (args : Option (List CallArg))
      (hints : List Expr) (extras : TableExtras)
  | derived (lateral : Bool) (q : Query) (aliasName : Option TableAlias)
  | nestedJoin (item : FromItem) (aliasName : Option TableAlias)
  | function (name : List Ident) (args : List CallArg) (aliasName : Option TableAlias)
  | tableFunction (e : Expr) (aliasName : Option TableAlias)
  /-- A source the planner does not read, such as a pivoted table, `UNNEST(...)` or
  `JSON_TABLE(...)`, kept as its text before the alias and the text after it. -/
  | other (text : String) (aliasName : Option TableAlias) (after : String)

end

/-- Joins rendered items with `", "`. -/
def commaList (xs : List String) : String := ", ".intercalate xs

/-- Renders a list of identifiers separated by commas. -/
def renderIdents (is : List Ident) : String := commaList (is.map Ident.render)

/-- Locking clauses, each with a leading space. -/
def Lock.renderList : List Lock → String
  | [] => ""
  | .mk share ofName nb :: ls =>
    " FOR " ++ (if share then "SHARE" else "UPDATE")
      ++ (match ofName with | some n => " OF " ++ renderName n | none => "")
      ++ (match nb with | some t => " " ++ t | none => "") ++ Lock.renderList ls

/-- The text of a DISTINCT clause. -/
def Distinct.render : Distinct → String
  | .plain => "DISTINCT"
  | .on es => "DISTINCT ON (" ++ es ++ ")"

/-- An optional alias, with ` AS ` before it. -/
def TableAlias.renderOpt : Option TableAlias → String
  | some (.mk n cols) =>
    " AS " ++ n.render ++ (if cols.isEmpty then "" else " (" ++ renderIdents cols ++ ")")
  | none => ""

mutual

/-- The canonical text of an expression. -/
def Expr.render : Expr → String
  | .ident i => i.render
  | .compound parts => renderName parts
  | .lit v => v.render
  | .typed t s => t ++ " '" ++ escapeQuoted '\'' s ++ "'"
  | .binary l op r => l.render ++ " " ++ op.symbol ++ " " ++ r.render
  | .quantified l op kw r =>
    l.render ++ " " ++ op.symbol ++ " " ++ kw
      ++ (match r with | .subquery _ => r.render | _ => "(" ++ r.render ++ ")")
  | .unary .not e => "NOT " ++ e.render
  | .unary .minus e => "-" ++ e.render
  | .unary .plus e => "+" ++ e.render
  | .nested e => "(" ++ e.render ++ ")"
  | .tuple items => "(" ++ Expr.renderList items ++ ")"
  | .inList e items neg =>
    e.render ++ " " ++ (if neg then "NOT " else "") ++ "IN (" ++ Expr.renderList items ++ ")"
  | .inQuery e q neg =>
    e.render ++ " " ++ (if neg then "NOT " else "") ++ "IN (" ++ q.render ++ ")"
  | .inUnnest e a neg =>
    e.render ++ " " ++ (if neg then "NOT " else "") ++ "IN UNNEST(" ++ a.render ++ ")"
  | .between e lo hi neg =>
    e.render ++ " " ++ (if neg then "NOT " else "") ++ "BETWEEN " ++ lo.render ++ " AND "
      ++ hi.render
  | .matches op neg any e p esc =>
    e.render ++ " " ++ (if neg then "NOT " else "") ++ op.keyword ++ " "
      ++ (if any then "ANY " else "") ++ p.render
      ++ (match esc with | some c => " ESCAPE '" ++ c ++ "'" | none => "")
  | .isTest e t => e.render ++ " " ++ t.render
  | .isDistinct e o neg =>
    e.render ++ " IS " ++ (if neg then "NOT " else "") ++ "DISTINCT FROM " ++ o.render
  | .call name params args withinGroup nulls window =>
    renderName name ++ params.render ++ args.render
      ++ (if withinGroup.isEmpty then ""
          else " WITHIN GROUP (ORDER BY " ++ OrderExpr.renderList withinGroup ++ ")")
      ++ (match nulls with | some t => " " ++ t | none => "")
      ++ (match window with | some w => " OVER " ++ w.render | none => "")
  | .exists q neg => (if neg then "NOT " else "") ++ "EXISTS (" ++ q.render ++ ")"
  | .subquery q => "(" ++ q.render ++ ")"
  | .array items kw => (if kw then "ARRAY" else "") ++ "[" ++ Expr.renderList items ++ "]"
  | .caseWhen operand branches otherwise =>
    "CASE" ++ (match operand with | some o => " " ++ o.render | none => "")
      ++ When.renderList branches
      ++ (match otherwise with | some e => " ELSE " ++ e.render | none => "") ++ " END"
  | .cast kind e t =>
    if kind = "::" then e.render ++ "::" ++ t else kind ++ "(" ++ e.render ++ " AS " ++ t ++ ")"
  | .interval v q => "INTERVAL " ++ v.render ++ q
  | .keywordCall name seps args => name ++ "(" ++ Expr.renderPieces seps args ++ ")"
  | .verbatim t => t
  | .introduced cs v => cs ++ " " ++ v.render
  | .prior e => "PRIOR " ++ e.render
  | .collate e c => e.render ++ " COLLATE " ++ renderName c
  | .field e k => e.render ++ "." ++ k.render
  | .dictionary entries => "\x7b" ++ Expr.renderList entries ++ "\x7d"
  | .mapLiteral entries => "MAP \x7b" ++ Expr.renderList entries ++ "\x7d"
  | .keyValue k v => k.render ++ ": " ++ v.render
  | .factorial e => e.render ++ "!"
  | .subscript e lower upper stride slice =>
    e.render ++ "[" ++ (match lower with | some x => x.render | none => "")
      ++ (if slice then
            ":" ++ (match upper with | some x => x.render | none => "")
              ++ (match stride with | some x => ":" ++ x.render | none => "")
          else "")
      ++ "]"
  | .wildcard => "*"
  | .qualifiedWildcard parts => renderName parts ++ ".*"

/-- Expressions joined by `", "`. -/
def Expr.renderList : List Expr → String
  | [] => ""
  | [e] => e.render
  | e :: es => e.render ++ ", " ++ Expr.renderList es

/-- Arguments, each after its separator text. -/
def Expr.renderPieces : List String → List Expr → String
  | s :: ss, e :: es => s ++ e.render ++ Expr.renderPieces ss es
  | _, _ => ""

/-- The branches of a CASE, each with a leading space. -/
def When.renderList : List When → String
  | [] => ""
  | .mk c r :: ws => " WHEN " ++ c.render ++ " THEN " ++ r.render ++ When.renderList ws

/-- The parenthesized part of a call. -/
def CallArgs.render : CallArgs → String
  | .none => ""
  | .list quant args clauses =>
    "(" ++ (match quant with | some q => q ++ " " | none => "") ++ CallArg.renderList args
      ++ (if clauses.isEmpty then ""
          else (if args.isEmpty then "" else " ") ++ CallClause.renderList clauses)
      ++ ")"
  | .subquery q => "(" ++ q.render ++ ")"

/-- Clauses of a call joined by spaces. -/
def CallClause.renderList : List CallClause → String
  | [] => ""
  | [c] => c.render
  | c :: cs => c.render ++ " " ++ CallClause.renderList cs

/-- The text of a clause of a call. -/
def CallClause.render : CallClause → String
  | .nulls t => t
  | .orderBy items => "ORDER BY " ++ OrderExpr.renderList items
  | .limit e => "LIMIT " ++ e.render
  | .having kind e => "HAVING " ++ kind ++ " " ++ e.render
  | .separator v => "SEPARATOR " ++ v.render
  | .overflowError => "ON OVERFLOW ERROR"
  | .overflowTruncate filler withCount =>
    "ON OVERFLOW TRUNCATE" ++ (match filler with | some f => " " ++ f.render | none => "")
      ++ (if withCount then " WITH" else " WITHOUT") ++ " COUNT"

/-- Call arguments joined by `", "`. -/
def CallArg.renderList : List CallArg → String
  | [] => ""
  | [a] => a.render
  | a :: as => a.render ++ ", " ++ CallArg.renderList as

/-- The text of one call argument. -/
def CallArg.render : CallArg → String
  | .unnamed e => e.render
  | .named n op e => n.render ++ " " ++ op ++ " " ++ e.render

/-- The text of a window. -/
def Window.render : Window → String
  | .named n => n.render
  | .spec name parts orderBy frame =>
    let pieces := (match name with | some n => [n.render] | none => [])
      ++ (if parts.isEmpty then [] else ["PARTITION BY " ++ Expr.renderList parts])
      ++ (if orderBy.isEmpty then [] else ["ORDER BY " ++ OrderExpr.renderList orderBy])
      ++ (match frame with | some f => [f] | none => [])
    "(" ++ " ".intercalate pieces ++ ")"

/-- ORDER BY entries joined by `", "`. -/
def OrderExpr.renderList : List OrderExpr → String
  | [] => ""
  | [o] => o.render
  | o :: os => o.render ++ ", " ++ OrderExpr.renderList os

/-- The text of an ORDER BY entry. -/
def OrderExpr.render : OrderExpr → String
  | .mk e asc nulls fill =>
    e.render ++ (match asc with | some true => " ASC" | some false => " DESC" | none => "")
      ++ (match nulls with | some true => " NULLS FIRST" | some false => " NULLS LAST" | none => "")
      ++ (match fill with | some f => " " ++ f | none => "")

/-- The text of a query. -/
def Query.render : Query → String
  | .mk w body orderBy limit offset limitBy fetch locks clauses =>
    (match w with | some c => c ++ " " | none => "") ++ body.render
      ++ (match orderBy with | some os => " ORDER BY " ++ OrderExpr.renderList os | none => "")
      ++ (match clauses.interpolate with | some i => " " ++ i | none => "")
      ++ (match limit with | some l => " LIMIT " ++ l.render | none => "")
      ++ (match offset with | some o => " " ++ o | none => "")
      ++ (if limitBy.isEmpty then "" else " BY " ++ Expr.renderList limitBy)
      ++ (if clauses.settings.isEmpty then "" else " SETTINGS " ++ commaList clauses.settings)
      ++ (match fetch with | some f => " " ++ f | none => "")
      ++ Lock.renderList locks
      ++ (match clauses.forClause with | some c => " " ++ c | none => "")
      ++ (match clauses.format with | some c => " " ++ c | none => "")

/-- The text of a query body. -/
def SetExpr.render : SetExpr → String
  | .select s => s.render
  | .query q => "(" ++ q.render ++ ")"
  | .setOp l op quant r => l.render ++ " " ++ op.keyword ++ quant ++ " " ++ r.render
  | .values row rows => "VALUES " ++ SetExpr.renderRows (if row then "ROW" else "") rows
  | .table name => "TABLE " ++ name
  | .command text => text

/-- VALUES rows joined by `", "`, each after `pre`. -/
def SetExpr.renderRows (pre : String) : List (List Expr) → String
  | [] => ""
  | [r] => pre ++ "(" ++ Expr.renderList r ++ ")"
  | r :: rs => pre ++ "(" ++ Expr.renderList r ++ "), " ++ SetExpr.renderRows pre rs

/-- The text of a SELECT block. -/
def Select.render : Select → String
  | .mk distinct top items into source prewhere selection groupBy having qualify clauses =>
    let windows := if clauses.windows.isEmpty then "" else " WINDOW " ++ commaList clauses.windows
    let qualified := match qualify with | some e => " QUALIFY " ++ e.render | none => ""
    "SELECT" ++ (match distinct with | some d => " " ++ d.render | none => "")
      ++ (match top with | some t => " " ++ t | none => "")
      ++ " " ++ SelectItem.renderList items
      ++ (match into with | some t => " " ++ t | none => "")
      ++ (if source.isEmpty then "" else " FROM " ++ FromItem.renderList source)
      ++ clauses.lateralViews
      ++ (match prewhere with | some e => " PREWHERE " ++ e.render | none => "")
      ++ (match selection with | some e => " WHERE " ++ e.render | none => "")
      ++ groupBy.render
      ++ clauses.distribution
      ++ (match having with | some e => " HAVING " ++ e.render | none => "")
      ++ (if clauses.windowFirst then windows ++ qualified else qualified ++ windows)
      ++ (match clauses.connectBy with | some c => " " ++ c | none => "")

/-- SELECT list entries joined by `", "`. -/
def SelectItem.renderList : List SelectItem → String
  | [] => ""
  | [i] => i.render
  | i :: is => i.render ++ ", " ++ SelectItem.renderList is

/-- The text of a SELECT list entry. -/
def SelectItem.render : SelectItem → String
  | .unnamed e => e.render
  | .aliased e a => e.render ++ " AS " ++ a.render
  | .qualifiedWildcard parts opts => renderName parts ++ ".*" ++ opts
  | .wildcard opts => "*" ++ opts

/-- The text of a GROUP BY clause, with a leading space, or nothing. -/
def GroupBy.render : GroupBy → String
  | .all mods => " GROUP BY ALL" ++ String.join (mods.map (" " ++ ·))
  | .exprs items mods =>
    if items.isEmpty then ""
    else " GROUP BY " ++ Expr.renderList items ++ String.join (mods.map (" " ++ ·))

/-- FROM items joined by `", "`. -/
def FromItem.renderList : List FromItem → String
  | [] => ""
  | [f] => f.render
  | f :: fs => f.render ++ ", " ++ FromItem.renderList fs

/-- The text of a FROM item. -/
def FromItem.render : FromItem → String
  | .mk rel joins => rel.render ++ Join.renderList joins

/-- Joins, each with a leading space. -/
def Join.renderList : List Join → String
  | [] => ""
  | j :: js => " " ++ j.render ++ Join.renderList js

/-- The text of a join. -/
def Join.render : Join → String
  | .mk rel kind c global =>
    let pre := (if global then "GLOBAL " else "") ++ match c with | .natural => "NATURAL " | _ => ""
    let word := match kind with
      | .inner => "JOIN" | .leftOuter => "LEFT JOIN" | .rightOuter => "RIGHT JOIN"
      | .fullOuter => "FULL JOIN" | .leftSemi => "LEFT SEMI JOIN"
      | .rightSemi => "RIGHT SEMI JOIN" | .leftAnti => "LEFT ANTI JOIN"
      | .rightAnti => "RIGHT ANTI JOIN" | .cross => "CROSS JOIN"
      | .crossApply => "CROSS APPLY" | .outerApply => "OUTER APPLY" | .asOf _ => "ASOF JOIN"
    let condition := match kind with
      | .asOf m => " MATCH_CONDITION (" ++ m ++ ")"
      | _ => ""
    pre ++ word ++ " " ++ rel.render ++ condition ++ c.render

/-- The text of a join condition, with a leading space, or nothing. -/
def JoinConstraint.render : JoinConstraint → String
  | .on e => " ON " ++ e.render
  | .using cols => " USING(" ++ renderIdents cols ++ ")"
  | .natural | .none => ""

/-- The text of a table factor. -/
def TableFactor.render : TableFactor → String
  | .table name aliasName args hints extras =>
    let settings := match extras.settings with
      | some kvs => "SETTINGS " ++ commaList kvs
      | none => ""
    let inner := match args with
      | some a =>
        "(" ++ CallArg.renderList a ++ (if a.isEmpty || settings.isEmpty then "" else ", ")
          ++ settings ++ ")"
      | none => ""
    renderName name
      ++ (if extras.partitions.isEmpty then ""
          else "PARTITION (" ++ renderIdents extras.partitions ++ ")")
      ++ inner ++ (if extras.withOrdinality then " WITH ORDINALITY" else "")
      ++ TableAlias.renderOpt aliasName
      ++ (if hints.isEmpty then "" else " WITH (" ++ Expr.renderList hints ++ ")")
  | .derived lat q aliasName =>
    (if lat then "LATERAL " else "") ++ "(" ++ q.render ++ ")" ++ TableAlias.renderOpt aliasName
  | .nestedJoin item aliasName => "(" ++ item.render ++ ")" ++ TableAlias.renderOpt aliasName
  | .function name args aliasName =>
    "LATERAL " ++ renderName name ++ "(" ++ CallArg.renderList args ++ ")"
      ++ TableAlias.renderOpt aliasName
  | .tableFunction e aliasName => "TABLE(" ++ e.render ++ ")" ++ TableAlias.renderOpt aliasName
  | .other text aliasName after => text ++ TableAlias.renderOpt aliasName ++ after

end

end CsvQuery.Sql
