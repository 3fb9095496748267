import CsvQuery.Sql.ColumnOption

/-!
# Data types

Readers of SQL data types, written back in their canonical text: `INT(3) UNSIGNED`,
`VARCHAR(10 CHARACTERS)`, `TIMESTAMP(3) WITH TIME ZONE`, `NUMERIC(10,2)`,
`ARRAY<INT>`, `STRUCT<a INT, TEXT>`, `Nullable(INT)`, `TEXT[][3]` and names the reader does
not know, such as `geometry(point, 4326)`.

Angle brackets nest, and the lexer reads `>>` as one token. A type that ends on `>>` uses
its first `>` and hands the second to the type around it; `TypeRead.closesOuter` carries
that. A whole type may not end that way.

`Nested(...)` holds whole column definitions, whose options may hold expressions
(`Nested(x INT DEFAULT 5)`); the readers of types therefore take the reader of an
expression's text, `expr`, from the reader that meets the type.

Here too are the readers of date and time fields and of the qualifier of an interval.
-/

namespace CsvQuery.Sql

open Reader

/-- Reads an optional `(n)`. -/
def readOptionalPrecision : Reader (Option Nat) := do
  if ← eat .lparen then
    let p ← readLiteralUint
    expect .rparen ")"
    pure (some p)
  else pure none

/-- Reads an optional `(p)` or `(p, s)`. -/
def readOptionalPrecisionScale : Reader (Option Nat × Option Nat) := do
  if ← eat .lparen then
    let p ← readLiteralUint
    let s ← if ← eat .comma then some <$> readLiteralUint else pure none
    expect .rparen ")"
    pure (some p, s)
  else pure (none, none)

/-- `(n)` for a given number, nothing otherwise. -/
def parenthesized : Option Nat → String
  | some p => "(" ++ toString p ++ ")"
  | none => ""

/-- Reads an optional character length `(MAX)` or `(n [CHARACTERS | OCTETS])`, as text. -/
def readOptionalCharLength : Reader String := do
  if ← eat .lparen then
    let len ← do
      if ← eatKeyword "MAX" then pure "MAX"
      else
        let n ← readLiteralUint
        let unit ← do
          if ← eatKeyword "CHARACTERS" then pure " CHARACTERS"
          else if ← eatKeyword "OCTETS" then pure " OCTETS"
          else pure ""
        pure (toString n ++ unit)
    expect .rparen ")"
    pure ("(" ++ len ++ ")")
  else pure ""

/-- Reads `('a', 'b', ...)`, the values of an `ENUM` or `SET` type, as text. -/
def readStringValuesFrom : Nat → Reader (List String)
  | 0 => outOfFuel
  | n + 1 => do
    let v ← match ← next with
      | some (.singleQuoted s) => pure s
      | _ => failWith "Expected: a string"
    match ← next with
    | some .comma => return v :: (← readStringValuesFrom n)
    | some .rparen => return [v]
    | _ => failWith "Expected: , or )"

/-- Reads the parenthesized modifiers after the name of a type the reader does not know:
words, numbers and strings, with commas between them skipped. Words keep their quotes,
numbers and strings are their bare text. -/
def readTypeModifiersFrom : Nat → Reader (List String)
  | 0 => outOfFuel
  | n + 1 => do
    match ← next with
    | some (.word v q) => return (Token.word v q).plainText :: (← readTypeModifiersFrom n)
    | some (.number t _) => return t :: (← readTypeModifiersFrom n)
    | some (.singleQuoted s) => return s :: (← readTypeModifiersFrom n)
    | some .comma => readTypeModifiersFrom n
    | some .rparen => return []
    | _ => failWith "Expected: type modifiers"

/-- A data type as read: its text; whether its name is one the reader does not know (a
custom type, which never types a string); and whether it ended on a `>>` whose second `>`
closes the type around it. -/
structure TypeRead where
  text : String
  custom : Bool := false
  closesOuter : Bool := false

/-- Reads the `>` that closes an angle bracket, unless the type inside already closed it
with `>>`; says whether a `>>` read here closes the type around it too. -/
def expectClosingAngle (closed : Bool) : Reader Bool := do
  if closed then return false
  match ← peek with
  | some .gt => advance; return false
  | some .shiftRight => advance; return true
  | _ => failWith "Expected: >"

/-- Reads any number of `[n]` or `[]` suffixes, each making an array of the type before. -/
def readArraySuffixes : Nat → TypeRead → Reader TypeRead
  | 0, _ => outOfFuel
  | n + 1, t => do
    if ← eat .lbracket then
      let size ← attempt readLiteralUint
      expect .rbracket "]"
      readArraySuffixes n { t with text := t.text ++ "[" ++ ((size.map toString).getD "") ++ "]",
                                   custom := false }
    else pure t

/-- Reads a type the reader does not know: a dotted name and optional modifiers. -/
def readCustomType : Reader TypeRead := do
  let name ← readObjectName
  let mods ← if ← eat .lparen then fun ts => readTypeModifiersFrom (ts.length + 1) ts
    else pure []
  return { text := renderName name ++ (if mods.isEmpty then "" else "(" ++ commaList mods ++ ")"),
           custom := true }

/-- Integer type names that take a display width and `UNSIGNED`. -/
def sizedIntegerTypes : List String :=
  ["TINYINT", "INT2", "SMALLINT", "MEDIUMINT", "INT", "INT4", "INT8", "INTEGER", "BIGINT"]

/-- Type names that stand alone, with the text each is written back as. -/
def plainTypes : List (String × String) :=
  [("BOOL", "BOOL"), ("BOOLEAN", "BOOLEAN"), ("REAL", "REAL"), ("FLOAT4", "FLOAT4"),
   ("FLOAT32", "Float32"), ("FLOAT64", "FLOAT64"), ("FLOAT8", "FLOAT8"), ("INT16", "Int16"),
   ("INT32", "Int32"), ("INT64", "INT64"), ("INT128", "Int128"), ("INT256", "Int256"),
   ("UINT8", "UInt8"), ("UINT16", "UInt16"), ("UINT32", "UInt32"), ("UINT64", "UInt64"),
   ("UINT128", "UInt128"), ("UINT256", "UInt256"), ("UUID", "UUID"), ("DATE", "DATE"),
   ("DATE32", "Date32"), ("INTERVAL", "INTERVAL"), ("JSON", "JSON"), ("JSONB", "JSONB"),
   ("REGCLASS", "REGCLASS"), ("TEXT", "TEXT"), ("BYTEA", "BYTEA"), ("TRIGGER", "TRIGGER")]

/-- Type names that take an optional `(n)`. -/
def precisionTypes : List String :=
  ["FLOAT", "CLOB", "BINARY", "VARBINARY", "BLOB", "BYTES", "DATETIME", "STRING"]

/-- Type names that take an optional exact precision and scale. -/
def exactNumberTypes : List String := ["NUMERIC", "DECIMAL", "DEC", "BIGNUMERIC", "BIGDECIMAL"]

mutual

/-- Reads a whole data type; a final `>>` that closes more than the type opened is
refused. -/
def readTypeTop (expr : Reader String) : Nat → Reader TypeRead
  | 0 => outOfFuel
  | n + 1 => do
    let t ← readTypeFrom expr n
    if t.closesOuter then failWith ("unmatched > after parsing data type " ++ t.text)
    pure t

/-- Reads a data type: a name with its arguments, then array suffixes. -/
def readTypeFrom (expr : Reader String) : Nat → Reader TypeRead
  | 0 => outOfFuel
  | n + 1 => do
    let t ← readTypeName expr n
    readArraySuffixes n t

/-- Reads a type name with its arguments. -/
def readTypeName (expr : Reader String) : Nat → Reader TypeRead
  | 0 => outOfFuel
  | n + 1 => do
    match ← peek with
    | some (.word v none) =>
      let up := upperWord v
      match plainTypes.lookup up with
      | some text => advance; return { text }
      | none => pure ()
      if precisionTypes.contains up then
        advance
        return { text := up ++ parenthesized (← readOptionalPrecision) }
      if sizedIntegerTypes.contains up then
        advance
        let p ← readOptionalPrecision
        let unsigned ← eatKeyword "UNSIGNED"
        return { text := up ++ parenthesized p ++ (if unsigned then " UNSIGNED" else "") }
      if exactNumberTypes.contains up then
        advance
        let (p, s) ← readOptionalPrecisionScale
        let info := match p, s with
          | some p, some s => "(" ++ toString p ++ "," ++ toString s ++ ")"
          | some p, none => "(" ++ toString p ++ ")"
          | none, _ => ""
        return { text := up ++ info }
      match up with
      | "DOUBLE" =>
        advance
        return { text := if ← eatKeyword "PRECISION" then "DOUBLE PRECISION" else "DOUBLE" }
      | "VARCHAR" | "NVARCHAR" =>
        advance
        return { text := up ++ (← readOptionalCharLength) }
      | "CHARACTER" | "CHAR" =>
        advance
        if ← eatKeyword "VARYING" then
          return { text := up ++ " VARYING" ++ (← readOptionalCharLength) }
        if ← eatKeywords ["LARGE", "OBJECT"] then
          return { text := up ++ " LARGE OBJECT" ++ parenthesized (← readOptionalPrecision) }
        return { text := up ++ (← readOptionalCharLength) }
      | "TIMESTAMP" | "TIME" =>
        advance
        let p ← readOptionalPrecision
        let zone ← do
          if ← eatKeyword "WITH" then
            expectKeyword "TIME"
            expectKeyword "ZONE"
            pure " WITH TIME ZONE"
          else if ← eatKeyword "WITHOUT" then
            expectKeyword "TIME"
            expectKeyword "ZONE"
            pure " WITHOUT TIME ZONE"
          else pure ""
        return { text := up ++ parenthesized p ++ zone }
      | "TIMESTAMPTZ" | "TIMETZ" =>
        advance
        return { text := up ++ parenthesized (← readOptionalPrecision) }
      | "DATETIME64" =>
        advance
        expect .lparen "("
        let p ← readLiteralUint
        let zone ← if ← eat .comma then some <$> readLiteralString else pure none
        expect .rparen ")"
        return { text := "DateTime64(" ++ toString p
                   ++ (match zone with | some z => ", '" ++ z ++ "'" | none => "") ++ ")" }
      | "FIXEDSTRING" =>
        advance
        expect .lparen "("
        let len ← readLiteralUint
        expect .rparen ")"
        return { text := "FixedString(" ++ toString len ++ ")" }
      | "ENUM" | "SET" =>
        advance
        expect .lparen "("
        let vs ← fun ts => readStringValuesFrom (ts.length + 1) ts
        return { text := up ++ "(" ++ commaList (vs.map fun v => "'" ++ escapeQuoted '\'' v ++ "'")
                   ++ ")" }
      | "ARRAY" =>
        advance
        expect .lt "<"
        let inner ← readTypeFrom expr n
        let closes ← expectClosingAngle inner.closesOuter
        return { text := "ARRAY<" ++ inner.text ++ ">", closesOuter := closes }
      | "STRUCT" =>
        advance
        if (← peek) != some .lt then return { text := "STRUCT" }
        advance
        let (fields, closed) ← readStructFields expr n
        let closes ← expectClosingAngle closed
        return { text := "STRUCT<" ++ commaList fields ++ ">", closesOuter := closes }
      | "UNION" =>
        advance
        expect .lparen "("
        let fields ← commaSep do
          let name ← readIdent
          let t ← readTypeTop expr n
          pure (name.render ++ " " ++ t.text)
        expect .rparen ")"
        return { text := "UNION(" ++ commaList fields ++ ")" }
      | "NULLABLE" | "LOWCARDINALITY" =>
        advance
        expect .lparen "("
        let t ← readTypeTop expr n
        expect .rparen ")"
        return { text := (if up = "NULLABLE" then "Nullable(" else "LowCardinality(") ++ t.text ++ ")" }
      | "MAP" =>
        advance
        expect .lparen "("
        let k ← readTypeTop expr n
        expect .comma ","
        let v ← readTypeTop expr n
        expect .rparen ")"
        return { text := "Map(" ++ k.text ++ ", " ++ v.text ++ ")" }
      | "NESTED" =>
        advance
        expect .lparen "("
        let cols ← commaSep (readColumnDefFrom expr n)
        expect .rparen ")"
        return { text := "Nested(" ++ commaList cols ++ ")" }
      | "TUPLE" =>
        advance
        expect .lparen "("
        let fields ← commaSep ((·.1) <$> readStructField expr n)
        expect .rparen ")"
        return { text := "Tuple(" ++ commaList fields ++ ")" }
      | _ => readCustomType
    | some (.word _ (some _)) => readCustomType
    | _ => failWith "Expected: a data type name"

/-- Reads the fields of `STRUCT<...>` after the `<`, and says whether the last ended on a
`>>` that closes the struct. A field that ends that way must be the last. -/
def readStructFields (expr : Reader String) : Nat → Reader (List String × Bool)
  | 0 => outOfFuel
  | n + 1 => do
    let (field, closed) ← readStructField expr n
    if ← eat .comma then
      if closed then failWith "unmatched > in STRUCT definition"
      let (rest, c) ← readStructFields expr n
      pure (field :: rest, c)
    else pure ([field], closed)

/-- Reads a struct field: a type, named when two words come first. -/
def readStructField (expr : Reader String) : Nat → Reader (String × Bool)
  | 0 => outOfFuel
  | n + 1 => do
    let named ← do
      match (← peek), (← peekSecond) with
      | some (.word _ _), some (.word _ _) => pure true
      | _, _ => pure false
    let name ← if named then (fun i => i.render ++ " ") <$> readIdent else pure ""
    let t ← readTypeFrom expr n
    pure (name ++ t.text, t.closesOuter)


/-- Reads a column definition: a name, a data type, an optional collation and the column's
options, as text. A later `COLLATE` among the options replaces an earlier one, and the
collation is written right after the type. -/
def readColumnDefFrom (expr : Reader String) : Nat → Reader String
  | 0 => outOfFuel
  | n + 1 => do
    let name ← readIdent
    let t ← readTypeTop expr n
    let collation ← do
      if ← eatKeyword "COLLATE" then pure (some (renderName (← readObjectName))) else pure none
    let (collation, options) ← fun ts => readColumnOptions expr (ts.length + 1) collation [] ts
    return name.render ++ " " ++ t.text
      ++ (match collation with | some c => " COLLATE " ++ c | none => "")
      ++ String.join (options.map (" " ++ ·))

end

/-- Reads a data type with what the reader learned about it. Each level of nesting spends
a few units of fuel and consumes at least two tokens, so four units a token suffice. -/
def readTypeInfo (expr : Reader String) : Reader TypeRead := fun ts =>
  readTypeTop expr (4 * ts.length + 4) ts

/-- Reads the optional field list `<...>` after `STRUCT`, and says whether it ended on a
`>>` whose second `>` is left over. -/
def readStructTypeDef (expr : Reader String) : Reader (List String × Bool) := do
  if (← peek) != some .lt then return ([], false)
  advance
  let (fields, closed) ← fun ts => readStructFields expr (4 * ts.length + 4) ts
  let closes ← expectClosingAngle closed
  return (fields, closes)

/-- Reads a data type and gives its canonical text. -/
def readDataType (expr : Reader String) : Reader String := (·.text) <$> readTypeInfo expr

/-- Reads a column definition and gives its canonical text. -/
def readColumnDef (expr : Reader String) : Reader String := fun ts =>
  readColumnDefFrom expr (4 * ts.length + 4) ts

/-- Date and time fields named by keyword. -/
def dateTimeFields : List String :=
  ["YEAR", "MONTH", "WEEK", "DAY", "DAYOFWEEK", "DAYOFYEAR", "DATE", "DATETIME", "HOUR", "MINUTE",
   "SECOND", "CENTURY", "DECADE", "DOY", "DOW", "EPOCH", "ISODOW", "ISOYEAR", "ISOWEEK", "JULIAN",
   "MICROSECOND", "MICROSECONDS", "MILLENIUM", "MILLENNIUM", "MILLISECOND", "MILLISECONDS",
   "NANOSECOND", "NANOSECONDS", "QUARTER", "TIME", "TIMEZONE", "TIMEZONE_ABBR", "TIMEZONE_HOUR",
   "TIMEZONE_MINUTE", "TIMEZONE_REGION"]

/-- The fields that may follow the value of an interval as its unit. -/
def intervalUnits : List String :=
  ["YEAR", "MONTH", "WEEK", "DAY", "HOUR", "MINUTE", "SECOND", "CENTURY", "DECADE", "DOW", "DOY",
   "EPOCH", "ISODOW", "ISOYEAR", "JULIAN", "MICROSECOND", "MICROSECONDS", "MILLENIUM",
   "MILLENNIUM", "MILLISECOND", "MILLISECONDS", "NANOSECOND", "NANOSECONDS", "QUARTER",
   "TIMEZONE", "TIMEZONE_HOUR", "TIMEZONE_MINUTE"]

/-- Reads a date or time field: a field keyword, written in upper case, or any other
identifier, written as given. `WEEK` may name its first day: `WEEK(MONDAY)`. -/
def readDateTimeField : Reader String := do
  match ← peek with
  | some (.word v none) =>
    let up := upperWord v
    if dateTimeFields.contains up then
      advance
      if up = "WEEK" then
        if ← eat .lparen then
          let d ← readIdent
          expect .rparen ")"
          return "WEEK(" ++ d.render ++ ")"
      pure up
    else pure (← readIdent).render
  | some (.word _ _) | some (.singleQuoted _) => pure (← readIdent).render
  | _ => failWith "Expected: date/time field"

/-- ` (n)` for a given number, nothing otherwise. -/
def spacedPrecision : Option Nat → String
  | some p => " (" ++ toString p ++ ")"
  | none => ""

/-- Reads the qualifier after an interval's value, as text with a leading space: a unit
with an optional precision and an optional `TO` unit. `SECOND` takes its precision and
fractional precision together, `SECOND (p, s)`. Without a unit there is no qualifier. -/
def readIntervalQualifier : Reader String := do
  if !(← nextIsKeyword intervalUnits) then return ""
  let unit ← readDateTimeField
  if unit = "SECOND" then
    let (p, s) ← readOptionalPrecisionScale
    return match p, s with
      | some p, some s => " SECOND (" ++ toString p ++ ", " ++ toString s ++ ")"
      | p, _ => " SECOND" ++ spacedPrecision p
  let lead ← readOptionalPrecision
  if ← eatKeyword "TO" then
    let last ← readDateTimeField
    let frac ← if last = "SECOND" then readOptionalPrecision else pure none
    return " " ++ unit ++ spacedPrecision lead ++ " TO " ++ last ++ spacedPrecision frac
  return " " ++ unit ++ spacedPrecision lead

end CsvQuery.Sql
