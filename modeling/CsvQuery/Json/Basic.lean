import CsvQuery.Text.Decimal

/-!
# JSON values and their pretty text

A JSON value whose objects keep their members in the order given, and its pretty text:
two spaces of indentation per level, one member or element per line, `": "` between a key
and its value, and `[]` and `{}` for empty containers. In strings `"` and `\` are escaped,
as are the control characters below U+0020: `\b`, `\f`, `\n`, `\r` and `\t` by their short
forms, the others as `\u00xx` with lower-case hex digits. Everything else is written as is.
-/

namespace CsvQuery

/-- A JSON value; an object keeps its members in order. -/
inductive Json where
  | null
  | bool (b : Bool)
  | int (i : Int)
  | str (s : String)
  | arr (items : List Json)
  | obj (members : List (String × Json))
deriving Repr, Inhabited

namespace Json

/-- A lower-case hexadecimal digit. -/
def hexDigit (n : Nat) : Char := if n < 10 then Char.ofNat (48 + n) else Char.ofNat (87 + n)

/-- The escaped form of one character inside a JSON string. -/
def escapeChar (c : Char) : List Char :=
  if c = '"' then ['\\', '"']
  else if c = '\\' then ['\\', '\\']
  else if c = '\n' then ['\\', 'n']
  else if c = '\r' then ['\\', 'r']
  else if c = '\t' then ['\\', 't']
  else if c.toNat = 8 then ['\\', 'b']
  else if c.toNat = 12 then ['\\', 'f']
  else if c.toNat < 0x20 then ['\\', 'u', '0', '0', hexDigit (c.toNat / 16), hexDigit (c.toNat % 16)]
  else [c]

/-- A string as a JSON string literal. -/
def quote (s : String) : String := "\"" ++ String.ofList (s.toList.flatMap escapeChar) ++ "\""

/-- Indentation for a nesting level. -/
def pad (level : Nat) : String := String.ofList (List.replicate (2 * level) ' ')

mutual

/-- The pretty text of a value that stands at nesting level `level`. -/
def pretty (level : Nat) : Json → String
  | .null => "null"
  | .bool b => if b then "true" else "false"
  | .int i => Decimal.render i
  | .str s => quote s
  | .arr [] => "[]"
  | .arr items => "[\n" ++ ",\n".intercalate (prettyItems (level + 1) items) ++ "\n" ++ pad level ++ "]"
  | .obj [] => "\x7b\x7d"
  | .obj members =>
    "\x7b\n" ++ ",\n".intercalate (prettyMembers (level + 1) members) ++ "\n" ++ pad level ++ "\x7d"

/-- The lines of array elements at nesting level `level`. -/
def prettyItems (level : Nat) : List Json → List String
  | [] => []
  | j :: js => (pad level ++ pretty level j) :: prettyItems level js

/-- The lines of object members at nesting level `level`. -/
def prettyMembers (level : Nat) : List (String × Json) → List String
  | [] => []
  | (k, v) :: ms => (pad level ++ quote k ++ ": " ++ pretty level v) :: prettyMembers level ms

end

/-- The pretty text of a top-level value. -/
def render (j : Json) : String := pretty 0 j

/-- A list of strings as a JSON array. -/
def strs (xs : List String) : Json := .arr (xs.map .str)

end Json

end CsvQuery
