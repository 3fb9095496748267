import CsvQuery.Json.Basic
import CsvQuery.Json.Binary64
import CsvQuery.Text.Decimal
import CsvQuery.Text.GraphemeExtend
import CsvQuery.Text.Printable

/-!
# Reading a settings record from JSON text

A strict JSON reader for one record of string fields, reporting failures the way the
settings file's users see them: a message and the place it was found, as a line (from 1)
and a column counted in bytes from the start of the line.

A record is read from an object, by member name (unknown members are skipped, a known one
may not repeat, missing ones stay unset), or from an array, by position (at most one
element per field; missing trailing elements stay unset). Two places are used when a
failure is reported: "here" is just past what was read; "at the next character" is just
past the first byte of the character looked at, so that a failure on the character that
broke the rule points at that character.
-/

namespace CsvQuery

namespace Json

/-- A place in a text: the line, from 1, and the bytes read on that line. -/
structure Position where
  line : Nat := 1
  column : Nat := 0
deriving DecidableEq, Repr, Inhabited

/-- The position after one more character. -/
def Position.step (p : Position) (c : Char) : Position :=
  if c = '\n' then ⟨p.line + 1, 0⟩ else ⟨p.line, p.column + c.utf8Size⟩

/-- The position `k` bytes further on in `cs`; it may fall inside a character, which is
then not a line break. -/
def Position.skipBytes : Position → List Char → Nat → Position
  | p, _, 0 => p
  | p, [], _ => p
  | p, c :: cs, k + 1 =>
    if c.utf8Size ≤ k + 1 then Position.skipBytes (p.step c) cs (k + 1 - c.utf8Size)
    else ⟨p.line, p.column + (k + 1)⟩

/-- The position just past the first byte of the character looked at, if any. -/
def Position.past (p : Position) : Option Char → Position
  | some '\n' => ⟨p.line + 1, 0⟩
  | some _ => ⟨p.line, p.column + 1⟩
  | none => p

/-- A failure to read, with its place. -/
structure ReadFailure where
  message : String
  position : Position
deriving DecidableEq, Repr, Inhabited

/-- The message followed by its place. -/
def ReadFailure.render (f : ReadFailure) : String :=
  f.message ++ " at line " ++ Decimal.renderNat f.position.line ++ " column "
    ++ Decimal.renderNat f.position.column

/-- The unread text and the position of its first character. -/
structure Cursor where
  rest : List Char
  position : Position := {}
deriving DecidableEq, Repr, Inhabited

/-- Reading JSON text, failing with a placed message. -/
abbrev TextReader := StateT Cursor (Except ReadFailure)

/-- What a value turned out to be, when it was not what was expected. -/
inductive Found where
  | null
  | bool (b : Bool)
  | unsigned (n : Nat)
  | signed (i : Int)
  | float (text : String)
  | str (s : String)
  | seq
  | map
deriving DecidableEq, Repr, Inhabited

/-- The escape `\u{h}` of a character, with its code point in lower-case hexadecimal
without leading zeros. -/
def unicodeEscape (c : Char) : List Char :=
  ['\\', 'u', '\x7b'] ++ hexDigits c.toNat ++ ['\x7d']
where
  /-- The hexadecimal digits of `n`, at least one. -/
  hexDigits (n : Nat) : List Char :=
    if n < 16 then [hexDigit n] else hexDigits (n / 16) ++ [hexDigit (n % 16)]
  termination_by n
  decreasing_by omega

/-- A character escaped for display inside a quoted string: quotes, backslashes and the
common controls by a backslash, a character that extends the one before it or that is
not printable by its code point, and any other as it is. -/
def debugChar (c : Char) : List Char :=
  if c = '"' then ['\\', '"']
  else if c = '\\' then ['\\', '\\']
  else if c = '\n' then ['\\', 'n']
  else if c = '\r' then ['\\', 'r']
  else if c = '\t' then ['\\', 't']
  else if c.toNat = 0 then ['\\', '0']
  else if GraphemeExtend.isGraphemeExtend c then unicodeEscape c
  else if c.toNat < 0x20 || c.toNat = 0x7F then unicodeEscape c
  else if c.toNat < 0x7F then [c]
  else if Printable.isPrintable c then [c]
  else unicodeEscape c

/-- How a found value is named in a type mismatch. -/
def Found.describe : Found → String
  | .null => "null"
  | .bool b => "boolean \x60" ++ (if b then "true" else "false") ++ "\x60"
  | .unsigned n => "integer \x60" ++ Decimal.renderNat n ++ "\x60"
  | .signed i => "integer \x60" ++ Decimal.render i ++ "\x60"
  | .float t => "floating point \x60" ++ t ++ "\x60"
  | .str s => "string \"" ++ String.ofList (s.toList.flatMap debugChar) ++ "\""
  | .seq => "sequence"
  | .map => "map"

/-- A number as written: the digits before the point, those after it if any, and the
exponent's sign (whether it is negative) and digits if any. -/
structure NumberText where
  whole : List Char
  fraction : Option (List Char)
  exponent : Option (Bool × List Char)
deriving DecidableEq, Repr, Inhabited

namespace NumberText

/-- The greatest value of an unsigned 64-bit integer. -/
def u64Max : Nat := Nat.pow 2 64 - 1

/-- Accumulates the digits before the point into a significand `s` while it stays below
`2^64`; from the first digit that would take it past, every digit only raises the decimal
exponent `x`. -/
def wholeParts : List Char → Nat → Int → Nat × Int
  | [], s, x => (s, x)
  | c :: cs, s, x =>
    if x ≠ 0 then wholeParts cs s (x + 1)
    else
      let s' := s * 10 + Decimal.digitValue c
      if s' > u64Max then wholeParts cs s (x + 1) else wholeParts cs s' x

/-- Accumulates the digits after the point into the significand, each lowering the
decimal exponent, up to the first digit that would take it past `2^64`; that digit and
the rest are dropped. -/
def fractionParts : List Char → Nat → Int → Nat × Int
  | [], s, x => (s, x)
  | c :: cs, s, x =>
    let s' := s * 10 + Decimal.digitValue c
    if s' > u64Max then (s, x) else fractionParts cs s' (x - 1)

/-- The value of the exponent digits, `.inr v`, or `.inl i` when the digit at index `i`
(not the first) would take it past `2^31 - 1`. -/
def exponentValue : List Char → Nat → Nat → Sum Nat Nat
  | [], _, v => .inr v
  | c :: cs, i, v =>
    let v' := v * 10 + Decimal.digitValue c
    if i > 0 && v' > 2147483647 then .inl i else exponentValue cs (i + 1) v'

/-- An exponent held to the range of a signed 32-bit integer. -/
def clampExponent (x : Int) : Int := max (-2147483648) (min 2147483647 x)

end NumberText

namespace TextReader

/-- The message of a failure, by cause. -/
def eofValue : String := "EOF while parsing a value"
def eofString : String := "EOF while parsing a string"
def eofList : String := "EOF while parsing a list"
def eofObject : String := "EOF while parsing an object"
def expectedIdent : String := "expected ident"
def expectedValue : String := "expected value"
def expectedColon : String := "expected \x60:\x60"
def listCommaOrEnd : String := "expected \x60,\x60 or \x60]\x60"
def objectCommaOrEnd : String := "expected \x60,\x60 or \x60\x7d\x60"
def invalidEscape : String := "invalid escape"
def invalidNumber : String := "invalid number"
def controlInString : String := "control character (\\u0000-\\u001F) found while parsing a string"
def keyNotString : String := "key must be a string"
def trailingComma : String := "trailing comma"
def trailingCharacters : String := "trailing characters"
def loneSurrogate : String := "lone leading surrogate in hex escape"
def hexEscapeEnd : String := "unexpected end of hex escape"
def numberOutOfRange : String := "number out of range"

/-- The next character, not read. -/
def peek : TextReader (Option Char) := return (← get).rest.head?

/-- Reads one character. -/
def eat : TextReader Unit :=
  modify fun c =>
    match c.rest with
    | ch :: r => ⟨r, c.position.step ch⟩
    | [] => c

/-- Reads and returns one character. -/
def next : TextReader (Option Char) := do
  let ch ← peek
  eat
  return ch

/-- Fails just past what was read. -/
def failHere (message : String) : TextReader α := do throw ⟨message, (← get).position⟩

/-- Fails at the next character. -/
def failAtNext (message : String) : TextReader α := do
  let c ← get
  throw ⟨message, c.position.past c.rest.head?⟩

/-- Whether a character is JSON white space. -/
def isSpace (c : Char) : Bool := c = ' ' || c = '\n' || c = '\t' || c = '\r'

/-- Skips white space; returns the next character, not read. -/
def skipSpace : TextReader (Option Char) := do
  modify fun c =>
    let (ws, r) := c.rest.span isSpace
    ⟨r, ws.foldl Position.step c.position⟩
  peek

/-- Reads the rest of a keyword whose first character was read. -/
def readWord : List Char → TextReader Unit
  | [] => pure ()
  | e :: es => do
    match ← next with
    | none => failHere eofValue
    | some c => if c = e then readWord es else failHere expectedIdent

/-- The value of a hexadecimal digit. -/
def hexValue? (c : Char) : Option Nat :=
  if '0' ≤ c && c ≤ '9' then some (c.toNat - 48)
  else if 'a' ≤ c && c ≤ 'f' then some (c.toNat - 87)
  else if 'A' ≤ c && c ≤ 'F' then some (c.toNat - 55)
  else none

/-- Reads the four hexadecimal digits of a `\u` escape. The escape spans the next four
bytes: with fewer left the text ends inside the string, and when one of the four is not a
hexadecimal digit the escape is refused just past them, inside a character if the fourth
byte is not its last. -/
def readHex4 : TextReader Nat := do
  let c ← get
  let four := c.rest.take 4
  if four.foldl (fun acc ch => acc + ch.utf8Size) 0 < 4 then
    set (Cursor.mk [] (c.rest.foldl Position.step c.position))
    failHere eofString
  else
    match four.mapM hexValue? with
    | some ds =>
      set (Cursor.mk (c.rest.drop 4) (four.foldl Position.step c.position))
      pure (ds.foldl (fun acc d => acc * 16 + d) 0)
    | none =>
      set (Cursor.mk [] (c.position.skipBytes c.rest 4))
      failHere invalidEscape

/-- Reads the rest of a `\u` escape whose four digits gave `n`; `keep` checks surrogates. -/
def readUnicode (n : Nat) : TextReader (List Char) := do
  if 0xDC00 ≤ n && n ≤ 0xDFFF then failHere loneSurrogate
  else if n < 0xD800 || n > 0xDBFF then pure [Char.ofNat n]
  else
    match ← peek with
    | none => failHere eofString
    | some '\\' =>
      eat
      match ← peek with
      | none => failHere eofString
      | some 'u' =>
        eat
        let n2 ← readHex4
        if n2 < 0xDC00 || n2 > 0xDFFF then failHere loneSurrogate
        else pure [Char.ofNat ((n - 0xD800) * 1024 + (n2 - 0xDC00) + 0x10000)]
      | some _ => eat; failHere hexEscapeEnd
    | some _ => eat; failHere hexEscapeEnd

/-- Reads one escape after its backslash; `keep` reads it as text, otherwise it is only
checked. -/
def readEscape (keep : Bool) : TextReader (List Char) := do
  match ← next with
  | none => failHere eofString
  | some '"' => pure ['"']
  | some '\\' => pure ['\\']
  | some '/' => pure ['/']
  | some 'b' => pure [Char.ofNat 8]
  | some 'f' => pure [Char.ofNat 12]
  | some 'n' => pure ['\n']
  | some 'r' => pure ['\r']
  | some 't' => pure ['\t']
  | some 'u' =>
    let n ← readHex4
    if keep then readUnicode n else pure []
  | some _ => failHere invalidEscape

/-- Reads a string after its opening quote, up to and with its closing quote. -/
def readStringFrom (keep : Bool) : Nat → List Char → TextReader String
  | 0, acc => pure (String.ofList acc.reverse)
  | n + 1, acc => do
    match ← peek with
    | none => failHere eofString
    | some '"' => eat; pure (String.ofList acc.reverse)
    | some '\\' =>
      eat
      let cs ← readEscape keep
      readStringFrom keep n (cs.reverse ++ acc)
    | some c =>
      if c.toNat < 0x20 then
        if keep then eat
        failHere controlInString
      else
        eat
        readStringFrom keep n (c :: acc)

/-- Reads a string after its opening quote. -/
def readString (keep : Bool) : TextReader String := do
  readStringFrom keep ((← get).rest.length + 1) []

/-- Reads a run of decimal digits. -/
def readDigits : TextReader (List Char) := do
  let c ← get
  let (ds, r) := c.rest.span Char.isDigit
  set (Cursor.mk r (ds.foldl Position.step c.position))
  return ds

/-- Reads a number after its optional minus sign, checking its form only. `strict`
reports a number cut off by the end of the text as such; otherwise as an invalid
number. -/
def readNumberText (strict : Bool) : TextReader NumberText := do
  let whole ← match ← next with
    | none => if strict then failHere eofValue else failHere invalidNumber
    | some '0' =>
      match ← peek with
      | some d => if d.isDigit then failAtNext invalidNumber else pure ['0']
      | none => pure ['0']
    | some d =>
      if d.isDigit then do pure (d :: (← readDigits)) else failHere invalidNumber
  let fraction ← match ← peek with
    | some '.' => do
      eat
      let ds ← readDigits
      if ds.isEmpty then
        match ← peek with
        | some _ => failAtNext invalidNumber
        | none => if strict then failAtNext eofValue else failAtNext invalidNumber
      else pure (some ds)
    | _ => pure none
  let exponent ← match ← peek with
    | some 'e' | some 'E' => do
      eat
      let minus ← match ← peek with
        | some '+' => do eat; pure false
        | some '-' => do eat; pure true
        | _ => pure false
      match ← next with
      | none => if strict then failHere eofValue else failHere invalidNumber
      | some d =>
        if d.isDigit then do pure (some (minus, d :: (← readDigits)))
        else failHere invalidNumber
    | _ => pure none
  return ⟨whole, fraction, exponent⟩

/-- The value of a number read, as a value of the kind it was read as: an integer while
its digits fit in 64 bits and it has no fraction or exponent, a binary64 number
otherwise. A number too large for binary64 is out of range; so is one whose exponent
passes `2^31 - 1`, reported just past the digit that took it there, unless it is zero or
its exponent negative, and then it is zero. -/
def numberValue (negative : Bool) (t : NumberText) : TextReader Found := do
  let (s₀, x₀) := NumberText.wholeParts t.whole 0 0
  let float (s : Nat) (x : Int) : TextReader Found :=
    match Binary64.ofDecimalParts s x with
    | some b => pure (.float (b.render negative))
    | none => failHere numberOutOfRange
  match t.fraction, t.exponent with
  | none, none =>
    if x₀ ≠ 0 then float s₀ x₀
    else if !negative then pure (.unsigned s₀)
    else if s₀ = 0 || s₀ > Nat.pow 2 63 then float s₀ 0
    else pure (.signed (-(s₀ : Int)))
  | _, _ =>
    let (s, x) := match t.fraction with
      | some fs => NumberText.fractionParts fs s₀ x₀
      | none => (s₀, x₀)
    match t.exponent with
    | none => float s x
    | some (minus, ds) =>
      match NumberText.exponentValue ds 0 0 with
      | .inl i =>
        if s ≠ 0 && !minus then
          let p := (← get).position
          throw ⟨numberOutOfRange, ⟨p.line, p.column - (ds.length - i - 1)⟩⟩
        else pure (.float (Binary64.zero.render negative))
      | .inr v => float s (NumberText.clampExponent (if minus then x - v else x + v))

/-- Reads a number after its optional minus sign, and its value. -/
def readNumber (negative : Bool) : TextReader Found := do
  numberValue negative (← readNumberText true)

/-- Reads any value, only to check and skip it; `depth` bounds the nesting. -/
def skipValue : Nat → TextReader Unit
  | 0 => pure ()
  | depth + 1 => do
    match ← skipSpace with
    | none => failAtNext eofValue
    | some 'n' => eat; readWord ['u', 'l', 'l']
    | some 't' => eat; readWord ['r', 'u', 'e']
    | some 'f' => eat; readWord ['a', 'l', 's', 'e']
    | some '-' => eat; discard (readNumberText false)
    | some '"' => eat; discard (readString false)
    | some '[' =>
      eat
      match ← skipSpace with
      | some ']' => eat
      | none => failAtNext eofList
      | some _ => skipItems depth depth
    | some '{' =>
      eat
      match ← skipSpace with
      | some '}' => eat
      | none => failAtNext eofObject
      | some _ => skipMembers depth depth
    | some c => if c.isDigit then discard (readNumberText false) else failAtNext expectedValue
where
  /-- Skips array elements up to and with the closing bracket. -/
  skipItems (depth : Nat) : Nat → TextReader Unit
    | 0 => pure ()
    | n + 1 => do
      skipValue depth
      match ← skipSpace with
      | some ',' => eat; skipItems depth n
      | some ']' => eat
      | some _ => failAtNext listCommaOrEnd
      | none => failAtNext eofList
  /-- Skips object members up to and with the closing brace. -/
  skipMembers (depth : Nat) : Nat → TextReader Unit
    | 0 => pure ()
    | n + 1 => do
      match ← skipSpace with
      | some '"' => eat
      | some _ => failAtNext keyNotString
      | none => failAtNext eofObject
      discard (readString false)
      match ← skipSpace with
      | some ':' => eat
      | some _ => failAtNext expectedColon
      | none => failAtNext eofObject
      skipValue depth
      match ← skipSpace with
      | some ',' => eat; skipMembers depth n
      | some '}' => eat
      | some _ => failAtNext objectCommaOrEnd
      | none => failAtNext eofObject

/-- Reads a value that is not what was expected, and fails naming it. -/
def mismatch (expected : String) : TextReader α := do
  let found ← match ← peek with
    | some 'n' => do eat; readWord ['u', 'l', 'l']; pure Found.null
    | some 't' => do eat; readWord ['r', 'u', 'e']; pure (Found.bool true)
    | some 'f' => do eat; readWord ['a', 'l', 's', 'e']; pure (Found.bool false)
    | some '-' => do eat; readNumber true
    | some '"' => do eat; pure (Found.str (← readString true))
    | some '[' => pure Found.seq
    | some '{' => pure Found.map
    | some c => if c.isDigit then readNumber false else failAtNext expectedValue
    | none => failAtNext expectedValue
  failHere ("invalid type: " ++ found.describe ++ ", expected " ++ expected)

/-- Reads a string value. -/
def readText : TextReader String := do
  match ← skipSpace with
  | none => failAtNext eofValue
  | some '"' => eat; readString true
  | some _ => mismatch "a string"

/-- The character after a comma between elements or members, which must begin another
one: the text may not end there. -/
def afterComma : TextReader (Option Char) := do
  match ← skipSpace with
  | none => failAtNext eofValue
  | some c => pure (some c)

/-- Reads array elements into the fields, one per field at most; `first` is whether none
was read yet. -/
def readItems : List (Option String) → Bool → Nat → TextReader (List (Option String))
  | acc, _, 0 => pure acc.reverse
  | acc, first, k + 1 => do
    let ahead ← match ← skipSpace with
      | some ']' => pure none
      | some ',' =>
        if first then pure (some ',')
        else do eat; afterComma
      | some c => if first then pure (some c) else failAtNext listCommaOrEnd
      | none => failAtNext eofList
    match ahead with
    | none => readItems (none :: acc) first k
    | some ']' => failAtNext trailingComma
    | some _ => readItems (some (← readText) :: acc) false k

/-- Reads the end of an array after its last wanted element. -/
def readSeqEnd : TextReader Unit := do
  match ← skipSpace with
  | some ']' => eat
  | some ',' =>
    eat
    match ← skipSpace with
    | some ']' => failAtNext trailingComma
    | _ => failAtNext trailingCharacters
  | some _ => failAtNext trailingCharacters
  | none => failAtNext eofList

/-- Reads object members into the fields named `names`; `first` is whether none was
read yet. -/
def readMembers (names : List String) :
    List (Option String) → Bool → Nat → TextReader (List (Option String))
  | fields, _, 0 => pure fields
  | fields, first, n + 1 => do
    let ahead ← match ← skipSpace with
      | some '}' => pure none
      | some ',' =>
        if first then pure (some ',')
        else do eat; afterComma
      | some c => if first then pure (some c) else failAtNext objectCommaOrEnd
      | none => failAtNext eofObject
    match ahead with
    | none => pure fields
    | some '"' =>
      eat
      let key ← readString true
      match names.idxOf? key with
      | some i =>
        if (fields[i]?.bind id).isSome then
          match ← skipSpace with
          | some '}' => eat; failHere ("duplicate field \x60" ++ key ++ "\x60")
          | _ => failHere ("duplicate field \x60" ++ key ++ "\x60")
        else
          colon
          let v ← readText
          readMembers names (fields.set i (some v)) false n
      | none =>
        colon
        skipValue n
        readMembers names fields false n
    | some '}' => failAtNext trailingComma
    | some _ => failAtNext keyNotString
where
  /-- Reads the colon after a member name. -/
  colon : TextReader Unit := do
    match ← skipSpace with
    | some ':' => eat
    | some _ => failAtNext expectedColon
    | none => failAtNext eofObject

/-- Reads the fields named `names` from an object or an array; `what` names the record
in a type mismatch. -/
def readRecord (what : String) (names : List String) : TextReader (List (Option String)) := do
  let size := (← get).rest.length + 1
  match ← skipSpace with
  | none => failAtNext eofValue
  | some '[' =>
    eat
    let fields ← readItems [] true names.length
    readSeqEnd
    pure fields
  | some '{' =>
    eat
    let fields ← readMembers names (names.map fun _ => none) true size
    match ← skipSpace with
    | some '}' => eat
    | some ',' => failAtNext trailingComma
    | some _ => failAtNext trailingCharacters
    | none => failAtNext eofObject
    pure fields
  | some _ => mismatch what

end TextReader

/-- Reads the whole text as a record of the fields named `names`: each field's value if
given. Fails with the placed message. -/
def readRecordText (what : String) (names : List String) (text : String) :
    Except String (List (Option String)) :=
  let whole : TextReader (List (Option String)) := do
    let fields ← TextReader.readRecord what names
    match ← TextReader.skipSpace with
    | some _ => TextReader.failAtNext TextReader.trailingCharacters
    | none => pure fields
  match whole.run ⟨text.toList, {}⟩ with
  | .ok (fields, _) => .ok fields
  | .error f => .error f.render

end Json

end CsvQuery
