import CsvQuery.Sql.Token
import CsvQuery.Sql.Syntax
import CsvQuery.Text.Alphabetic
import CsvQuery.Text.Blank
import CsvQuery.Text.Numeric

/-!
# The SQL lexer

Splits SQL text into tokens, longest lexeme first:

* identifiers start with a letter (Unicode Alphabetic) or `_` and continue with letters,
  ASCII digits, `_`, `$`, `#` and `@`; `"..."` and `` `...` `` quote an identifier, a
  doubled quote standing for itself;
* `'...'` is a string (a doubled `'` stands for itself); `N'...'` a national string and
  `X'...'` a hexadecimal string, in both of which a backslash escapes the next character;
  `0x` followed by hexadecimal digits is a hexadecimal string too; `E'...'` takes C-like
  escapes (`\n`, `\x41`, `\101`, `\u00e9`, `\U0001F600`) and refuses a NUL or a byte
  beyond ASCII; `U&'...'` takes code point escapes `\XXXX` and `\+XXXXXX`; `B'...'`,
  `R'...'` and `R'''...'''` (or with `"`) are kept as they are written back, and so are
  `$$...$$` and `$tag$...$tag$`;
* `?` with optional Unicode digits, and `$name`, are placeholders; `#` and `@` start a word
  unless an operator such as `#>` or `@>` is spelled or a blank follows;
* numbers are ASCII digits with an optional fraction and exponent (`.5`, `1.`, `1e-3`),
  and a trailing `L` marks a long literal;
* `--` comments run to the end of the line, `/* */` comments nest;
* blanks are Unicode White_Space.

Unterminated strings, quoted identifiers and comments are errors.
-/

namespace CsvQuery.Sql

/-- Characters that may continue an identifier. -/
def isIdentPart (c : Char) : Bool :=
  Alphabetic.isAlphabetic c || c.isDigit || c = '@' || c = '$' || c = '#' || c = '_'

/-- Characters that may start an identifier. -/
def isIdentStart (c : Char) : Bool :=
  Alphabetic.isAlphabetic c || c = '_' || c = '#' || c = '@'

/-- Whether `c` is an ASCII hexadecimal digit. -/
def isHexDigit (c : Char) : Bool :=
  c.isDigit || ('a' ≤ c && c ≤ 'f') || ('A' ≤ c && c ≤ 'F')

/-- Splits off the longest prefix whose characters satisfy `p`. -/
def spanWhile (p : Char → Bool) (cs : List Char) : List Char × List Char :=
  (cs.takeWhile p, cs.dropWhile p)

/-- Reads the rest of a quoted text up to the closing `q`, a doubled `q` standing for one.
Returns the text and what follows the closing quote. -/
def readQuoted (q : Char) : List Char → Option (List Char × List Char)
  | [] => none
  | c :: rest =>
    if c = q then
      match rest with
      | d :: rest' => if d = q then (readQuoted q rest').map fun (s, r) => (q :: s, r)
                      else some ([], rest)
      | [] => some ([], [])
    else (readQuoted q rest).map fun (s, r) => (c :: s, r)

/-- Skips the body of a block comment at nesting `depth`; `last` is the previous
character. Returns what follows the comment. -/
def skipBlockComment (depth : Nat) (last : Char) : List Char → Option (List Char)
  | [] => none
  | c :: rest =>
    if last = '/' && c = '*' then skipBlockComment (depth + 1) c rest
    else if last = '*' && c = '/' then
      if depth ≤ 1 then some rest else skipBlockComment (depth - 1) c rest
    else skipBlockComment depth c rest

/-- Skips a line comment, the line feed included. -/
def skipLineComment (cs : List Char) : List Char := (cs.dropWhile (· ≠ '\n')).drop 1

/-- Reads an exponent `e[+-]digits` if one follows; otherwise nothing. -/
def readExponent (cs : List Char) : List Char × List Char :=
  match cs with
  | e :: rest =>
    if e = 'e' || e = 'E' then
      let (sign, rest') := match rest with
        | s :: r => if s = '+' || s = '-' then ([s], r) else ([], rest)
        | [] => ([], rest)
      match rest' with
      | d :: _ =>
        if d.isDigit then
          let (ds, r) := spanWhile Char.isDigit rest'
          (e :: sign ++ ds, r)
        else ([], cs)
      | [] => ([], cs)
    else ([], cs)
  | [] => ([], cs)

/-- The token of an operator or punctuation character `c` followed by `rest`, with what
follows it; `none` when `c` starts none of them. -/
def readSymbol (c : Char) (rest : List Char) : Option (Token × List Char) :=
  match c, rest with
  | '(', r => some (.lparen, r)
  | ')', r => some (.rparen, r)
  | ',', r => some (.comma, r)
  | ';', r => some (.semicolon, r)
  | '[', r => some (.lbracket, r)
  | ']', r => some (.rbracket, r)
  | '+', r => some (.plus, r)
  | '*', r => some (.mul, r)
  | '%', r => some (.modulo, r)
  | '-', '>' :: '>' :: r => some (.other "->>", r)
  | '-', '>' :: r => some (.other "->", r)
  | '-', r => some (.minus, r)
  | '/', '/' :: r => some (.intDiv, r)
  | '/', r => some (.div, r)
  | '|', '/' :: r => some (.other "|/", r)
  | '|', '|' :: '/' :: r => some (.other "||/", r)
  | '|', '|' :: r => some (.concat, r)
  | '|', r => some (.pipe, r)
  | '=', '>' :: r => some (.rightArrow, r)
  | '=', '=' :: r => some (.doubleEq, r)
  | '=', r => some (.eq, r)
  | '!', '=' :: r => some (.neq, r)
  | '!', '!' :: r => some (.other "!!", r)
  | '!', '~' :: '*' :: r => some (.other "!~*", r)
  | '!', '~' :: '~' :: '*' :: r => some (.other "!~~*", r)
  | '!', '~' :: '~' :: r => some (.other "!~~", r)
  | '!', '~' :: r => some (.other "!~", r)
  | '!', r => some (.other "!", r)
  | '<', '=' :: '>' :: r => some (.spaceship, r)
  | '<', '=' :: r => some (.le, r)
  | '<', '>' :: r => some (.neq, r)
  | '<', '<' :: r => some (.shiftLeft, r)
  | '<', '@' :: r => some (.other "<@", r)
  | '<', r => some (.lt, r)
  | '>', '=' :: r => some (.ge, r)
  | '>', '>' :: r => some (.shiftRight, r)
  | '>', r => some (.gt, r)
  | ':', ':' :: r => some (.doubleColon, r)
  | ':', '=' :: r => some (.assignment, r)
  | ':', r => some (.colon, r)
  | '&', '&' :: r => some (.other "&&", r)
  | '&', r => some (.ampersand, r)
  | '^', '@' :: r => some (.other "^@", r)
  | '^', r => some (.caret, r)
  | '~', '*' :: r => some (.other "~*", r)
  | '~', '~' :: '*' :: r => some (.other "~~*", r)
  | '~', '~' :: r => some (.other "~~", r)
  | '~', r => some (.other "~", r)
  | '#', '-' :: r => some (.other "#-", r)
  | '#', '>' :: '>' :: r => some (.other "#>>", r)
  | '#', '>' :: r => some (.other "#>", r)
  | '#', ' ' :: r => some (.other "#", ' ' :: r)
  | '#', [] => some (.other "#", [])
  | '@', '>' :: r => some (.other "@>", r)
  | '@', '?' :: r => some (.other "@?", r)
  | '@', '@' :: ' ' :: r => some (.other "@@", ' ' :: r)
  | '@', ['@'] => some (.other "@@", [])
  | '@', ' ' :: r => some (.other "@", ' ' :: r)
  | '@', [] => some (.other "@", [])
  | '\\', r => some (.other "\\", r)
  | '{', r => some (.other "\x7b", r)
  | '}', r => some (.other "\x7d", r)
  | _, _ => none

/-- Reads a number or a lone period starting at `cs` (a digit or `.`). -/
def readNumber (cs : List Char) : Token × List Char :=
  let (intPart, rest) := spanWhile Char.isDigit cs
  match intPart, rest with
  | ['0'], 'x' :: rest' =>
    let (hex, r) := spanWhile isHexDigit rest'
    (.hexString (String.ofList hex), r)
  | _, _ =>
    let (withPoint, rest1) := match rest with
      | '.' :: r => (intPart ++ ['.'], r)
      | _ => (intPart, rest)
    let (frac, rest2) := spanWhile Char.isDigit rest1
    let text := withPoint ++ frac
    if text = ['.'] then (.period, rest2)
    else
      let (expo, rest3) := readExponent rest2
      match rest3 with
      | 'L' :: r => (.number (String.ofList (text ++ expo)) true, r)
      | _ => (.number (String.ofList (text ++ expo)) false, rest3)

/-- Reads a word starting with `c`. -/
def readWord (c : Char) (rest : List Char) : Token × List Char :=
  let (more, r) := spanWhile isIdentPart rest
  (.word (String.ofList (c :: more)) none, r)

/-- Reads a word whose first two characters are taken as they are (`#` or `@` and the
character after it). -/
def readMarkedWord (lead : List Char) (rest : List Char) : Token × List Char :=
  let (more, r) := spanWhile isIdentPart rest
  (.word (String.ofList (lead ++ more)) none, r)

/-- The character a backslash escape stands for in a national or hexadecimal string. -/
def backslashEscape (c : Char) : Char :=
  match c with
  | '0' => Char.ofNat 0
  | 'a' => Char.ofNat 7
  | 'b' => Char.ofNat 8
  | 'f' => Char.ofNat 12
  | 'n' => '\n'
  | 'r' => '\r'
  | 't' => '\t'
  | 'Z' => Char.ofNat 26
  | c => c

/-- Reads the rest of a quoted text up to the closing `q`, in which a doubled `q` stands for
one and a backslash escapes the character after it. Returns the text and what follows. -/
def readQuotedEscaping (q : Char) : List Char → Option (List Char × List Char)
  | [] => none
  | ['\\'] => none
  | '\\' :: c :: rest => (readQuotedEscaping q rest).map fun (s, r) => (backslashEscape c :: s, r)
  | c :: rest =>
    if c = q then
      match rest with
      | d :: rest' =>
        if d = q then (readQuotedEscaping q rest').map fun (s, r) => (q :: s, r)
        else some ([], rest)
      | [] => some ([], [])
    else (readQuotedEscaping q rest).map fun (s, r) => (c :: s, r)

/-- The value of a hexadecimal digit. -/
def hexDigitValue (c : Char) : Nat :=
  if c.isDigit then c.toNat - 48 else if c ≤ 'F' then c.toNat - 55 else c.toNat - 87

/-- The value of hexadecimal digits. -/
def hexValue (cs : List Char) : Nat := cs.foldl (fun acc c => acc * 16 + hexDigitValue c) 0

/-- The value of octal digits. -/
def octalValue (cs : List Char) : Nat := cs.foldl (fun acc c => acc * 8 + (c.toNat - 48)) 0

/-- Whether `c` is an octal digit. -/
def isOctalDigit (c : Char) : Bool := '0' ≤ c && c ≤ '7'

/-- The character of a code point, if it is one: not a surrogate and below `0x110000`. -/
def charOfCode? (n : Nat) : Option Char :=
  if n < 0xD800 || (0xE000 ≤ n && n < 0x110000) then some (Char.ofNat n) else none

/-- The character a byte escape stands for: the byte's low eight bits, which must be an
ASCII code. -/
def byteChar? (n : Nat) : Option Char :=
  if n % 256 ≤ 127 then some (Char.ofNat (n % 256)) else none

/-- The code point written as a hexadecimal numeral with an optional leading `+`. -/
def hexCode? (cs : List Char) : Option Nat :=
  let ds := match cs with | '+' :: r => r | _ => cs
  if !ds.isEmpty && ds.all isHexDigit then some (hexValue ds) else none

/-- Decodes the escape after a backslash in an escaped string: the character it stands for
and what follows it, or `none` if the escape is invalid or stands for NUL. -/
def readEscapeSequence (c : Char) (rest : List Char) : Option (Char × List Char) :=
  let decoded : Option (Char × List Char) :=
    if c = 'b' then some (Char.ofNat 8, rest)
    else if c = 'f' then some (Char.ofNat 12, rest)
    else if c = 'n' then some ('\n', rest)
    else if c = 'r' then some ('\r', rest)
    else if c = 't' then some ('\t', rest)
    else if c = 'u' || c = 'U' then
      let width := if c = 'u' then 4 else 8
      if rest.length < width then none
      else (hexCode? (rest.take width)).bind fun n =>
        (charOfCode? n).map fun ch => (ch, rest.drop width)
    else if c = 'x' then
      let ds := (rest.take 2).takeWhile isHexDigit
      if ds.isEmpty then some ('x', rest)
      else (byteChar? (hexValue ds)).map fun ch => (ch, rest.drop ds.length)
    else if isOctalDigit c then
      let ds := (rest.take 2).takeWhile isOctalDigit
      (byteChar? (octalValue (c :: ds))).map fun ch => (ch, rest.drop ds.length)
    else some (c, rest)
  decoded.bind fun (ch, r) => if ch.toNat = 0 then none else some (ch, r)

/-- Reads the rest of an escaped string `E'...'` with a step budget: a backslash starts an
escape and a doubled quote stands for one. Returns the text and what follows. -/
def readEscaped : Nat → List Char → Option (List Char × List Char)
  | 0, _ => none
  | _, [] => none
  | n + 1, '\'' :: '\'' :: rest => (readEscaped n rest).map fun (s, r) => ('\'' :: s, r)
  | _, '\'' :: rest => some ([], rest)
  | n + 1, '\\' :: c :: rest =>
    (readEscapeSequence c rest).bind fun (ch, r) =>
      (readEscaped n r).map fun (s, r') => (ch :: s, r')
  | _, ['\\'] => none
  | n + 1, c :: rest => (readEscaped n rest).map fun (s, r) => (c :: s, r)

/-- Reads the rest of a Unicode string `U&'...'`: `\XXXX` and `\+XXXXXX` give a code point,
`\\` a backslash, and a doubled quote a quote. -/
def readUnicode : Nat → List Char → Option (List Char × List Char)
  | 0, _ => none
  | _, [] => none
  | n + 1, '\'' :: '\'' :: rest => (readUnicode n rest).map fun (s, r) => ('\'' :: s, r)
  | _, '\'' :: rest => some ([], rest)
  | n + 1, '\\' :: '\\' :: rest => (readUnicode n rest).map fun (s, r) => ('\\' :: s, r)
  | n + 1, '\\' :: '+' :: rest =>
    let ds := rest.take 6
    if ds.length = 6 && ds.all isHexDigit then
      (charOfCode? (hexValue ds)).bind fun ch =>
        (readUnicode n (rest.drop 6)).map fun (s, r) => (ch :: s, r)
    else none
  | n + 1, '\\' :: rest =>
    let ds := rest.take 4
    if ds.length = 4 && ds.all isHexDigit then
      (charOfCode? (hexValue ds)).bind fun ch =>
        (readUnicode n (rest.drop 4)).map fun (s, r) => (ch :: s, r)
    else none
  | n + 1, c :: rest => (readUnicode n rest).map fun (s, r) => (c :: s, r)

/-- Finds the first occurrence of `stop` in `cs`: the text before it and after it. -/
def splitAtFirst (stop : List Char) : List Char → Option (List Char × List Char)
  | [] => if stop.isEmpty then some ([], []) else none
  | c :: rest =>
    if stop.isPrefixOf (c :: rest) then some ([], (c :: rest).drop stop.length)
    else (splitAtFirst stop rest).map fun (s, r) => (c :: s, r)

/-- Reads the body of `$$...$$` after its opening `$$`; `prev` is the character before.
A `$` counts only as the first of the closing pair: a `$` followed by another character
keeps both. -/
def readPlainDollarBody : Option Char → List Char → Option (List Char × List Char)
  | _, [] => none
  | prev, c :: rest =>
    if prev = some '$' then
      if c = '$' then some ([], rest)
      else (readPlainDollarBody (some c) rest).map fun (s, r) => ('$' :: c :: s, r)
    else if c ≠ '$' then (readPlainDollarBody (some c) rest).map fun (s, r) => (c :: s, r)
    else readPlainDollarBody (some c) rest

/-- Compares the characters after a `$` with a tag, one by one while they agree; the first
one that disagrees is taken too. Gives whether all agreed, the characters taken and the
rest, or `none` if the text ends first. -/
def matchTag : List Char → List Char → Option (Bool × List Char × List Char)
  | [], cs => some (true, [], cs)
  | t :: ts, c :: cs =>
    if c = t then (matchTag ts cs).map fun (ok, taken, r) => (ok, c :: taken, r)
    else some (false, [c], cs)
  | _ :: _, [] => none

/-- Reads the body of `$tag$...$tag$` after its opening tag, with a step budget: it ends at
a `$` followed by the tag and another `$`. -/
def readTaggedBody (tag : List Char) : Nat → List Char → Option (List Char × List Char)
  | 0, _ => none
  | n + 1, cs =>
    let (run, rest) := spanWhile (· ≠ '$') cs
    match rest with
    | '$' :: r =>
      match matchTag tag r with
      | none => none
      | some (true, _, '$' :: after) => some (run, after)
      | some (_, taken, after) =>
        (readTaggedBody tag n after).map fun (s, r') => (run ++ '$' :: taken ++ s, r')
    | _ => none

/-- Reads what follows `$`: a dollar-quoted string `$$...$$` or `$tag$...$tag$`, or else a
placeholder `$name`. -/
def readDollar (rest : List Char) : Except String (Token × List Char) :=
  match rest with
  | '$' :: r =>
    match readPlainDollarBody none r with
    | some (body, after) => .ok (.literal ("$$" ++ String.ofList body ++ "$$"), after)
    | none => .error "Unterminated dollar-quoted string"
  | _ =>
    let (name, r) := spanWhile (fun c => Numeric.isAlphanumeric c || c = '_') rest
    match r with
    | '$' :: r' =>
      match readTaggedBody name (r'.length + 1) r' with
      | some (body, after) =>
        let tag := "$" ++ String.ofList name ++ "$"
        .ok (.literal (tag ++ String.ofList body ++ tag), after)
      | none => .error "Unterminated dollar-quoted, expected $"
    | _ => .ok (.other ("$" ++ String.ofList name), r)

/-- Reads a quoted literal after the letter `B` (a byte string) or `R` (a raw string), kept
as it is written back: `B'...'`, `B"..."`, `R'...'`, `R"..."`. A raw string opened by three
quotes runs to the next three quotes, and two quotes alone are an empty raw string. -/
def readByteOrRaw (prefixText : String) (q : Char) (rest : List Char) :
    Except String (Token × List Char) :=
  let qs := q.toString
  let raw := prefixText = "R"
  match rest with
  | d :: e :: r =>
    if raw && d = q && e = q then
      match splitAtFirst [q, q, q] r with
      | some (s, after) =>
        .ok (.literal (prefixText ++ qs ++ qs ++ qs ++ String.ofList s ++ qs ++ qs ++ qs), after)
      | none => .error "Unterminated string literal"
    else if raw && d = q then .ok (.literal (prefixText ++ qs ++ qs), e :: r)
    else single qs
  | _ => single qs
where
  /-- A string opened by one quote, a doubled quote standing for one. -/
  single (qs : String) : Except String (Token × List Char) :=
    match readQuoted q rest with
    | some (s, r) => .ok (.literal (prefixText ++ qs ++ String.ofList s ++ qs), r)
    | none => .error "Unterminated string literal"

/-- Reads the next token, if any, from non-empty text; `none` stands for a blank or a
comment that was skipped. -/
def readToken (c : Char) (rest : List Char) : Except String (Option Token × List Char) :=
  let some' := fun (p : Token × List Char) => (some p.1, p.2)
  if c = ' ' || c = '\t' || c = '\n' || c = '\r' then .ok (none, rest)
  else if (c = 'B' || c = 'b') && (rest.head? = some '\'' || rest.head? = some '"') then
    (readByteOrRaw "B" (rest.headD ' ') (rest.drop 1)).map some'
  else if (c = 'R' || c = 'r') && (rest.head? = some '\'' || rest.head? = some '"') then
    (readByteOrRaw "R" (rest.headD ' ') (rest.drop 1)).map some'
  else if (c = 'N' || c = 'n') && rest.head? = some '\'' then
    match readQuotedEscaping '\'' (rest.drop 1) with
    | some (s, r) => .ok (some (.nationalString (String.ofList s)), r)
    | none => .error "Unterminated string literal"
  else if (c = 'E' || c = 'e') && rest.head? = some '\'' then
    match readEscaped (rest.length + 1) (rest.drop 1) with
    | some (s, r) => .ok (some (.escapedString (String.ofList s)), r)
    | none => .error "Unterminated encoded string literal"
  else if (c = 'U' || c = 'u') && rest.take 2 = ['&', '\''] then
    match readUnicode (rest.length + 1) (rest.drop 2) with
    | some (s, r) => .ok (some (.unicodeString (String.ofList s)), r)
    | none => .error "Unterminated unicode encoded string literal"
  else if (c = 'X' || c = 'x') && rest.head? = some '\'' then
    match readQuotedEscaping '\'' (rest.drop 1) with
    | some (s, r) => .ok (some (.hexString (String.ofList s)), r)
    | none => .error "Unterminated string literal"
  else if c = '\'' then
    match readQuoted '\'' rest with
    | some (s, r) => .ok (some (.singleQuoted (String.ofList s)), r)
    | none => .error "Unterminated string literal"
  else if c = '"' || c = '`' then
    match readQuoted c rest with
    | some (s, r) => .ok (some (.word (String.ofList s) (some c)), r)
    | none => .error ("Expected close delimiter '" ++ c.toString ++ "' before EOF.")
  else if c.isDigit || c = '.' then .ok (some' (readNumber (c :: rest)))
  else if c = '-' && rest.head? = some '-' then .ok (none, skipLineComment (rest.drop 1))
  else if c = '/' && rest.head? = some '*' then
    match skipBlockComment 1 ' ' (rest.drop 1) with
    | some r => .ok (none, r)
    | none => .error "Unexpected EOF while in a multi-line comment"
  else match readSymbol c rest with
    | some p => .ok (some' p)
    | none =>
      if c = '#' || c = '@' then
        match c, rest with
        | '@', '@' :: d :: r => .ok (some' (readMarkedWord ['@', '@', d] r))
        | _, d :: r => .ok (some' (readMarkedWord [c, d] r))
        | _, [] => .ok (some (.other c.toString), [])
      else if c = '?' then
        let (ds, r) := spanWhile Numeric.isNumeric rest
        .ok (some (.other ("?" ++ String.ofList ds)), r)
      else if isIdentStart c then .ok (some' (readWord c rest))
      else if c = '$' then (readDollar rest).map some'
      else if Blank.isBlank c then .ok (none, rest)
      else .ok (some (.other c.toString), rest)

/-- Tokenizes with a step budget; each step consumes at least one character. -/
def tokenizeFrom : Nat → List Char → List Token → Except String (List Token)
  | 0, _, acc => .ok acc.reverse
  | _, [], acc => .ok acc.reverse
  | fuel + 1, c :: rest, acc =>
    match readToken c rest with
    | .ok (some t, r) => tokenizeFrom fuel r (t :: acc)
    | .ok (none, r) => tokenizeFrom fuel r acc
    | .error e => .error e

/-- The tokens of SQL text, or the reason it cannot be split into tokens. -/
def tokenize (s : String) : Except String (List Token) :=
  tokenizeFrom (s.length + 1) s.toList []

end CsvQuery.Sql
