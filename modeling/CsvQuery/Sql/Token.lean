/-!
# SQL tokens

The lexemes of SQL text: words (keywords and identifiers, plain or quoted), numbers,
string literals, punctuation and operators. A plain word is a keyword when its upper-case
form is one; a quoted word never is. Blanks and comments produce no token.
-/

namespace CsvQuery.Sql

/-- One SQL lexeme. -/
inductive Token where
  /-- A word; `quote` is the opening quote of a quoted identifier. -/
  | word (value : String) (quote : Option Char)
  /-- A number as written; `long` marks a trailing `L`. -/
  | number (text : String) (long : Bool)
  | singleQuoted (text : String)
  | nationalString (text : String)
  | hexString (text : String)
  /-- `E'...'`, by the text its escapes stand for. -/
  | escapedString (text : String)
  /-- `U&'...'`, by the text its code point escapes stand for. -/
  | unicodeString (text : String)
  /-- Any other literal, as it is written back: a byte, raw or dollar-quoted string. -/
  | literal (text : String)
  | lparen | rparen | comma | semicolon | period | lbracket | rbracket
  | eq | doubleEq | neq | lt | le | gt | ge | spaceship
  | plus | minus | mul | div | intDiv | modulo | concat | pipe | ampersand | caret
  | shiftLeft | shiftRight | doubleColon | colon | assignment | rightArrow
  /-- Any other operator or character, by its text. -/
  | other (text : String)
deriving DecidableEq, Repr, Inhabited

/-- The capital form of a character as keyword matching sees it. ASCII letters are raised;
the letters outside ASCII whose full capital form is ASCII (dotless i, long s, sharp s and
the Latin ligatures ff, fi, fl, ffi, ffl and st) become that form, which may be longer than
one letter. Every other character stays as it is: keywords are ASCII, so a word holding
one can never spell a keyword whatever its capital form. -/
def keywordUpper : Char → List Char
  | 'ı' => ['I']
  | 'ſ' => ['S']
  | 'ß' => ['S', 'S']
  | 'ﬀ' => ['F', 'F']
  | 'ﬁ' => ['F', 'I']
  | 'ﬂ' => ['F', 'L']
  | 'ﬃ' => ['F', 'F', 'I']
  | 'ﬄ' => ['F', 'F', 'L']
  | 'ﬅ' => ['S', 'T']
  | 'ﬆ' => ['S', 'T']
  | c => [c.toUpper]

/-- A word in capitals as keyword matching sees it. -/
def upperWord (v : String) : String := String.ofList (v.toList.flatMap keywordUpper)

/-- Whether a plain word spells the keyword `kw` (given in upper case). -/
def spells (value kw : String) : Bool := value.toList.flatMap keywordUpper == kw.toList

namespace Token

/-- Whether the token is the keyword `kw`. -/
def isKeyword (t : Token) (kw : String) : Bool :=
  match t with
  | .word v none => spells v kw
  | _ => false

/-- Whether the token is one of the keywords `kws`. -/
def isAnyKeyword (t : Token) (kws : List String) : Bool := kws.any t.isKeyword

end Token

end CsvQuery.Sql
