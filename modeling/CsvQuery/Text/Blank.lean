/-!
# Blank characters: the Unicode White_Space class

Table fields and schema lines are trimmed, schema lines are split into words, and the SQL
lexer skips blanks, all with one character class: Unicode's White_Space property, 25 code
points. Text is handled as `List Char`; `trim` drops the blank characters at both ends and
`words` returns the maximal runs of non-blank characters, in order.
-/

namespace CsvQuery.Blank

/-- The code points of Unicode's White_Space property. -/
def codePoints : List Nat :=
  [0x09, 0x0A, 0x0B, 0x0C, 0x0D, 0x20, 0x85, 0xA0, 0x1680,
   0x2000, 0x2001, 0x2002, 0x2003, 0x2004, 0x2005, 0x2006, 0x2007, 0x2008, 0x2009, 0x200A,
   0x2028, 0x2029, 0x202F, 0x205F, 0x3000]

/-- Whether `c` is a blank character (Unicode White_Space). -/
def isBlank (c : Char) : Bool := codePoints.contains c.toNat

/-- Drops the blank characters at the start. -/
def trimStart (cs : List Char) : List Char := cs.dropWhile isBlank

/-- Drops the blank characters at the end. -/
def trimEnd (cs : List Char) : List Char := (cs.reverse.dropWhile isBlank).reverse

/-- Drops the blank characters at both ends. -/
def trim (cs : List Char) : List Char := trimEnd (trimStart cs)

/-- Whether the text holds nothing but blank characters. -/
def isAllBlank (cs : List Char) : Bool := cs.all isBlank

/-- Collects the maximal non-blank runs of `cs`; `run` holds the current run, reversed. -/
def runsFrom (run : List Char) : List Char → List (List Char)
  | [] => if run.isEmpty then [] else [run.reverse]
  | c :: cs =>
    if isBlank c then
      if run.isEmpty then runsFrom [] cs else run.reverse :: runsFrom [] cs
    else runsFrom (c :: run) cs

/-- The maximal runs of non-blank characters, in order. -/
def words (cs : List Char) : List (List Char) := runsFrom [] cs

/-- Trims a string at both ends. -/
def trimString (s : String) : String := String.ofList (trim s.toList)

/-- The words of a string. -/
def wordsOf (s : String) : List String := (words s.toList).map String.ofList

example : trim "  a b \t".toList = "a b".toList := by decide
example : words " a  bc　d ".toList = ["a".toList, "bc".toList, "d".toList] := by decide

end CsvQuery.Blank
