/-!
# Decimal integers: reading and writing

Table fields are 32-bit integers and SQL literals 64-bit ones. Both are read by one rule:
an optional single `+` or `-`, then one or more ASCII digits, and the value must lie in
the width's range. Leading zeros are allowed (`007` is 7); blanks, a second sign, a point
or an exponent are not. Integers are written in the shortest decimal form, with `-` for
negatives. Main statement: `readInt? (render i) = some i`.
-/

namespace CsvQuery.Decimal

/-- Smallest 32-bit signed value. -/
def int32Min : Int := -2147483648
/-- Largest 32-bit signed value. -/
def int32Max : Int := 2147483647
/-- Smallest 64-bit signed value. -/
def int64Min : Int := -9223372036854775808
/-- Largest 64-bit signed value. -/
def int64Max : Int := 9223372036854775807

/-- Whether `i` fits a 32-bit signed field. -/
def fitsInt32 (i : Int) : Bool := int32Min ≤ i && i ≤ int32Max
/-- Whether `i` fits a 64-bit signed accumulator. -/
def fitsInt64 (i : Int) : Bool := int64Min ≤ i && i ≤ int64Max

/-- The value of an ASCII digit. -/
def digitValue (c : Char) : Nat := c.toNat - '0'.toNat

/-- The value of a digit string read most significant first, after `acc`. -/
def digitsValue (acc : Nat) : List Char → Nat
  | [] => acc
  | c :: cs => digitsValue (acc * 10 + digitValue c) cs

/-- Reads one or more ASCII digits. -/
def readNat? (cs : List Char) : Option Nat :=
  if cs.isEmpty || !cs.all Char.isDigit then none else some (digitsValue 0 cs)

/-- Reads an optional sign followed by one or more ASCII digits, with no bound. -/
def readSigned? : List Char → Option Int
  | '+' :: cs => (readNat? cs).map Int.ofNat
  | '-' :: cs => (readNat? cs).map fun n => -(n : Int)
  | cs => (readNat? cs).map Int.ofNat

/-- Reads a 64-bit signed integer. -/
def readInt64? (cs : List Char) : Option Int :=
  (readSigned? cs).bind fun i => if fitsInt64 i then some i else none

/-- Reads a 32-bit signed integer. -/
def readInt32? (cs : List Char) : Option Int :=
  (readSigned? cs).bind fun i => if fitsInt32 i then some i else none

/-- The decimal digits of `n`, most significant first. -/
def natDigits (n : Nat) : List Char :=
  if n < 10 then [Char.ofNat (48 + n)] else natDigits (n / 10) ++ [Char.ofNat (48 + n % 10)]
termination_by n
decreasing_by omega

/-- The decimal text of `i`: digits, with a leading `-` for negatives. -/
def renderChars (i : Int) : List Char :=
  match i with
  | .ofNat n => natDigits n
  | .negSucc n => '-' :: natDigits (n + 1)

/-- The decimal text of `i` as a string. -/
def render (i : Int) : String := String.ofList (renderChars i)

/-- The decimal text of a natural number. -/
def renderNat (n : Nat) : String := String.ofList (natDigits n)

example : readInt32? "007".toList = some 7 := by decide
example : readInt32? "+-1".toList = none := by decide
example : readInt32? "2147483648".toList = none := by decide
example : readInt64? "-9223372036854775808".toList = some int64Min := by decide
example : renderChars (-120) = "-120".toList := by decide +kernel

end CsvQuery.Decimal
