import CsvQuery.Text.Decimal

/-!
# Binary64 numbers

Nonnegative IEEE 754 double precision numbers, computed exactly with natural numbers: a
finite number is `m × 2^e` with `m < 2^53`, normal when `m ≥ 2^52` (and then
`-1074 ≤ e ≤ 971`), subnormal or zero when `m < 2^52` (and then `e = -1074`). Signs are
kept by the callers.

`Binary64.ofRatio` rounds an exact ratio to the nearest number, ties to even, and to
infinity past the largest finite number; conversion of an integer, multiplication and
division are that rounding applied to the exact result, as the standard requires.

`Binary64.shortest` finds the decimal with the fewest digits that rounds back to a given
number, the one nearest to it when several do, and `Binary64.render` writes it: plainly
when the decimal point falls within sixteen places of the first digit (with `.0` after a
whole number), and in scientific notation with a signed exponent otherwise.
-/

namespace CsvQuery

/-- A nonnegative binary64 number. -/
inductive Binary64 where
  /-- `m × 2^e`, normalized as described above. -/
  | finite (m : Nat) (e : Int)
  | infinity
deriving DecidableEq, Repr, Inhabited

namespace Binary64

/-- The least exponent of a number. -/
def minExponent : Int := -1074

/-- The greatest exponent of a finite number. -/
def maxExponent : Int := 971

/-- Zero. -/
def zero : Binary64 := .finite 0 minExponent

/-- Whether the number is zero. -/
def isZero : Binary64 → Bool
  | .finite m _ => m == 0
  | .infinity => false

/-- The ratio `num / den × 2^e` as a fraction of natural numbers. -/
def scaledRatio (num den : Nat) (e : Int) : Nat × Nat :=
  if 0 ≤ e then (num * Nat.pow 2 e.toNat, den) else (num, den * Nat.pow 2 (-e).toNat)

/-- The quotient of `num / den × 2^(-e)`, rounded to the nearest integer, ties to even. -/
def roundedQuotient (num den : Nat) (e : Int) : Nat :=
  let (a, b) := scaledRatio num den (-e)
  let q := a / b
  let r := a % b
  if 2 * r > b || (2 * r = b && q % 2 = 1) then q + 1 else q

/-- The number nearest to `num / den`, ties to even; infinity when that lies past the
largest finite number. The exponent is chosen so that the quotient has 53 bits: the bit
lengths of `num` and `den` place it within one bit, and one comparison settles it. -/
def ofRatio (num den : Nat) : Binary64 :=
  if num = 0 || den = 0 then zero
  else
    let e0 : Int := (Nat.log2 num : Int) - (Nat.log2 den : Int) - 52
    let (a, b) := scaledRatio num den (-e0)
    let e1 := if a / b < Nat.pow 2 52 then e0 - 1 else e0
    let e := max e1 minExponent
    let q := roundedQuotient num den e
    let (m, e) := if q = Nat.pow 2 53 then (Nat.pow 2 52, e + 1) else (q, e)
    if e > maxExponent then .infinity else .finite m e

/-- The number nearest to a natural number. -/
def ofNat (n : Nat) : Binary64 := ofRatio n 1

/-- The number nearest to `num / den × 2^e`. -/
def ofScaled (num den : Nat) (e : Int) : Binary64 :=
  let (a, b) := scaledRatio num den e
  ofRatio a b

/-- The rounded product. -/
def mul : Binary64 → Binary64 → Binary64
  | .finite m₁ e₁, .finite m₂ e₂ => ofScaled (m₁ * m₂) 1 (e₁ + e₂)
  | _, _ => .infinity

/-- The rounded quotient; dividing by zero gives infinity. -/
def div : Binary64 → Binary64 → Binary64
  | .finite m₁ e₁, .finite m₂ e₂ => if m₂ = 0 then .infinity else ofScaled m₁ m₂ (e₁ - e₂)
  | .infinity, _ => .infinity
  | .finite _ _, .infinity => zero

/-- The number nearest to `10^k`. -/
def pow10 (k : Nat) : Binary64 := ofNat (Nat.pow 10 k)

/-- `significand × 10^exponent` computed the quick way: the significand rounded first,
then one multiplication or division by a rounded power of ten, dividing by `10^308`
first as often as the exponent lies below `-308`. `none` when the result overflows or the
exponent is above `308`. `fuel` bounds the divisions by `10^308`: after two of them any
significand below `2^64` is zero. -/
def fromParts (fuel : Nat) (f : Binary64) (exponent : Int) : Option Binary64 :=
  if exponent.natAbs ≤ 308 then
    if 0 ≤ exponent then
      match f.mul (pow10 exponent.natAbs) with
      | .infinity => none
      | g => some g
    else some (f.div (pow10 exponent.natAbs))
  else if f.isZero then some f
  else if 0 ≤ exponent then none
  else
    match fuel with
    | 0 => some f
    | k + 1 => fromParts k (f.div (pow10 308)) (exponent + 308)

/-- The value of `significand × 10^exponent` as read from a JSON number. -/
def ofDecimalParts (significand : Nat) (exponent : Int) : Option Binary64 :=
  fromParts 8 (ofNat significand) exponent

/-! ## Shortest decimals -/

/-- The integers `d` with `lo ≤ d × 10^k / scale ≤ hi` (strictly inside when not
`inclusive`), given `lo` and `hi` as numerators over `2^(-e)` when `e < 0` (times `2^e`
otherwise): the least and the greatest of them. -/
def digitRange (lo hi : Nat) (e k : Int) (inclusive : Bool) : Nat × Nat :=
  let p := Nat.pow 2 e.toNat * Nat.pow 10 (-k).toNat
  let q := Nat.pow 2 (-e).toNat * Nat.pow 10 k.toNat
  let loN := lo * p
  let hiN := hi * p
  if inclusive then ((loN + q - 1) / q, hiN / q)
  else (loN / q + 1, (hiN + q - 1) / q - 1)

/-- The greatest decimal exponent `k ≤ start` for which a whole number of units `10^k`
lies in the rounding interval, with the least and greatest such numbers; `fuel` bounds the
search. -/
def searchExponent (lo hi : Nat) (e : Int) (inclusive : Bool) : Nat → Int → Option (Int × Nat × Nat)
  | 0, _ => none
  | fuel + 1, k =>
    let (dmin, dmax) := digitRange lo hi e k inclusive
    if dmin ≤ dmax then some (k, dmin, dmax)
    else searchExponent lo hi e inclusive fuel (k - 1)

/-- The shortest decimal `d × 10^k` that rounds back to the finite number `m × 2^e`, the
nearest to it when several have that length; ties go to the even digit string. The
rounding interval reaches half a unit either side, a quarter unit below a power of two
whose neighbour below is closer, and includes its ends when `m` is even. -/
def shortest (m : Nat) (e : Int) : Nat × Int :=
  if m = 0 then (0, 0)
  else
    let asymmetric := m = Nat.pow 2 52 && e > minExponent
    let value := 4 * m
    let hi := 4 * m + 2
    let lo := if asymmetric then 4 * m - 1 else 4 * m - 2
    let e2 := e - 2
    let inclusive := m % 2 == 0
    let bits : Int := (Nat.log2 hi : Int) + 1 + e2
    let start : Int := bits * 30103 / 100000 + 2
    match searchExponent lo hi e2 inclusive 60 start with
    | none => (m, 0)
    | some (k, dmin, dmax) =>
      let p := Nat.pow 2 e2.toNat * Nat.pow 10 (-k).toNat
      let q := Nat.pow 2 (-e2).toNat * Nat.pow 10 k.toNat
      let a := value * p
      let d0 := a / q
      let r := a % q
      let d :=
        if d0 < dmin then dmin
        else if d0 + 1 > dmax then d0
        else if 2 * r < q then d0
        else if 2 * r > q then d0 + 1
        else if d0 % 2 = 0 then d0 else d0 + 1
      (d, k)

/-- Writes `d × 10^k` (no sign): plainly when the decimal point falls within sixteen places
after the first digit, or up to five places before it, and in scientific notation
otherwise, with `e+` or `e-` before the exponent. -/
def renderDecimal (d : Nat) (k : Int) : String :=
  let digits := Decimal.natDigits d
  let trimmed := (digits.reverse.dropWhile (· = '0')).reverse
  let e := k + ((digits.length - trimmed.length : Nat) : Int)
  let n : Int := trimmed.length
  let kk := n + e
  let zeros (j : Int) := String.ofList (List.replicate j.toNat '0')
  if trimmed.isEmpty then "0.0"
  else if 0 ≤ e && kk ≤ 16 then String.ofList trimmed ++ zeros e ++ ".0"
  else if 0 < kk && kk ≤ 16 then
    String.ofList (trimmed.take kk.toNat) ++ "." ++ String.ofList (trimmed.drop kk.toNat)
  else if -5 < kk && kk ≤ 0 then "0." ++ zeros (-kk) ++ String.ofList trimmed
  else
    let tail := trimmed.drop 1
    let x := kk - 1
    String.ofList (trimmed.take 1) ++ (if tail.isEmpty then "" else "." ++ String.ofList tail)
      ++ (if x < 0 then "e-" else "e+") ++ Decimal.renderNat x.natAbs

/-- The text of a number with its sign: the shortest decimal that reads back as it. -/
def render (negative : Bool) : Binary64 → String
  | .finite m e =>
    let (d, k) := shortest m e
    (if negative then "-" else "") ++ renderDecimal d k
  | .infinity => if negative then "-inf" else "inf"

end Binary64

end CsvQuery
