/-!
# UTF-8: bytes to characters and back

Files are byte sequences. A line of a table file, a schema file or a query file is text
only when its bytes are well-formed UTF-8: every character in its shortest encoding, no
surrogate code points and nothing above U+10FFFF. `decode?` reads such bytes and refuses
anything else; `encode` writes characters, and `decode? (encode cs) = some cs`.
-/

namespace CsvQuery.Utf8

/-- Whether `b` is a continuation byte `10xxxxxx`. -/
def isCont (b : UInt8) : Bool := b.toNat / 64 = 2

/-- The six payload bits of a continuation byte. -/
def payload (b : UInt8) : Nat := b.toNat % 64

/-- The bytes of one character. -/
def encodeChar (c : Char) : List UInt8 :=
  let n := c.toNat
  if n < 0x80 then [n.toUInt8]
  else if n < 0x800 then [(0xC0 + n / 64).toUInt8, (0x80 + n % 64).toUInt8]
  else if n < 0x10000 then
    [(0xE0 + n / 4096).toUInt8, (0x80 + n / 64 % 64).toUInt8, (0x80 + n % 64).toUInt8]
  else
    [(0xF0 + n / 262144).toUInt8, (0x80 + n / 4096 % 64).toUInt8,
     (0x80 + n / 64 % 64).toUInt8, (0x80 + n % 64).toUInt8]

/-- The bytes of a character list. -/
def encode (cs : List Char) : List UInt8 := cs.flatMap encodeChar

/-- The bytes of a string. -/
def encodeString (s : String) : List UInt8 := encode s.toList

/-- Reads well-formed UTF-8; `none` on any malformed, overlong, surrogate or out-of-range
sequence. -/
def decode? : List UInt8 → Option (List Char)
  | [] => some []
  | b :: rest =>
    let n := b.toNat
    if n < 0x80 then (decode? rest).map (Char.ofNat n :: ·)
    else if 0xC2 ≤ n ∧ n ≤ 0xDF then
      match rest with
      | b1 :: rest' =>
        if isCont b1 then (decode? rest').map (Char.ofNat ((n - 0xC0) * 64 + payload b1) :: ·)
        else none
      | [] => none
    else if 0xE0 ≤ n ∧ n ≤ 0xEF then
      match rest with
      | b1 :: b2 :: rest' =>
        let lo := if n = 0xE0 then 0xA0 else 0x80
        let hi := if n = 0xED then 0x9F else 0xBF
        if lo ≤ b1.toNat ∧ b1.toNat ≤ hi ∧ isCont b2 then
          (decode? rest').map
            (Char.ofNat ((n - 0xE0) * 4096 + payload b1 * 64 + payload b2) :: ·)
        else none
      | _ => none
    else if 0xF0 ≤ n ∧ n ≤ 0xF4 then
      match rest with
      | b1 :: b2 :: b3 :: rest' =>
        let lo := if n = 0xF0 then 0x90 else 0x80
        let hi := if n = 0xF4 then 0x8F else 0xBF
        if lo ≤ b1.toNat ∧ b1.toNat ≤ hi ∧ isCont b2 ∧ isCont b3 then
          (decode? rest').map
            (Char.ofNat ((n - 0xF0) * 262144 + payload b1 * 4096 + payload b2 * 64
              + payload b3) :: ·)
        else none
      | _ => none
    else none

/-- Reads well-formed UTF-8 as a string. -/
def decodeString? (bs : List UInt8) : Option String := (decode? bs).map String.ofList

example : decode? (encode "aé€😀".toList) = some "aé€😀".toList := by decide
example : decode? [0xC0, 0x80] = none := by decide
example : decode? [0xED, 0xA0, 0x80] = none := by decide

end CsvQuery.Utf8
