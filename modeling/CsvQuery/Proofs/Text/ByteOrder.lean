import CsvQuery.Proofs.Text.Lines

/-!
# UTF-8 keeps the order of strings

Strings compare character by character, by code point; their UTF-8 encodings compare byte by
byte. The two orders agree, so whatever is sorted as strings is sorted by the bytes written:

* `Utf8.encodeChar_lt_encodeChar`  a smaller character has a smaller encoding: the lead byte
  grows with the length of the encoding, and the encodings of one length are the base-64
  digits of the code point behind a fixed tag;
* `Utf8.eq_of_isPrefix_encodeChar`  no character's encoding is a prefix of another's, since the
  decoder reads a character off any bytes that start with its encoding;
* `Utf8.encode_lt_encode_iff`  the encodings of two character lists compare as the lists do.
-/

namespace CsvQuery

namespace Utf8

theorem append_lt_append_left_iff (x s t : List UInt8) : x ++ s < x ++ t ↔ s < t := by
  induction x with
  | nil => rfl
  | cons a x ih => rw [List.cons_append, List.cons_append, List.cons_lt_cons_iff, ih]; simp

theorem append_lt_append_of_not_isPrefix {x y : List UInt8} (h : x < y) (hx : ¬x <+: y)
    (s t : List UInt8) : x ++ s < y ++ t := by
  induction x generalizing y with
  | nil => exact absurd List.nil_prefix hx
  | cons a x ih =>
    cases y with
    | nil => exact absurd h (List.not_lt_nil _)
    | cons b y =>
      rw [List.cons_lt_cons_iff] at h
      rw [List.cons_append, List.cons_append, List.cons_lt_cons_iff]
      rcases h with hab | ⟨rfl, hxy⟩
      · exact Or.inl hab
      · exact Or.inr ⟨rfl, ih hxy fun hp => hx (List.cons_prefix_cons.2 ⟨rfl, hp⟩)⟩

theorem toNat_toUInt8_of_lt {n : Nat} (h : n < 256) : n.toUInt8.toNat = n := by
  rw [toNat_toUInt8, Nat.mod_eq_of_lt h]

theorem encodeChar_ne_nil (c : Char) : encodeChar c ≠ [] := by
  simp only [encodeChar]
  split_ifs <;> simp

/-- A smaller character has a smaller encoding. Both are split by the branches of the
encoder; a longer encoding starts with a larger lead byte, and two encodings of one length
first differ at the first base-64 digit where the code points differ. -/
theorem encodeChar_lt_encodeChar {c d : Char} (h : c < d) : encodeChar c < encodeChar d := by
  have hcd : c.toNat < d.toNat := h
  have hd : d.toNat < 0xd800 ∨ (0xdfff < d.toNat ∧ d.toNat < 0x110000) := d.valid
  simp only [encodeChar]
  -- every byte the encoder writes is below 256, so it compares as the number it is made from
  split_ifs <;>
    simp (disch := omega) only [List.cons_lt_cons_iff, List.nil_lt_cons, List.not_lt_nil,
      UInt8.lt_iff_toNat_lt, ← UInt8.toNat_inj, toNat_toUInt8_of_lt, and_true, and_false,
      or_false] <;>
    omega

/-- No character's encoding is the start of another's: decoding bytes that start with the
encoding of `c` reads `c` first. -/
theorem eq_of_isPrefix_encodeChar {c d : Char} (h : encodeChar c <+: encodeChar d) : c = d := by
  obtain ⟨u, hu⟩ := h
  have hc := decode?_encodeChar_append c u
  have hd := decode?_encodeChar_append d []
  rw [List.append_nil] at hd
  rw [hu, hd] at hc
  cases hdu : decode? u with
  | none => simp [hdu, decode?] at hc
  | some l =>
    simp only [hdu, decode?, Option.map_some, Option.some.injEq, List.cons.injEq] at hc
    exact hc.1.symm

theorem encodeChar_append_lt {c d : Char} (h : c < d) (s t : List UInt8) :
    encodeChar c ++ s < encodeChar d ++ t := by
  have hne : ¬encodeChar c <+: encodeChar d := by
    intro hp
    rw [eq_of_isPrefix_encodeChar hp] at h
    exact Char.lt_irrefl d h
  exact append_lt_append_of_not_isPrefix (encodeChar_lt_encodeChar h) hne s t

theorem encode_cons (c : Char) (cs : List Char) : encode (c :: cs) = encodeChar c ++ encode cs :=
  List.flatMap_cons

/-- UTF-8 encoding keeps the order of character lists: the bytes compare as the code points
do. -/
theorem encode_lt_encode_iff : ∀ a b : List Char, encode a < encode b ↔ a < b
  | [], [] => iff_of_false (List.lt_irrefl _) (List.lt_irrefl _)
  | [], d :: ds => by
    obtain ⟨x, xs, hx⟩ := List.exists_cons_of_ne_nil (encodeChar_ne_nil d)
    rw [encode_cons, hx, List.cons_append]
    exact iff_of_true (List.nil_lt_cons _ _) (List.nil_lt_cons _ _)
  | c :: cs, [] => iff_of_false (List.not_lt_nil _) (List.not_lt_nil _)
  | c :: cs, d :: ds => by
    rw [encode_cons, encode_cons]
    -- the first characters decide, unless they are one character
    rcases Nat.lt_trichotomy c.toNat d.toNat with hlt | heq | hgt
    · exact iff_of_true (encodeChar_append_lt hlt _ _) (List.cons_lt_cons_iff.2 (Or.inl hlt))
    · obtain rfl := Char.toNat_inj.1 heq
      rw [append_lt_append_left_iff, encode_lt_encode_iff cs ds, List.cons_lt_cons_iff]
      simp only [Char.lt_irrefl, false_or, true_and]
    · exact iff_of_false (List.lt_asymm (encodeChar_append_lt hgt _ _))
        (List.lt_asymm (List.cons_lt_cons_iff.2 (Or.inl hgt)))

/-- Strings compare as their UTF-8 bytes do. -/
theorem encodeString_lt_encodeString_iff (s t : String) :
    encodeString s < encodeString t ↔ s < t :=
  encode_lt_encode_iff s.toList t.toList

end Utf8

end CsvQuery
