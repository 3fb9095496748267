import Mathlib.Tactic.SplitIfs
import CsvQuery.Exec.Source

/-!
# Lines written to a file read back

A file source reads a file's bytes as lines (`LineSource.fileLines`): it cuts them after
every newline byte, decodes each piece as UTF-8 and strips its line end. Text written as
lines, each followed by `\n`, is read back line by line:

* `Utf8.decode?_encode`  decoding inverts encoding for every list of characters: the
  shortest encoding of a scalar value is well-formed;
* `Utf8.eq_newline_of_mem_encodeChar`  the newline byte is the encoding of the newline
  and occurs in no other character's encoding;
* `LineSource.pieces_append_newline`  the bytes up to the next newline byte make one piece;
* `LineSource.fileLines_encode_lines`  the lines read from the encoding of lines, each
  followed by `\n`, are those lines, when no line holds a newline or ends in `\r`.
-/

namespace CsvQuery

namespace Utf8

theorem toNat_toUInt8 (n : Nat) : n.toUInt8.toNat = n % 256 := by
  simp [Nat.toUInt8]

theorem decode?_encodeChar_append (c : Char) (rest : List UInt8) :
    decode? (encodeChar c ++ rest) = (decode? rest).map (c :: ·) := by
  have hc : c.toNat < 0xd800 ∨ (0xdfff < c.toNat ∧ c.toNat < 0x110000) := c.valid
  have hn : Char.ofNat c.toNat = c := Char.ofNat_toNat c
  simp only [encodeChar]
  split_ifs with h1 h2 h3
  · -- one byte
    rw [List.singleton_append, decode?.eq_def]
    simp only [toNat_toUInt8, Nat.mod_eq_of_lt (by omega : c.toNat < 256), h1, if_true, hn]
  · -- two bytes
    rw [List.cons_append, List.cons_append, List.nil_append, decode?.eq_2]
    simp only [toNat_toUInt8, isCont, payload, decide_eq_true_eq]
    rw [if_neg (by omega), if_pos (by omega), if_pos (by omega),
      show ((192 + c.toNat / 64) % 256 - 192) * 64 + (128 + c.toNat % 64) % 256 % 64 = c.toNat by
        omega, hn]
  · -- three bytes: the bounds on the second byte exclude overlong forms and surrogates
    rw [List.cons_append, List.cons_append, List.cons_append, List.nil_append, decode?.eq_2]
    simp only [toNat_toUInt8, isCont, payload, decide_eq_true_eq]
    rw [if_neg (by omega), if_neg (by omega), if_pos (by omega)]
    rw [if_pos (by split_ifs <;> omega),
      show ((224 + c.toNat / 4096) % 256 - 224) * 4096 + (128 + c.toNat / 64 % 64) % 256 % 64 * 64 +
        (128 + c.toNat % 64) % 256 % 64 = c.toNat by omega, hn]
  · -- four bytes: the bounds on the second byte exclude overlong forms and values past U+10FFFF
    rw [List.cons_append, List.cons_append, List.cons_append, List.cons_append, List.nil_append,
      decode?.eq_2]
    simp only [toNat_toUInt8, isCont, payload, decide_eq_true_eq]
    rw [if_neg (by omega), if_neg (by omega), if_neg (by omega), if_pos (by omega)]
    rw [if_pos (by split_ifs <;> omega),
      show ((240 + c.toNat / 262144) % 256 - 240) * 262144 +
        (128 + c.toNat / 4096 % 64) % 256 % 64 * 4096 + (128 + c.toNat / 64 % 64) % 256 % 64 * 64 +
        (128 + c.toNat % 64) % 256 % 64 = c.toNat by omega, hn]

theorem encode_append (cs ds : List Char) : encode (cs ++ ds) = encode cs ++ encode ds :=
  List.flatMap_append

/-- Decoding inverts encoding. -/
theorem decode?_encode (cs : List Char) : decode? (encode cs) = some cs := by
  induction cs with
  | nil => rfl
  | cons c cs ih =>
    rw [encode, List.flatMap_cons, decode?_encodeChar_append, ← encode, ih]
    rfl

/-- Only the newline is encoded with the newline byte: the bytes of every character past
ASCII are at least `0x80`. -/
theorem eq_newline_of_mem_encodeChar {c : Char} (h : (10 : UInt8) ∈ encodeChar c) : c = '\n' := by
  have hc : c.toNat < 0xd800 ∨ (0xdfff < c.toNat ∧ c.toNat < 0x110000) := c.valid
  have hbyte : ∀ n, (10 : UInt8) = n.toUInt8 → n % 256 = 10 := by
    intro n hn
    rw [← toNat_toUInt8, ← hn]
    rfl
  simp only [encodeChar] at h
  split_ifs at h with h1 h2 h3 <;> simp only [List.mem_cons, List.not_mem_nil, or_false] at h
  · exact Char.toNat_inj.1 (by have := hbyte _ h; simp; omega)
  · rcases h with h | h <;> have := hbyte _ h <;> omega
  · rcases h with h | h | h <;> have := hbyte _ h <;> omega
  · rcases h with h | h | h | h <;> have := hbyte _ h <;> omega

theorem newline_not_mem_encode {cs : List Char} (h : '\n' ∉ cs) : (10 : UInt8) ∉ encode cs := by
  intro hmem
  obtain ⟨c, hc, hbyte⟩ := List.mem_flatMap.1 hmem
  exact h (eq_newline_of_mem_encodeChar hbyte ▸ hc)

end Utf8

namespace LineSource

/-- The bytes up to the next newline byte, and that byte, end the current piece. -/
theorem pieces_append_newline (cur bs rest : List UInt8) (h : (10 : UInt8) ∉ bs) :
    pieces cur (bs ++ 10 :: rest) = (cur.reverse ++ bs ++ [10]) :: pieces [] rest := by
  induction bs generalizing cur with
  | nil => simp [pieces]
  | cons b bs ih =>
    have hb : b ≠ 10 := fun hb => h (hb ▸ List.mem_cons_self)
    rw [List.cons_append, pieces, if_neg hb, ih (b :: cur) fun hmem => h (List.mem_cons_of_mem _ hmem)]
    simp

theorem stripLineEnd_append_newline {l : List Char} (hn : '\n' ∉ l) (hr : l.getLast? ≠ some '\r') :
    stripLineEnd (l ++ ['\n']) = l := by
  rw [stripLineEnd, List.reverse_append, List.reverse_singleton, List.singleton_append,
    List.dropWhile_cons_of_pos (by decide)]
  cases hl : l.reverse with
  | nil => simpa using hl.symm
  | cons x xs =>
    have hlast : l.getLast? = some x := by rw [← List.head?_reverse, hl]; rfl
    have hx : x ≠ '\n' := fun hx => hn (List.mem_of_getLast? (hx ▸ hlast))
    have hxr : x ≠ '\r' := fun hx => hr (hx ▸ hlast)
    rw [List.dropWhile_cons_of_neg (by simp [hx, hxr]), ← hl, List.reverse_reverse]

/-- The lines read from lines written each followed by `\n` are those lines, when none
holds a newline or ends in `\r`. -/
theorem fileLines_encode_lines (ls : List (List Char))
    (h : ∀ l ∈ ls, '\n' ∉ l ∧ l.getLast? ≠ some '\r') :
    fileLines (Utf8.encode (ls.flatMap (· ++ ['\n']))) = ls.map fun l => .ok (String.ofList l) := by
  induction ls with
  | nil => rfl
  | cons l ls ih =>
    obtain ⟨hn, hr⟩ := h l List.mem_cons_self
    have hbytes : Utf8.encode ((l :: ls).flatMap (· ++ ['\n'])) =
        Utf8.encode l ++ 10 :: Utf8.encode (ls.flatMap (· ++ ['\n'])) := by
      have hnewline : Utf8.encode ['\n'] = [10] := by decide
      rw [List.flatMap_cons, Utf8.encode_append, Utf8.encode_append, hnewline, List.append_assoc,
        List.singleton_append]
    have hpiece : Utf8.decode? (Utf8.encode l ++ [10]) = some (l ++ ['\n']) := by
      rw [← Utf8.decode?_encode (l ++ ['\n']), Utf8.encode_append]
      rfl
    rw [fileLines, hbytes, pieces_append_newline [] _ _ (Utf8.newline_not_mem_encode hn),
      List.map_cons, ← fileLines, ih fun l' hl' => h l' (List.mem_cons_of_mem _ hl'),
      List.reverse_nil, List.nil_append, hpiece, List.map_cons]
    dsimp only
    rw [stripLineEnd_append_newline hn hr]

end LineSource

end CsvQuery
