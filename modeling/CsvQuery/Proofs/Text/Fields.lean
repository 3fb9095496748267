import Mathlib.Data.String.Basic
import CsvQuery.Text.Blank
import CsvQuery.Proofs.Text.Decimal

/-!
# Fields of text: splitting at one character, trimming blanks

Rows, SUM products and paths are cut into fields at one separator character, and fields are
trimmed of blanks. Here both are read on the characters of the text:

* `String.splitOn_eq_of_toList`  splitting a string at a one-character separator is
  splitting its characters (`List.splitOn`): the pieces between separators, in order, and
  a text without the separator is its own one piece (`String.splitOn_eq_singleton`);
* `Blank.trim_eq_self_iff`  a text is its own trim exactly when it is empty or starts and
  ends with a non-blank character;
* `Blank.trim_blank_append`  blanks around a text are what trimming removes;
* `List.two_le_length_splitOn`, `List.not_mem_of_mem_splitOn`  a text holding the
  separator splits into two pieces or more, and no piece holds the separator;
* `Blank.trim_trim`  trimming twice is trimming once;
* `Blank.trim_renderChars`  the written form of an integer is its own trim.
-/

namespace String

theorem splitOnAux_of_valid (c : Char) (l m r : List Char) (acc : List String) :
    splitOnAux (ofList (l ++ m ++ r)) (ofList [c]) ⟨utf8Len l⟩ ⟨utf8Len l + utf8Len m⟩ 0 acc =
      acc.reverse ++ (List.splitOnPPrepend (· == c) r m.reverse).map ofList := by
  unfold splitOnAux
  simp only [List.append_assoc, atEnd_iff, rawEndPos_ofList, utf8Len_append, Pos.Raw.mk_le_mk,
    Nat.add_le_add_iff_left, (by omega : utf8Len m + utf8Len r ≤ utf8Len m ↔ utf8Len r = 0),
    utf8Len_eq_zero]
  split
  · subst r
    simpa using extract_of_valid l m []
  · obtain ⟨d, r, rfl⟩ := r.exists_cons_of_ne_nil ‹_›
    have hsep : Pos.Raw.get (ofList [c]) 0 = c := get_of_valid [] [c]
    have hget := get_of_valid (l ++ m) (d :: r)
    have hnext := next_of_valid (l ++ m) d r
    simp only [List.append_assoc, utf8Len_append] at hget hnext
    rw [hget, hsep]
    split
    · -- the separator: the piece `m` ends, and the next one starts after it
      rename_i h
      obtain rfl : d = c := by simpa using h
      have hsepNext : Pos.Raw.next (ofList [d]) 0 = ⟨d.utf8Size⟩ := by
        simpa using next_of_valid [] d []
      have hback : (⟨utf8Len l + utf8Len m + d.utf8Size⟩ : Pos.Raw).unoffsetBy ⟨d.utf8Size⟩ =
          ⟨utf8Len l + utf8Len m⟩ := by
        simp [Pos.Raw.unoffsetBy]
      have hextract := extract_of_valid l m (d :: r)
      simp only [List.append_assoc] at hextract
      rw [hnext, hsepNext, if_pos (by simp), hback, hextract]
      simpa [Nat.add_assoc, List.splitOnPPrepend_cons_pos] using
        splitOnAux_of_valid d (l ++ m ++ [d]) [] r (ofList m :: acc)
    · -- any other character joins the current piece
      rename_i h
      have hstay : (⟨utf8Len l + utf8Len m⟩ : Pos.Raw).unoffsetBy 0 = ⟨utf8Len l + utf8Len m⟩ := by
        simp [Pos.Raw.unoffsetBy]
      have hdc : (d == c) = false := by simpa using h
      rw [hstay, hnext, List.splitOnPPrepend_cons_neg (p := (· == c)) hdc]
      simpa [Nat.add_assoc] using splitOnAux_of_valid c l (m ++ [d]) r acc

/-- Splitting at a one-character separator splits the characters. -/
theorem splitOn_eq_of_toList (s : String) {sep : String} {c : Char} (h : sep.toList = [c]) :
    s.splitOn sep = (s.toList.splitOn c).map ofList := by
  have hsep : sep = ofList [c] := by rw [← h, ofList_toList]
  have hne : (sep == "") = false := by
    rw [beq_eq_false_iff_ne]
    rintro rfl
    simp at h
  have hrun := splitOnAux_of_valid c [] [] s.toList []
  simp only [List.nil_append, utf8Len_nil, Nat.add_zero, List.reverse_nil, ofList_toList,
    List.splitOnPPrepend_nil_right] at hrun
  rw [splitOn, hne, if_neg Bool.false_ne_true, ← hsep] at *
  rw [List.splitOn_eq_splitOnP]
  exact hrun

/-- A text without the separator character is its own one piece. -/
theorem splitOn_eq_singleton (s : String) {sep : String} {c : Char} (h : sep.toList = [c])
    (hc : c ∉ s.toList) : s.splitOn sep = [s] := by
  rw [splitOn_eq_of_toList s h, List.splitOn_eq_singleton hc]
  simp

end String

namespace List

variable {α : Type} [BEq α] [LawfulBEq α]

/-- A list holding the separator splits into two pieces or more. -/
theorem two_le_length_splitOn {a : α} {xs : List α} (h : a ∈ xs) : 2 ≤ (xs.splitOn a).length := by
  obtain ⟨ys, zs, rfl⟩ := List.append_of_mem h
  rw [List.splitOn_append_cons_self, List.length_append]
  have hy := List.length_pos_iff.2 (List.splitOn_ne_nil a ys)
  have hz := List.length_pos_iff.2 (List.splitOn_ne_nil a zs)
  omega

/-- No piece of a split holds the separator. -/
theorem not_mem_of_mem_splitOn {a : α} {xs p : List α} (h : p ∈ xs.splitOn a) : a ∉ p := by
  induction xs generalizing p with
  | nil =>
    rw [List.splitOn_nil, List.mem_singleton] at h
    simp [h]
  | cons x xs ih =>
    rw [List.splitOn_cons_eq_if_modifyHead] at h
    split at h
    · -- the separator itself starts a new, empty piece
      rcases List.mem_cons.1 h with rfl | h
      · simp
      · exact ih h
    · -- any other element joins the first piece
      rename_i hx
      obtain ⟨q, qs, hq⟩ := List.exists_cons_of_ne_nil (List.splitOn_ne_nil a xs)
      rw [hq, List.modifyHead_cons] at h
      rcases List.mem_cons.1 h with rfl | h
      · rw [List.mem_cons, not_or]
        exact ⟨fun hax => hx (by simp [hax]), ih (hq ▸ List.mem_cons_self)⟩
      · exact ih (hq ▸ List.mem_cons_of_mem _ h)

end List

namespace CsvQuery.Blank

theorem trimStart_cons_of_not_blank {c : Char} (h : isBlank c = false) (cs : List Char) :
    trimStart (c :: cs) = c :: cs := by
  simp [trimStart, h]

theorem trimEnd_append_of_not_blank {c : Char} (h : isBlank c = false) (cs : List Char) :
    trimEnd (cs ++ [c]) = cs ++ [c] := by
  simp [trimEnd, h]

theorem isSuffix_trimStart (cs : List Char) : trimStart cs <:+ cs := List.dropWhile_suffix _

theorem isPrefix_trimEnd (cs : List Char) : trimEnd cs <+: cs := by
  simpa [trimEnd] using (List.dropWhile_suffix isBlank (l := cs.reverse)).reverse

theorem head?_trimStart (cs : List Char) {c : Char} (h : (trimStart cs).head? = some c) :
    isBlank c = false := by
  have hnot := List.head?_dropWhile_not isBlank cs
  rw [trimStart] at h
  rw [h] at hnot
  exact hnot

theorem getLast?_trimEnd (cs : List Char) {c : Char} (h : (trimEnd cs).getLast? = some c) :
    isBlank c = false := by
  have hnot := List.head?_dropWhile_not isBlank cs.reverse
  rw [trimEnd, List.getLast?_reverse] at h
  rw [h] at hnot
  exact hnot

theorem trim_sublist (cs : List Char) : List.Sublist (trim cs) cs :=
  (isPrefix_trimEnd (trimStart cs)).sublist.trans (isSuffix_trimStart cs).sublist

theorem trim_ends_not_blank (cs : List Char) {c : Char}
    (h : (trim cs).head? = some c ∨ (trim cs).getLast? = some c) : isBlank c = false := by
  rcases h with h | h
  · -- the trim starts where the text trimmed at the start does
    obtain ⟨rest, hrest⟩ := isPrefix_trimEnd (trimStart cs)
    apply head?_trimStart cs
    rw [trim] at h
    rw [← hrest, List.head?_append, h]
    rfl
  · exact getLast?_trimEnd _ h

theorem trim_eq_self_of_ends {cs : List Char}
    (h : ∀ c, cs.head? = some c ∨ cs.getLast? = some c → isBlank c = false) : trim cs = cs := by
  cases cs with
  | nil => rfl
  | cons d ds =>
    have hfirst : isBlank d = false := h d (.inl rfl)
    obtain ⟨xs, c, hxs⟩ : ∃ xs c, d :: ds = xs ++ [c] :=
      ⟨(d :: ds).dropLast, (d :: ds).getLast (by simp), (List.dropLast_concat_getLast (by simp)).symm⟩
    have hlast : isBlank c = false := h c (.inr (by rw [hxs]; simp))
    rw [trim, trimStart_cons_of_not_blank hfirst, hxs, trimEnd_append_of_not_blank hlast]

/-- A text is its own trim exactly when its first and last characters are not blank. -/
theorem trim_eq_self_iff (cs : List Char) :
    trim cs = cs ↔ ∀ c, cs.head? = some c ∨ cs.getLast? = some c → isBlank c = false := by
  constructor
  · intro h c hc
    rw [← h] at hc
    exact trim_ends_not_blank cs hc
  · exact trim_eq_self_of_ends

/-- Trimming twice is trimming once. -/
theorem trim_trim (cs : List Char) : trim (trim cs) = trim cs :=
  trim_eq_self_of_ends fun _ => trim_ends_not_blank cs

theorem trim_of_not_blank {cs : List Char} (h : ∀ c ∈ cs, isBlank c = false) : trim cs = cs :=
  trim_eq_self_of_ends fun c hc => h c (by
    rcases hc with hc | hc
    · exact List.mem_of_mem_head? hc
    · exact List.mem_of_getLast? hc)

/-- Blanks around a text are what trimming removes. -/
theorem trim_blank_append {pre post : List Char} (hpre : ∀ c ∈ pre, isBlank c = true)
    (hpost : ∀ c ∈ post, isBlank c = true) (cs : List Char) :
    trim (pre ++ cs ++ post) = trim cs := by
  have hstart : trimStart (pre ++ cs ++ post) = trimStart (cs ++ post) := by
    simp [trimStart, List.append_assoc, List.dropWhile_append_of_pos hpre]
  have hend : ∀ xs : List Char, trimEnd (xs ++ post) = trimEnd xs := by
    intro xs
    simp [trimEnd, List.dropWhile_append_of_pos (fun c hc => hpost c (List.mem_reverse.1 hc))]
  unfold trim
  rw [hstart, trimStart, List.dropWhile_append]
  split
  · -- the text is blank: nothing is left on either side
    rename_i hnil
    rw [List.isEmpty_iff] at hnil
    have hblank : post.dropWhile isBlank = [] := by
      have hall := (List.dropWhile_append_of_pos hpost :
        (post ++ []).dropWhile isBlank = ([] : List Char).dropWhile isBlank)
      rwa [List.append_nil, List.dropWhile_nil] at hall
    simp [hblank, trimStart, hnil, trimEnd]
  · rw [hend]
    rfl

theorem isBlank_of_digit_or_minus {c : Char} (h : c.isDigit = true ∨ c = '-') :
    isBlank c = false := by
  rcases h with h | rfl
  · simp only [Char.isDigit, Bool.and_eq_true, decide_eq_true_eq] at h
    have hlo : 48 ≤ c.toNat := h.1
    have hhi : c.toNat ≤ 57 := h.2
    unfold isBlank
    generalize c.toNat = n at hlo hhi
    interval_cases n <;> decide
  · decide

/-- The written form of an integer is its own trim. -/
theorem trim_renderChars (i : Int) : trim (Decimal.renderChars i) = Decimal.renderChars i :=
  trim_of_not_blank fun c hc => isBlank_of_digit_or_minus (Decimal.renderChars_chars i c hc)

end CsvQuery.Blank
