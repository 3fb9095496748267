import CsvQuery.Text.Decimal
import Mathlib.Tactic.IntervalCases

/-!
# Written integers read back

`Decimal.renderChars` writes an integer in its shortest decimal form and `Decimal.readSigned?`
reads an optional sign and one or more digits. Here reading is shown to invert writing:

* `natDigits_isDigit`, `natDigits_ne_nil`  the written form of a natural number is a
  non-empty run of ASCII digits;
* `digitsValue_natDigits`                  reading those digits gives the number back;
* `readSigned?_renderChars`                reading the written form of any integer gives
  it back, the sign included;
* `readInt64?_renderChars`, `readInt32?_renderChars`  so do the readers of a width, for
  every integer the width holds: the extremes `-9223372036854775808` and `-2147483648`
  included, whose magnitudes are read as unbounded naturals before the range check.
-/

namespace CsvQuery.Decimal

theorem isDigit_digitChar {d : Nat} (h : d < 10) : (Char.ofNat (48 + d)).isDigit = true := by
  interval_cases d <;> decide

theorem digitValue_digitChar {d : Nat} (h : d < 10) : digitValue (Char.ofNat (48 + d)) = d := by
  interval_cases d <;> decide

-- The equation lemmas of `digitsValue` are not generated here (their proof by `rfl` runs out
-- of time reducing `digitValue`), so both steps are read off one unfolding of the left side.
@[simp] theorem digitsValue_nil (acc : Nat) : digitsValue acc [] = acc := by
  unfold digitsValue; rfl

@[simp] theorem digitsValue_cons (acc : Nat) (c : Char) (cs : List Char) :
    digitsValue acc (c :: cs) = digitsValue (acc * 10 + digitValue c) cs := by
  conv => lhs; unfold digitsValue

theorem digitsValue_append (acc : Nat) (xs ys : List Char) :
    digitsValue acc (xs ++ ys) = digitsValue (digitsValue acc xs) ys := by
  induction xs generalizing acc with
  | nil => simp
  | cons x xs ih => simp [ih]

theorem natDigits_eq (n : Nat) :
    natDigits n =
      if n < 10 then [Char.ofNat (48 + n)] else natDigits (n / 10) ++ [Char.ofNat (48 + n % 10)] := by
  rw [natDigits]

theorem natDigits_isDigit (n : Nat) : ∀ c ∈ natDigits n, c.isDigit = true := by
  induction n using Nat.strong_induction_on with
  | _ n ih =>
    rw [natDigits_eq]
    split
    · simpa using isDigit_digitChar ‹n < 10›
    · intro c hc
      rcases List.mem_append.1 hc with hc | hc
      · exact ih (n / 10) (by omega) c hc
      · rw [List.mem_singleton.1 hc]
        exact isDigit_digitChar (Nat.mod_lt _ (by omega))

theorem natDigits_ne_nil (n : Nat) : natDigits n ≠ [] := by
  rw [natDigits_eq]
  split <;> simp

theorem digitsValue_natDigits (n : Nat) : digitsValue 0 (natDigits n) = n := by
  induction n using Nat.strong_induction_on with
  | _ n ih =>
    rw [natDigits_eq]
    split
    · simp only [digitsValue_cons, digitsValue_nil, digitValue_digitChar ‹n < 10›]
      omega
    · simp only [digitsValue_append, ih (n / 10) (by omega), digitsValue_cons, digitsValue_nil,
        digitValue_digitChar (Nat.mod_lt n (by omega : 10 > 0))]
      omega

theorem readNat?_natDigits (n : Nat) : readNat? (natDigits n) = some n := by
  have hall : (natDigits n).all Char.isDigit = true := List.all_eq_true.2 (natDigits_isDigit n)
  simp [readNat?, natDigits_ne_nil, hall, digitsValue_natDigits]

theorem readSigned?_natDigits (n : Nat) : readSigned? (natDigits n) = some (n : Int) := by
  obtain ⟨c, cs, hcs⟩ := List.exists_cons_of_ne_nil (natDigits_ne_nil n)
  have hc : c.isDigit = true := natDigits_isDigit n c (by simp [hcs])
  have hplus : c ≠ '+' := by rintro rfl; exact absurd hc (by decide)
  have hminus : c ≠ '-' := by rintro rfl; exact absurd hc (by decide)
  rw [hcs, readSigned?.eq_3 _ (by simpa using hplus) (by simpa using hminus), ← hcs,
    readNat?_natDigits]
  rfl

/-- Reading the written form of an integer gives the integer back. -/
theorem readSigned?_renderChars (i : Int) : readSigned? (renderChars i) = some i := by
  cases i with
  | ofNat n => exact readSigned?_natDigits n
  | negSucc n =>
    simp only [renderChars, readSigned?, readNat?_natDigits]
    rfl

theorem readInt64?_renderChars {i : Int} (h : fitsInt64 i = true) :
    readInt64? (renderChars i) = some i := by
  simp [readInt64?, readSigned?_renderChars, h]

theorem readInt32?_renderChars {i : Int} (h : fitsInt32 i = true) :
    readInt32? (renderChars i) = some i := by
  simp [readInt32?, readSigned?_renderChars, h]

theorem renderChars_chars (i : Int) : ∀ c ∈ renderChars i, c.isDigit = true ∨ c = '-' := by
  cases i with
  | ofNat n => exact fun c hc => .inl (natDigits_isDigit n c hc)
  | negSucc n =>
    intro c hc
    rcases List.mem_cons.1 hc with rfl | hc
    · exact .inr rfl
    · exact .inl (natDigits_isDigit (n + 1) c hc)

theorem renderChars_ne_nil (i : Int) : renderChars i ≠ [] := by
  cases i with
  | ofNat n => exact natDigits_ne_nil n
  | negSucc n => simp [renderChars]

@[simp] theorem toList_render (i : Int) : (render i).toList = renderChars i := by
  simp [render]

example : readInt64? (renderChars int64Min) = some int64Min :=
  readInt64?_renderChars (by decide)

end CsvQuery.Decimal
