import CsvQuery.Query.Sum
import CsvQuery.Proofs.Text.Fields

/-!
# SUM expressions read back from their text

A SUM expression is written as its factors joined by `" * "` (`SumExpr.render`) and read by
trimming, splitting at every `*` and reading each trimmed factor as a 64-bit literal or
else a column (`SumExpr.ofText?`).

* `SumTerm.Canonical`, `SumExpr.Canonical`  what reading produces: a literal that fits 64
  bits, or a column name that is not empty, has no blank at either end, holds no `*` and
  does not read as a 64-bit integer; a product has two factors or more;
* `SumExpr.canonical_of_ofText?`  reading produces only canonical expressions;
* `SumExpr.ofText?_render_of_canonical`  a canonical expression reads back from its text;
* `SumExpr.ofText?_render`  so writing inverts reading on everything reading produces:
  the text of a SUM in a plan denotes the expression that was read.
-/

namespace CsvQuery

open Blank

namespace SumTerm

/-- A factor as reading produces it. -/
def Canonical : SumTerm → Prop
  | .lit v => Decimal.fitsInt64 v = true
  | .col c => c.toList ≠ [] ∧ trim c.toList = c.toList ∧ '*' ∉ c.toList ∧
      Decimal.readInt64? c.toList = none

theorem canonical_ofText {cs : List Char} (hne : cs ≠ []) (htrim : trim cs = cs)
    (hstar : '*' ∉ cs) : (ofText cs).Canonical := by
  unfold ofText
  split
  · rename_i v hv
    simp only [Decimal.readInt64?, Option.bind_eq_some_iff] at hv
    obtain ⟨i, -, hfit⟩ := hv
    split at hfit
    · cases hfit
      assumption
    · cases hfit
  · rename_i hv
    exact ⟨by simpa using hne, by simpa using htrim, by simpa using hstar, by simpa using hv⟩

theorem render_ne_nil {t : SumTerm} (h : t.Canonical) : t.render.toList ≠ [] := by
  cases t with
  | lit v => simpa [render] using Decimal.renderChars_ne_nil v
  | col c => exact h.1

theorem trim_render {t : SumTerm} (h : t.Canonical) : trim t.render.toList = t.render.toList := by
  cases t with
  | lit v =>
    simpa [render] using trim_renderChars v
  | col c => exact h.2.1

theorem star_not_mem_render {t : SumTerm} (h : t.Canonical) : '*' ∉ t.render.toList := by
  cases t with
  | lit v =>
    intro hmem
    simp only [render, Decimal.toList_render] at hmem
    rcases Decimal.renderChars_chars v '*' hmem with h | h
    · exact absurd h (by decide)
    · exact absurd h (by decide)
  | col c => exact h.2.2.1

/-- A canonical factor reads back from its text. -/
theorem ofText_render {t : SumTerm} (h : t.Canonical) : ofText t.render.toList = t := by
  cases t with
  | lit v => simp [ofText, render, Decimal.readInt64?_renderChars h]
  | col c => simp [ofText, render, h.2.2.2]

end SumTerm

namespace SumExpr

/-- An expression as reading produces it: a product has two factors or more. -/
def Canonical : SumExpr → Prop
  | .lit v => Decimal.fitsInt64 v = true
  | .col c => (SumTerm.col c).Canonical
  | .product ts => 2 ≤ ts.length ∧ ∀ t ∈ ts, t.Canonical

theorem readFactors_eq_some_iff (parts : List (List Char)) (ts : List SumTerm) :
    readFactors parts = some ts ↔
      (∀ p ∈ parts, trim p ≠ []) ∧ ts = parts.map fun p => SumTerm.ofText (trim p) := by
  induction parts generalizing ts with
  | nil =>
    rw [readFactors, Option.some_inj, List.map_nil]
    exact ⟨fun h => ⟨by simp, h.symm⟩, fun h => h.2.symm⟩
  | cons p parts ih =>
    by_cases hp : trim p = []
    · simp [readFactors, hp]
    · rw [readFactors, if_neg (by simpa using hp), Option.map_eq_some_iff]
      simp only [ih, List.forall_mem_cons, List.map_cons]
      constructor
      · rintro ⟨_, ⟨hall, rfl⟩, rfl⟩
        exact ⟨⟨hp, hall⟩, rfl⟩
      · rintro ⟨⟨-, hall⟩, rfl⟩
        exact ⟨_, ⟨hall, rfl⟩, rfl⟩

/-- Reading produces only canonical expressions. -/
theorem canonical_of_ofText? {s : String} {e : SumExpr} (h : ofText? s = some e) :
    e.Canonical := by
  unfold ofText? at h
  dsimp only at h
  split at h
  · cases h
  · rename_i hne
    have htrim : trim (trim s.toList) = trim s.toList := trim_trim _
    have hne' : trim s.toList ≠ [] := by simpa using hne
    split at h
    · -- a product: each piece between two stars is a factor
      rename_i hstar
      obtain ⟨ts, hts, rfl⟩ := Option.map_eq_some_iff.1 h
      obtain ⟨hblank, rfl⟩ := (readFactors_eq_some_iff _ _).1 hts
      refine ⟨by simpa [splitStars] using List.two_le_length_splitOn (by simpa using hstar), ?_⟩
      simp only [List.mem_map]
      rintro _ ⟨p, hp, rfl⟩
      refine SumTerm.canonical_ofText (hblank p hp) (trim_trim p) fun hmem => ?_
      exact List.not_mem_of_mem_splitOn hp ((trim_sublist p).subset hmem)
    · -- a single factor
      rename_i hstar
      have hstar' : '*' ∉ trim s.toList := by simpa using hstar
      have hcan := SumTerm.canonical_ofText hne' htrim hstar'
      split at h <;> rename_i heq <;> rw [heq] at hcan <;> cases h <;> exact hcan

/-- The characters of a product's text: the texts of its factors joined by `" * "`. -/
def joined (ts : List SumTerm) : List Char :=
  [' ', '*', ' '].intercalate (ts.map fun t => t.render.toList)

theorem toList_render_product (ts : List SumTerm) : (render (.product ts)).toList = joined ts := by
  simp [render, joined, String.toList_intercalate, Function.comp_def]

theorem readFactors_joined (pre : List Char) (hpre : ∀ c ∈ pre, isBlank c = true) :
    ∀ ts : List SumTerm, ts ≠ [] → (∀ t ∈ ts, t.Canonical) →
      readFactors ((pre ++ joined ts).splitOn '*') = some ts
  | [], hts, _ => absurd rfl hts
  | [t], _, hcan => by
    have ht := hcan t List.mem_cons_self
    have hstar : '*' ∉ pre ++ t.render.toList := by
      rw [List.mem_append, not_or]
      exact ⟨fun h => absurd (hpre _ h) (by decide), SumTerm.star_not_mem_render ht⟩
    have htrim : trim (pre ++ t.render.toList) = t.render.toList := by
      simpa [SumTerm.trim_render ht] using
        trim_blank_append hpre (fun c (h : c ∈ ([] : List Char)) => absurd h List.not_mem_nil)
          t.render.toList
    simp [joined, List.splitOn_eq_singleton hstar, readFactors, htrim, SumTerm.render_ne_nil ht,
      SumTerm.ofText_render ht]
  | t :: t' :: ts, _, hcan => by
    have ht := hcan t List.mem_cons_self
    have hstar : '*' ∉ pre ++ t.render.toList ++ [' '] := by
      simp only [List.mem_append, List.mem_singleton, not_or]
      exact ⟨⟨fun h => absurd (hpre _ h) (by decide), SumTerm.star_not_mem_render ht⟩, by decide⟩
    have htrim : trim (pre ++ t.render.toList ++ [' ']) = t.render.toList := by
      rw [trim_blank_append hpre (by simp [isBlank, codePoints]), SumTerm.trim_render ht]
    -- the first piece ends at the first `*`; the rest starts with the blank after it
    have hsplit : pre ++ joined (t :: t' :: ts) =
        (pre ++ t.render.toList ++ [' ']) ++ '*' :: ([' '] ++ joined (t' :: ts)) := by
      simp [joined, List.intercalate_cons_cons]
    have hrest := readFactors_joined [' '] (by simp [isBlank, codePoints]) (t' :: ts)
      (List.cons_ne_nil _ _) fun u hu => hcan u (List.mem_cons_of_mem _ hu)
    rw [hsplit, List.splitOn_append_cons_self_of_not_mem hstar, readFactors, htrim,
      if_neg (by simpa using SumTerm.render_ne_nil ht), hrest, SumTerm.ofText_render ht]
    rfl

theorem head?_joined (t : SumTerm) (ts : List SumTerm) (ht : t.Canonical) :
    (joined (t :: ts)).head? = t.render.toList.head? := by
  obtain ⟨c, cs, hc⟩ := List.exists_cons_of_ne_nil (SumTerm.render_ne_nil ht)
  cases ts with
  | nil => simp [joined]
  | cons t' ts => simp [joined, List.intercalate_cons_cons, hc]

theorem getLast?_joined : ∀ ts : List SumTerm, ts ≠ [] → (∀ t ∈ ts, t.Canonical) →
    ∃ u ∈ ts, (joined ts).getLast? = u.render.toList.getLast?
  | [], hts, _ => absurd rfl hts
  | [t], _, _ => ⟨t, List.mem_cons_self, by simp [joined]⟩
  | t :: t' :: ts, _, hcan => by
    obtain ⟨u, hu, hlast⟩ := getLast?_joined (t' :: ts) (List.cons_ne_nil _ _)
      fun v hv => hcan v (List.mem_cons_of_mem _ hv)
    obtain ⟨x, hx⟩ := Option.isSome_iff_exists.1 (List.getLast?_isSome.2
      (SumTerm.render_ne_nil (hcan u (List.mem_cons_of_mem _ hu))))
    refine ⟨u, List.mem_cons_of_mem _ hu, ?_⟩
    have hjoin : joined (t :: t' :: ts) = t.render.toList ++ ([' ', '*', ' '] ++ joined (t' :: ts)) := by
      simp [joined, List.intercalate_cons_cons]
    rw [hjoin, List.getLast?_append, List.getLast?_append, hlast, hx]
    rfl

theorem trim_joined {ts : List SumTerm} (hts : ts ≠ []) (hcan : ∀ t ∈ ts, t.Canonical) :
    trim (joined ts) = joined ts := by
  obtain ⟨t, rest, rfl⟩ := List.exists_cons_of_ne_nil hts
  have ht := hcan t List.mem_cons_self
  apply trim_eq_self_of_ends
  rintro c (hc | hc)
  · rw [head?_joined t rest ht] at hc
    exact ((trim_eq_self_iff _).1 (SumTerm.trim_render ht)) c (.inl hc)
  · obtain ⟨u, hu, hlast⟩ := getLast?_joined (t :: rest) hts hcan
    rw [hlast] at hc
    exact ((trim_eq_self_iff _).1 (SumTerm.trim_render (hcan u hu))) c (.inr hc)

theorem ofText?_of_term {t : SumTerm} (ht : t.Canonical) :
    ofText? t.render = some (match t with | .lit v => lit v | .col c => col c) := by
  have hne : t.render.toList.isEmpty = false := by simpa using SumTerm.render_ne_nil ht
  have hstar : t.render.toList.contains '*' = false := by
    simpa using SumTerm.star_not_mem_render ht
  simp only [ofText?, SumTerm.trim_render ht, hne, hstar, SumTerm.ofText_render ht]
  cases t <;> rfl

/-- A canonical expression reads back from its text. -/
theorem ofText?_render_of_canonical {e : SumExpr} (h : e.Canonical) : ofText? e.render = some e := by
  cases e with
  | lit v => simpa [SumTerm.render, render] using ofText?_of_term (t := .lit v) h
  | col c => simpa [SumTerm.render, render] using ofText?_of_term (t := .col c) h
  | product ts =>
    obtain ⟨hlen, hcan⟩ := h
    obtain ⟨t, t', rest, rfl⟩ : ∃ t t' rest, ts = t :: t' :: rest := by
      match ts, hlen with
      | t :: t' :: rest, _ => exact ⟨t, t', rest, rfl⟩
    have hts : t :: t' :: rest ≠ [] := List.cons_ne_nil _ _
    have hne : (joined (t :: t' :: rest)).isEmpty = false := by
      simp [joined, List.intercalate_cons_cons]
    have hstar : '*' ∈ joined (t :: t' :: rest) := by
      simp [joined, List.intercalate_cons_cons]
    have hread := readFactors_joined [] (by simp) _ hts hcan
    rw [List.nil_append] at hread
    rw [ofText?, toList_render_product]
    simp [trim_joined hts hcan, hne, hstar, splitStars, hread]

/-- Writing a SUM expression inverts reading it: whatever reading produces is canonical (a
product of two factors or more, literals within 64 bits, column names that are trimmed,
non-empty, free of `*` and no 64-bit integer), and reading its text gives it back. -/
theorem ofText?_render {s : String} {e : SumExpr} (h : ofText? s = some e) :
    e.Canonical ∧ ofText? e.render = some e :=
  ⟨canonical_of_ofText? h, ofText?_render_of_canonical (canonical_of_ofText? h)⟩

/-- A product with a signed, a zero-padded and an extreme literal reads back from its
text. -/
theorem extreme_product_reads_back :
    (product [.lit (-9223372036854775808), .col "R.A", .lit 7]).Canonical ∧
      ofText? (product [.lit (-9223372036854775808), .col "R.A", .lit 7]).render =
        some (product [.lit (-9223372036854775808), .col "R.A", .lit 7]) :=
  ofText?_render (s := " -9223372036854775808*R.A * +007 ") (by decide)

end SumExpr

end CsvQuery
