import CsvQuery.Table.Schema
import CsvQuery.Table.Tuple

/-!
# Names without dots

A schema entry joins a reference and a column with a dot (`Schema.ofTable`). When neither
part holds a dot, that dot is the only one, and resolving a name in a schema of such entries
(`Schema.Plain`) loses its subtleties:

* a name with a dot matches entries exactly and never by suffix, a name without one matches
  by suffix and never exactly (`indexOf_of_dot`, `indexOf_of_dotFree`), so resolving in two
  schemas side by side resolves in the left one first (`indexOf_combine`);
* in one table's schema, `r.c` resolves exactly when `r` is the table's reference and `c`
  one of its columns, and a bare `c` exactly when `c` is one of its columns
  (`indexOf_ofTable_qualified`, `indexOf_ofTable_bare`).

`Schema.lookup` reads a name's value from a tuple laid out by a schema; for two plain
schemas side by side it reads the left tuple first (`lookup_combine`).
-/

namespace CsvQuery

/-- A name part that holds no dot. -/
def DotFree (s : String) : Prop := '.' ∉ s.toList

instance (s : String) : Decidable (DotFree s) := inferInstanceAs (Decidable ('.' ∉ s.toList))

theorem toList_dotted (a b : String) : (a ++ "." ++ b).toList = a.toList ++ '.' :: b.toList := by
  simp [String.toList_append]

theorem append_cons_inj {α : Type} {x : α} :
    ∀ {a c b d : List α}, x ∉ a → x ∉ c → a ++ x :: b = c ++ x :: d → a = c ∧ b = d
  | [], [], _, _, _, _, h => by simpa using h
  | [], y :: c, _, _, _, hc, h => by
    simp only [List.nil_append, List.cons_append, List.cons.injEq] at h
    exact absurd (h.1 ▸ List.mem_cons_self) hc
  | y :: a, [], _, _, ha, _, h => by
    simp only [List.nil_append, List.cons_append, List.cons.injEq] at h
    exact absurd (h.1 ▸ List.mem_cons_self) ha
  | y :: a, z :: c, b, d, ha, hc, h => by
    simp only [List.cons_append, List.cons.injEq] at h
    obtain ⟨rfl, h⟩ := h
    obtain ⟨rfl, rfl⟩ := append_cons_inj (fun h => ha (List.mem_cons_of_mem _ h))
      (fun h => hc (List.mem_cons_of_mem _ h)) h
    exact ⟨rfl, rfl⟩

theorem findIdx?_congr {α : Type} {p q : α → Bool} :
    ∀ {l : List α}, (∀ a ∈ l, p a = q a) → l.findIdx? p = l.findIdx? q
  | [], _ => rfl
  | a :: l, h => by
    rw [List.findIdx?_cons, List.findIdx?_cons, h a List.mem_cons_self,
      findIdx?_congr fun b hb => h b (List.mem_cons_of_mem a hb)]

section Dotted

variable {r c r' c' n : String}

theorem dotted_inj (hr : DotFree r) (hr' : DotFree r') :
    r ++ "." ++ c = r' ++ "." ++ c' ↔ r = r' ∧ c = c' := by
  constructor
  · intro h
    have h' := congrArg String.toList h
    rw [toList_dotted, toList_dotted] at h'
    obtain ⟨h1, h2⟩ := append_cons_inj hr hr' h'
    exact ⟨String.toList_inj.1 h1, String.toList_inj.1 h2⟩
  · rintro ⟨rfl, rfl⟩
    rfl

/-- Read from the end, a dotted name splits at its last dot: with dot-free columns the
references may hold dots. -/
theorem dotted_inj_right (hc : DotFree c) (hc' : DotFree c') :
    r ++ "." ++ c = r' ++ "." ++ c' ↔ r = r' ∧ c = c' := by
  constructor
  · intro h
    have h' := congrArg (fun s : String => s.toList.reverse) h
    simp only [toList_dotted, List.reverse_append, List.reverse_cons, List.append_assoc,
      List.singleton_append] at h'
    obtain ⟨h1, h2⟩ := append_cons_inj (by simpa [DotFree] using hc) (by simpa [DotFree] using hc') h'
    exact ⟨String.toList_inj.1 (List.reverse_inj.1 h2), String.toList_inj.1 (List.reverse_inj.1 h1)⟩
  · rintro ⟨rfl, rfl⟩
    rfl

theorem dotted_ne (hn : DotFree n) : r ++ "." ++ c ≠ n := by
  intro h
  apply hn
  rw [← h, toList_dotted]
  simp

theorem count_dot_dotted (hr : DotFree r) (hc : DotFree c) : (r ++ "." ++ c).toList.count '.' = 1 := by
  rw [toList_dotted, List.count_append, List.count_cons_self, List.count_eq_zero.2 hr,
    List.count_eq_zero.2 hc]

end Dotted

namespace Schema

theorem endsWithQualified_iff (e n : String) :
    endsWithQualified e n = true ↔ ∃ p : List Char, e.toList = p ++ '.' :: n.toList := by
  unfold endsWithQualified
  simp only [Bool.and_eq_true, decide_eq_true_eq, List.isSuffixOf_iff_suffix, beq_iff_eq]
  constructor
  · rintro ⟨⟨hlt, s, hs⟩, hdot⟩
    rw [← hs] at hdot hlt
    simp only [List.length_append] at hdot hlt
    -- the character before the suffix is the last one of the part in front of it
    obtain ⟨p, rfl⟩ : ∃ p, s = p ++ ['.'] := by
      rcases List.eq_nil_or_concat s with h | ⟨p, y, rfl⟩
      · subst h
        simp at hlt
      · simp only [List.concat_eq_append, List.length_append, List.length_singleton] at hdot
        rw [show p.length + 1 + n.toList.length - n.toList.length - 1 = p.length by omega,
          List.append_assoc, List.getElem?_append_right (Nat.le_refl _), Nat.sub_self] at hdot
        simp only [List.singleton_append, List.getElem?_cons_zero, Option.some.injEq] at hdot
        exact ⟨p, by simp [hdot]⟩
    exact ⟨p, by rw [← hs]; simp⟩
  · rintro ⟨p, hp⟩
    rw [hp]
    refine ⟨⟨by simp only [List.length_append, List.length_cons]; omega, ⟨p ++ ['.'], by simp⟩⟩, ?_⟩
    simp [show p.length + (n.toList.length + 1) - n.toList.length - 1 = p.length by omega]

theorem endsWithQualified_dotted {r c n : String} (hr : DotFree r) (hc : DotFree c)
    (hn : '.' ∈ n.toList) : endsWithQualified (r ++ "." ++ c) n = false := by
  rw [Bool.eq_false_iff, ne_eq, endsWithQualified_iff]
  rintro ⟨p, hp⟩
  have h1 := count_dot_dotted hr hc
  rw [hp, List.count_append, List.count_cons_self] at h1
  have := List.count_pos_iff.2 hn
  omega

theorem endsWithQualified_dotFree {r c n : String} (hc : DotFree c) (hn : DotFree n) :
    endsWithQualified (r ++ "." ++ c) n = true ↔ c = n := by
  rw [endsWithQualified_iff, toList_dotted]
  constructor
  · rintro ⟨p, hp⟩
    -- read both sides from the end: the last dot is the one before the column
    have h := congrArg List.reverse hp
    simp only [List.reverse_append, List.reverse_cons, List.append_assoc, List.singleton_append] at h
    obtain ⟨h1, -⟩ := append_cons_inj (by simpa [DotFree] using hc) (by simpa [DotFree] using hn) h
    exact String.toList_inj.1 (List.reverse_inj.1 h1)
  · rintro rfl
    exact ⟨r.toList, rfl⟩

/-- Every entry joins a reference and a column, neither holding a dot. -/
def Plain (s : Schema) : Prop :=
  ∀ e ∈ s.columns, ∃ r c, DotFree r ∧ DotFree c ∧ e = r ++ "." ++ c

theorem plain_ofTable {r : String} {cols : List String} (hr : DotFree r)
    (hcols : ∀ c ∈ cols, DotFree c) : (ofTable r cols).Plain := by
  intro e he
  simp only [ofTable, List.mem_map] at he
  obtain ⟨c, hc, rfl⟩ := he
  exact ⟨r, c, hr, hcols c hc, rfl⟩

theorem Plain.combine {s₁ s₂ : Schema} (h₁ : s₁.Plain) (h₂ : s₂.Plain) : (s₁.combine s₂).Plain := by
  intro e he
  rcases List.mem_append.1 he with he | he
  · exact h₁ e he
  · exact h₂ e he

section Plain

variable {s : Schema} {n : String}

/-- In a plain schema a name with a dot resolves by exact match only. -/
theorem indexOf_of_dot (hs : s.Plain) (hn : '.' ∈ n.toList) :
    s.indexOf n = s.columns.findIdx? (· == n) := by
  unfold indexOf
  split
  · rename_i hsome
    exact hsome.symm
  · rename_i hnone
    rw [hnone, List.findIdx?_eq_none_iff]
    intro e he
    obtain ⟨r, c, hr, hc, rfl⟩ := hs e he
    exact endsWithQualified_dotted hr hc hn

/-- In a plain schema a name without a dot resolves by suffix only. -/
theorem indexOf_of_dotFree (hs : s.Plain) (hn : DotFree n) :
    s.indexOf n = s.columns.findIdx? (endsWithQualified · n) := by
  have hexact : s.columns.findIdx? (· == n) = none := by
    rw [List.findIdx?_eq_none_iff]
    intro e he
    obtain ⟨r, c, -, -, rfl⟩ := hs e he
    simpa using dotted_ne hn
  simp only [indexOf, hexact]

/-- Two plain schemas side by side resolve a name in the left one first. -/
theorem indexOf_combine {s₁ s₂ : Schema} (h₁ : s₁.Plain) (h₂ : s₂.Plain) (n : String) :
    (s₁.combine s₂).indexOf n = (s₁.indexOf n).or ((s₂.indexOf n).map (· + s₁.size)) := by
  by_cases hn : '.' ∈ n.toList
  · rw [indexOf_of_dot (h₁.combine h₂) hn, indexOf_of_dot h₁ hn, indexOf_of_dot h₂ hn]
    simp [combine, size]
  · rw [indexOf_of_dotFree (h₁.combine h₂) hn, indexOf_of_dotFree h₁ hn,
      indexOf_of_dotFree h₂ hn]
    simp [combine, size]

end Plain

section OfTable

variable {r : String} {cols : List String}

/-- In one table's schema, `q.d` resolves to the column `d` of the table referenced by `q`. -/
theorem indexOf_ofTable_qualified (hr : DotFree r) (hcols : ∀ c ∈ cols, DotFree c)
    {q d : String} (hq : DotFree q) :
    (ofTable r cols).indexOf (q ++ "." ++ d) = if r = q then cols.findIdx? (· == d) else none := by
  rw [indexOf_of_dot (plain_ofTable hr hcols) (by rw [toList_dotted]; simp)]
  simp only [ofTable, List.findIdx?_map]
  split
  · rename_i h
    subst h
    congr 1
    funext c
    rw [Bool.eq_iff_iff]
    simp [dotted_inj hr hr]
  · rename_i h
    rw [List.findIdx?_eq_none_iff]
    intro c _
    simp [dotted_inj hr hq, h]

/-- In one table's schema, a bare `d` resolves to the table's column `d`. -/
theorem indexOf_ofTable_bare (hr : DotFree r) (hcols : ∀ c ∈ cols, DotFree c)
    {d : String} (hd : DotFree d) :
    (ofTable r cols).indexOf d = cols.findIdx? (· == d) := by
  rw [indexOf_of_dotFree (plain_ofTable hr hcols) hd]
  simp only [ofTable, List.findIdx?_map]
  apply findIdx?_congr
  intro c hc
  simp only [Function.comp_apply]
  rw [Bool.eq_iff_iff, endsWithQualified_dotFree (hcols c hc) hd]
  simp

end OfTable

theorem lt_size_of_indexOf {s : Schema} {n : String} {p : Nat} (h : s.indexOf n = some p) :
    p < s.size := by
  unfold indexOf at h
  split at h
  · cases h
    rename_i h'
    exact (List.findIdx?_eq_some_iff_getElem.1 h').1
  · exact (List.findIdx?_eq_some_iff_getElem.1 h).1

/-- The value a name reads from a tuple laid out by the schema. -/
def lookup (s : Schema) (t : Tuple) (n : String) : Option Int :=
  (s.indexOf n).bind fun p => t.values[p]?

/-- Two plain schemas side by side, over the two tuples side by side, read a name from the
left tuple if the left schema resolves it, and from the right one otherwise. -/
theorem lookup_combine {s₁ s₂ : Schema} (h₁ : s₁.Plain) (h₂ : s₂.Plain) {t₁ t₂ : Tuple}
    (ht : t₁.arity = s₁.size) (n : String) :
    (s₁.combine s₂).lookup (t₁.concat t₂) n = (s₁.lookup t₁ n).or (s₂.lookup t₂ n) := by
  simp only [lookup, indexOf_combine h₁ h₂]
  cases h : s₁.indexOf n with
  | some p =>
    -- a resolved position is a position of the left tuple
    have hp : p < t₁.values.length := by
      have := lt_size_of_indexOf h
      rw [← ht] at this
      exact this
    simp [Tuple.concat, List.getElem?_append_left hp, List.getElem?_eq_getElem hp]
  | none =>
    cases s₂.indexOf n with
    | none => rfl
    | some p =>
      simp [Tuple.concat, Tuple.arity] at ht ⊢
      rw [List.getElem?_append_right (by omega)]
      simp [ht]

end Schema

end CsvQuery
