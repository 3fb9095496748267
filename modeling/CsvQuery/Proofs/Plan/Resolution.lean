import CsvQuery.Proofs.Pipeline.SortDistinct

/-!
# Resolving a name again, and in two schemas side by side

A schema resolves a name to its leftmost exact entry, failing that to its leftmost entry
that ends in `.` followed by the name (`Schema.indexOf_eq_or`). Resolution can be repeated
and extended safely:

* the entry a name resolves to resolves to the same place and reads back as itself as a
  column reference, so the planner's rewriting of a name to its entry, which operators
  resolve again, keeps the position it denotes (`Schema.indexOf_qualifiedName`);
* in two schemas side by side, a name the left one does not resolve resolves as in the
  right one, shifted past the left one (`Schema.indexOf_combine_of_none`), and a name the
  left one resolves keeps its place, unless the left one matches it only by suffix and the
  right one holds it exactly (`Schema.indexOf_combine_of_some`).

`indexOf_resolves_stably` states the four together.
-/

namespace CsvQuery

namespace Schema

variable {s l r : Schema} {n : String}

@[simp] theorem columns_combine (l r : Schema) : (l.combine r).columns = l.columns ++ r.columns :=
  rfl

/-- Resolution tries the exact entries, then the suffix matches. -/
theorem indexOf_eq_or (s : Schema) (n : String) :
    s.indexOf n =
      (s.columns.findIdx? (· == n)).or (s.columns.findIdx? (endsWithQualified · n)) := by
  unfold indexOf
  split
  · next i hi => rw [hi]; rfl
  · next hnone => rw [hnone]; rfl

theorem findIdx?_beq_eq_none_iff (cols : List String) (n : String) :
    cols.findIdx? (· == n) = none ↔ n ∉ cols := by
  rw [List.findIdx?_eq_none_iff]
  constructor
  · intro h hn
    simpa using h n hn
  · intro hn e he
    rw [beq_eq_false_iff_ne]
    rintro rfl
    exact hn he

theorem mem_of_findIdx?_beq {cols : List String} {i : Nat} (h : cols.findIdx? (· == n) = some i) :
    n ∈ cols := by
  by_contra hn
  rw [(findIdx?_beq_eq_none_iff cols n).2 hn] at h
  cases h

/-- A name the left schema does not resolve resolves as in the right one, shifted past the
left one. -/
theorem indexOf_combine_of_none (h : l.indexOf n = none) :
    (l.combine r).indexOf n = (r.indexOf n).map (· + l.size) := by
  rw [indexOf_eq_or, Option.or_eq_none_iff] at h
  obtain ⟨hexact, hsuffix⟩ := h
  simp [indexOf_eq_or, hexact, hsuffix, Option.map_or, size]

/-- A name the left schema resolves keeps its place in the two side by side, unless the
left one matches it only by suffix and the right one holds it exactly. -/
theorem indexOf_combine_of_some {p : Nat} (h : l.indexOf n = some p) :
    (l.combine r).indexOf n = some p ↔ ¬(n ∉ l.columns ∧ n ∈ r.columns) := by
  have hp : p < l.columns.length := lt_size_of_indexOf h
  rw [indexOf_eq_or] at h
  rw [indexOf_eq_or, columns_combine, List.findIdx?_append, List.findIdx?_append]
  cases hl : l.columns.findIdx? (· == n) with
  | some i =>
    -- an exact entry on the left is found first
    rw [hl, Option.some_or] at h
    simp [h, mem_of_findIdx?_beq hl]
  | none =>
    have hnl : n ∉ l.columns := (findIdx?_beq_eq_none_iff _ _).1 hl
    rw [hl, Option.none_or] at h
    cases hr : r.columns.findIdx? (· == n) with
    | some j =>
      -- an exact entry on the right comes before any suffix match, and lies past `p`
      simp only [Option.none_or, Option.map_some, Option.some_or, Option.some.injEq, hnl,
        mem_of_findIdx?_beq hr, not_true_eq_false, and_true, not_false_eq_true, iff_false]
      omega
    | none =>
      have hnr : n ∉ r.columns := (findIdx?_beq_eq_none_iff _ _).1 hr
      simp [h, hnr]

/-- The entry a name resolves to, read as a column reference and resolved again, resolves to
the place of the name. -/
theorem indexOf_qualifiedName {e : String} (h : s.qualifiedName n = .ok e) :
    s.indexOf (ColumnRef.ofName e).name = s.indexOf n := by
  unfold qualifiedName at h
  split at h
  · next e' hbind =>
    cases h
    obtain ⟨p, hp, hname⟩ := Option.bind_eq_some_iff.1 hbind
    obtain ⟨e'', hname', hentry⟩ := indexOf_entry hp
    rw [hname] at hname'
    cases hname'
    rw [ColumnRef.name_ofName, hentry, hp]
  · cases h

end Schema

/-- Resolving is stable. The entry a name resolves to resolves to the same place and reads
back as itself as a column reference, so rewriting a name to its entry keeps its position.
Two schemas side by side resolve a name the left one does not as the right one does, shifted
past the left one, and one the left one resolves where the left one does, unless the left
one matches it only by suffix and the right one holds it exactly. -/
theorem indexOf_resolves_stably (s l r : Schema) (n : String) :
    (∀ p, s.indexOf n = some p →
      ∃ e, s.columnName? p = some e ∧ s.indexOf e = some p ∧ (ColumnRef.ofName e).name = e) ∧
    (∀ e, s.qualifiedName n = .ok e → s.indexOf (ColumnRef.ofName e).name = s.indexOf n) ∧
    (l.indexOf n = none → (l.combine r).indexOf n = (r.indexOf n).map (· + l.size)) ∧
    (∀ p, l.indexOf n = some p →
      ((l.combine r).indexOf n = some p ↔ ¬(n ∉ l.columns ∧ n ∈ r.columns))) := by
  refine ⟨fun p hp => ?_, fun e he => Schema.indexOf_qualifiedName he,
    Schema.indexOf_combine_of_none, fun p hp => Schema.indexOf_combine_of_some hp⟩
  obtain ⟨e, he, hentry⟩ := Schema.indexOf_entry hp
  exact ⟨e, he, hentry, ColumnRef.name_ofName e⟩

/-- In `[R.A, R.B]` the bare `B` resolves by suffix to `R.B`, which resolves to the same
place; `S.B` resolves only once `[S.B, B]` is put beside it, past the two entries; and there
the exact entry `B` takes the bare name from `R.B`. -/
theorem exact_right_entry_takes_bare_name :
    (Schema.mk ["R.A", "R.B"]).indexOf "B" = some 1 ∧
      (Schema.mk ["R.A", "R.B"]).columnName? 1 = some "R.B" ∧
      (Schema.mk ["R.A", "R.B"]).indexOf "R.B" = some 1 ∧
      (Schema.mk ["R.A", "R.B"]).qualifiedName "B" = .ok "R.B" ∧
      (Schema.mk ["R.A", "R.B"]).indexOf (ColumnRef.ofName "R.B").name = some 1 ∧
      ((Schema.mk ["R.A", "R.B"]).combine (Schema.mk ["S.B", "B"])).indexOf "S.B" = some 2 ∧
      ((Schema.mk ["R.A", "R.B"]).combine (Schema.mk ["S.B", "B"])).indexOf "B" ≠ some 1 := by
  have hB : (Schema.mk ["R.A", "R.B"]).indexOf "B" = some 1 := by decide
  have hq : (Schema.mk ["R.A", "R.B"]).qualifiedName "B" = .ok "R.B" := by decide
  have hS : (Schema.mk ["R.A", "R.B"]).indexOf "S.B" = none := by decide
  obtain ⟨hentry, hname, -, hsome⟩ :=
    indexOf_resolves_stably (Schema.mk ["R.A", "R.B"]) (Schema.mk ["R.A", "R.B"])
      (Schema.mk ["S.B", "B"]) "B"
  obtain ⟨e, he, heidx, -⟩ := hentry 1 hB
  have he' : e = "R.B" := by simpa [Schema.columnName?] using he.symm
  subst he'
  refine ⟨hB, he, heidx, hq, by rw [hname "R.B" hq, hB], ?_,
    fun h => (hsome 1 hB).1 h ⟨by decide, by decide⟩⟩
  rw [(indexOf_resolves_stably (Schema.mk ["R.A", "R.B"]) (Schema.mk ["R.A", "R.B"])
    (Schema.mk ["S.B", "B"]) "S.B").2.2.1 hS]
  decide

end CsvQuery
