import CsvQuery.Proofs.Pipeline.SortDistinct

/-!
# A sort is the stable sort on its keys

A sort reads its whole input while it is built, checking that every tuple holds every key
column, and then replays the tuples merge-sorted by the comparison of `SortKey.compareAll`.
Over an input that answers the tuples `ts` and ends (`sortOf_sorts_stably`):

* building fails exactly when some tuple of `ts` lacks a key column, and then with an
  invalid argument;
* otherwise, on the tuples of `ts` the comparison is the lexicographic comparison of their
  key values, a descending key's values negated (`compareAll_eq_compare`): a total
  preorder, which never meets a missing column;
* and the sort answers the one rearrangement of `ts` that is in key order and keeps the
  tuples of equal key values in their input order (`SortKey.StablySorted`).

Both halves of the last point hold of any key function into a linear order: a merge sort
keeps each class of equal keys as it was (`filter_mergeSort_key`), and two lists sorted by
key with the same classes are equal (`eq_of_sorted_of_filter_eq`).
-/

namespace CsvQuery

section SortedByKey

variable {α β : Type} [LinearOrder β] (key : α → β)

/-- A merge sort by key keeps the elements of each key in their input order. -/
theorem filter_mergeSort_key (l : List α) (v : β) :
    (l.mergeSort fun a b => decide (key a ≤ key b)).filter (key · = v) = l.filter (key · = v) := by
  have htrans : ∀ a b c : α, decide (key a ≤ key b) → decide (key b ≤ key c) →
      decide (key a ≤ key c) := fun a b c hab hbc => by
    simpa using le_trans (of_decide_eq_true hab) (of_decide_eq_true hbc)
  have htotal : ∀ a b : α, (decide (key a ≤ key b) || decide (key b ≤ key a)) = true :=
    fun a b => by simpa using le_total (key a) (key b)
  -- the elements of key `v` are sorted already, so they stay a sublist of the sorted list
  have hclass : (l.filter (key · = v)).Pairwise fun a b => decide (key a ≤ key b) :=
    List.pairwise_of_forall_mem_list fun a ha b hb => by
      simp only [List.mem_filter, decide_eq_true_eq] at ha hb
      simp [ha.2, hb.2]
  have hsub := (List.sublist_mergeSort htrans htotal hclass (List.filter_sublist)).filter
    (key · = v)
  simp only [List.filter_filter, Bool.and_self] at hsub
  have hlen : (l.filter (key · = v)).length =
      ((l.mergeSort fun a b => decide (key a ≤ key b)).filter (key · = v)).length :=
    ((List.mergeSort_perm l _).filter _).length_eq.symm
  exact (hsub.eq_of_length hlen).symm

/-- Two lists sorted by key whose elements of each key come in the same order are equal. -/
theorem eq_of_sorted_of_filter_eq :
    ∀ {us vs : List α}, us.Pairwise (fun a b => key a ≤ key b) →
      vs.Pairwise (fun a b => key a ≤ key b) →
      (∀ v, us.filter (key · = v) = vs.filter (key · = v)) → us = vs
  | [], [], _, _, _ => rfl
  | [], w :: vs, _, _, h => by simpa using h (key w)
  | u :: us, [], _, _, h => by simpa using h (key u)
  | u :: us, w :: vs, hu, hw, h => by
    -- each list holds what the other holds, its head having the least key
    have hmem : ∀ x, x ∈ u :: us ↔ x ∈ w :: vs := fun x => by
      have := congrArg (x ∈ ·) (h (key x))
      simpa using this
    have huw : key u = key w := by
      apply le_antisymm
      · rcases List.mem_cons.1 ((hmem w).2 List.mem_cons_self) with hwu | hwu
        · rw [hwu]
        · exact List.rel_of_pairwise_cons hu hwu
      · rcases List.mem_cons.1 ((hmem u).1 List.mem_cons_self) with huw | huw
        · rw [huw]
        · exact List.rel_of_pairwise_cons hw huw
    -- so the two heads lead the same class, and are equal
    have hhead := h (key u)
    rw [List.filter_cons_of_pos (by simp), List.filter_cons_of_pos (by simp [huw]),
      List.cons.injEq] at hhead
    obtain ⟨rfl, hclass⟩ := hhead
    refine congrArg (u :: ·) (eq_of_sorted_of_filter_eq hu.of_cons hw.of_cons fun v => ?_)
    by_cases hv : key u = v
    · subst hv
      exact hclass
    · simpa [List.filter_cons, hv] using h v

end SortedByKey

/-! ## The sort's comparison -/

namespace SortKey

/-- The values of a tuple on the keys in turn, each negated for a descending key. -/
def valuesOn (keys : List SortKey) (t : Tuple) : List Int := keys.map (·.valueOn t)

/-- `us` is `ts` sorted stably on the keys: a rearrangement of `ts` in the lexicographic
order of the key values, in which the tuples of equal key values keep their order in `ts`. -/
def StablySorted (keys : List SortKey) (ts us : List Tuple) : Prop :=
  us.Perm ts ∧ us.Pairwise (fun a b => valuesOn keys a ≤ valuesOn keys b) ∧
    ∀ v, us.filter (valuesOn keys · = v) = ts.filter (valuesOn keys · = v)

theorem compareOn_eq_compare {k : SortKey} {a b : Tuple} (ha : k.column < a.arity)
    (hb : k.column < b.arity) : k.compareOn a b = compare (k.valueOn a) (k.valueOn b) := by
  obtain ⟨hlt, heq⟩ := compareOn_ne_gt_iff ha hb
  cases ho : k.compareOn a b <;> cases hc : compare (k.valueOn a) (k.valueOn b) <;>
    simp_all [compare_lt_iff_lt, compare_gt_iff_gt] <;> omega

/-- On tuples that hold every key column, the sort's comparison is the lexicographic
comparison of their key values: the fallback for a missing column is never taken. -/
theorem compareAll_eq_compare {a b : Tuple} :
    ∀ {keys : List SortKey}, (∀ k ∈ keys, k.column < a.arity ∧ k.column < b.arity) →
      Operator.SortKey.compareAll keys a b = compare (valuesOn keys a) (valuesOn keys b)
  | [], _ => rfl
  | k :: keys, h => by
    rw [compareAll_cons, compareOn_eq_compare (h k List.mem_cons_self).1 (h k List.mem_cons_self).2,
      compareAll_eq_compare fun k' hk' => h k' (List.mem_cons_of_mem k hk')]
    simp [valuesOn]

theorem mergeSort_compareAll {keys : List SortKey} {ts : List Tuple}
    (hwide : ∀ t ∈ ts, ∀ k ∈ keys, k.column < t.arity) :
    ts.mergeSort (fun a b => Operator.SortKey.compareAll keys a b != .gt) =
      ts.mergeSort fun a b => decide (valuesOn keys a ≤ valuesOn keys b) := by
  simpa using List.map_mergeSort (f := id) (l := ts) fun a ha b hb => by
    rw [Bool.eq_iff_iff, compareAll_ne_gt_iff fun k hk => ⟨hwide a ha k hk, hwide b hb k hk⟩,
      decide_eq_true_iff]
    rfl

/-- The sort's merge sort is the stable sort on the keys. -/
theorem stablySorted_mergeSort {keys : List SortKey} {ts : List Tuple}
    (hwide : ∀ t ∈ ts, ∀ k ∈ keys, k.column < t.arity) :
    StablySorted keys ts (ts.mergeSort fun a b => Operator.SortKey.compareAll keys a b != .gt) :=
  ⟨List.mergeSort_perm _ _, pairwise_mergeSort hwide, fun v => by
    rw [mergeSort_compareAll hwide]
    convert filter_mergeSort_key (valuesOn keys) ts v⟩

/-- There is at most one stable sort of a list. -/
theorem StablySorted.eq {keys : List SortKey} {ts us vs : List Tuple}
    (hu : StablySorted keys ts us) (hv : StablySorted keys ts vs) : us = vs :=
  eq_of_sorted_of_filter_eq (valuesOn keys) hu.2.1 hv.2.1 fun v => by
    convert (hu.2.2 v).trans (hv.2.2 v).symm

end SortKey

/-! ## Collecting the input -/

namespace Trace

theorem collected_eq_error {keys : List SortKey} :
    ∀ {ts : List Tuple} {e : ExecError}, collected keys ts none = .error e →
      ∃ t ∈ ts, ∃ k ∈ keys, t.arity ≤ k.column ∧ e = .sortColumnMissing k.column t.arity
  | [], _, h => by cases h
  | t :: ts, e, h => by
    unfold collected at h
    split at h
    · next key hkey =>
      cases h
      have hcol := List.find?_some hkey
      exact ⟨t, List.mem_cons_self, key, List.mem_of_find?_eq_some hkey, by simpa using hcol, rfl⟩
    · obtain ⟨t', ht', k, hk, hle, rfl⟩ : ∃ t' ∈ ts, ∃ k ∈ keys, t'.arity ≤ k.column ∧
          e = .sortColumnMissing k.column t'.arity := by
        cases hrest : collected keys ts none with
        | error e' =>
          rw [hrest] at h
          cases h
          exact collected_eq_error hrest
        | ok us => rw [hrest] at h; cases h
      exact ⟨t', List.mem_cons_of_mem t ht', k, hk, hle, rfl⟩

theorem collected_error_iff {keys : List SortKey} {ts : List Tuple} :
    (∃ e, collected keys ts none = .error e) ↔ ∃ t ∈ ts, ∃ k ∈ keys, t.arity ≤ k.column := by
  constructor
  · rintro ⟨e, he⟩
    obtain ⟨t, ht, k, hk, hle, -⟩ := collected_eq_error he
    exact ⟨t, ht, k, hk, hle⟩
  · rintro ⟨t, ht, k, hk, hle⟩
    cases hc : collected keys ts none with
    | error e => exact ⟨e, rfl⟩
    | ok us =>
      -- a success would have every column of every tuple
      obtain ⟨-, -, hwide⟩ := collected_eq_ok hc
      exact absurd (hwide t ht k hk) (Nat.not_lt.2 hle)

theorem collected_of_wide {keys : List SortKey} {ts : List Tuple}
    (hwide : ∀ t ∈ ts, ∀ k ∈ keys, k.column < t.arity) : collected keys ts none = .ok ts := by
  cases h : collected keys ts none with
  | error e =>
    obtain ⟨t, ht, k, hk, hle, -⟩ := collected_eq_error h
    exact absurd (hwide t ht k hk) (Nat.not_lt.2 hle)
  | ok us => rw [(collected_eq_ok h).2.1]

end Trace

/-! ## The sort -/

namespace Operator

theorem sortOf_eq {c : Operator} (hc : Fresh c) (keys : List SortKey) :
    sortOf c keys = (Trace.collected keys c.rest.tuples c.rest.stop).map fun ts =>
      .sort (ts.mergeSort fun a b => SortKey.compareAll keys a b != .gt) 0 := by
  simp only [sortOf, collectFrom_fresh hc]
  cases Trace.collected keys c.rest.tuples c.rest.stop <;> rfl

/-- A sort over an input that answers `ts` and ends fails exactly when some tuple lacks a
key column, and then with an invalid argument. Otherwise it compares two tuples of `ts`
lexicographically on their key values, descending keys negated, and drains to the one
stable sort of `ts`: in key order, tuples of equal key values in their input order. -/
theorem sortOf_sorts_stably {c : Operator} (hc : Fresh c) {ts : List Tuple}
    (hts : c.rest = ⟨ts, none⟩) (keys : List SortKey) :
    ((∃ e, sortOf c keys = .error e) ↔ ∃ t ∈ ts, ∃ k ∈ keys, t.arity ≤ k.column) ∧
      (∀ e, sortOf c keys = .error e → e.code = "AERO_INVALID_ARGUMENT") ∧
      ((∀ t ∈ ts, ∀ k ∈ keys, k.column < t.arity) →
        (∀ a ∈ ts, ∀ b ∈ ts, SortKey.compareAll keys a b =
          compare (CsvQuery.SortKey.valuesOn keys a) (CsvQuery.SortKey.valuesOn keys b)) ∧
        ∃ op, sortOf c keys = .ok op ∧
          ∀ us, op.drainAll = .ok us ↔ CsvQuery.SortKey.StablySorted keys ts us) := by
  have hsort := sortOf_eq hc keys
  rw [hts] at hsort
  refine ⟨?_, fun e he => ?_, fun hwide => ⟨fun a ha b hb =>
    CsvQuery.SortKey.compareAll_eq_compare fun k hk => ⟨hwide a ha k hk, hwide b hb k hk⟩, ?_⟩⟩
  · rw [← Trace.collected_error_iff, hsort]
    cases Trace.collected keys ts none <;> simp [Except.map]
  · -- the only failure is the collecting's
    rw [hsort] at he
    cases hcol : Trace.collected keys ts none with
    | error e' =>
      rw [hcol] at he
      cases he
      obtain ⟨-, -, k, -, -, rfl⟩ := Trace.collected_eq_error hcol
      rfl
    | ok us => rw [hcol] at he; cases he
  · rw [Trace.collected_of_wide hwide] at hsort
    refine ⟨_, hsort, fun us => ?_⟩
    -- the sorted buffer drains to itself, the one stable sort
    have hsorted := CsvQuery.SortKey.stablySorted_mergeSort hwide
    rw [drainAll_of_fresh (fresh_sortOf hsort)]
    exact ⟨fun h => by cases h; exact hsorted, fun h => by rw [h.eq hsorted]; rfl⟩

/-- Four pairs, with two tuples for each first value. -/
def twoKeyRows : List Tuple := [⟨[1, 1]⟩, ⟨[2, 9]⟩, ⟨[1, 5]⟩, ⟨[2, 3]⟩]

/-- Sorted ascending on the first column and descending on the second, the pairs come by
first value, and within it by second value from the largest. -/
theorem sort_two_keys_orders_stably :
    ∃ op, sortOf (.sort twoKeyRows 0) [⟨0, true⟩, ⟨1, false⟩] = .ok op ∧
      op.drainAll = .ok [⟨[1, 5]⟩, ⟨[1, 1]⟩, ⟨[2, 9]⟩, ⟨[2, 3]⟩] := by
  obtain ⟨-, -, hsorts⟩ := sortOf_sorts_stably (c := .sort twoKeyRows 0) ⟨trivial, rfl⟩
    (show (Operator.sort twoKeyRows 0).rest = ⟨twoKeyRows, none⟩ from rfl) [⟨0, true⟩, ⟨1, false⟩]
  obtain ⟨-, op, hop, hdrain⟩ := hsorts (by decide)
  refine ⟨op, hop, (hdrain _).2 ⟨by decide, by decide, fun v => ?_⟩⟩
  -- the pairs have the key values `[1, -1]`, `[2, -9]`, `[1, -5]` and `[2, -3]`, one each
  by_cases hv : v = [1, -1] ∨ v = [2, -9] ∨ v = [1, -5] ∨ v = [2, -3]
  · rcases hv with rfl | rfl | rfl | rfl <;> decide
  · simp only [not_or] at hv
    obtain ⟨h₁, h₂, h₃, h₄⟩ := hv
    simp [twoKeyRows, CsvQuery.SortKey.valuesOn, CsvQuery.SortKey.valueOn,
      Ne.symm h₁, Ne.symm h₂, Ne.symm h₃, Ne.symm h₄]

end Operator

end CsvQuery
