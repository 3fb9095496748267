import CsvQuery.Proofs.Pipeline.SortDistinct

/-!
# A duplicate filter keeps the first tuple of each key

A duplicate filter holds one tuple ahead and passes a tuple when its key, the vector of
its values at the key positions, has not been passed before. Over an input that answers
the tuples `ts` and ends, with every key position inside every tuple
(`distinctOf_keeps_first_of_keys`):

* it drains to `firstOfKeys key ts`: the tuples of `ts` whose key differs from the key of
  every tuple before them;
* so the keys it answers are pairwise distinct, and each key of `ts` is answered exactly
  once, by the first tuple of `ts` that has it.

Keys are compared as whole vectors, so `(1, 23)` and `(12, 3)` are two keys.

`firstAfter key pre l` reads `l` after the prefix `pre`; one step of the filter moves the
head of `l` to the end of `pre` (`firstAfter_cons`), and the filter's list of passed keys
holds exactly the keys of `pre` (`dedup_eq_firstAfter`).
-/

namespace CsvQuery

section FirstOfKeys

variable {α β : Type} [DecidableEq β] (key : α → β)

/-- The elements of `l` whose key differs from the key of every element before them. -/
def firstOfKeys (l : List α) : List α :=
  (l.zipIdx.filter fun x => (l.take x.2).all fun b => key b != key x.1).map Prod.fst

/-- The elements of `l` whose key differs from the keys of `pre` and of every element of
`l` before them. -/
def firstAfter (pre l : List α) : List α :=
  (l.zipIdx.filter fun x => (pre ++ l.take x.2).all fun b => key b != key x.1).map Prod.fst

theorem firstOfKeys_eq_firstAfter (l : List α) : firstOfKeys key l = firstAfter key [] l := by
  simp [firstOfKeys, firstAfter]

@[simp] theorem firstAfter_nil (pre : List α) : firstAfter key pre [] = [] := rfl

/-- One step: the head is kept when `pre` does not have its key, and then joins `pre`. -/
theorem firstAfter_cons (pre : List α) (a : α) (l : List α) :
    firstAfter key pre (a :: l) =
      (if key a ∈ pre.map key then [] else [a]) ++ firstAfter key (pre ++ [a]) l := by
  unfold firstAfter
  rw [List.zipIdx_cons', List.filter_cons, List.filter_map]
  by_cases h : key a ∈ pre.map key
  · obtain ⟨b, hb, hba⟩ := List.mem_map.1 h
    have hseen : ¬ (pre.all fun b => key b != key a) = true := by simpa using ⟨b, hb, hba⟩
    simp [hseen, h, Function.comp_def]
  · have hnew : (pre.all fun b => key b != key a) = true := by simpa using h
    simp [hnew, h, Function.comp_def]

theorem filter_firstAfter (v : β) : ∀ (pre l : List α),
    (firstAfter key pre l).filter (key · = v) =
      if v ∈ pre.map key then [] else (l.find? (key · = v)).toList
  | pre, [] => by simp
  | pre, a :: l => by
    rw [firstAfter_cons, List.filter_append, filter_firstAfter v (pre ++ [a]) l]
    by_cases hv : v ∈ pre.map key
    · -- the key was seen before `a`, so `a` is not kept for it
      have hhead : (if key a ∈ pre.map key then [] else [a]).filter (key · = v) = [] := by
        by_cases hk : key a ∈ pre.map key
        · rw [if_pos hk]; rfl
        · have hav : key a ≠ v := fun h => hk (h ▸ hv)
          rw [if_neg hk]
          simp [hav]
      rw [hhead, if_pos (by simp [List.map_append, hv]), if_pos hv]
      rfl
    · by_cases ha : key a = v
      · -- `a` is the first element with key `v`
        subst ha
        rw [if_neg hv, if_pos (by simp), if_neg hv]
        simp
      · have hnew : v ∉ (pre ++ [a]).map key := by simpa [Ne.symm ha] using hv
        have hhead : (if key a ∈ pre.map key then [] else [a]).filter (key · = v) = [] := by
          split <;> simp [ha]
        rw [hhead, if_neg hnew, if_neg hv, List.find?_cons_of_neg (by simpa using ha)]
        rfl

theorem key_not_mem_of_mem_firstAfter {pre l : List α} {u : α} (hu : u ∈ firstAfter key pre l) :
    key u ∉ pre.map key := by
  intro hmem
  have hfilter := filter_firstAfter key (key u) pre l
  rw [if_pos hmem] at hfilter
  have : u ∈ (firstAfter key pre l).filter (key · = key u) := List.mem_filter.2 ⟨hu, by simp⟩
  rw [hfilter] at this
  cases this

theorem nodup_map_firstAfter : ∀ (pre l : List α), ((firstAfter key pre l).map key).Nodup
  | pre, [] => by simp
  | pre, a :: l => by
    rw [firstAfter_cons, List.map_append]
    have ih := nodup_map_firstAfter (pre ++ [a]) l
    split
    · simpa using ih
    · -- the later kept keys avoid the keys of `pre ++ [a]`, so `key a` among them
      refine List.nodup_cons.2 ⟨fun hmem => ?_, ih⟩
      obtain ⟨u, hu, hua⟩ := List.mem_map.1 hmem
      exact key_not_mem_of_mem_firstAfter key hu (by simp [hua])

end FirstOfKeys

/-! ## The duplicate filter -/

/-- The values of a tuple at the positions `ps`, in turn. -/
def Tuple.keyAt (ps : List Nat) (t : Tuple) : List Int := ps.map fun p => t.values[p]?.getD 0

theorem Tuple.mapM_valueAt_keyAt {ps : List Nat} {t : Tuple} (h : ∀ p ∈ ps, p < t.arity) :
    ps.mapM t.valueAt = .ok (t.keyAt ps) :=
  mapM_eq_ok_of_forall fun p hp => Tuple.valueAt_of_lt (h p hp)

/-- Over tuples that hold every key position, the duplicate filter's search passes the
tuples whose key it has not passed; its passed keys are the keys of the tuples read. -/
theorem Trace.dedup_eq_firstAfter {ps : List Nat} :
    ∀ {ts : List Tuple} (pre : List Tuple) (seen : List (List Int)),
      (∀ v, v ∈ seen ↔ v ∈ pre.map (Tuple.keyAt ps)) → (∀ t ∈ ts, ∀ p ∈ ps, p < t.arity) →
        dedup ps seen ts none = ⟨firstAfter (Tuple.keyAt ps) pre ts, none⟩
  | [], _, _, _, _ => rfl
  | t :: ts, pre, seen, hseen, hwide => by
    have hrest : ∀ u ∈ ts, ∀ p ∈ ps, p < u.arity := fun u hu => hwide u (List.mem_cons_of_mem t hu)
    rw [dedup, Tuple.mapM_valueAt_keyAt (hwide t List.mem_cons_self), firstAfter_cons]
    dsimp only
    by_cases hk : t.keyAt ps ∈ pre.map (Tuple.keyAt ps)
    · -- a key passed before: the tuple is skipped, and what was passed does not change
      rw [if_pos (by simpa [hseen] using hk), if_pos hk, List.nil_append]
      refine dedup_eq_firstAfter (pre ++ [t]) seen (fun v => ?_) hrest
      rw [hseen, List.map_append, List.mem_append]
      exact ⟨.inl, fun h => h.elim id fun hv => by simpa [List.mem_singleton.1 hv] using hk⟩
    · rw [if_neg (by simpa [hseen] using hk), if_neg hk,
        dedup_eq_firstAfter (pre ++ [t]) (seen ++ [t.keyAt ps]) (fun v => by simp [hseen]) hrest]
      rfl

namespace Operator

/-- A duplicate filter over an input that answers `ts` and ends, keyed on names that
resolve to positions inside every tuple, drains to the first tuple of each key: the tuples
whose key differs from the keys of all tuples before them. Its keys are pairwise distinct,
and each key of `ts` comes once, on the first tuple of `ts` that has it. -/
theorem distinctOf_keeps_first_of_keys {c : Operator} (hc : Fresh c) {ts : List Tuple}
    (hts : c.rest = ⟨ts, none⟩) {s : Schema} {keys : List String} {ps : List Nat}
    (hps : s.positions keys = .ok ps) (hwide : ∀ t ∈ ts, ∀ p ∈ ps, p < t.arity) :
    ∃ op, distinctOf c s keys = .ok op ∧
      op.drainAll = .ok (firstOfKeys (Tuple.keyAt ps) ts) ∧
      ((firstOfKeys (Tuple.keyAt ps) ts).map (Tuple.keyAt ps)).Nodup ∧
      ∀ t ∈ ts, ∃ u, ts.find? (Tuple.keyAt ps · = t.keyAt ps) = some u ∧
        (firstOfKeys (Tuple.keyAt ps) ts).filter (Tuple.keyAt ps · = t.keyAt ps) = [u] := by
  have hdedup : Trace.dedup ps [] ts none = ⟨firstOfKeys (Tuple.keyAt ps) ts, none⟩ := by
    rw [firstOfKeys_eq_firstAfter]
    exact Trace.dedup_eq_firstAfter [] [] (by simp) hwide
  have hrest := rest_distinctOf hc s keys
  rw [hps, hts] at hrest
  simp only [Except.bind, Trace.primedDedup_of_dedup (C := ⟨ts, none⟩) hdedup] at hrest
  obtain ⟨op, hop, hrest⟩ := map_eq_ok.1 hrest
  refine ⟨op, hop, ?_, ?_, fun t ht => ?_⟩
  · rw [drainAll_of_fresh (fresh_distinctOf hc hop), hrest]
    rfl
  · rw [firstOfKeys_eq_firstAfter]
    exact nodup_map_firstAfter _ [] ts
  · -- the first tuple with `t`'s key exists, since `t` has it
    obtain ⟨u, hu⟩ := Option.isSome_iff_exists.1
      (List.find?_isSome.2 ⟨t, ht, by simp⟩ : (ts.find? (Tuple.keyAt ps · = t.keyAt ps)).isSome)
    refine ⟨u, hu, ?_⟩
    rw [firstOfKeys_eq_firstAfter, filter_firstAfter, if_neg (by simp), hu]
    rfl

/-- The tuples `(1, 23)`, `(12, 3)` and `(1, 23)` again. -/
def collidingPairs : List Tuple := [⟨[1, 23]⟩, ⟨[12, 3]⟩, ⟨[1, 23]⟩]

/-- Keyed on both columns, `(1, 23)` and `(12, 3)` are two keys: a duplicate filter over a
buffer of `collidingPairs` drains to both, and drops the repeat of the first. -/
theorem distinct_keys_do_not_collide :
    ∃ op, distinctOf (.sort collidingPairs 0) ⟨["R.A", "R.B"]⟩ ["A", "B"] = .ok op ∧
      op.drainAll = .ok [⟨[1, 23]⟩, ⟨[12, 3]⟩] := by
  have hps : Schema.positions ⟨["R.A", "R.B"]⟩ ["A", "B"] = .ok [0, 1] := by decide
  obtain ⟨op, hop, hdrain, -⟩ := distinctOf_keeps_first_of_keys (c := .sort collidingPairs 0)
    ⟨trivial, rfl⟩ rfl hps (by decide)
  exact ⟨op, hop, hdrain.trans (by decide)⟩

end Operator

end CsvQuery
