import CsvQuery.Proofs.Pipeline.Operators
import CsvQuery.Proofs.Plan.Names
import Mathlib.Algebra.BigOperators.Group.List.Basic
import Mathlib.Data.List.Induction

/-!
# SUM aggregation is exact, and fails exactly on overflow

An aggregate reads its whole input when it is built. Each tuple adds the product of its SUM
factors to the group of its key. Every partial product and every running total must fit
64 bits, and every final total 32 bits; running totals may leave 32 bits on the way.

The steps are read as `Checked` computations: each answers a given value when a range
condition holds, and otherwise fails with an overflow. Such computations compose through
`>>=`, the conditions joined.

* `productIn_checked`   a tuple's product, checked factor by factor;
* `addToGroup_groupsOf` adding a tuple to the groups of the tuples before it gives the
                        groups of all of them;
* `grouped_checked`     the grouping loop answers the groups of its input, each key once in
                        order of first occurrence with its exact total;
* `aggregateOf_sums_exactly`   the aggregate is built exactly when the three range
                        conditions hold, answers one tuple per key with its exact total, and
                        its group totals add up to the global total.
-/

namespace CsvQuery

/-! ## Computations that fail only by overflowing -/

/-- A computation that answers `v` when `ok` holds, and otherwise fails with an overflow. -/
structure Checked {α : Type} (x : Except ExecError α) (ok : Prop) (v : α) : Prop where
  of_ok : ok → x = .ok v
  of_not : ¬ok → ∃ e, x = .error e ∧ e.code = "AERO_VALUE_OVERFLOW"

namespace Checked

variable {α β : Type} {x : Except ExecError α} {P Q : Prop} {a : α}

theorem pure (v : α) : Checked (.ok v) True v := ⟨fun _ => rfl, fun h => absurd trivial h⟩

theorem overflow (e : ExecError) (h : e.code = "AERO_VALUE_OVERFLOW") (v : α) :
    Checked (.error e) False v :=
  ⟨False.elim, fun _ => ⟨e, rfl, h⟩⟩

theorem iff (h : P ↔ Q) (hx : Checked x P a) : Checked x Q a :=
  ⟨fun hq => hx.of_ok (h.2 hq), fun hq => hx.of_not fun hp => hq (h.1 hp)⟩

theorem bind {f : α → Except ExecError β} {b : β} (hx : Checked x P a)
    (hf : P → Checked (f a) Q b) : Checked (x >>= f) (P ∧ Q) b := by
  refine ⟨fun ⟨hp, hq⟩ => ?_, fun h => ?_⟩
  · rw [hx.of_ok hp]
    exact (hf hp).of_ok hq
  · by_cases hp : P
    · rw [hx.of_ok hp]
      exact (hf hp).of_not fun hq => h ⟨hp, hq⟩
    · obtain ⟨e, he, hcode⟩ := hx.of_not hp
      exact ⟨e, by rw [he]; rfl, hcode⟩

theorem ite {c : Prop} [Decidable c] (v : α) {e : ExecError} (he : e.code = "AERO_VALUE_OVERFLOW") :
    Checked (if c then .ok v else .error e) c v :=
  ⟨fun h => if_pos h, fun h => ⟨e, if_neg h, he⟩⟩

theorem ok_iff (hx : Checked x P a) : (∃ v, x = .ok v) ↔ P := by
  refine ⟨fun ⟨v, hv⟩ => ?_, fun hp => ⟨a, hx.of_ok hp⟩⟩
  by_contra hp
  obtain ⟨e, he, -⟩ := hx.of_not hp
  rw [hv] at he
  cases he

theorem eq_of_ok (hx : Checked x P a) {v : α} (h : x = .ok v) : v = a := by
  have hp := hx.ok_iff.1 ⟨v, h⟩
  rw [hx.of_ok hp] at h
  exact (Except.ok.inj h).symm

theorem code_of_error (hx : Checked x P a) {e : ExecError} (h : x = .error e) :
    e.code = "AERO_VALUE_OVERFLOW" := by
  by_cases hp : P
  · rw [hx.of_ok hp] at h
    cases h
  · obtain ⟨e', he', hcode⟩ := hx.of_not hp
    rw [h] at he'
    cases he'
    exact hcode

theorem mapM {f : α → Except ExecError β} {R : α → Prop} {g : α → β} :
    ∀ {l : List α}, (∀ a ∈ l, Checked (f a) (R a) (g a)) →
      Checked (l.mapM f) (∀ a ∈ l, R a) (l.map g)
  | [], _ => (Checked.pure []).iff (by simp)
  | a :: l, h => by
    rw [List.mapM_cons]
    refine ((h a List.mem_cons_self).bind fun _ =>
      (Checked.mapM fun a' ha' => h a' (List.mem_cons_of_mem a ha')).bind fun _ =>
        Checked.pure (g a :: l.map g)).iff ?_
    simp

end Checked

/-! ## Products of SUM factors -/

/-- The value of a resolved SUM factor on a tuple. -/
def SumFactor.valueOn (t : Tuple) : SumFactor → Int
  | .lit v => v
  | .pos p => t.values[p]?.getD 0

/-- Whether every partial product of `vs`, from the left, fits 64 bits. -/
def PartialsFit (vs : List Int) : Prop := ∀ j, Decimal.fitsInt64 (vs.take j).prod

theorem foldlM_checked {σ : Type} {step : Int → σ → Except ExecError Int} {val : σ → Int} :
    ∀ (ys : List σ),
      (∀ acc, ∀ y ∈ ys, Checked (step acc y) (Decimal.fitsInt64 (acc * val y)) (acc * val y)) →
      ∀ acc, Checked (ys.foldlM step acc)
        (∀ j < ys.length, Decimal.fitsInt64 (acc * ((ys.map val).take (j + 1)).prod))
        (acc * (ys.map val).prod)
  | [], _, acc => by
    simp only [List.foldlM_nil, List.map_nil, List.prod_nil, mul_one]
    exact (Checked.pure acc).iff (by simp)
  | y :: ys, hstep, acc => by
    rw [List.foldlM_cons, List.map_cons, List.prod_cons, ← mul_assoc]
    refine ((hstep acc y List.mem_cons_self).bind fun _ => foldlM_checked ys
      (fun acc y hy => hstep acc y (List.mem_cons_of_mem _ hy)) (acc * val y)).iff ?_
    -- the first partial product is the step's own, the others are the rest of the fold's
    constructor
    · rintro ⟨h0, hrest⟩ j hj
      cases j with
      | zero => simpa using h0
      | succ j => simpa [List.take_succ_cons, mul_assoc] using hrest j (by simp at hj; omega)
    · intro h
      refine ⟨by simpa using h 0 (by simp), fun j hj => ?_⟩
      simpa [List.take_succ_cons, mul_assoc] using h (j + 1) (by simp; omega)

/-- A factor whose position, if it has one, lies in the tuple. -/
def SumFactor.InRange (t : Tuple) : SumFactor → Prop
  | .lit _ => True
  | .pos p => p < t.arity

theorem Tuple.valueAt_of_lt {t : Tuple} {p : Nat} (h : p < t.arity) :
    t.valueAt p = .ok (t.values[p]?.getD 0) := by
  rw [Tuple.arity] at h
  simp [Tuple.valueAt, List.getElem?_eq_getElem h]

/-- A tuple's SUM product is the product of its factors' values, and fails exactly when a
partial product leaves 64 bits. -/
theorem productIn_checked {t : Tuple} {fs : List SumFactor} (hfs : ∀ f ∈ fs, f.InRange t) :
    Checked (Operator.SumFactor.productIn t fs) (PartialsFit (fs.map (·.valueOn t)))
      (fs.map (·.valueOn t)).prod := by
  unfold Operator.SumFactor.productIn
  rw [← one_mul (fs.map _).prod]
  refine (foldlM_checked fs (fun acc f hf => ?_) 1).iff ⟨fun h j => ?_, fun h j _ => by simpa using h (j + 1)⟩
  · cases f with
    | lit v => exact Checked.ite (acc * v) rfl
    | pos p =>
      show Checked (t.valueAt p >>= _) _ _
      rw [Tuple.valueAt_of_lt (hfs _ hf)]
      exact Checked.ite _ rfl
  -- the empty partial product is 1, and those past the last factor are the whole product
  have hone : Decimal.fitsInt64 1 := by decide
  rcases j with _ | j
  · simpa using hone
  · rcases Nat.lt_or_ge j fs.length with hj | hj
    · simpa using h j hj
    · rw [List.take_of_length_le (by simp; omega)]
      rcases Nat.eq_zero_or_pos fs.length with h0 | hpos
      · simpa [List.length_eq_zero_iff.1 h0] using hone
      · have := h (fs.length - 1) (by omega)
        rwa [one_mul, Nat.sub_add_cancel hpos, List.take_of_length_le (by simp)] at this

/-! ## Groups in order of first occurrence -/

theorem nodup_eraseDups {α : Type} [BEq α] [LawfulBEq α] : ∀ l : List α, l.eraseDups.Nodup
  | [] => by simp
  | a :: l => by
    rw [List.eraseDups_cons]
    have := nodup_eraseDups (l.filter fun b => !b == a)
    exact List.nodup_cons.2 ⟨by simp, this⟩
termination_by l => l.length
decreasing_by simpa using Nat.lt_succ_of_le (List.length_filter_le _ l)

section Groups

variable (key : Tuple → List Int) (val : Tuple → Int)

/-- The keys of `ts`, each once, in order of first occurrence. -/
def firstKeys (ts : List Tuple) : List (List Int) := (ts.map key).eraseDups

/-- The total of `val` over the tuples of `ts` whose key is `k`. -/
def groupTotal (ts : List Tuple) (k : List Int) : Int :=
  ((ts.filter fun t => key t = k).map val).sum

/-- The groups of `ts`: each key once, in order of first occurrence, with its total. -/
def groupsOf (ts : List Tuple) : List (List Int × Int) :=
  (firstKeys key ts).map fun k => (k, groupTotal key val ts k)

variable {key val}

theorem mem_firstKeys {ts : List Tuple} {k : List Int} : k ∈ firstKeys key ts ↔ ∃ t ∈ ts, key t = k := by
  simp [firstKeys]

theorem firstKeys_append_single (ts : List Tuple) (t : Tuple) :
    firstKeys key (ts ++ [t]) = firstKeys key ts ++ if key t ∈ firstKeys key ts then [] else [key t] := by
  rw [firstKeys, List.map_append, List.eraseDups_append, ← firstKeys]
  by_cases h : key t ∈ firstKeys key ts
  · have h' := mem_firstKeys.1 h
    simp_all [List.removeAll]
  · have h' := mem_firstKeys.not.1 h
    simp_all [List.removeAll, List.eraseDups_cons]

theorem nodup_firstKeys (ts : List Tuple) : (firstKeys key ts).Nodup := nodup_eraseDups _

theorem groupTotal_append_single (ts : List Tuple) (t : Tuple) (k : List Int) :
    groupTotal key val (ts ++ [t]) k = groupTotal key val ts k + if key t = k then val t else 0 := by
  by_cases h : key t = k <;> simp [groupTotal, List.filter_append, h]

theorem groupTotal_of_not_mem {ts : List Tuple} {k : List Int} (h : k ∉ firstKeys key ts) :
    groupTotal key val ts k = 0 := by
  rw [mem_firstKeys] at h
  have : ts.filter (fun t => key t = k) = [] := List.filter_eq_nil_iff.2 fun t ht => by simpa using fun e => h ⟨t, ht, e⟩
  simp [groupTotal, this]

end Groups

/-! ## Adding a contribution to its group -/

namespace Operator

theorem addToGroup_cons_self (k : List Int) (total c : Int) (gs : List (List Int × Int)) :
    addToGroup ((k, total) :: gs) k c =
      if Decimal.fitsInt64 (total + c) then .ok ((k, total + c) :: gs)
      else .error (.accumulatorOverflow "+" total c) := by
  simp [addToGroup, List.findIdx?_cons]

theorem addToGroup_cons_of_ne {g : List Int × Int} {k : List Int} (h : g.1 ≠ k)
    (gs : List (List Int × Int)) (c : Int) :
    addToGroup (g :: gs) k c = (g :: ·) <$> addToGroup gs k c := by
  unfold addToGroup
  rw [List.findIdx?_cons]
  cases hi : gs.findIdx? (·.1 == k) with
  | none => simp [h]
  | some i =>
    simp only [h, beq_iff_eq, if_false, Option.map_some]
    split <;> simp_all

end Operator

theorem Checked.map {α β : Type} {x : Except ExecError α} {P : Prop} {a : α} (f : α → β)
    (hx : Checked x P a) : Checked (f <$> x) P (f a) :=
  (hx.bind fun _ => Checked.pure (f a)).iff (iff_of_eq (and_true P))

theorem addToGroup_map {f : List Int → Int} {k₀ : List Int} {c : Int} :
    ∀ {K : List (List Int)}, K.Nodup → (k₀ ∉ K → f k₀ = 0) →
      Checked (Operator.addToGroup (K.map fun k => (k, f k)) k₀ c)
        (k₀ ∈ K → Decimal.fitsInt64 (f k₀ + c))
        ((K ++ if k₀ ∈ K then [] else [k₀]).map fun k => (k, f k + if k₀ = k then c else 0))
  | [], _, hf => by
    have hv : (([] : List (List Int)) ++ if k₀ ∈ [] then [] else [k₀]).map
        (fun k => (k, f k + if k₀ = k then c else 0)) = [(k₀, c)] := by
      simp [hf]
    rw [hv]
    exact Checked.iff (by simp) (Checked.pure _)
  | k :: K, hK, hf => by
    rw [List.nodup_cons] at hK
    by_cases hk : k = k₀
    · subst hk
      rw [List.map_cons, Operator.addToGroup_cons_self]
      -- the other groups have other keys, so only the first total moves
      have hrest : ∀ k' ∈ K, (k', f k' + if k = k' then c else 0) = (k', f k') := fun k' hk' => by
        simp [show k ≠ k' from fun e => hK.1 (e ▸ hk')]
      have hv : ((k :: K) ++ if k ∈ k :: K then [] else [k]).map
          (fun k' => (k', f k' + if k = k' then c else 0)) = (k, f k + c) :: K.map fun k' => (k', f k') := by
        simp [List.map_congr_left hrest]
      rw [hv]
      exact Checked.iff (by simp) (Checked.ite _ rfl)
    · rw [List.map_cons, Operator.addToGroup_cons_of_ne hk]
      have hk' : k₀ ≠ k := Ne.symm hk
      simpa [hk'] using (addToGroup_map hK.2 fun h => hf (by simp [hk', h])).map ((k, f k) :: ·)

/-- Adding a tuple to the groups of the tuples before it gives the groups of all of them. -/
theorem addToGroup_groupsOf {key : Tuple → List Int} {val : Tuple → Int} (pre : List Tuple) (t : Tuple) :
    Checked (Operator.addToGroup (groupsOf key val pre) (key t) (val t))
      (key t ∈ firstKeys key pre → Decimal.fitsInt64 (groupTotal key val (pre ++ [t]) (key t)))
      (groupsOf key val (pre ++ [t])) := by
  have h := @addToGroup_map (groupTotal key val pre) (key t) (val t) _ (nodup_firstKeys pre)
    groupTotal_of_not_mem
  simp only [groupsOf, firstKeys_append_single, groupTotal_append_single]
  simpa using h

/-- The groups' totals add up to the total over all tuples. -/
theorem sum_groupTotal_firstKeys {key : Tuple → List Int} {val : Tuple → Int} (ts : List Tuple) :
    ((firstKeys key ts).map (groupTotal key val ts)).sum = (ts.map val).sum := by
  induction ts using List.reverseRecOn with
  | nil => simp [firstKeys]
  | append_singleton ts t ih =>
    have hnodup : (firstKeys key (ts ++ [t])).Nodup := nodup_firstKeys (ts ++ [t])
    have hmem : key t ∈ firstKeys key (ts ++ [t]) := mem_firstKeys.2 ⟨t, by simp, rfl⟩
    -- the new tuple counts once, in the one group of its key
    have hnew : ((firstKeys key (ts ++ [t])).map fun k => if key t = k then val t else 0).sum = val t := by
      rw [List.sum_map_eq_nsmul_single (key t) _ fun k hk _ => by simp [Ne.symm hk],
        @List.Nodup.count _ instBEqOfDecidableEq _ _ _ hnodup, if_pos hmem]
      simp
    -- the old totals add up as before; a new group had none of them
    have hold : ((firstKeys key (ts ++ [t])).map (groupTotal key val ts)).sum = (ts.map val).sum := by
      rw [firstKeys_append_single, List.map_append, List.sum_append, ih]
      split
      · simp
      · next h => simp [groupTotal_of_not_mem h]
    have hstep : groupTotal key val (ts ++ [t]) =
        fun k => groupTotal key val ts k + if key t = k then val t else 0 :=
      funext (groupTotal_append_single ts t)
    rw [hstep, List.sum_map_add, hold, hnew, List.map_append, List.sum_append]
    simp

/-! ## The grouping loop -/

/-- The key the grouping loop reads from a tuple at the key positions `keys`. -/
def keyAt (keys : List Nat) (t : Tuple) : List Int := keys.map fun p => t.values[p]?.getD 0

/-- The product the grouping loop adds for a tuple. -/
def productAt (fs : List SumFactor) (t : Tuple) : Int := (fs.map (·.valueOn t)).prod

/-- A tuple holds every key position and every factor position. -/
def HoldsPositions (keys : List Nat) (fs : List SumFactor) (t : Tuple) : Prop :=
  (∀ p ∈ keys, p < t.arity) ∧ ∀ f ∈ fs, f.InRange t

theorem PartialsFit.prod {vs : List Int} (h : PartialsFit vs) : Decimal.fitsInt64 vs.prod := by
  simpa using h vs.length

theorem fits_groupTotal_append_single {key : Tuple → List Int} {val : Tuple → Int}
    {pre : List Tuple} {t : Tuple} (hpre : ∀ k, Decimal.fitsInt64 (groupTotal key val pre k))
    (hval : Decimal.fitsInt64 (val t))
    (hown : key t ∈ firstKeys key pre → Decimal.fitsInt64 (groupTotal key val (pre ++ [t]) (key t)))
    (k : List Int) : Decimal.fitsInt64 (groupTotal key val (pre ++ [t]) k) := by
  by_cases hk : key t = k
  · subst hk
    by_cases hm : key t ∈ firstKeys key pre
    · exact hown hm
    · simpa [groupTotal_append_single, groupTotal_of_not_mem hm] using hval
  · simpa [groupTotal_append_single, hk] using hpre k

section Loop

variable {keys : List Nat} {fs : List SumFactor}

/-- The grouping loop, from the groups of the tuples `pre` already read, answers the groups of
all the tuples; it fails exactly when a partial product or a running total leaves 64 bits. -/
theorem grouped_checked :
    ∀ (ts pre : List Tuple), (∀ t ∈ ts, HoldsPositions keys fs t) →
      (∀ k, Decimal.fitsInt64 (groupTotal (keyAt keys) (productAt fs) pre k)) →
      Checked (Trace.grouped keys fs ts none (groupsOf (keyAt keys) (productAt fs) pre))
        ((∀ t ∈ ts, PartialsFit (fs.map (·.valueOn t))) ∧
          ∀ n k, Decimal.fitsInt64 (groupTotal (keyAt keys) (productAt fs) (pre ++ ts.take n) k))
        (groupsOf (keyAt keys) (productAt fs) (pre ++ ts))
  | [], pre, _, hpre => by
    rw [Trace.grouped, List.append_nil]
    exact Checked.iff (by simpa using hpre) (Checked.pure _)
  | t :: ts, pre, hts, hpre => by
    obtain ⟨hkeys, hfs⟩ := hts t List.mem_cons_self
    have hkey : keys.mapM t.valueAt = .ok (keyAt keys t) :=
      mapM_eq_ok_of_forall fun p hp => Tuple.valueAt_of_lt (hkeys p hp)
    rw [Trace.grouped, hkey, show pre ++ t :: ts = pre ++ [t] ++ ts by simp]
    -- read the key, multiply the factors, add to the group, then go on with the groups so far
    refine Checked.iff ?_ ((Checked.pure (keyAt keys t)).bind fun _ =>
      (productIn_checked hfs).bind fun hP =>
        (@addToGroup_groupsOf (keyAt keys) (productAt fs) pre t).bind fun hA =>
          grouped_checked ts (pre ++ [t]) (fun t' ht' => hts t' (List.mem_cons_of_mem t ht'))
            (fits_groupTotal_append_single hpre hP.prod hA))
    constructor
    · rintro ⟨-, hP, hA, hrest, hrun⟩
      refine ⟨List.forall_mem_cons.2 ⟨hP, hrest⟩, fun n k => ?_⟩
      cases n with
      | zero => simpa using hpre k
      | succ n => simpa using hrun n k
    · rintro ⟨hP, hrun⟩
      refine ⟨trivial, hP t List.mem_cons_self, fun _ => by simpa using hrun 1 (keyAt keys t),
        fun t' ht' => hP t' (List.mem_cons_of_mem t ht'), fun n k => by simpa using hrun (n + 1) k⟩

end Loop

/-! ## The aggregate in named steps -/

/-- The positions of the GROUP BY columns and the names they take in the output. -/
def Schema.groupColumns (s : Schema) (groupBy : List String) :
    Except ExecError (List (Nat × String)) :=
  groupBy.mapM fun c =>
    match s.indexOf c with
    | some p => pure (p, "Aggregated." ++ (s.columnName? p).getD c)
    | none => throw (.columnNotFound c)

/-- The SUM factors, with their columns resolved to positions. -/
def Schema.sumFactors (s : Schema) (sum : SumExpr) : Except ExecError (List SumFactor) :=
  let resolve := fun (c : String) =>
    match s.indexOf c with
    | some p => Except.ok (SumFactor.pos p)
    | none => Except.error (ExecError.columnNotFound c)
  match sum with
  | .lit v => pure [SumFactor.lit v]
  | .col c => (fun f => [f]) <$> resolve c
  | .product ts => ts.mapM fun
    | .lit v => pure (SumFactor.lit v)
    | .col c => resolve c

/-- The output tuples of the groups: each key's values then its total, which must fit
32 bits. With no GROUP BY and no group there is one group, the empty key with total 0. -/
def finishGroups (global : Bool) (groups : List (List Int × Int)) : Except ExecError (List Tuple) :=
  (if groups.isEmpty && global then [([], 0)] else groups).mapM fun (vs, total) =>
    if Decimal.fitsInt32 total then pure (Tuple.mk (vs ++ [total]))
    else throw (.valueOverflow total)

theorem aggregateOf_eq (child : Operator) (sum : SumExpr) (groupBy : List String) (s : Schema) :
    Operator.aggregateOf child sum groupBy s = (do
      let keyed ← s.groupColumns groupBy
      let factors ← s.sumFactors sum
      let groups ← Operator.groupFrom (keyed.map (·.1)) factors child.fuel child []
      let results ← finishGroups (keyed.map (·.1)).isEmpty groups
      return .aggregate results 0 ⟨keyed.map (·.2) ++ ["Aggregated.Sum"]⟩) := by
  -- the SUM's forms share the steps after the factors
  cases sum <;> rfl

/-- A SUM term with its column resolved to a position. -/
def SumTerm.resolve (s : Schema) : SumTerm → SumFactor
  | .lit v => .lit v
  | .col c => .pos ((s.indexOf c).getD 0)

/-- The factors of a SUM expression, left to right. -/
def SumExpr.terms : SumExpr → List SumTerm
  | .lit v => [.lit v]
  | .col c => [.col c]
  | .product ts => ts

theorem SumExpr.mem_columns {e : SumExpr} {c : String} (h : SumTerm.col c ∈ e.terms) :
    c ∈ e.columns := by
  cases e with
  | lit v => simp [terms] at h
  | col c' => simpa [terms, columns] using h
  | product ts => exact List.mem_filterMap.2 ⟨_, h, rfl⟩

theorem groupColumns_ok {s : Schema} {groupBy : List String}
    (h : ∀ c ∈ groupBy, ∃ p, s.indexOf c = some p) :
    ∃ keyed, s.groupColumns groupBy = .ok keyed ∧
      keyed.map (·.1) = groupBy.map fun c => (s.indexOf c).getD 0 := by
  refine ⟨_, mapM_eq_ok_of_forall (g := fun c =>
    ((s.indexOf c).getD 0, "Aggregated." ++ (s.columnName? ((s.indexOf c).getD 0)).getD c))
    fun c hc => ?_, by simp⟩
  obtain ⟨p, hp⟩ := h c hc
  simp [hp]; rfl

theorem sumFactors_ok {s : Schema} {sum : SumExpr} (h : ∀ c ∈ sum.columns, ∃ p, s.indexOf c = some p) :
    s.sumFactors sum = .ok (sum.terms.map (SumTerm.resolve s)) := by
  have hcol : ∀ c ∈ sum.columns, (match s.indexOf c with
      | some p => Except.ok (SumFactor.pos p)
      | none => Except.error (ExecError.columnNotFound c)) = .ok (SumTerm.resolve s (.col c)) := by
    intro c hc
    obtain ⟨p, hp⟩ := h c hc
    simp [hp, SumTerm.resolve]
  cases sum with
  | lit v => rfl
  | col c =>
    obtain ⟨p, hp⟩ := h c (by simp [SumExpr.columns])
    simp [Schema.sumFactors, hp, SumExpr.terms, SumTerm.resolve]
  | product ts =>
    refine mapM_eq_ok_of_forall fun term ht => ?_
    cases term with
    | lit v => rfl
    | col c => exact hcol c (SumExpr.mem_columns ht)

/-! ## What an aggregate answers -/

/-- The value of a SUM term on a tuple laid out by `s`. -/
def SumTerm.valueOn (s : Schema) (t : Tuple) : SumTerm → Int
  | .lit v => v
  | .col c => (s.lookup t c).getD 0

/-- The values of a SUM expression's factors on a tuple laid out by `s`, left to right. -/
def SumExpr.factorValues (e : SumExpr) (s : Schema) (t : Tuple) : List Int :=
  e.terms.map (SumTerm.valueOn s t)

/-- The values of the GROUP BY columns on a tuple laid out by `s`. -/
def Schema.groupKey (s : Schema) (groupBy : List String) (t : Tuple) : List Int :=
  groupBy.map fun c => (s.lookup t c).getD 0

/-- The range conditions of a SUM over `ts` read in order: no partial product of a tuple's
factors leaves 64 bits, no group's running total leaves 64 bits, and every group's final total
fits 32 bits. -/
structure SumsFit (key : Tuple → List Int) (factors : Tuple → List Int) (ts : List Tuple) : Prop where
  products : ∀ t ∈ ts, PartialsFit (factors t)
  running : ∀ n k, Decimal.fitsInt64 (groupTotal key (fun t => (factors t).prod) (ts.take n) k)
  totals : ∀ t ∈ ts, Decimal.fitsInt32 (groupTotal key (fun t => (factors t).prod) ts (key t))

/-- The tuples of an aggregate: for each key in order of first occurrence, its values then the
group's total. With no GROUP BY and no input, the one tuple 0. -/
def aggregateRows (global : Bool) (key : Tuple → List Int) (val : Tuple → Int) (ts : List Tuple) :
    List Tuple :=
  if global && ts.isEmpty then [⟨[0]⟩]
  else (firstKeys key ts).map fun k => ⟨k ++ [groupTotal key val ts k]⟩

section Finish

variable {key : Tuple → List Int} {val : Tuple → Int}

theorem groupsOf_isEmpty (ts : List Tuple) : (groupsOf key val ts).isEmpty = ts.isEmpty := by
  cases ts <;> simp [groupsOf, firstKeys, List.eraseDups_cons]

theorem finishGroups_checked (global : Bool) (G : List (List Int × Int)) :
    Checked (finishGroups global G)
      (∀ g ∈ (if G.isEmpty && global then [([], 0)] else G), Decimal.fitsInt32 g.2)
      ((if G.isEmpty && global then [([], 0)] else G).map fun g => ⟨g.1 ++ [g.2]⟩) :=
  Checked.mapM fun ⟨_, _⟩ _ => Checked.ite _ rfl

theorem finishGroups_groupsOf (global : Bool) (ts : List Tuple) :
    Checked (finishGroups global (groupsOf key val ts))
      (∀ t ∈ ts, Decimal.fitsInt32 (groupTotal key val ts (key t)))
      (aggregateRows global key val ts) := by
  have h := finishGroups_checked global (groupsOf key val ts)
  rw [groupsOf_isEmpty] at h
  unfold aggregateRows
  rw [Bool.and_comm]
  split
  · next hg =>
    rw [if_pos hg] at h
    obtain ⟨rfl, -⟩ : ts = [] ∧ global = true := by simpa using hg
    exact Checked.iff (by simp; decide) h
  · next hg =>
    rw [if_neg hg] at h
    have hv : (groupsOf key val ts).map (fun g => Tuple.mk (g.1 ++ [g.2])) =
        (firstKeys key ts).map fun k => ⟨k ++ [groupTotal key val ts k]⟩ := by
      simp [groupsOf]
    rw [hv] at h
    exact Checked.iff (by simp [groupsOf, mem_firstKeys]) h

theorem sum_aggregateRows (global : Bool) (ts : List Tuple) :
    ((aggregateRows global key val ts).map fun r => r.values.getLast?.getD 0).sum = (ts.map val).sum := by
  unfold aggregateRows
  split
  · next h =>
    obtain ⟨-, rfl⟩ : global = true ∧ ts = [] := by simpa using h
    rfl
  · simpa [Function.comp_def] using sum_groupTotal_firstKeys ts

theorem aggregateRows_global (ts : List Tuple) :
    aggregateRows true (fun _ => []) val ts = [⟨[(ts.map val).sum]⟩] := by
  cases ts with
  | nil => rfl
  | cons t ts => simp [aggregateRows, firstKeys, List.eraseDups_cons, groupTotal]

end Finish

/-! ## Resolved columns read what their names read -/

section Resolved

variable {s : Schema} {groupBy : List String} {sum : SumExpr}

theorem keyAt_groupPositions (h : ∀ c ∈ groupBy, ∃ p, s.indexOf c = some p) :
    keyAt (groupBy.map fun c => (s.indexOf c).getD 0) = s.groupKey groupBy := by
  funext t
  simp only [keyAt, Schema.groupKey, List.map_map]
  refine List.map_congr_left fun c hc => ?_
  obtain ⟨p, hp⟩ := h c hc
  simp [hp, Schema.lookup]

theorem factorValues_resolve (h : ∀ c ∈ sum.columns, ∃ p, s.indexOf c = some p) (t : Tuple) :
    (sum.terms.map (SumTerm.resolve s)).map (·.valueOn t) = sum.factorValues s t := by
  simp only [List.map_map, SumExpr.factorValues]
  refine List.map_congr_left fun term ht => ?_
  cases term with
  | lit v => rfl
  | col c =>
    obtain ⟨p, hp⟩ := h c (SumExpr.mem_columns ht)
    simp [hp, SumTerm.resolve, SumFactor.valueOn, SumTerm.valueOn, Schema.lookup]

theorem productAt_resolve (h : ∀ c ∈ sum.columns, ∃ p, s.indexOf c = some p) :
    productAt (sum.terms.map (SumTerm.resolve s)) = fun t => (sum.factorValues s t).prod := by
  funext t
  rw [productAt, factorValues_resolve h]

theorem holdsPositions_resolve {ts : List Tuple}
    (h : ∀ c ∈ groupBy ++ sum.columns, ∃ p, s.indexOf c = some p ∧ ∀ t ∈ ts, p < t.arity) :
    ∀ t ∈ ts, HoldsPositions (groupBy.map fun c => (s.indexOf c).getD 0)
      (sum.terms.map (SumTerm.resolve s)) t := by
  intro t ht
  constructor
  · intro p hp
    obtain ⟨c, hc, rfl⟩ := List.mem_map.1 hp
    obtain ⟨p, hp, hlt⟩ := h c (List.mem_append_left _ hc)
    simpa [hp] using hlt t ht
  · intro f hf
    obtain ⟨term, hterm, rfl⟩ := List.mem_map.1 hf
    cases term with
    | lit v => trivial
    | col c =>
      obtain ⟨p, hp, hlt⟩ := h c (List.mem_append_right _ (SumExpr.mem_columns hterm))
      simpa [SumTerm.resolve, SumFactor.InRange, hp] using hlt t ht

end Resolved

theorem groupsOf_nil (key : Tuple → List Int) (val : Tuple → Int) : groupsOf key val [] = [] := rfl

/-- Over an input whose GROUP BY and SUM columns resolve and whose tuples hold them, the
aggregate is built exactly when the SUM's range conditions hold, and then buffers the
aggregate's tuples. -/
theorem aggregateOf_checked {child : Operator} {ts : List Tuple} (hc : child.Fresh)
    (hts : child.rest = ⟨ts, none⟩) {sum : SumExpr} {groupBy : List String} {s : Schema}
    (hcols : ∀ c ∈ groupBy ++ sum.columns, ∃ p, s.indexOf c = some p ∧ ∀ t ∈ ts, p < t.arity) :
    ∃ names, Checked (Operator.aggregateOf child sum groupBy s)
      (SumsFit (s.groupKey groupBy) (sum.factorValues s) ts)
      (.aggregate (aggregateRows groupBy.isEmpty (s.groupKey groupBy)
        (fun t => (sum.factorValues s t).prod) ts) 0 names) := by
  have hres : ∀ c ∈ groupBy ++ sum.columns, ∃ p, s.indexOf c = some p :=
    fun c hc => (hcols c hc).imp fun _ h => h.1
  have hgroup : ∀ c ∈ groupBy, ∃ p, s.indexOf c = some p := fun c h => hres c (List.mem_append_left _ h)
  have hsum : ∀ c ∈ sum.columns, ∃ p, s.indexOf c = some p := fun c h => hres c (List.mem_append_right _ h)
  obtain ⟨keyed, hkeyed, hkeys⟩ := groupColumns_ok hgroup
  -- the grouping loop over the child's stream, from no groups, with its key and product read
  -- through the names
  have hloop := grouped_checked ts [] (holdsPositions_resolve hcols)
    fun _ => (by decide : Decimal.fitsInt64 0 = true)
  rw [keyAt_groupPositions hgroup, productAt_resolve hsum, ← hkeys, groupsOf_nil] at hloop
  simp only [factorValues_resolve hsum, List.nil_append] at hloop
  have hglobal : (keyed.map (·.1)).isEmpty = groupBy.isEmpty := by rw [hkeys, List.isEmpty_map]
  refine ⟨⟨keyed.map (·.2) ++ ["Aggregated.Sum"]⟩, ?_⟩
  rw [aggregateOf_eq, hkeyed, sumFactors_ok hsum, ← hglobal]
  simp only [Operator.groupFrom_fresh hc, hts]
  refine Checked.iff ?_ ((Checked.pure keyed).bind fun _ => (Checked.pure _).bind fun _ =>
    hloop.bind fun _ => (finishGroups_groupsOf _ ts).bind fun _ => Checked.pure _)
  exact ⟨fun ⟨_, _, ⟨hp, hr⟩, ht, _⟩ => ⟨hp, hr, ht⟩,
    fun h => ⟨trivial, trivial, ⟨h.products, h.running⟩, h.totals, trivial⟩⟩

theorem drainAll_aggregate (rows : List Tuple) (names : Schema) :
    (Operator.aggregate rows 0 names).drainAll = .ok rows := by
  rw [Operator.drainAll_of_fresh (show (Operator.aggregate rows 0 names).Fresh from ⟨trivial, rfl⟩)]
  rfl

/-- SUM aggregation is exact and fails exactly on overflow. Over an input stream `ts` whose
tuples hold every GROUP BY and SUM column, and whose columns resolve in the schema: the
aggregate is built exactly when the range conditions hold; it then answers one tuple per key,
in order of first occurrence, the key's values then the exact total of the group's products
(with no GROUP BY and no input, the one tuple 0); it fails otherwise with an overflow; and the
totals of the groups add up to the total of the global run over the same input. -/
theorem aggregateOf_sums_exactly {child : Operator} {ts : List Tuple} (hc : child.Fresh)
    (hts : child.rest = ⟨ts, none⟩) {sum : SumExpr} {groupBy : List String} {s : Schema}
    (hcols : ∀ c ∈ groupBy ++ sum.columns, ∃ p, s.indexOf c = some p ∧ ∀ t ∈ ts, p < t.arity) :
    ((∃ op, Operator.aggregateOf child sum groupBy s = .ok op) ↔
        SumsFit (s.groupKey groupBy) (sum.factorValues s) ts) ∧
      (∀ op, Operator.aggregateOf child sum groupBy s = .ok op →
        op.drainAll = .ok (aggregateRows groupBy.isEmpty (s.groupKey groupBy)
          (fun t => (sum.factorValues s t).prod) ts)) ∧
      (∀ e, Operator.aggregateOf child sum groupBy s = .error e → e.code = "AERO_VALUE_OVERFLOW") ∧
      ∀ op₁ op₂, Operator.aggregateOf child sum groupBy s = .ok op₁ →
        Operator.aggregateOf child sum [] s = .ok op₂ →
        ∃ rows g, op₁.drainAll = .ok rows ∧ op₂.drainAll = .ok [⟨[g]⟩] ∧
          (rows.map fun r => r.values.getLast?.getD 0).sum = g := by
  obtain ⟨names, h⟩ := aggregateOf_checked hc hts hcols
  refine ⟨h.ok_iff, fun op hop => ?_, fun e he => h.code_of_error he, fun op₁ op₂ h₁ h₂ => ?_⟩
  · rw [h.eq_of_ok hop, drainAll_aggregate]
  · -- the global run is the same aggregate with no GROUP BY columns
    have hcols₀ : ∀ c ∈ ([] : List String) ++ sum.columns,
        ∃ p, s.indexOf c = some p ∧ ∀ t ∈ ts, p < t.arity :=
      fun c hc' => hcols c (List.mem_append_right _ (by simpa using hc'))
    obtain ⟨names₀, h₀⟩ := aggregateOf_checked hc hts hcols₀
    have hkey₀ : s.groupKey [] = fun _ => [] := rfl
    rw [h.eq_of_ok h₁, h₀.eq_of_ok h₂, drainAll_aggregate, drainAll_aggregate, hkey₀]
    exact ⟨_, _, rfl, by rw [List.isEmpty_nil, aggregateRows_global], sum_aggregateRows _ ts⟩

/-- Five tuples of two columns, keyed on the first. -/
def keyedPairs : List Tuple := [⟨[2, 10]⟩, ⟨[1, 20]⟩, ⟨[2, 30]⟩, ⟨[3, 40]⟩, ⟨[1, 50]⟩]

theorem keyedPairs_sums_exactly :
    ((∃ op, Operator.aggregateOf (.sort keyedPairs 0) (.col "R.B") ["R.A"] ⟨["R.A", "R.B"]⟩ = .ok op) ↔
        SumsFit ((⟨["R.A", "R.B"]⟩ : Schema).groupKey ["R.A"])
          ((SumExpr.col "R.B").factorValues ⟨["R.A", "R.B"]⟩) keyedPairs) ∧
      (∀ op, Operator.aggregateOf (.sort keyedPairs 0) (.col "R.B") ["R.A"] ⟨["R.A", "R.B"]⟩ = .ok op →
        op.drainAll = .ok (aggregateRows false ((⟨["R.A", "R.B"]⟩ : Schema).groupKey ["R.A"])
          (fun t => ((SumExpr.col "R.B").factorValues ⟨["R.A", "R.B"]⟩ t).prod) keyedPairs)) ∧
      (∀ e, Operator.aggregateOf (.sort keyedPairs 0) (.col "R.B") ["R.A"] ⟨["R.A", "R.B"]⟩ = .error e →
        e.code = "AERO_VALUE_OVERFLOW") ∧
      ∀ op₁ op₂, Operator.aggregateOf (.sort keyedPairs 0) (.col "R.B") ["R.A"] ⟨["R.A", "R.B"]⟩ = .ok op₁ →
        Operator.aggregateOf (.sort keyedPairs 0) (.col "R.B") [] ⟨["R.A", "R.B"]⟩ = .ok op₂ →
        ∃ rows g, op₁.drainAll = .ok rows ∧ op₂.drainAll = .ok [⟨[g]⟩] ∧
          (rows.map fun r => r.values.getLast?.getD 0).sum = g :=
  aggregateOf_sums_exactly (show (Operator.sort keyedPairs 0).Fresh from ⟨trivial, rfl⟩) rfl
    fun c hc => by
      simp only [SumExpr.columns, List.cons_append, List.nil_append, List.mem_cons,
        List.not_mem_nil, or_false] at hc
      rcases hc with rfl | rfl
      · exact ⟨0, by decide, by decide⟩
      · exact ⟨1, by decide, by decide⟩

/-- Groups come out in order of first occurrence. -/
example : (Operator.aggregateOf (.sort [⟨[2, 10]⟩, ⟨[1, 20]⟩, ⟨[2, 30]⟩, ⟨[3, 40]⟩, ⟨[1, 50]⟩] 0)
    (.col "R.B") ["R.A"] ⟨["R.A", "R.B"]⟩ >>= Operator.drainAll) =
      .ok [⟨[2, 40]⟩, ⟨[1, 70]⟩, ⟨[3, 40]⟩] := by rfl

/-- A running total may leave 32 bits on the way. -/
example : (Operator.aggregateOf (.sort [⟨[2147483647]⟩, ⟨[1]⟩, ⟨[-1]⟩] 0) (.col "R.A") []
    ⟨["R.A"]⟩ >>= Operator.drainAll) = .ok [⟨[2147483647]⟩] := by rfl

end CsvQuery
