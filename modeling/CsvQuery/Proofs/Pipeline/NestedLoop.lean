import CsvQuery.Proofs.Pipeline.Rows

/-!
# The nested-loop join answers the filtered product

A join reads its conditions on a pair of tuples: a position below the left tuple's actual
arity from the left tuple, any other from the right one, shifted. That reads every position
as the two tuples side by side do, whatever their arities (`Binding.valueAt_pair_toOption`),
so a condition answers on the pair as it answers on the joined tuple
(`Bound.holds_concat_of_pair`).

Main statements:

* `joinOf_of_holdAll`   a join over inputs that replay `ls` and `rs` and end answers the pairs
                        its conditions accept, left tuples outermost;
* `selectAllOf_rest`    selections stacked on such a stream keep the pairs every selection
                        accepts, checked in order as a join checks its conditions;
* `joinOf_drains_filtered_product`   draining the join answers the filtered product, and so
                        does draining the plain product under one selection per condition.
-/

namespace CsvQuery

theorem Tuple.toOption_valueAt (t : Tuple) (i : Nat) : (t.valueAt i).toOption = t.values[i]? := by
  unfold Tuple.valueAt
  split <;> simp_all [Except.toOption]

namespace Binding

/-- A pair reads every position as the two tuples side by side do, whatever their arities:
the same value, or no value. -/
theorem valueAt_pair_toOption (l r : Tuple) (p : Nat) :
    ((Binding.pair l r).valueAt p).toOption =
      ((Binding.single (l.concat r)).valueAt p).toOption := by
  have hsingle : ((Binding.single (l.concat r)).valueAt p).toOption =
      if p < l.arity then l.values[p]? else r.values[p - l.arity]? := by
    rw [valueAt, Tuple.toOption_valueAt, Tuple.concat, List.getElem?_append]
    rfl
  rw [hsingle, valueAt]
  by_cases hp : p < l.arity
  · rw [if_pos hp, if_pos hp, Tuple.toOption_valueAt]
  · rw [if_neg hp, if_neg hp, Tuple.toOption_valueAt]

end Binding

namespace Bound

theorem eval_congr {β₁ β₂ : Binding} (h : ∀ p, (β₁.valueAt p).toOption = (β₂.valueAt p).toOption) :
    ∀ b : Bound, (b.eval β₁).toOption = (b.eval β₂).toOption
  | .lit _ => rfl
  | .pos p => by simp only [eval, toOption_map, h p]
  | .cmp op l r => by simp only [eval, toOption_bind, eval_congr h l, eval_congr h r]
  | .and l r | .or l r => by
    simp only [eval, toOption_bind, eval_congr h l, apply_ite Except.toOption, eval_congr h r]

theorem holds_congr {β₁ β₂ : Binding} (h : ∀ p, (β₁.valueAt p).toOption = (β₂.valueAt p).toOption)
    (b : Bound) : (b.holds β₁).toOption = (b.holds β₂).toOption := by
  simp only [holds, toOption_bind, eval_congr h b]

/-- A condition that answers on a pair answers the same on the two tuples side by side. -/
theorem holds_concat_of_pair {l r : Tuple} {b : Bound} {w : Bool} (h : b.holds (.pair l r) = .ok w) :
    b.holds (.single (l.concat r)) = .ok w := by
  apply eq_ok_of_toOption
  rw [← holds_congr (Binding.valueAt_pair_toOption l r) b, h]
  rfl

theorem holdAll_cons_of_holds {β : Binding} {b : Bound} {w : Bool} (h : b.holds β = .ok w)
    (bs : List Bound) : holdAll β (b :: bs) = if w then holdAll β bs else .ok false := by
  cases w <;> simp [holdAll, h, Bind.bind, Except.bind, pure, Except.pure]

theorem holds_of_holdAll_cons {β : Binding} {b : Bound} {bs : List Bound} {v : Bool}
    (h : holdAll β (b :: bs) = .ok v) : ∃ w, b.holds β = .ok w := by
  cases hb : b.holds β with
  | error e => simp [holdAll, hb, Bind.bind, Except.bind] at h
  | ok w => exact ⟨w, rfl⟩

end Bound

/-! ## Products -/

theorem mem_joinRows {keep : Tuple → Tuple → Bool} {L R : List Tuple} {x : Tuple} :
    x ∈ joinRows keep L R ↔ ∃ a ∈ L, ∃ b ∈ R, keep a b = true ∧ a.concat b = x := by
  simp only [joinRows, List.mem_flatMap, List.mem_map, List.mem_filter]
  constructor
  · rintro ⟨a, ha, b, ⟨hb, hk⟩, rfl⟩
    exact ⟨a, ha, b, hb, hk, rfl⟩
  · rintro ⟨a, ha, b, hb, hk, rfl⟩
    exact ⟨a, ha, b, ⟨hb, hk⟩, rfl⟩

theorem joinRows_congr {k₁ k₂ : Tuple → Tuple → Bool} {R : List Tuple} :
    ∀ {L : List Tuple}, (∀ a ∈ L, ∀ b ∈ R, k₁ a b = k₂ a b) → joinRows k₁ L R = joinRows k₂ L R
  | [], _ => rfl
  | a :: L, h => by
    rw [joinRows_cons_left, joinRows_cons_left,
      joinRows_congr fun a' ha' => h a' (List.mem_cons_of_mem a ha'),
      List.filter_congr fun b hb => h a List.mem_cons_self b hb]

theorem filter_joinRows (keep : Tuple → Tuple → Bool) (f : Tuple → Bool) (R : List Tuple) :
    ∀ L : List Tuple,
      (joinRows keep L R).filter f = joinRows (fun a b => keep a b && f (a.concat b)) L R
  | [] => rfl
  | a :: L => by
    have hhead : (R.filter (keep a)).filter (f ∘ a.concat) = R.filter fun b => keep a b && f (a.concat b) := by
      rw [List.filter_filter]
      exact List.filter_congr fun b _ => Bool.and_comm _ _
    rw [joinRows_cons_left, joinRows_cons_left, List.filter_append, filter_joinRows keep f R L,
      List.filter_map, hhead]

namespace Operator

/-- Selections by the conditions `cs` over `schema`, stacked on `child` in order: the first
condition lowest. -/
def selectAllOf (schema : Schema) : Operator → List Expr → Except ExecError Operator
  | child, [] => .ok child
  | child, c :: cs => (selectOf child c schema).bind fun op => selectAllOf schema op cs

section Product

variable {ls rs : List Tuple} {S : Schema}

/-- A join over inputs that replay `ls` and `rs` and end, whose conditions bind to `bs` and
answer `keep` on every pair, answers the pairs `keep` accepts. -/
theorem joinOf_of_holdAll {L R : Operator} (hL : L.Fresh) (hR : R.Fresh)
    (hLs : L.rest = ⟨ls, none⟩) (hRs : R.rest = ⟨rs, none⟩) {cs : List Expr} {bs : List Bound}
    (hbs : cs.mapM (Bound.bind S) = .ok bs) {keep : Tuple → Tuple → Bool}
    (hkeep : ∀ l ∈ ls, ∀ r ∈ rs, Bound.holdAll (.pair l r) bs = .ok (keep l r)) :
    ∃ J, joinOf L R cs S = .ok J ∧ J.Fresh ∧ J.rest = ⟨joinRows keep ls rs, none⟩ := by
  have h := rest_joinOf hL hR cs S
  rw [hbs, hLs, hRs] at h
  simp only [Except.bind, Trace.primed_of_holdAll hkeep] at h
  obtain ⟨J, hJ, hrest⟩ := map_eq_ok.1 h
  exact ⟨J, hJ, fresh_joinOf hL hR hJ, hrest⟩

theorem selectOf_pairs {op : Operator} (hop : op.Fresh) {keep : Tuple → Tuple → Bool}
    (hrest : op.rest = ⟨joinRows keep ls rs, none⟩) {c : Expr} {b : Bound}
    (hb : Bound.bind S c = .ok b) {w : Tuple → Tuple → Bool}
    (hw : ∀ l ∈ ls, ∀ r ∈ rs, keep l r = true → b.holds (.pair l r) = .ok (w l r)) :
    ∃ op', selectOf op c S = .ok op' ∧ op'.Fresh ∧
      op'.rest = ⟨joinRows (fun l r => keep l r && w l r) ls rs, none⟩ := by
  have hsel : selectOf op c S = .ok (.select op b) := by
    simp [selectOf, hb, Functor.map, Except.map]
  refine ⟨_, hsel, fresh_selectOf hop hsel, ?_⟩
  -- the selection reads the joined tuple, where the condition answers as on the pair
  have hjoined : ∀ t ∈ joinRows keep ls rs,
      b.holds (.single t) = .ok (decide (b.holds (.single t) = .ok true)) := by
    intro t ht
    obtain ⟨l, hl, r, hr, hk, rfl⟩ := mem_joinRows.1 ht
    rw [Bound.holds_concat_of_pair (hw l hl r hr hk)]
    cases w l r <;> simp
  show Trace.filter b op.rest.tuples op.rest.stop = _
  rw [hrest, Trace.filter_of_holds hjoined, filter_joinRows]
  congr 1
  refine joinRows_congr fun l hl r hr => ?_
  cases hk : keep l r
  · rfl
  · simp [Bound.holds_concat_of_pair (hw l hl r hr hk)]

/-- Selections stacked on a stream of pairs keep the pairs that all of them accept. Each
selection sees only the pairs the ones below it kept, so a condition need only answer
where a join would check it: after the conditions before it held. -/
theorem selectAllOf_rest :
    ∀ {cs : List Expr} {bs : List Bound}, cs.mapM (Bound.bind S) = .ok bs →
    ∀ {keep : Tuple → Tuple → Bool} {op : Operator}, op.Fresh →
      op.rest = ⟨joinRows keep ls rs, none⟩ →
      (∀ l ∈ ls, ∀ r ∈ rs, keep l r = true → ∃ v, Bound.holdAll (.pair l r) bs = .ok v) →
      ∃ F, selectAllOf S op cs = .ok F ∧ F.Fresh ∧
        F.rest = ⟨joinRows (fun l r => keep l r && Bound.holdAll (.pair l r) bs = .ok true) ls rs,
          none⟩
  | [], bs, hbs, keep, op, hop, hrest, _ => by
    cases hbs
    refine ⟨op, rfl, hop, ?_⟩
    rw [hrest]
    congr 1
    exact joinRows_congr fun l _ r _ => by simp [Bound.holdAll]
  | c :: cs, bs, hbs, keep, op, hop, hrest, hok => by
    obtain ⟨b, hb, bs', hbs', rfl⟩ := mapM_cons_eq_ok.1 hbs
    -- the head condition answers on every pair that reaches it
    have hhead : ∀ l ∈ ls, ∀ r ∈ rs, keep l r = true → ∃ x, b.holds (.pair l r) = .ok x :=
      fun l hl r hr hk => (hok l hl r hr hk).elim fun _ hv => Bound.holds_of_holdAll_cons hv
    have hw : ∀ l ∈ ls, ∀ r ∈ rs, keep l r = true →
        b.holds (.pair l r) = .ok (decide (b.holds (.pair l r) = .ok true)) := by
      intro l hl r hr hk
      obtain ⟨x, hx⟩ := hhead l hl r hr hk
      cases x <;> simp [hx]
    obtain ⟨op', hop', hf', hr'⟩ := selectOf_pairs hop hrest hb hw
    -- a pair the head selection keeps is checked on the remaining conditions
    obtain ⟨F, hF, hFf, hFr⟩ := selectAllOf_rest hbs' hf' hr' fun l hl r hr hk => by
      simp only [Bool.and_eq_true, decide_eq_true_eq] at hk
      obtain ⟨v, hv⟩ := hok l hl r hr hk.1
      rw [Bound.holdAll_cons_of_holds hk.2, if_pos rfl] at hv
      exact ⟨v, hv⟩
    refine ⟨F, by simp [selectAllOf, hop', Except.bind, hF], hFf, ?_⟩
    rw [hFr]
    congr 1
    refine joinRows_congr fun l hl r hr => ?_
    cases hk : keep l r
    · rfl
    · obtain ⟨x, hx⟩ := hhead l hl r hr hk
      rw [Bound.holdAll_cons_of_holds hx]
      cases x <;> simp [hx]

/-- The nested-loop join is the filtered product in left-major order. Over inputs that
replay `ls` and `rs` and end, a join whose conditions bind and whose checks never fail is
built, and draining it answers each left tuple side by side with every right tuple that all
its conditions hold of, left tuples outermost. Draining the plain product under one
selection per condition, the first lowest, answers the same tuples: a pair reads every
position as the joined tuple does. -/
theorem joinOf_drains_filtered_product {L R : Operator} (hL : L.Fresh) (hR : R.Fresh)
    (hLs : L.rest = ⟨ls, none⟩) (hRs : R.rest = ⟨rs, none⟩) {cs : List Expr} {bs : List Bound}
    (hbs : cs.mapM (Bound.bind S) = .ok bs)
    (hok : ∀ l ∈ ls, ∀ r ∈ rs, ∃ v, Bound.holdAll (.pair l r) bs = .ok v) :
    ∃ J, joinOf L R cs S = .ok J ∧
      J.drainAll = .ok (joinRows (fun l r => Bound.holdAll (.pair l r) bs = .ok true) ls rs) ∧
      (∃ J₀ F, joinOf L R [] S = .ok J₀ ∧ selectAllOf S J₀ cs = .ok F ∧
        F.drainAll = J.drainAll) ∧
      ∀ l r p, ((Binding.pair l r).valueAt p).toOption =
        ((Binding.single (l.concat r)).valueAt p).toOption := by
  have hkeep : ∀ l ∈ ls, ∀ r ∈ rs, Bound.holdAll (.pair l r) bs =
      .ok (decide (Bound.holdAll (.pair l r) bs = .ok true)) := by
    intro l hl r hr
    obtain ⟨v, hv⟩ := hok l hl r hr
    rw [hv]
    cases v <;> simp
  obtain ⟨J, hJ, hJf, hJr⟩ := joinOf_of_holdAll hL hR hLs hRs hbs hkeep
  -- the plain product: no condition, every pair kept
  have hnone : ([] : List Expr).mapM (Bound.bind S) = .ok [] := rfl
  have hall : ∀ l ∈ ls, ∀ r ∈ rs, Bound.holdAll (.pair l r) [] = .ok true := fun _ _ _ _ => rfl
  obtain ⟨J₀, hJ₀, hJ₀f, hJ₀r⟩ := joinOf_of_holdAll hL hR hLs hRs hnone hall
  obtain ⟨F, hF, hFf, hFr⟩ := selectAllOf_rest hbs hJ₀f hJ₀r fun l hl r hr _ => hok l hl r hr
  refine ⟨J, hJ, ?_, ⟨J₀, F, hJ₀, hF, ?_⟩, Binding.valueAt_pair_toOption⟩
  · rw [drainAll_of_fresh hJf, hJr]
    rfl
  · rw [drainAll_of_fresh hFf, drainAll_of_fresh hJf, hFr, hJr]
    rfl

end Product

/-! ## Two buffers joined on `R.B < S.B` -/

/-- The tuples `(A, B)` of `R`, replayed from a buffer. -/
def lessLeft : Operator := .sort [⟨[1, 10]⟩, ⟨[2, 20]⟩] 0

/-- The tuples `(B, C)` of `S`, replayed from a buffer. -/
def lessRight : Operator := .sort [⟨[10, 100]⟩, ⟨[30, 300]⟩] 0

/-- The schemas of `R` and `S` side by side. -/
def lessSchema : Schema := ⟨["R.A", "R.B", "S.B", "S.C"]⟩

/-- The condition `R.B < S.B`. -/
def lessCondition : Expr := .cmp .lt (.col (.qualified "R" "B")) (.col (.qualified "S" "B"))

theorem lessJoin_drains_filtered_product :
    ∃ J, joinOf lessLeft lessRight [lessCondition] lessSchema = .ok J ∧
      J.drainAll = .ok (joinRows (fun l r =>
          Bound.holdAll (.pair l r) [.cmp .lt (.pos 1) (.pos 2)] = .ok true)
        [⟨[1, 10]⟩, ⟨[2, 20]⟩] [⟨[10, 100]⟩, ⟨[30, 300]⟩]) ∧
      (∃ J₀ F, joinOf lessLeft lessRight [] lessSchema = .ok J₀ ∧
        selectAllOf lessSchema J₀ [lessCondition] = .ok F ∧ F.drainAll = J.drainAll) ∧
      ∀ l r p, ((Binding.pair l r).valueAt p).toOption =
        ((Binding.single (l.concat r)).valueAt p).toOption :=
  joinOf_drains_filtered_product (show lessLeft.Fresh from ⟨trivial, rfl⟩)
    (show lessRight.Fresh from ⟨trivial, rfl⟩) rfl rfl (by decide) (by decide)

end Operator

end CsvQuery
