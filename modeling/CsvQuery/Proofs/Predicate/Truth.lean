import CsvQuery.Exec.Operator
import CsvQuery.Proofs.Except

/-!
# The truth of a predicate

The SQL reader builds predicates from comparisons of integers and columns, joined by `AND`
and `OR` (`Expr.isPredicate`). Such a predicate has a truth value once its columns have
values (`Expr.truth`). Operators do not evaluate it that way: they bind it to a schema,
which replaces each column by a position, and evaluate the bound form on a tuple or a pair
of tuples. `Bound.holds_bind` says the two agree: when every column resolves to a position
whose value the tuples hold, binding succeeds and evaluating answers the truth value, with
no error.

Splitting a predicate into its top-level conjuncts, which walks an explicit stack, flattens
its `AND`s in order (`Expr.conjuncts_eq_flatten`). When each conjunct evaluates to a boolean,
so does the predicate, and it is true exactly when every conjunct is
(`conjuncts_split_ands_in_order`).
-/

namespace CsvQuery

namespace Expr

/-- An integer or a column. -/
def isOperand : Expr → Bool
  | .lit _ | .col _ => true
  | _ => false

/-- Comparisons of operands joined by `AND` and `OR`. -/
def isPredicate : Expr → Bool
  | .cmp _ l r => l.isOperand && r.isOperand
  | .and l r | .or l r => l.isPredicate && r.isPredicate
  | _ => false

/-- The integer an operand denotes, its column valued by `v`. -/
def operandValue (v : ColumnRef → Int) : Expr → Int
  | .lit x => x
  | .col c => v c
  | _ => 0

/-- Whether a predicate holds, its columns valued by `v`. -/
def truth (v : ColumnRef → Int) : Expr → Bool
  | .cmp op l r => op.apply (l.operandValue v) (r.operandValue v)
  | .and l r => l.truth v && r.truth v
  | .or l r => l.truth v || r.truth v
  | _ => false

section Columns

variable {v w : ColumnRef → Int} {f : ColumnRef → ColumnRef}

theorem operandValue_congr : ∀ {e : Expr}, (∀ c ∈ e.columns, v c = w c) →
    e.operandValue v = e.operandValue w
  | .lit _, _ => rfl
  | .col c, h => h c (by simp [columns])
  | .cmp .., _ | .and .., _ | .or .., _ => rfl

theorem truth_congr : ∀ {e : Expr}, (∀ c ∈ e.columns, v c = w c) → e.truth v = e.truth w
  | .lit _, _ | .col _, _ => rfl
  | .cmp op l r, h => by
    simp only [truth, columns, List.mem_append] at h ⊢
    rw [operandValue_congr fun c hc => h c (.inl hc), operandValue_congr fun c hc => h c (.inr hc)]
  | .and l r, h | .or l r, h => by
    simp only [truth, columns, List.mem_append] at h ⊢
    rw [truth_congr fun c hc => h c (.inl hc), truth_congr fun c hc => h c (.inr hc)]

@[simp] theorem columns_mapColumns (e : Expr) : (e.mapColumns f).columns = e.columns.map f := by
  induction e <;> simp_all [mapColumns, columns]

@[simp] theorem isOperand_mapColumns (e : Expr) : (e.mapColumns f).isOperand = e.isOperand := by
  cases e <;> rfl

@[simp] theorem isPredicate_mapColumns (e : Expr) :
    (e.mapColumns f).isPredicate = e.isPredicate := by
  induction e <;> simp_all [mapColumns, isPredicate]

theorem operandValue_mapColumns (e : Expr) :
    (e.mapColumns f).operandValue v = e.operandValue (v ∘ f) := by
  cases e <;> rfl

theorem truth_mapColumns (e : Expr) : (e.mapColumns f).truth v = e.truth (v ∘ f) := by
  induction e <;> simp_all [mapColumns, truth, operandValue_mapColumns]

end Columns

/-! ## Conjuncts -/

theorem conjunctsFrom_eq (stack out : List Expr) :
    conjunctsFrom stack out = out.reverse ++ stack.flatMap flatten := by
  fun_induction conjunctsFrom stack out with
  | case1 out => simp
  | case2 l r rest out ih => simp [ih, flatten]
  | case3 out e rest hne ih =>
    -- a conjunct that is not an AND is its own flattening
    have he : e.flatten = [e] := by
      cases e <;> simp_all [flatten]
    simp [ih, he]

/-- The top-level conjuncts are the in-order flattening of the top-level ANDs. -/
theorem conjuncts_eq_flatten (e : Expr) : e.conjuncts = e.flatten := by
  simp [conjuncts, conjunctsFrom_eq]

theorem isPredicate_of_mem_flatten : ∀ {e w : Expr}, e.isPredicate → w ∈ e.flatten → w.isPredicate
  | .and l r, w, he, hw => by
    simp only [isPredicate, Bool.and_eq_true] at he
    simp only [flatten, List.mem_append] at hw
    rcases hw with hw | hw
    · exact isPredicate_of_mem_flatten he.1 hw
    · exact isPredicate_of_mem_flatten he.2 hw
  | .lit _, w, he, hw | .col _, w, he, hw | .cmp .., w, he, hw | .or .., w, he, hw => by
    simp only [flatten, List.mem_singleton] at hw
    exact hw ▸ he

theorem columns_of_mem_flatten :
    ∀ {e w : Expr}, w ∈ e.flatten → ∀ c ∈ w.columns, c ∈ e.columns
  | .and l r, w, hw, c, hc => by
    simp only [flatten, List.mem_append] at hw
    simp only [columns, List.mem_append]
    rcases hw with hw | hw
    · exact .inl (columns_of_mem_flatten hw c hc)
    · exact .inr (columns_of_mem_flatten hw c hc)
  | .lit _, w, hw, c, hc | .col _, w, hw, c, hc | .cmp .., w, hw, c, hc | .or .., w, hw, c, hc => by
    simp only [flatten, List.mem_singleton] at hw
    exact hw ▸ hc

end Expr

theorem Binding.valueAt_pair {l r : Tuple} {p : Nat} {x : Int} (h : (l.concat r).values[p]? = some x) :
    (Binding.pair l r).valueAt p = .ok x := by
  simp only [Tuple.concat] at h
  by_cases hp : p < l.arity
  · rw [List.getElem?_append_left hp] at h
    simp [Binding.valueAt, hp, Tuple.valueAt, h]
  · have hp' : ¬p < l.values.length := hp
    rw [List.getElem?_append_right (by omega)] at h
    simp only [Binding.valueAt, Tuple.valueAt, Tuple.arity, hp', ↓reduceIte, h]

theorem Binding.valueAt_single {t : Tuple} {p : Nat} {x : Int} (h : t.values[p]? = some x) :
    (Binding.single t).valueAt p = .ok x := by
  simp [Binding.valueAt, Tuple.valueAt, h]

namespace Bound

section Bind

variable {s : Schema} {β : Binding} {v : ColumnRef → Int}

theorem eval_bind_operand : ∀ {e : Expr}, e.isOperand →
    (∀ c ∈ e.columns, ∃ p, s.indexOf c.name = some p ∧ β.valueAt p = .ok (v c)) →
    ∃ b, bind s e = .ok b ∧ eval β b = .ok (.int (e.operandValue v))
  | .lit x, _, _ => ⟨.lit x, rfl, rfl⟩
  | .col c, _, hv => by
    obtain ⟨p, hp, hval⟩ := hv c (by simp [Expr.columns])
    exact ⟨.pos p, by simp [Bound.bind, hp], by simp [eval, hval, Expr.operandValue, Except.map]⟩

theorem eval_bind : ∀ {e : Expr}, e.isPredicate →
    (∀ c ∈ e.columns, ∃ p, s.indexOf c.name = some p ∧ β.valueAt p = .ok (v c)) →
    ∃ b, bind s e = .ok b ∧ eval β b = .ok (.bool (e.truth v))
  | .cmp op l r, he, hv => by
    simp only [Expr.isPredicate, Bool.and_eq_true] at he
    simp only [Expr.columns, List.mem_append] at hv
    obtain ⟨bl, hbl, hel⟩ := eval_bind_operand he.1 fun c hc => hv c (.inl hc)
    obtain ⟨br, hbr, her⟩ := eval_bind_operand he.2 fun c hc => hv c (.inr hc)
    exact ⟨.cmp op bl br, by simp [Bound.bind, hbl, hbr, Bind.bind, Except.bind, pure, Except.pure],
      by simp [eval, hel, her, expectInt, Bind.bind, Except.bind, pure, Except.pure, Expr.truth]⟩
  | .and l r, he, hv => by
    simp only [Expr.isPredicate, Bool.and_eq_true] at he
    simp only [Expr.columns, List.mem_append] at hv
    obtain ⟨bl, hbl, hel⟩ := eval_bind he.1 fun c hc => hv c (.inl hc)
    obtain ⟨br, hbr, her⟩ := eval_bind he.2 fun c hc => hv c (.inr hc)
    refine ⟨.and bl br, by simp [Bound.bind, hbl, hbr, Bind.bind, Except.bind, pure, Except.pure], ?_⟩
    cases hl : l.truth v <;>
      simp [eval, hel, her, hl, expectBool, Bind.bind, Except.bind, pure, Except.pure, Expr.truth]
  | .or l r, he, hv => by
    simp only [Expr.isPredicate, Bool.and_eq_true] at he
    simp only [Expr.columns, List.mem_append] at hv
    obtain ⟨bl, hbl, hel⟩ := eval_bind he.1 fun c hc => hv c (.inl hc)
    obtain ⟨br, hbr, her⟩ := eval_bind he.2 fun c hc => hv c (.inr hc)
    refine ⟨.or bl br, by simp [Bound.bind, hbl, hbr, Bind.bind, Except.bind, pure, Except.pure], ?_⟩
    cases hl : l.truth v <;>
      simp [eval, hel, her, hl, expectBool, Bind.bind, Except.bind, pure, Except.pure, Expr.truth]

/-- The same for `holds`, which requires a boolean. -/
theorem holds_bind {e : Expr} (he : e.isPredicate)
    (hv : ∀ c ∈ e.columns, ∃ p, s.indexOf c.name = some p ∧ β.valueAt p = .ok (v c)) :
    ∃ b, bind s e = .ok b ∧ holds β b = .ok (e.truth v) := by
  obtain ⟨b, hb, heval⟩ := eval_bind he hv
  exact ⟨b, hb, by simp [holds, heval, expectBool, Bind.bind, Except.bind]⟩

end Bind

theorem holdAll_of_holds {β : Binding} {φ : Bound → Bool} :
    ∀ {bs : List Bound}, (∀ b ∈ bs, b.holds β = .ok (φ b)) → holdAll β bs = .ok (bs.all φ)
  | [], _ => rfl
  | b :: bs, h => by
    have hb := h b List.mem_cons_self
    have ih := holdAll_of_holds fun b' hb' => h b' (List.mem_cons_of_mem b hb')
    cases hφ : φ b <;> simp [holdAll, hb, hφ, ih, Bind.bind, Except.bind, pure, Except.pure]

end Bound

/-! ## Conjuncts evaluated one by one -/

namespace Expr

variable {s : Schema} {β : Binding}

theorem ne_and_of_mem_flatten : ∀ {e w : Expr}, w ∈ e.flatten → ∀ l r, w ≠ .and l r
  | .and l r, w, hw, l', r' => by
    simp only [flatten, List.mem_append] at hw
    rcases hw with hw | hw
    · exact ne_and_of_mem_flatten hw l' r'
    · exact ne_and_of_mem_flatten hw l' r'
  | .lit _, w, hw, l', r' | .col _, w, hw, l', r' | .cmp .., w, hw, l', r'
  | .or .., w, hw, l', r' => by
    simp only [flatten, List.mem_singleton] at hw
    subst hw
    rintro ⟨⟩

theorem evaluate_and {l r : Expr} {x y : Bool} (hl : l.evaluate s β = .ok (.bool x))
    (hr : r.evaluate s β = .ok (.bool y)) :
    (Expr.and l r).evaluate s β = .ok (.bool (x && y)) := by
  unfold evaluate at hl hr
  obtain ⟨bl, hbl, hel⟩ := bind_eq_ok.1 hl
  obtain ⟨br, hbr, her⟩ := bind_eq_ok.1 hr
  cases x <;>
    simp [evaluate, Bound.bind, hbl, hbr, Bound.eval, hel, her, Bound.expectBool, Bind.bind,
      Except.bind, pure, Except.pure]

theorem evaluate_of_flatten : ∀ {e : Expr},
    (∀ c ∈ e.flatten, ∃ v : Bool, c.evaluate s β = .ok (.bool v)) →
    ∃ v : Bool, e.evaluate s β = .ok (.bool v) ∧
      (v = true ↔ ∀ c ∈ e.flatten, c.evaluate s β = .ok (.bool true))
  | .and l r, h => by
    simp only [flatten, List.forall_mem_append] at h ⊢
    obtain ⟨x, hx, hxall⟩ := evaluate_of_flatten h.1
    obtain ⟨y, hy, hyall⟩ := evaluate_of_flatten h.2
    exact ⟨x && y, evaluate_and hx hy, by rw [Bool.and_eq_true, hxall, hyall]⟩
  | .lit _, h | .col _, h | .cmp .., h | .or .., h => by
    simp only [flatten, List.mem_singleton, forall_eq] at h ⊢
    obtain ⟨v, hv⟩ := h
    exact ⟨v, hv, by rw [hv]; simp⟩

end Expr

/-- Splitting an expression into its conjuncts with an explicit stack flattens its top-level
`AND`s in order: no conjunct is an `AND`, and the conjuncts of an `AND` are those of its left
side, then those of its right side. When every conjunct evaluates to a boolean against a
schema and a binding, so does the expression, and it is true exactly when every conjunct
evaluates to true. -/
theorem conjuncts_split_ands_in_order (e : Expr) :
    e.conjuncts = e.flatten ∧ (∀ c ∈ e.conjuncts, ∀ l r, c ≠ .and l r) ∧
    (∀ a b : Expr, (Expr.and a b).conjuncts = a.conjuncts ++ b.conjuncts) ∧
    ∀ (s : Schema) (β : Binding),
      (∀ c ∈ e.conjuncts, ∃ v : Bool, c.evaluate s β = .ok (.bool v)) →
      ∃ v : Bool, e.evaluate s β = .ok (.bool v) ∧
        (v = true ↔ ∀ c ∈ e.conjuncts, c.evaluate s β = .ok (.bool true)) := by
  refine ⟨Expr.conjuncts_eq_flatten e, fun c hc => ?_, fun a b => ?_, fun s β h => ?_⟩
  · rw [Expr.conjuncts_eq_flatten] at hc
    exact Expr.ne_and_of_mem_flatten hc
  · simp only [Expr.conjuncts_eq_flatten, Expr.flatten]
  · simp only [Expr.conjuncts_eq_flatten] at h ⊢
    exact Expr.evaluate_of_flatten h

/-- In `(R.A = 1 OR S.B = 2) AND R.A = 3`, the `OR` stays one conjunct; over `R.A, S.B` and
the tuple `3, 2` both conjuncts hold, and so does the whole. -/
theorem disjunction_stays_one_conjunct :
    (Expr.and (.or (.cmp .eq (.col (.qualified "R" "A")) (.lit 1))
        (.cmp .eq (.col (.qualified "S" "B")) (.lit 2)))
        (.cmp .eq (.col (.qualified "R" "A")) (.lit 3))).conjuncts =
      [.or (.cmp .eq (.col (.qualified "R" "A")) (.lit 1))
        (.cmp .eq (.col (.qualified "S" "B")) (.lit 2)),
        .cmp .eq (.col (.qualified "R" "A")) (.lit 3)] ∧
    (Expr.and (.or (.cmp .eq (.col (.qualified "R" "A")) (.lit 1))
        (.cmp .eq (.col (.qualified "S" "B")) (.lit 2)))
        (.cmp .eq (.col (.qualified "R" "A")) (.lit 3))).evaluate
      ⟨["R.A", "S.B"]⟩ (.single ⟨[3, 2]⟩) = .ok (.bool true) := by
  obtain ⟨hflat, -, -, heval⟩ := conjuncts_split_ands_in_order
    (.and (.or (.cmp .eq (.col (.qualified "R" "A")) (.lit 1))
      (.cmp .eq (.col (.qualified "S" "B")) (.lit 2)))
      (.cmp .eq (.col (.qualified "R" "A")) (.lit 3)))
  have hdisj : (Expr.or (.cmp .eq (.col (.qualified "R" "A")) (.lit 1))
      (.cmp .eq (.col (.qualified "S" "B")) (.lit 2))).evaluate ⟨["R.A", "S.B"]⟩
      (.single ⟨[3, 2]⟩) = .ok (.bool true) := rfl
  have hcmp : (Expr.cmp .eq (.col (.qualified "R" "A")) (.lit 3)).evaluate ⟨["R.A", "S.B"]⟩
      (.single ⟨[3, 2]⟩) = .ok (.bool true) := rfl
  rw [hflat] at heval ⊢
  obtain ⟨v, hv, hiff⟩ := heval ⟨["R.A", "S.B"]⟩ (.single ⟨[3, 2]⟩)
    (by simp [Expr.flatten, hdisj, hcmp])
  obtain rfl : v = true := hiff.2 (by simp [Expr.flatten, hdisj, hcmp])
  exact ⟨rfl, hv⟩

end CsvQuery
