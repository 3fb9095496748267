import CsvQuery.Proofs.Pipeline.Rows

/-!
# A join tree filters the product of its scans

Taking every selection and condition out of a join tree leaves the plain product of its
scans (`PlanNode.unfiltered`). The tree's own rows are that product filtered by all of its
predicates at once, each read through the tree's whole schema (`Bindable.rows_eq_filter`),
provided that

* the scans' schemas are plain (`Schema.Plain`), so that a row of two inputs side by side
  reads a column from the left input whenever the left schema resolves it
  (`Schema.valuation_combine_left`), and from the right input otherwise;
* at each join no predicate of the right input names a column that the left input's schema
  resolves (`PlanNode.Separated`), so that it reads the right input's values wherever it
  is evaluated.
-/

namespace CsvQuery

namespace Schema

section Combine

variable {s₁ s₂ : Schema} {a b : Tuple} {c : ColumnRef}

theorem indexOf_combine_isSome (h₁ : s₁.Plain) (h₂ : s₂.Plain) (n : String) :
    ((s₁.combine s₂).indexOf n).isSome = ((s₁.indexOf n).isSome || (s₂.indexOf n).isSome) := by
  rw [indexOf_combine h₁ h₂]
  cases s₁.indexOf n <;> cases s₂.indexOf n <;> rfl

/-- A column the left schema resolves is read from the left row. -/
theorem valuation_combine_left (h₁ : s₁.Plain) (h₂ : s₂.Plain) (ha : a.arity = s₁.size)
    (hc : (s₁.indexOf c.name).isSome) :
    (s₁.combine s₂).valuation (a.concat b) c = s₁.valuation a c := by
  obtain ⟨p, hp⟩ := Option.isSome_iff_exists.1 hc
  have hl : s₁.lookup a c.name = some (s₁.valuation a c) := by
    simp [lookup, hp, getElem?_of_indexOf ha hp]
  rw [valuation, lookup_combine h₁ h₂ ha, hl]
  rfl

theorem valuation_combine_right (h₁ : s₁.Plain) (h₂ : s₂.Plain) (ha : a.arity = s₁.size)
    (hc : s₁.indexOf c.name = none) :
    (s₁.combine s₂).valuation (a.concat b) c = s₂.valuation b c := by
  have hl : s₁.lookup a c.name = none := by simp [lookup, hc]
  rw [valuation, lookup_combine h₁ h₂ ha, hl]
  rfl

end Combine

end Schema

theorem all_truth_congr {v w : ColumnRef → Int} :
    ∀ {es : List Expr}, (∀ e ∈ es, ∀ c ∈ e.columns, v c = w c) →
      es.all (·.truth v) = es.all (·.truth w)
  | [], _ => rfl
  | e :: es, h => by
    simp only [List.all_cons]
    rw [Expr.truth_congr (h e List.mem_cons_self),
      all_truth_congr fun e' he' => h e' (List.mem_cons_of_mem e he')]

theorem joinRows_filter {keep : Tuple → Tuple → Bool} {α β Φ : Tuple → Bool} {R : List Tuple} :
    ∀ {L : List Tuple}, (∀ a ∈ L, ∀ b ∈ R, Φ (a.concat b) = (α a && β b && keep a b)) →
      joinRows keep (L.filter α) (R.filter β) = (joinRows (fun _ _ => true) L R).filter Φ
  | [], _ => rfl
  | a :: L, h => by
    have ih := joinRows_filter fun a' ha' b hb => h a' (List.mem_cons_of_mem a ha') b hb
    have hR : R.filter (fun _ => true) = R := List.filter_eq_self.2 fun _ _ => rfl
    rw [joinRows_cons_left, List.filter_append, ← ih, hR, List.filter_map]
    by_cases ha : α a = true
    · rw [List.filter_cons_of_pos ha, joinRows_cons_left, List.filter_filter]
      congr 2
      apply List.filter_congr
      intro b hb
      simp [h a List.mem_cons_self b hb, ha, Bool.and_comm]
    · have hnil : R.filter (Φ ∘ a.concat) = [] :=
        List.filter_eq_nil_iff.2 fun b hb => by simp [h a List.mem_cons_self b hb, ha]
      rw [List.filter_cons_of_neg ha, hnil, List.map_nil, List.nil_append]

namespace PlanNode

/-- The join tree with every selection and condition taken out: the plain product of its
scans. -/
def unfiltered : PlanNode → PlanNode
  | .select _ _ n => n.unfiltered
  | .join _ s l r => .join [] s l.unfiltered r.unfiltered
  | n => n

/-- The selections and conditions of a join tree, each input's before the node's own. -/
def predicates : PlanNode → List Expr
  | .select e _ n => n.predicates ++ [e]
  | .join cs _ l r => l.predicates ++ r.predicates ++ cs
  | _ => []

/-- At each join, no column of a predicate of the right input resolves in the left input's
schema. -/
def Separated : PlanNode → Prop
  | .select _ _ n => n.Separated
  | .join _ _ l r => l.Separated ∧ r.Separated ∧
      ∀ e ∈ r.predicates, ∀ c ∈ e.columns, l.schema.indexOf c.name = none
  | _ => True

section Bindable

variable {n : PlanNode}

theorem Bindable.plain (hn : n.Bindable) (hs : ∀ p ∈ n.scans, p.2.Plain) : n.schema.Plain := by
  induction hn with
  | scan table reference s => exact hs (table, s) (by simp [scans])
  | select _ _ ih => exact ih hs
  | join _ _ _ ihl ihr =>
    simp only [scans, List.mem_append] at hs
    exact (ihl fun p hp => hs p (.inl hp)).combine (ihr fun p hp => hs p (.inr hp))

/-- Every predicate of a bindable tree over plain scans has its columns resolved by the
tree's schema, not only by the schema it is bound to. -/
theorem Bindable.resolves (hn : n.Bindable) (hs : ∀ p ∈ n.scans, p.2.Plain) :
    ∀ e ∈ n.predicates, ∀ c ∈ e.columns, (n.schema.indexOf c.name).isSome := by
  induction hn with
  | scan => simp [predicates]
  | select _ he ih =>
    intro e' he' c hc
    simp only [predicates, List.mem_append, List.mem_singleton] at he'
    rcases he' with he' | rfl
    · exact ih hs e' he' c hc
    · exact he.2 c hc
  | @join cs l r hl hr hcs ihl ihr =>
    simp only [scans, List.mem_append] at hs
    have hpl := hl.plain fun p hp => hs p (.inl hp)
    have hpr := hr.plain fun p hp => hs p (.inr hp)
    intro e he c hc
    simp only [predicates, List.mem_append] at he
    rcases he with (he | he) | he
    · show ((l.schema.combine r.schema).indexOf c.name).isSome = true
      rw [Schema.indexOf_combine_isSome hpl hpr, ihl (fun p hp => hs p (.inl hp)) e he c hc,
        Bool.true_or]
    · show ((l.schema.combine r.schema).indexOf c.name).isSome = true
      rw [Schema.indexOf_combine_isSome hpl hpr, ihr (fun p hp => hs p (.inr hp)) e he c hc,
        Bool.or_true]
    · exact (hcs e he).2 c hc

/-- Taking the predicates out leaves a bindable tree with the same schema and scans. -/
theorem Bindable.unfiltered (hn : n.Bindable) :
    n.unfiltered.Bindable ∧ n.unfiltered.schema = n.schema ∧ n.unfiltered.scans = n.scans := by
  induction hn with
  | scan table reference s => exact ⟨.scan table reference s, rfl, rfl⟩
  | select _ _ ih => exact ih
  | @join cs l r _ _ _ ihl ihr =>
    obtain ⟨hl', hls, hlscans⟩ := ihl
    obtain ⟨hr', hrs, hrscans⟩ := ihr
    have hj := Bindable.join hl' hr' fun e (he : e ∈ ([] : List Expr)) => nomatch he
    rw [hls, hrs] at hj
    exact ⟨hj, rfl, by simp [PlanNode.unfiltered, scans, hlscans, hrscans]⟩

/-- The rows of a bindable, separated tree over plain scans are the product of its scans
filtered by all of its predicates, each read through the tree's schema. -/
theorem Bindable.rows_eq_filter {src : String → List Tuple} (hn : n.Bindable) (hsep : n.Separated)
    (hplain : ∀ p ∈ n.scans, p.2.Plain) (harity : ∀ p ∈ n.scans, ∀ x ∈ src p.1, x.arity = p.2.size) :
    n.rows src = (n.unfiltered.rows src).filter
      fun x => n.predicates.all (·.truth (n.schema.valuation x)) := by
  induction hn with
  | scan => exact (List.filter_eq_self.2 fun _ _ => rfl).symm
  | select _ _ ih =>
    rw [rows, ih hsep hplain harity, List.filter_filter]
    apply List.filter_congr
    intro x _
    simp [predicates, schema, Bool.and_comm]
  | @join cs l r hl hr hcs ihl ihr =>
    obtain ⟨hsl, hsr, hsep⟩ := hsep
    simp only [scans, List.mem_append] at hplain harity
    have hpl := hl.plain fun p hp => hplain p (.inl hp)
    have hpr := hr.plain fun p hp => hplain p (.inr hp)
    -- the rows of the left product are as wide as the left schema
    have hwide : ∀ a ∈ l.unfiltered.rows src, a.arity = l.schema.size := by
      obtain ⟨hl', hls, hlscans⟩ := hl.unfiltered
      intro a ha
      rw [← hls]
      exact hl'.arity_rows (fun p hp => harity p (.inl (hlscans ▸ hp))) a ha
    rw [rows, ihl hsl (fun p hp => hplain p (.inl hp)) (fun p hp => harity p (.inl hp)),
      ihr hsr (fun p hp => hplain p (.inr hp)) (fun p hp => harity p (.inr hp))]
    apply joinRows_filter
    intro a ha b _
    show ((l.predicates ++ r.predicates ++ cs).all
      fun e => e.truth ((l.schema.combine r.schema).valuation (a.concat b))) = _
    rw [List.all_append, List.all_append]
    -- the left predicates read the left row, the right predicates the right row
    rw [all_truth_congr fun e he c hc =>
        Schema.valuation_combine_left hpl hpr (hwide a ha) (hl.resolves (fun p hp => hplain p (.inl hp)) e he c hc),
      all_truth_congr fun e he c hc =>
        Schema.valuation_combine_right hpl hpr (hwide a ha) (hsep e he c hc)]

end Bindable

end PlanNode

end CsvQuery
