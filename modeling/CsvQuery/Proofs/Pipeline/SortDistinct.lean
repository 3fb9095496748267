import CsvQuery.Proofs.Pipeline.Aggregate
import CsvQuery.Proofs.Pipeline.Finish
import CsvQuery.Proofs.Pipeline.Rows
import CsvQuery.Proofs.Pipeline.RowWidth
import Mathlib.Data.Int.Order.Basic
import Mathlib.Data.List.Lex

/-!
# ORDER BY only reorders, DISTINCT only removes repeats

A query's plan ends with its projection, then a duplicate filter for DISTINCT, then a sort
for ORDER BY; the sort goes below the projection instead when some key is projected away.
Over the same catalog and data, the runs of a query `Q`, of `Q` without ORDER BY, and of `Q`
without DISTINCT and ORDER BY relate as follows (`orderBy_reorders_distinct_dedups`):

* the rows of `Q` are a permutation of those of `Q` without ORDER BY;
* with DISTINCT, the rows of `Q` without ORDER BY are those of `Q` without DISTINCT and
  ORDER BY, each once, in order of first occurrence, when the output columns have distinct
  names and every row is as wide as the output;
* the rows of `Q` are in the lexicographic order of their ORDER BY values, descending keys
  negated, when every key names an output column.

The duplicate filter is keyed on the output column names, each read back through the
schema, so two output columns of one name make it compare only the first of them.
-/

namespace CsvQuery

/-! ## Deduplicated lists -/

theorem perm_eraseDups {α : Type} [BEq α] [LawfulBEq α] {l l' : List α} (h : l.Perm l') :
    l.eraseDups.Perm l'.eraseDups :=
  (List.perm_ext_iff_of_nodup (nodup_eraseDups l) (nodup_eraseDups l')).2 fun a => by
    simp [h.mem_iff]

/-! ## The order of a sort -/

namespace SortKey

/-- The order of two tuples on one key: their values compared, reversed for a descending
key; a tuple without the column compares equal. -/
def compareOn (k : SortKey) (a b : Tuple) : Ordering :=
  let o := match a.values[k.column]?, b.values[k.column]? with
    | some x, some y => compare x y
    | _, _ => .eq
  if k.ascending then o else o.swap

/-- The value a tuple takes on a key, negated for a descending key. -/
def valueOn (k : SortKey) (t : Tuple) : Int :=
  if k.ascending then t.values[k.column]?.getD 0 else -t.values[k.column]?.getD 0

theorem foldl_compareAll (a b : Tuple) :
    ∀ (keys : List SortKey) (acc : Ordering),
      keys.foldl (fun acc k => if acc != .eq then acc else k.compareOn a b) acc =
        acc.then (keys.foldl (fun acc k => if acc != .eq then acc else k.compareOn a b) .eq)
  | [], acc => by simp
  | k :: keys, acc => by
    rw [List.foldl_cons, List.foldl_cons, foldl_compareAll a b keys,
      foldl_compareAll a b keys (if Ordering.eq != .eq then .eq else k.compareOn a b)]
    cases acc <;> simp [Ordering.then]

theorem compareAll_cons (k : SortKey) (keys : List SortKey) (a b : Tuple) :
    Operator.SortKey.compareAll (k :: keys) a b =
      (k.compareOn a b).then (Operator.SortKey.compareAll keys a b) := by
  unfold Operator.SortKey.compareAll
  exact foldl_compareAll a b keys _

theorem compare_signed (x y : Int) (asc : Bool) :
    ((if asc then compare x y else (compare x y).swap) = .lt ↔
        (if asc then x else -x) < (if asc then y else -y)) ∧
      ((if asc then compare x y else (compare x y).swap) = .eq ↔
        (if asc then x else -x) = (if asc then y else -y)) := by
  rcases lt_trichotomy x y with h | rfl | h <;> cases asc
  · simp [compare_lt_iff_lt.2 h, Ordering.swap]; omega
  · simp [compare_lt_iff_lt.2 h, h, h.ne]
  · simp [Ordering.swap]
  · simp
  · simp [compare_gt_iff_gt.2 h, Ordering.swap]; omega
  · simp [compare_gt_iff_gt.2 h, not_lt.2 h.le, h.ne']

theorem compareOn_ne_gt_iff {k : SortKey} {a b : Tuple} (ha : k.column < a.arity)
    (hb : k.column < b.arity) :
    (k.compareOn a b = .lt ↔ k.valueOn a < k.valueOn b) ∧
      (k.compareOn a b = .eq ↔ k.valueOn a = k.valueOn b) := by
  rw [Tuple.arity] at ha hb
  simp only [compareOn, valueOn, List.getElem?_eq_getElem ha, List.getElem?_eq_getElem hb,
    Option.getD_some]
  exact compare_signed _ _ _

theorem cons_le_cons_iff {x y : Int} {xs ys : List Int} :
    x :: xs ≤ y :: ys ↔ x < y ∨ x = y ∧ xs ≤ ys := by
  rw [le_iff_lt_or_eq, le_iff_lt_or_eq]
  show List.Lex (· < ·) (x :: xs) (y :: ys) ∨ _ ↔ _
  rw [List.cons_lex_cons_iff, List.cons.injEq]
  constructor
  · rintro ((h | ⟨rfl, h⟩) | ⟨rfl, rfl⟩)
    · exact .inl h
    · exact .inr ⟨rfl, .inl h⟩
    · exact .inr ⟨rfl, .inr rfl⟩
  · rintro (h | ⟨rfl, h | rfl⟩)
    · exact .inl (.inl h)
    · exact .inl (.inr ⟨rfl, h⟩)
    · exact .inr ⟨rfl, rfl⟩

theorem compareAll_ne_gt_iff {a b : Tuple} :
    ∀ {keys : List SortKey}, (∀ k ∈ keys, k.column < a.arity ∧ k.column < b.arity) →
      ((Operator.SortKey.compareAll keys a b != .gt) = true ↔
        keys.map (·.valueOn a) ≤ keys.map (·.valueOn b))
  | [], _ => by simp [Operator.SortKey.compareAll]
  | k :: keys, h => by
    obtain ⟨hlt, heq⟩ := compareOn_ne_gt_iff (h k List.mem_cons_self).1 (h k List.mem_cons_self).2
    have ih := compareAll_ne_gt_iff fun k' hk' => h k' (List.mem_cons_of_mem k hk')
    rw [compareAll_cons, List.map_cons, List.map_cons, cons_le_cons_iff, ← hlt, ← heq, ← ih]
    cases k.compareOn a b <;> simp [Ordering.then]

theorem pairwise_mergeSort {keys : List SortKey} {l : List Tuple}
    (hl : ∀ t ∈ l, ∀ k ∈ keys, k.column < t.arity) :
    (l.mergeSort fun a b => Operator.SortKey.compareAll keys a b != .gt).Pairwise
      fun a b => keys.map (·.valueOn a) ≤ keys.map (·.valueOn b) := by
  -- on the list's own tuples the sort's test is the order of the key values, which is total
  -- and transitive on all tuples
  have hsame : l.mergeSort (fun a b => Operator.SortKey.compareAll keys a b != .gt) =
      l.mergeSort fun a b => decide (keys.map (·.valueOn a) ≤ keys.map (·.valueOn b)) := by
    have := List.map_mergeSort (f := id) (l := l) (r := fun a b => Operator.SortKey.compareAll keys a b != .gt)
      (s := fun a b => decide (keys.map (·.valueOn a) ≤ keys.map (·.valueOn b)))
      fun a ha b hb => by
        rw [Bool.eq_iff_iff, compareAll_ne_gt_iff fun k hk => ⟨hl a ha k hk, hl b hb k hk⟩]
        simp
    simpa using this
  rw [hsame]
  have h : (l.mergeSort fun a b => decide (keys.map (·.valueOn a) ≤ keys.map (·.valueOn b))).Pairwise
      fun a b => decide (keys.map (·.valueOn a) ≤ keys.map (·.valueOn b)) = true :=
    List.pairwise_mergeSort
      (fun a b c hab hbc => by simpa using le_trans (by simpa using hab) (by simpa using hbc))
      (fun a b => by simpa using le_total _ _) l
  exact h.imp fun hab => by simpa using hab

end SortKey

/-! ## Names read back -/

theorem ColumnRef.name_ofName (s : String) : (ColumnRef.ofName s).name = s := by
  unfold ColumnRef.ofName
  dsimp only
  split
  · next k hk =>
    obtain ⟨hk, hdot, -⟩ := List.idxOf?_eq_some_iff.1 hk
    rw [List.length_reverse] at hk
    -- the name is cut at its last dot, which stays between the two parts
    have hcut : s.toList.length - 1 - k < s.toList.length := by omega
    have hget : s.toList[s.toList.length - 1 - k] = '.' := by
      rw [← List.getElem_reverse (by simpa using hk)]
      exact hdot
    apply String.toList_inj.1
    simp only [ColumnRef.qualified, ColumnRef.name, String.toList_append, String.toList_ofList]
    rw [show ".".toList = [s.toList[s.toList.length - 1 - k]] by rw [hget]; rfl,
      List.append_assoc, List.singleton_append, List.getElem_cons_drop,
      List.take_append_drop]
  · rfl

namespace Schema

theorem indexOf_entry {s : Schema} {n : String} {i : Nat} (h : s.indexOf n = some i) :
    ∃ e, s.columnName? i = some e ∧ s.indexOf e = some i := by
  unfold indexOf at h
  split at h
  · next j hj =>
    cases h
    obtain ⟨hi, he, -⟩ := List.findIdx?_eq_some_iff_getElem.1 hj
    refine ⟨n, by simpa [columnName?, List.getElem?_eq_getElem hi] using he, ?_⟩
    simp [indexOf, hj]
  · next hnone =>
    obtain ⟨hi, hend, hfirst⟩ := List.findIdx?_eq_some_iff_getElem.1 h
    refine ⟨s.columns[i], by simp [columnName?, List.getElem?_eq_getElem hi], ?_⟩
    -- an earlier entry equal to this one would have matched the name first
    have hexact : s.columns.findIdx? (· == s.columns[i]) = some i :=
      List.findIdx?_eq_some_iff_getElem.2 ⟨hi, by simp, fun j hj he =>
        hfirst j hj (by rw [show s.columns[j] = s.columns[i] by simpa using he]; exact hend)⟩
    simp [indexOf, hexact]

theorem indexOf_getElem {s : Schema} (h : s.columns.Nodup) {i : Nat} (hi : i < s.columns.length) :
    s.indexOf s.columns[i] = some i := by
  have hexact : s.columns.findIdx? (· == s.columns[i]) = some i :=
    List.findIdx?_eq_some_iff_getElem.2 ⟨hi, by simp, fun j hj he =>
      List.pairwise_iff_getElem.1 h j i _ hi hj (by simpa using he)⟩
  simp [indexOf, hexact]

theorem positions_columns {s : Schema} (h : s.columns.Nodup) :
    s.positions s.columns = .ok (List.range s.size) := by
  unfold positions
  rw [mapM_eq_ok_of_forall (g := fun n => (s.indexOf n).getD 0)]
  · refine congrArg Except.ok (List.ext_getElem (by simp [size]) fun i hi _ => ?_)
    simp [indexOf_getElem h (by simpa using hi)]
  · intro n hn
    obtain ⟨i, hi, rfl⟩ := List.getElem_of_mem hn
    simp [indexOf_getElem h hi]; rfl

end Schema

theorem Tuple.mapM_valueAt_range {t : Tuple} {n : Nat} (h : t.arity = n) :
    (List.range n).mapM t.valueAt = .ok t.values := by
  rw [mapM_eq_ok_of_forall (g := fun p => t.values[p]?.getD 0)
    fun p hp => Tuple.valueAt_of_lt (by simpa [h] using hp)]
  have hlen : t.values.length = n := h
  refine congrArg Except.ok (List.ext_getElem (by simp [hlen]) fun i hi _ => ?_)
  simp only [List.length_map, List.length_range] at hi
  simp [List.getElem?_eq_getElem (hlen ▸ hi : i < t.values.length)]

/-! ## The streams of a sort, a projection and a duplicate filter -/

namespace Trace

/-- The tuple of a tuple's values at the slots, when every slot holds one. -/
def pick (slots : List Slot) (t : Tuple) : Tuple := ⟨(slots.mapM (Slot.valueIn t)).toOption.getD []⟩

theorem project_of_ok {slots : List Slot} :
    ∀ {ts : List Tuple} (s : Option ExecError),
      (∀ t ∈ ts, ∃ vs, slots.mapM (Slot.valueIn t) = .ok vs) →
        project slots ts s = ⟨ts.map (pick slots), s⟩
  | [], _, _ => rfl
  | t :: ts, s, h => by
    obtain ⟨vs, hvs⟩ := h t List.mem_cons_self
    rw [project, hvs, project_of_ok s fun t' ht' => h t' (List.mem_cons_of_mem t ht')]
    simp [cons, pick, hvs, Except.toOption]

theorem ok_of_project {slots : List Slot} :
    ∀ {ts : List Tuple} {s : Option ExecError}, (project slots ts s).stop = none →
      s = none ∧ ∀ t ∈ ts, ∃ vs, slots.mapM (Slot.valueIn t) = .ok vs
  | [], _, h => ⟨h, by simp⟩
  | t :: ts, s, h => by
    unfold project at h
    split at h
    · next vs hvs =>
      obtain ⟨hs, hall⟩ := ok_of_project (by simpa [cons] using h)
      exact ⟨hs, List.forall_mem_cons.2 ⟨⟨vs, hvs⟩, hall⟩⟩
    · simp [fail] at h

theorem dedup_eq_eraseDups {ks : List Nat} :
    ∀ {ts : List Tuple} (seen : List Tuple), (∀ t ∈ ts, ks.mapM t.valueAt = .ok t.values) →
      dedup ks (seen.map Tuple.values) ts none = ⟨(ts.filter (· ∉ seen)).eraseDups, none⟩
  | [], _, _ => by simp [dedup]
  | t :: ts, seen, h => by
    have ih := fun seen' => dedup_eq_eraseDups seen' fun t' ht' => h t' (List.mem_cons_of_mem t ht')
    have hmem : (seen.map Tuple.values).contains t.values = decide (t ∈ seen) := by
      have : ∀ u : Tuple, u.values = t.values ↔ u = t := fun u => by
        cases u; cases t; simp
      simp [this]
    rw [dedup, h t List.mem_cons_self]
    dsimp only
    rw [hmem]
    by_cases ht : t ∈ seen
    · simp [ht, ih]
    · rw [decide_eq_false ht, if_neg (by simp),
        show seen.map Tuple.values ++ [t.values] = (seen ++ [t]).map Tuple.values by simp, ih]
      -- the new tuple joins what was seen, so the rest is filtered of it too
      have hfilter : ts.filter (· ∉ seen ++ [t]) = (ts.filter (· ∉ seen)).filter fun u => !u == t := by
        rw [List.filter_filter]
        congr 1
        funext u
        by_cases hu : u = t <;> simp [hu]
      rw [List.filter_cons_of_pos (p := fun x => decide (x ∉ seen)) (by simpa using ht),
        List.eraseDups_cons, ← hfilter]
      rfl

theorem lag_of_stop (t : Tuple) : ∀ us : List Tuple, lag t us none = ⟨t :: us, none⟩
  | [] => rfl
  | u :: us => by rw [lag, lag_of_stop u us]; rfl

theorem primedDedup_of_dedup {ks : List Nat} {C : Trace} {us : List Tuple}
    (h : dedup ks [] C.tuples C.stop = ⟨us, none⟩) : primedDedup ks C = .ok ⟨us, none⟩ := by
  unfold primedDedup
  rw [h]
  cases us with
  | nil => rfl
  | cons u us => simp [held, lag_of_stop, Except.map]

end Trace

/-! ## The planner's last stages -/

/-- The sort keys of ORDER BY items over a tuple layout `s`: the position each name resolves
to, and whether the key is ascending. -/
def Schema.sortKeys (s : Schema) (items : List OrderItem) : List SortKey :=
  items.map fun k => ⟨(s.indexOf k.column.name).getD 0, k.direction = .asc⟩

namespace Planner

theorem finish_unordered (q : Query) (J : PlanNode) :
    finish { q with orderBy := [] } J = grouped q J >>= fun A =>
      projected q A >>= fun P => pure (deduplicated q P) := by
  rw [finish_eq]
  congr 1
  funext A
  rcases hp : q.projection with _ | targets <;> simp [hp, projected, ordered, deduplicated]

theorem finish_plain (q : Query) (J : PlanNode) :
    finish { q with distinct := false, orderBy := [] } J = grouped q J >>= projected q := by
  rw [finish_eq]
  congr 1
  funext A
  rcases hp : q.projection with _ | targets <;> simp [hp, projected, ordered, deduplicated]

theorem sort_eq_ok {keys : List OrderItem} {n m : PlanNode} (h : sort keys n = .ok m) :
    ∃ ks, m = .sort ks n.schema n ∧ n.schema.sortKeys ks = n.schema.sortKeys keys ∧
      ∀ k ∈ keys, (n.schema.indexOf k.column.name).isSome := by
  simp only [sort, bind_eq_ok, pure, Except.pure, Except.ok.injEq] at h
  obtain ⟨ks, hks, rfl⟩ := h
  refine ⟨ks, rfl, ?_⟩
  -- each key is written as the entry its name resolves to, which resolves to the same place
  induction keys generalizing ks with
  | nil =>
    cases hks
    simp [Schema.sortKeys]
  | cons k keys ih =>
    obtain ⟨item, hitem, ks', hks', rfl⟩ := mapM_cons_eq_ok.1 hks
    obtain ⟨hkeys, hall⟩ := ih ks' hks'
    obtain ⟨e, he, hitem⟩ := bind_eq_ok.1 hitem
    cases hitem
    unfold Schema.qualifiedName at he
    split at he
    · next e' hbind =>
      cases he
      obtain ⟨p, hp, hname⟩ := Option.bind_eq_some_iff.1 hbind
      obtain ⟨e'', hname', hentry⟩ := Schema.indexOf_entry hp
      rw [hname] at hname'
      cases hname'
      refine ⟨?_, List.forall_mem_cons.2 ⟨by simp [hp], hall⟩⟩
      simp only [Schema.sortKeys, List.map_cons] at hkeys ⊢
      rw [hkeys, ColumnRef.name_ofName, hentry, hp]
    · cases he

theorem project_eq_ok {targets : List SelectTarget} {n m : PlanNode} (h : project targets n = .ok m) :
    ∃ ts s, m = .project ts s n ∧ projectSchema n.schema targets = .ok s := by
  simp only [project, bind_eq_ok, pure, Except.pure, Except.ok.injEq] at h
  obtain ⟨s, hs, ts, -, rfl⟩ := h
  exact ⟨ts, s, rfl, hs⟩

theorem project_withInput {targets : List SelectTarget} {n₁ n₂ : PlanNode} {ts : List SelectTarget}
    {s : Schema} (hs : n₁.schema = n₂.schema) (h : project targets n₁ = .ok (.project ts s n₁)) :
    project targets n₂ = .ok (.project ts s n₂) := by
  simp only [project, bind_eq_ok, pure, Except.pure, Except.ok.injEq] at h ⊢
  obtain ⟨s', hs', ts', hts', h⟩ := h
  cases h
  rw [← hs]
  exact ⟨s, hs', ts, hts', rfl⟩

/-- A query plans to the sort over its plan without ORDER BY, or, when some key is projected
away, to its projection over the sort of what is below the projection. -/
theorem finish_ordered {q : Query} {J root : PlanNode} (h : finish q J = .ok root) :
    (∃ root₁, finish { q with orderBy := [] } J = .ok root₁ ∧ ordered q root₁ = .ok root) ∨
      ∃ A ks ts s, root = deduplicated q (.project ts s (.sort ks A.schema A)) ∧
        finish { q with orderBy := [] } J = .ok (deduplicated q (.project ts s A)) ∧
        finish { q with distinct := false, orderBy := [] } J = .ok (.project ts s A) ∧
        ∃ k ∈ q.orderBy, s.indexOf k.column.name = none := by
  rw [finish_eq] at h
  obtain ⟨A, hA, h⟩ := bind_eq_ok.1 h
  have hunordered : ∀ P, projected q A = .ok P →
      finish { q with orderBy := [] } J = .ok (deduplicated q P) ∧
        finish { q with distinct := false, orderBy := [] } J = .ok P := fun P hP => by
    rw [finish_unordered, finish_plain, hA]
    simp only [bind, Except.bind, hP, pure, Except.pure, and_self]
  rcases hp : q.projection with _ | targets
  · -- with `*` the sort is over the duplicate filter
    rw [hp] at h hunordered
    exact .inl ⟨_, (hunordered A (by simp only [projected, hp]; rfl)).1, h⟩
  rw [hp] at h hunordered
  dsimp only at h
  by_cases he : q.orderBy.isEmpty
  · rw [if_pos he] at h
    obtain ⟨P, hP, h⟩ := bind_eq_ok.1 h
    exact .inl ⟨_, (hunordered P (by simp [projected, hp, hP])).1, by simpa [ordered, he] using h⟩
  rw [if_neg he] at h
  obtain ⟨names, hnames, h⟩ := bind_eq_ok.1 h
  split at h
  · next hnot =>
    -- a key is projected away: the sort goes below the projection
    obtain ⟨S, hS, h⟩ := bind_eq_ok.1 h
    obtain ⟨P, hP, h⟩ := bind_eq_ok.1 h
    obtain ⟨ts, s, rfl, hs⟩ := project_eq_ok hP
    obtain ⟨ks, rfl, -, -⟩ := sort_eq_ok hS
    rw [PlanNode.schema, hnames, Except.ok.injEq] at hs
    subst hs
    have hP₀ : project targets A = .ok (.project ts names A) := project_withInput (by rfl) hP
    obtain ⟨h₁, h₂⟩ := hunordered (.project ts names A) (by simp [projected, hp, hP₀])
    exact .inr ⟨A, ks, ts, names, (Except.ok.inj h).symm, h₁, h₂,
      by simpa [Schema.hasColumn] using hnot⟩
  · obtain ⟨P, hP, h⟩ := bind_eq_ok.1 h
    exact .inl ⟨_, (hunordered P (by simp [projected, hp, hP])).1, by simpa [ordered, he] using h⟩

@[simp] theorem schema_deduplicated (q : Query) (n : PlanNode) :
    (deduplicated q n).schema = n.schema := by
  unfold deduplicated
  split <;> rfl

theorem finish_unordered_eq {q : Query} {J root₁ root₂ : PlanNode}
    (h₁ : finish { q with orderBy := [] } J = .ok root₁)
    (h₂ : finish { q with distinct := false, orderBy := [] } J = .ok root₂) :
    root₁ = deduplicated q root₂ := by
  rw [finish_unordered] at h₁
  rw [finish_plain] at h₂
  obtain ⟨A, hA, h₁⟩ := bind_eq_ok.1 h₁
  obtain ⟨A', hA', h₂⟩ := bind_eq_ok.1 h₂
  rw [hA, Except.ok.injEq] at hA'
  subst hA'
  obtain ⟨P, hP, h₁⟩ := bind_eq_ok.1 h₁
  rw [hP, Except.ok.injEq] at h₂
  subst h₂
  exact (Except.ok.inj h₁).symm

end Planner

/-! ## Running the last stages -/

/-- The values a row takes on ORDER BY items, each read by name through the schema and
negated for a descending item. -/
def Schema.orderValues (s : Schema) (items : List OrderItem) (t : Tuple) : List Int :=
  items.map fun k => if k.direction = .asc then s.valuation t k.column else -s.valuation t k.column

theorem Schema.orderValues_eq {s : Schema} {items : List OrderItem}
    (h : ∀ k ∈ items, (s.indexOf k.column.name).isSome) (t : Tuple) :
    s.orderValues items t = (s.sortKeys items).map (·.valueOn t) := by
  simp only [orderValues, sortKeys, List.map_map]
  refine List.map_congr_left fun k hk => ?_
  obtain ⟨p, hp⟩ := Option.isSome_iff_exists.1 (h k hk)
  simp [valuation, lookup, hp, SortKey.valueOn]

theorem Operator.projectOf_same_slots {c₁ c₂ op₁ op₂ : Operator} {s : Schema}
    {ts : List SelectTarget} (h₁ : projectOf c₁ s ts = .ok op₁) (h₂ : projectOf c₂ s ts = .ok op₂) :
    ∃ slots sch, op₁ = .project c₁ slots sch ∧ op₂ = .project c₂ slots sch := by
  simp only [projectOf, bind_eq_ok, pure, Except.pure, Except.ok.injEq] at h₁ h₂
  obtain ⟨p₁, hp₁, rfl⟩ := h₁
  obtain ⟨p₂, hp₂, rfl⟩ := h₂
  rw [hp₁, Except.ok.injEq] at hp₂
  subst hp₂
  exact ⟨_, _, rfl, rfl⟩

namespace Catalog

/-- The plan node `n` runs to the rows `us`: its pipeline builds, and its stream answers `us`
and ends. -/
def Runs (c : Catalog) (files : FileTree) (n : PlanNode) (us : List Tuple) : Prop :=
  ∃ op, c.build files n = .ok op ∧ op.rest = ⟨us, none⟩

variable {files : FileTree} {c : Catalog}

theorem Runs.unique {n : PlanNode} {us vs : List Tuple} (h₁ : c.Runs files n us)
    (h₂ : c.Runs files n vs) : us = vs := by
  obtain ⟨op, hb₁, hr₁⟩ := h₁
  obtain ⟨op', hb₂, hr₂⟩ := h₂
  rw [hb₁, Except.ok.injEq] at hb₂
  subst hb₂
  rw [hr₁, Trace.mk.injEq] at hr₂
  exact hr₂.1

/-- The rows a sized node runs to are as wide as its schema. -/
theorem Runs.wide (hw : ∀ name d, c.table? name = some d → d.Wide files) {n : PlanNode}
    {us : List Tuple} (hn : n.Sized c) (h : c.Runs files n us) : ∀ t ∈ us, t.arity = n.schema.size := by
  obtain ⟨op, hb, hrest⟩ := h
  have hwide := wide_build hw hn hb
  rwa [hrest] at hwide

/-- A run succeeds exactly when its plan's tree runs to rows, and it answers them under the
tree's schema. -/
theorem execute_eq_ok_iff {P : Plan} {R : QueryResult} :
    (c.execute files P).2 = .ok R ↔ c.Runs files P.root R.tuples ∧ R.schema = P.root.schema := by
  rw [execute_eq]
  constructor
  · intro h
    cases hb : c.build files P.root with
    | error e => simp [hb, Except.map, Except.bind] at h
    | ok op =>
      rcases hT : op.rest with ⟨us, _ | e⟩
      · simp only [hb, hT, Except.map, Except.bind, Trace.result, Except.ok.injEq] at h
        subst h
        exact ⟨⟨op, hb, hT⟩, rfl⟩
      · simp [hb, hT, Except.map, Except.bind, Trace.result] at h
  · rintro ⟨⟨op, hb, hT⟩, hs⟩
    simp only [hb, hT, Except.map, Except.bind, Trace.result, Plan.outputSchema, ← hs]

theorem build_sort {items : List OrderItem} {s : Schema} {n : PlanNode} {op : Operator}
    (h : c.build files (.sort items s n) = .ok op) :
    ∃ vs, c.Runs files n vs ∧ (∀ t ∈ vs, ∀ k ∈ n.schema.sortKeys items, k.column < t.arity) ∧
      op.rest = ⟨vs.mergeSort fun a b =>
        Operator.SortKey.compareAll (n.schema.sortKeys items) a b != .gt, none⟩ := by
  rw [Catalog.build] at h
  obtain ⟨keys, hkeys, h⟩ := bind_eq_ok.1 h
  obtain ⟨child, hchild, h⟩ := bind_eq_ok.1 h
  have hkeys : keys = n.schema.sortKeys items := eq_map_of_mapM_eq_ok (fun item k hk => by
    split at hk
    · next p hp =>
      cases hk
      simp [hp]
    · cases hk) hkeys
  subst hkeys
  simp only [Operator.sortOf, Operator.collectFrom_fresh (Catalog.built hchild).fresh,
    bind_eq_ok] at h
  obtain ⟨ts, hts, h⟩ := h
  obtain ⟨hstop, rfl, hall⟩ := Trace.collected_eq_ok hts
  cases h
  exact ⟨child.rest.tuples, ⟨child, hchild, by rw [← hstop]⟩, hall, by simp [Operator.rest]⟩

theorem Runs.of_sort {items : List OrderItem} {s : Schema} {n : PlanNode} {us : List Tuple}
    (h : c.Runs files (.sort items s n) us) :
    ∃ vs, c.Runs files n vs ∧ (∀ t ∈ vs, ∀ k ∈ n.schema.sortKeys items, k.column < t.arity) ∧
      us = vs.mergeSort fun a b =>
        Operator.SortKey.compareAll (n.schema.sortKeys items) a b != .gt := by
  obtain ⟨op, hb, hrest⟩ := h
  obtain ⟨vs, hvs, hwide, hsorted⟩ := build_sort hb
  rw [hrest, Trace.mk.injEq] at hsorted
  exact ⟨vs, hvs, hwide, hsorted.1⟩

theorem runs_project_sort {ts : List SelectTarget} {s : Schema} {A : PlanNode} {ks : List OrderItem}
    {op : Operator} {vs : List Tuple} (hA : c.Runs files (.project ts s A) vs)
    (h : c.build files (.project ts s (.sort ks A.schema A)) = .ok op) :
    ∃ us, c.Runs files (.project ts s (.sort ks A.schema A)) us ∧ us.Perm vs := by
  obtain ⟨opA, hbA, hrA⟩ := hA
  rw [Catalog.build] at h hbA
  obtain ⟨sorted, hsorted, h⟩ := bind_eq_ok.1 h
  obtain ⟨childA, hchildA, hbA⟩ := bind_eq_ok.1 hbA
  obtain ⟨ws, ⟨child, hchild, hrest⟩, -, hsortedRest⟩ := build_sort hsorted
  rw [hchild, Except.ok.injEq] at hchildA
  subst hchildA
  obtain ⟨slots, sch, rfl, rfl⟩ := Operator.projectOf_same_slots h hbA
  -- the projection succeeds on every input row, as it does in the unsorted order
  simp only [Operator.rest, hrest] at hrA
  obtain ⟨-, hslots⟩ := Trace.ok_of_project (by rw [hrA])
  have hperm := List.mergeSort_perm ws fun a b =>
    Operator.SortKey.compareAll (A.schema.sortKeys ks) a b != .gt
  rw [Trace.project_of_ok none hslots, Trace.mk.injEq] at hrA
  refine ⟨_, ⟨_, by rw [Catalog.build]; exact bind_eq_ok.2 ⟨sorted, hsorted, h⟩, ?_⟩,
    hrA.1 ▸ hperm.map _⟩
  simp only [Operator.rest, hsortedRest]
  exact Trace.project_of_ok none fun t ht => hslots t (hperm.mem_iff.1 ht)

/-- A duplicate filter on all the columns of its input, of distinct names, over rows as wide
as its input's schema, runs to each row once, in order of first occurrence. -/
theorem runs_distinct {n : PlanNode} {vs : List Tuple} (hn : c.Runs files n vs)
    (hs : n.schema.columns.Nodup) (hw : ∀ t ∈ vs, t.arity = n.schema.size) :
    c.Runs files (.distinct n.schema.columns n.schema n) vs.eraseDups := by
  obtain ⟨child, hchild, hrest⟩ := hn
  have hkeys : ∀ t ∈ vs, (List.range n.schema.size).mapM t.valueAt = .ok t.values :=
    fun t ht => Tuple.mapM_valueAt_range (hw t ht)
  have hdedup : Trace.dedup (List.range n.schema.size) [] vs none = ⟨vs.eraseDups, none⟩ := by
    simpa using Trace.dedup_eq_eraseDups [] hkeys
  have hprimed : Trace.primedDedup (List.range n.schema.size) ⟨vs, none⟩ =
      .ok ⟨vs.eraseDups, none⟩ := Trace.primedDedup_of_dedup hdedup
  have hd := Operator.rest_distinctOf (Catalog.built hchild).fresh n.schema n.schema.columns
  rw [Schema.positions_columns hs, hrest] at hd
  simp only [Except.bind, hprimed] at hd
  cases hop : Operator.distinctOf child n.schema n.schema.columns with
  | error e => simp [hop, Except.map] at hd
  | ok op =>
    simp only [hop, Except.map, Except.ok.injEq] at hd
    exact ⟨op, by rw [Catalog.build]; exact bind_eq_ok.2 ⟨child, hchild, hop⟩, hd⟩

end Catalog

theorem Catalog.plan_share_joined {c : Catalog} {q : Query} {l l₁ l₂ : List LogRecord}
    {P P₁ P₂ : Plan} (hP : c.plan q = (l, .ok P))
    (hP₁ : c.plan { q with orderBy := [] } = (l₁, .ok P₁))
    (hP₂ : c.plan { q with distinct := false, orderBy := [] } = (l₂, .ok P₂)) :
    ∃ J, Planner.finish q J = .ok P.root ∧
      Planner.finish { q with orderBy := [] } J = .ok P₁.root ∧
      Planner.finish { q with distinct := false, orderBy := [] } J = .ok P₂.root := by
  obtain ⟨t, ts, cs, ht, hcs, hf, -⟩ := plan_eq_joined hP
  obtain ⟨t₁, ts₁, cs₁, ht₁, hcs₁, hf₁, -⟩ := plan_eq_joined hP₁
  obtain ⟨t₂, ts₂, cs₂, ht₂, hcs₂, hf₂, -⟩ := plan_eq_joined hP₂
  -- the three queries read the same tables under the same WHERE clause
  dsimp only at ht₁ ht₂ hcs₁ hcs₂
  rw [ht, Except.ok.injEq, List.cons.injEq] at ht₁ ht₂
  obtain ⟨rfl, rfl⟩ := ht₁
  obtain ⟨rfl, rfl⟩ := ht₂
  rw [hcs, Except.ok.injEq] at hcs₁ hcs₂
  subst hcs₁ hcs₂
  exact ⟨_, hf, hf₁, hf₂⟩

/-! ## The three laws -/

namespace Catalog

variable {files : FileTree} {c : Catalog} {q : Query} {J root root₁ root₂ : PlanNode}
  {us us₁ us₂ : List Tuple}

/-- Without ORDER BY, a DISTINCT query runs to the rows of its plain form, each once, in
order of first occurrence. -/
theorem runs_unordered_eraseDups (hd : q.distinct)
    (hf₁ : Planner.finish { q with orderBy := [] } J = .ok root₁)
    (hf₂ : Planner.finish { q with distinct := false, orderBy := [] } J = .ok root₂)
    (hR₁ : c.Runs files root₁ us₁) (hR₂ : c.Runs files root₂ us₂)
    (hs : root₂.schema.columns.Nodup) (hw : ∀ t ∈ us₂, t.arity = root₂.schema.size) :
    us₁ = us₂.eraseDups := by
  have hroot := Planner.finish_unordered_eq hf₁ hf₂
  simp only [Planner.deduplicated, hd, if_true] at hroot
  subst hroot
  exact hR₁.unique (runs_distinct hR₂ hs hw)

/-- ORDER BY only reorders the rows of the query without it. -/
theorem runs_ordered_perm (hf : Planner.finish q J = .ok root)
    (hf₁ : Planner.finish { q with orderBy := [] } J = .ok root₁)
    (hf₂ : Planner.finish { q with distinct := false, orderBy := [] } J = .ok root₂)
    (hR : c.Runs files root us) (hR₁ : c.Runs files root₁ us₁) (hR₂ : c.Runs files root₂ us₂)
    (hdistinct : q.distinct → root₂.schema.columns.Nodup ∧ ∀ t ∈ us₂, t.arity = root₂.schema.size) :
    us.Perm us₁ := by
  rcases Planner.finish_ordered hf with ⟨root₁', hf₁', hord⟩ | ⟨A, ks, ts, s, rfl, hf₁', hf₂', -⟩
  · -- the sort, if any, is on top
    rw [hf₁, Except.ok.injEq] at hf₁'
    subst hf₁'
    unfold Planner.ordered at hord
    split at hord
    · cases hord
      rw [hR.unique hR₁]
    · obtain ⟨ks, rfl, -, -⟩ := Planner.sort_eq_ok hord
      obtain ⟨vs, hvs, -, rfl⟩ := hR.of_sort
      rw [hvs.unique hR₁]
      exact List.mergeSort_perm _ _
  · -- the sort is below the projection
    rw [hf₁, Except.ok.injEq] at hf₁'
    rw [hf₂, Except.ok.injEq] at hf₂'
    subst hf₁' hf₂'
    obtain ⟨op, hb, hrest⟩ := hR
    have hproj : ∃ op', c.build files (.project ts s (.sort ks A.schema A)) = .ok op' := by
      unfold Planner.deduplicated at hb
      split at hb
      · rw [Catalog.build] at hb
        obtain ⟨op', hop', -⟩ := bind_eq_ok.1 hb
        exact ⟨op', hop'⟩
      · exact ⟨op, hb⟩
    obtain ⟨op', hop'⟩ := hproj
    obtain ⟨vs, hvs, hperm⟩ := runs_project_sort hR₂ hop'
    by_cases hd : q.distinct
    · -- both sides filter duplicates on all the output columns
      obtain ⟨hs, hw⟩ := hdistinct hd
      simp only [Planner.deduplicated, hd, if_true] at hR₁ hb
      have hw' : ∀ t ∈ vs, t.arity = s.size := fun t ht => hw t (hperm.mem_iff.1 ht)
      rw [(show c.Runs files _ us from ⟨op, hb, hrest⟩).unique (runs_distinct hvs hs hw'),
        hR₁.unique (runs_distinct hR₂ hs hw)]
      exact perm_eraseDups hperm
    · simp only [Planner.deduplicated, hd] at hR₁ hb
      rw [(show c.Runs files _ us from ⟨op, hb, hrest⟩).unique hvs, hR₁.unique hR₂]
      exact hperm

/-- Where every key names an output column, the rows of a query come in the order of their
ORDER BY values. -/
theorem runs_ordered_sorted (hf : Planner.finish q J = .ok root) (hR : c.Runs files root us)
    (hk : ∀ k ∈ q.orderBy, (root.schema.indexOf k.column.name).isSome) :
    us.Pairwise fun a b =>
      root.schema.orderValues q.orderBy a ≤ root.schema.orderValues q.orderBy b := by
  rcases Planner.finish_ordered hf with ⟨root₁, -, hord⟩ | ⟨A, ks, ts, s, rfl, -, -, k, hk', hnone⟩
  · unfold Planner.ordered at hord
    split at hord
    · next he =>
      -- without keys every row has no ORDER BY values
      rw [List.isEmpty_iff.1 he]
      exact List.pairwise_of_forall fun _ _ => le_rfl
    · obtain ⟨ks, rfl, hkeys, -⟩ := Planner.sort_eq_ok hord
      obtain ⟨vs, -, hwide, rfl⟩ := hR.of_sort
      have hschema : (PlanNode.sort ks root₁.schema root₁).schema = root₁.schema := rfl
      rw [hschema] at hk ⊢
      simp only [Schema.orderValues_eq hk]
      rw [← hkeys]
      exact SortKey.pairwise_mergeSort hwide
  · -- a key projected away does not name an output column
    have hresolved := hk k hk'
    rw [Planner.schema_deduplicated, PlanNode.schema, hnone] at hresolved
    cases hresolved

end Catalog

/-- Over the same catalog and data, ORDER BY only reorders the rows of a query, and DISTINCT
only keeps the first of each repeated row, when every non-blank line of a data file has one
field per column of its table and the output columns have distinct names; the rows come in
the order of their ORDER BY values when every key names an output column. -/
theorem orderBy_reorders_distinct_dedups {c : Catalog} {files : FileTree} {q : Query}
    {l l₁ l₂ : List LogRecord} {P P₁ P₂ : Plan} {R R₁ R₂ : QueryResult}
    (hwide : ∀ name d, c.table? name = some d → d.Wide files)
    (hP : c.plan q = (l, .ok P)) (hP₁ : c.plan { q with orderBy := [] } = (l₁, .ok P₁))
    (hP₂ : c.plan { q with distinct := false, orderBy := [] } = (l₂, .ok P₂))
    (hR : (c.execute files P).2 = .ok R) (hR₁ : (c.execute files P₁).2 = .ok R₁)
    (hR₂ : (c.execute files P₂).2 = .ok R₂) (hdistinct : q.distinct → R₂.schema.columns.Nodup) :
    R.tuples.Perm R₁.tuples ∧ (q.distinct → R₁.tuples = R₂.tuples.eraseDups) ∧
      ((∀ k ∈ q.orderBy, (R.schema.indexOf k.column.name).isSome) →
        R.tuples.Pairwise fun a b =>
          R.schema.orderValues q.orderBy a ≤ R.schema.orderValues q.orderBy b) := by
  obtain ⟨J, hf, hf₁, hf₂⟩ := Catalog.plan_share_joined hP hP₁ hP₂
  obtain ⟨hrun, hs⟩ := Catalog.execute_eq_ok_iff.1 hR
  obtain ⟨hrun₁, -⟩ := Catalog.execute_eq_ok_iff.1 hR₁
  obtain ⟨hrun₂, hs₂⟩ := Catalog.execute_eq_ok_iff.1 hR₂
  -- the rows without DISTINCT and ORDER BY are as wide as their plan's schema
  have hw₂ : ∀ t ∈ R₂.tuples, t.arity = R₂.schema.size := by
    rw [hs₂]
    exact hrun₂.wide hwide (Catalog.sized_plan hP₂)
  rw [hs₂] at hdistinct hw₂
  refine ⟨Catalog.runs_ordered_perm hf hf₁ hf₂ hrun hrun₁ hrun₂ fun hd => ⟨hdistinct hd, hw₂⟩,
    fun hd => Catalog.runs_unordered_eraseDups hd hf₁ hf₂ hrun₁ hrun₂ (hdistinct hd) hw₂, ?_⟩
  rw [hs]
  exact Catalog.runs_ordered_sorted hf hrun

/-- One table `R (A)`, its data file at `R`. -/
def repeatedCatalog : Catalog where
  dataDir := ""
  registry := [⟨"R", ["A"], "R"⟩]
  order := ["R"]

/-- `R` holds the rows 1, 1 and 2. -/
def repeatedFiles : FileTree := ⟨[(["R"], .file [49, 10, 49, 10, 50, 10])]⟩

/-- `SELECT DISTINCT * FROM R`. -/
def distinctAll : Query where
  tables := [⟨"R", none⟩]
  distinct := true

/-- The scan of `R`, with its column qualified. -/
def scanAllPlan : Plan := ⟨.scan "R" "R" ⟨["R.A"]⟩, []⟩

/-- The plan of `distinctAll`: a duplicate filter over the scan of `R`. -/
def distinctAllPlan : Plan := ⟨.distinct ["R.A"] ⟨["R.A"]⟩ scanAllPlan.root, []⟩

theorem repeatedFiles_lookup :
    repeatedFiles.lookup (FileTree.parts "R") = .ok (.file [49, 10, 49, 10, 50, 10]) := by
  -- the path has no separator in it
  rw [FileTree.parts, String.splitOn_eq_singleton "R" rfl (by decide)]
  rfl

theorem repeatedFiles_lines :
    LineSource.fileLines [49, 10, 49, 10, 50, 10] = [.ok "1", .ok "1", .ok "2"] := rfl

theorem repeatedFiles_one_field : ∀ s ∈ ["1", "2"], s.splitOn "," = [s] := by
  intro s hs
  simp only [List.mem_cons, List.mem_nil_iff, or_false] at hs
  rcases hs with rfl | rfl <;> exact String.splitOn_eq_singleton _ rfl (by decide)

theorem repeatedCatalog_wide :
    ∀ name d, repeatedCatalog.table? name = some d → d.Wide repeatedFiles := by
  intro name d hd bytes hbytes text htext _
  obtain rfl : d = ⟨"R", ["A"], "R"⟩ := by
    simpa [repeatedCatalog] using List.mem_of_find?_eq_some hd
  rw [repeatedFiles_lookup, Except.ok.injEq, FileNode.file.injEq] at hbytes
  subst hbytes
  rw [repeatedFiles_lines] at htext
  have hone : text ∈ ["1", "2"] := by
    simp only [List.mem_cons, Except.ok.injEq, List.mem_nil_iff, or_false] at htext ⊢
    tauto
  rw [repeatedFiles_one_field text hone]
  rfl

theorem repeatedFiles_runs_scan :
    repeatedCatalog.Runs repeatedFiles scanAllPlan.root [⟨[1]⟩, ⟨[1]⟩, ⟨[2]⟩] := by
  have hopen : LineSource.openFile repeatedFiles "R" =
      .ok (.lines [.ok "1", .ok "1", .ok "2"] [.ok "1", .ok "1", .ok "2"]) := by
    unfold LineSource.openFile
    rw [repeatedFiles_lookup]
    rfl
  have hrow₁ : ∀ n, parseRow "R" n "1" = .ok ⟨[1]⟩ := fun n => by
    rw [parseRow_of_fields (by rw [repeatedFiles_one_field "1" (by simp)]; decide), repeatedFiles_one_field "1" (by simp)]
    decide
  have hrow₂ : ∀ n, parseRow "R" n "2" = .ok ⟨[2]⟩ := fun n => by
    rw [parseRow_of_fields (by rw [repeatedFiles_one_field "2" (by simp)]; decide), repeatedFiles_one_field "2" (by simp)]
    decide
  have htrace : (LineSource.lines [.ok "1", .ok "1", .ok "2"] [.ok "1", .ok "1", .ok "2"]).trace "R" 0 =
      ⟨[⟨[1]⟩, ⟨[1]⟩, ⟨[2]⟩], none⟩ := by
    simp only [LineSource.trace, Trace.scanLines, hrow₁, hrow₂]
    decide
  have hreads : repeatedCatalog.ReadsRows repeatedFiles "R" 1 :=
    ⟨_, _, rfl, hopen, by rw [htrace], by rw [htrace]; decide⟩
  obtain ⟨op, hop, hrest⟩ : ∃ op, repeatedCatalog.build repeatedFiles scanAllPlan.root = .ok op ∧
      op.rest = ⟨repeatedCatalog.tableRows repeatedFiles "R", none⟩ := hreads.build
  refine ⟨op, hop, ?_⟩
  rw [hrest, Catalog.tableRows, show repeatedCatalog.table? "R" = some ⟨"R", ["A"], "R"⟩ from rfl]
  simp only [hopen, htrace]

/-- `SELECT DISTINCT * FROM R`, over `R` holding 1, 1 and 2, plans to a duplicate filter over
the scan of `R` and answers 1 and 2: the rows of `SELECT * FROM R`, each once. -/
theorem distinctAll_keeps_first_rows :
    repeatedCatalog.plan distinctAll = ((repeatedCatalog.plan distinctAll).1, .ok distinctAllPlan) ∧
      (repeatedCatalog.execute repeatedFiles distinctAllPlan).2 = .ok ⟨⟨["R.A"]⟩, [⟨[1]⟩, ⟨[2]⟩]⟩ ∧
      (repeatedCatalog.execute repeatedFiles scanAllPlan).2 =
        .ok ⟨⟨["R.A"]⟩, [⟨[1]⟩, ⟨[1]⟩, ⟨[2]⟩]⟩ ∧
      [⟨[1]⟩, ⟨[2]⟩] = ([⟨[1]⟩, ⟨[1]⟩, ⟨[2]⟩] : List Tuple).eraseDups := by
  have hP : repeatedCatalog.plan distinctAll =
      ((repeatedCatalog.plan distinctAll).1, .ok distinctAllPlan) :=
    Prod.ext rfl (eq_ok_of_toOption (by decide +kernel))
  have hP₂ : repeatedCatalog.plan { distinctAll with distinct := false, orderBy := [] } =
      ((repeatedCatalog.plan { distinctAll with distinct := false, orderBy := [] }).1,
        .ok scanAllPlan) :=
    Prod.ext rfl (eq_ok_of_toOption (by decide +kernel))
  have hR₂ : (repeatedCatalog.execute repeatedFiles scanAllPlan).2 =
      .ok ⟨⟨["R.A"]⟩, [⟨[1]⟩, ⟨[1]⟩, ⟨[2]⟩]⟩ :=
    Catalog.execute_eq_ok_iff.2 ⟨repeatedFiles_runs_scan, rfl⟩
  have hR : (repeatedCatalog.execute repeatedFiles distinctAllPlan).2 =
      .ok ⟨⟨["R.A"]⟩, [⟨[1]⟩, ⟨[2]⟩]⟩ :=
    Catalog.execute_eq_ok_iff.2 ⟨Catalog.runs_distinct repeatedFiles_runs_scan (by decide)
      (by decide), rfl⟩
  exact ⟨hP, hR, hR₂, (orderBy_reorders_distinct_dedups repeatedCatalog_wide hP hP hP₂ hR hR hR₂
    fun _ => by decide).2.1 rfl⟩

end CsvQuery
