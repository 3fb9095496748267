import CsvQuery.Proofs.Stream.Replay
import CsvQuery.Proofs.Text.Fields

/-!
# What the built operators answer

The operators that the constructors build start at the beginning of their streams
(`Operator.Built.fresh`); here each constructor's stream is read off its inputs' streams,
so that the answers of a whole pipeline follow from its leaves:

* draining a fresh operator answers its stream's tuples, or the error that stops it
  (`drainAll_of_fresh`);
* a selection filters its input's stream, a join primes and pairs its inputs' streams, a
  projection and a duplicate filter read their input's stream only (`rest_joinOf`,
  `rest_projectOf`, `rest_distinctOf`);
* an aggregate and a sort read their whole input while being built, by the folds
  `Trace.groupsFrom` and `Trace.collectFrom` over its stream (`groupFrom_at`,
  `collectFrom_at`).
-/

namespace CsvQuery

namespace Trace

/-- The tuples of a stream that ends, or the error that stops it. -/
def result (T : Trace) : Except ExecError (List Tuple) :=
  match T.stop with
  | none => .ok T.tuples
  | some e => .error e

/-- The groups an aggregate forms from a stream's tuples `ts`, ending as `stop`, after the
groups `groups`: the stream's error, or the first failure, is the error. -/
def grouped (keys : List Nat) (factors : List SumFactor) :
    List Tuple → Option ExecError → List (List Int × Int) → Except ExecError (List (List Int × Int))
  | [], none, groups => .ok groups
  | [], some e, _ => .error e
  | t :: ts, stop, groups => do
    let key ← keys.mapM t.valueAt
    let c ← Operator.SumFactor.productIn t factors
    let groups' ← Operator.addToGroup groups key c
    grouped keys factors ts stop groups'

/-- The tuples a sort collects from a stream's tuples `ts`, ending as `stop`: each must
hold every key column. -/
def collected (keys : List SortKey) : List Tuple → Option ExecError → Except ExecError (List Tuple)
  | [], none => .ok []
  | [], some e => .error e
  | t :: ts, stop =>
    match keys.find? (·.column ≥ t.arity) with
    | some key => .error (.sortColumnMissing key.column t.arity)
    | none => (t :: ·) <$> collected keys ts stop

theorem collected_eq_ok {keys : List SortKey} :
    ∀ {ts : List Tuple} {stop : Option ExecError} {us : List Tuple},
      collected keys ts stop = .ok us →
        stop = none ∧ us = ts ∧ ∀ t ∈ ts, ∀ k ∈ keys, k.column < t.arity
  | [], none, _, h => by cases h; simp
  | [], some _, _, h => by cases h
  | t :: ts, stop, us, h => by
    unfold collected at h
    split at h
    · cases h
    · next hfind =>
      obtain ⟨us', hus', rfl⟩ := map_eq_ok.1 h
      obtain ⟨hstop, rfl, hall⟩ := collected_eq_ok hus'
      refine ⟨hstop, rfl, List.forall_mem_cons.2 ⟨fun k hk => ?_, hall⟩⟩
      simpa using List.find?_eq_none.1 hfind k hk

end Trace

/-- The positions of names in a schema; the first name that does not resolve is the error. -/
def Schema.positions (s : Schema) (names : List String) : Except ExecError (List Nat) :=
  names.mapM fun n =>
    match s.indexOf n with
    | some p => pure p
    | none => throw (.columnNotFound n)

namespace Operator

/-! ## Draining -/

theorem drainFrom_at {s : Operator} {fuel : Nat} (hfuel : s.need ≤ fuel) :
    ∀ (k : Nat) (op : Operator) (T : Trace) (acc : List Tuple), At s op T →
      T.tuples.length < k → (drainFrom fuel k op acc).2 = (acc.reverse ++ T.tuples, T.stop)
  | 0, _, _, _, _, hk => absurd hk (Nat.not_lt_zero _)
  | k + 1, op, T, acc, hat, hk => by
    rcases ((follows s) op T hat fuel hfuel).1.cases with
      ⟨t, T', op', rfl, hnext, hat'⟩ | ⟨op', rfl, hnext, -⟩ | ⟨e, op', rfl, hnext⟩
    · rw [drainFrom, hnext]
      simp only at hk ⊢
      rw [drainFrom_at hfuel k op' T' (t :: acc) hat' (by simp [Trace.cons] at hk; omega)]
      simp [Trace.cons]
    · simp [drainFrom, hnext]
    · simp [drainFrom, hnext]

/-- Draining a fresh operator answers its stream. -/
theorem drainAll_of_fresh {op : Operator} (h : Fresh op) : op.drainAll = op.rest.result := by
  have hfuel := need_add_work_le_fuel op
  have hdrain : (drainFrom op.fuel op.fuel op []).2 = ([].reverse ++ op.rest.tuples, op.rest.stop) :=
    drainFrom_at (by omega) op.fuel op op.rest [] h.at (by have := h.at.length; omega)
  obtain ⟨op', hd⟩ : ∃ op', drainFrom op.fuel op.fuel op [] = (op', op.rest.tuples, op.rest.stop) :=
    ⟨_, Prod.ext rfl (by simpa using hdrain)⟩
  unfold drainAll drain
  rw [hd]
  unfold Trace.result
  cases op.rest.stop <;> rfl

/-! ## Selections and joins -/

theorem selectOf_eq_ok {c op : Operator} {p : Expr} {s : Schema} (h : selectOf c p s = .ok op) :
    ∃ b, Bound.bind s p = .ok b ∧ op = .select c b := by
  obtain ⟨b, hb, rfl⟩ := map_eq_ok.1 h
  exact ⟨b, hb, rfl⟩

/-- A join built over fresh inputs binds its conditions, then answers its inputs' streams
primed and paired; it fails as binding or priming fails. -/
theorem rest_joinOf {l r : Operator} (hl : Fresh l) (hr : Fresh r) (cs : List Expr) (s : Schema) :
    (joinOf l r cs s).map Operator.rest =
      (cs.mapM (Bound.bind s)).bind fun bs => Trace.primed bs l.rest r.rest := by
  unfold joinOf
  cases hbs : cs.mapM (Bound.bind s) with
  | error e => rfl
  | ok bs =>
    simp only [bind, Except.bind]
    obtain ⟨hres, hat⟩ := joinPrime_fresh hl hr bs s
    cases hp : joinPrime (Operator.join l r bs s none none).fuel l r bs s none none with
    | mk op' res =>
      rw [hp] at hres hat
      cases hT : Trace.primed bs l.rest r.rest with
      | error e =>
        rw [hT] at hres
        cases res with
        | error e' => cases hres; rfl
        | ok u => cases hres
      | ok T =>
        rw [hT] at hres
        cases res with
        | error e' => cases hres
        | ok u =>
          simp only [pure, Except.pure, Except.map]
          rw [(hat T hT).rest_eq]

/-! ## Operators over one input -/

theorem projectOf_eq_ok {c op : Operator} {s : Schema} {ts : List SelectTarget}
    (h : projectOf c s ts = .ok op) : ∃ slots sch, op = .project c slots sch := by
  simp only [projectOf, bind_eq_ok, pure, Except.pure, Except.ok.injEq] at h
  obtain ⟨_, _, rfl⟩ := h
  exact ⟨_, _, rfl⟩

theorem projectOf_congr {c₁ c₂ : Operator} (h : c₁.rest = c₂.rest) (s : Schema)
    (ts : List SelectTarget) :
    (projectOf c₁ s ts).map Operator.rest = (projectOf c₂ s ts).map Operator.rest := by
  unfold projectOf
  simp only [bind, Except.bind]
  split <;> simp [pure, Except.pure, Except.map, rest, h]

theorem distinctOf_eq (c : Operator) (s : Schema) (keys : List String) :
    distinctOf c s keys = (s.positions keys).bind fun ks =>
      match distinctAdvance c.fuel c ks [] with
      | ((c', seen), .ok ahead) => .ok (.distinct c' ks seen ahead)
      | (_, .error e) => .error e := rfl

/-- A duplicate filter built over a fresh input reads that input's first tuple of a new
key ahead, and otherwise answers the first tuple of each key. -/
theorem rest_distinctOf {c : Operator} (hc : Fresh c) (s : Schema) (keys : List String) :
    (distinctOf c s keys).map Operator.rest =
      (s.positions keys).bind fun ks => Trace.primedDedup ks c.rest := by
  rw [distinctOf_eq]
  cases s.positions keys with
  | error e => rfl
  | ok ks =>
    simp only [Except.bind]
    obtain ⟨c₁, seen₁, hda, hat⟩ :=
      distinct_primes (follows c) ks hc.at (need_add_work_le_fuel c) [] none
    rw [hda]
    cases hv : (Trace.dedup ks [] c.rest.tuples c.rest.stop).head with
    | error e => simp [Trace.primedDedup, hv, Except.map]
    | ok v =>
      simp only [Except.map, Trace.primedDedup, hv]
      rw [(hat v hv).rest_eq]

/-- The pairs of a scan of the lines 1, 2 and a scan of the lines 5, 5, each pair once: a
duplicate filter on both columns over a join with no condition. -/
def pairsOnce : Except ExecError Operator := do
  let pairs ← joinOf (scanOf "l" (.ofLines ["1", "2"])) (scanOf "r" (.ofLines ["5", "5"])) []
    ⟨["l.a", "r.b"]⟩
  distinctOf pairs ⟨["l.a", "r.b"]⟩ ["l.a", "r.b"]

/-- The duplicate filter over the join replays one stream, (1, 5) then (2, 5): a reset after
its first answer starts it over, and past its last answer it answers the end. -/
theorem pairsOnce_replays :
    ∃ op, pairsOnce = .ok op ∧
      (∃ O : List Tuple, ∀ calls : List Call, (∀ e, Reply.failed e ∉ op.run calls) →
        op.run calls = replayReplies O 0 calls) ∧
      op.run [.next, .reset, .next, .next, .next, .next] =
        [.tuple (some ⟨[1, 5]⟩), .restarted, .tuple (some ⟨[1, 5]⟩), .tuple (some ⟨[2, 5]⟩),
          .tuple none, .tuple none] := by
  -- every line holds one field
  have hsplit : ∀ s ∈ ["1", "2", "5"], s.splitOn "," = [s] := by
    intro s hs
    simp only [List.mem_cons, List.mem_nil_iff, or_false] at hs
    rcases hs with rfl | rfl | rfl <;> exact String.splitOn_eq_singleton _ rfl (by decide)
  have hl : (scanOf "l" (.ofLines ["1", "2"])).rest = ⟨[⟨[1]⟩, ⟨[2]⟩], none⟩ := by
    simp only [scanOf, rest, LineSource.ofLines, List.map_cons, List.map_nil, LineSource.trace,
      Bool.false_eq_true, if_false, Trace.scanLines, parseRow, hsplit "1" (by simp),
      hsplit "2" (by simp)]
    decide
  have hr : (scanOf "r" (.ofLines ["5", "5"])).rest = ⟨[⟨[5]⟩, ⟨[5]⟩], none⟩ := by
    simp only [scanOf, rest, LineSource.ofLines, List.map_cons, List.map_nil, LineSource.trace,
      Bool.false_eq_true, if_false, Trace.scanLines, parseRow, hsplit "5" (by simp)]
    decide
  -- the join answers each left row with both right rows
  have hj : (joinOf (scanOf "l" (.ofLines ["1", "2"])) (scanOf "r" (.ofLines ["5", "5"])) []
      ⟨["l.a", "r.b"]⟩).map Operator.rest =
        .ok ⟨[⟨[1, 5]⟩, ⟨[1, 5]⟩, ⟨[2, 5]⟩, ⟨[2, 5]⟩], none⟩ := by
    rw [rest_joinOf (fresh_scanOf "l" rfl) (fresh_scanOf "r" rfl), hl, hr]
    rfl
  obtain ⟨pairs, hpairs, hprest⟩ := map_eq_ok.1 hj
  have hd : (distinctOf pairs ⟨["l.a", "r.b"]⟩ ["l.a", "r.b"]).map Operator.rest =
      .ok ⟨[⟨[1, 5]⟩, ⟨[2, 5]⟩], none⟩ := by
    rw [rest_distinctOf (fresh_joinOf (fresh_scanOf "l" rfl) (fresh_scanOf "r" rfl) hpairs),
      hprest]
    rfl
  obtain ⟨op, hop, hrest⟩ := map_eq_ok.1 hd
  have hbuilt : Built op := .distinct (.join (.scan "l" rfl) (.scan "r" rfl) hpairs) hop
  refine ⟨op, by rw [pairsOnce, hpairs]; exact hop, built_replays hbuilt, ?_⟩
  rw [hbuilt.run_eq (by rw [hrest]), hrest]
  rfl

/-! ## Operators that read their whole input -/

/-- An aggregate's grouping loop, from a state of `s`, folds the rest of the stream. -/
theorem groupFrom_at {s : Operator} (keys : List Nat) (factors : List SumFactor) :
    ∀ (k : Nat) (op : Operator) (T : Trace) (groups : List (List Int × Int)), At s op T →
      T.tuples.length < k →
      groupFrom keys factors k op groups = Trace.grouped keys factors T.tuples T.stop groups
  | 0, _, _, _, _, hk => absurd hk (Nat.not_lt_zero _)
  | k + 1, op, T, groups, hat, hk => by
    rcases hat.step.cases with
      ⟨t, T', op', rfl, hnext, hat'⟩ | ⟨op', rfl, hnext, -⟩ | ⟨e, op', rfl, hnext⟩
    · have ih : ∀ g, groupFrom keys factors k op' g = Trace.grouped keys factors T'.tuples T'.stop g :=
        fun g => groupFrom_at keys factors k op' T' g hat' (by simp [Trace.cons] at hk; omega)
      simp only [groupFrom, step, hnext, ih]
      rfl
    · simp [groupFrom, step, hnext, Trace.grouped]
    · simp [groupFrom, step, hnext, Trace.grouped]

theorem groupFrom_fresh {c : Operator} (hc : Fresh c) (keys : List Nat) (factors : List SumFactor)
    (groups : List (List Int × Int)) :
    groupFrom keys factors c.fuel c groups = Trace.grouped keys factors c.rest.tuples c.rest.stop groups :=
  groupFrom_at keys factors c.fuel c c.rest groups hc.at
    (by have := hc.at.length; have := need_add_work_le_fuel c; omega)

/-- A sort's collecting loop, from a state of `s`, reads the rest of the stream. -/
theorem collectFrom_at {s : Operator} (keys : List SortKey) :
    ∀ (k : Nat) (op : Operator) (T : Trace) (acc : List Tuple), At s op T →
      T.tuples.length < k →
      collectFrom keys k op acc = (acc.reverse ++ ·) <$> Trace.collected keys T.tuples T.stop
  | 0, _, _, _, _, hk => absurd hk (Nat.not_lt_zero _)
  | k + 1, op, T, acc, hat, hk => by
    rcases hat.step.cases with
      ⟨t, T', op', rfl, hnext, hat'⟩ | ⟨op', rfl, hnext, -⟩ | ⟨e, op', rfl, hnext⟩
    · have ih := collectFrom_at keys k op' T' (t :: acc) hat' (by simp [Trace.cons] at hk; omega)
      cases hf : keys.find? (fun x => decide (x.column ≥ t.arity)) with
      | some key => simp [collectFrom, step, hnext, Trace.collected, hf, Functor.map, Except.map]
      | none =>
        simp only [collectFrom, step, hnext, Trace.cons_tuples, Trace.cons_stop, Trace.collected, hf,
          ih]
        cases Trace.collected keys T'.tuples T'.stop <;> simp [Functor.map, Except.map]
    · simp [collectFrom, step, hnext, Trace.collected, Functor.map, Except.map]
    · simp [collectFrom, step, hnext, Trace.collected, Functor.map, Except.map]

theorem collectFrom_fresh {c : Operator} (hc : Fresh c) (keys : List SortKey) :
    collectFrom keys c.fuel c [] = Trace.collected keys c.rest.tuples c.rest.stop := by
  rw [collectFrom_at keys c.fuel c c.rest [] hc.at
    (by have := hc.at.length; have := need_add_work_le_fuel c; omega)]
  cases Trace.collected keys c.rest.tuples c.rest.stop <;> rfl

theorem aggregateOf_congr {c₁ c₂ : Operator} (h₁ : Fresh c₁) (h₂ : Fresh c₂)
    (h : c₁.rest = c₂.rest) (sum : SumExpr) (groupBy : List String) (s : Schema) :
    aggregateOf c₁ sum groupBy s = aggregateOf c₂ sum groupBy s := by
  simp only [aggregateOf, groupFrom_fresh h₁, groupFrom_fresh h₂, h]

theorem sortOf_congr {c₁ c₂ : Operator} (h₁ : Fresh c₁) (h₂ : Fresh c₂) (h : c₁.rest = c₂.rest)
    (keys : List SortKey) : sortOf c₁ keys = sortOf c₂ keys := by
  simp only [sortOf, collectFrom_fresh h₁, collectFrom_fresh h₂, h]

end Operator

end CsvQuery
