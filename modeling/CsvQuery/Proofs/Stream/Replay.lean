import CsvQuery.Proofs.Stream.Join
import CsvQuery.Proofs.Except
import CsvQuery.Exec.Pipeline

/-!
# Every built operator replays one stream

Every operator state follows its stream (`follows`), and each call made with the state's
own fuel, as `step` and `restart` make it, is covered. The constructors, and a pipeline
built from a plan, give states at the start of their streams (`Built.fresh`): a reset
would lead to the very stream they already have.

So a caller that sees no failure sees one fixed sequence of tuples: from the start and
after every reset, `next` answers its tuples in order and then the end, again and again,
until the next reset (`built_replays`). When the stream ends without an error no call
fails at all (`run_never_fails`), and every sequence of calls answers the replay
(`Built.run_eq`).
-/

namespace CsvQuery

namespace Operator

/-- Every operator follows its stream: induction on the tree, one lemma per operator. -/
theorem follows : ∀ op : Operator, Follows op
  | .scan t src line ex => follows_scan t src line ex
  | .select c p => follows_select (follows c) p
  | .join l r cs sch cur partner => follows_join (follows l) (follows r) cs sch cur partner
  | .project c slots sch => follows_project (follows c) slots sch
  | .aggregate rs k sch => follows_aggregate rs k sch
  | .sort ts k => follows_sort ts k
  | .distinct c ks seen ahead => follows_distinct (follows c) ks seen ahead

theorem At.need_le_fuel {s op : Operator} {T : Trace} (h : At s op T) : s.need ≤ op.fuel := by
  have := need_add_work_le_fuel op
  rw [need_eq_of_skeleton h.skeleton_eq] at this
  omega

/-- `step` answers the head of the stream and moves to its tail. -/
theorem At.step {s op : Operator} {T : Trace} (h : At s op T) : StepsAt s op.fuel op T :=
  (follows s op T h op.fuel h.need_le_fuel).1

/-- `restart` fails as the replay does, or moves to the replay. -/
theorem At.restart {s op : Operator} {T : Trace} (h : At s op T) : RestartsAt s op.fuel op :=
  (follows s op T h op.fuel h.need_le_fuel).2

/-! ## Built operators -/

/-- A state at the start of its stream: a reset would lead to the stream it already has. -/
def Fresh (op : Operator) : Prop := op.Good ∧ op.replay = .ok op.rest

theorem Fresh.at {op : Operator} (h : Fresh op) : At op op op.rest := ⟨h.1, rfl, rfl⟩

theorem fresh_scanOf (table : String) {src : LineSource} (h : src.rewind = src) :
    Fresh (scanOf table src) := by
  have hgood := LineSource.good_rewind src
  rw [h] at hgood
  exact ⟨hgood, by simp [scanOf, replay, rest, h]⟩

theorem fresh_selectOf {child op : Operator} (hc : Fresh child) {p : Expr} {s : Schema}
    (h : selectOf child p s = .ok op) : Fresh op := by
  obtain ⟨b, -, rfl⟩ := map_eq_ok.1 h
  exact ⟨hc.1, by simp [replay, rest, hc.2, Except.map]⟩

theorem fresh_projectOf {child op : Operator} (hc : Fresh child) {s : Schema}
    {targets : List SelectTarget} (h : projectOf child s targets = .ok op) : Fresh op := by
  simp only [projectOf, bind_eq_ok, pure, Except.pure, Except.ok.injEq] at h
  obtain ⟨_, _, rfl⟩ := h
  exact ⟨hc.1, by simp [replay, rest, hc.2, Except.map]⟩

theorem fresh_aggregateOf {child op : Operator} {sum : SumExpr} {groupBy : List String}
    {s : Schema} (h : aggregateOf child sum groupBy s = .ok op) : Fresh op := by
  simp only [aggregateOf, bind_eq_ok] at h
  obtain ⟨_, -, h⟩ := h
  -- every form of the sum ends in the same buffer, at its first tuple
  obtain ⟨rs, sch, rfl⟩ : ∃ rs sch, op = .aggregate rs 0 sch := by
    cases sum <;> simp only [bind_eq_ok, pure, Except.pure, Except.ok.injEq] at h <;>
      obtain ⟨_, _, _, _, _, _, rfl⟩ := h <;> exact ⟨_, _, rfl⟩
  exact ⟨trivial, by simp [replay, rest]⟩

theorem fresh_sortOf {child op : Operator} {keys : List SortKey} (h : sortOf child keys = .ok op) :
    Fresh op := by
  simp only [sortOf, bind_eq_ok, pure, Except.pure, Except.ok.injEq] at h
  obtain ⟨_, _, rfl⟩ := h
  exact ⟨trivial, by simp [replay, rest]⟩

theorem fresh_distinctOf {child op : Operator} (hc : Fresh child) {s : Schema}
    {keys : List String} (h : distinctOf child s keys = .ok op) : Fresh op := by
  simp only [distinctOf, bind_eq_ok] at h
  obtain ⟨ks, -, h⟩ := h
  obtain ⟨c₁, seen₁, hda, hat⟩ :=
    distinct_primes (follows child) ks hc.at (need_add_work_le_fuel child) [] none
  rw [hda] at h
  cases hv : (Trace.dedup ks [] child.rest.tuples child.rest.stop).head with
  | error e => simp [hv, throw, throwThe, MonadExceptOf.throw] at h
  | ok v =>
    simp only [hv, pure, Except.pure, Except.ok.injEq] at h
    subst h
    have hat₁ := hat v hv
    refine ⟨hat₁.good, ?_⟩
    rw [hat₁.replay, hat₁.rest_eq]
    simp [replay, hc.2, Except.bind, Trace.primedDedup, hv, Except.map]

theorem joinPrime_fresh {l r : Operator} (hl : Fresh l) (hr : Fresh r) (bs : List Bound)
    (s : Schema) :
    (joinPrime (Operator.join l r bs s none none).fuel l r bs s none none).2 =
        (Trace.primed bs l.rest r.rest).map (fun _ => ()) ∧
      ∀ T, Trace.primed bs l.rest r.rest = .ok T →
        At (.join l r bs s none none)
          (joinPrime (Operator.join l r bs s none none).fuel l r bs s none none).1 T := by
  -- the join's own fuel covers its inputs' calls
  have hfuel := need_add_work_le_fuel (.join l r bs s none none)
  obtain ⟨k, hk⟩ : ∃ k, (Operator.join l r bs s none none).fuel = k + 1 :=
    ⟨_, (Nat.succ_pred_eq_of_pos (by simp [need] at hfuel; omega)).symm⟩
  have hkl : l.need ≤ k := by simp [need] at hfuel; omega
  have hkr : r.need ≤ k := by simp [need] at hfuel; omega
  rw [hk]
  exact joinPrime_follows (follows l) (follows r) hl.at hr.at hr.2 hkl hkr none none

theorem fresh_joinOf {l r op : Operator} (hl : Fresh l) (hr : Fresh r) {cs : List Expr}
    {s : Schema} (h : joinOf l r cs s = .ok op) : Fresh op := by
  simp only [joinOf, bind_eq_ok] at h
  obtain ⟨bs, -, h⟩ := h
  obtain ⟨hres, hat⟩ := joinPrime_fresh hl hr bs s
  cases hp : joinPrime (Operator.join l r bs s none none).fuel l r bs s none none with
  | mk op' res =>
    rw [hp] at h hres hat
    cases res with
    | error e => simp [throw, throwThe, MonadExceptOf.throw] at h
    | ok u =>
      simp only [pure, Except.pure, Except.ok.injEq] at h
      subst h
      obtain ⟨T, hT⟩ : ∃ T, Trace.primed bs l.rest r.rest = .ok T := by
        cases hpr : Trace.primed bs l.rest r.rest <;> simp_all [Except.map]
      have hat' := hat T hT
      refine ⟨hat'.good, ?_⟩
      rw [hat'.replay, hat'.rest_eq]
      simp [replay, hl.2, hr.2, Except.bind, hT]

/-- Operators as the constructors build them, over sources at their first line. -/
inductive Built : Operator → Prop
  | scan (table : String) {src : LineSource} (h : src.rewind = src) : Built (scanOf table src)
  | select {c op : Operator} {p : Expr} {s : Schema} (hc : Built c)
      (h : selectOf c p s = .ok op) : Built op
  | join {l r op : Operator} {cs : List Expr} {s : Schema} (hl : Built l) (hr : Built r)
      (h : joinOf l r cs s = .ok op) : Built op
  | project {c op : Operator} {s : Schema} {targets : List SelectTarget} (hc : Built c)
      (h : projectOf c s targets = .ok op) : Built op
  | aggregate {c op : Operator} {sum : SumExpr} {groupBy : List String} {s : Schema}
      (hc : Built c) (h : aggregateOf c sum groupBy s = .ok op) : Built op
  | sort {c op : Operator} {keys : List SortKey} (hc : Built c) (h : sortOf c keys = .ok op) :
      Built op
  | distinct {c op : Operator} {s : Schema} {keys : List String} (hc : Built c)
      (h : distinctOf c s keys = .ok op) : Built op

theorem Built.fresh {op : Operator} (h : Built op) : Fresh op := by
  induction h with
  | scan table h => exact fresh_scanOf table h
  | select _ h ih => exact fresh_selectOf ih h
  | join _ _ h ihl ihr => exact fresh_joinOf ihl ihr h
  | project _ h ih => exact fresh_projectOf ih h
  | aggregate _ h => exact fresh_aggregateOf h
  | sort _ h => exact fresh_sortOf h
  | distinct _ h ih => exact fresh_distinctOf ih h

end Operator

theorem LineSource.rewind_of_openFile {files : FileTree} {path : String} {src : LineSource}
    (h : LineSource.openFile files path = .ok src) : src.rewind = src := by
  unfold LineSource.openFile at h
  split at h <;> simp only [Except.ok.injEq, reduceCtorEq] at h <;> subst h <;> rfl

/-- A pipeline built from a plan is built by the constructors, over files opened at their
first line. -/
theorem Catalog.built {files : FileTree} {c : Catalog} :
    ∀ {n : PlanNode} {op : Operator}, c.build files n = .ok op → Operator.Built op
  | .scan table _ _, op, h => by
    simp only [Catalog.build] at h
    split at h
    · cases h
    · split at h
      · rename_i src hsrc
        cases h
        exact .scan table (LineSource.rewind_of_openFile hsrc)
      · cases h
  | .select _ _ input, _, h => by
    obtain ⟨c', hc', h⟩ := bind_eq_ok.1 h
    exact .select (Catalog.built hc') h
  | .join _ _ l r, _, h => by
    obtain ⟨l', hl', h⟩ := bind_eq_ok.1 h
    obtain ⟨r', hr', h⟩ := bind_eq_ok.1 h
    exact .join (Catalog.built hl') (Catalog.built hr') h
  | .aggregate _ _ _ input, _, h => by
    obtain ⟨c', hc', h⟩ := bind_eq_ok.1 h
    exact .aggregate (Catalog.built hc') h
  | .project _ _ input, _, h => by
    obtain ⟨c', hc', h⟩ := bind_eq_ok.1 h
    exact .project (Catalog.built hc') h
  | .distinct _ _ input, _, h => by
    obtain ⟨c', hc', h⟩ := bind_eq_ok.1 h
    exact .distinct (Catalog.built hc') h
  | .sort _ _ input, _, h => by
    obtain ⟨keys, -, h⟩ := bind_eq_ok.1 h
    obtain ⟨c', hc', h⟩ := bind_eq_ok.1 h
    exact .sort (Catalog.built hc') h

/-! ## Calls and replies -/

/-- A call on a stream. -/
inductive Call where
  | next
  | reset
deriving DecidableEq, Repr

/-- What a call answers: a tuple or the end, a restart, or a failure. -/
inductive Reply where
  | tuple (t : Option Tuple)
  | restarted
  | failed (e : ExecError)
deriving DecidableEq, Repr

namespace Operator

/-- The replies to the calls, each made with the state's own fuel. -/
def run : Operator → List Call → List Reply
  | _, [] => []
  | op, .next :: calls =>
    match op.step with
    | (op', .ok t) => .tuple t :: op'.run calls
    | (op', .error e) => .failed e :: op'.run calls
  | op, .reset :: calls =>
    match op.restart with
    | (op', .ok ()) => .restarted :: op'.run calls
    | (op', .error e) => .failed e :: op'.run calls

end Operator

/-- The replies of a stream that replays the tuples `O`, its cursor at `k`: each `next`
answers the tuple at the cursor, or the end once past them all, and a reset goes back to
the first. -/
def replayReplies (O : List Tuple) : Nat → List Call → List Reply
  | _, [] => []
  | k, .next :: calls => .tuple O[k]? :: replayReplies O (k + 1) calls
  | _, .reset :: calls => .restarted :: replayReplies O 0 calls

namespace Trace

theorem drop_eq_cons {O : List Tuple} {k : Nat} {stop : Option ExecError} {t : Tuple} {T : Trace}
    (h : (⟨O.drop k, stop⟩ : Trace) = .cons t T) : O[k]? = some t ∧ T = ⟨O.drop (k + 1), stop⟩ := by
  obtain ⟨hdrop, hstop⟩ : O.drop k = t :: T.tuples ∧ stop = T.stop := by
    simpa [Trace.cons] using h
  refine ⟨by rw [← List.head?_drop, hdrop, List.head?_cons], ?_⟩
  rw [← List.drop_drop, hdrop, hstop]
  rfl

theorem drop_eq_done {O : List Tuple} {k : Nat} {stop : Option ExecError}
    (h : (⟨O.drop k, stop⟩ : Trace) = .done) :
    O[k]? = none ∧ stop = none ∧ Trace.done = ⟨O.drop (k + 1), none⟩ := by
  obtain ⟨hdrop, rfl⟩ : O.drop k = [] ∧ stop = none := by simpa [Trace.done] using h
  refine ⟨by rw [← List.head?_drop, hdrop, List.head?_nil], rfl, ?_⟩
  rw [← List.drop_drop, hdrop]
  rfl

end Trace

namespace Operator

/-- The run from a state `k` tuples into the stream of `s`, whose replay is `O` ending as
`stop`, replies as the replay of `O` from cursor `k`, as long as nothing fails. -/
theorem run_replays {s : Operator} {O : List Tuple} {stop : Option ExecError}
    (hs : s.replay = .ok ⟨O, stop⟩) :
    ∀ (calls : List Call) (k : Nat) (op : Operator), At s op ⟨O.drop k, stop⟩ →
      (∀ e, Reply.failed e ∉ op.run calls) → op.run calls = replayReplies O k calls := by
  intro calls
  induction calls with
  | nil => intro k op _ _; rfl
  | cons call calls ih =>
    intro k op hat hok
    cases call with
    | next =>
      rcases hat.step.cases with ⟨t, T', op', hT, hnext, hat'⟩ | ⟨op', hT, hnext, hat'⟩ |
        ⟨e, op', hT, hnext⟩
      · -- the tuple at the cursor: the stream after it is the replay from the next cursor
        obtain ⟨hget, hnext'⟩ := Trace.drop_eq_cons hT
        have hrun : op.run (.next :: calls) = .tuple (some t) :: op'.run calls := by
          simp [run, step, hnext]
        rw [hrun] at hok ⊢
        rw [replayReplies, hget, ih (k + 1) op' (hnext' ▸ hat') (fun e he => hok e (by simp [he]))]
      · -- past the last tuple the stream stays at its end
        obtain ⟨hget, rfl, hdone⟩ := Trace.drop_eq_done hT
        have hrun : op.run (.next :: calls) = .tuple none :: op'.run calls := by
          simp [run, step, hnext]
        rw [hrun] at hok ⊢
        rw [replayReplies, hget, ih (k + 1) op' (hdone ▸ hat') (fun e he => hok e (by simp [he]))]
      · exact absurd (by simp [run, step, hnext]) (hok e)
    | reset =>
      rcases hat.restart.cases with ⟨e, op', -, hreset⟩ | ⟨T, op', hT, hreset, hat'⟩
      · exact absurd (by simp [run, restart, hreset]) (hok e)
      · rw [hs, Except.ok.injEq] at hT
        subst hT
        have hrun : op.run (.reset :: calls) = .restarted :: op'.run calls := by
          simp [run, restart, hreset]
        rw [hrun] at hok ⊢
        rw [replayReplies, ih 0 op' (by simpa using hat') (fun e he => hok e (by simp [he]))]

/-- Every operator tree the constructors build is a replayable stream: there is one
sequence of tuples that every run without failures answers, from the start and after
every reset, followed by the end until the next reset. -/
theorem built_replays {op : Operator} (h : Built op) :
    ∃ O : List Tuple, ∀ calls : List Call, (∀ e, Reply.failed e ∉ op.run calls) →
      op.run calls = replayReplies O 0 calls := by
  have hf := h.fresh
  exact ⟨op.rest.tuples, fun calls hok =>
    run_replays hf.2 calls 0 op (by simpa using hf.at) hok⟩

/-- A stream that ends without an error never fails: from any state of it, no call of
`next` or `reset` does. -/
theorem run_never_fails {s : Operator} {O : List Tuple} (hs : s.replay = .ok ⟨O, none⟩) :
    ∀ (calls : List Call) (k : Nat) (op : Operator), At s op ⟨O.drop k, none⟩ →
      ∀ e, Reply.failed e ∉ op.run calls := by
  intro calls
  induction calls with
  | nil => intro _ _ _ e; simp [run]
  | cons call calls ih =>
    intro k op hat e
    cases call with
    | next =>
      rcases hat.step.cases with ⟨t, T', op', hT, hnext, hat'⟩ | ⟨op', hT, hnext, hat'⟩ |
        ⟨e', op', hT, hnext⟩
      · -- the stream after the tuple is the replay from the next cursor
        obtain ⟨-, hnext'⟩ := Trace.drop_eq_cons hT
        simpa [run, step, hnext] using ih (k + 1) op' (hnext' ▸ hat') e
      · -- past the last tuple the cursor moves on over nothing
        obtain ⟨-, -, hdone⟩ := Trace.drop_eq_done hT
        simpa [run, step, hnext] using ih (k + 1) op' (hdone ▸ hat') e
      · simp [Trace.fail] at hT
    | reset =>
      rcases hat.restart.cases with ⟨e', op', hr, -⟩ | ⟨T, op', hT, hreset, hat'⟩
      · rw [hs] at hr
        cases hr
      · rw [hs, Except.ok.injEq] at hT
        subst hT
        simpa [run, restart, hreset] using ih 0 op' (by simpa using hat') e

/-- A built operator whose stream ends without an error answers, on every sequence of
calls, the replay of that stream. -/
theorem Built.run_eq {op : Operator} (h : Built op) (hstop : op.rest.stop = none)
    (calls : List Call) : op.run calls = replayReplies op.rest.tuples 0 calls := by
  have hf := h.fresh
  have hs : op.replay = .ok ⟨op.rest.tuples, none⟩ := by
    rw [hf.2, ← hstop]
  have hat : At op op ⟨op.rest.tuples.drop 0, none⟩ := by
    rw [List.drop_zero, ← hstop]
    exact hf.at
  exact run_replays hs calls 0 op hat (run_never_fails hs calls 0 op hat)

end Operator

end CsvQuery
