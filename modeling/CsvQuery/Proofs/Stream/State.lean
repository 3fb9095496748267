import CsvQuery.Proofs.Stream.Trace
import Mathlib.Tactic.Linarith

/-!
# What an operator state will answer

Every operator state determines the rest of its stream:

* `Operator.rest op`     what the following calls of `next` answer, read off the state and
                         its inputs' states;
* `Operator.replay op`   what they answer after a `reset`, or the failure of the reset;
* `Operator.skeleton op` the state with every input started over and every cursor at the
                         start: what reading the stream never changes.

`replay`, `work` and `need` see only the skeleton. `Operator.need` is fuel enough for any one
call of `next` or `reset`, and `need op + op.work ≤ op.fuel` (`need_add_work_le_fuel`):
the fuel the operators are run with covers every call, and also every loop that reads a
whole input at that fuel (a duplicate filter being built).

`Operator.Good` holds of every state reached by the operators: a scan has read no more lines
than its source holds, and a duplicate filter's lookahead was read from its input. It bounds
every stream by `work` (`length_rest`).

`Operator.Follows s` is the statement that carries every later proof: at every good state of
`s`'s skeleton, with fuel `s.need` or more, `next` answers the head of the stream and moves to
its tail, and `reset` answers as `replay` says and moves to its stream.
-/

namespace CsvQuery

namespace LineSource

/-- What a scan of `table` reads from the source, its next line numbered `line + 1`. -/
def trace (table : String) (line : Nat) : LineSource → Trace
  | .lines _ rest => Trace.scanLines table line rest
  | .broken e => Trace.fail (.sourceUnavailable table e)

/-- The lines still to read are no more than the lines the source holds. -/
def Good : LineSource → Prop
  | .lines all rest => rest.length ≤ all.length
  | .broken _ => True

@[simp] theorem rewind_rewind (src : LineSource) : src.rewind.rewind = src.rewind := by
  cases src <;> rfl

@[simp] theorem size_rewind (src : LineSource) : src.rewind.size = src.size := by
  cases src <;> rfl

theorem good_rewind (src : LineSource) : src.rewind.Good := by
  cases src <;> simp [rewind, Good]

theorem length_trace_le (table : String) (line : Nat) {src : LineSource} (h : src.Good) :
    (src.trace table line).tuples.length ≤ src.size := by
  cases src with
  | lines all rest =>
    exact Nat.le_trans (Trace.length_scanLines table line rest) h
  | broken e => simp [trace, Trace.fail]

end LineSource

namespace Operator

/-- The state with every input started over and every cursor at the start. -/
def skeleton : Operator → Operator
  | .scan t src _ _ => .scan t src.rewind 0 false
  | .select c p => .select c.skeleton p
  | .join l r cs s _ _ => .join l.skeleton r.skeleton cs s none none
  | .project c slots s => .project c.skeleton slots s
  | .aggregate rs _ s => .aggregate rs 0 s
  | .sort ts _ => .sort ts 0
  | .distinct c ks _ _ => .distinct c.skeleton ks [] none

/-- What the calls of `next` answer after a `reset`, or the failure of the reset. -/
def replay : Operator → Except ExecError Trace
  | .scan t src _ _ => .ok (src.rewind.trace t 0)
  | .select c p => c.replay.map fun C => Trace.filter p C.tuples C.stop
  | .project c slots _ => c.replay.map fun C => Trace.project slots C.tuples C.stop
  | .join l r cs _ _ _ => l.replay.bind fun L => r.replay.bind fun R => Trace.primed cs L R
  | .aggregate rs _ _ => .ok ⟨rs, none⟩
  | .sort ts _ => .ok ⟨ts, none⟩
  | .distinct c ks _ _ => c.replay.bind (Trace.primedDedup ks)

/-- What the following calls of `next` answer. -/
def rest : Operator → Trace
  | .scan t src line exhausted => if exhausted then .done else src.trace t line
  | .select c p => Trace.filter p c.rest.tuples c.rest.stop
  | .project c slots _ => Trace.project slots c.rest.tuples c.rest.stop
  | .join l r cs _ cur partner =>
    match cur, partner with
    | none, _ => .done
    | some lt, some rt =>
      (Trace.pass cs lt rt r.rest.tuples r.rest.stop).andThen
        (Trace.advance cs r.replay l.rest.tuples l.rest.stop)
    | some _, none => Trace.advance cs r.replay l.rest.tuples l.rest.stop
  | .aggregate rs k _ => ⟨rs.drop k, none⟩
  | .sort ts k => ⟨ts.drop k, none⟩
  | .distinct c ks seen ahead =>
    match ahead with
    | none => .done
    | some t =>
      Trace.lag t (Trace.dedup ks seen c.rest.tuples c.rest.stop).tuples
        (Trace.dedup ks seen c.rest.tuples c.rest.stop).stop

/-- States the operators reach: a scan's source has no more lines to read than it holds,
and a duplicate filter's lookahead was read from its input. -/
def Good : Operator → Prop
  | .scan _ src _ _ => src.Good
  | .select c _ | .project c _ _ => c.Good
  | .join l r .. => l.Good ∧ r.Good
  | .aggregate .. | .sort .. => True
  | .distinct c _ _ ahead => c.Good ∧ (ahead.isSome → c.rest.tuples.length + 2 ≤ c.work)

/-- Fuel enough for one call of `next` or `reset`: a loop runs once per tuple its input can
still answer, and each round calls the inputs with one unit less. -/
def need : Operator → Nat
  | .scan _ src _ _ => src.size + 2
  | .select c _ | .project c _ _ | .distinct c _ _ _ => c.need + c.work + 1
  | .join l r .. => max l.need r.need + l.work * r.work + 3
  | .aggregate .. | .sort .. => 1

/-! ## The skeleton -/

@[simp] theorem skeleton_skeleton (op : Operator) : op.skeleton.skeleton = op.skeleton := by
  induction op <;> simp_all [skeleton]

@[simp] theorem replay_skeleton (op : Operator) : op.skeleton.replay = op.replay := by
  induction op <;> simp_all [skeleton, replay]

@[simp] theorem work_skeleton (op : Operator) : op.skeleton.work = op.work := by
  induction op with
  | scan t src => simp [skeleton, work, LineSource.size_rewind]
  | _ => simp_all [skeleton, work]

@[simp] theorem nodes_skeleton (op : Operator) : op.skeleton.nodes = op.nodes := by
  induction op <;> simp_all [skeleton, nodes]

@[simp] theorem need_skeleton (op : Operator) : op.skeleton.need = op.need := by
  induction op with
  | scan t src => simp [skeleton, need, LineSource.size_rewind]
  | _ => simp_all [skeleton, need]

theorem replay_eq_of_skeleton {a b : Operator} (h : a.skeleton = b.skeleton) :
    a.replay = b.replay := by
  rw [← replay_skeleton a, h, replay_skeleton]

theorem work_eq_of_skeleton {a b : Operator} (h : a.skeleton = b.skeleton) : a.work = b.work := by
  rw [← work_skeleton a, h, work_skeleton]

theorem need_eq_of_skeleton {a b : Operator} (h : a.skeleton = b.skeleton) : a.need = b.need := by
  rw [← need_skeleton a, h, need_skeleton]

/-! ## Bounds -/

theorem two_le_work (op : Operator) : 2 ≤ op.work := by
  induction op with
  | join l r _ _ _ _ hl hr => simp only [work]; exact Nat.le_trans hl (Nat.le_mul_of_pos_right _ (by omega))
  | _ => simp_all [work]

theorem one_le_nodes (op : Operator) : 1 ≤ op.nodes := by
  cases op <;> simp [nodes]

theorem join_count_le {x y z a b : Nat} (hx : x + 1 ≤ a) (hy : y + 1 ≤ b) (hz : z + 1 ≤ b)
    (ha : 2 ≤ a) : (z + 1) + x * y + 1 ≤ a * b := by
  nlinarith

theorem length_replay {op : Operator} {T : Trace} (h : op.replay = .ok T) :
    T.tuples.length + 1 ≤ op.work := by
  induction op generalizing T with
  | scan t src =>
    simp only [replay, Except.ok.injEq] at h
    subst h
    have := LineSource.length_trace_le t 0 (LineSource.good_rewind src)
    simp only [LineSource.size_rewind] at this
    simp only [work]; omega
  | select c p ih =>
    obtain ⟨C, hC, rfl⟩ : ∃ C, c.replay = .ok C ∧ Trace.filter p C.tuples C.stop = T := by
      simp only [replay] at h; cases hc : c.replay <;> simp_all [Except.map]
    have := Trace.length_filter p C.tuples C.stop
    have := ih hC
    simp only [work]; omega
  | project c slots s ih =>
    obtain ⟨C, hC, rfl⟩ : ∃ C, c.replay = .ok C ∧ Trace.project slots C.tuples C.stop = T := by
      simp only [replay] at h; cases hc : c.replay <;> simp_all [Except.map]
    have := Trace.length_project slots C.tuples C.stop
    have := ih hC
    simp only [work]; omega
  | join l r cs s cur partner ihl ihr =>
    obtain ⟨L, hL, R, hR, hp⟩ : ∃ L, l.replay = .ok L ∧ ∃ R, r.replay = .ok R ∧
        Trace.primed cs L R = .ok T := by
      simp only [replay] at h
      cases hl : l.replay <;> cases hr : r.replay <;> simp_all [Except.bind]
    have h1 := Trace.length_primed hp
    have h2 := ihl hL
    have h3 := ihr hR
    have h4 : (L.tuples.length + 1) * (R.tuples.length + 1) ≤ l.work * r.work :=
      Nat.mul_le_mul h2 h3
    simp only [work]
    nlinarith
  | aggregate rs k _ | sort rs k => simp only [replay, Except.ok.injEq] at h; subst h; simp [work]
  | distinct c ks seen ahead ih =>
    obtain ⟨C, hC, hd⟩ : ∃ C, c.replay = .ok C ∧ Trace.primedDedup ks C = .ok T := by
      simp only [replay] at h; cases hc : c.replay <;> simp_all [Except.bind]
    have := Trace.length_primedDedup hd
    have := ih hC
    simp only [work]; omega

theorem length_advance_le (cs : List Bound) (r : Operator) (ls : List Tuple)
    (s : Option ExecError) : ∃ y, y + 1 ≤ r.work ∧
      (Trace.advance cs r.replay ls s).tuples.length ≤ ls.length * y := by
  cases hr : r.replay with
  | error e =>
    refine ⟨0, by have := two_le_work r; omega, ?_⟩
    cases ls <;> (try cases s) <;> simp [Trace.advance, Trace.fail]
  | ok R => exact ⟨R.tuples.length, length_replay hr, Trace.length_advance cs R ls s⟩

theorem mul_add_one_le {x y a b : Nat} (hx : x + 1 ≤ a) (hy : y + 1 ≤ b) : x * y + 1 ≤ a * b := by
  nlinarith

theorem length_rest {op : Operator} (h : op.Good) : op.rest.tuples.length + 1 ≤ op.work := by
  induction op with
  | scan t src line exhausted =>
    simp only [Good] at h
    have := LineSource.length_trace_le t line h
    simp only [rest, work]
    split
    · simp [Trace.done]
    · omega
  | select c p ih =>
    have := Trace.length_filter p c.rest.tuples c.rest.stop
    have := ih h
    simp only [rest, work]; omega
  | project c slots s ih =>
    have := Trace.length_project slots c.rest.tuples c.rest.stop
    have := ih h
    simp only [rest, work]; omega
  | join l r cs s cur partner ihl ihr =>
    obtain ⟨hl, hr⟩ := h
    have hL := ihl hl
    have hR := ihr hr
    obtain ⟨y, hy, ha⟩ := length_advance_le cs r l.rest.tuples l.rest.stop
    simp only [rest, work]
    rcases cur with _ | lt
    · simp [Trace.done]; have := two_le_work l; have := two_le_work r; nlinarith
    · rcases partner with _ | rt
      · have := mul_add_one_le hL hy
        simp only; omega
      · have h1 := Trace.length_andThen_le (Trace.pass cs lt rt r.rest.tuples r.rest.stop)
          (Trace.advance cs r.replay l.rest.tuples l.rest.stop)
        have h2 := Trace.length_pass cs lt rt r.rest.tuples r.rest.stop
        have := join_count_le hL hy hR (two_le_work l)
        simp only; omega
  | aggregate rs k s => simp [rest, work]; omega
  | sort ts k => simp [rest, work]; omega
  | distinct c ks seen ahead ih =>
    obtain ⟨hc, hahead⟩ := h
    rcases ahead with _ | t
    · simp [rest, work, Trace.done]; have := two_le_work c; omega
    · have h1 := Trace.length_lag t (Trace.dedup ks seen c.rest.tuples c.rest.stop).tuples
        (Trace.dedup ks seen c.rest.tuples c.rest.stop).stop
      have h2 := Trace.length_dedup ks seen c.rest.tuples c.rest.stop
      have h3 := hahead rfl
      simp only [rest, work]; omega

theorem le_cube (w : Nat) : w + 2 ≤ Nat.pow (w + 2) 3 := Nat.le_self_pow (by norm_num) _

theorem need_add_work_le_fuel (op : Operator) : op.need + op.work ≤ op.fuel := by
  induction op with
  | scan t src =>
    have := le_cube (src.size + 2)
    simp only [need, work, nodes, fuel]; omega
  | select c p ih | project c _ _ ih | distinct c _ _ _ ih =>
    have := le_cube c.work
    simp only [need, work, nodes, fuel] at ih ⊢
    generalize Nat.pow (c.work + 2) 3 = K at ih this ⊢
    linarith
  | join l r cs s cur partner ihl ihr =>
    have hl2 := two_le_work l
    have hr2 := two_le_work r
    have hkl : Nat.pow (l.work + 2) 3 ≤ Nat.pow (l.work * r.work + 2) 3 :=
      Nat.pow_le_pow_left (by have := Nat.le_mul_of_pos_right l.work (by omega : 0 < r.work); omega) 3
    have hkr : Nat.pow (r.work + 2) 3 ≤ Nat.pow (l.work * r.work + 2) 3 :=
      Nat.pow_le_pow_left (by have := Nat.le_mul_of_pos_left r.work (by omega : 0 < l.work); omega) 3
    have hk := le_cube (l.work * r.work)
    have hnl := one_le_nodes l
    have hnr := one_le_nodes r
    simp only [need, work, nodes, fuel] at ihl ihr ⊢
    generalize Nat.pow (l.work * r.work + 2) 3 = K at hkl hkr hk ⊢
    generalize Nat.pow (l.work + 2) 3 = Kl at hkl ihl
    generalize Nat.pow (r.work + 2) 3 = Kr at hkr ihr
    have h1 : Kl * (l.nodes + 2) ≤ K * (l.nodes + 2) := Nat.mul_le_mul_right _ hkl
    have h2 : Kr * (r.nodes + 2) ≤ K * (r.nodes + 2) := Nat.mul_le_mul_right _ hkr
    have h3 : K ≤ K * l.nodes := Nat.le_mul_of_pos_right _ hnl
    have h4 : K ≤ K * r.nodes := Nat.le_mul_of_pos_right _ hnr
    rcases Nat.le_total l.need r.need with h | h
    · rw [Nat.max_eq_right h]; linarith
    · rw [Nat.max_eq_left h]; linarith
  | aggregate rs k s =>
    have := le_cube (rs.length + 2)
    simp only [need, work, nodes, fuel]; omega
  | sort ts k =>
    have := le_cube (ts.length + 2)
    simp only [need, work, nodes, fuel]; omega

/-! ## Following the streams -/

/-- `op` is a good state of `s`'s skeleton whose stream is `T`. -/
structure At (s op : Operator) (T : Trace) : Prop where
  good : op.Good
  skeleton_eq : op.skeleton = s.skeleton
  rest_eq : op.rest = T

/-- At fuel `n`, `next` answers the head of the stream `T` of `op` and, when it answers,
moves to a state whose stream is the tail. -/
def StepsAt (s : Operator) (n : Nat) (op : Operator) (T : Trace) : Prop :=
  (next n op).2 = T.head ∧ ∀ v, T.head = .ok v → At s (next n op).1 T.tail

/-- At fuel `n`, `reset` fails as the replay does and otherwise moves to a state whose
stream is the replay. -/
def RestartsAt (s : Operator) (n : Nat) (op : Operator) : Prop :=
  (reset n op).2 = s.replay.map (fun _ => ()) ∧ ∀ T, s.replay = .ok T → At s (reset n op).1 T

/-- Every good state of `s`'s skeleton steps and restarts as its stream says, with any
fuel from `s.need` on. -/
def Follows (s : Operator) : Prop :=
  ∀ op T, At s op T → ∀ n, s.need ≤ n → StepsAt s n op T ∧ RestartsAt s n op

theorem At.replay {s op : Operator} {T : Trace} (h : At s op T) : op.replay = s.replay :=
  replay_eq_of_skeleton h.skeleton_eq

theorem At.work {s op : Operator} {T : Trace} (h : At s op T) : op.work = s.work :=
  work_eq_of_skeleton h.skeleton_eq

theorem At.length {s op : Operator} {T : Trace} (h : At s op T) : T.tuples.length + 1 ≤ s.work := by
  rw [← h.rest_eq, ← h.work]; exact length_rest h.good

theorem StepsAt.cases {s op : Operator} {n : Nat} {T : Trace} (h : StepsAt s n op T) :
    (∃ t T' op', T = .cons t T' ∧ next n op = (op', .ok (some t)) ∧ At s op' T') ∨
    (∃ op', T = .done ∧ next n op = (op', .ok none) ∧ At s op' .done) ∨
    (∃ e op', T = .fail e ∧ next n op = (op', .error e)) := by
  obtain ⟨hhead, hat⟩ := h
  rcases Trace.cases_head T with rfl | ⟨e, rfl⟩ | ⟨t, T', rfl⟩
  · exact .inr (.inl ⟨_, rfl, Prod.ext rfl hhead, hat none rfl⟩)
  · exact .inr (.inr ⟨e, _, rfl, Prod.ext rfl hhead⟩)
  · exact .inl ⟨t, T', _, rfl, Prod.ext rfl hhead, hat (some t) rfl⟩

theorem StepsAt.of_cons {s op op' : Operator} {n : Nat} {t : Tuple} {T : Trace}
    (h : next n op = (op', .ok (some t))) (hat : At s op' T) : StepsAt s n op (.cons t T) :=
  ⟨by rw [h]; rfl, fun _ _ => by rw [h]; exact hat⟩

theorem StepsAt.of_done {s op : Operator} {n : Nat} (op' : Operator)
    (h : next n op = (op', .ok none)) (hat : At s op' .done) : StepsAt s n op .done :=
  ⟨by rw [h]; rfl, fun _ _ => by rw [h]; exact hat⟩

theorem StepsAt.of_fail {s op : Operator} {n : Nat} {e : ExecError}
    (h : (next n op).2 = .error e) : StepsAt s n op (.fail e) :=
  ⟨h, fun v hv => by simp [Trace.fail] at hv⟩

theorem RestartsAt.cases {s op : Operator} {n : Nat} (h : RestartsAt s n op) :
    (∃ e op', s.replay = .error e ∧ reset n op = (op', .error e)) ∨
    (∃ T op', s.replay = .ok T ∧ reset n op = (op', .ok ()) ∧ At s op' T) := by
  obtain ⟨hres, hat⟩ := h
  cases hr : s.replay with
  | error e => exact .inl ⟨e, _, rfl, Prod.ext rfl (by rw [hres, hr]; rfl)⟩
  | ok T => exact .inr ⟨T, _, rfl, Prod.ext rfl (by rw [hres, hr]; rfl), hat T hr⟩

end Operator

end CsvQuery
