import CsvQuery.Proofs.Stream.Pull

/-!
# Joins

A join holds a left tuple and the right tuple read after it, and pulls from its inputs
until a pair satisfies its conditions. When the right input runs out, the left input moves
on and the right input starts over. A reset starts both inputs over and reads their first
tuples.

The loop is proved with a measure, `joinRounds`, that every round answering nothing
lowers: such a round reads past one right tuple, or moves the left input on by one tuple
and starts the right input over. `steps_of_rounds` turns this into the loop's contract:
a round either answers as the join's stream says or goes on, with one unit of fuel less,
from a state with the same stream and fewer rounds to go.
-/

namespace CsvQuery

namespace Trace

theorem pass_of_holdAll_error {cs : List Bound} {lt rt : Tuple} {e : ExecError}
    (h : Bound.holdAll (.pair lt rt) cs = .error e) (rs : List Tuple) (s : Option ExecError) :
    pass cs lt rt rs s = fail e := by
  cases rs <;> simp [pass, h]

@[simp] theorem advance_cons (cs : List Bound) (rt lt : Tuple) (R : Trace) (ls : List Tuple)
    (s : Option ExecError) :
    advance cs (.ok (cons rt R)) (lt :: ls) s =
      (pass cs lt rt R.tuples R.stop).andThen (advance cs (.ok (cons rt R)) ls s) := rfl

@[simp] theorem advance_done (cs : List Bound) (lt : Tuple) (ls : List Tuple) (s : Option ExecError) :
    advance cs (.ok done) (lt :: ls) s = advance cs (.ok done) ls s := rfl

@[simp] theorem keepIf_andThen (ok : Bool) (t : Tuple) (T U : Trace) :
    (keepIf ok t T).andThen U = keepIf ok t (T.andThen U) := by
  cases ok <;> simp [keepIf]

end Trace

namespace Operator

/-! ## Rounds of a loop -/

/-- One round of a loop of `next` at fuel `n + 1` from `op`: it answers as the stream says,
or goes on at fuel `n` from a state with the same stream and a smaller measure `μ`. -/
def Round (s : Operator) (μ : Operator → Nat) (n : Nat) (op : Operator) : Prop :=
  StepsAt s (n + 1) op op.rest ∨
    ∃ op', next (n + 1) op = next n op' ∧ At s op' op.rest ∧ μ op' < μ op

/-- A loop each of whose rounds from fuel `base` on is a `Round` answers as its stream says
once the fuel covers the measure as well. -/
theorem steps_of_rounds {s : Operator} (μ : Operator → Nat) (base : Nat)
    (hround : ∀ op n, At s op op.rest → base ≤ n → Round s μ n op) :
    ∀ n op, At s op op.rest → base + μ op ≤ n → StepsAt s (n + 1) op op.rest := by
  intro n
  induction n with
  | zero =>
    intro op hat hn
    rcases hround op 0 hat (by omega) with h | ⟨op', -, -, hlt⟩
    · exact h
    · omega
  | succ n ih =>
    intro op hat hn
    rcases hround op (n + 1) hat (by omega) with h | ⟨op', hnext, hat', hlt⟩
    · exact h
    · -- a silent round costs one unit of fuel and lowers the measure
      have hrest := hat'.rest_eq
      have hsteps := ih op' ⟨hat'.good, hat'.skeleton_eq, rfl⟩ (by omega)
      unfold StepsAt at hsteps ⊢
      rw [hnext, ← hrest]
      exact hsteps

theorem round_of_keepIf {s op : Operator} {μ : Operator → Nat} {n : Nat} {b : Bool}
    {t : Tuple} (op' : Operator) (hnext : next (n + 2) op = if b then (op', .ok (some t)) else next (n + 1) op')
    (hat : At s op' op'.rest) (hrest : op.rest = Trace.keepIf b t op'.rest) (hlt : μ op' < μ op) :
    Round s μ (n + 1) op := by
  cases b
  · exact .inr ⟨op', hnext, ⟨hat.good, hat.skeleton_eq, by simp [hrest, Trace.keepIf]⟩, hlt⟩
  · rw [Round, hrest]
    exact .inl (StepsAt.of_cons hnext hat)

theorem round_of_fail {s op : Operator} {μ : Operator → Nat} {n : Nat} (e : ExecError)
    (hrest : op.rest = .fail e) (hnext : (next (n + 1) op).2 = .error e) : Round s μ n op := by
  rw [Round, hrest]
  exact .inl (StepsAt.of_fail hnext)

theorem round_of_done {s op : Operator} {μ : Operator → Nat} {n : Nat} (op' : Operator)
    (hrest : op.rest = .done) (hnext : next (n + 1) op = (op', .ok none)) (hat : At s op' .done) :
    Round s μ n op := by
  rw [Round, hrest]
  exact .inl (StepsAt.of_done op' hnext hat)

/-! ## The join loop -/

/-- Rounds the join loop can still take from a state: one per right tuple still to pair
with the held left tuple, and a whole pass of the right input for each left tuple to come. -/
def joinRounds : Operator → Nat
  | .join l r _ _ (some _) (some _) => r.rest.tuples.length + 1 + l.rest.tuples.length * r.work
  | .join l r _ _ (some _) none => l.rest.tuples.length * r.work
  | _ => 0

@[simp] theorem joinNext_none (n : Nat) (l r : Operator) (cs : List Bound) (sch : Schema)
    (partner : Option Tuple) :
    joinNext n l r cs sch none partner = (.join l r cs sch none partner, .ok none) := by
  cases n <;> rfl

theorem At.join_inv {l r : Operator} {cs : List Bound} {sch : Schema}
    {cur partner : Option Tuple} {op : Operator} {T : Trace}
    (h : At (.join l r cs sch cur partner) op T) :
    ∃ l' r' cur' partner', op = .join l' r' cs sch cur' partner' ∧ At l l' l'.rest ∧
      At r r' r'.rest ∧ T = op.rest := by
  obtain ⟨hg, hsk, hrest⟩ := h
  cases op <;> simp [Operator.skeleton] at hsk
  obtain ⟨hl, hr, rfl, rfl⟩ := hsk
  exact ⟨_, _, _, _, rfl, ⟨hg.1, hl, rfl⟩, ⟨hg.2, hr, rfl⟩, hrest.symm⟩

theorem At.join {l r l' r' : Operator} {L R : Trace} {cs : List Bound} {sch : Schema}
    {cur partner cur' partner' : Option Tuple} (hl : At l l' L) (hr : At r r' R) :
    At (.join l r cs sch cur partner) (.join l' r' cs sch cur' partner')
      (Operator.join l' r' cs sch cur' partner').rest :=
  ⟨⟨hl.good, hr.good⟩, by simp [skeleton, hl.skeleton_eq, hr.skeleton_eq], rfl⟩

section JoinLoop

variable {l r : Operator} {cs : List Bound} {sch : Schema} {cur partner : Option Tuple}

theorem pair_round (hr : Follows r) {l' r' : Operator} (lt rt : Tuple) {k : Nat}
    (hatl : At l l' l'.rest) (hatr : At r r' r'.rest) (hk : r.need ≤ k) :
    Round (.join l r cs sch cur partner) joinRounds (k + 1)
      (.join l' r' cs sch (some lt) (some rt)) := by
  cases hhold : Bound.holdAll (.pair lt rt) cs with
  | error e =>
    exact round_of_fail e (by simp [rest, Trace.pass_of_holdAll_error hhold])
      (by simp [next, joinNext, hhold])
  | ok b =>
    have hW := hatr.work
    rcases (hr r' _ hatr k hk).1.cases with
      ⟨rt', R', r'', hR, hnext, hat''⟩ | ⟨r'', hR, hnext, hat''⟩ | ⟨e, r'', hR, hnext⟩
    · refine round_of_keepIf (b := b) (t := lt.concat rt)
        (.join l' r'' cs sch (some lt) (some rt'))
        (by simp [next, joinNext, hhold, hnext]) (At.join hatl hat'') ?_ ?_
      · simp [rest, hR, hat''.rest_eq, hat''.replay, hatr.replay, Trace.pass, hhold]
      · simp [joinRounds, hR, hat''.rest_eq, hat''.work, hW]
    · -- the right input has ended: the held left tuple is done with
      refine round_of_keepIf (b := b) (t := lt.concat rt) (.join l' r'' cs sch (some lt) none)
        (by simp [next, joinNext, hhold, hnext]) (At.join hatl hat'') ?_ ?_
      · simp [rest, hR, hat''.replay, hatr.replay, Trace.pass, hhold]
      · simp [joinRounds, hR, hat''.work, hW]
    · exact round_of_fail e (by simp [rest, hR, Trace.pass, hhold])
        (by simp [next, joinNext, hhold, hnext])

theorem advance_round (hl : Follows l) (hr : Follows r) {l' r' : Operator} (lt : Tuple)
    {k : Nat} (hatl : At l l' l'.rest) (hatr : At r r' r'.rest) (hkl : l.need ≤ k)
    (hkr : r.need ≤ k) :
    Round (.join l r cs sch cur partner) joinRounds (k + 1) (.join l' r' cs sch (some lt) none) := by
  have hW := hatr.work
  rcases (hl l' _ hatl k hkl).1.cases with
    ⟨lt', L', l'', hL, hnextl, hatl''⟩ | ⟨l'', hL, hnextl, hatl''⟩ | ⟨e, l'', hL, hnextl⟩
  · rcases (hr r' _ hatr k hkr).2.cases with ⟨e, r'', hR, hreset⟩ | ⟨R, r'', hR, hreset, hatr''⟩
    · exact round_of_fail e (by simp [rest, hL, hatr.replay, hR, Trace.advance])
        (by simp [next, joinNext, hnextl, hreset])
    · have hRlen := hatr''.length
      rcases (hr r'' _ hatr'' k hkr).1.cases with
        ⟨rt, R', r₃, hR', hnextr, hatr₃⟩ | ⟨r₃, hR', hnextr, hatr₃⟩ | ⟨e, r₃, hR', hnextr⟩
      · -- the next left tuple is held with the right input's first tuple
        refine .inr ⟨.join l'' r₃ cs sch (some lt') (some rt),
          by simp [next, joinNext, hnextl, hreset, hnextr], ⟨⟨hatl''.good, hatr₃.good⟩,
            by simp [skeleton, hatl''.skeleton_eq, hatr₃.skeleton_eq], ?_⟩, ?_⟩
        · simp [rest, hL, hR', hatl''.rest_eq, hatr₃.rest_eq, hatr₃.replay, hatr.replay, hR]
        · have hW₃ := hatr₃.work
          simp only [joinRounds, hL, hatl''.rest_eq, hatr₃.rest_eq, hW, hW₃, Trace.cons_tuples,
            List.length_cons]
          rw [hR'] at hRlen
          simp only [Trace.cons_tuples, List.length_cons] at hRlen
          rw [Nat.succ_mul]
          omega
      · -- the right input is empty: the next left tuple is passed over
        refine .inr ⟨.join l'' r₃ cs sch (some lt') none,
          by simp [next, joinNext, hnextl, hreset, hnextr], ⟨⟨hatl''.good, hatr₃.good⟩,
            by simp [skeleton, hatl''.skeleton_eq, hatr₃.skeleton_eq], ?_⟩, ?_⟩
        · simp [rest, hL, hatl''.rest_eq, hatr₃.replay, hatr.replay, hR, hR']
        · have := two_le_work r
          simp only [joinRounds, hL, hatl''.rest_eq, hW, hatr₃.work, Trace.cons_tuples,
            List.length_cons]
          rw [Nat.succ_mul]
          omega
      · exact round_of_fail e
          (by simp [rest, hL, hatr.replay, hR, hR', Trace.advance, Trace.fail, Trace.cons])
          (by simp [next, joinNext, hnextl, hreset, hnextr])
  · -- the left input has ended: the join ends once the right input has started over
    rcases (hr r' _ hatr k hkr).2.cases with ⟨e, r'', hR, hreset⟩ | ⟨R, r'', hR, hreset, hatr''⟩
    · exact round_of_fail e (by simp [rest, hL, hatr.replay, hR, Trace.advance])
        (by simp [next, joinNext, hnextl, hreset])
    · rcases (hr r'' _ hatr'' k hkr).1.cases with
        ⟨rt, R', r₃, hR', hnextr, hatr₃⟩ | ⟨r₃, hR', hnextr, hatr₃⟩ | ⟨e, r₃, hR', hnextr⟩
      · exact round_of_done (.join l'' r₃ cs sch none (some rt))
          (by simp [rest, hL, hatr.replay, hR, hR', Trace.advance, Trace.cons])
          (by simp [next, joinNext, hnextl, hreset, hnextr]) (At.join hatl'' hatr₃)
      · exact round_of_done (.join l'' r₃ cs sch none none)
          (by simp [rest, hL, hatr.replay, hR, hR', Trace.advance, Trace.done])
          (by simp [next, joinNext, hnextl, hreset, hnextr]) (At.join hatl'' hatr₃)
      · exact round_of_fail e
          (by simp [rest, hL, hatr.replay, hR, hR', Trace.advance, Trace.fail, Trace.done])
          (by simp [next, joinNext, hnextl, hreset, hnextr])
  · exact round_of_fail e (by simp [rest, hL, Trace.advance])
      (by simp [next, joinNext, hnextl])

theorem join_round (hl : Follows l) (hr : Follows r) (op : Operator) (n : Nat)
    (hat : At (.join l r cs sch cur partner) op op.rest) (hn : max l.need r.need + 1 ≤ n) :
    Round (.join l r cs sch cur partner) joinRounds n op := by
  obtain ⟨l', r', cur', partner', rfl, hatl, hatr, -⟩ := hat.join_inv
  obtain ⟨k, rfl⟩ : ∃ k, n = k + 1 := ⟨n - 1, by omega⟩
  rcases cur' with _ | lt
  · exact .inl (StepsAt.of_done _ (by simp [next]) hat)
  · rcases partner' with _ | rt
    · exact advance_round hl hr lt hatl hatr (by omega) (by omega)
    · exact pair_round hr lt rt hatl hatr (by omega)

theorem joinRounds_le {l' r' : Operator} (hatl : At l l' l'.rest) (hatr : At r r' r'.rest)
    (cur' partner' : Option Tuple) :
    (Operator.join l' r' cs sch cur' partner').joinRounds ≤ l.work * r.work := by
  have hL := hatl.length
  have hR := hatr.length
  have hW := hatr.work
  rcases cur' with _ | lt
  · simp [joinRounds]
  · rcases partner' with _ | rt
    · simp only [joinRounds, hW]
      exact Nat.mul_le_mul_right _ (by omega)
    · simp only [joinRounds, hW]
      calc r'.rest.tuples.length + 1 + l'.rest.tuples.length * r.work
          ≤ r.work + l'.rest.tuples.length * r.work := by omega
        _ = (l'.rest.tuples.length + 1) * r.work := by rw [Nat.succ_mul]; omega
        _ ≤ l.work * r.work := Nat.mul_le_mul_right _ hL

/-- Reading the first tuples of inputs started over, whose streams are `L` and `R`, leads to
the join's primed stream. -/
theorem joinPrime_follows (hl : Follows l) (hr : Follows r) {l' r' : Operator} {L R : Trace}
    (hatl : At l l' L) (hatr : At r r' R) (hR : r.replay = .ok R) {k : Nat} (hkl : l.need ≤ k)
    (hkr : r.need ≤ k) (cur' partner' : Option Tuple) :
    (joinPrime (k + 1) l' r' cs sch cur' partner').2 = (Trace.primed cs L R).map (fun _ => ()) ∧
    ∀ T, Trace.primed cs L R = .ok T →
      At (.join l r cs sch cur partner) (joinPrime (k + 1) l' r' cs sch cur' partner').1 T := by
  rcases (hl l' L hatl k hkl).1.cases with
    ⟨lt, L', l'', rfl, hnextl, hatl''⟩ | ⟨l'', rfl, hnextl, hatl''⟩ | ⟨e, l'', rfl, hnextl⟩
  · rcases (hr r' R hatr k hkr).1.cases with
      ⟨rt, R', r'', rfl, hnextr, hatr''⟩ | ⟨r'', rfl, hnextr, hatr''⟩ | ⟨e, r'', rfl, hnextr⟩
    · -- both inputs have a first tuple: the join holds the pair
      have hprimed : Trace.primed cs (.cons lt L') (.cons rt R') =
          .ok (Operator.join l'' r'' cs sch (some lt) (some rt)).rest := by
        simp [Trace.primed, rest, hatl''.rest_eq, hatr''.rest_eq, hatr''.replay, hR, Trace.cons]
      refine ⟨by simp [joinPrime, hnextl, hnextr, hprimed, Except.map], fun T hT => ?_⟩
      rw [hprimed, Except.ok.injEq] at hT
      subst hT
      simp only [joinPrime, hnextl, hnextr, Option.isNone_some, Bool.false_eq_true, if_false]
      exact At.join hatl'' hatr''
    · have hprimed : Trace.primed cs (.cons lt L') .done = .ok .done := by
        simp [Trace.primed, Trace.cons, Trace.done]
      refine ⟨by simp [joinPrime, hnextl, hnextr, hprimed, Except.map], fun T hT => ?_⟩
      rw [hprimed, Except.ok.injEq] at hT
      subst hT
      simp only [joinPrime, hnextl, hnextr, Option.isNone_none, if_true]
      exact At.join hatl'' hatr''
    · have hprimed : Trace.primed cs (.cons lt L') (.fail e) = .error e := by
        simp [Trace.primed, Trace.cons, Trace.fail]
      exact ⟨by simp [joinPrime, hnextl, hnextr, hprimed, Except.map], fun T hT => by
        simp [hprimed] at hT⟩
  · -- the left input is empty: so is the join, once the right input's first read succeeds
    rcases (hr r' R hatr k hkr).1.cases with
      ⟨rt, R', r'', rfl, hnextr, hatr''⟩ | ⟨r'', rfl, hnextr, hatr''⟩ | ⟨e, r'', rfl, hnextr⟩
    · have hprimed : Trace.primed cs .done (.cons rt R') = .ok .done := by
        simp [Trace.primed, Trace.cons, Trace.done]
      refine ⟨by simp [joinPrime, hnextl, hnextr, hprimed, Except.map], fun T hT => ?_⟩
      rw [hprimed, Except.ok.injEq] at hT
      subst hT
      simp only [joinPrime, hnextl, hnextr, Option.isNone_some, Bool.false_eq_true, if_false]
      exact At.join hatl'' hatr''
    · have hprimed : Trace.primed cs .done .done = .ok .done := by
        simp [Trace.primed, Trace.done]
      refine ⟨by simp [joinPrime, hnextl, hnextr, hprimed, Except.map], fun T hT => ?_⟩
      rw [hprimed, Except.ok.injEq] at hT
      subst hT
      simp only [joinPrime, hnextl, hnextr, Option.isNone_none, if_true]
      exact At.join hatl'' hatr''
    · have hprimed : Trace.primed cs .done (.fail e) = .error e := by
        simp [Trace.primed, Trace.done, Trace.fail]
      exact ⟨by simp [joinPrime, hnextl, hnextr, hprimed, Except.map], fun T hT => by
        simp [hprimed] at hT⟩
  · have hprimed : Trace.primed cs (.fail e) R = .error e := by
      simp [Trace.primed, Trace.fail]
    exact ⟨by simp [joinPrime, hnextl, hprimed, Except.map], fun T hT => by simp [hprimed] at hT⟩

end JoinLoop

theorem follows_join {l r : Operator} (hl : Follows l) (hr : Follows r) (cs : List Bound)
    (sch : Schema) (cur partner : Option Tuple) : Follows (.join l r cs sch cur partner) := by
  intro op T hat n hn
  obtain ⟨l', r', cur', partner', rfl, hatl, hatr, rfl⟩ := hat.join_inv
  have hm : max l.need r.need + l.work * r.work + 3 ≤ n := by simpa [need] using hn
  obtain ⟨k, rfl⟩ : ∃ k, n = k + 2 := ⟨n - 2, by omega⟩
  refine ⟨?_, ?_⟩
  · have hμ : (Operator.join l' r' cs sch cur' partner').joinRounds ≤ l.work * r.work :=
      joinRounds_le hatl hatr cur' partner'
    exact steps_of_rounds joinRounds (max l.need r.need + 1) (join_round hl hr) (k + 1) _
      (At.join hatl hatr) (by omega)
  · -- a reset starts both inputs over and reads their first tuples
    rcases (hl l' _ hatl (k + 1) (by omega)).2.cases with
      ⟨e, l'', hL, hresetl⟩ | ⟨L, l'', hL, hresetl, hatl''⟩
    · exact ⟨by simp [reset, hresetl, replay, hL, Except.bind, Except.map], fun T hT => by
        simp [replay, hL, Except.bind] at hT⟩
    · rcases (hr r' _ hatr (k + 1) (by omega)).2.cases with
        ⟨e, r'', hR, hresetr⟩ | ⟨R, r'', hR, hresetr, hatr''⟩
      · exact ⟨by simp [reset, hresetl, hresetr, replay, hL, hR, Except.bind, Except.map],
          fun T hT => by simp [replay, hL, hR, Except.bind] at hT⟩
      · have hreplay : (Operator.join l r cs sch cur partner).replay = Trace.primed cs L R := by
          simp [replay, hL, hR, Except.bind]
        rw [RestartsAt, hreplay]
        simp only [reset, hresetl, hresetr]
        exact joinPrime_follows hl hr hatl'' hatr'' hR (by omega) (by omega) cur' partner'

end Operator

end CsvQuery
