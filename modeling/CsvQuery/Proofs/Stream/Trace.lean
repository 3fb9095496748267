import CsvQuery.Exec.Operator

/-!
# Streams as traces

An operator state is read through what its calls of `next` answer from that state on. A
`Trace` holds those answers: the tuples in order, then either the end of the stream
(`stop = none`) or the error that stops it. A call of `next` answers the trace's `head` and
leaves its `tail`.

Each operator's stream is built from its inputs' traces:

* `Trace.scanLines`   the tuples of the non-blank lines of a table, lines numbered from the
                      given one;
* `Trace.filter`      the tuples a predicate keeps, stopping at the first that it cannot
                      evaluate;
* `Trace.project`     each tuple's picked values;
* `Trace.pass`        one left tuple joined with a right tuple and the right input after it;
* `Trace.advance`     each further left tuple joined with the whole right input, started
                      over for it;
* `Trace.dedup`       the first tuple of each key;
* `Trace.lag`         a stream with one tuple held ahead.

A stream that holds a tuple ahead (a join's right partner, a duplicate filter's lookahead)
answers with it only once reading the next one has succeeded: `lag` and the error branches
of `pass` lose the held tuple when that read fails.
-/

namespace CsvQuery

/-- What a stream answers from some state on: its tuples, then its end or the error that
stops it. -/
structure Trace where
  tuples : List Tuple
  stop : Option ExecError
deriving DecidableEq, Repr, Inhabited

namespace Trace

/-- The stream that ends at once. -/
def done : Trace := ⟨[], none⟩

/-- The stream that fails at once. -/
def fail (e : ExecError) : Trace := ⟨[], some e⟩

/-- One tuple in front of a stream. -/
def cons (t : Tuple) (T : Trace) : Trace := ⟨t :: T.tuples, T.stop⟩

/-- `a`, then `b` if `a` ends. -/
def andThen (a b : Trace) : Trace :=
  match a.stop with
  | none => ⟨a.tuples ++ b.tuples, b.stop⟩
  | some _ => a

/-- What one call of `next` answers. -/
def head : Trace → Except ExecError (Option Tuple)
  | ⟨t :: _, _⟩ => .ok (some t)
  | ⟨[], none⟩ => .ok none
  | ⟨[], some e⟩ => .error e

/-- What is left after one call that answered. -/
def tail (T : Trace) : Trace := ⟨T.tuples.tail, T.stop⟩

@[simp] theorem head_cons (t : Tuple) (T : Trace) : (cons t T).head = .ok (some t) := rfl
@[simp] theorem tail_cons (t : Tuple) (T : Trace) : (cons t T).tail = T := rfl
@[simp] theorem done_tuples : done.tuples = [] := rfl
@[simp] theorem done_stop : done.stop = none := rfl
@[simp] theorem fail_tuples (e : ExecError) : (fail e).tuples = [] := rfl
@[simp] theorem fail_stop (e : ExecError) : (fail e).stop = some e := rfl
@[simp] theorem head_done : done.head = .ok none := rfl
@[simp] theorem tail_done : done.tail = done := rfl
@[simp] theorem head_fail (e : ExecError) : (fail e).head = .error e := rfl
@[simp] theorem head_nil_none : (⟨[], none⟩ : Trace).head = .ok none := rfl
@[simp] theorem head_nil_some (e : ExecError) : (⟨[], some e⟩ : Trace).head = .error e := rfl
@[simp] theorem head_mk_cons (t : Tuple) (ts : List Tuple) (s : Option ExecError) :
    (⟨t :: ts, s⟩ : Trace).head = .ok (some t) := rfl
@[simp] theorem tail_mk (ts : List Tuple) (s : Option ExecError) :
    (⟨ts, s⟩ : Trace).tail = ⟨ts.tail, s⟩ := rfl
@[simp] theorem cons_tuples (t : Tuple) (T : Trace) : (cons t T).tuples = t :: T.tuples := rfl
@[simp] theorem cons_stop (t : Tuple) (T : Trace) : (cons t T).stop = T.stop := rfl

@[simp] theorem done_andThen (b : Trace) : done.andThen b = b := rfl
@[simp] theorem fail_andThen (e : ExecError) (b : Trace) : (fail e).andThen b = fail e := rfl
@[simp] theorem cons_andThen (t : Tuple) (a b : Trace) :
    (cons t a).andThen b = cons t (a.andThen b) := by
  obtain ⟨ts, s⟩ := a
  cases s <;> rfl

theorem mk_cons_eq_cons {t t' : Tuple} {ts : List Tuple} {s : Option ExecError} {T : Trace} :
    (⟨t :: ts, s⟩ : Trace) = cons t' T ↔ t = t' ∧ T = ⟨ts, s⟩ := by
  obtain ⟨ts', s'⟩ := T
  simp only [cons, Trace.mk.injEq, List.cons.injEq]
  constructor
  · rintro ⟨⟨rfl, rfl⟩, rfl⟩; exact ⟨rfl, rfl, rfl⟩
  · rintro ⟨rfl, rfl, rfl⟩; exact ⟨⟨rfl, rfl⟩, rfl⟩

theorem cases_head (T : Trace) :
    T = done ∨ (∃ e, T = fail e) ∨ ∃ t T', T = cons t T' := by
  obtain ⟨ts, s⟩ := T
  cases ts with
  | nil => cases s <;> simp [done, fail]
  | cons t ts => exact .inr (.inr ⟨t, ⟨ts, s⟩, rfl⟩)

theorem length_andThen_le (a b : Trace) :
    (a.andThen b).tuples.length ≤ a.tuples.length + b.tuples.length := by
  unfold andThen
  cases a.stop <;> simp

/-! ## Scans -/

/-- The tuples of a table's lines, the first of them numbered `line + 1`: a blank line
yields nothing but still counts, a read failure or a malformed line stops the stream. -/
def scanLines (table : String) : Nat → List (Except IoFailure String) → Trace
  | _, [] => done
  | _, .error e :: _ => fail (.sourceUnavailable table e)
  | line, .ok text :: rest =>
    if Blank.isAllBlank text.toList then scanLines table (line + 1) rest
    else
      match parseRow table (line + 1) text with
      | .ok t => cons t (scanLines table (line + 1) rest)
      | .error e => fail e

theorem length_scanLines (table : String) (line : Nat) (ls : List (Except IoFailure String)) :
    (scanLines table line ls).tuples.length ≤ ls.length := by
  induction ls generalizing line with
  | nil => simp [scanLines, done]
  | cons x ls ih =>
    rcases x with e | text
    · simp [scanLines, fail]
    · unfold scanLines
      split
      · have := ih (line + 1); simp only [List.length_cons]; omega
      · split <;> simp [cons, fail, ih]

/-! ## Selections and projections -/

/-- The tuples that `p` keeps. -/
def filter (p : Bound) : List Tuple → Option ExecError → Trace
  | [], s => ⟨[], s⟩
  | t :: ts, s =>
    match p.holds (.single t) with
    | .ok true => cons t (filter p ts s)
    | .ok false => filter p ts s
    | .error e => fail e

/-- Each tuple's values at the slots. -/
def project (slots : List Slot) : List Tuple → Option ExecError → Trace
  | [], s => ⟨[], s⟩
  | t :: ts, s =>
    match slots.mapM (Slot.valueIn t) with
    | .ok vs => cons ⟨vs⟩ (project slots ts s)
    | .error e => fail e

theorem length_filter (p : Bound) (ts : List Tuple) (s : Option ExecError) :
    (filter p ts s).tuples.length ≤ ts.length := by
  induction ts with
  | nil => simp [filter]
  | cons t ts ih =>
    unfold filter
    split <;> simp [cons, fail] <;> omega

theorem length_project (slots : List Slot) (ts : List Tuple) (s : Option ExecError) :
    (project slots ts s).tuples.length ≤ ts.length := by
  induction ts with
  | nil => simp [project]
  | cons t ts ih =>
    unfold project
    split <;> simp [cons, fail, ih]

/-! ## Joins -/

/-- `t` in front of `T` when the pair was kept. -/
def keepIf (ok : Bool) (t : Tuple) (T : Trace) : Trace := if ok then cons t T else T

/-- The left tuple `lt` joined with the right tuple `rt` it holds and the right tuples
`rs` after it, which end as `s`. A kept pair is answered once the right input has been
read past it. Ending means the right input ran out for `lt`. -/
def pass (cs : List Bound) (lt : Tuple) : Tuple → List Tuple → Option ExecError → Trace
  | rt, [], s =>
    match Bound.holdAll (.pair lt rt) cs, s with
    | .error e, _ => fail e
    | .ok _, some e => fail e
    | .ok ok, none => keepIf ok (lt.concat rt) done
  | rt, rt' :: rs, s =>
    match Bound.holdAll (.pair lt rt) cs with
    | .error e => fail e
    | .ok ok => keepIf ok (lt.concat rt) (pass cs lt rt' rs s)

/-- The left tuples `ls`, which end as `s`, each joined with the right input started over,
whose stream is `R` (or the failure of starting it over). -/
def advance (cs : List Bound) (R : Except ExecError Trace) : List Tuple → Option ExecError → Trace
  | [], some e => fail e
  | [], none =>
    match R with
    | .error e => fail e
    | .ok ⟨[], some e⟩ => fail e
    | .ok _ => done
  | lt :: ls, s =>
    match R with
    | .error e => fail e
    | .ok ⟨[], some e⟩ => fail e
    | .ok ⟨[], none⟩ => advance cs R ls s
    | .ok ⟨rt :: rs, rstop⟩ => (pass cs lt rt rs rstop).andThen (advance cs R ls s)

/-- A join's stream once both inputs are started and their first tuples read: `L` and
`R` are the inputs' streams. It fails when a first read fails. -/
def primed (cs : List Bound) (L R : Trace) : Except ExecError Trace :=
  match L, R with
  | ⟨[], some e⟩, _ => .error e
  | _, ⟨[], some e⟩ => .error e
  | _, ⟨[], none⟩ => .ok done
  | ⟨[], none⟩, _ => .ok done
  | ⟨lt :: ls, s⟩, ⟨rt :: rs, rstop⟩ =>
    .ok ((pass cs lt rt rs rstop).andThen (advance cs (.ok ⟨rt :: rs, rstop⟩) ls s))

@[simp] theorem length_keepIf (ok : Bool) (t : Tuple) (T : Trace) :
    (keepIf ok t T).tuples.length ≤ T.tuples.length + 1 := by
  unfold keepIf; split <;> simp

theorem length_pass (cs : List Bound) (lt rt : Tuple) (rs : List Tuple) (s : Option ExecError) :
    (pass cs lt rt rs s).tuples.length ≤ rs.length + 1 := by
  induction rs generalizing rt with
  | nil =>
    unfold pass
    split
    · simp [fail]
    · simp [fail]
    · have := length_keepIf ‹Bool› (lt.concat rt) done; simp_all [done]
  | cons rt' rs ih =>
    unfold pass
    split
    · simp [fail]
    · have h1 := length_keepIf ‹Bool› (lt.concat rt) (pass cs lt rt' rs s)
      have h2 := ih rt'
      simp only [List.length_cons]; omega

theorem length_advance (cs : List Bound) (R : Trace) (ls : List Tuple) (s : Option ExecError) :
    (advance cs (.ok R) ls s).tuples.length ≤ ls.length * R.tuples.length := by
  induction ls with
  | nil =>
    obtain ⟨rts, rstop⟩ := R
    cases s <;> cases rts <;> (try cases rstop) <;> simp [advance, fail, done]
  | cons lt ls ih =>
    obtain ⟨rts, rstop⟩ := R
    cases rts with
    | nil => cases rstop <;> simp_all [advance, fail]
    | cons rt rs =>
      have h1 := length_andThen_le (pass cs lt rt rs rstop) (advance cs (.ok ⟨rt :: rs, rstop⟩) ls s)
      have h2 := length_pass cs lt rt rs rstop
      simp only [advance, List.length_cons] at h1 h2 ih ⊢
      rw [Nat.succ_mul]
      omega

theorem length_primed {cs : List Bound} {L R T : Trace} (h : primed cs L R = .ok T) :
    T.tuples.length ≤ L.tuples.length * R.tuples.length := by
  unfold primed at h
  split at h
  · cases h
  · cases h
  · -- an input is empty: so is the join
    cases h; simp
  · cases h; simp
  · rename_i lt ls s rt rs rstop
    simp only [Except.ok.injEq] at h
    subst h
    have h1 := length_andThen_le (pass cs lt rt rs rstop)
      (advance cs (.ok ⟨rt :: rs, rstop⟩) ls s)
    have h2 := length_pass cs lt rt rs rstop
    have h3 := length_advance cs ⟨rt :: rs, rstop⟩ ls s
    simp only [List.length_cons] at h1 h2 h3 ⊢
    rw [Nat.succ_mul]
    omega

/-! ## Duplicate filters -/

/-- The tuples whose key at positions `ks` is not among `seen` nor any earlier kept key. -/
def dedup (ks : List Nat) : List (List Int) → List Tuple → Option ExecError → Trace
  | _, [], s => ⟨[], s⟩
  | seen, t :: ts, s =>
    match ks.mapM t.valueAt with
    | .error e => fail e
    | .ok key =>
      if seen.contains key then dedup ks seen ts s else cons t (dedup ks (seen ++ [key]) ts s)

/-- `t` held ahead of the tuples `us`, which end as `s`: each held tuple is answered once
the following one has been read, so a failure loses the tuple held at the time. -/
def lag (t : Tuple) : List Tuple → Option ExecError → Trace
  | [], none => cons t done
  | [], some e => fail e
  | u :: us, s => cons t (lag u us s)

/-- A stream whose first tuple is held back until the one after it is read. -/
def held : Trace → Trace
  | ⟨[], _⟩ => done
  | ⟨u :: us, s⟩ => lag u us s

/-- A duplicate filter's stream once its input is started and its first tuple found: it
fails as that first search does. -/
def primedDedup (ks : List Nat) (C : Trace) : Except ExecError Trace :=
  (dedup ks [] C.tuples C.stop).head.map fun _ => (dedup ks [] C.tuples C.stop).held

theorem length_dedup (ks : List Nat) (seen : List (List Int)) (ts : List Tuple)
    (s : Option ExecError) : (dedup ks seen ts s).tuples.length ≤ ts.length := by
  induction ts generalizing seen with
  | nil => simp [dedup]
  | cons t ts ih =>
    unfold dedup
    split
    · simp [fail]
    · split
      · have := ih seen; simp only [List.length_cons]; omega
      · simp [cons, ih]

theorem length_lag (t : Tuple) (us : List Tuple) (s : Option ExecError) :
    (lag t us s).tuples.length ≤ us.length + 1 := by
  induction us generalizing t with
  | nil => cases s <;> simp [lag, cons, done, fail]
  | cons u us ih => simp [lag, cons, ih]

theorem length_held : ∀ D : Trace, D.held.tuples.length ≤ D.tuples.length
  | ⟨[], _⟩ => by simp [held]
  | ⟨u :: us, s⟩ => by simpa [held] using length_lag u us s

theorem length_primedDedup {ks : List Nat} {C T : Trace} (h : primedDedup ks C = .ok T) :
    T.tuples.length ≤ C.tuples.length := by
  unfold primedDedup at h
  cases hv : (dedup ks [] C.tuples C.stop).head with
  | error e => simp [hv, Except.map] at h
  | ok v =>
    simp only [hv, Except.map, Except.ok.injEq] at h
    subst h
    exact Nat.le_trans (length_held _) (length_dedup ks [] C.tuples C.stop)

end Trace

end CsvQuery
