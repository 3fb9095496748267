import CsvQuery.Proofs.Stream.State

/-!
# Operators that pull from one input

Each operator here follows its stream (`Follows`) as soon as its input does:

* `follows_scan`       a scan reads lines until a non-blank one, and starts its source over;
* `follows_select`     a selection pulls until its predicate holds;
* `follows_project`    a projection pulls once and picks values;
* `follows_aggregate`, `follows_sort`   buffers replayed from a cursor;
* `follows_distinct`   a duplicate filter answers its lookahead once the next new key is
                       found, and on a reset forgets its keys and finds the first tuple again.

Each loop is proved by induction on the tuples its input still has to answer: a round that
pulls a tuple leaves one tuple less and one unit of fuel less, so the fuel that covers the
input's stream and the input's own calls covers the loop.
-/

namespace CsvQuery

namespace Operator

/-! ## Scans -/

theorem scanNext_lines (t : String) (all : List (Except IoFailure String)) :
    ∀ (rest : List (Except IoFailure String)) (line n : Nat), rest.length < n →
      (scanNext t n (.lines all rest) line).2 = (Trace.scanLines t line rest).head ∧
      ∀ v, (Trace.scanLines t line rest).head = .ok v →
        ∃ rest' line' ex', (scanNext t n (.lines all rest) line).1 =
            .scan t (.lines all rest') line' ex' ∧ rest'.length ≤ rest.length ∧
          (Operator.scan t (.lines all rest') line' ex').rest = (Trace.scanLines t line rest).tail := by
  intro rest
  induction rest with
  | nil =>
    intro line n hn
    obtain ⟨m, rfl⟩ : ∃ m, n = m + 1 := ⟨n - 1, by simp at hn; omega⟩
    refine ⟨rfl, fun _ _ => ⟨[], line, true, rfl, le_refl _, rfl⟩⟩
  | cons x rest ih =>
    intro line n hn
    obtain ⟨m, rfl⟩ : ∃ m, n = m + 1 := ⟨n - 1, by simp at hn; omega⟩
    rcases x with e | text
    · exact ⟨rfl, fun v hv => by simp [Trace.scanLines] at hv⟩
    · by_cases hblank : Blank.isAllBlank text.toList = true
      · -- a blank line is counted and skipped: the loop goes on with one unit less
        have hloop : scanNext t (m + 1) (.lines all (.ok text :: rest)) line =
            scanNext t m (.lines all rest) (line + 1) := by
          simp [scanNext, LineSource.next, hblank]
        have htrace : Trace.scanLines t line (.ok text :: rest) = Trace.scanLines t (line + 1) rest := by
          simp [Trace.scanLines, hblank]
        obtain ⟨h1, h2⟩ := ih (line + 1) m (by simp at hn; omega)
        refine ⟨by rw [hloop, htrace, h1], fun v hv => ?_⟩
        obtain ⟨rest', line', ex', heq, hlen, hrest⟩ := h2 v (htrace ▸ hv)
        exact ⟨rest', line', ex', hloop ▸ heq, by simp; omega, htrace ▸ hrest⟩
      · have hloop : scanNext t (m + 1) (.lines all (.ok text :: rest)) line =
            (.scan t (.lines all rest) (line + 1) false, some <$> parseRow t (line + 1) text) := by
          simp [scanNext, LineSource.next, hblank]
        cases hrow : parseRow t (line + 1) text with
        | error e =>
          have htrace : Trace.scanLines t line (.ok text :: rest) = .fail e := by
            simp [Trace.scanLines, hblank, hrow]
          refine ⟨by rw [hloop, htrace, hrow]; rfl, fun v hv => by simp [htrace] at hv⟩
        | ok tp =>
          have htrace : Trace.scanLines t line (.ok text :: rest) =
              .cons tp (Trace.scanLines t (line + 1) rest) := by
            simp [Trace.scanLines, hblank, hrow]
          refine ⟨by rw [hloop, htrace, hrow]; rfl, fun _ _ => ?_⟩
          exact ⟨rest, line + 1, false, by rw [hloop], by simp, by
            rw [htrace, Trace.tail_cons]; rfl⟩

theorem At.scan_inv {t : String} {src : LineSource} {line : Nat} {ex : Bool} {op : Operator}
    {T : Trace} (h : At (.scan t src line ex) op T) :
    ∃ src' line' ex', op = .scan t src' line' ex' ∧ src'.rewind = src.rewind ∧ src'.Good ∧
      T = if ex' then .done else src'.trace t line' := by
  obtain ⟨hg, hsk, hrest⟩ := h
  cases op <;> simp [Operator.skeleton] at hsk
  obtain ⟨rfl, hsrc⟩ := hsk
  exact ⟨_, _, _, rfl, hsrc, hg, hrest.symm⟩

theorem follows_scan (t : String) (src : LineSource) (line : Nat) (ex : Bool) :
    Follows (.scan t src line ex) := by
  intro op T hat n hn
  obtain ⟨src', line', ex', rfl, hsrc, hgood, rfl⟩ := hat.scan_inv
  have hsize : src'.size = src.size := by rw [← LineSource.size_rewind src', hsrc, LineSource.size_rewind]
  obtain ⟨m, rfl⟩ : ∃ m, n = m + 1 := ⟨n - 1, by simp [need] at hn; omega⟩
  have hstart : At (.scan t src line ex) (.scan t src'.rewind 0 false) (src.rewind.trace t 0) :=
    ⟨LineSource.good_rewind src', by simp [skeleton, hsrc], by simp [rest, hsrc]⟩
  refine ⟨?_, ⟨rfl, fun T hT => ?_⟩⟩
  · cases ex'
    · rcases src' with ⟨all, rest⟩ | e
      · have hlen : rest.length < m := by
          simp only [need, LineSource.size] at hn hsize; simp only [LineSource.Good] at hgood; omega
        obtain ⟨h1, h2⟩ := scanNext_lines t all rest line' m hlen
        refine ⟨h1, fun v hv => ?_⟩
        obtain ⟨rest', line'', ex'', heq, hlen', hrest⟩ := h2 v hv
        show At _ (scanNext t m (.lines all rest) line').1 _
        rw [heq]
        exact ⟨by simp only [Good, LineSource.Good] at hgood ⊢; omega,
          by simpa [skeleton, LineSource.rewind] using hsrc, hrest⟩
      · obtain ⟨k, rfl⟩ : ∃ k, m = k + 1 := ⟨m - 1, by simp [need] at hn; omega⟩
        exact ⟨rfl, fun v hv => by simp [LineSource.trace] at hv⟩
    · exact ⟨rfl, fun _ _ => ⟨hgood, by simp [next, skeleton, hsrc], rfl⟩⟩
  · simp only [replay, Except.ok.injEq] at hT
    subst hT
    exact hstart

/-! ## Selections -/

theorem At.select_inv {c : Operator} {p : Bound} {op : Operator} {T : Trace}
    (h : At (.select c p) op T) :
    ∃ c', op = .select c' p ∧ At c c' c'.rest ∧ T = Trace.filter p c'.rest.tuples c'.rest.stop := by
  obtain ⟨hg, hsk, hrest⟩ := h
  cases op <;> simp [Operator.skeleton] at hsk
  obtain ⟨hc, rfl⟩ := hsk
  exact ⟨_, rfl, ⟨hg, hc, rfl⟩, hrest.symm⟩

theorem selectNext_follows {c : Operator} (hc : Follows c) (p : Bound) :
    ∀ (ts : List Tuple) (s : Option ExecError) (c' : Operator) (m : Nat), At c c' ⟨ts, s⟩ →
      c.need + ts.length + 1 ≤ m →
      (selectNext m c' p).2 = (Trace.filter p ts s).head ∧
      ∀ v, (Trace.filter p ts s).head = .ok v →
        At (.select c p) (selectNext m c' p).1 (Trace.filter p ts s).tail := by
  intro ts
  induction ts with
  | nil =>
    intro s c' m hat hm
    obtain ⟨k, rfl⟩ : ∃ k, m = k + 1 := ⟨m - 1, by omega⟩
    have hstep := (hc c' _ hat k (by simp at hm; omega)).1
    rcases hstep.cases with ⟨t, T', c'', hT, -, -⟩ | ⟨c'', hT, hnext, hat'⟩ | ⟨e, c'', hT, hnext⟩
    · cases hT
    · cases hT
      refine ⟨by simp [selectNext, hnext, Trace.filter], fun _ _ => ?_⟩
      simp only [selectNext, hnext]
      exact ⟨hat'.good, by simp [skeleton, hat'.skeleton_eq], by simp [rest, hat'.rest_eq, Trace.filter, Trace.done]⟩
    · cases hT
      exact ⟨by simp [selectNext, hnext, Trace.filter], fun v hv => by
        simp [Trace.filter, Trace.head] at hv⟩
  | cons t ts ih =>
    intro s c' m hat hm
    obtain ⟨k, rfl⟩ : ∃ k, m = k + 1 := ⟨m - 1, by omega⟩
    have hstep := (hc c' _ hat k (by simp at hm; omega)).1
    rcases hstep.cases with ⟨t', T', c'', hT, hnext, hat'⟩ | ⟨c'', hT, -, -⟩ | ⟨e, c'', hT, -⟩
    · obtain ⟨rfl, rfl⟩ := Trace.mk_cons_eq_cons.1 hT
      cases hp : p.holds (.single t) with
      | error e =>
        exact ⟨by simp [selectNext, hnext, hp, Trace.filter, Trace.fail], fun v hv => by
          simp [Trace.filter, hp, Trace.fail, Trace.head] at hv⟩
      | ok b =>
        cases b
        · -- the tuple is not kept: the loop goes on from the input's next state
          obtain ⟨h1, h2⟩ := ih s c'' k hat' (by simp at hm; omega)
          have hloop : selectNext (k + 1) c' p = selectNext k c'' p := by
            simp [selectNext, hnext, hp]
          have hkeep : Trace.filter p (t :: ts) s = Trace.filter p ts s := by
            simp [Trace.filter, hp]
          rw [hloop, hkeep]
          exact ⟨h1, h2⟩
        · refine ⟨by simp [selectNext, hnext, hp, Trace.filter], fun _ _ => ?_⟩
          simp only [selectNext, hnext, hp]
          exact ⟨hat'.good, by simp [skeleton, hat'.skeleton_eq], by
            simp [rest, hat'.rest_eq, Trace.filter, hp]⟩
    · cases hT
    · cases hT

theorem follows_select {c : Operator} (hc : Follows c) (p : Bound) : Follows (.select c p) := by
  intro op T hat n hn
  obtain ⟨c', rfl, hat', rfl⟩ := hat.select_inv
  obtain ⟨m, rfl⟩ : ∃ m, n = m + 1 := ⟨n - 1, by simp [need] at hn; omega⟩
  have hlen := hat'.length
  refine ⟨selectNext_follows hc p _ _ c' m hat' (by simp [need] at hn; omega), ?_⟩
  rcases (hc c' _ hat' m (by simp [need] at hn; omega)).2.cases with
    ⟨e, c'', hr, hreset⟩ | ⟨C, c'', hr, hreset, hat''⟩
  · exact ⟨by simp [reset, hreset, replay, hr, Except.map], fun T hT => by
      simp [replay, hr, Except.map] at hT⟩
  · refine ⟨by simp [reset, hreset, replay, hr, Except.map], fun T hT => ?_⟩
    simp only [replay, hr, Except.map, Except.ok.injEq] at hT
    subst hT
    simp only [reset, hreset]
    exact ⟨hat''.good, by simp [skeleton, hat''.skeleton_eq], by simp [rest, hat''.rest_eq]⟩

/-! ## Projections -/

theorem At.project_inv {c : Operator} {slots : List Slot} {sch : Schema} {op : Operator}
    {T : Trace} (h : At (.project c slots sch) op T) :
    ∃ c', op = .project c' slots sch ∧ At c c' c'.rest ∧
      T = Trace.project slots c'.rest.tuples c'.rest.stop := by
  obtain ⟨hg, hsk, hrest⟩ := h
  cases op <;> simp [Operator.skeleton] at hsk
  obtain ⟨hc, rfl, rfl⟩ := hsk
  exact ⟨_, rfl, ⟨hg, hc, rfl⟩, hrest.symm⟩

theorem follows_project {c : Operator} (hc : Follows c) (slots : List Slot) (sch : Schema) :
    Follows (.project c slots sch) := by
  intro op T hat n hn
  obtain ⟨c', rfl, hat', rfl⟩ := hat.project_inv
  obtain ⟨m, rfl⟩ : ∃ m, n = m + 1 := ⟨n - 1, by simp [need] at hn; omega⟩
  have hcm : c.need ≤ m := by simp [need] at hn; omega
  refine ⟨?_, ?_⟩
  · rcases (hc c' _ hat' m hcm).1.cases with
      ⟨t, T', c'', hT, hnext, hat''⟩ | ⟨c'', hT, hnext, hat''⟩ | ⟨e, c'', hT, hnext⟩
    · rw [hT]
      cases hv : slots.mapM (Slot.valueIn t) with
      | error e =>
        exact ⟨by simp [next, hnext, hv, Trace.project], fun v h => by
          simp [Trace.project, hv, Trace.fail] at h⟩
      | ok vs =>
        refine ⟨by simp [next, hnext, hv, Trace.project], fun _ _ => ?_⟩
        simp only [next, hnext]
        exact ⟨hat''.good, by simp [skeleton, hat''.skeleton_eq], by
          simp [rest, hat''.rest_eq, Trace.project, hv]⟩
    · rw [hT]
      refine ⟨by simp [next, hnext, Trace.project, Trace.done], fun _ _ => ?_⟩
      simp only [next, hnext]
      exact ⟨hat''.good, by simp [skeleton, hat''.skeleton_eq], by
        simp [rest, hat''.rest_eq, Trace.project, Trace.done]⟩
    · rw [hT]
      exact ⟨by simp [next, hnext, Trace.project, Trace.fail], fun v h => by
        simp [Trace.project, Trace.fail] at h⟩
  · rcases (hc c' _ hat' m hcm).2.cases with ⟨e, c'', hr, hreset⟩ | ⟨C, c'', hr, hreset, hat''⟩
    · exact ⟨by simp [reset, hreset, replay, hr, Except.map], fun T hT => by
        simp [replay, hr, Except.map] at hT⟩
    · refine ⟨by simp [reset, hreset, replay, hr, Except.map], fun T hT => ?_⟩
      simp only [replay, hr, Except.map, Except.ok.injEq] at hT
      subst hT
      simp only [reset, hreset]
      exact ⟨hat''.good, by simp [skeleton, hat''.skeleton_eq], by simp [rest, hat''.rest_eq]⟩

/-! ## Buffers -/

theorem head_buffer (rs : List Tuple) (k : Nat) :
    (⟨rs.drop k, none⟩ : Trace).head = .ok rs[k]? := by
  by_cases hk : k < rs.length
  · rw [List.drop_eq_getElem_cons hk, List.getElem?_eq_getElem hk]; rfl
  · rw [List.drop_eq_nil_of_le (by omega), List.getElem?_eq_none (by omega)]; rfl

theorem tail_buffer (rs : List Tuple) (k : Nat) :
    (⟨rs.drop k, none⟩ : Trace).tail = ⟨rs.drop (k + 1), none⟩ := by
  show (⟨(rs.drop k).tail, none⟩ : Trace) = _
  rw [List.tail_drop]

theorem At.aggregate_inv {rs : List Tuple} {k : Nat} {sch : Schema} {op : Operator} {T : Trace}
    (h : At (.aggregate rs k sch) op T) : ∃ k', op = .aggregate rs k' sch ∧ T = ⟨rs.drop k', none⟩ := by
  obtain ⟨hg, hsk, hrest⟩ := h
  cases op <;> simp [Operator.skeleton] at hsk
  obtain ⟨rfl, rfl⟩ := hsk
  exact ⟨_, rfl, hrest.symm⟩

theorem At.sort_inv {ts : List Tuple} {k : Nat} {op : Operator} {T : Trace}
    (h : At (.sort ts k) op T) : ∃ k', op = .sort ts k' ∧ T = ⟨ts.drop k', none⟩ := by
  obtain ⟨hg, hsk, hrest⟩ := h
  cases op <;> simp [Operator.skeleton] at hsk
  subst hsk
  exact ⟨_, rfl, hrest.symm⟩

theorem follows_aggregate (rs : List Tuple) (k : Nat) (sch : Schema) :
    Follows (.aggregate rs k sch) := by
  intro op T hat n hn
  obtain ⟨k', rfl, rfl⟩ := hat.aggregate_inv
  obtain ⟨m, rfl⟩ : ∃ m, n = m + 1 := ⟨n - 1, by simp [need] at hn; omega⟩
  refine ⟨⟨?_, fun _ _ => ?_⟩, ⟨rfl, fun T hT => ?_⟩⟩
  · rw [head_buffer]
    simp only [next]
    split <;> simp_all
  · rw [tail_buffer]
    simp only [next]
    split
    · exact ⟨trivial, rfl, rfl⟩
    · rename_i h
      have hk := List.getElem?_eq_none_iff.1 h
      exact ⟨trivial, rfl, by simp [rest, List.drop_eq_nil_of_le hk, List.drop_eq_nil_of_le (Nat.le_succ_of_le hk)]⟩
  · simp only [replay, Except.ok.injEq] at hT
    subst hT
    exact ⟨trivial, rfl, by simp [reset, rest]⟩

theorem follows_sort (ts : List Tuple) (k : Nat) : Follows (.sort ts k) := by
  intro op T hat n hn
  obtain ⟨k', rfl, rfl⟩ := hat.sort_inv
  obtain ⟨m, rfl⟩ : ∃ m, n = m + 1 := ⟨n - 1, by simp [need] at hn; omega⟩
  refine ⟨⟨?_, fun _ _ => ?_⟩, ⟨rfl, fun T hT => ?_⟩⟩
  · rw [head_buffer]
    simp only [next]
    split <;> simp_all
  · rw [tail_buffer]
    simp only [next]
    split
    · exact ⟨trivial, rfl, rfl⟩
    · rename_i h
      have hk := List.getElem?_eq_none_iff.1 h
      exact ⟨trivial, rfl, by simp [rest, List.drop_eq_nil_of_le hk, List.drop_eq_nil_of_le (Nat.le_succ_of_le hk)]⟩
  · simp only [replay, Except.ok.injEq] at hT
    subst hT
    exact ⟨trivial, rfl, by simp [reset, rest]⟩

/-! ## Duplicate filters -/

@[simp] theorem lag_nil_none (t : Tuple) : Trace.lag t [] none = .cons t .done := rfl
@[simp] theorem lag_nil_some (t : Tuple) (e : ExecError) : Trace.lag t [] (some e) = .fail e := rfl
@[simp] theorem lag_cons (t u : Tuple) (us : List Tuple) (s : Option ExecError) :
    Trace.lag t (u :: us) s = .cons t (Trace.lag u us s) := rfl

theorem distinctAdvance_follows {c : Operator} (hc : Follows c) (ks : List Nat) :
    ∀ (ts : List Tuple) (s : Option ExecError) (seen : List (List Int)) (c' : Operator) (m : Nat),
      At c c' ⟨ts, s⟩ → c.need + ts.length + 1 ≤ m →
      ∃ c₁ seen₁, distinctAdvance m c' ks seen = ((c₁, seen₁), (Trace.dedup ks seen ts s).head) ∧
        ∀ v, (Trace.dedup ks seen ts s).head = .ok v →
          At c c₁ c₁.rest ∧
          Trace.dedup ks seen₁ c₁.rest.tuples c₁.rest.stop = (Trace.dedup ks seen ts s).tail ∧
          (v.isSome → c₁.rest.tuples.length < ts.length) := by
  intro ts
  induction ts with
  | nil =>
    intro s seen c' m hat hm
    obtain ⟨k, rfl⟩ : ∃ k, m = k + 1 := ⟨m - 1, by omega⟩
    rcases (hc c' _ hat k (by simp at hm; omega)).1.cases with
      ⟨t, T', c₁, hT, -, -⟩ | ⟨c₁, hT, hnext, hat'⟩ | ⟨e, c₁, hT, hnext⟩
    · cases hT
    · cases hT
      refine ⟨c₁, seen, by simp [distinctAdvance, hnext, Trace.dedup], fun v hv => ?_⟩
      simp only [Trace.dedup, Trace.head_nil_none, Except.ok.injEq] at hv
      subst hv
      exact ⟨⟨hat'.good, hat'.skeleton_eq, rfl⟩, by simp [hat'.rest_eq, Trace.dedup, Trace.done], by simp⟩
    · cases hT
      exact ⟨c₁, seen, by simp [distinctAdvance, hnext, Trace.dedup], fun v hv => by
        simp [Trace.dedup] at hv⟩
  | cons t ts ih =>
    intro s seen c' m hat hm
    obtain ⟨k, rfl⟩ : ∃ k, m = k + 1 := ⟨m - 1, by omega⟩
    rcases (hc c' _ hat k (by simp at hm; omega)).1.cases with
      ⟨t', T', c₁, hT, hnext, hat'⟩ | ⟨c₁, hT, -, -⟩ | ⟨e, c₁, hT, -⟩
    · obtain ⟨rfl, rfl⟩ := Trace.mk_cons_eq_cons.1 hT
      cases hkey : ks.mapM t.valueAt with
      | error e =>
        exact ⟨c₁, seen, by simp [distinctAdvance, hnext, hkey, Trace.dedup], fun v hv => by
          simp [Trace.dedup, hkey, Trace.fail] at hv⟩
      | ok key =>
        by_cases hseen : key ∈ seen
        · -- a key seen before: the search goes on from the input's next state
          have hloop : distinctAdvance (k + 1) c' ks seen = distinctAdvance k c₁ ks seen := by
            simp [distinctAdvance, hnext, hkey, hseen]
          have hskip : Trace.dedup ks seen (t :: ts) s = Trace.dedup ks seen ts s := by
            simp [Trace.dedup, hkey, hseen]
          obtain ⟨c₂, seen₂, h1, h3⟩ := ih s seen c₁ k hat' (by simp at hm; omega)
          refine ⟨c₂, seen₂, by rw [hloop, h1, hskip], fun v hv => ?_⟩
          obtain ⟨ha, hd, hl⟩ := h3 v (hskip ▸ hv)
          exact ⟨ha, hskip ▸ hd, fun hv' => by have := hl hv'; simp; omega⟩
        · have hfound : distinctAdvance (k + 1) c' ks seen = ((c₁, seen ++ [key]), .ok (some t)) := by
            simp [distinctAdvance, hnext, hkey, hseen]
          have hkeep : Trace.dedup ks seen (t :: ts) s =
              .cons t (Trace.dedup ks (seen ++ [key]) ts s) := by
            simp [Trace.dedup, hkey, hseen]
          refine ⟨c₁, seen ++ [key], by rw [hfound, hkeep]; rfl, fun _ _ => ?_⟩
          exact ⟨⟨hat'.good, hat'.skeleton_eq, rfl⟩, by rw [hkeep, Trace.tail_cons, hat'.rest_eq],
            fun _ => by simp [hat'.rest_eq]⟩
    · cases hT
    · cases hT

theorem At.distinct_inv {c : Operator} {ks : List Nat} {seen : List (List Int)}
    {ahead : Option Tuple} {op : Operator} {T : Trace} (h : At (.distinct c ks seen ahead) op T) :
    ∃ c' seen' ahead', op = .distinct c' ks seen' ahead' ∧ At c c' c'.rest ∧
      (ahead'.isSome → c'.rest.tuples.length + 2 ≤ c.work) ∧
      T = (Operator.distinct c' ks seen' ahead').rest := by
  obtain ⟨hg, hsk, hrest⟩ := h
  cases op <;> simp [Operator.skeleton] at hsk
  obtain ⟨hc, rfl⟩ := hsk
  obtain ⟨hg1, hg2⟩ := hg
  exact ⟨_, _, _, rfl, ⟨hg1, hc, rfl⟩, fun h => work_eq_of_skeleton hc ▸ hg2 h, hrest.symm⟩

theorem distinct_found {c c₁ : Operator} {ks : List Nat} {seen seen₁ : List (List Int)}
    {ahead : Option Tuple} {D : Trace} (read : Nat) (hat : At c c₁ c₁.rest)
    (hlen : read + 1 ≤ c.work)
    (hd : Trace.dedup ks seen₁ c₁.rest.tuples c₁.rest.stop = D.tail)
    (hl : ∀ u, D.head = .ok (some u) → c₁.rest.tuples.length < read) {v : Option Tuple}
    (hv : D.head = .ok v) :
    At (.distinct c ks seen ahead) (.distinct c₁ ks seen₁ v) D.held := by
  refine ⟨⟨hat.good, fun hsome => ?_⟩, by simp [skeleton, hat.skeleton_eq], ?_⟩
  · obtain ⟨u, rfl⟩ := Option.isSome_iff_exists.1 hsome
    have := hl u hv
    rw [hat.work]; omega
  · rcases Trace.cases_head D with rfl | ⟨e, rfl⟩ | ⟨u, D', rfl⟩
    · simp only [Trace.head_done, Except.ok.injEq] at hv; subst hv; rfl
    · simp at hv
    · simp only [Trace.head_cons, Except.ok.injEq] at hv; subst hv
      rw [Trace.tail_cons] at hd
      simp only [rest, hd]
      rfl

/-- A duplicate filter started over, its input at `c'` with stream `C`, searches from no
keys: the search answers the head of the tuples with new keys and, when it answers, the
filter holds what it found ahead of the rest. -/
theorem distinct_primes {c c' : Operator} (hc : Follows c) (ks : List Nat) {C : Trace}
    (hat : At c c' C) {m : Nat} (hm : c.need + c.work ≤ m) (seen : List (List Int))
    (ahead : Option Tuple) :
    ∃ c₁ seen₁, distinctAdvance m c' ks [] =
        ((c₁, seen₁), (Trace.dedup ks [] C.tuples C.stop).head) ∧
      ∀ v, (Trace.dedup ks [] C.tuples C.stop).head = .ok v →
        At (.distinct c ks seen ahead) (.distinct c₁ ks seen₁ v)
          (Trace.dedup ks [] C.tuples C.stop).held := by
  have hlen := hat.length
  obtain ⟨c₁, seen₁, hda, h3⟩ := distinctAdvance_follows hc ks C.tuples C.stop [] c' m hat (by omega)
  refine ⟨c₁, seen₁, hda, fun v hv => ?_⟩
  obtain ⟨ha, hd, hl⟩ := h3 v hv
  exact distinct_found C.tuples.length ha (by omega) hd
    (fun u hu => hl (by rw [hv, Except.ok.injEq] at hu; simp [hu])) hv

theorem follows_distinct {c : Operator} (hc : Follows c) (ks : List Nat) (seen : List (List Int))
    (ahead : Option Tuple) : Follows (.distinct c ks seen ahead) := by
  intro op T hat n hn
  obtain ⟨c', seen', ahead', rfl, hat', hahead, rfl⟩ := hat.distinct_inv
  obtain ⟨m, rfl⟩ : ∃ m, n = m + 1 := ⟨n - 1, by simp [need] at hn; omega⟩
  have hcm : c.need + c.work ≤ m := by simp [need] at hn; omega
  have hlen := hat'.length
  refine ⟨?_, ?_⟩
  · rcases ahead' with _ | t
    · exact ⟨rfl, fun _ _ => ⟨⟨hat'.good, by simp⟩, by simp [next, skeleton, hat'.skeleton_eq], rfl⟩⟩
    · obtain ⟨c₁, seen₁, hda, h3⟩ :=
        distinctAdvance_follows hc ks c'.rest.tuples c'.rest.stop seen' c' m hat' (by omega)
      generalize hD : Trace.dedup ks seen' c'.rest.tuples c'.rest.stop = D at hda h3
      have hT : (Operator.distinct c' ks seen' (some t)).rest = Trace.lag t D.tuples D.stop := by
        simp [rest, hD]
      unfold StepsAt
      -- the lookahead is answered once the search for the next one has succeeded
      simp only [hT, next, hda]
      rcases Trace.cases_head D with rfl | ⟨e, rfl⟩ | ⟨u, D', rfl⟩
      · obtain ⟨ha, hd, -⟩ := h3 none rfl
        refine ⟨rfl, fun _ _ => ?_⟩
        exact distinct_found c'.rest.tuples.length ha
          (by omega) hd (fun u hu => by simp at hu) (v := none) rfl
      · exact ⟨rfl, fun v hv => by simp [Trace.fail] at hv⟩
      · obtain ⟨ha, hd, hl⟩ := h3 (some u) rfl
        refine ⟨rfl, fun _ _ => ?_⟩
        exact distinct_found c'.rest.tuples.length ha
          (by omega) hd (fun _ _ => hl rfl) (v := some u) rfl
  · rcases (hc c' _ hat' m (by omega)).2.cases with ⟨e, c₁, hr, hreset⟩ | ⟨C, c₁, hr, hreset, hat''⟩
    · exact ⟨by simp [reset, hreset, replay, hr, Except.map, Except.bind], fun T hT => by
        simp [replay, hr, Except.bind] at hT⟩
    · obtain ⟨c₂, seen₂, hda, hat₂⟩ := distinct_primes hc ks hat'' hcm seen ahead
      have hprimed : (Operator.distinct c ks seen ahead).replay = Trace.primedDedup ks C := by
        simp [replay, hr, Except.bind]
      unfold RestartsAt
      -- a reset forgets the keys seen and searches again from the input's first tuple
      simp only [hprimed, reset, hreset, hda, Trace.primedDedup]
      cases hv : (Trace.dedup ks [] C.tuples C.stop).head with
      | error e => simp [Except.map]
      | ok v =>
        refine ⟨rfl, fun T hT => ?_⟩
        simp only [Except.map, Except.ok.injEq] at hT
        subst hT
        exact hat₂ v hv

end Operator

end CsvQuery
