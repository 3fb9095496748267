import CsvQuery.Proofs.Stream.Replay
import CsvQuery.Proofs.Text.Fields

/-!
# A scan answers every line it reads

A scan reads its source line by line. Each call of `next` reads on to the next line that is
not blank and answers it: its row, or the failure to parse it, or the failure to read it. A
failure does not end the scan: the following call reads on from the line after. Once every
line is read, `next` answers the end, and goes on answering it until a reset starts the
source over.

* `lineAnswer`    what one line yields: the failure to read it, nothing when it is blank,
                  or its row, parsed at the line's number;
* `scanAnswers`   the answers of the lines in turn, each line numbered by the lines read
                  before it, blank or not, plus one;
* `answerReplies` the replies a stream of answers gives to a sequence of calls;
* `scan_answers_every_line`  every run of a scan over lines replies so.

A line that fails to read is not counted among the lines read: after such a failure the
numbers of the lines are less than their places in the source
(`failed_read_is_not_numbered`). A line that fails to parse is named with its first field
that is no 32-bit integer (`parseRow_eq_error_iff`).
-/

namespace CsvQuery

/-! ## The answers of a source's lines -/

/-- What a scan of `table` answers for one line, numbered `number`: the failure to read it,
nothing when it is blank, and otherwise its row. -/
def lineAnswer (table : String) (number : Nat) :
    Except IoFailure String → Option (Except ExecError Tuple)
  | .error e => some (.error (.sourceUnavailable table e))
  | .ok text => if Blank.isAllBlank text.toList then none else some (parseRow table number text)

/-- The answers of a scan of `table` over the lines `ls`, once `read` lines were read: each
line is numbered by `read` and the lines before it that were read, plus one. -/
def scanAnswers (table : String) (read : Nat) (ls : List (Except IoFailure String)) :
    List (Except ExecError Tuple) :=
  ls.zipIdx.filterMap fun x => lineAnswer table (read + (ls.take x.2).countP Except.isOk + 1) x.1

@[simp] theorem scanAnswers_nil (table : String) (read : Nat) : scanAnswers table read [] = [] :=
  rfl

theorem scanAnswers_cons (table : String) (read : Nat) (x : Except IoFailure String)
    (ls : List (Except IoFailure String)) :
    scanAnswers table read (x :: ls) =
      (lineAnswer table (read + 1) x).toList ++
        scanAnswers table (read + if x.isOk then 1 else 0) ls := by
  have hnumber : ∀ i, read + ((x :: ls).take (i + 1)).countP Except.isOk + 1 =
      (read + if x.isOk then 1 else 0) + (ls.take i).countP Except.isOk + 1 := by
    intro i
    rw [List.take_succ_cons, List.countP_cons]
    omega
  unfold scanAnswers
  rw [List.zipIdx_cons', List.filterMap_cons, List.filterMap_map]
  simp only [Function.comp_def, Prod.map_fst, Prod.map_snd, id_eq, hnumber, List.take_zero,
    List.countP_nil, Nat.add_zero]
  cases lineAnswer table (read + 1) x <;> rfl

@[simp] theorem scanAnswers_error (table : String) (read : Nat) (e : IoFailure)
    (ls : List (Except IoFailure String)) :
    scanAnswers table read (.error e :: ls) =
      .error (.sourceUnavailable table e) :: scanAnswers table read ls := by
  rw [scanAnswers_cons]
  rfl

theorem scanAnswers_blank (table : String) (read : Nat) {text : String}
    (h : Blank.isAllBlank text.toList = true) (ls : List (Except IoFailure String)) :
    scanAnswers table read (.ok text :: ls) = scanAnswers table (read + 1) ls := by
  simp [scanAnswers_cons, lineAnswer, h, Except.isOk, Except.toBool]

theorem scanAnswers_row (table : String) (read : Nat) {text : String}
    (h : Blank.isAllBlank text.toList = false) (ls : List (Except IoFailure String)) :
    scanAnswers table read (.ok text :: ls) =
      parseRow table (read + 1) text :: scanAnswers table (read + 1) ls := by
  simp [scanAnswers_cons, lineAnswer, h, Except.isOk, Except.toBool]

/-- A line fails to parse exactly when one of its fields is no 32-bit integer, and then it
fails on the first such field, trimmed, at the line's number. -/
theorem parseRow_eq_error_iff {table : String} {line : Nat} {text : String} {e : ExecError} :
    parseRow table line text = .error e ↔
      ∃ pre f post, text.splitOn "," = pre ++ f :: post ∧
        (∀ g ∈ pre, (Decimal.readInt32? (Blank.trimString g).toList).isSome) ∧
        Decimal.readInt32? (Blank.trimString f).toList = none ∧
        e = .malformedField table line (Blank.trimString f) := by
  have hrow : ∀ x : Except ExecError (List Int), Tuple.mk <$> x = .error e ↔ x = .error e := by
    intro x
    cases x <;> simp [Functor.map, Except.map]
  unfold parseRow
  rw [hrow, mapM_eq_error_iff]
  -- a field succeeds exactly when it reads as an integer, and fails naming itself
  refine exists_congr fun pre => exists_congr fun f => exists_congr fun post => and_congr_right
    fun _ => and_congr (forall₂_congr fun g _ => ?_) ?_
  · cases h : Decimal.readInt32? (Blank.trimString g).toList <;> simp [h]
  · cases h : Decimal.readInt32? (Blank.trimString f).toList <;> simp [h, eq_comm]

/-! ## Calls on a stream of answers -/

/-- The reply of a `next` that answers the entry `a`, or the end for `none`. -/
def Reply.ofAnswer : Option (Except ExecError Tuple) → Reply
  | none => .tuple none
  | some (.ok t) => .tuple (some t)
  | some (.error e) => .failed e

/-- The replies of a stream that answers `A` in turn, its cursor at `k`: each `next`
answers the entry at the cursor, a tuple or a failure, or the end once past them all, and
a reset goes back to the first. -/
def answerReplies (A : List (Except ExecError Tuple)) : Nat → List Call → List Reply
  | _, [] => []
  | k, .next :: calls => Reply.ofAnswer A[k]? :: answerReplies A (k + 1) calls
  | _, .reset :: calls => .restarted :: answerReplies A 0 calls

/-- What `next` answers for the entry `a` at the cursor, or for `none` past them all. -/
def nextAnswer : Option (Except ExecError Tuple) → Except ExecError (Option Tuple)
  | none => .ok none
  | some a => some <$> a

namespace Operator

theorem run_next_of_step {op op' : Operator} {a : Option (Except ExecError Tuple)}
    (h : op.step = (op', nextAnswer a)) (calls : List Call) :
    op.run (.next :: calls) = Reply.ofAnswer a :: op'.run calls := by
  rcases a with _ | (e | t) <;> simp [run, h, nextAnswer, Reply.ofAnswer]

/-! ## One call -/

theorem scanNext_answers (table : String) (all : List (Except IoFailure String)) :
    ∀ (rest : List (Except IoFailure String)) (read n : Nat), rest.length < n →
      ∃ rest' read' ex', scanNext table n (.lines all rest) read =
          (.scan table (.lines all rest') read' ex', nextAnswer (scanAnswers table read rest).head?) ∧
        rest'.length ≤ rest.length ∧ (ex' = true → rest' = []) ∧
        scanAnswers table read' rest' = (scanAnswers table read rest).tail := by
  intro rest
  induction rest with
  | nil =>
    intro read n hn
    obtain ⟨m, rfl⟩ : ∃ m, n = m + 1 := ⟨n - 1, by simp at hn; omega⟩
    exact ⟨[], read, true, rfl, le_refl _, fun _ => rfl, rfl⟩
  | cons x rest ih =>
    intro read n hn
    obtain ⟨m, rfl⟩ : ∃ m, n = m + 1 := ⟨n - 1, by simp at hn; omega⟩
    rcases x with e | text
    · -- a failed read is answered, and the scan goes on with the next line
      refine ⟨rest, read, false, ?_, by simp, by simp, by simp⟩
      simp [scanNext, LineSource.next, nextAnswer]
    · by_cases hblank : Blank.isAllBlank text.toList = true
      · -- a blank line is counted and skipped: the loop goes on with one unit less
        have hloop : scanNext table (m + 1) (.lines all (.ok text :: rest)) read =
            scanNext table m (.lines all rest) (read + 1) := by
          simp [scanNext, LineSource.next, hblank]
        obtain ⟨rest', read', ex', heq, hlen, hex, hans⟩ := ih (read + 1) m (by simp at hn; omega)
        refine ⟨rest', read', ex', ?_, by simp; omega, hex, ?_⟩
        · rw [hloop, heq, scanAnswers_blank table read hblank]
        · rw [hans, scanAnswers_blank table read hblank]
      · rw [Bool.not_eq_true] at hblank
        refine ⟨rest, read + 1, false, ?_, by simp, by simp, by rw [scanAnswers_row table read hblank]; rfl⟩
        simp [scanNext, LineSource.next, hblank, scanAnswers_row table read hblank, nextAnswer]

/-- A scan of `table` over the lines `all`, `k` answers into them: the answers still to
come are those of the lines it has still to read. -/
def ScanAt (table : String) (all : List (Except IoFailure String)) (k : Nat) (op : Operator) :
    Prop :=
  ∃ rest read ex, op = .scan table (.lines all rest) read ex ∧ rest.length ≤ all.length ∧
    (ex = true → rest = []) ∧ (scanAnswers table 0 all).drop k = scanAnswers table read rest

theorem fuel_scan_lines (table : String) {all rest : List (Except IoFailure String)} (read : Nat)
    (ex : Bool) (hlen : rest.length ≤ all.length) :
    ∃ m, (Operator.scan table (.lines all rest) read ex).fuel = m + 1 ∧ rest.length < m := by
  have hfuel := need_add_work_le_fuel (.scan table (.lines all rest) read ex)
  simp only [work, LineSource.size] at hfuel
  exact ⟨(Operator.scan table (.lines all rest) read ex).fuel - 1, by omega, by omega⟩

theorem scanAt_scanOf (table : String) (all : List (Except IoFailure String)) :
    ScanAt table all 0 (scanOf table (.lines all all)) :=
  ⟨all, 0, false, rfl, le_refl _, by simp, rfl⟩

section ScanAt

variable {table : String} {all : List (Except IoFailure String)} {k : Nat} {op : Operator}

theorem ScanAt.step (h : ScanAt table all k op) :
    ∃ op', op.step = (op', nextAnswer (scanAnswers table 0 all)[k]?) ∧
      ScanAt table all (k + 1) op' := by
  obtain ⟨rest, read, ex, rfl, hlen, hex, hans⟩ := h
  obtain ⟨m, hm, hlong⟩ := fuel_scan_lines table read ex hlen
  have hget : (scanAnswers table 0 all)[k]? = (scanAnswers table read rest).head? := by
    rw [← hans, List.head?_drop]
  have htail : (scanAnswers table 0 all).drop (k + 1) = (scanAnswers table read rest).tail := by
    rw [← List.tail_drop, hans]
  cases ex
  · obtain ⟨rest', read', ex', hnext, hlen', hex', hans'⟩ := scanNext_answers table all rest read m hlong
    refine ⟨_, ?_, rest', read', ex', rfl, by omega, hex', by rw [htail, hans']⟩
    rw [step, hm, next, if_neg (by simp), hnext, hget]
  · -- an exhausted scan answers the end and stays as it is
    obtain rfl := hex rfl
    refine ⟨_, ?_, [], read, true, rfl, hlen, fun _ => rfl, by rw [htail]; rfl⟩
    rw [step, hm, next, if_pos rfl, hget]
    rfl

theorem ScanAt.restart (h : ScanAt table all k op) :
    op.restart = (scanOf table (.lines all all), .ok ()) := by
  obtain ⟨rest, read, ex, rfl, hlen, -⟩ := h
  obtain ⟨m, hm, -⟩ := fuel_scan_lines table read ex hlen
  rw [Operator.restart, hm]
  rfl

/-- Every run of a scan replies as its answers, from its cursor: by induction on the
calls, each `next` moving the cursor on and each reset moving it back to the start. -/
theorem ScanAt.run : ∀ (calls : List Call) {k : Nat} {op : Operator}, ScanAt table all k op →
    op.run calls = answerReplies (scanAnswers table 0 all) k calls
  | [], _, _, _ => rfl
  | .next :: calls, _, _, h => by
    obtain ⟨op', hstep, h'⟩ := h.step
    rw [run_next_of_step hstep, answerReplies, ScanAt.run calls h']
  | .reset :: calls, _, op, h => by
    have hrun : op.run (.reset :: calls) = .restarted :: (scanOf table (.lines all all)).run calls := by
      simp only [Operator.run, h.restart]
    rw [hrun, answerReplies, ScanAt.run calls (scanAt_scanOf table all)]

end ScanAt

/-- A scan over lines, from the start, replies to every sequence of calls as its answers:
each `next` answers the next line that is not blank, its row or the failure to parse or to
read it, numbered by the lines read before it plus one; a failure does not end the scan;
past the last line `next` answers the end, until a reset starts the lines over. -/
theorem scan_answers_every_line (table : String) (lines : List (Except IoFailure String))
    (calls : List Call) :
    (scanOf table (.lines lines lines)).run calls =
      answerReplies (scanAnswers table 0 lines) 0 calls :=
  ScanAt.run calls (scanAt_scanOf table lines)

/-- A line that fails to read is not counted: in a file whose first line is not UTF-8 and
whose second line is `x`, the second line is reported as line 1. -/
theorem failed_read_is_not_numbered :
    (scanOf "R" (.lines (LineSource.fileLines [255, 10, 120, 10])
        (LineSource.fileLines [255, 10, 120, 10]))).run [.next, .next, .next] =
      [.failed (.sourceUnavailable "R" .invalidUtf8), .failed (.malformedField "R" 1 "x"),
        .tuple none] := by
  have hlines : LineSource.fileLines [255, 10, 120, 10] = [.error .invalidUtf8, .ok "x"] := by
    decide
  have hfields : "x".splitOn "," = ["x"] := String.splitOn_eq_singleton "x" rfl (by decide)
  have hrow : parseRow "R" (0 + 1) "x" = .error (.malformedField "R" 1 "x") :=
    parseRow_eq_error_iff.2 ⟨[], "x", [], hfields, by simp, by decide, by decide⟩
  rw [hlines, ScanAt.run _ (scanAt_scanOf "R" _), scanAnswers_error,
    scanAnswers_row "R" 0 (by decide), hrow]
  rfl

end Operator

end CsvQuery
