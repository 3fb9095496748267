import CsvQuery.Proofs.Pipeline.Rows
import CsvQuery.Proofs.Text.Fields
import CsvQuery.Proofs.Text.Lines

/-!
# Written rows read back by a scan

A query's result is written one tuple a line, its values joined by `", "`
(`QueryResult.text`), and rows held in memory are written with their values joined by `","`
(`LineSource.ofRows`). A scan reads either back: it splits each line at the commas, trims
the fields and reads each as a 32-bit integer. Only an empty tuple is lost, since its line is
blank and a scan skips blank lines.

* `parseRow_written`  a line of integers joined by `,` and blanks reads as their row;
* `isAllBlank_written`  such a line is blank exactly when it holds no integer;
* `Trace.scanLines_written`  a scan of such lines reads the non-empty rows, in order, and
  ends without error;
* `FileTree.lookup_of_create`  a created file holds the bytes written to it;
* `scan_reads_written_rows`  a result written to a file and scanned from it gives back its
  non-empty tuples, in order; so do rows scanned from memory.
-/

namespace List

theorem intercalate_cons_eq {α : Type} (a : α) (pad x : List α) (xs : List (List α)) :
    (a :: pad).intercalate (x :: xs) = [a].intercalate (x :: xs.map (pad ++ ·)) := by
  induction xs generalizing x with
  | nil => simp
  | cons y ys ih =>
    rw [intercalate_cons_cons, ih, map_cons, intercalate_cons_cons]
    cases ys <;> simp [intercalate_cons_cons]

theorem mem_of_mem_intercalate {α : Type} {a : α} {sep : List α} :
    ∀ {xs : List (List α)}, a ∈ sep.intercalate xs → a ∈ sep ∨ ∃ x ∈ xs, a ∈ x
  | [], h => by simp at h
  | [x], h => .inr ⟨x, mem_singleton_self x, by simpa using h⟩
  | x :: y :: ys, h => by
    rw [intercalate_cons_cons, mem_append, mem_append] at h
    rcases h with (h | h) | h
    · exact .inr ⟨x, mem_cons_self, h⟩
    · exact .inl h
    · rcases mem_of_mem_intercalate h with h | ⟨z, hz, h⟩
      · exact .inl h
      · exact .inr ⟨z, mem_cons_of_mem _ hz, h⟩

end List

namespace CsvQuery

open Blank

/-! ## One written line -/

section Written

variable {sep : String} {pad : List Char}

theorem toList_intercalate_render (sep : String) (vs : List Int) :
    (sep.intercalate (vs.map Decimal.render)).toList =
      sep.toList.intercalate (vs.map Decimal.renderChars) := by
  simp [String.toList_intercalate, Function.comp_def]

theorem readInt32?_written (hpad : ∀ c ∈ pad, isBlank c = true) {v : Int}
    (hv : Decimal.fitsInt32 v = true) :
    Decimal.readInt32? (trimString (String.ofList (pad ++ Decimal.renderChars v))).toList = some v := by
  have htrim : trim (pad ++ Decimal.renderChars v ++ []) = Decimal.renderChars v := by
    rw [trim_blank_append hpad (by simp), trim_renderChars]
  rw [trimString, String.toList_ofList, String.toList_ofList, ← List.append_nil (pad ++ _), htrim]
  exact Decimal.readInt32?_renderChars hv

theorem splitOn_written (hsep : sep.toList = ',' :: pad) (hpad : ∀ c ∈ pad, isBlank c = true)
    (v : Int) (vs : List Int) :
    (sep.intercalate ((v :: vs).map Decimal.render)).splitOn "," =
      (Decimal.renderChars v :: vs.map fun w => pad ++ Decimal.renderChars w).map String.ofList := by
  have hcomma : ∀ l ∈ Decimal.renderChars v :: vs.map fun w => pad ++ Decimal.renderChars w,
      ',' ∉ l := by
    have hdigits : ∀ w, ',' ∉ Decimal.renderChars w := fun w hw => by
      rcases Decimal.renderChars_chars w ',' hw with h | h <;> exact absurd h (by decide)
    intro l hl
    rcases List.mem_cons.1 hl with rfl | hl
    · exact hdigits v
    · obtain ⟨w, -, rfl⟩ := List.mem_map.1 hl
      rw [List.mem_append, not_or]
      exact ⟨fun h => absurd (hpad _ h) (by decide), hdigits w⟩
  rw [String.splitOn_eq_of_toList _ (by decide : ",".toList = [',']), toList_intercalate_render,
    hsep, List.map_cons, List.intercalate_cons_eq, List.map_map, Function.comp_def,
    List.splitOn_intercalate ',' hcomma (List.cons_ne_nil _ _)]

/-- A line of integers written with a separator `,` followed by blanks reads as their row,
whatever its table and number. -/
theorem parseRow_written (hsep : sep.toList = ',' :: pad) (hpad : ∀ c ∈ pad, isBlank c = true)
    {vs : List Int} (hvs : vs ≠ []) (hfit : ∀ v ∈ vs, Decimal.fitsInt32 v = true)
    (table : String) (line : Nat) :
    parseRow table line (sep.intercalate (vs.map Decimal.render)) = .ok ⟨vs⟩ := by
  obtain ⟨v, vs, rfl⟩ := List.exists_cons_of_ne_nil hvs
  have hfirst : Decimal.readInt32? (trimString (String.ofList ([] ++ Decimal.renderChars v))).toList =
      some v :=
    readInt32?_written (by simp) (hfit v List.mem_cons_self)
  have hrest : ∀ w ∈ vs,
      Decimal.readInt32? (trimString (String.ofList (pad ++ Decimal.renderChars w))).toList = some w :=
    fun w hw => readInt32?_written hpad (hfit w (List.mem_cons_of_mem _ hw))
  rw [List.nil_append] at hfirst
  rw [parseRow_of_fields, splitOn_written hsep hpad]
  · simp only [List.map_cons, List.map_map, Tuple.mk.injEq, Except.ok.injEq]
    rw [hfirst, Option.getD_some, List.cons.injEq]
    refine ⟨rfl, ?_⟩
    conv => rhs; rw [← List.map_id vs]
    exact List.map_congr_left fun w hw => by
      simp only [Function.comp_apply, hrest w hw, Option.getD_some, id_eq]
  · rw [splitOn_written hsep hpad]
    intro f hf
    simp only [List.map_cons, List.mem_cons, List.mem_map] at hf
    rcases hf with rfl | ⟨_, ⟨w, hw, rfl⟩, rfl⟩
    · simp [hfirst]
    · rw [hrest w hw]
      rfl

/-- A written line is blank exactly when it holds no integer: every written integer starts
with a digit or `-`. -/
theorem isAllBlank_written (sep : String) (vs : List Int) :
    isAllBlank (sep.intercalate (vs.map Decimal.render)).toList = vs.isEmpty := by
  cases vs with
  | nil => simp [isAllBlank]
  | cons v vs =>
    obtain ⟨c, cs, hc⟩ := List.exists_cons_of_ne_nil (Decimal.renderChars_ne_nil v)
    have hblank : isBlank c = false :=
      isBlank_of_digit_or_minus (Decimal.renderChars_chars v c (hc ▸ List.mem_cons_self))
    obtain ⟨rest, hrest⟩ : ∃ rest, (sep.intercalate ((v :: vs).map Decimal.render)).toList =
        Decimal.renderChars v ++ rest := by
      rw [toList_intercalate_render]
      cases vs with
      | nil => exact ⟨[], by simp⟩
      | cons w ws =>
        exact ⟨_, by rw [List.map_cons, List.map_cons, List.intercalate_cons_cons, List.append_assoc]⟩
    rw [hrest, hc]
    simp [isAllBlank, hblank]

theorem mem_written {sep : String} {vs : List Int} {c : Char}
    (h : c ∈ (sep.intercalate (vs.map Decimal.render)).toList) :
    c ∈ sep.toList ∨ c.isDigit = true ∨ c = '-' := by
  rw [toList_intercalate_render] at h
  rcases List.mem_of_mem_intercalate h with h | ⟨x, hx, hc⟩
  · exact .inl h
  · obtain ⟨v, -, rfl⟩ := List.mem_map.1 hx
    exact .inr (Decimal.renderChars_chars v c hc)

end Written

/-! ## Scanning written lines -/

/-- A scan of lines written with a separator `,` followed by blanks reads the non-empty
rows, in order, and ends without error: an empty row's line is blank and skipped. -/
theorem Trace.scanLines_written {sep : String} {pad : List Char} (hsep : sep.toList = ',' :: pad)
    (hpad : ∀ c ∈ pad, isBlank c = true) (table : String) :
    ∀ (ts : List Tuple) (line : Nat), (∀ t ∈ ts, ∀ v ∈ t.values, Decimal.fitsInt32 v = true) →
      scanLines table line (ts.map fun t => .ok (sep.intercalate (t.values.map Decimal.render))) =
        ⟨ts.filter fun t => !t.values.isEmpty, none⟩
  | [], _, _ => rfl
  | t :: ts, line, hfit => by
    have ih := scanLines_written hsep hpad table ts (line + 1)
      fun u hu => hfit u (List.mem_cons_of_mem _ hu)
    rw [List.map_cons, scanLines, isAllBlank_written]
    by_cases ht : t.values.isEmpty
    · rw [if_pos ht, ih, List.filter_cons_of_neg (by simp [ht])]
    · rw [if_neg ht, parseRow_written hsep hpad (by simpa using ht) (hfit t List.mem_cons_self), ih,
        List.filter_cons_of_pos (by simp [ht])]
      rfl

theorem Operator.drainAll_scanOf_lines (table : String) (ls : List (Except IoFailure String)) :
    (scanOf table (.lines ls ls)).drainAll = (Trace.scanLines table 0 ls).result := by
  rw [drainAll_of_fresh (fresh_scanOf table rfl)]
  rfl

/-! ## Writing a result to a file -/

theorem FileTree.lookup_setEntry (t : FileTree) {ps : List String} (hps : ps ≠ []) (node : FileNode) :
    (t.setEntry ps node).lookup ps = .ok node := by
  simp [lookup, setEntry, hps]

/-- A created file holds the bytes written to it. -/
theorem FileTree.lookup_of_create {t t' : FileTree} {path : String} {bytes : List UInt8}
    (h : t.create path bytes = .ok t') : t'.lookup (parts path) = .ok (.file bytes) := by
  have hps : parts path ≠ [] := by
    intro hnil
    simp [create, hnil, lookup] at h
  unfold create at h
  dsimp only at h
  split at h <;> (try split at h) <;> simp only [Except.ok.injEq, reduceCtorEq] at h <;>
    (subst h; exact lookup_setEntry t hps _)

theorem QueryResult.fileLines_text (r : QueryResult) :
    LineSource.fileLines (Utf8.encodeString r.text) =
      r.tuples.map fun t => .ok (", ".intercalate (t.values.map Decimal.render)) := by
  have htext : r.text.toList = (r.tuples.map fun t => t.render.toList).flatMap (· ++ ['\n']) := by
    simp [text, String.toList_join, List.flatMap_map]
  -- a written tuple holds digits, `-`, `,` and blanks, so no line end
  have hline : ∀ l ∈ r.tuples.map fun t => t.render.toList, '\n' ∉ l ∧ l.getLast? ≠ some '\r' := by
    intro l hl
    obtain ⟨t, -, rfl⟩ := List.mem_map.1 hl
    have hend : ∀ c, c = '\n' ∨ c = '\r' → c ∉ t.render.toList := by
      rintro c hc hmem
      have hchars := mem_written (hmem : c ∈ (", ".intercalate (t.values.map Decimal.render)).toList)
      rcases hc with rfl | rfl <;> revert hchars <;> decide
    exact ⟨hend '\n' (.inl rfl), fun h => hend '\r' (.inr rfl) (List.mem_of_getLast? h)⟩
  rw [Utf8.encodeString, htext, LineSource.fileLines_encode_lines _ hline, List.map_map]
  simp only [Function.comp_def, String.ofList_toList, Tuple.render]

/-! ## Reading back -/

/-- Output is table data: a result written to a file (one tuple a line, values joined by
`", "`) and scanned from that file gives back its tuples in order, each empty tuple's blank
line skipped, with no error; rows of 32-bit integers scanned from memory give back the
non-empty rows. -/
theorem scan_reads_written_rows {files written : FileTree} {path : String} {r : QueryResult}
    (hwrite : files.create path (Utf8.encodeString r.text) = .ok written)
    (hfit : ∀ t ∈ r.tuples, ∀ v ∈ t.values, Decimal.fitsInt32 v = true)
    {rows : List (List Int)} (hrows : ∀ row ∈ rows, ∀ v ∈ row, Decimal.fitsInt32 v = true)
    (table : String) :
    (∃ src, LineSource.openFile written path = .ok src ∧
      (Operator.scanOf table src).drainAll = .ok (r.tuples.filter fun t => !t.values.isEmpty)) ∧
    (Operator.scanOf table (LineSource.ofRows rows)).drainAll =
      .ok ((rows.filter fun row => !row.isEmpty).map Tuple.mk) := by
  have hcomma : ∀ c ∈ ([] : List Char), isBlank c = true := by simp
  have hblank : ∀ c ∈ [' '], isBlank c = true := by simp [isBlank, codePoints]
  constructor
  · have hopen : LineSource.openFile written path =
        .ok (.lines (LineSource.fileLines (Utf8.encodeString r.text))
          (LineSource.fileLines (Utf8.encodeString r.text))) := by
      rw [LineSource.openFile, FileTree.lookup_of_create hwrite]
    refine ⟨_, hopen, ?_⟩
    rw [Operator.drainAll_scanOf_lines, QueryResult.fileLines_text,
      Trace.scanLines_written (by decide : ", ".toList = [',', ' ']) hblank table r.tuples 0 hfit]
    rfl
  · have hlines : LineSource.ofRows rows =
        .lines ((rows.map Tuple.mk).map fun t => .ok (",".intercalate (t.values.map Decimal.render)))
          ((rows.map Tuple.mk).map fun t => .ok (",".intercalate (t.values.map Decimal.render))) := by
      simp [LineSource.ofRows, LineSource.ofLines, Function.comp_def]
    have hfit' : ∀ t ∈ rows.map Tuple.mk, ∀ v ∈ t.values, Decimal.fitsInt32 v = true := by
      intro t ht
      obtain ⟨row, hrow, rfl⟩ := List.mem_map.1 ht
      exact hrows row hrow
    rw [hlines, Operator.drainAll_scanOf_lines,
      Trace.scanLines_written (by decide : ",".toList = [',']) hcomma table _ 0 hfit',
      List.filter_map]
    rfl

/-- A result with the extreme 32-bit values and an empty tuple, written to `out.csv` in an
empty tree and scanned back, and rows with an empty one scanned from memory. -/
theorem extreme_rows_read_back :
    (∃ src, LineSource.openFile (FileTree.setEntry {} ["out.csv"]
        (.file (Utf8.encodeString
          (QueryResult.text ⟨default, [⟨[-2147483648, 7]⟩, ⟨[]⟩, ⟨[2147483647]⟩]⟩)))) "out.csv" =
          .ok src ∧
      (Operator.scanOf "R" src).drainAll = .ok [⟨[-2147483648, 7]⟩, ⟨[2147483647]⟩]) ∧
    (Operator.scanOf "R" (LineSource.ofRows [[1, -2], [], [3]])).drainAll = .ok [⟨[1, -2]⟩, ⟨[3]⟩] := by
  have hparts : FileTree.parts "out.csv" = ["out.csv"] := by
    rw [FileTree.parts, String.splitOn_eq_of_toList _ (by decide : "/".toList = ['/'])]
    decide
  have hwrite : FileTree.create {} "out.csv"
      (Utf8.encodeString (QueryResult.text ⟨default, [⟨[-2147483648, 7]⟩, ⟨[]⟩, ⟨[2147483647]⟩]⟩)) =
        .ok (FileTree.setEntry {} ["out.csv"]
          (.file (Utf8.encodeString
            (QueryResult.text ⟨default, [⟨[-2147483648, 7]⟩, ⟨[]⟩, ⟨[2147483647]⟩]⟩)))) := by
    rw [FileTree.create]
    simp only [hparts]
    rfl
  have hrows : ∀ row ∈ [[1, -2], [], [3]], ∀ v ∈ row, Decimal.fitsInt32 v = true := by decide
  exact scan_reads_written_rows hwrite (by decide) hrows "R"

end CsvQuery
