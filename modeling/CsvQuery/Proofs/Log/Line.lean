import CsvQuery.Proofs.Json.Objects
import CsvQuery.Proofs.Text.ByteOrder

/-!
# A log line is one JSON object that reads back

A record is logged as one line of JSON (`LogRecord.line`): its event, its severity and then
its fields sorted by key, every name and value escaped by `escapeLog`. Read member by member
(`Json.readStringObject`), or by the settings file's record reader (`Json.readRecordText`),
the line gives back exactly what was logged:

* `LogRecord.toList_line`  a line is an object written member by member, whose members are
  the event, the severity and the sorted fields;
* `LogRecord.sortedFields_encode_lt`  with distinct names, the sorted fields ascend in the
  order of the UTF-8 bytes of their names;
* `log_line_reads_back`  a line holds no line break, and reads back as its event, its
  severity and then its fields in ascending byte order of key, each name once, when the
  field names are distinct and none is `event` or `severity`.
-/

namespace CsvQuery

namespace Json

/-! ## Log lines -/

theorem newline_not_mem_escapeLogChar (c : Char) : '\n' ∉ escapeLogChar c := by
  have hhex : ∀ k, k < 16 → CsvQuery.hexDigit k ≠ '\n' := by decide
  have h16 : ∀ m, m % 16 < 16 := fun m => Nat.mod_lt _ (by omega)
  unfold escapeLogChar
  split_ifs with hq hb hn hr ht hc
  · simp
  · simp
  · simp
  · simp
  · simp
  · simp [(hhex _ (h16 _)).symm]
  · simpa [eq_comm] using hn

theorem newline_not_mem_escapeLog (s : String) : '\n' ∉ (escapeLog s).toList := by
  simp only [escapeLog, String.toList_ofList, List.mem_flatMap, not_exists, not_and]
  exact fun c _ => newline_not_mem_escapeLogChar c

theorem newline_not_mem_memberText (m : String × String) : '\n' ∉ memberText m := by
  simp [memberText, newline_not_mem_escapeLog]

theorem newline_not_mem_membersText (ms : List (String × String)) : '\n' ∉ membersText ms := by
  cases ms with
  | nil => simp [membersText]
  | cons m ms => simp [membersText, newline_not_mem_memberText]

end Json

namespace LogRecord

/-- The members of a record's line: its event, its severity, then its fields sorted by key. -/
def members (r : LogRecord) : List (String × String) :=
  ("event", r.event) :: ("severity", r.severity.name) :: r.sortedFields

theorem escapeLog_name (s : Severity) : escapeLog s.name = s.name := by
  cases s <;> rfl

/-- A line is an object whose members are the record's event, its severity and its sorted
fields. -/
theorem toList_line (r : LogRecord) :
    r.line.toList = '{' :: (Json.membersText r.members ++ ['}']) := by
  have hfield : ∀ f : String × String,
      (",\"" ++ escapeLog f.1 ++ "\":\"" ++ escapeLog f.2 ++ "\"").toList = ',' :: Json.memberText f := by
    intro f
    simp [Json.memberText]
  have hevent : escapeLog "event" = "event" := rfl
  have hseverity : escapeLog "severity" = "severity" := rfl
  simp only [line, members, Json.membersText, Json.memberText, String.toList_append,
    String.toList_join, List.flatMap_cons, hevent, hseverity, escapeLog_name]
  simp [Function.comp_def, hfield, List.flatMap_def, Json.memberText]

theorem sortedFields_perm (r : LogRecord) : r.sortedFields.Perm r.fields :=
  List.mergeSort_perm _ _

theorem sortedFields_lt (r : LogRecord) (h : (r.fields.map Prod.fst).Nodup) :
    (r.sortedFields.map Prod.fst).Pairwise (· < ·) := by
  have hle : (r.fields.mergeSort fun a b => decide (a.1 ≤ b.1)).Pairwise
      fun a b => decide (a.1 ≤ b.1) = true :=
    List.pairwise_mergeSort (fun a b c hab hbc => by
      simpa using String.le_trans (by simpa using hab) (by simpa using hbc))
      (fun a b => by simpa using String.le_total a.1 b.1) _
  have hnd : (r.sortedFields.map Prod.fst).Nodup := ((sortedFields_perm r).map Prod.fst).nodup_iff.2 h
  rw [List.Nodup, List.pairwise_map] at hnd
  rw [List.pairwise_map]
  -- names in order and distinct are in strict order
  exact (hle.and hnd).imp fun ⟨hab, hne⟩ =>
    String.not_le.1 fun hba => hne (String.le_antisymm (by simpa using hab) hba)

/-- With distinct names, the sorted fields also come in strictly ascending order of the UTF-8
bytes of their names. -/
theorem sortedFields_encode_lt (r : LogRecord) (h : (r.fields.map Prod.fst).Nodup) :
    (r.sortedFields.map fun f => Utf8.encodeString f.1).Pairwise (· < ·) := by
  have hlt := r.sortedFields_lt h
  rw [List.pairwise_map] at hlt ⊢
  exact hlt.imp fun hab => (Utf8.encodeString_lt_encodeString_iff _ _).2 hab

theorem nodup_members (r : LogRecord) (h : (r.fields.map Prod.fst).Nodup)
    (hreserved : ∀ f ∈ r.fields, f.1 ≠ "event" ∧ f.1 ≠ "severity") :
    (r.members.map Prod.fst).Nodup := by
  have hnd : (r.sortedFields.map Prod.fst).Nodup := ((sortedFields_perm r).map Prod.fst).nodup_iff.2 h
  have hmem : ∀ f ∈ r.sortedFields, f.1 ≠ "event" ∧ f.1 ≠ "severity" :=
    fun f hf => hreserved f ((sortedFields_perm r).mem_iff.1 hf)
  simp only [members, List.map_cons, List.nodup_cons, List.mem_cons, List.mem_map]
  refine ⟨?_, ?_, hnd⟩
  · rintro (h | ⟨f, hf, hfe⟩)
    · exact absurd h (by decide)
    · exact (hmem f hf).1 hfe
  · rintro ⟨f, hf, hfs⟩
    exact (hmem f hf).2 hfs

end LogRecord

/-- A log line is one JSON object that reads back as what was logged. It holds no line break,
so written with its line break it is exactly one line. When the field names are distinct and
none is `event` or `severity`: read member by member, the line gives the event, the severity
and then the fields, a permutation of those logged, in strictly ascending order of the UTF-8
bytes of their names, each name that of one member only; read as a record of those names by
the settings reader, it gives each name its value. Underneath, reading a JSON string inverts
the escaping of every string, quotes, backslashes and control characters included. -/
theorem log_line_reads_back (r : LogRecord) (hdistinct : (r.fields.map Prod.fst).Nodup)
    (hreserved : ∀ f ∈ r.fields, f.1 ≠ "event" ∧ f.1 ≠ "severity") :
    '\n' ∉ r.line.toList ∧
    Json.readStringObject r.line =
      .ok (("event", r.event) :: ("severity", r.severity.name) :: r.sortedFields) ∧
    (∀ what : String,
      Json.readRecordText what ("event" :: "severity" :: r.sortedFields.map Prod.fst) r.line =
        .ok (some r.event :: some r.severity.name :: r.sortedFields.map fun f => some f.2)) ∧
    r.sortedFields.Perm r.fields ∧
    (r.sortedFields.map fun f => Utf8.encodeString f.1).Pairwise (· < ·) ∧
    ((("event", r.event) :: ("severity", r.severity.name) :: r.sortedFields).map Prod.fst).Nodup ∧
    ∀ (s : String) (rest : List Char) (p : Json.Position),
      (Json.TextReader.readString true).run ⟨(escapeLog s).toList ++ '"' :: rest, p⟩ =
        .ok (s, ⟨rest, ((escapeLog s).toList ++ ['"']).foldl Json.Position.step p⟩) := by
  have hline : r.line = String.ofList ('{' :: (Json.membersText r.members ++ ['}'])) := by
    rw [← LogRecord.toList_line, String.ofList_toList]
  have hnodup := r.nodup_members hdistinct hreserved
  refine ⟨?_, ?_, fun what => ?_, r.sortedFields_perm, r.sortedFields_encode_lt hdistinct,
    hnodup, fun s rest p => ?_⟩
  · rw [LogRecord.toList_line]
    simp [Json.newline_not_mem_membersText]
  · rw [hline]
    exact Json.readStringObject_objectText _ _
  · rw [hline]
    simpa [LogRecord.members] using Json.readRecordText_objectText what _ _ hnodup
  · have h := Json.TextReader.leads_readString s rest p
    rwa [List.append_assoc, List.singleton_append] at h

/-- The line of a warning whose one field holds quotes and a line break reads back as
logged, member by member and by name. -/
theorem quoted_line_break_reads_back :
    (([("predicate", "R.A = \"1\"\nS.B")] : List (String × String)).map Prod.fst).Nodup ∧
    (∀ f ∈ ([("predicate", "R.A = \"1\"\nS.B")] : List (String × String)),
      f.1 ≠ "event" ∧ f.1 ≠ "severity") ∧
    '\n' ∉ (LogRecord.mk .warn "TEST" [("predicate", "R.A = \"1\"\nS.B")]).line.toList ∧
    Json.readStringObject (LogRecord.mk .warn "TEST" [("predicate", "R.A = \"1\"\nS.B")]).line =
      .ok [("event", "TEST"), ("severity", "WARN"), ("predicate", "R.A = \"1\"\nS.B")] ∧
    Json.readRecordText "struct LogLine" ["event", "severity", "predicate"]
        (LogRecord.mk .warn "TEST" [("predicate", "R.A = \"1\"\nS.B")]).line =
      .ok [some "TEST", some "WARN", some "R.A = \"1\"\nS.B"] := by
  have hdistinct : (([("predicate", "R.A = \"1\"\nS.B")] : List (String × String)).map
      Prod.fst).Nodup := by decide
  have hreserved : ∀ f ∈ ([("predicate", "R.A = \"1\"\nS.B")] : List (String × String)),
      f.1 ≠ "event" ∧ f.1 ≠ "severity" := by decide
  obtain ⟨hline, hread, hrecord, -⟩ :=
    log_line_reads_back ⟨.warn, "TEST", [("predicate", "R.A = \"1\"\nS.B")]⟩ hdistinct hreserved
  exact ⟨hdistinct, hreserved, hline,
    by simpa [LogRecord.sortedFields, Severity.name] using hread,
    by simpa [LogRecord.sortedFields, Severity.name] using hrecord "struct LogLine"⟩

end CsvQuery
