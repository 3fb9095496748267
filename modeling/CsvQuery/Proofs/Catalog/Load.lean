import Mathlib.Data.List.Induction
import CsvQuery.Catalog.Load
import CsvQuery.Proofs.Text.Fields
import CsvQuery.Proofs.Text.Lines

/-!
# What loading a schema file registers

A schema file is read line by line; each non-blank line names a table and its columns. A
line is skipped, with the first reason that applies, when it declares no columns, when its
table is already registered, or when a column repeats; every other line registers its table.

Which lines register is said here without the loop:

* `SchemaLine.skipCause`  why a line is skipped after the lines before it, if it is: no
  columns, a name that an earlier line declares (some columns, none repeated), or the first
  repeated column;
* `definingLines`, `skippedLines`  the lines that register, and the skipped lines with
  their numbers and reasons;
* `firstRepeat_eq_none_iff`, `firstRepeat_eq_some_iff`  the repeated column named is the
  first column that occurs a second time;
* `length_definingLines_add`  every non-blank line either registers or is skipped;
* `Catalog.Loaded`  the invariant of the loop: the catalog holds the tables of the defining
  lines read so far, and the skipped lines read so far;
* `Catalog.Loaded.skipReason_eq`, `Catalog.register_eq_ok_iff`  the loop's checks agree
  with `skipCause`, and they pass exactly where registering succeeds;
* `load_registers_defining_lines`  loading any text succeeds, with the tables of the
  defining lines in file order, the skipped lines, no name twice, and `table?` finding
  exactly the registered names.
-/

namespace CsvQuery

/-! ## The lines of a schema file -/

/-- A non-blank line of a schema file: its 1-based number, its first word and the rest. -/
structure SchemaLine where
  line : Nat
  name : String
  columns : List String
deriving DecidableEq, Repr

namespace SchemaLine

/-- The line declares a table: some columns, none twice. -/
def declares (e : SchemaLine) : Bool := !e.columns.isEmpty && decide e.columns.Nodup

/-- The table the line registers, its data file under `dataDir`. -/
def toDef (dataDir : String) (e : SchemaLine) : TableDef :=
  ⟨e.name, e.columns, FileTree.join dataDir (e.name ++ ".csv")⟩

/-- Why the line is skipped after the lines `earlier`, if it is: the first check that fails,
in the order no columns, a name that an earlier line declares, a repeated column. -/
def skipCause (earlier : List SchemaLine) (e : SchemaLine) : Option String :=
  if e.columns = [] then some ("table '" ++ e.name ++ "' declares no columns")
  else if earlier.any (fun d => d.declares && d.name == e.name) then
    some ("table '" ++ e.name ++ "' is already defined")
  else (firstRepeat [] e.columns).map fun col =>
    "table '" ++ e.name ++ "' repeats column '" ++ col ++ "'"

end SchemaLine

/-- The non-blank lines among numbered lines. -/
def schemaLinesOf (numbered : List (Nat × String)) : List SchemaLine :=
  numbered.filterMap fun (n, l) =>
    match Blank.wordsOf l with
    | [] => none
    | name :: columns => some ⟨n, name, columns⟩

/-- The non-blank lines of a schema text, numbered from 1 with blank lines counted. -/
def schemaLines (text : String) : List SchemaLine :=
  schemaLinesOf ((textLines text).zipIdx.map fun (l, i) => (i + 1, l))

/-- Each line with why it is skipped, if it is, after the lines before it. -/
def judged (es : List SchemaLine) : List (SchemaLine × Option String) :=
  es.zipIdx.map fun (e, i) => (e, e.skipCause (es.take i))

/-- The lines that register their tables. -/
def definingLines (es : List SchemaLine) : List SchemaLine :=
  (judged es).filterMap fun (e, r) => if r.isNone then some e else none

/-- The skipped lines, with their numbers and reasons. -/
def skippedLines (es : List SchemaLine) : List SkippedLine :=
  (judged es).filterMap fun (e, r) => r.map (⟨e.line, ·⟩)

/-! ## The first repeated column -/

theorem firstRepeat_eq_none_iff (seen cs : List String) :
    firstRepeat seen cs = none ↔ cs.Nodup ∧ ∀ c ∈ cs, c ∉ seen := by
  induction cs generalizing seen with
  | nil => simp [firstRepeat]
  | cons c cs ih =>
    by_cases hc : c ∈ seen
    · simp [firstRepeat, hc]
    · rw [firstRepeat, if_neg (by simpa using hc), ih, List.nodup_cons, List.forall_mem_cons]
      constructor
      · rintro ⟨hnd, hall⟩
        exact ⟨⟨fun hmem => hall c hmem List.mem_cons_self, hnd⟩, hc,
          fun x hx h => hall x hx (List.mem_cons_of_mem _ h)⟩
      · rintro ⟨⟨hcs, hnd⟩, -, hall⟩
        refine ⟨hnd, fun x hx hmem => ?_⟩
        rcases List.mem_cons.1 hmem with rfl | hmem
        · exact hcs hx
        · exact hall x hx hmem

/-- The column named is the first that occurs a second time, or was seen before. -/
theorem firstRepeat_eq_some_iff (seen cs : List String) (x : String) :
    firstRepeat seen cs = some x ↔
      ∃ pre post, cs = pre ++ x :: post ∧ pre.Nodup ∧ (∀ c ∈ pre, c ∉ seen) ∧
        (x ∈ pre ∨ x ∈ seen) := by
  induction cs generalizing seen with
  | nil => simp [firstRepeat]
  | cons c cs ih =>
    by_cases hc : c ∈ seen
    · -- a column seen before is named at once
      rw [firstRepeat, if_pos (by simpa using hc), Option.some.injEq]
      constructor
      · rintro rfl
        exact ⟨[], cs, rfl, List.nodup_nil, by simp, .inr hc⟩
      · rintro ⟨pre, post, hcs, -, hpre, -⟩
        cases pre with
        | nil =>
          simp only [List.nil_append, List.cons.injEq] at hcs
          exact hcs.1
        | cons p pre =>
          simp only [List.cons_append, List.cons.injEq] at hcs
          exact absurd (hcs.1 ▸ hc) (hpre p List.mem_cons_self)
    · -- any other column joins the columns seen
      rw [firstRepeat, if_neg (by simpa using hc), ih]
      constructor
      · rintro ⟨pre, post, rfl, hnd, hpre, hx⟩
        refine ⟨c :: pre, post, rfl, ?_, ?_, ?_⟩
        · exact List.nodup_cons.2 ⟨fun h => hpre c h List.mem_cons_self, hnd⟩
        · exact List.forall_mem_cons.2
            ⟨hc, fun y hy h => hpre y hy (List.mem_cons_of_mem _ h)⟩
        · rcases hx with hx | hx
          · exact .inl (List.mem_cons_of_mem _ hx)
          · rcases List.mem_cons.1 hx with rfl | hx
            · exact .inl List.mem_cons_self
            · exact .inr hx
      · rintro ⟨pre, post, hcs, hnd, hpre, hx⟩
        cases pre with
        | nil =>
          simp only [List.nil_append, List.cons.injEq] at hcs
          rw [hcs.1] at hc
          exact absurd (hx.resolve_left List.not_mem_nil) hc
        | cons p pre =>
          simp only [List.cons_append, List.cons.injEq] at hcs
          obtain ⟨rfl, rfl⟩ := hcs
          obtain ⟨hp, hnd⟩ := List.nodup_cons.1 hnd
          refine ⟨pre, post, rfl, hnd, ?_, ?_⟩
          · intro y hy hmem
            rcases List.mem_cons.1 hmem with rfl | hmem
            · exact hp hy
            · exact hpre y (List.mem_cons_of_mem _ hy) hmem
          · rcases hx with hx | hx
            · rcases List.mem_cons.1 hx with rfl | hx
              · exact .inr List.mem_cons_self
              · exact .inl hx
            · exact .inr (List.mem_cons_of_mem _ hx)

/-! ## Judging one line more -/

theorem judged_append_singleton (es : List SchemaLine) (e : SchemaLine) :
    judged (es ++ [e]) = judged es ++ [(e, e.skipCause es)] := by
  unfold judged
  rw [List.zipIdx_append, List.map_append]
  congr 1
  · -- the lines before `e` are judged by the lines before them, as without `e`
    apply List.map_congr_left
    rintro ⟨d, i⟩ hd
    have hi : i < es.length := by
      have := List.mem_zipIdx hd
      omega
    simp [List.take_append_of_le_length (Nat.le_of_lt hi)]
  · simp

theorem definingLines_append_singleton (es : List SchemaLine) (e : SchemaLine) :
    definingLines (es ++ [e]) = definingLines es ++ if e.skipCause es = none then [e] else [] := by
  unfold definingLines
  rw [judged_append_singleton, List.filterMap_append]
  cases e.skipCause es <;> simp

theorem skippedLines_append_singleton (es : List SchemaLine) (e : SchemaLine) :
    skippedLines (es ++ [e]) = skippedLines es ++ (e.skipCause es).toList.map (⟨e.line, ·⟩) := by
  unfold skippedLines
  rw [judged_append_singleton, List.filterMap_append]
  cases e.skipCause es <;> simp

/-- Every line either registers or is skipped. -/
theorem length_definingLines_add (es : List SchemaLine) :
    (definingLines es).length + (skippedLines es).length = es.length := by
  induction es using List.reverseRecOn with
  | nil => rfl
  | append_singleton es e ih =>
    rw [definingLines_append_singleton, skippedLines_append_singleton, List.length_append,
      List.length_append, List.length_append, ← ih]
    cases e.skipCause es <;> simp <;> omega

theorem skipCause_eq_none_iff (earlier : List SchemaLine) (e : SchemaLine) :
    e.skipCause earlier = none ↔
      e.declares = true ∧ earlier.any (fun d => d.declares && d.name == e.name) = false := by
  unfold SchemaLine.skipCause
  by_cases h0 : e.columns = []
  · simp [h0, SchemaLine.declares]
  · rw [if_neg h0]
    by_cases h1 : earlier.any (fun d => d.declares && d.name == e.name) = true
    · rw [if_pos h1]
      simp [h1]
    · rw [Bool.not_eq_true] at h1
      rw [if_neg (by simp [h1]), Option.map_eq_none_iff, firstRepeat_eq_none_iff, h1]
      simp [h0, SchemaLine.declares]

theorem any_definingLines (es : List SchemaLine) (name : String) :
    (definingLines es).any (·.name == name) = es.any (fun d => d.declares && d.name == name) := by
  induction es using List.reverseRecOn with
  | nil => rfl
  | append_singleton es e ih =>
    rw [definingLines_append_singleton, List.any_append, List.any_append, ih]
    by_cases hcause : e.skipCause es = none
    · have hdecl := ((skipCause_eq_none_iff es e).1 hcause).1
      simp [hcause, hdecl]
    · -- a skipped line that declares a table was skipped for its name
      rw [if_neg hcause]
      by_cases hmatch : (e.declares && e.name == name) = true
      · obtain ⟨hdecl, hname⟩ := Bool.and_eq_true_iff.1 hmatch
        have hprev : es.any (fun d => d.declares && d.name == e.name) = true := by
          by_contra hno
          exact hcause ((skipCause_eq_none_iff es e).2 ⟨hdecl, by simpa using hno⟩)
        rw [beq_iff_eq.1 hname] at hprev
        simp [hprev]
      · simp [hmatch]

theorem nodup_names_definingLines (es : List SchemaLine) :
    ((definingLines es).map (·.name)).Nodup := by
  induction es using List.reverseRecOn with
  | nil => exact List.nodup_nil
  | append_singleton es e ih =>
    rw [definingLines_append_singleton]
    split
    · rename_i hcause
      have hfree := ((skipCause_eq_none_iff es e).1 hcause).2
      rw [← any_definingLines] at hfree
      rw [List.map_append, List.nodup_append]
      refine ⟨ih, by simp, ?_⟩
      intro a ha b hb
      rw [List.mem_singleton.1 hb]
      obtain ⟨d, hd, rfl⟩ := List.mem_map.1 ha
      intro hname
      have := List.any_eq_false.1 hfree d hd
      simp [hname] at this
    · simpa using ih

/-! ## Registering -/

/-- Registering checks what skipping checks, in another order: it succeeds exactly when no
reason to skip applies, and then puts the name at the end of the order and the table into
the registry, and changes nothing else. A failed registration gives no catalog, so the
caller's stays as it was. -/
theorem Catalog.register_eq_ok_iff {c c' : Catalog} {name : String} {columns : List String} :
    c.register name columns = .ok c' ↔
      skipReason c name columns = none ∧
        c' = { c with order := c.order ++ [name], registry := c.tableDef name columns :: c.registry } := by
  unfold register skipReason
  by_cases hcontains : c.contains name = true
  · by_cases hempty : columns.isEmpty = true
    · simp [hcontains, hempty]
    · simp [hcontains, hempty]
  · by_cases hempty : columns.isEmpty = true
    · simp [hcontains, hempty]
    · cases firstRepeat [] columns <;> simp [hcontains, hempty, eq_comm]

theorem Catalog.contains_eq_false_of_register {c c' : Catalog} {name : String}
    {columns : List String} (h : c.register name columns = .ok c') : c.contains name = false := by
  unfold register at h
  split at h
  · cases h
  · simpa using ‹¬c.contains name = true›

theorem Catalog.table?_name {c : Catalog} {n : String} {d : TableDef} (h : c.table? n = some d) :
    d.name = n := by
  simpa using List.find?_some h

theorem Catalog.contains_eq_any (c : Catalog) (name : String) :
    c.contains name = c.registry.any (·.name == name) := by
  rw [Bool.eq_iff_iff]
  simp [contains, table?, List.find?_isSome]

theorem find?_name_of_nodup {ds : List TableDef} (hnd : (ds.map (·.name)).Nodup) {d : TableDef}
    (hd : d ∈ ds) : ds.find? (·.name == d.name) = some d := by
  induction ds with
  | nil => cases hd
  | cons a ds ih =>
    rw [List.map_cons, List.nodup_cons] at hnd
    rcases List.mem_cons.1 hd with rfl | hd
    · simp
    · have hne : a.name ≠ d.name := fun h => hnd.1 (h ▸ List.mem_map_of_mem hd)
      rw [List.find?_cons_of_neg (by simpa using hne), ih hnd.2 hd]

theorem Catalog.table?_of_mem_tables {c : Catalog} {d : TableDef} (hd : d ∈ c.tables) :
    c.table? d.name = some d := by
  obtain ⟨n, -, hn⟩ := List.mem_filterMap.1 hd
  rwa [Catalog.table?_name hn]

theorem Catalog.map_name_tables {c : Catalog} (h : ∀ n ∈ c.tableNames, (c.table? n).isSome) :
    c.tables.map (·.name) = c.tableNames := by
  rw [Catalog.tables, Catalog.tableNames, List.map_filterMap]
  conv_rhs => rw [← List.filterMap_some (l := c.order)]
  apply List.filterMap_congr
  intro n hn
  obtain ⟨d, hd⟩ := Option.isSome_iff_exists.1 (h n hn)
  rw [hd, Option.map_some, Catalog.table?_name hd]

theorem Catalog.tables_of_perm {c : Catalog} {ds : List TableDef} (hds : c.registry.Perm ds)
    (hnd : (ds.map (·.name)).Nodup) (horder : c.order = ds.map (·.name)) : c.tables = ds := by
  -- each name of the order finds its own definition
  have hfind : ∀ d ∈ ds, c.table? d.name = some d := fun d hd =>
    find?_name_of_nodup ((hds.map _).nodup_iff.2 hnd) (hds.mem_iff.2 hd)
  rw [Catalog.tables, horder, List.filterMap_map]
  calc ds.filterMap (c.table? ∘ (·.name)) = ds.filterMap some := List.filterMap_congr hfind
    _ = ds := List.filterMap_some

/-! ## The registry and the order in step -/

/-- The registry and the order are in step: the order names each table once, and the
registry holds exactly one definition under each name of the order. -/
structure Catalog.Synced (c : Catalog) : Prop where
  nodup_order : c.order.Nodup
  perm_registry : (c.registry.map (·.name)).Perm c.order

namespace Catalog.Synced

variable {c : Catalog}

theorem empty (dataDir : String) : (Catalog.empty dataDir).Synced := ⟨List.nodup_nil, .nil⟩

theorem nodup_names (hs : c.Synced) : (c.registry.map (·.name)).Nodup :=
  hs.perm_registry.nodup_iff.2 hs.nodup_order

theorem isSome_table?_iff (hs : c.Synced) (name : String) :
    (c.table? name).isSome ↔ name ∈ c.tableNames := by
  rw [tableNames, ← hs.perm_registry.mem_iff]
  simp [table?, List.find?_isSome]

theorem size_eq (hs : c.Synced) : c.size = c.tableNames.length := by
  rw [size, tableNames, ← hs.perm_registry.length_eq, List.length_map]

/-- Registering keeps the registry and the order in step. -/
theorem register (hs : c.Synced) {c' : Catalog} {name : String} {columns : List String}
    (h : c.register name columns = .ok c') : c'.Synced := by
  -- the name is free: the registry holds no table under it, so the order does not list it
  have hfree : name ∉ c.order := fun hmem => by
    have hfalse := Catalog.contains_eq_false_of_register h
    rw [Catalog.contains, (hs.isSome_table?_iff name).2 hmem] at hfalse
    cases hfalse
  obtain ⟨-, rfl⟩ := Catalog.register_eq_ok_iff.1 h
  refine ⟨List.nodup_append.2 ⟨hs.nodup_order, by simp, ?_⟩, ?_⟩
  · intro a ha b hb
    rw [List.mem_singleton.1 hb]
    rintro rfl
    exact hfree ha
  · exact (hs.perm_registry.cons name).trans (List.perm_append_singleton name c.order).symm

end Catalog.Synced

/-! ## The loop -/

/-- The catalog after reading the lines `es`: the names of their defining lines in order,
the registry holding the tables of those lines, and their skipped lines. -/
structure Catalog.Loaded (dataDir : String) (es : List SchemaLine) (c : Catalog) : Prop where
  dataDir_eq : c.dataDir = dataDir
  order_eq : c.order = (definingLines es).map (·.name)
  perm_registry : c.registry.Perm ((definingLines es).map (SchemaLine.toDef dataDir))
  skipped_eq : c.skipped = skippedLines es

namespace Catalog.Loaded

variable {dataDir : String} {es : List SchemaLine} {c : Catalog}

theorem empty (dataDir : String) : Loaded dataDir [] (Catalog.empty dataDir) :=
  ⟨rfl, rfl, .nil, rfl⟩

theorem contains_eq (h : Loaded dataDir es c) (name : String) :
    c.contains name = es.any (fun d => d.declares && d.name == name) := by
  rw [Catalog.contains_eq_any, h.perm_registry.any_eq, List.any_map, ← any_definingLines]
  rfl

theorem skipReason_eq (h : Loaded dataDir es c) (e : SchemaLine) :
    skipReason c e.name e.columns = e.skipCause es := by
  unfold skipReason SchemaLine.skipCause
  rw [h.contains_eq]
  by_cases h0 : e.columns = []
  · simp [h0]
  · rw [if_neg (by simpa using h0), if_neg h0]
    split <;> cases firstRepeat [] e.columns <;> rfl

theorem synced (h : Loaded dataDir es c) : c.Synced where
  nodup_order := h.order_eq ▸ nodup_names_definingLines es
  perm_registry := by
    rw [h.order_eq]
    simpa [List.map_map, Function.comp_def, SchemaLine.toDef] using h.perm_registry.map (·.name)

theorem tables_eq (h : Loaded dataDir es c) :
    c.tables = (definingLines es).map (SchemaLine.toDef dataDir) := by
  have hnames : ((definingLines es).map (SchemaLine.toDef dataDir)).map (·.name) =
      (definingLines es).map (·.name) := by
    simp [List.map_map, Function.comp_def, SchemaLine.toDef]
  exact Catalog.tables_of_perm h.perm_registry (hnames ▸ nodup_names_definingLines es)
    (h.order_eq.trans hnames.symm)

theorem step (h : Loaded dataDir es c) (display : String) (logs : List LogRecord) (n : Nat)
    (line : String) (rest : List (Nat × String)) :
    ∃ c' logs', readSchemaLines display (c, logs) ((n, line) :: rest) =
        readSchemaLines display (c', logs') rest ∧ Loaded dataDir (es ++ schemaLinesOf [(n, line)]) c' := by
  rw [readSchemaLines]
  split
  · rename_i hblank
    refine ⟨c, logs, rfl, ?_⟩
    simpa [schemaLinesOf, hblank] using h
  · rename_i name columns hwords
    have hline : schemaLinesOf [(n, line)] = [⟨n, name, columns⟩] := by
      simp [schemaLinesOf, hwords]
    rw [hline, h.skipReason_eq ⟨n, name, columns⟩]
    split
    · -- skipped: its number and reason are recorded
      rename_i reason hcause
      have hdef : definingLines (es ++ [⟨n, name, columns⟩]) = definingLines es := by
        rw [definingLines_append_singleton, if_neg (by simp [hcause]), List.append_nil]
      refine ⟨_, _, rfl, h.dataDir_eq, hdef ▸ h.order_eq, hdef ▸ h.perm_registry, ?_⟩
      rw [h.skipped_eq, skippedLines_append_singleton, hcause]
      rfl
    · -- registered: its name goes at the end of the order, its table into the registry
      rename_i hcause
      have hreg := Catalog.register_eq_ok_iff.2 ⟨(h.skipReason_eq ⟨n, name, columns⟩).trans hcause, rfl⟩
      have hdef : definingLines (es ++ [⟨n, name, columns⟩]) = definingLines es ++ [⟨n, name, columns⟩] := by
        rw [definingLines_append_singleton, if_pos hcause]
      have htable : c.tableDef name columns = SchemaLine.toDef dataDir ⟨n, name, columns⟩ := by
        rw [Catalog.tableDef, h.dataDir_eq]
        rfl
      rw [hreg]
      refine ⟨_, _, rfl, h.dataDir_eq, ?_, ?_, ?_⟩
      · rw [hdef, List.map_append, ← h.order_eq]
        rfl
      · rw [hdef, List.map_append, List.map_singleton, htable]
        exact (h.perm_registry.cons _).trans (List.perm_append_singleton _ _).symm
      · rw [h.skipped_eq, skippedLines_append_singleton, hcause]
        simp

theorem schemaLinesOf_cons (x : Nat × String) (rest : List (Nat × String)) :
    schemaLinesOf (x :: rest) = schemaLinesOf [x] ++ schemaLinesOf rest := by
  simp only [schemaLinesOf, List.filterMap_cons, List.filterMap_nil]
  split <;> simp

/-- Reading numbered lines never fails, and keeps the invariant over their non-blank lines. -/
theorem run (display : String) :
    ∀ (numbered : List (Nat × String)) (logs : List LogRecord) {es : List SchemaLine} {c : Catalog},
      Loaded dataDir es c → ∃ c' logs', readSchemaLines display (c, logs) numbered = .ok (c', logs') ∧
        Loaded dataDir (es ++ schemaLinesOf numbered) c'
  | [], logs, _, c, h => ⟨c, logs, by rw [readSchemaLines], by simpa [schemaLinesOf] using h⟩
  | (n, line) :: rest, logs, _, _, h => by
    obtain ⟨c₁, logs₁, hstep, h₁⟩ := h.step display logs n line rest
    obtain ⟨c₂, logs₂, hrun, h₂⟩ := run display rest logs₁ h₁
    refine ⟨c₂, logs₂, hstep.trans hrun, ?_⟩
    rwa [schemaLinesOf_cons, ← List.append_assoc]

end Catalog.Loaded

/-! ## Loading -/

/-- Loading a schema file that reads as text always succeeds: registering never fails, since
a line is registered only once no reason to skip it applies. The tables are those of the
defining lines, in file order, each with its line's columns and its data file under the
data directory; every other non-blank line is skipped with its number and the first reason
that applies; no table name is registered twice, and a table is found by name exactly when
its name is registered. -/
theorem load_registers_defining_lines {files : FileTree} {dbDir schemaFile dataSubdir text : String}
    (h : files.readText (FileTree.join dbDir schemaFile) = .ok text) :
    ∃ c logs, Catalog.load files dbDir schemaFile dataSubdir = .ok (c, logs) ∧
      c.tables = (definingLines (schemaLines text)).map
        (SchemaLine.toDef (FileTree.join dbDir dataSubdir)) ∧
      c.skipped = skippedLines (schemaLines text) ∧
      c.tableNames.Nodup ∧ ∀ name, (c.table? name).isSome ↔ name ∈ c.tableNames := by
  obtain ⟨c, logs, hrun, hc⟩ := Catalog.Loaded.run (FileTree.join dbDir schemaFile)
    ((textLines text).zipIdx.map fun (l, i) => (i + 1, l)) []
    (Catalog.Loaded.empty (FileTree.join dbDir dataSubdir))
  rw [List.nil_append] at hc
  have hload : ∃ logs', Catalog.load files dbDir schemaFile dataSubdir = .ok (c, logs') :=
    ⟨_, by simp only [Catalog.load, h, Catalog.ofSchemaText, hrun]; rfl⟩
  obtain ⟨logs', hload⟩ := hload
  exact ⟨c, logs', hload, hc.tables_eq, hc.skipped_eq, hc.synced.nodup_order,
    hc.synced.isSome_table?_iff⟩

/-- A schema file whose first line for `R` repeats a column, with a blank line, a table
without columns, a second line for `S` and a later line for `R`: `S` and then `R` register,
`R` with the columns of its later line. -/
theorem later_line_defines_skipped_table :
    ∃ c logs, Catalog.load ⟨[(["schema.txt"], .file (Utf8.encodeString
        "R A A\nS B C\n\nLonely\nS X\nT X Y X\nR C\n"))]⟩ "" "schema.txt" "data" = .ok (c, logs) ∧
      c.tableNames = ["S", "R"] ∧ (c.table? "R").map (·.columns) = some ["C"] ∧
      c.skipped = [⟨1, "table 'R' repeats column 'A'"⟩, ⟨4, "table 'Lonely' declares no columns"⟩,
        ⟨5, "table 'S' is already defined"⟩, ⟨6, "table 'T' repeats column 'X'"⟩] := by
  have hjoin : FileTree.join "" "schema.txt" = "schema.txt" := by simp [FileTree.join]
  have hparts : FileTree.parts "schema.txt" = ["schema.txt"] := by
    rw [FileTree.parts, String.splitOn_eq_of_toList _ (by decide : "/".toList = ['/'])]
    decide
  have hread : FileTree.readText ⟨[(["schema.txt"], .file (Utf8.encodeString
      "R A A\nS B C\n\nLonely\nS X\nT X Y X\nR C\n"))]⟩ (FileTree.join "" "schema.txt") =
        .ok "R A A\nS B C\n\nLonely\nS X\nT X Y X\nR C\n" := by
    rw [hjoin, FileTree.readText, FileTree.readBytes, hparts]
    simp [FileTree.lookup, Utf8.decodeString?, Utf8.encodeString, Utf8.decode?_encode]
  obtain ⟨c, logs, hload, htables, hskipped, -, hfound⟩ := load_registers_defining_lines hread
  refine ⟨c, logs, hload, ?_, ?_, ?_⟩
  · rw [← Catalog.map_name_tables fun n hn => (hfound n).2 hn, htables, List.map_map]
    decide
  · have hfind : (c.tables.find? (·.name == "R")).map (·.columns) = some ["C"] := by
      rw [htables]
      decide
    obtain ⟨d, hd, hcols⟩ := Option.map_eq_some_iff.1 hfind
    have hname : d.name = "R" := by simpa using List.find?_some hd
    rw [← hname, Catalog.table?_of_mem_tables (List.mem_of_find?_eq_some hd), Option.map_some, hcols]
  · rw [hskipped]
    decide

end CsvQuery
