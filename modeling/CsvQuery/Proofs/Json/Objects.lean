import Mathlib.Tactic.SplitIfs
import Mathlib.Data.List.TakeDrop
import CsvQuery.Log.Basic
import CsvQuery.Json.Read

/-!
# Objects of escaped strings read back

The reader of the settings file (`Json.TextReader`) reads JSON text one character at a time.
Here it reads objects whose names and values are strings escaped by `escapeLog`, as log lines
are written, and gives back exactly what was written:

* `Json.TextReader.Leads`  what a reader does on a text that starts with a known part: it
  reads that part, whatever follows, and goes on as another reader; the steps of a `do`
  block compose (`Leads.trans`, `Leads.bind_of_pure`);
* `Json.TextReader.leads_readString`  unescaping inverts `escapeLog`: the escaped form of
  any string, up to its closing quote, reads back as the string, quotes, backslashes and
  every control character included;
* `Json.readStringObject_objectText`  an object written member by member reads back, member
  by member, as its members in order;
* `Json.readRecordText_objectText`  such an object with distinct names, read by the settings
  file's record reader as a record of those names, gives each name its value.
-/

namespace CsvQuery

namespace Json

namespace TextReader

/-! ## Objects whose values are strings -/

/-- Reads the opening quote of a member name. -/
def openName : TextReader Unit := do
  match ← skipSpace with
  | some '"' => eat
  | some _ => failAtNext keyNotString
  | none => failAtNext eofObject

/-- Reads a member whose value is a string: the quoted name, a colon and the quoted value. -/
def readStringMember : TextReader (String × String) := do
  openName
  let key ← readString true
  readMembers.colon
  let value ← readText
  return (key, value)

/-- Reads at most `n` members whose values are strings, separated by commas, up to and with
the closing brace: the members, in the order written. -/
def readStringMembers : Nat → TextReader (List (String × String))
  | 0 => pure []
  | n + 1 => do
    let m ← readStringMember
    match ← skipSpace with
    | some ',' => eat; return m :: (← readStringMembers n)
    | some '}' => eat; return [m]
    | some _ => failAtNext objectCommaOrEnd
    | none => failAtNext eofObject

/-- Reads what follows the opening brace of an object: its members, at most `n` of them. -/
def readObjectRest (n : Nat) : TextReader (List (String × String)) := do
  match ← skipSpace with
  | some '}' => eat; pure []
  | _ => readStringMembers n

/-- Reads the end of a text after an object: nothing may follow it. -/
def readObjectEnd (members : List (String × String)) : TextReader (List (String × String)) := do
  match ← skipSpace with
  | some _ => failAtNext trailingCharacters
  | none => pure members

/-- Reads one object whose values are strings, with at most `n` members, and nothing after
it. -/
def readObjectFrom (n : Nat) : TextReader (List (String × String)) := do
  match ← skipSpace with
  | some '{' =>
    eat
    let members ← readObjectRest n
    readObjectEnd members
  | some _ => mismatch "a map"
  | none => failAtNext eofValue

/-- Reads one object whose values are strings, and nothing after it. -/
def readWholeObject : TextReader (List (String × String)) := do
  readObjectFrom (← get).rest.length

end TextReader

/-- Reads a whole text as one object whose values are strings: its members, in the order
written. -/
def readStringObject (text : String) : Except ReadFailure (List (String × String)) :=
  (TextReader.readWholeObject.run ⟨text.toList, {}⟩).map Prod.fst

namespace TextReader

/-! ## Readers on a known text -/

variable {α β : Type}

/-- `x` reads `pre` off the front of the text, whatever follows it, and then goes on as `y`;
the position moves past `pre`. -/
def Leads (x : TextReader α) (pre : List Char) (y : TextReader α) : Prop :=
  ∀ (rest : List Char) (p : Position),
    x.run ⟨pre ++ rest, p⟩ = y.run ⟨rest, pre.foldl Position.step p⟩

section Leads

variable {x y z : TextReader α} {pre pre' : List Char}

theorem Leads.refl (x : TextReader α) : Leads x [] x := fun _ _ => rfl

theorem Leads.trans (hxy : Leads x pre y) (hyz : Leads y pre' z) : Leads x (pre ++ pre') z := by
  intro rest p
  rw [List.append_assoc, hxy, hyz, List.foldl_append]

theorem Leads.bind (h : Leads x pre y) (f : α → TextReader β) :
    Leads (x >>= f) pre (y >>= f) := by
  intro rest p
  rw [StateT.run_bind, StateT.run_bind, h]

theorem Leads.bind_pure {a : α} (hx : Leads x pre (pure a)) (f : α → TextReader β) :
    Leads (x >>= f) pre (f a) := by
  have h := hx.bind f
  rwa [pure_bind] at h

/-- The step of a `do` block: its first reader reads `pre` and returns `a`, and the rest of
the block, given `a`, reads `pre'`. -/
theorem Leads.bind_of_pure {f : α → TextReader β} {a : α} {z : TextReader β}
    (hx : Leads x pre (pure a)) (hf : Leads (f a) pre' z) : Leads (x >>= f) (pre ++ pre') z :=
  (hx.bind_pure f).trans hf

theorem Leads.eat (c : Char) : Leads eat [c] (pure ()) := fun _ _ => rfl

theorem Leads.skipSpace_bind {f : Option Char → TextReader α} {c : Char} (hc : isSpace c = false)
    (h : Leads (f (some c)) (c :: pre) y) : Leads (skipSpace >>= f) (c :: pre) y := by
  intro rest p
  have hspan : (c :: (pre ++ rest)).span isSpace = ([], c :: (pre ++ rest)) := by
    rw [List.span_eq_takeWhile_dropWhile, List.takeWhile_cons_of_neg (by simp [hc]),
      List.dropWhile_cons_of_neg (by simp [hc])]
  rw [← h rest p]
  simp only [skipSpace, bind_assoc, List.cons_append]
  rw [StateT.run_bind, StateT.run_modify, hspan]
  rfl

theorem Leads.get_bind {f : Cursor → TextReader α} (h : ∀ rest p, Leads (f ⟨pre ++ rest, p⟩) pre y) :
    Leads (get >>= f) pre y := by
  intro rest p
  rw [StateT.run_bind, StateT.run_get, pure_bind]
  exact h rest p rest p

end Leads

/-! ## Strings -/

theorem hexValue?_hexDigit : ∀ k, k < 16 → hexValue? (CsvQuery.hexDigit k) = some k := by
  decide

theorem utf8Size_hexDigit : ∀ k, k < 16 → (CsvQuery.hexDigit k).utf8Size = 1 := by decide

theorem leads_readHex4 {n : Nat} (hn : n < 65536) :
    Leads readHex4 [CsvQuery.hexDigit (n / 4096 % 16), CsvQuery.hexDigit (n / 256 % 16),
      CsvQuery.hexDigit (n / 16 % 16), CsvQuery.hexDigit (n % 16)] (pure n) := by
  intro rest p
  have h16 : ∀ m, m % 16 < 16 := fun m => Nat.mod_lt _ (by omega)
  -- the four digits are those of `n` in base 16, most significant first
  have hval : ((n / 4096 % 16 * 16 + n / 256 % 16) * 16 + n / 16 % 16) * 16 + n % 16 = n := by
    omega
  simp [TextReader.readHex4, hexValue?_hexDigit _ (h16 _), utf8Size_hexDigit _ (h16 _), hval]

theorem leads_readUnicode {n : Nat} (hn : n < 0xD800) :
    Leads (readUnicode n) [] (pure [Char.ofNat n]) := by
  intro rest p
  simp [TextReader.readUnicode, show ¬0xDC00 ≤ n by omega, hn]

theorem leads_readEscape_unicode {n : Nat} (hn : n < 0xD800) :
    Leads (readEscape true) ['u', CsvQuery.hexDigit (n / 4096 % 16),
      CsvQuery.hexDigit (n / 256 % 16), CsvQuery.hexDigit (n / 16 % 16),
      CsvQuery.hexDigit (n % 16)] (pure [Char.ofNat n]) := by
  have hu : Leads (readEscape true) ['u'] (TextReader.readHex4 >>= fun m => readUnicode m) :=
    fun _ _ => rfl
  have hhex := (leads_readHex4 (show n < 65536 by omega)).bind_of_pure (leads_readUnicode hn)
  exact hu.trans hhex

theorem leads_readEscape_short {e d : Char}
    (h : (e, d) ∈ [('"', '"'), ('\\', '\\'), ('n', '\n'), ('r', '\r'), ('t', '\t')]) :
    Leads (readEscape true) [e] (pure [d]) := by
  simp only [List.mem_cons, Prod.mk.injEq, List.not_mem_nil, or_false] at h
  rcases h with ⟨rfl, rfl⟩ | ⟨rfl, rfl⟩ | ⟨rfl, rfl⟩ | ⟨rfl, rfl⟩ | ⟨rfl, rfl⟩ <;>
    exact fun _ _ => rfl

section StringFrom

variable {n : Nat} {acc : List Char}

theorem leads_readStringFrom_quote :
    Leads (readStringFrom true (n + 1) acc) ['"'] (pure (String.ofList acc.reverse)) :=
  fun _ _ => rfl

theorem leads_readStringFrom_escape {e : List Char} {d : Char}
    (h : Leads (readEscape true) e (pure [d])) :
    Leads (readStringFrom true (n + 1) acc) ('\\' :: e) (readStringFrom true n (d :: acc)) := by
  have hb : Leads (readStringFrom true (n + 1) acc) ['\\']
      (readEscape true >>= fun cs => readStringFrom true n (cs.reverse ++ acc)) := fun _ _ => rfl
  exact hb.trans (h.bind_pure _)

theorem leads_readStringFrom_plain {c : Char} (h1 : c ≠ '"') (h2 : c ≠ '\\')
    (h3 : ¬c.toNat < 0x20) :
    Leads (readStringFrom true (n + 1) acc) [c] (readStringFrom true n (c :: acc)) := by
  intro rest p
  -- the match on the character goes to its last arm, by `h1` and `h2`
  simp [TextReader.readStringFrom, peek, TextReader.eat, h3]

theorem leads_readStringFrom_escapeLogChar (c : Char) :
    Leads (readStringFrom true (n + 1) acc) (escapeLogChar c) (readStringFrom true n (c :: acc)) := by
  unfold escapeLogChar
  split_ifs with hq hb hn hr ht hc
  · subst hq
    exact leads_readStringFrom_escape (leads_readEscape_short (by simp))
  · subst hb
    exact leads_readStringFrom_escape (leads_readEscape_short (by simp))
  · subst hn
    exact leads_readStringFrom_escape (leads_readEscape_short (by simp))
  · subst hr
    exact leads_readStringFrom_escape (leads_readEscape_short (by simp))
  · subst ht
    exact leads_readStringFrom_escape (leads_readEscape_short (by simp))
  · -- a control character is below U+00A0, far from the surrogates
    have hlt : c.toNat < 0xD800 := by
      simp only [isControl, Bool.or_eq_true, decide_eq_true_eq, Bool.and_eq_true] at hc
      omega
    have h : Leads (readStringFrom true (n + 1) acc) _ (readStringFrom true n (Char.ofNat c.toNat :: acc)) :=
      leads_readStringFrom_escape (leads_readEscape_unicode hlt)
    rwa [Char.ofNat_toNat] at h
  · have hc' : ¬c.toNat < 0x20 := by
      simp only [isControl, Bool.or_eq_true, decide_eq_true_eq, Bool.and_eq_true] at hc
      omega
    exact leads_readStringFrom_plain hq hb hc'

theorem leads_readStringFrom_escaped : ∀ (s : List Char) (n : Nat) (acc : List Char),
    Leads (readStringFrom true (n + s.length) acc) (s.flatMap escapeLogChar)
      (readStringFrom true n (s.reverse ++ acc))
  | [], n, acc => Leads.refl _
  | c :: s, n, acc => by
    rw [List.flatMap_cons, List.reverse_cons, List.append_assoc, List.singleton_append,
      List.length_cons, ← Nat.add_assoc]
    exact leads_readStringFrom_escapeLogChar c |>.trans (leads_readStringFrom_escaped s n (c :: acc))

end StringFrom

theorem length_le_length_escaped : ∀ s : List Char, s.length ≤ (s.flatMap escapeLogChar).length
  | [] => Nat.le_refl 0
  | c :: s => by
    -- every character is escaped to at least one character
    have hc : 1 ≤ (escapeLogChar c).length := by
      unfold escapeLogChar
      split_ifs <;> simp
    have := length_le_length_escaped s
    rw [List.flatMap_cons, List.length_append, List.length_cons]
    omega

/-- Unescaping inverts `escapeLog`: the escaped form of a string, up to its closing quote,
reads back as the string. -/
theorem leads_readString (s : String) :
    Leads (readString true) ((escapeLog s).toList ++ ['"']) (pure s) := by
  intro rest p
  rw [escapeLog, String.toList_ofList]
  have hlen := length_le_length_escaped s.toList
  -- the reader's bound on the string is the length of the text it starts on
  obtain ⟨m, hm⟩ : ∃ m, (s.toList.flatMap escapeLogChar ++ ['"'] ++ rest).length + 1 =
      m + 1 + s.toList.length := by
    refine ⟨(s.toList.flatMap escapeLogChar ++ ['"'] ++ rest).length - s.toList.length, ?_⟩
    simp only [List.length_append, List.length_singleton]
    omega
  have h := leads_readStringFrom_escaped s.toList (m + 1) [] |>.trans leads_readStringFrom_quote
  simp only [readString, StateT.run_bind, StateT.run_get, pure_bind, hm]
  rw [h rest p]
  simp

theorem leads_openName : Leads openName ['"'] (pure ()) := Leads.skipSpace_bind rfl (Leads.eat _)

theorem leads_colon : Leads readMembers.colon [':'] (pure ()) :=
  Leads.skipSpace_bind rfl (Leads.eat _)

theorem leads_readText (s : String) :
    Leads readText ('"' :: ((escapeLog s).toList ++ ['"'])) (pure s) :=
  Leads.skipSpace_bind rfl ((Leads.eat '"').bind_of_pure (leads_readString s))

end TextReader

/-! ## Objects written member by member -/

/-- A member whose value is a string, as a log line writes it: the escaped name and value,
each in quotes, a colon between them. -/
def memberText (m : String × String) : List Char :=
  '"' :: ((escapeLog m.1).toList ++ '"' :: ':' :: '"' :: ((escapeLog m.2).toList ++ ['"']))

/-- Members written one after another, separated by commas. -/
def membersText : List (String × String) → List Char
  | [] => []
  | m :: ms => memberText m ++ ms.flatMap fun m' => ',' :: memberText m'

theorem membersText_cons_cons (m m' : String × String) (ms : List (String × String)) :
    membersText (m :: m' :: ms) = memberText m ++ ',' :: membersText (m' :: ms) := by
  simp [membersText]

theorem memberText_eq (m : String × String) :
    memberText m = ['"'] ++ (((escapeLog m.1).toList ++ ['"']) ++ ([':'] ++
      (('"' :: ((escapeLog m.2).toList ++ ['"'])) ++ []))) := by
  simp [memberText]

namespace TextReader

theorem leads_readStringMember (m : String × String) :
    Leads readStringMember (memberText m) (pure m) := by
  rw [memberText_eq]
  exact leads_openName.bind_of_pure <| (leads_readString m.1).bind_of_pure <|
    leads_colon.bind_of_pure <| (leads_readText m.2).bind_of_pure (Leads.refl _)

theorem leads_readStringMembers_last (n : Nat) (m : String × String) :
    Leads (readStringMembers (n + 1)) (memberText m ++ ['}']) (pure [m]) :=
  (leads_readStringMember m).bind_of_pure (Leads.skipSpace_bind rfl fun _ _ => rfl)

theorem leads_readStringMembers_comma (n : Nat) (m : String × String) :
    Leads (readStringMembers (n + 1)) (memberText m ++ [','])
      (readStringMembers n >>= fun ms => pure (m :: ms)) :=
  (leads_readStringMember m).bind_of_pure (Leads.skipSpace_bind rfl fun _ _ => rfl)

theorem leads_readStringMembers : ∀ (ms : List (String × String)) (m : String × String) (n : Nat),
    ms.length ≤ n → Leads (readStringMembers (n + 1)) (membersText (m :: ms) ++ ['}']) (pure (m :: ms))
  | [], m, n, _ => by simpa [membersText] using leads_readStringMembers_last n m
  | m' :: ms, m, n, hn => by
    obtain ⟨k, rfl⟩ : ∃ k, n = k + 1 := ⟨n - 1, by simp at hn; omega⟩
    have hrest := leads_readStringMembers ms m' k (by simpa using hn)
    have h := (leads_readStringMembers_comma (k + 1) m).trans
      (hrest.bind_of_pure (Leads.refl (pure (m :: m' :: ms))))
    simpa [membersText_cons_cons] using h

end TextReader

theorem length_le_length_membersText :
    ∀ (m : String × String) (ms : List (String × String)),
      (m :: ms).length ≤ (membersText (m :: ms)).length
  | m, [] => by simp [membersText, memberText]
  | m, m' :: ms => by
    have := length_le_length_membersText m' ms
    rw [membersText_cons_cons]
    simp only [List.length_cons, List.length_append] at this ⊢
    omega

namespace TextReader

theorem leads_readObjectRest {m : String × String} {ms : List (String × String)} {n : Nat}
    (hn : ms.length ≤ n) :
    Leads (readObjectRest (n + 1)) (membersText (m :: ms) ++ ['}']) (pure (m :: ms)) := by
  -- the members begin with the quote of the first name, which is not a closing brace
  obtain ⟨t, ht⟩ : ∃ t, membersText (m :: ms) ++ ['}'] = '"' :: t := ⟨_, rfl⟩
  rw [ht]
  refine Leads.skipSpace_bind rfl ?_
  rw [← ht]
  exact leads_readStringMembers ms m n hn

theorem leads_readObjectFrom {m : String × String} {ms : List (String × String)} {n : Nat}
    (hn : ms.length ≤ n) :
    Leads (readObjectFrom (n + 1)) ('{' :: (membersText (m :: ms) ++ ['}']))
      (readObjectEnd (m :: ms)) :=
  Leads.skipSpace_bind rfl ((Leads.eat '{').bind_of_pure ((leads_readObjectRest hn).bind_pure _))

end TextReader

/-- An object written member by member reads back as its members, in order. -/
theorem readStringObject_objectText (m : String × String) (ms : List (String × String)) :
    readStringObject (String.ofList ('{' :: (membersText (m :: ms) ++ ['}']))) = .ok (m :: ms) := by
  have hlen := length_le_length_membersText m ms
  -- the bound on the members is the length of the whole text
  obtain ⟨k, hk, hms⟩ : ∃ k, ('{' :: (membersText (m :: ms) ++ ['}'])).length = k + 1 ∧
      ms.length ≤ k := by
    refine ⟨(membersText (m :: ms)).length + 1, by simp, ?_⟩
    simp only [List.length_cons] at hlen
    omega
  have h : TextReader.Leads (TextReader.readObjectFrom (k + 1))
      ('{' :: (membersText (m :: ms) ++ ['}'])) (TextReader.readObjectEnd (m :: ms)) :=
    TextReader.leads_readObjectFrom hms
  have h' := h [] {}
  simp only [List.append_nil] at h'
  simp only [readStringObject, String.toList_ofList, TextReader.readWholeObject,
    StateT.run_bind, StateT.run_get, pure_bind, hk]
  rw [h']
  rfl

/-! ## Objects read as records

The settings reader `readRecordText` reads an object into the fields it is asked for, by
name: each member sets the field of its name, a name given twice is refused, and the fields
not given stay empty. An object whose names are distinct, read as a record of exactly those
names, gives every name its value. The reader's state after the members `pre` and before the
members `post` is `fieldsRead pre post`. -/

/-- The fields of a record read by name, once the members `pre` are read and the members
`post` are still to come. -/
def fieldsRead (pre post : List (String × String)) : List (Option String) :=
  pre.map (fun m => some m.2) ++ post.map fun _ => none

section Fields

variable {post : List (String × String)} {m : String × String}

theorem idxOf?_key : ∀ {pre : List (String × String)}, ((pre ++ m :: post).map Prod.fst).Nodup →
    ((pre ++ m :: post).map Prod.fst).idxOf? m.1 = some pre.length
  | [], _ => by simp [List.idxOf?_cons]
  | p :: pre, h => by
    rw [List.cons_append, List.map_cons, List.nodup_cons] at h
    have hne : p.1 ≠ m.1 := by
      intro he
      apply h.1
      rw [he]
      simp
    rw [List.cons_append, List.map_cons, List.idxOf?_cons, idxOf?_key h.2]
    simp [hne]

theorem fieldsRead_free (pre post : List (String × String)) (m : String × String) :
    ((fieldsRead pre (m :: post))[pre.length]?.bind id).isSome = false := by
  simp [fieldsRead]

theorem fieldsRead_set (pre post : List (String × String)) (m : String × String) :
    (fieldsRead pre (m :: post)).set pre.length (some m.2) = fieldsRead (pre ++ [m]) post := by
  simp [fieldsRead, List.set_append_right]

end Fields

namespace TextReader

section Members

variable {names : List String} {fs : List (Option String)} {n i : Nat} {m : String × String}
  {α : Type} {k : List (Option String) → TextReader α}

theorem leads_readMembers_first (hi : names.idxOf? m.1 = some i)
    (hfree : (fs[i]?.bind id).isSome = false) :
    Leads (readMembers names fs true (n + 1)) (memberText m)
      (readMembers names (fs.set i (some m.2)) false n) := by
  rw [memberText_eq, readMembers.eq_2]
  refine Leads.skipSpace_bind rfl ?_
  -- the quote goes to the arm of a first member, then to the arm of a name
  simp only [Char.reduceEq, imp_self, reduceIte, pure_bind]
  refine (Leads.eat '"').bind_of_pure ((leads_readString m.1).bind_of_pure ?_)
  simp only [hi, hfree, Bool.false_eq_true, if_false]
  exact leads_colon.bind_of_pure ((leads_readText m.2).bind_of_pure (Leads.refl _))

theorem leads_readMembers_next (hi : names.idxOf? m.1 = some i)
    (hfree : (fs[i]?.bind id).isSome = false) :
    Leads (readMembers names fs false (n + 1)) (',' :: memberText m)
      (readMembers names (fs.set i (some m.2)) false n) := by
  rw [memberText_eq, readMembers.eq_2]
  refine Leads.skipSpace_bind rfl ?_
  simp only [Char.reduceEq, imp_self, reduceIte, pure_bind, Bool.false_eq_true]
  refine (Leads.eat ',').bind_of_pure ?_
  -- after the comma another member must begin
  rw [afterComma, bind_assoc]
  refine Leads.skipSpace_bind rfl ?_
  simp only [pure_bind]
  refine (Leads.eat '"').bind_of_pure ((leads_readString m.1).bind_of_pure ?_)
  simp only [hi, hfree, Bool.false_eq_true, if_false]
  exact leads_colon.bind_of_pure ((leads_readText m.2).bind_of_pure (Leads.refl _))

theorem leads_readMembers_close {pre : List Char} {y : TextReader α}
    (h : Leads (k fs) ('}' :: pre) y) :
    Leads (readMembers names fs false (n + 1) >>= k) ('}' :: pre) y := by
  intro rest p
  rw [StateT.run_bind]
  exact h rest p

theorem leads_readMembers_rest (j : Nat) : ∀ (post pre : List (String × String)),
    ((pre ++ post).map Prod.fst).Nodup →
    Leads (readMembers ((pre ++ post).map Prod.fst) (fieldsRead pre post) false
        (post.length + j + 1) >>= k)
      (post.flatMap fun m => ',' :: memberText m)
      (readMembers ((pre ++ post).map Prod.fst) (fieldsRead (pre ++ post) []) false (j + 1) >>= k)
  | [], pre, _ => by simpa [fieldsRead] using Leads.refl _
  | m :: post, pre, h => by
    have hstep : Leads (readMembers ((pre ++ m :: post).map Prod.fst) (fieldsRead pre (m :: post))
        false (post.length + j + 1 + 1)) (',' :: memberText m)
        (readMembers ((pre ++ m :: post).map Prod.fst) (fieldsRead (pre ++ [m]) post) false
          (post.length + j + 1)) := by
      rw [← fieldsRead_set]
      exact leads_readMembers_next (idxOf?_key h) (fieldsRead_free pre post m)
    have hrest := leads_readMembers_rest j post (pre ++ [m]) (by simpa using h)
    simp only [List.append_assoc, List.singleton_append] at hrest
    rw [List.flatMap_cons, List.length_cons,
      show post.length + 1 + j + 1 = post.length + j + 1 + 1 by omega]
    simpa using (hstep.bind k).trans hrest

end Members

/-- An object of distinct names, read as a record of its names, gives each name its value. -/
theorem leads_readRecord (what : String) (m : String × String) (ms : List (String × String))
    (h : ((m :: ms).map Prod.fst).Nodup) :
    Leads (readRecord what ((m :: ms).map Prod.fst)) ('{' :: (membersText (m :: ms) ++ ['}']))
      (pure ((m :: ms).map fun m => some m.2)) := by
  -- the text as the reader takes it: the brace, the first member, the others, the brace
  have htext : '{' :: (membersText (m :: ms) ++ ['}']) =
      ['{'] ++ (memberText m ++ ((ms.flatMap fun m' => ',' :: memberText m') ++ ['}'])) := by
    simp [membersText]
  have hlen := length_le_length_membersText m ms
  refine Leads.get_bind fun rest p => ?_
  -- the reader allows as many members as the text has characters, and more
  obtain ⟨j, hj⟩ : ∃ j, ('{' :: (membersText (m :: ms) ++ ['}']) ++ rest).length =
      ms.length + j + 1 := by
    refine ⟨('{' :: (membersText (m :: ms) ++ ['}']) ++ rest).length - ms.length - 1, ?_⟩
    simp only [List.length_cons, List.length_append] at hlen ⊢
    omega
  rw [htext] at hj ⊢
  have hnone : ((m :: ms).map Prod.fst).map (fun _ => (none : Option String)) =
      fieldsRead [] (m :: ms) := by
    rw [List.map_map]
    rfl
  have hfirst : Leads (readMembers ((m :: ms).map Prod.fst) (fieldsRead [] (m :: ms)) true
      (ms.length + j + 1 + 1)) (memberText m)
      (readMembers (([m] ++ ms).map Prod.fst) (fieldsRead [m] ms) false (ms.length + j + 1)) := by
    have hi : (([] ++ m :: ms).map Prod.fst).idxOf? m.1 = some ([] : List (String × String)).length :=
      idxOf?_key h
    have hset : (fieldsRead [] (m :: ms)).set 0 (some m.2) = fieldsRead [m] ms :=
      fieldsRead_set [] ms m
    rw [← hset]
    exact leads_readMembers_first hi (fieldsRead_free [] ms m)
  have hall : fieldsRead ([m] ++ ms) [] = (m :: ms).map fun m => some m.2 := by
    simp [fieldsRead]
  refine Leads.skipSpace_bind rfl ?_
  simp only []
  refine (Leads.eat '{').bind_of_pure ?_
  rw [hj, hnone]
  refine (hfirst.bind _).trans ((leads_readMembers_rest j ms [m] h).trans ?_)
  refine leads_readMembers_close ?_
  rw [hall]
  exact Leads.skipSpace_bind rfl ((Leads.eat '}').bind_pure _)

end TextReader

/-- An object of distinct names written member by member, read as a record of those names,
gives each name its value. -/
theorem readRecordText_objectText (what : String) (m : String × String)
    (ms : List (String × String)) (h : ((m :: ms).map Prod.fst).Nodup) :
    readRecordText what ((m :: ms).map Prod.fst)
        (String.ofList ('{' :: (membersText (m :: ms) ++ ['}']))) =
      .ok ((m :: ms).map fun m => some m.2) := by
  have hrec := TextReader.leads_readRecord what m ms h [] {}
  simp only [List.append_nil] at hrec
  simp only [readRecordText, String.toList_ofList, StateT.run_bind, hrec]
  rfl

end Json

end CsvQuery
