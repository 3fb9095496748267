import CsvQuery.Exec.Error

/-!
# Reading a successful computation back

A computation in `Except` that succeeded, built with `>>=` or `<$>`, succeeded at each of
its steps. These lemmas peel such computations apart without unfolding them, and carry an
invariant through a loop that succeeded.
-/

namespace CsvQuery

theorem bind_eq_ok {ε α β : Type} {x : Except ε α} {f : α → Except ε β} {b : β} :
    x >>= f = .ok b ↔ ∃ a, x = .ok a ∧ f a = .ok b := by
  cases x <;> simp [bind, Except.bind]

theorem map_eq_ok {ε α β : Type} {x : Except ε α} {f : α → β} {b : β} :
    f <$> x = .ok b ↔ ∃ a, x = .ok a ∧ f a = b := by
  cases x <;> simp [Functor.map, Except.map]

theorem eq_ok_of_toOption {ε α : Type} {x : Except ε α} {a : α} (h : x.toOption = some a) :
    x = .ok a := by
  cases x with
  | error e => cases h
  | ok b => cases h; rfl

theorem toOption_bind {ε α β : Type} (x : Except ε α) (f : α → Except ε β) :
    (x >>= f).toOption = x.toOption.bind fun a => (f a).toOption := by
  cases x <;> rfl

theorem toOption_map {ε α β : Type} (x : Except ε α) (f : α → β) :
    (x.map f).toOption = x.toOption.map f := by
  cases x <;> rfl

theorem mapM_cons_eq_ok {ε α β : Type} {f : α → Except ε β} {a : α} {l : List α} {r : List β} :
    (a :: l).mapM f = .ok r ↔ ∃ b, f a = .ok b ∧ ∃ r', l.mapM f = .ok r' ∧ r = b :: r' := by
  rw [List.mapM_cons, bind_eq_ok]
  constructor
  · rintro ⟨b, hb, h⟩
    obtain ⟨r', hr', h⟩ := bind_eq_ok.1 h
    exact ⟨b, hb, r', hr', (Except.ok.inj h).symm⟩
  · rintro ⟨b, hb, r', hr', rfl⟩
    exact ⟨b, hb, bind_eq_ok.2 ⟨r', hr', rfl⟩⟩

theorem exists_bind_eq_ok {ε α β : Type} {x : Except ε α} {f : α → Except ε β} :
    (∃ b, x >>= f = .ok b) ↔ ∃ a, x = .ok a ∧ ∃ b, f a = .ok b := by
  cases x <;> simp [bind, Except.bind]

theorem exists_map_eq_ok {ε α β : Type} {x : Except ε α} {f : α → β} :
    (∃ b, x.map f = .ok b) ↔ ∃ a, x = .ok a := by
  cases x <;> simp [Except.map]

theorem exists_fmap_eq_ok {ε α β : Type} {x : Except ε α} {f : α → β} :
    (∃ b, f <$> x = .ok b) ↔ ∃ a, x = .ok a :=
  exists_map_eq_ok

theorem exists_mapM_eq_ok {ε α β : Type} {f : α → Except ε β} :
    ∀ {l : List α}, (∃ r, l.mapM f = .ok r) ↔ ∀ a ∈ l, ∃ b, f a = .ok b
  | [] => by simp [List.mapM_nil, pure, Except.pure]
  | a :: l => by
    simp only [mapM_cons_eq_ok, List.forall_mem_cons, ← exists_mapM_eq_ok (l := l)]
    constructor
    · rintro ⟨r, b, hb, r', hr', -⟩
      exact ⟨⟨b, hb⟩, r', hr'⟩
    · rintro ⟨⟨b, hb⟩, r', hr'⟩
      exact ⟨_, b, hb, r', hr', rfl⟩

theorem mapM_eq_ok_of_forall {ε α β : Type} {f : α → Except ε β} {g : α → β} :
    ∀ {l : List α}, (∀ a ∈ l, f a = .ok (g a)) → l.mapM f = .ok (l.map g)
  | [], _ => rfl
  | a :: l, h => by
    rw [List.mapM_cons, h a List.mem_cons_self,
      mapM_eq_ok_of_forall fun a' ha' => h a' (List.mem_cons_of_mem a ha')]
    rfl

theorem eq_map_of_mapM_eq_ok {ε α β : Type} {f : α → Except ε β} {g : α → β}
    (hf : ∀ a b, f a = .ok b → b = g a) :
    ∀ {l : List α} {r : List β}, l.mapM f = .ok r → r = l.map g
  | [], r, h => by
    cases h
    rfl
  | a :: l, r, h => by
    obtain ⟨b, hb, r', hr', rfl⟩ := mapM_cons_eq_ok.1 h
    rw [hf a b hb, eq_map_of_mapM_eq_ok hf hr', List.map_cons]

theorem length_of_mapM_eq_ok {ε α β : Type} {f : α → Except ε β} :
    ∀ {l : List α} {r : List β}, l.mapM f = .ok r → r.length = l.length
  | [], r, h => by
    cases h
    rfl
  | a :: l, r, h => by
    obtain ⟨b, -, r', hr', rfl⟩ := mapM_cons_eq_ok.1 h
    rw [List.length_cons, List.length_cons, length_of_mapM_eq_ok hr']

theorem mem_of_mapM_eq_ok {ε α β : Type} {f : α → Except ε β} :
    ∀ {l : List α} {r : List β}, l.mapM f = .ok r → ∀ b, b ∈ r ↔ ∃ a ∈ l, f a = .ok b
  | [], r, h, b => by
    cases h
    simp
  | a :: l, r, h, b => by
    rw [List.mapM_cons, bind_eq_ok] at h
    obtain ⟨b₀, hb₀, h⟩ := h
    rw [bind_eq_ok] at h
    obtain ⟨r', hr', h⟩ := h
    cases h
    simp only [List.mem_cons, mem_of_mapM_eq_ok hr' b, exists_eq_or_imp, hb₀, Except.ok.injEq]
    rw [eq_comm]

theorem mapM_append_eq_ok {ε α β : Type} {f : α → Except ε β} {l₁ l₂ : List α} {r₁ r₂ : List β}
    (h₁ : l₁.mapM f = .ok r₁) (h₂ : l₂.mapM f = .ok r₂) : (l₁ ++ l₂).mapM f = .ok (r₁ ++ r₂) := by
  rw [List.mapM_append, h₁, h₂]
  rfl

theorem mapM_eq_error_iff {ε α β : Type} {f : α → Except ε β} {e : ε} :
    ∀ {l : List α}, l.mapM f = .error e ↔
      ∃ pre a post, l = pre ++ a :: post ∧ (∀ b ∈ pre, ∃ v, f b = .ok v) ∧ f a = .error e
  | [] => by simp [List.mapM_nil, pure, Except.pure]
  | a :: l => by
    rw [List.mapM_cons]
    cases ha : f a with
    | error e' =>
      -- the head fails, so the first failure is the head's
      simp only [bind, Except.bind, Except.error.injEq]
      constructor
      · rintro rfl
        exact ⟨[], a, l, rfl, by simp, ha⟩
      · rintro ⟨pre, a', post, hl, hpre, ha'⟩
        cases pre with
        | nil =>
          obtain ⟨rfl, -⟩ := List.cons.inj hl
          rw [ha] at ha'
          exact Except.error.inj ha'
        | cons b pre =>
          obtain ⟨rfl, -⟩ := List.cons.inj hl
          obtain ⟨v, hv⟩ := hpre a List.mem_cons_self
          rw [ha] at hv
          cases hv
    | ok v =>
      -- the head succeeds, so the first failure is in the tail
      have htail : (l.mapM f >>= fun r => pure (v :: r)) = .error e ↔ l.mapM f = .error e := by
        cases l.mapM f <;> simp [bind, Except.bind, pure, Except.pure]
      change (l.mapM f >>= fun r => pure (v :: r)) = .error e ↔ _
      rw [htail, mapM_eq_error_iff]
      constructor
      · rintro ⟨pre, a', post, rfl, hpre, ha'⟩
        exact ⟨a :: pre, a', post, rfl, by simpa [ha] using hpre, ha'⟩
      · rintro ⟨pre, a', post, hl, hpre, ha'⟩
        cases pre with
        | nil =>
          obtain ⟨rfl, -⟩ := List.cons.inj hl
          rw [ha] at ha'
          cases ha'
        | cons b pre =>
          obtain ⟨rfl, rfl⟩ := List.cons.inj hl
          exact ⟨pre, a', post, rfl, fun b hb => hpre b (List.mem_cons_of_mem _ hb), ha'⟩

/-- A loop in `Except` that succeeded ends in a state with every property that each of its
iterations keeps. -/
theorem forIn_invariant {ε α σ : Type} (I : σ → Prop) {f : α → σ → Except ε (ForInStep σ)} :
    ∀ {l : List α}, (∀ a ∈ l, ∀ s s', I s →
      (f a s = .ok (.yield s') ∨ f a s = .ok (.done s')) → I s') →
      ∀ {init r : σ}, I init → forIn l init f = .ok r → I r
  | [], _, _, _, h, hr => by
    cases hr
    exact h
  | a :: l, hf, init, r, h, hr => by
    rw [List.forIn_cons, bind_eq_ok] at hr
    obtain ⟨step, hstep, hr⟩ := hr
    cases step with
    | done s =>
      cases hr
      exact hf a List.mem_cons_self init _ h (.inr hstep)
    | yield s =>
      exact forIn_invariant I (fun a' ha' => hf a' (List.mem_cons_of_mem a ha'))
        (hf a List.mem_cons_self init s h (.inl hstep)) hr

end CsvQuery
