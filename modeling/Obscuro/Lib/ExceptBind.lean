import Mathlib

/-!
# Peeling `Except` computations

Go's `v, err := f(); if err != nil { return nil, err }` is `Except`'s bind. A model written in
`do` notation is taken apart with one inversion lemma, `bind_eq_ok`: a bind that succeeds had
a successful first step. The other lemmas run the monad on values already known.
-/

namespace Except

variable {ε α β : Type}

@[simp] theorem ok_bind' (a : α) (f : α → Except ε β) : (Except.ok a >>= f) = f a := rfl

@[simp] theorem error_bind' (e : ε) (f : α → Except ε β) : (Except.error e >>= f) = .error e :=
  rfl

@[simp] theorem map_ok' (f : α → β) (a : α) : (f <$> (Except.ok a : Except ε α)) = .ok (f a) :=
  rfl

@[simp] theorem map_error' (f : α → β) (e : ε) : (f <$> (Except.error e : Except ε α)) = .error e :=
  rfl

@[simp] theorem pure_eq_ok (a : α) : (pure a : Except ε α) = .ok a := rfl

@[simp] theorem throw_eq_error (e : ε) : (throw e : Except ε α) = .error e := rfl

@[simp] theorem mapError_ok' {ε' : Type} (f : ε → ε') (a : α) :
    (Except.ok a : Except ε α).mapError f = .ok a := rfl

@[simp] theorem mapError_error' {ε' : Type} (f : ε → ε') (e : ε) :
    (Except.error e : Except ε α).mapError f = .error (f e) := rfl

/-- A bind that succeeds had a successful first step. -/
theorem bind_eq_ok {x : Except ε α} {f : α → Except ε β} {b : β} :
    (x >>= f) = .ok b ↔ ∃ a, x = .ok a ∧ f a = .ok b := by
  cases x with
  | error e => simp
  | ok a => simp

theorem map_eq_ok {x : Except ε α} {f : α → β} {b : β} :
    (f <$> x) = .ok b ↔ ∃ a, x = .ok a ∧ f a = b := by
  cases x with
  | error e => simp
  | ok a => simp

theorem map_eq_error {x : Except ε α} {f : α → β} {e : ε} : (f <$> x) = .error e ↔ x = .error e := by
  cases x with
  | error e' => simp
  | ok a => simp

/-- Rewording the error of a computation does not change its success. -/
theorem mapError_eq_ok {ε' : Type} {x : Except ε α} {f : ε → ε'} {a : α} :
    x.mapError f = .ok a ↔ x = .ok a := by
  cases x with
  | error e => simp
  | ok b => simp

/-- `mapM` runs the same computations on lists whose elements the two functions treat
alike. -/
theorem mapM_congr {f g : α → Except ε β} :
    ∀ {l : List α}, (∀ x ∈ l, f x = g x) → l.mapM f = l.mapM g
  | [], _ => rfl
  | x :: l, h => by
    rw [List.mapM_cons, List.mapM_cons, h x List.mem_cons_self,
      mapM_congr fun y hy => h y (List.mem_cons_of_mem _ hy)]

/-- A `mapM` each of whose steps returns `b` returns one `b` per element. -/
theorem mapM_const {f : α → Except ε β} {b : β} :
    ∀ {l : List α}, (∀ x ∈ l, f x = .ok b) → l.mapM f = .ok (l.map fun _ => b)
  | [], _ => rfl
  | x :: l, h => by
    rw [List.mapM_cons, h x List.mem_cons_self, ok_bind',
      mapM_const fun y hy => h y (List.mem_cons_of_mem _ hy)]
    rfl

/-- A `mapM` each of whose steps succeeds returns the mapped list. -/
theorem mapM_of_ok {f : α → Except ε β} {g : α → β} {l : List α}
    (h : ∀ x ∈ l, f x = .ok (g x)) : l.mapM f = .ok (l.map g) := by
  rw [mapM_congr h]
  exact List.mapM_pure

/-- When the head of a list succeeds, the element that fails with `e` is in its tail. -/
theorem exists_error_of_cons {f : α → Except ε β} {e : ε} {a : α} {l : List α} {b : β}
    (ha : f a = .ok b) (h : ∃ x ∈ a :: l, f x = .error e) : ∃ x ∈ l, f x = .error e := by
  obtain ⟨x, hx, hfx⟩ := h
  rcases List.mem_cons.mp hx with rfl | hx
  · rw [ha] at hfx
    cases hfx
  · exact ⟨x, hx, hfx⟩

/-- A `mapM` whose steps can fail only with `e`, one of which does, fails with `e`, whichever
step fails first. -/
theorem mapM_of_error {f : α → Except ε β} {e : ε} :
    ∀ {l : List α}, (∀ x ∈ l, ∀ e', f x = .error e' → e' = e) → (∃ x ∈ l, f x = .error e) →
      l.mapM f = .error e
  | [], _, ⟨_, hx, _⟩ => absurd hx List.not_mem_nil
  | a :: l, hone, hsome => by
    rw [List.mapM_cons]
    cases ha : f a with
    | error e' => rw [hone a List.mem_cons_self e' ha, error_bind']
    | ok b =>
      rw [ok_bind', mapM_of_error (fun x hx => hone x (List.mem_cons_of_mem _ hx))
        (exists_error_of_cons ha hsome), error_bind']

/-- The loop of `filterM`, with tests that all succeed: the passing elements, reversed, on
top of the accumulator. -/
theorem filterAuxM_of_ok {p : α → Except ε Bool} {q : α → Bool} :
    ∀ {l : List α} (acc : List α), (∀ x ∈ l, p x = .ok (q x)) →
      List.filterAuxM p l acc = .ok ((l.filter q).reverse ++ acc)
  | [], _, _ => rfl
  | x :: l, acc, h => by
    simp only [List.filterAuxM, h x List.mem_cons_self, ok_bind',
      filterAuxM_of_ok _ fun y hy => h y (List.mem_cons_of_mem _ hy)]
    cases hq : q x <;> simp [hq]

/-- A `filterM` whose tests all succeed is the pure `filter`. -/
theorem filterM_of_ok {p : α → Except ε Bool} {q : α → Bool} {l : List α}
    (h : ∀ x ∈ l, p x = .ok (q x)) : l.filterM p = .ok (l.filter q) := by
  rw [List.filterM, filterAuxM_of_ok [] h, ok_bind']
  simp

/-- The loop of `filterM`, with tests that can fail only with `e`, one of which does: it fails
with `e`. -/
theorem filterAuxM_of_error {p : α → Except ε Bool} {e : ε} :
    ∀ {l : List α} (acc : List α), (∀ x ∈ l, ∀ e', p x = .error e' → e' = e) →
      (∃ x ∈ l, p x = .error e) → List.filterAuxM p l acc = .error e
  | [], _, _, ⟨_, hx, _⟩ => absurd hx List.not_mem_nil
  | a :: l, acc, hone, hsome => by
    cases ha : p a with
    | error e' => simp only [List.filterAuxM, ha, error_bind', hone a List.mem_cons_self e' ha]
    | ok b =>
      simp only [List.filterAuxM, ha, ok_bind']
      exact filterAuxM_of_error _ (fun x hx => hone x (List.mem_cons_of_mem _ hx))
        (exists_error_of_cons ha hsome)

/-- A `filterM` whose tests can fail only with `e`, one of which does, fails with `e`. -/
theorem filterM_of_error {p : α → Except ε Bool} {e : ε} {l : List α}
    (hone : ∀ x ∈ l, ∀ e', p x = .error e' → e' = e) (hsome : ∃ x ∈ l, p x = .error e) :
    l.filterM p = .error e := by
  rw [List.filterM, filterAuxM_of_error [] hone hsome, error_bind']

/-- A `filterMapM` whose steps all succeed is the pure `filterMap`. -/
theorem filterMapM_of_ok {f : α → Except ε (Option β)} {g : α → Option β} :
    ∀ {l : List α}, (∀ x ∈ l, f x = .ok (g x)) → l.filterMapM f = .ok (l.filterMap g)
  | [], _ => rfl
  | a :: l, h => by
    have ih := filterMapM_of_ok fun x hx => h x (List.mem_cons_of_mem _ hx)
    rw [List.filterMapM_cons, h a List.mem_cons_self, ok_bind']
    cases hg : g a with
    | none => simp only [ih, List.filterMap_cons, hg]
    | some b => simp only [ih, ok_bind', pure_eq_ok, List.filterMap_cons, hg]

/-- A `filterMapM` one of whose steps fails, fails. -/
theorem filterMapM_eq_error {f : α → Except ε (Option β)} {e : ε} :
    ∀ {l : List α}, (∃ x ∈ l, f x = .error e) → ∃ e', l.filterMapM f = .error e'
  | [], ⟨_, hx, _⟩ => absurd hx List.not_mem_nil
  | a :: l, hsome => by
    rw [List.filterMapM_cons]
    cases ha : f a with
    | error e' => exact ⟨e', rfl⟩
    | ok o =>
      -- the failing step is further on
      obtain ⟨e', he'⟩ := filterMapM_eq_error (exists_error_of_cons ha hsome)
      refine ⟨e', ?_⟩
      cases o with
      | none => simp only [ok_bind', he']
      | some b => simp only [ok_bind', he', error_bind']

/-- **The last write wins.** When every step of a fold either keeps one projection of the state
or sets it to a value its input determines (`write`), the projection of the result is the value
of the last input that sets it, or the start's when none does. The induction is on the list. -/
theorem foldlM_lastWrite {σ : Type} {step : σ → α → Except ε σ} {proj : σ → β}
    {write : α → Option β}
    (hstep : ∀ s a s', step s a = .ok s' → proj s' = (write a).getD (proj s)) :
    ∀ {l : List α} {s₀ s : σ}, l.foldlM step s₀ = .ok s →
      proj s = ((l.filterMap write).getLast?).getD (proj s₀)
  | [], s₀, s, h => by
    cases h
    rfl
  | a :: l, s₀, s, h => by
    rw [List.foldlM_cons] at h
    obtain ⟨s₁, h₁, hrest⟩ := bind_eq_ok.mp h
    rw [foldlM_lastWrite hstep hrest, hstep s₀ a s₁ h₁]
    -- the first input counts only when no later one writes
    cases hw : write a with
    | none => simp [hw]
    | some b => simp [hw, List.getLast?_cons]

end Except
