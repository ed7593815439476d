import Mathlib.Data.List.Basic

/-!
# Loops whose steps commit on their own

A loop over a list that runs one step per element and returns at the first error, where each
step commits what it wrote before the next one starts (a transaction of its own). The loop's
outcome is the first error, if any, and its state is the state the steps before that error
left: an error does not undo the steps that succeeded.

* `run` — the loop, over a step returning its outcome and the state it leaves;
* `run_cons_of_ok`, `run_cons_of_error` — its two equations at a step;
* `run_preserves` — the invariant rule: what every step keeps, on the elements it runs on, holds
  of the state every run leaves, whatever the run returns;
* `run_cons_eq_ok` — a run that succeeds succeeded at its first step and after it.
-/

namespace CommitLoop

variable {σ α ε : Type}

/-- The loop: each step's state is kept, and the first error ends it with the state the step
that failed left. -/
def run (step : σ → α → Except ε Unit × σ) : σ → List α → Except ε Unit × σ
  | s, [] => (.ok (), s)
  | s, a :: as =>
    match step s a with
    | (.ok (), s') => run step s' as
    | (.error e, s') => (.error e, s')

variable {step : σ → α → Except ε Unit × σ}

@[simp] theorem run_nil (s : σ) : run step s [] = (.ok (), s) := rfl

theorem run_cons_of_ok {s s' : σ} {a : α} (h : step s a = (.ok (), s')) (as : List α) :
    run step s (a :: as) = run step s' as := by
  rw [run, h]

theorem run_cons_of_error {s s' : σ} {a : α} {e : ε} (h : step s a = (.error e, s'))
    (as : List α) : run step s (a :: as) = (.error e, s') := by
  rw [run, h]

/-- The step's outcome splits into its two cases. -/
theorem step_cases (s : σ) (a : α) :
    step s a = (.ok (), (step s a).2) ∨ ∃ e, step s a = (.error e, (step s a).2) := by
  rcases h : step s a with ⟨_ | _, s'⟩
  · exact .inr ⟨_, rfl⟩
  · exact .inl rfl

/-- **The invariant rule.** A property that every step keeps, when it runs on an element of
`Q`, holds of the state that every run over elements of `Q` leaves, whatever it returns. -/
theorem run_preserves (P : σ → Prop) (Q : α → Prop)
    (hstep : ∀ s a, P s → Q a → P (step s a).2) :
    ∀ (as : List α) (s : σ), (∀ a ∈ as, Q a) → P s → P (run step s as).2 := by
  intro as
  induction as with
  | nil =>
    intro s _ hs
    exact hs
  | cons a as ih =>
    intro s hQ hs
    have hs' : P (step s a).2 := hstep s a hs (hQ a List.mem_cons_self)
    rcases step_cases s a with hok | ⟨e, herr⟩
    · rw [run_cons_of_ok hok]
      exact ih _ (fun b hb => hQ b (List.mem_cons_of_mem a hb)) hs'
    · rw [run_cons_of_error herr]
      exact hs'

/-- A run that succeeds succeeded at its first step, and the rest of it succeeded from there. -/
theorem run_cons_eq_ok {s s' : σ} {a : α} {as : List α} :
    run step s (a :: as) = (.ok (), s') ↔
      ∃ s₁, step s a = (.ok (), s₁) ∧ run step s₁ as = (.ok (), s') := by
  constructor
  · intro h
    rcases step_cases s a with hok | ⟨e, herr⟩
    · rw [run_cons_of_ok hok] at h
      exact ⟨_, hok, h⟩
    · rw [run_cons_of_error herr] at h
      cases h
  · rintro ⟨s₁, hok, h⟩
    rw [run_cons_of_ok hok]
    exact h

end CommitLoop
