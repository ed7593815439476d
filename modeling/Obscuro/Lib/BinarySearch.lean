import Mathlib

/-!
# Bisection for the least passing value

A search between an open lower bound `lo`, which fails a test, and a closed upper bound `hi`:
each step tests the midpoint and keeps the half that still holds the least value that passes.
When the test is antitone (whatever passes, every larger value passes), the bounds close on
that value. Each step at least halves `hi - lo`, so the search takes at most
`Nat.clog 2 (hi - lo)` steps.

The search takes fuel, one unit a step, and gives `none` when the fuel runs out.
-/

namespace BinarySearch

variable (failed : Nat → Bool)

/-- The search with `fuel` steps: the bounds once they are adjacent. -/
def bisect : Nat → Nat → Nat → Option (Nat × Nat)
  | fuel, lo, hi =>
    if lo + 1 < hi then
      match fuel with
      | 0 => none
      | fuel + 1 =>
        if failed ((hi + lo) / 2) then bisect fuel ((hi + lo) / 2) hi
        else bisect fuel lo ((hi + lo) / 2)
    else some (lo, hi)

theorem bisect_of_not_lt {fuel lo hi : Nat} (h : ¬lo + 1 < hi) :
    bisect failed fuel lo hi = some (lo, hi) := by
  cases fuel <;> rw [bisect, if_neg h]

theorem bisect_succ_of_lt {fuel lo hi : Nat} (h : lo + 1 < hi) :
    bisect failed (fuel + 1) lo hi =
      if failed ((hi + lo) / 2) then bisect failed fuel ((hi + lo) / 2) hi
      else bisect failed fuel lo ((hi + lo) / 2) := by
  rw [bisect, if_pos h]

/-- The midpoint lies strictly between bounds that are not adjacent, and each half is at most
half of the interval, rounded up. -/
theorem mid_bounds {lo hi : Nat} (h : lo + 1 < hi) :
    lo < (hi + lo) / 2 ∧ (hi + lo) / 2 < hi ∧ (hi + lo) / 2 - lo ≤ (hi - lo + 1) / 2 ∧
      hi - (hi + lo) / 2 ≤ (hi - lo + 1) / 2 := by
  omega

/-- **The search ends in time.** With at least `Nat.clog 2 (hi - lo)` units of fuel the search
returns. The induction is on the fuel: one step takes the interval to its half, rounded up,
which needs one halving fewer. -/
theorem bisect_isSome : ∀ {fuel lo hi : Nat}, Nat.clog 2 (hi - lo) ≤ fuel →
    (bisect failed fuel lo hi).isSome
  | fuel, lo, hi, hfuel => by
    by_cases hlt : lo + 1 < hi
    · obtain ⟨-, -, hleft, hright⟩ := mid_bounds hlt
      -- one halving fewer is left
      have hhalf : Nat.clog 2 (hi - lo) = Nat.clog 2 ((hi - lo + 1) / 2) + 1 :=
        Nat.clog_of_two_le (by norm_num) (by omega)
      cases fuel with
      | zero => omega
      | succ fuel =>
        have hrest : ∀ d ≤ (hi - lo + 1) / 2, Nat.clog 2 d ≤ fuel := fun d hd =>
          (Nat.clog_mono_right 2 hd).trans (by omega)
        rw [bisect_succ_of_lt failed hlt]
        split
        · exact bisect_isSome (hrest _ hright)
        · exact bisect_isSome (hrest _ hleft)
    · rw [bisect_of_not_lt failed hlt]
      rfl

/-- **What the search keeps.** From a failing lower bound below the upper one, the search ends
on adjacent bounds between them, the lower one failing and the upper one the original or a
passing value. -/
theorem bisect_spec : ∀ {fuel lo hi lo' hi' : Nat}, bisect failed fuel lo hi = some (lo', hi') →
    lo < hi → failed lo = true →
    lo' + 1 = hi' ∧ failed lo' = true ∧ lo ≤ lo' ∧ hi' ≤ hi ∧ (hi' = hi ∨ failed hi' = false)
  | fuel, lo, hi, lo', hi', hrun, hlt, hlo => by
    by_cases hstep : lo + 1 < hi
    · obtain ⟨hmidlo, hmidhi, -, -⟩ := mid_bounds hstep
      cases fuel with
      | zero => simp [bisect, hstep] at hrun
      | succ fuel =>
        rw [bisect_succ_of_lt failed hstep] at hrun
        split at hrun
        · -- the midpoint fails: it is the new lower bound
          next hmid =>
          obtain ⟨hadj, hlo', hle, hhi, hend⟩ := bisect_spec hrun hmidhi hmid
          exact ⟨hadj, hlo', by omega, hhi, hend⟩
        · -- the midpoint passes: it is the new upper bound
          next hmid =>
          obtain ⟨hadj, hlo', hle, hhi, hend⟩ := bisect_spec hrun hmidlo hlo
          refine ⟨hadj, hlo', hle, by omega, .inr ?_⟩
          rcases hend with rfl | hpass
          · simpa using hmid
          · exact hpass
    · rw [bisect_of_not_lt failed hstep] at hrun
      cases hrun
      exact ⟨by omega, hlo, le_rfl, le_rfl, .inl rfl⟩

/-- **The least passing value.** With an antitone test, a failing lower bound and a passing
upper bound, the search ends on the least passing value. -/
theorem bisect_isLeast (hanti : Antitone failed) {fuel lo hi lo' hi' : Nat}
    (hrun : bisect failed fuel lo hi = some (lo', hi')) (hlt : lo < hi) (hlo : failed lo = true)
    (hhi : failed hi = false) : IsLeast {g | failed g = false} hi' := by
  obtain ⟨hadj, hlo', -, -, hend⟩ := bisect_spec failed hrun hlt hlo
  refine ⟨?_, fun g hg => ?_⟩
  · rcases hend with rfl | hpass
    · exact hhi
    · exact hpass
  · -- a passing value at or below the failing `lo'` would make `lo'` pass
    by_contra hgt
    have hle : g ≤ lo' := by omega
    have hmono := hanti hle
    rw [hlo', show failed g = false from hg] at hmono
    exact absurd hmono (by decide)

/-- With an antitone test that fails at the upper bound, the search ends on the upper bound. -/
theorem bisect_of_failed (hanti : Antitone failed) {fuel lo hi lo' hi' : Nat}
    (hrun : bisect failed fuel lo hi = some (lo', hi')) (hlt : lo < hi) (hlo : failed lo = true)
    (hhi : failed hi = true) : hi' = hi := by
  obtain ⟨-, -, -, hle, hend⟩ := bisect_spec failed hrun hlt hlo
  rcases hend with rfl | hpass
  · rfl
  · -- a passing value at or below `hi` would make `hi` pass
    have hmono := hanti hle
    rw [hhi, hpass] at hmono
    exact absurd hmono (by decide)

end BinarySearch
