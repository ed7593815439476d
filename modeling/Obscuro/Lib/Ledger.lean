import Mathlib

/-!
# Ledgers and escrows

A ledger is an amount per key. A transfer moves an amount from one key to another once the
payer is known to hold it. An escrow keeps books per asset: what it holds (its reserve) and what
is claimed against it. The books are backed when no asset's claims exceed its reserve. A
transition covers its claims when no asset's claims grow by more than its reserve does; backed
books stay backed under it, so a system whose every step covers keeps its escrow backed over
every run.

* `transfer_add` — the accounting of a transfer: each key ends with what it had, less what it
  paid, plus what it received;
* `Books.Backed.of_covers` — covering transitions keep the books backed;
* `sum_filter_update_add`, `sum_filter_insert` — a sum over the keys with a given label, when
  one key's amount changes and when a fresh key with nothing is added.
-/

namespace Ledger

variable {κ α : Type} [DecidableEq κ]

/-- Move `x` from `i` to `j`: the payer's balance is written first, then the payee's. -/
def transfer (f : κ → ℕ) (i j : κ) (x : ℕ) : κ → ℕ :=
  let f' := Function.update f i (f i - x)
  Function.update f' j (f' j + x)

/-- The accounting of a transfer the payer can afford. -/
theorem transfer_add {f : κ → ℕ} {i : κ} (j : κ) {x : ℕ} (h : x ≤ f i) (k : κ) :
    transfer f i j x k + (if k = i then x else 0) = f k + (if k = j then x else 0) := by
  unfold transfer
  by_cases hkj : k = j
  · subst hkj
    by_cases hki : k = i
    · -- paying oneself: the balance is where it was
      subst hki
      simp only [Function.update_self, if_true]
      omega
    · simp [hki]
  · by_cases hki : k = i
    · subst hki
      simp only [Function.update_of_ne hkj, Function.update_self, if_true, hkj, if_false]
      omega
    · simp [hki, hkj]

/-! ## Books of an escrow -/

/-- The books of an escrow: per asset, what it holds and what is claimed against it. -/
structure Books (α : Type) where
  reserve : α → ℕ
  claims : α → ℕ

namespace Books

/-- No asset's claims exceed its reserve. -/
def Backed (b : Books α) : Prop := ∀ a, b.claims a ≤ b.reserve a

/-- From `b` to `b'`, no asset's claims grow by more than its reserve. -/
def Covers (b b' : Books α) : Prop :=
  ∀ a, b'.claims a + b.reserve a ≤ b'.reserve a + b.claims a

theorem Covers.refl (b : Books α) : Covers b b := fun _ => (Nat.add_comm _ _).le

theorem Covers.of_eq {b b' : Books α} (h : b' = b) : Covers b b' := h ▸ Covers.refl b

/-- Backed books stay backed under a transition that covers its claims. -/
theorem Backed.of_covers {b b' : Books α} (hb : b.Backed) (h : Covers b b') : b'.Backed := by
  intro a
  have hold := hb a
  have hstep := h a
  omega

end Books

/-! ## Sums over labelled keys -/

variable [DecidableEq α]

/-- A sum over the keys of `s` labelled `a`, when key `i ∈ s` changes from `f i` to `v`: the
sum moves by the change exactly when `i` carries the label. -/
theorem sum_filter_update_add {s : Finset κ} {i : κ} (hi : i ∈ s) (label : κ → α) (a : α)
    (f : κ → ℕ) (v : ℕ) :
    (∑ k ∈ s.filter (label · = a), Function.update f i v k) +
        (if label i = a then f i else 0) =
      (∑ k ∈ s.filter (label · = a), f k) + (if label i = a then v else 0) := by
  by_cases hl : label i = a
  · have hmem : i ∈ s.filter (label · = a) := Finset.mem_filter.mpr ⟨hi, hl⟩
    rw [Finset.sum_update_of_mem hmem, if_pos hl, if_pos hl,
      ← Finset.add_sum_erase _ _ hmem, Finset.sdiff_singleton_eq_erase]
    ring
  · have hnot : i ∉ s.filter (label · = a) := fun h => hl (Finset.mem_filter.mp h).2
    rw [Finset.sum_update_of_notMem hnot, if_neg hl, if_neg hl]

/-- A sum over the keys labelled `a`, when a fresh key holding nothing is added and the
labels and amounts of the other keys are kept. -/
theorem sum_filter_insert {s : Finset κ} {i : κ} (hi : i ∉ s) {label label' : κ → α}
    (hlabel : ∀ k ∈ s, label' k = label k) {f f' : κ → ℕ} (hf : ∀ k ∈ s, f' k = f k)
    (hzero : f' i = 0) (a : α) :
    ∑ k ∈ (insert i s).filter (label' · = a), f' k =
      ∑ k ∈ s.filter (label · = a), f k := by
  rw [Finset.filter_insert]
  have hrest :
      ∑ k ∈ s.filter (label' · = a), f' k = ∑ k ∈ s.filter (label · = a), f k := by
    rw [Finset.filter_congr (fun k hk => by rw [hlabel k hk])]
    exact Finset.sum_congr rfl (fun k hk => hf k (Finset.mem_filter.mp hk).1)
  split_ifs with hl
  · have hi' : i ∉ s.filter (label' · = a) := fun h => hi (Finset.mem_filter.mp h).1
    rw [Finset.sum_insert hi', hzero, zero_add, hrest]
  · exact hrest

end Ledger
