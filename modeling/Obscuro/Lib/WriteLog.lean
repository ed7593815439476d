import Mathlib

/-!
# Logs of key-value writes

A write batch records puts and deletes and applies them later. Applied one by one in order,
the last write on a key decides it. A store that applies all the puts first and all the
deletes after agrees with that order when no key is put after it was deleted, and not
otherwise. This module states both over a table `α → Option β`, updated with
`Function.update`:

* `applyAll` — the writes one by one, in order;
* `applyAll_of_forall_key_ne`, `applyAll_append_apply_of_right`, `applyAll_update_comm` —
  writes to other keys neither read nor disturb a key;
* `applyAll_eqOn`, `applyAll_eqOn_self` — the same writes keep two tables that agree on a set of
  keys in agreement, and writes outside the set leave it;
* `NoPutAfterDelete` — no write puts a key that an earlier write deleted;
* `applyAll_eq_puts_deletes` — under it, the puts and then the deletes give the same table;
* `applyAll_deletes_of_mem` — after the deletes, a deleted key is absent whatever was put.
-/

namespace WriteLog

/-- One recorded write. -/
inductive Op (α β : Type) where
  | put (key : α) (value : β)
  | delete (key : α)
  deriving DecidableEq, Repr

variable {α β : Type}

namespace Op

/-- The key a write touches. -/
def key : Op α β → α
  | put key _ => key
  | delete key => key

/-- Whether the write is a put. -/
def isPut : Op α β → Bool
  | put .. => true
  | delete _ => false

@[simp] theorem key_put (key : α) (value : β) : (put key value).key = key := rfl

@[simp] theorem key_delete (key : α) : (delete key : Op α β).key = key := rfl

@[simp] theorem isPut_put (key : α) (value : β) : (put key value).isPut = true := rfl

@[simp] theorem isPut_delete (key : α) : (delete key : Op α β).isPut = false := rfl

variable [DecidableEq α]

/-- The write applied to a table. -/
def apply : Op α β → (α → Option β) → α → Option β
  | put key value, t => Function.update t key (some value)
  | delete key, t => Function.update t key none

/-- A write leaves every other key as it was. -/
theorem apply_of_key_ne {op : Op α β} {k : α} (h : op.key ≠ k) (t : α → Option β) :
    op.apply t k = t k := by
  cases op with
  | put key value => exact Function.update_of_ne (Ne.symm h) _ _
  | delete key => exact Function.update_of_ne (Ne.symm h) _ _

/-- A write commutes with an update of another key. -/
theorem apply_update_comm {op : Op α β} {k : α} (h : op.key ≠ k) (t : α → Option β)
    (x : Option β) :
    op.apply (Function.update t k x) = Function.update (op.apply t) k x := by
  cases op with
  | put key value => exact (Function.update_comm h _ _ _).symm
  | delete key => exact (Function.update_comm h _ _ _).symm

end Op

variable [DecidableEq α]

/-- The writes applied one by one, in order. -/
def applyAll (ops : List (Op α β)) (t : α → Option β) : α → Option β :=
  ops.foldl (fun t op => op.apply t) t

@[simp] theorem applyAll_nil (t : α → Option β) : applyAll [] t = t := rfl

@[simp] theorem applyAll_cons (op : Op α β) (ops : List (Op α β)) (t : α → Option β) :
    applyAll (op :: ops) t = applyAll ops (op.apply t) := rfl

theorem applyAll_append (ops ops' : List (Op α β)) (t : α → Option β) :
    applyAll (ops ++ ops') t = applyAll ops' (applyAll ops t) :=
  List.foldl_append

/-- Writes to other keys leave a key as it was. -/
theorem applyAll_of_forall_key_ne {k : α} :
    ∀ {ops : List (Op α β)}, (∀ op ∈ ops, op.key ≠ k) → ∀ t, applyAll ops t k = t k
  | [], _, t => rfl
  | op :: ops, h, t => by
    rw [applyAll_cons, applyAll_of_forall_key_ne (fun op' hop' => h op' (.tail _ hop'))]
    exact op.apply_of_key_ne (h op List.mem_cons_self) t

/-- Writes after the last write to a key that leave it alone leave its value. -/
theorem applyAll_append_apply_of_right {k : α} {ops' : List (Op α β)}
    (h : ∀ op ∈ ops', op.key ≠ k) (ops : List (Op α β)) (t : α → Option β) :
    applyAll (ops ++ ops') t k = applyAll ops t k := by
  rw [applyAll_append, applyAll_of_forall_key_ne h]

/-- Writes to other keys commute with an update of a key. -/
theorem applyAll_update_comm {k : α} (x : Option β) :
    ∀ {ops : List (Op α β)}, (∀ op ∈ ops, op.key ≠ k) → ∀ t,
      applyAll ops (Function.update t k x) = Function.update (applyAll ops t) k x
  | [], _, t => rfl
  | op :: ops, h, t => by
    rw [applyAll_cons, Op.apply_update_comm (h op List.mem_cons_self),
      applyAll_update_comm x (fun op' hop' => h op' (.tail _ hop'))]
    rfl

/-! ## Agreement on a set of keys -/

/-- A write keeps two tables that agree on `s` in agreement there. -/
theorem Op.apply_eqOn {s : Set α} {t t' : α → Option β} (op : Op α β) (h : Set.EqOn t t' s) :
    Set.EqOn (op.apply t) (op.apply t') s := by
  intro k hk
  by_cases hkey : op.key = k
  · -- the written key holds the written value in both
    subst hkey
    cases op <;> simp [Op.apply]
  · rw [op.apply_of_key_ne hkey, op.apply_of_key_ne hkey]
    exact h hk

/-- The same writes keep two tables that agree on `s` in agreement there. -/
theorem applyAll_eqOn {s : Set α} :
    ∀ (ops : List (Op α β)) {t t' : α → Option β}, Set.EqOn t t' s →
      Set.EqOn (applyAll ops t) (applyAll ops t') s
  | [], _, _, h => h
  | op :: ops, _, _, h => applyAll_eqOn ops (op.apply_eqOn h)

/-- Writes to keys outside `s` leave the table as it was on `s`. -/
theorem applyAll_eqOn_self {s : Set α} {ops : List (Op α β)} (h : ∀ op ∈ ops, op.key ∉ s)
    (t : α → Option β) : Set.EqOn (applyAll ops t) t s := by
  intro k hk
  apply applyAll_of_forall_key_ne
  intro op hop hkey
  exact h op hop (hkey ▸ hk)

/-- No write puts a key that an earlier write deleted. -/
def NoPutAfterDelete : List (Op α β) → Prop
  | [] => True
  | .put _ _ :: ops => NoPutAfterDelete ops
  | .delete k :: ops => (∀ op ∈ ops, op.isPut → op.key ≠ k) ∧ NoPutAfterDelete ops

instance decidableNoPutAfterDelete : (ops : List (Op α β)) → Decidable (NoPutAfterDelete ops)
  | [] => isTrue trivial
  | .put _ _ :: ops => decidableNoPutAfterDelete ops
  | .delete _ :: ops =>
    @instDecidableAnd _ _ (List.decidableBAll _ ops) (decidableNoPutAfterDelete ops)

/-- **Puts, then deletes.** When no key is put after it was deleted, applying all the puts in
order and then all the deletes gives the table of the writes applied one by one. -/
theorem applyAll_eq_puts_deletes :
    ∀ (ops : List (Op α β)) (t : α → Option β), NoPutAfterDelete ops →
      applyAll ops t =
        applyAll (ops.filter fun op => !op.isPut) (applyAll (ops.filter (·.isPut)) t)
  | [], t, _ => rfl
  | .put k v :: ops, t, h => by
    -- the put is the first of the puts
    simp only [List.filter_cons, Op.isPut_put, Bool.not_true, Bool.false_eq_true, if_true,
      if_false, applyAll_cons]
    exact applyAll_eq_puts_deletes ops _ h
  | .delete k :: ops, t, ⟨hk, h⟩ => by
    -- the delete moves past the later puts, none of which is to `k`
    have hputs : ∀ op ∈ ops.filter (·.isPut), op.key ≠ k := by
      intro op hop
      rw [List.mem_filter] at hop
      exact hk op hop.1 hop.2
    simp only [List.filter_cons, Op.isPut_delete, Bool.not_false, Bool.false_eq_true, if_true,
      if_false, applyAll_cons]
    rw [applyAll_eq_puts_deletes ops _ h]
    exact congrArg _ (applyAll_update_comm none hputs t)

/-- After a run of deletes that deletes `k`, the key is absent, whatever the table held. -/
theorem applyAll_deletes_of_mem {k : α} :
    ∀ {ops : List (Op α β)}, (∀ op ∈ ops, op.isPut = false) → Op.delete k ∈ ops →
      ∀ t, applyAll ops t k = none
  | [], _, hk, _ => absurd hk List.not_mem_nil
  | op :: ops, hdel, hk, t => by
    have hdel' : ∀ op' ∈ ops, op'.isPut = false := fun op' hop' => hdel op' (.tail _ hop')
    rw [applyAll_cons]
    rcases List.mem_cons.mp hk with rfl | hk
    · -- this delete is the last of `k` or a later one deletes it again
      by_cases hlater : Op.delete k ∈ ops
      · exact applyAll_deletes_of_mem hdel' hlater _
      · have hne : ∀ op' ∈ ops, op'.key ≠ k := by
          intro op' hop' hkey
          cases op' with
          | put key value => exact absurd (hdel' _ hop') (by simp)
          | delete key =>
            cases hkey
            exact hlater hop'
        rw [applyAll_of_forall_key_ne hne]
        exact Function.update_self k none t
    · exact applyAll_deletes_of_mem hdel' hk _

end WriteLog
