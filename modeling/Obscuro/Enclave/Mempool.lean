import Obscuro.Common.Types
import Obscuro.Lib.ExceptBind

/-!
# The sequencer's transaction selection

`go/enclave/mempool/manager.go`: the sequencer keeps the transactions it was sent in a map by
hash, and `CurrentTxs` picks those of the next batch. It sorts the mempool by nonce across all
senders, then walks it once: a transaction is taken when its signature is valid, its nonce is
the sender's next one (`NonceTracker` of `nonce_tracker.go`, read lazily from the state and
moved on only when a transaction is taken), and the `BatchSizeLimiter` of
`go/enclave/limiters/batchlimiter.go` still has room for its RLP encoding. The first
transaction that does not fit ends the walk.

Transactions are of any type; what the selection reads of one (its nonce, its recovered
sender, the size of its RLP encoding) is a parameter, and so is `sort.Sort`, of which only the
law is used: it returns the same transactions, ordered by nonce.

## Results

* `Selected.select`, `Selected.skip` — one step of the walk keeps what the selection so far
  satisfies; `currentTxsLoop_spec` lifts it over the walk;
* `CurrentTxs_ok` — the selection is returned whenever every transaction encodes;
* `CurrentTxs_spec` — the selection is drawn from the mempool, signed, gap-free per sender from
  the state's nonce on, has at most one transaction per sender and nonce, and fits the limit.
-/

namespace Obscuro.Mempool

/-- `limiters.BatchSizeLimiter`: the sequencer's `batchSizeLimiter` with the calldata it has
left, or `unlimitedBatchSize`. An encoding's length fits `uint64` and the subtraction is
guarded, so the remaining size is a `Nat`. -/
inductive BatchSizeLimiter where
  | batchSizeLimiter (remainingSize : Nat)
  | unlimitedBatchSize

/-- The errors of `AcceptTransaction`: `ErrInsufficientSpace`, or the RLP encoder's. -/
inductive AcceptError where
  | ErrInsufficientSpace
  | rlp (err : String)

/-- `NonceTracker`: the nonces it has read from the state or moved on, by account. -/
structure NonceTracker where
  accountNonces : Address → Option UInt64

def NewNonceTracker : NonceTracker := ⟨fun _ => none⟩

/-- `nt.GetNonce(address)`: the tracked nonce, or the state's, which is tracked from then on. -/
def NonceTracker.GetNonce (stateNonce : Address → UInt64) (nt : NonceTracker) (address : Address) :
    UInt64 × NonceTracker :=
  match nt.accountNonces address with
  | some nonce => (nonce, nt)
  | none => (stateNonce address, ⟨Function.update nt.accountNonces address (some (stateNonce address))⟩)

/-- `nt.IncrementNonce(address)`: `accountNonces[address]++`, from the zero value for an
account not tracked. -/
def NonceTracker.IncrementNonce (nt : NonceTracker) (address : Address) : NonceTracker :=
  ⟨Function.update nt.accountNonces address (some ((nt.accountNonces address).getD 0 + 1))⟩

/-- `mempoolManager.mempool`: the transactions by hash. -/
structure mempoolManager (Tx : Type) where
  mempool : List (Hash × Tx)

variable {Tx : Type}

section Manager

variable (GetAuthenticatedSender : Tx → Except String Address) (txHash : Tx → Hash)

/-- `AddMempoolTx(tx)`: a transaction whose sender cannot be recovered is refused. -/
def AddMempoolTx (db : mempoolManager Tx) (tx : Tx) : Except String (mempoolManager Tx) := do
  let _ ← GetAuthenticatedSender tx
  pure ⟨(txHash tx, tx) :: db.mempool.filter fun entry => entry.1 ≠ txHash tx⟩

/-- `FetchMempoolTxs()`: the transactions, in the map's iteration order. -/
def FetchMempoolTxs (db : mempoolManager Tx) : List Tx := db.mempool.map Prod.snd

/-- `RemoveTxs(transactions)`. -/
def RemoveTxs (db : mempoolManager Tx) (transactions : List Tx) : mempoolManager Tx :=
  ⟨db.mempool.filter fun entry => entry.1 ∉ transactions.map txHash⟩

/-- What the manager keeps of its map: one entry per hash, under the hash of its transaction,
whose sender recovers. -/
structure PoolWF (db : mempoolManager Tx) : Prop where
  nodup : (db.mempool.map Prod.fst).Nodup
  entries : ∀ e ∈ db.mempool, e.1 = txHash e.2 ∧ ∃ sender, GetAuthenticatedSender e.2 = .ok sender

theorem PoolWF.empty : PoolWF GetAuthenticatedSender txHash (⟨[]⟩ : mempoolManager Tx) :=
  ⟨List.nodup_nil, fun _ he => by cases he⟩

/-- A filter of the map keeps its invariant. -/
theorem PoolWF.filter {db : mempoolManager Tx} (hwf : PoolWF GetAuthenticatedSender txHash db)
    (p : Hash × Tx → Bool) : PoolWF GetAuthenticatedSender txHash ⟨db.mempool.filter p⟩ where
  nodup := hwf.nodup.sublist ((List.filter_sublist).map _)
  entries e he := hwf.entries e (List.mem_of_mem_filter he)

/-- A transaction is queued only once its sender recovers, and replaces the entry of its hash. -/
theorem PoolWF.AddMempoolTx {db db' : mempoolManager Tx} {tx : Tx}
    (hwf : PoolWF GetAuthenticatedSender txHash db)
    (h : AddMempoolTx GetAuthenticatedSender txHash db tx = .ok db') :
    PoolWF GetAuthenticatedSender txHash db' := by
  obtain ⟨sender, hsender, h⟩ := Except.bind_eq_ok.mp h
  cases h
  have hrest := hwf.filter GetAuthenticatedSender txHash fun entry => entry.1 ≠ txHash tx
  constructor
  · -- the entries left have other hashes
    refine List.nodup_cons.mpr ⟨?_, hrest.nodup⟩
    simp
  · intro e he
    rcases List.mem_cons.mp he with rfl | he
    · exact ⟨rfl, sender, hsender⟩
    · exact hrest.entries e he

theorem PoolWF.RemoveTxs {db : mempoolManager Tx} (hwf : PoolWF GetAuthenticatedSender txHash db)
    (transactions : List Tx) :
    PoolWF GetAuthenticatedSender txHash (RemoveTxs txHash db transactions) :=
  hwf.filter GetAuthenticatedSender txHash _

end Manager

/-- `sort.Sort(sortByNonce(txes))`: the same transactions ordered by nonce. The order among
equal nonces is the sort's own. -/
structure SortByNonce (Nonce : Tx → UInt64) where
  sort : List Tx → List Tx
  perm : ∀ txes, (sort txes).Perm txes
  sorted : ∀ txes, (sort txes).Pairwise fun a b => Nonce a ≤ Nonce b

section Select

variable (Nonce : Tx → UInt64) (GetAuthenticatedSender : Tx → Except String Address)
  (getRlpSize : Tx → Except String Nat) (stateNonce : Address → UInt64)

/-- `limiter.AcceptTransaction(tx)`: the RLP size is taken from the remaining calldata. -/
def AcceptTransaction (tx : Tx) : BatchSizeLimiter → Except AcceptError BatchSizeLimiter
  | .batchSizeLimiter remainingSize =>
    match getRlpSize tx with
    | .error err => .error (.rlp err)
    | .ok rlpSize =>
      if rlpSize > remainingSize then .error .ErrInsufficientSpace
      else .ok (.batchSizeLimiter (remainingSize - rlpSize))
  | .unlimitedBatchSize => .ok .unlimitedBatchSize

/-- The loop of `CurrentTxs` over the sorted transactions, with the transactions taken so far. -/
def currentTxsLoop : List Tx → NonceTracker → BatchSizeLimiter → List Tx → Except String (List Tx)
  | [], _, _, applicable => .ok applicable
  | tx :: txes, nonceTracker, limiter, applicable =>
    match GetAuthenticatedSender tx with
    -- `sender == nil`: the signature is invalid
    | .error _ => currentTxsLoop txes nonceTracker limiter applicable
    | .ok sender =>
      let got := nonceTracker.GetNonce stateNonce sender
      if Nonce tx ≠ got.1 then currentTxsLoop txes got.2 limiter applicable
      else match AcceptTransaction getRlpSize tx limiter with
        -- the batch ran out of space: the walk ends
        | .error .ErrInsufficientSpace => .ok applicable
        | .error (.rlp err) => .error err
        | .ok limiter =>
          currentTxsLoop txes (got.2.IncrementNonce sender) limiter (applicable ++ [tx])

/-- `mempoolManager.CurrentTxs(stateDB, limiter)`; `stateNonce` is `stateDB.GetNonce`. -/
def CurrentTxs (sortByNonce : SortByNonce Nonce) (db : mempoolManager Tx)
    (limiter : BatchSizeLimiter) : Except String (List Tx) :=
  currentTxsLoop Nonce GetAuthenticatedSender getRlpSize stateNonce
    (sortByNonce.sort (FetchMempoolTxs db)) NewNonceTracker limiter []

end Select

-- ---------------------------------------------------------------------------
-- The nonce tracker
-- ---------------------------------------------------------------------------

section Tracker

variable (stateNonce : Address → UInt64)

/-- The nonce the tracker gives an account: the tracked one, or the state's. -/
def NonceTracker.current (nt : NonceTracker) (address : Address) : UInt64 :=
  (nt.accountNonces address).getD (stateNonce address)

@[simp] theorem current_NewNonceTracker (address : Address) :
    NewNonceTracker.current stateNonce address = stateNonce address := rfl

@[simp] theorem GetNonce_fst (nt : NonceTracker) (address : Address) :
    (nt.GetNonce stateNonce address).1 = nt.current stateNonce address := by
  unfold NonceTracker.GetNonce NonceTracker.current
  cases nt.accountNonces address <;> rfl

/-- Reading a nonce changes no account's nonce. -/
@[simp] theorem current_GetNonce (nt : NonceTracker) (address other : Address) :
    (nt.GetNonce stateNonce address).2.current stateNonce other = nt.current stateNonce other := by
  unfold NonceTracker.GetNonce NonceTracker.current
  cases h : nt.accountNonces address with
  | some nonce => rfl
  | none =>
    by_cases hother : other = address
    · subst hother
      simp [h]
    · simp [Function.update_of_ne hother]

/-- Moving on an account that was just read moves its nonce by one. -/
theorem current_IncrementNonce_GetNonce (nt : NonceTracker) (address other : Address) :
    ((nt.GetNonce stateNonce address).2.IncrementNonce address).current stateNonce other =
      if other = address then nt.current stateNonce address + 1
      else nt.current stateNonce other := by
  have hread := current_GetNonce stateNonce nt address
  by_cases hother : other = address
  · subst hother
    -- after the read the account is tracked, so the increment starts from its nonce
    have htracked : ((nt.GetNonce stateNonce other).2.accountNonces other).getD 0 =
        nt.current stateNonce other := by
      unfold NonceTracker.GetNonce NonceTracker.current
      cases h : nt.accountNonces other <;> simp [h]
    simp [NonceTracker.IncrementNonce, NonceTracker.current, htracked]
  · rw [if_neg hother, ← hread other]
    simp [NonceTracker.IncrementNonce, NonceTracker.current, Function.update_of_ne hother]

end Tracker

-- ---------------------------------------------------------------------------
-- One step of the walk
-- ---------------------------------------------------------------------------

section Walk

variable (Nonce : Tx → UInt64) (GetAuthenticatedSender : Tx → Except String Address)
  (getRlpSize : Tx → Except String Nat) (stateNonce : Address → UInt64)

/-- The transactions of a list that `sender` signed. -/
def signedBy (txs : List Tx) (sender : Address) : List Tx :=
  txs.filter fun tx => (GetAuthenticatedSender tx).toOption = some sender

/-- What the walk keeps of the transactions it has taken, `applicable`, while `remaining` are
still to come: they are signed, each sender's are its nonces from the state's on, the tracker
is that far along, and every nonce taken is at most every nonce to come. -/
structure Selected (nt : NonceTracker) (applicable remaining : List Tx) : Prop where
  signed : ∀ tx ∈ applicable, ∃ sender, GetAuthenticatedSender tx = .ok sender
  tracked : ∀ sender, (nt.current stateNonce sender).toNat =
    ((stateNonce sender).toNat + (signedBy GetAuthenticatedSender applicable sender).length) % 2 ^ 64
  runs : ∀ sender, (signedBy GetAuthenticatedSender applicable sender).map (fun tx => (Nonce tx).toNat) =
    List.range' (stateNonce sender).toNat (signedBy GetAuthenticatedSender applicable sender).length
  below : ∀ a ∈ applicable, ∀ b ∈ remaining, Nonce a ≤ Nonce b

/-- The calldata a limiter gave the transactions taken since it was `start`: a size limiter
stays one, and the encodings' sizes and what is left add up to what it started with. -/
def SizedWithin (start : BatchSizeLimiter) (applicable : List Tx) (limiter : BatchSizeLimiter) :
    Prop :=
  match start, limiter with
  | .batchSizeLimiter L, .batchSizeLimiter remainingSize =>
    ∃ sizes : List Nat, applicable.map getRlpSize = sizes.map .ok ∧ remainingSize + sizes.sum = L
  | .unlimitedBatchSize, .unlimitedBatchSize => True
  | _, _ => False

theorem selected_init (txes : List Tx) :
    Selected Nonce GetAuthenticatedSender stateNonce NewNonceTracker [] txes where
  signed := by simp
  tracked sender := by simp [signedBy, Nat.mod_eq_of_lt (stateNonce sender).toNat_lt]
  runs sender := by simp [signedBy]
  below := by simp

theorem sizedWithin_init (start : BatchSizeLimiter) : SizedWithin getRlpSize start ([] : List Tx) start := by
  cases start with
  | batchSizeLimiter L => exact ⟨[], rfl, by simp⟩
  | unlimitedBatchSize => trivial

/-- When the walk ends, nothing is left to come. -/
theorem Selected.finish {nt : NonceTracker} {applicable remaining : List Tx}
    (hsel : Selected Nonce GetAuthenticatedSender stateNonce nt applicable remaining) :
    Selected Nonce GetAuthenticatedSender stateNonce nt applicable [] :=
  ⟨hsel.signed, hsel.tracked, hsel.runs, by simp⟩

/-- A transaction that is not taken changes nothing the selection keeps. -/
theorem Selected.skip {nt nt' : NonceTracker} {applicable : List Tx} {tx : Tx} {rest : List Tx}
    (hsel : Selected Nonce GetAuthenticatedSender stateNonce nt applicable (tx :: rest))
    (hcur : ∀ sender, nt'.current stateNonce sender = nt.current stateNonce sender) :
    Selected Nonce GetAuthenticatedSender stateNonce nt' applicable rest where
  signed := hsel.signed
  tracked sender := by rw [hcur sender, hsel.tracked sender]
  runs := hsel.runs
  below a ha b hb := hsel.below a ha b (List.mem_cons_of_mem tx hb)

/-- The nonce of a transaction taken is the state's nonce plus the number taken from its sender
so far, with no wrap: the sort puts it after the sender's last one taken. -/
theorem nonce_of_next {nt : NonceTracker} {applicable : List Tx} {tx : Tx} {rest : List Tx}
    (hsel : Selected Nonce GetAuthenticatedSender stateNonce nt applicable (tx :: rest))
    {sender : Address} (hnonce : Nonce tx = nt.current stateNonce sender) :
    (Nonce tx).toNat = (stateNonce sender).toNat +
      (signedBy GetAuthenticatedSender applicable sender).length := by
  set c := (signedBy GetAuthenticatedSender applicable sender).length
  have hmod : (Nonce tx).toNat = ((stateNonce sender).toNat + c) % 2 ^ 64 := by
    rw [hnonce, hsel.tracked sender]
  have hsn := (stateNonce sender).toNat_lt
  cases hc : c with
  | zero => rw [hmod, hc, Nat.add_zero, Nat.mod_eq_of_lt hsn]
  | succ k =>
    -- the sender's last transaction taken has the nonce just before
    have hlast : (stateNonce sender).toNat + k ∈
        (signedBy GetAuthenticatedSender applicable sender).map (fun tx => (Nonce tx).toNat) := by
      rw [hsel.runs sender, List.mem_range'_1]
      omega
    obtain ⟨a, ha, hna⟩ := List.mem_map.mp hlast
    have hle : (Nonce a).toNat ≤ (Nonce tx).toNat :=
      UInt64.le_iff_toNat_le.mp (hsel.below a (List.mem_of_mem_filter ha) tx List.mem_cons_self)
    have halt := (Nonce a).toNat_lt
    have htxlt := (Nonce tx).toNat_lt
    rw [hc] at hmod
    -- a wrap would put the nonce below the last one taken
    have hnowrap : (stateNonce sender).toNat + (k + 1) < 2 ^ 64 := by
      by_contra hwrap
      have : (Nonce tx).toNat = (stateNonce sender).toNat + (k + 1) - 2 ^ 64 := by
        rw [hmod, Nat.mod_eq_sub_mod (by omega), Nat.mod_eq_of_lt (by omega)]
      omega
    rw [hmod, Nat.mod_eq_of_lt hnowrap]

/-- A transaction signed by `sender` joins `sender`'s list and no other. -/
theorem signedBy_append_singleton (applicable : List Tx) {tx : Tx} {sender : Address}
    (hsender : GetAuthenticatedSender tx = .ok sender) (other : Address) :
    signedBy GetAuthenticatedSender (applicable ++ [tx]) other =
      if other = sender then signedBy GetAuthenticatedSender applicable other ++ [tx]
      else signedBy GetAuthenticatedSender applicable other := by
  by_cases hother : other = sender
  · subst hother
    simp [signedBy, List.filter_append, hsender, Except.toOption]
  · simp [signedBy, List.filter_append, hsender, Except.toOption, Ne.symm hother, hother]

/-- **A transaction taken keeps the selection.** A signed transaction whose nonce is its
sender's next one extends its sender's run by one, and moves the tracker with it. -/
theorem Selected.select {nt : NonceTracker} {applicable : List Tx} {tx : Tx} {rest : List Tx}
    (hsel : Selected Nonce GetAuthenticatedSender stateNonce nt applicable (tx :: rest))
    (hsorted : (tx :: rest).Pairwise fun a b => Nonce a ≤ Nonce b) {sender : Address}
    (hsender : GetAuthenticatedSender tx = .ok sender) (hnonce : Nonce tx = nt.current stateNonce sender) :
    Selected Nonce GetAuthenticatedSender stateNonce
      ((nt.GetNonce stateNonce sender).2.IncrementNonce sender) (applicable ++ [tx]) rest := by
  have hnext := nonce_of_next Nonce GetAuthenticatedSender stateNonce hsel hnonce
  have hsigned := signedBy_append_singleton GetAuthenticatedSender applicable hsender
  refine ⟨?_, ?_, ?_, ?_⟩
  · intro t ht
    rcases List.mem_append.mp ht with ht | ht
    · exact hsel.signed t ht
    · rw [List.mem_singleton.mp ht]
      exact ⟨sender, hsender⟩
  · intro other
    rw [current_IncrementNonce_GetNonce, hsigned other]
    by_cases hother : other = sender
    · subst hother
      rw [if_pos rfl, if_pos rfl, UInt64.toNat_add, hsel.tracked other, UInt64.toNat_one,
        List.length_append, List.length_singleton, Nat.mod_add_mod, Nat.add_assoc]
    · rw [if_neg hother, if_neg hother, hsel.tracked other]
  · intro other
    rw [hsigned other]
    by_cases hother : other = sender
    · subst hother
      rw [if_pos rfl, List.map_append, hsel.runs other, List.length_append, List.length_singleton,
        List.range'_concat, List.map_singleton, hnext, Nat.one_mul]
    · rw [if_neg hother, hsel.runs other]
  · intro a ha b hb
    rcases List.mem_append.mp ha with ha | ha
    · exact hsel.below a ha b (List.mem_cons_of_mem tx hb)
    · rw [List.mem_singleton.mp ha]
      exact List.rel_of_pairwise_cons hsorted hb

/-- A limiter that accepts a transaction gives it the calldata it takes. -/
theorem SizedWithin.accept {start : BatchSizeLimiter} {applicable : List Tx} {tx : Tx}
    {limiter limiter' : BatchSizeLimiter} (hsized : SizedWithin getRlpSize start applicable limiter)
    (haccept : AcceptTransaction getRlpSize tx limiter = .ok limiter') :
    SizedWithin getRlpSize start (applicable ++ [tx]) limiter' := by
  cases start with
  | unlimitedBatchSize =>
    cases limiter with
    | unlimitedBatchSize =>
      cases haccept
      trivial
    | batchSizeLimiter _ => exact hsized.elim
  | batchSizeLimiter L =>
    cases limiter with
    | unlimitedBatchSize => exact hsized.elim
    | batchSizeLimiter remainingSize =>
      obtain ⟨sizes, hmap, hsum⟩ := hsized
      unfold AcceptTransaction at haccept
      cases hsize : getRlpSize tx with
      | error err => simp [hsize] at haccept
      | ok rlpSize =>
        simp only [hsize] at haccept
        split_ifs at haccept with hfit
        cases haccept
        refine ⟨sizes ++ [rlpSize], by simp [hmap, hsize], ?_⟩
        rw [List.sum_append, List.sum_singleton]
        omega

-- ---------------------------------------------------------------------------
-- The walk
-- ---------------------------------------------------------------------------

/-- **The walk keeps the selection.** From a selection that holds with respect to the sorted
transactions still to come, the walk ends, when it does not fail, with a selection that
extends it by a sublist of those transactions, signed, gap-free per sender and within the
limit. The induction is on the transactions still to come. -/
theorem currentTxsLoop_spec {start : BatchSizeLimiter} :
    ∀ {txes : List Tx} {nt : NonceTracker} {limiter : BatchSizeLimiter} {applicable r : List Tx},
      txes.Pairwise (fun a b => Nonce a ≤ Nonce b) →
      Selected Nonce GetAuthenticatedSender stateNonce nt applicable txes →
      SizedWithin getRlpSize start applicable limiter →
      currentTxsLoop Nonce GetAuthenticatedSender getRlpSize stateNonce txes nt limiter applicable =
        .ok r →
      (∃ nt' limiter', Selected Nonce GetAuthenticatedSender stateNonce nt' r [] ∧
        SizedWithin getRlpSize start r limiter') ∧
      ∃ sel, r = applicable ++ sel ∧ sel.Sublist txes
  | [], nt, limiter, applicable, r, _, hsel, hsized, hrun => by
    cases hrun
    exact ⟨⟨nt, limiter, hsel, hsized⟩, [], by simp, List.Sublist.refl _⟩
  | tx :: rest, nt, limiter, applicable, r, hsorted, hsel, hsized, hrun => by
    have hrest := List.Pairwise.of_cons hsorted
    unfold currentTxsLoop at hrun
    cases hsender : GetAuthenticatedSender tx with
    | error err =>
      -- an invalid signature: skipped
      rw [hsender] at hrun
      obtain ⟨hfinal, sel, rfl, hsub⟩ := currentTxsLoop_spec hrest
        (hsel.skip Nonce GetAuthenticatedSender stateNonce fun _ => rfl) hsized hrun
      exact ⟨hfinal, sel, rfl, hsub.cons tx⟩
    | ok sender =>
      simp only [hsender] at hrun
      by_cases hnonce : Nonce tx = nt.current stateNonce sender
      · rw [GetNonce_fst, if_neg (not_not.mpr hnonce)] at hrun
        cases haccept : AcceptTransaction getRlpSize tx limiter with
        | error e =>
          rw [haccept] at hrun
          cases e with
          | ErrInsufficientSpace =>
            -- the walk ends with what it has
            cases hrun
            exact ⟨⟨nt, limiter, hsel.finish, hsized⟩, [], by simp, List.nil_sublist _⟩
          | rlp err => cases hrun
        | ok limiter' =>
          -- the transaction is taken
          rw [haccept] at hrun
          obtain ⟨hfinal, sel, hr, hsub⟩ := currentTxsLoop_spec hrest
            (hsel.select Nonce GetAuthenticatedSender stateNonce hsorted hsender hnonce)
            (hsized.accept getRlpSize haccept) hrun
          exact ⟨hfinal, tx :: sel, by rw [hr, List.append_assoc, List.singleton_append],
            hsub.cons_cons tx⟩
      · -- not the sender's next nonce: skipped
        rw [GetNonce_fst, if_pos hnonce] at hrun
        obtain ⟨hfinal, sel, rfl, hsub⟩ := currentTxsLoop_spec hrest
          (hsel.skip Nonce GetAuthenticatedSender stateNonce
            (current_GetNonce stateNonce nt sender)) hsized hrun
        exact ⟨hfinal, sel, rfl, hsub.cons tx⟩

/-- A limiter fails on a transaction only for want of space when its encoding succeeds. -/
theorem AcceptTransaction_ne_rlp {tx : Tx} {n : Nat} (hsize : getRlpSize tx = .ok n)
    (limiter : BatchSizeLimiter) (err : String) :
    AcceptTransaction getRlpSize tx limiter ≠ .error (.rlp err) := by
  cases limiter with
  | unlimitedBatchSize => simp [AcceptTransaction]
  | batchSizeLimiter remainingSize =>
    simp only [AcceptTransaction, hsize]
    split_ifs <;> simp

/-- **The walk returns.** When every transaction encodes, the walk returns a selection. The
induction is on the transactions still to come. -/
theorem currentTxsLoop_ok (hrlp : ∀ tx, ∃ n, getRlpSize tx = .ok n) :
    ∀ (txes : List Tx) (nt : NonceTracker) (limiter : BatchSizeLimiter) (applicable : List Tx),
      ∃ r, currentTxsLoop Nonce GetAuthenticatedSender getRlpSize stateNonce txes nt limiter
        applicable = .ok r
  | [], _, _, applicable => ⟨applicable, rfl⟩
  | tx :: rest, nt, limiter, applicable => by
    unfold currentTxsLoop
    cases GetAuthenticatedSender tx with
    | error _ => exact currentTxsLoop_ok hrlp rest nt limiter applicable
    | ok sender =>
      simp only
      split_ifs
      · exact currentTxsLoop_ok hrlp rest _ limiter applicable
      · obtain ⟨n, hsize⟩ := hrlp tx
        cases haccept : AcceptTransaction getRlpSize tx limiter with
        | error e =>
          cases e with
          | ErrInsufficientSpace => exact ⟨applicable, rfl⟩
          | rlp err => exact absurd haccept (AcceptTransaction_ne_rlp getRlpSize hsize limiter err)
        | ok limiter' => exact currentTxsLoop_ok hrlp rest _ limiter' _

/-- `CurrentTxs` returns a selection whenever every transaction encodes. -/
theorem CurrentTxs_ok (hrlp : ∀ tx, ∃ n, getRlpSize tx = .ok n) (sortByNonce : SortByNonce Nonce)
    (db : mempoolManager Tx) (limiter : BatchSizeLimiter) :
    ∃ selected, CurrentTxs Nonce GetAuthenticatedSender getRlpSize stateNonce sortByNonce db
      limiter = .ok selected :=
  currentTxsLoop_ok Nonce GetAuthenticatedSender getRlpSize stateNonce hrlp _ _ _ _

/-- Nonces that run without a gap repeat none. -/
theorem length_filter_nonce_le_one {txs : List Tx} {s : Nat}
    (hruns : txs.map (fun tx => (Nonce tx).toNat) = List.range' s txs.length) (nonce : UInt64) :
    (txs.filter fun tx => Nonce tx = nonce).length ≤ 1 := by
  have hnodup : (txs.map Nonce).Nodup := by
    have hnat : ((txs.map Nonce).map UInt64.toNat).Nodup := by
      rw [List.map_map]
      exact hruns ▸ List.nodup_range'
    exact hnat.of_map _
  have hcount := List.nodup_iff_count_le_one.mp hnodup nonce
  rw [List.count_eq_countP, List.countP_map, List.countP_eq_length_filter] at hcount
  have hpred : ((· == nonce) ∘ Nonce) = fun tx => decide (Nonce tx = nonce) := by
    funext tx
    exact beq_eq_decide (Nonce tx) nonce
  rwa [hpred] at hcount

/-- **The selection.** For every mempool, every state, every sort by nonce and every size limit
`L`, the transactions `CurrentTxs` selects are drawn from the mempool, all validly signed;
each sender's run from the state's nonce on, without a gap, in order, with at most one
transaction per sender and nonce; and their RLP encodings take at most `L` bytes. -/
theorem CurrentTxs_spec (sortByNonce : SortByNonce Nonce) (db : mempoolManager Tx) (L : Nat)
    {selected : List Tx}
    (h : CurrentTxs Nonce GetAuthenticatedSender getRlpSize stateNonce sortByNonce db
      (.batchSizeLimiter L) = .ok selected) :
    selected.Subperm (FetchMempoolTxs db) ∧
      (∀ tx ∈ selected, ∃ sender, GetAuthenticatedSender tx = .ok sender) ∧
      (∀ sender, (signedBy GetAuthenticatedSender selected sender).map (fun tx => (Nonce tx).toNat) =
        List.range' (stateNonce sender).toNat (signedBy GetAuthenticatedSender selected sender).length) ∧
      (∀ sender nonce,
        ((signedBy GetAuthenticatedSender selected sender).filter fun tx => Nonce tx = nonce).length ≤ 1) ∧
      ∃ sizes : List Nat, selected.map getRlpSize = sizes.map .ok ∧ sizes.sum ≤ L := by
  obtain ⟨⟨nt, limiter, hsel, hsized⟩, sel, hsel_eq, hsub⟩ :=
    currentTxsLoop_spec Nonce GetAuthenticatedSender getRlpSize stateNonce
      (sortByNonce.sorted _) (selected_init Nonce GetAuthenticatedSender stateNonce _)
      (sizedWithin_init getRlpSize _) h
  rw [List.nil_append] at hsel_eq
  subst hsel_eq
  -- the limiter is still a size limiter, with what is left of `L`
  have hfits : ∃ sizes : List Nat, selected.map getRlpSize = sizes.map .ok ∧ sizes.sum ≤ L := by
    cases limiter with
    | unlimitedBatchSize => exact hsized.elim
    | batchSizeLimiter remainingSize =>
      obtain ⟨sizes, hmap, hsum⟩ := hsized
      exact ⟨sizes, hmap, by omega⟩
  exact ⟨hsub.subperm.trans (sortByNonce.perm _).subperm, hsel.signed, hsel.runs,
    fun sender nonce => length_filter_nonce_le_one Nonce (hsel.runs sender) nonce, hfits⟩

/-- Every transaction `CurrentTxs` selects has a sender that recovers. -/
theorem CurrentTxs_signed (sortByNonce : SortByNonce Nonce) {db : mempoolManager Tx}
    {limiter : BatchSizeLimiter} {selected : List Tx}
    (h : CurrentTxs Nonce GetAuthenticatedSender getRlpSize stateNonce sortByNonce db limiter =
      .ok selected) :
    ∀ tx ∈ selected, ∃ sender, GetAuthenticatedSender tx = .ok sender := by
  obtain ⟨⟨nt, limiter', hsel, -⟩, -⟩ :=
    currentTxsLoop_spec Nonce GetAuthenticatedSender getRlpSize stateNonce
      (sortByNonce.sorted _) (selected_init Nonce GetAuthenticatedSender stateNonce _)
      (sizedWithin_init getRlpSize limiter) h
  exact hsel.signed

end Walk

/-- Insertion sort by nonce, which keeps equal nonces in their order: one of the orderings
`sort.Sort` may give. -/
def insertionSortByNonce (Nonce : Tx → UInt64) : SortByNonce Nonce where
  sort := List.insertionSort fun a b => Nonce a ≤ Nonce b
  perm := List.perm_insertionSort _
  sorted txes := by
    have : Std.Total fun a b : Tx => Nonce a ≤ Nonce b := ⟨fun a b => by
      rw [UInt64.le_iff_toNat_le, UInt64.le_iff_toNat_le]
      omega⟩
    have : IsTrans Tx fun a b => Nonce a ≤ Nonce b := ⟨fun a b c hab hbc => by
      rw [UInt64.le_iff_toNat_le] at hab hbc ⊢
      omega⟩
    exact List.pairwise_insertionSort _ txes

/-! ## Two senders, a repeated nonce

A transaction is its sender and nonce; every signature is valid, every encoding takes 100
bytes, and every account's nonce in the state is zero. -/

def cxA : Address := 0xA#160
def cxB : Address := 0xB#160

def cxMempool : mempoolManager (Address × UInt64) :=
  ⟨[(1, (cxA, 1)), (2, (cxA, 0)), (3, (cxB, 0)), (4, (cxA, 0))]⟩

/-- `A`'s second transaction at nonce 0 is left out, and the rest fits 1000 bytes. -/
theorem CurrentTxs_spec_repeatedNonce :
    CurrentTxs Prod.snd (fun tx => .ok tx.1) (fun _ => .ok 100) (fun _ => 0)
        (insertionSortByNonce Prod.snd) cxMempool (.batchSizeLimiter 1000) =
        .ok [(cxA, 0), (cxB, 0), (cxA, 1)] ∧
      [(cxA, 0), (cxB, 0), (cxA, 1)].Subperm (FetchMempoolTxs cxMempool) := by
  have hrun : CurrentTxs Prod.snd (fun tx => .ok tx.1) (fun _ => .ok 100) (fun _ => 0)
      (insertionSortByNonce Prod.snd) cxMempool (.batchSizeLimiter 1000) =
      .ok [(cxA, 0), (cxB, 0), (cxA, 1)] := by
    decide +kernel
  exact ⟨hrun, (CurrentTxs_spec Prod.snd (fun tx => .ok tx.1) (fun _ => .ok 100) (fun _ => 0)
    (insertionSortByNonce Prod.snd) cxMempool 1000 hrun).1⟩

end Obscuro.Mempool
