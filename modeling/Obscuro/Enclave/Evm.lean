import Obscuro.Common.Types
import Obscuro.Lib.GoInt

/-!
# Executing a batch's transactions

`go/enclave/evm/evm_facade.go` (`ExecuteTransactions`, `executeTransaction`), the randomness
of `go/enclave/crypto/crypto.go` and `gethencoding.CreateEthHeaderForBatch`.

go-ethereum is a parameter, `Geth`. Its `ApplyTransaction` is any function of the state, the
header (with its `MixDigest`), the transaction and the transaction's index, which
`StateDB.SetTxContext` hands it. A rejected transaction is undone with `RevertToSnapshot`,
so it leaves the state as it found it. The gas pool of `initParams` starts at
`math.MaxUint64` and is not modelled.

Each transaction runs with index `fromTxIndex + i`, where `i` is its position in the list
given to `ExecuteTransactions`. Its `MixDigest` is the hash of the batch's root entropy and
that index. The results go into a map keyed by transaction hash.

Main results:

* `executeTransaction_state_of_error` — a rejected transaction leaves the state unchanged;
* `executeLoop_append` — the loop runs a list in two halves, the second starting at the index
  the first ends at;
* `executeLoop_state_of_errors` — a run of transactions that are all rejected changes the
  state not at all.
-/

namespace Obscuro.Evm

/-- `intToBytes(val)`: `int64(val)` written little-endian, eight bytes. -/
def intToBytes (val : Nat) : Bytes :=
  (List.range 8).map fun k => UInt8.ofNat (val / 256 ^ k)

/-- `CalculateRootBatchEntropy(rootEntropy, batchHeight)`: the root of a batch's randomness,
from the shared secret and the batch height. -/
def CalculateRootBatchEntropy (keccak : Bytes → Hash) (rootEntropy : Bytes)
    (batchHeight : Nat) : Hash :=
  keccak (rootEntropy ++ Go.bigBytes batchHeight)

/-- `CalculateTxRnd(rootBatchEntropy, tCount)`: the randomness of the transaction with index
`tCount`. -/
def CalculateTxRnd (keccak : Bytes → Hash) (rootBatchEntropy : Bytes) (tCount : Nat) : Hash :=
  keccak (rootBatchEntropy ++ intToBytes tCount)

/-- `types.Header`, as `CreateEthHeaderForBatch` fills it. -/
structure EthHeader where
  ParentHash : Hash
  Root : Hash
  TxHash : Hash
  ReceiptHash : Hash
  Difficulty : Nat
  Number : Nat
  GasLimit : UInt64
  GasUsed : UInt64
  BaseFee : Nat
  Time : UInt64
  MixDigest : Hash
  deriving DecidableEq, Repr

/-- `gethencoding.CreateEthHeaderForBatch(h, secret)`: the header the EVM sees, its
`MixDigest` the batch's root entropy. -/
def CreateEthHeaderForBatch (keccak : Bytes → Hash) (h : BatchHeader) (secret : Bytes) :
    EthHeader :=
  { ParentHash := h.ParentHash
    Root := h.Root
    TxHash := h.TxHash
    ReceiptHash := h.ReceiptHash
    Difficulty := 0
    Number := h.Number
    GasLimit := 1000000000
    GasUsed := 0
    BaseFee := 0
    Time := h.Time
    MixDigest := CalculateRootBatchEntropy keccak secret h.Number }

/-- What the enclave calls of go-ethereum to execute transactions.
`ApplyTransaction s h t i` is `gethcore.ApplyTransaction` on state `s` and header `h`, after
`SetTxContext` gave the state the index `i`: the receipt and the next state, or the error
that rejects `t`. `RlpHash` is keccak of the RLP encoding of a batch header. -/
structure Geth (σ Tx : Type) where
  Keccak256 : Bytes → Hash
  RlpHash : BatchHeader → Hash
  TxHash : Tx → TxHash
  Sender : Tx → Except String Address
  ApplyTransaction : σ → EthHeader → Tx → Nat → Except String (Receipt × σ)
  GetLogs : σ → Hash → Nat → L2BatchHash → List Log
  Finalise : σ → σ

variable {σ Tx : Type} (g : Geth σ Tx)

/-- `executeTransaction`: the result for `t` at index `tCount`, and the state after it. The
header's `MixDigest` is replaced by the transaction's randomness for the call and restored
after it, so the caller's header is unchanged. -/
def executeTransaction (s : σ) (header : EthHeader) (t : Tx) (tCount : Nat)
    (batchHash : L2BatchHash) (batchHeight : Nat) : Except String Receipt × σ :=
  match g.Sender t with
  | .error e => (.error e, s)
  | .ok _ =>
    let before := header.MixDigest
    match g.ApplyTransaction s
        { header with MixDigest := CalculateTxRnd g.Keccak256 before.Bytes tCount } t tCount with
    -- `RevertToSnapshot(snap)`
    | .error e => (.error e, s)
    | .ok (receipt, s') =>
      -- the receipt and its logs point at the batch being built
      (.ok { receipt with
        Logs := (g.GetLogs s' (g.TxHash t) batchHeight batchHash).map
          fun l => { l with BlockHash := batchHash }
        BlockHash := batchHash
        BlockNumber := batchHeight }, s')

/-- `map[common.TxHash]interface{}`: a receipt or an error per transaction hash. -/
abbrev TxResults := TxHash → Option (Except String Receipt)

/-- The loop of `ExecuteTransactions`, from index `tCount` on. A later transaction with the
same hash overwrites an earlier one's entry. -/
def executeLoop (ethHeader : EthHeader) (hash : L2BatchHash) (height : Nat) :
    Nat → List Tx → σ → TxResults → TxResults × σ
  | _, [], s, result => (result, s)
  | tCount, t :: txs, s, result =>
    let (r, s') := executeTransaction g s ethHeader t tCount hash height
    executeLoop ethHeader hash height (tCount + 1) txs s' (Function.update result (g.TxHash t) (some r))

/-- `ExecuteTransactions(txs, s, header, storage, chainConfig, fromTxIndex, logger)`: the
result map and the state after `s.Finalise(true)`. -/
def ExecuteTransactions (txs : List Tx) (s : σ) (header : BatchHeader) (secret : Bytes)
    (fromTxIndex : Nat) : TxResults × σ :=
  let ethHeader := CreateEthHeaderForBatch g.Keccak256 header secret
  let (result, s') :=
    executeLoop g ethHeader (header.Hash g.RlpHash) header.Number fromTxIndex txs s fun _ => none
  (result, g.Finalise s')

/-! ## One transaction, and runs of them -/

variable {g}

/-- A rejected transaction leaves the state as it found it. -/
theorem executeTransaction_state_of_error {s : σ} {header : EthHeader} {t : Tx}
    {tCount : Nat} {batchHash : L2BatchHash} {batchHeight : Nat} {e : String}
    (h : (executeTransaction g s header t tCount batchHash batchHeight).1 = .error e) :
    (executeTransaction g s header t tCount batchHash batchHeight).2 = s := by
  revert h
  unfold executeTransaction
  -- a sender that cannot be recovered, or a rejection by the EVM, both return `s`
  split
  · intro _
    rfl
  · dsimp only
    split
    · intro _
      rfl
    · intro h
      cases h

@[simp] theorem executeLoop_nil (ethHeader : EthHeader) (hash : L2BatchHash) (height tCount : Nat)
    (s : σ) (result : TxResults) :
    executeLoop g ethHeader hash height tCount [] s result = (result, s) := rfl

theorem executeLoop_cons (ethHeader : EthHeader) (hash : L2BatchHash) (height tCount : Nat)
    (t : Tx) (txs : List Tx) (s : σ) (result : TxResults) :
    executeLoop g ethHeader hash height tCount (t :: txs) s result =
      executeLoop g ethHeader hash height (tCount + 1) txs
        (executeTransaction g s ethHeader t tCount hash height).2
        (Function.update result (g.TxHash t)
          (some (executeTransaction g s ethHeader t tCount hash height).1)) := rfl

/-- The loop runs a list in two halves; the second half's indexes continue the first's. -/
theorem executeLoop_append (ethHeader : EthHeader) (hash : L2BatchHash) (height : Nat) :
    ∀ (xs ys : List Tx) (tCount : Nat) (s : σ) (result : TxResults),
      executeLoop g ethHeader hash height tCount (xs ++ ys) s result =
        executeLoop g ethHeader hash height (tCount + xs.length) ys
          (executeLoop g ethHeader hash height tCount xs s result).2
          (executeLoop g ethHeader hash height tCount xs s result).1
  | [], ys, tCount, s, result => by simp
  | x :: xs, ys, tCount, s, result => by
    rw [List.cons_append, executeLoop_cons, executeLoop_append _ _ _ xs ys, executeLoop_cons,
      List.length_cons, Nat.add_assoc, Nat.add_comm 1]

/-- The entry of a hash that no transaction of the list has is left alone. -/
theorem executeLoop_result_of_not_mem (ethHeader : EthHeader) (hash : L2BatchHash)
    (height : Nat) (k : TxHash) :
    ∀ (txs : List Tx) (tCount : Nat) (s : σ) (result : TxResults), k ∉ txs.map g.TxHash →
      (executeLoop g ethHeader hash height tCount txs s result).1 k = result k
  | [], _, _, _, _ => rfl
  | t :: txs, tCount, s, result, hk => by
    simp only [List.map_cons, List.mem_cons, not_or] at hk
    rw [executeLoop_cons, executeLoop_result_of_not_mem ethHeader hash height k txs _ _ _ hk.2,
      Function.update_of_ne hk.1]

/-- A run whose transactions all end with an error entry leaves the state as it was: with
distinct hashes each entry is that transaction's own result, and a rejection undoes itself. -/
theorem executeLoop_state_of_errors (ethHeader : EthHeader) (hash : L2BatchHash) (height : Nat) :
    ∀ (txs : List Tx) (tCount : Nat) (s : σ) (result : TxResults), (txs.map g.TxHash).Nodup →
      (∀ t ∈ txs, ∃ e,
        (executeLoop g ethHeader hash height tCount txs s result).1 (g.TxHash t) = some (.error e)) →
      (executeLoop g ethHeader hash height tCount txs s result).2 = s
  | [], _, _, _, _, _ => rfl
  | t :: txs, tCount, s, result, hnodup, herr => by
    rw [List.map_cons, List.nodup_cons] at hnodup
    rw [executeLoop_cons] at herr ⊢
    -- `t`'s entry is its own result, later ones having other hashes: a rejection
    obtain ⟨e, he⟩ := herr t List.mem_cons_self
    rw [executeLoop_result_of_not_mem _ _ _ _ _ _ _ _ hnodup.1, Function.update_self,
      Option.some.injEq] at he
    rw [executeTransaction_state_of_error he]
    rw [executeTransaction_state_of_error he] at herr
    exact executeLoop_state_of_errors ethHeader hash height txs (tCount + 1) s _ hnodup.2
      fun t' ht' => herr t' (List.mem_cons_of_mem _ ht')

end Obscuro.Evm
