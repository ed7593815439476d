import Obscuro.Enclave.Events

/-!
# Storing a produced batch

`sequencer.StoreExecutedBatch` of `go/enclave/nodetype/sequencer.go`, as `produceBatch` calls
it on every batch the sequencer computes, with `storageImpl.StoreBatch` and
`storageImpl.StoreExecutedBatch` of `go/enclave/storage/storage.go` and the queries of
`go/enclave/storage/enclavedb/batch.go` and `events.go` they run.

The storage is the `batch`, `exec_tx` and `events` tables. `StoreBatch` and
`StoreExecutedBatch` each write through their own `DBTransaction`, which commits all its
statements or none; a statement that breaks a constraint of the schema (`init/sqlite/001_init.sql`)
fails the whole transaction. The sequencer's call runs the two one after the other, so the
second can fail after the first has committed.

The state a batch executes on and the test of whether its L1 proof block is canonical are
parameters: `stateAt` opens the state of a root (`state.New`), `isCanon` reads the `block`
table.

Main results:

* `StoreBatch_eq_ok` — a batch with a new hash and a new sequence number is inserted;
* `StoreExecutedBatch_anonymousLog` — above height 1, a receipt with a log that has no topic
  makes `StoreExecutedBatch` fail: `topic0` is `NOT NULL`;
* `sequencerStoreExecutedBatch_halfStored` — when that happens the sequencer's call fails
  with the batch already stored, so `FetchBatchBySeqNo` and `FetchCurrentSequencerNo` return
  it.
-/

namespace Obscuro.BatchStorage

open Events

variable {Tx : Type}

/-- A row of the `batch` table, with the batch it was written from. -/
structure BatchRow (Tx : Type) where
  hash : L2BatchHash
  sequence : UInt64
  height : UInt64
  isCanonical : Bool
  batch : Batch Tx
  isExecuted : Bool

/-- A row of the `exec_tx` table: the executed transaction `(batch, tx)` and its receipt. -/
structure ExecTxRow where
  batch : L2BatchHash
  tx : TxHash
  receipt : Receipt

/-- The enclave's batch storage: the `batch`, `exec_tx` and `events` tables. -/
structure Storage (Tx : Type) where
  batches : List (BatchRow Tx)
  execTxs : List ExecTxRow
  events : List EventRow

/-! ## Reads -/

/-- `ReadBatchBySeqNo(db, seqNo)`: `where sequence=?`. -/
def FetchBatchBySeqNo (st : Storage Tx) (seqNo : UInt64) : Except String (Batch Tx) :=
  match st.batches.find? (·.sequence = seqNo) with
  | some r => .ok r.batch
  | none => .error ErrNotFound

/-- `ReadBatchByHash(db, hash)`: `where b.hash=?`; `FetchBatchHeader` returns its header. -/
def FetchBatch (st : Storage Tx) (hash : L2BatchHash) : Except String (Batch Tx) :=
  match st.batches.find? (·.hash = hash) with
  | some r => .ok r.batch
  | none => .error ErrNotFound

/-- `ReadCurrentSequencerNo(db)`: `select max(sequence) from batch`, not found when the table
is empty. -/
def FetchCurrentSequencerNo (st : Storage Tx) : Except String Nat :=
  match (st.batches.map (·.sequence.toNat)).max? with
  | some seq => .ok seq
  | none => .error ErrNotFound

/-- `BatchWasExecuted(db, hash)`: `select is_executed from batch where is_canonical=true and
hash=?`, false when there is no such row. -/
def BatchWasExecuted (st : Storage Tx) (hash : L2BatchHash) : Bool :=
  match st.batches.find? (fun r => r.isCanonical && r.hash == hash) with
  | some r => r.isExecuted
  | none => false

/-! ## The two transactions -/

/-- `WriteBatchAndTransactions(dbtx, batch)` then `dbtx.Write()`: the insert of the batch row,
not executed, canonical when its L1 proof block is. `hash` and `sequence` are unique. -/
def WriteBatchAndTransactions (rlpHash : BatchHeader → Hash) (isCanon : L1BlockHash → Bool)
    (st : Storage Tx) (batch : Batch Tx) : Except String (Storage Tx) :=
  if st.batches.any (·.hash = batch.Hash rlpHash) then
    .error "UNIQUE constraint failed: batch.hash"
  else if st.batches.any (·.sequence = UInt64.ofNat batch.Header.SequencerOrderNo) then
    .error "UNIQUE constraint failed: batch.sequence"
  else
    .ok { st with
      batches := st.batches ++ [⟨batch.Hash rlpHash, UInt64.ofNat batch.Header.SequencerOrderNo,
        UInt64.ofNat batch.Header.Number, isCanon batch.Header.L1Proof, batch, false⟩] }

/-- `storageImpl.StoreBatch(batch)`: stop on a different batch of the same sequence number
(`logger.Crit`), accept the same batch again, and otherwise write it in one transaction. -/
def StoreBatch (rlpHash : BatchHeader → Hash) (isCanon : L1BlockHash → Bool) (st : Storage Tx)
    (batch : Batch Tx) : Except String (Storage Tx) :=
  match FetchBatchBySeqNo st (UInt64.ofNat batch.Header.SequencerOrderNo) with
  | .ok existing =>
    if existing.Hash rlpHash ≠ batch.Hash rlpHash then
      .error ("Conflicting batches for the same sequence " ++
        toString batch.Header.SequencerOrderNo ++ ": (previous) " ++
        (existing.Hash rlpHash).Hex ++ " != (incoming) " ++ (batch.Hash rlpHash).Hex)
    else .ok st
  | .error _ =>
    (WriteBatchAndTransactions rlpHash isCanon st batch).mapError fun err =>
      "could not commit batch " ++ err

/-- The statements of `WriteBatchExecution(dbtx, hash, receipts)` applied at `Write`: mark the
batch executed and insert one `exec_tx` row per receipt, keyed by its batch and transaction
hashes. -/
def writeBatchExecution (hash : L2BatchHash) (receipts : List Receipt) (st : Storage Tx) :
    Except String (Storage Tx) :=
  let rows : List ExecTxRow := receipts.map fun r => ⟨r.BlockHash, r.TxHash, r⟩
  if (st.execTxs ++ rows).map (fun r => (r.batch, r.tx)) |>.Nodup then
    .ok { st with
      batches := st.batches.map fun r => if r.hash = hash then { r with isExecuted := true } else r
      execTxs := st.execTxs ++ rows }
  else .error "UNIQUE constraint failed: exec_tx.id"

/-- The `insert into events` of `StoreEventLogs` applied at `Write`: every row needs a
`topic0`. -/
def insertEvents (rows : List EventRow) (st : Storage Tx) : Except String (Storage Tx) :=
  if rows.all (·.Topics ≠ []) then .ok { st with events := st.events ++ rows }
  else .error "NOT NULL constraint failed: events.topic0"

/-- `CreateStateDB(hash)`: the state of the batch `hash`, read from the committed table. -/
def CreateStateDB (stateAt : Hash → Except String StateDB) (st : Storage Tx)
    (hash : L2BatchHash) : Except String StateDB := do
  let batch ← FetchBatch st hash
  stateAt batch.Header.Root

/-- `storageImpl.StoreExecutedBatch(batch, receipts)`: unless the batch is already executed,
one transaction that marks it executed, stores its receipts and, above height 1, the event
logs of its receipts, read against the state of its parent. The rows of the logs are
computed against the committed `events` table; the statements run at `Write`, all or none. -/
def StoreExecutedBatch (rlpHash : BatchHeader → Hash) (stateAt : Hash → Except String StateDB)
    (st : Storage Tx) (batch : Batch Tx) (receipts : List Receipt) :
    Except String (Storage Tx) :=
  if BatchWasExecuted st (batch.Hash rlpHash) then .ok st
  else do
    let stateDB ← if 1 < Go.bigInt64 batch.Header.Number then
        some <$> (CreateStateDB stateAt st batch.Header.ParentHash).mapError fun err =>
          "could not create state DB to filter logs. Cause: " ++ err
      else pure none
    (do
      let tx ← writeBatchExecution (batch.Hash rlpHash) receipts st
      match stateDB with
      | some stateDB => insertEvents ((StoreEventLogs st.events receipts stateDB).drop
          st.events.length) tx
      | none => pure tx).mapError fun err => "could not commit batch " ++ err

/-- `sequencer.StoreExecutedBatch(batch, receipts)`: skip a batch whose header is stored,
otherwise store it, then store its execution. The two writes commit separately: the outcome,
and the storage after it. -/
def sequencerStoreExecutedBatch (rlpHash : BatchHeader → Hash) (isCanon : L1BlockHash → Bool)
    (stateAt : Hash → Except String StateDB) (st : Storage Tx) (batch : Batch Tx)
    (receipts : List Receipt) : Except String Unit × Storage Tx :=
  match FetchBatch st (batch.Hash rlpHash) with
  | .ok _ => (.ok (), st)
  | .error _ =>
    match StoreBatch rlpHash isCanon st batch with
    | .error err => (.error ("failed to store batch. Cause: " ++ err), st)
    | .ok st₁ =>
      match StoreExecutedBatch rlpHash stateAt st₁ batch receipts with
      | .error err => (.error ("failed to store batch. Cause: " ++ err), st₁)
      | .ok st₂ => (.ok (), st₂)

/-! ## The batch row -/

section Rows

variable {rlpHash : BatchHeader → Hash} {isCanon : L1BlockHash → Bool}

/-- The row `StoreBatch` writes for a batch. -/
def newRow (rlpHash : BatchHeader → Hash) (isCanon : L1BlockHash → Bool) (batch : Batch Tx) :
    BatchRow Tx :=
  ⟨batch.Hash rlpHash, UInt64.ofNat batch.Header.SequencerOrderNo,
    UInt64.ofNat batch.Header.Number, isCanon batch.Header.L1Proof, batch, false⟩

theorem find?_append_of_not_any {rows : List (BatchRow Tx)} {p : BatchRow Tx → Bool}
    (row : BatchRow Tx) (h : rows.any p = false) :
    (rows ++ [row]).find? p = if p row then some row else none := by
  rw [List.find?_append, List.find?_eq_none.mpr (List.any_eq_false.mp h), Option.none_or,
    List.find?_singleton]

theorem find?_append_of_some {rows : List (BatchRow Tx)} {p : BatchRow Tx → Bool}
    {r : BatchRow Tx} (row : BatchRow Tx) (h : rows.find? p = some r) :
    (rows ++ [row]).find? p = some r := by
  rw [List.find?_append, h, Option.some_or]

/-- **A new batch is inserted.** With no row of its hash or of its sequence number,
`StoreBatch` appends the batch's row. -/
theorem StoreBatch_eq_ok {st : Storage Tx} {batch : Batch Tx}
    (hhash : st.batches.any (·.hash = batch.Hash rlpHash) = false)
    (hseq : st.batches.any (·.sequence = UInt64.ofNat batch.Header.SequencerOrderNo) = false) :
    StoreBatch rlpHash isCanon st batch =
      .ok { st with batches := st.batches ++ [newRow rlpHash isCanon batch] } := by
  have hfetch : FetchBatchBySeqNo st (UInt64.ofNat batch.Header.SequencerOrderNo) =
      .error ErrNotFound := by
    unfold FetchBatchBySeqNo
    rw [List.find?_eq_none.mpr (List.any_eq_false.mp hseq)]
  rw [StoreBatch, hfetch]
  simp only [WriteBatchAndTransactions, hhash, hseq, Bool.false_eq_true, if_false,
    Except.mapError_ok']
  rfl

/-- After the insert, the batch is what its sequence number fetches. -/
theorem FetchBatchBySeqNo_newRow {st : Storage Tx} {batch : Batch Tx}
    (hseq : st.batches.any (·.sequence = UInt64.ofNat batch.Header.SequencerOrderNo) = false) :
    FetchBatchBySeqNo { st with batches := st.batches ++ [newRow rlpHash isCanon batch] }
      (UInt64.ofNat batch.Header.SequencerOrderNo) = .ok batch := by
  unfold FetchBatchBySeqNo
  rw [find?_append_of_not_any _ hseq]
  simp [newRow]

/-- After the insert, the greatest sequence number is at least the batch's. -/
theorem FetchCurrentSequencerNo_newRow (st : Storage Tx) (batch : Batch Tx) :
    ∃ n, FetchCurrentSequencerNo { st with batches := st.batches ++ [newRow rlpHash isCanon batch] }
      = .ok n ∧ (UInt64.ofNat batch.Header.SequencerOrderNo).toNat ≤ n := by
  unfold FetchCurrentSequencerNo
  have hmem : (UInt64.ofNat batch.Header.SequencerOrderNo).toNat ∈
      (st.batches ++ [newRow rlpHash isCanon batch]).map (·.sequence.toNat) := by
    simp [newRow]
  cases hmax : ((st.batches ++ [newRow rlpHash isCanon batch]).map (·.sequence.toNat)).max? with
  | none =>
    rw [List.max?_eq_none_iff] at hmax
    rw [hmax] at hmem
    cases hmem
  | some n => exact ⟨n, rfl, (List.max?_eq_some_iff.mp hmax).2 _ hmem⟩

/-- A batch just inserted is not executed. -/
theorem BatchWasExecuted_newRow {st : Storage Tx} {batch : Batch Tx}
    (hhash : st.batches.any (·.hash = batch.Hash rlpHash) = false) :
    BatchWasExecuted { st with batches := st.batches ++ [newRow rlpHash isCanon batch] }
      (batch.Hash rlpHash) = false := by
  have hnone : st.batches.any (fun r => r.isCanonical && r.hash == batch.Hash rlpHash) = false := by
    rw [List.any_eq_false] at hhash ⊢
    intro r hr h
    have hr' : r.hash = batch.Hash rlpHash := beq_iff_eq.mp (Bool.and_eq_true _ _ ▸ h).2
    exact hhash r hr (decide_eq_true hr')
  unfold BatchWasExecuted
  rw [find?_append_of_not_any _ hnone]
  split_ifs <;> rfl

/-- The insert keeps the parent the batch executes on. -/
theorem CreateStateDB_newRow {stateAt : Hash → Except String StateDB} {st : Storage Tx}
    {batch : Batch Tx} {hash : L2BatchHash} {stateDB : StateDB}
    (h : CreateStateDB stateAt st hash = .ok stateDB) :
    CreateStateDB stateAt { st with batches := st.batches ++ [newRow rlpHash isCanon batch] } hash
      = .ok stateDB := by
  unfold CreateStateDB FetchBatch at h ⊢
  split at h
  · rename_i r hr
    rw [find?_append_of_some _ hr]
    exact h
  · cases h

end Rows

/-! ## A log without topics -/

/-- A log without topics gives a row without `topic0`. -/
theorem writeLog_topics_nil {events : List EventRow} {l : Log} {receipt : Receipt}
    {stateDB : StateDB} (hl : l.Topics = []) : (writeLog events l receipt stateDB).Topics = [] := by
  simp [writeLog, hl]

/-- **The events insert fails on an anonymous log.** Above height 1, when the parent's state
opens and some receipt has a log with no topics, `StoreExecutedBatch` of a batch not yet
executed fails. -/
theorem StoreExecutedBatch_anonymousLog {rlpHash : BatchHeader → Hash}
    {stateAt : Hash → Except String StateDB} {st : Storage Tx} {batch : Batch Tx}
    {receipts : List Receipt} {stateDB : StateDB}
    (hnew : BatchWasExecuted st (batch.Hash rlpHash) = false)
    (hheight : 1 < Go.bigInt64 batch.Header.Number)
    (hparent : CreateStateDB stateAt st batch.Header.ParentHash = .ok stateDB)
    (hanon : ∃ receipt ∈ receipts, ∃ l ∈ receipt.Logs, l.Topics = []) :
    ∃ err, StoreExecutedBatch rlpHash stateAt st batch receipts = .error err := by
  obtain ⟨receipt, hreceipt, l, hl, htopics⟩ := hanon
  -- the row of the anonymous log is among those inserted
  have hrows : ((StoreEventLogs st.events receipts stateDB).drop st.events.length).all
      (·.Topics ≠ []) = false := by
    rw [List.all_eq_false]
    refine ⟨writeLog st.events l receipt stateDB, ?_, by simp [writeLog_topics_nil htopics]⟩
    simp only [StoreEventLogs, List.drop_left']
    exact List.mem_flatMap.mpr ⟨receipt, hreceipt, List.mem_map_of_mem hl⟩
  simp only [StoreExecutedBatch, hnew, Bool.false_eq_true, if_false, hheight, if_true,
    hparent, Except.mapError_ok', Except.map_ok', Except.ok_bind']
  cases hexec : writeBatchExecution (batch.Hash rlpHash) receipts st with
  | error err => exact ⟨_, rfl⟩
  | ok tx =>
    simp only [Except.ok_bind', insertEvents, hrows, Bool.false_eq_true, if_false]
    exact ⟨_, rfl⟩

/-- **A failed execution store leaves the batch stored.** For a new batch above height 1
whose parent's state opens, a receipt with a log without topics makes the sequencer's call
fail after `StoreBatch` has committed: the batch is now what its sequence number fetches,
and the greatest stored sequence number has reached it. -/
theorem sequencerStoreExecutedBatch_halfStored (rlpHash : BatchHeader → Hash)
    (isCanon : L1BlockHash → Bool) (stateAt : Hash → Except String StateDB) (st : Storage Tx)
    (batch : Batch Tx) (receipts : List Receipt) (stateDB : StateDB)
    (hhash : st.batches.any (·.hash = batch.Hash rlpHash) = false)
    (hseq : st.batches.any (·.sequence = UInt64.ofNat batch.Header.SequencerOrderNo) = false)
    (hheight : 1 < Go.bigInt64 batch.Header.Number)
    (hparent : CreateStateDB stateAt st batch.Header.ParentHash = .ok stateDB)
    (hanon : ∃ receipt ∈ receipts, ∃ l ∈ receipt.Logs, l.Topics = []) :
    (∃ err, (sequencerStoreExecutedBatch rlpHash isCanon stateAt st batch receipts).1 =
      .error err) ∧
    FetchBatchBySeqNo st (UInt64.ofNat batch.Header.SequencerOrderNo) = .error ErrNotFound ∧
    FetchBatchBySeqNo (sequencerStoreExecutedBatch rlpHash isCanon stateAt st batch receipts).2
      (UInt64.ofNat batch.Header.SequencerOrderNo) = .ok batch ∧
    ∃ n, FetchCurrentSequencerNo
        (sequencerStoreExecutedBatch rlpHash isCanon stateAt st batch receipts).2 = .ok n ∧
      (UInt64.ofNat batch.Header.SequencerOrderNo).toNat ≤ n := by
  have hnotStored : FetchBatch st (batch.Hash rlpHash) = .error ErrNotFound := by
    unfold FetchBatch
    rw [List.find?_eq_none.mpr (List.any_eq_false.mp hhash)]
  have hbefore : FetchBatchBySeqNo st (UInt64.ofNat batch.Header.SequencerOrderNo) =
      .error ErrNotFound := by
    unfold FetchBatchBySeqNo
    rw [List.find?_eq_none.mpr (List.any_eq_false.mp hseq)]
  obtain ⟨err, hexec⟩ := StoreExecutedBatch_anonymousLog
    (@BatchWasExecuted_newRow Tx rlpHash isCanon st batch hhash) hheight
    (@CreateStateDB_newRow Tx rlpHash isCanon stateAt st batch _ stateDB hparent) hanon
  -- the first transaction commits, the second fails: the storage is the first one's
  have hrun : sequencerStoreExecutedBatch rlpHash isCanon stateAt st batch receipts =
      (.error ("failed to store batch. Cause: " ++ err),
        { st with batches := st.batches ++ [newRow rlpHash isCanon batch] }) := by
    rw [sequencerStoreExecutedBatch, hnotStored]
    simp only [StoreBatch_eq_ok hhash hseq, hexec]
  rw [hrun]
  exact ⟨⟨_, rfl⟩, hbefore, FetchBatchBySeqNo_newRow hseq, FetchCurrentSequencerNo_newRow st batch⟩

/-- A batch of height `number` and sequence number `seqNo` on the parent `parent`, with the
other fields zero; its stand-in hash is its sequence number. -/
def cxStoreHeader (number seqNo : Nat) (parent : L2BatchHash) : BatchHeader :=
  { ParentHash := parent, Root := 0, TxHash := 0, ReceiptHash := 0, Number := number,
    SequencerOrderNo := seqNo, GasLimit := 0, GasUsed := 0, Time := 0, Extra := [],
    BaseFee := none, L1Proof := 0, R := none, S := none, CrossChainMessages := [],
    LatestInboundCrossChainHash := 0, LatestInboundCrossChainHeight := none }

def cxStoreHash (h : BatchHeader) : Hash := BitVec.ofNat 256 h.SequencerOrderNo
def cxStoreParent : Batch Unit := ⟨cxStoreHeader 1 1 0, []⟩
def cxStoreBatch : Batch Unit := ⟨cxStoreHeader 2 2 1, [()]⟩
def cxStoreState (_ : Hash) : Except String StateDB := .ok ⟨fun _ => 0, fun _ => []⟩

/-- The storage with the executed batch 1, and a receipt of batch 2 whose one log has no
topic. -/
def cxStorage : Storage Unit := ⟨[⟨1, 1, 1, true, cxStoreParent, true⟩], [], []⟩
def cxAnonymousReceipt : Receipt := ⟨1, [⟨0, [], [], 2, 0, 2, 0⟩], 0, 2, 2, 0⟩

theorem sequencerStoreExecutedBatch_halfStored_anonymous :
    (∃ err, (sequencerStoreExecutedBatch cxStoreHash (fun _ => true) cxStoreState cxStorage
      cxStoreBatch [cxAnonymousReceipt]).1 = .error err) ∧
    FetchBatchBySeqNo cxStorage 2 = .error ErrNotFound ∧
    FetchBatchBySeqNo (sequencerStoreExecutedBatch cxStoreHash (fun _ => true) cxStoreState
      cxStorage cxStoreBatch [cxAnonymousReceipt]).2 2 = .ok cxStoreBatch ∧
    ∃ n, FetchCurrentSequencerNo (sequencerStoreExecutedBatch cxStoreHash (fun _ => true)
        cxStoreState cxStorage cxStoreBatch [cxAnonymousReceipt]).2 = .ok n ∧
      (UInt64.ofNat 2).toNat ≤ n :=
  sequencerStoreExecutedBatch_halfStored cxStoreHash (fun _ => true) cxStoreState cxStorage
    cxStoreBatch [cxAnonymousReceipt] _ (by decide) (by decide) (by decide) rfl
    ⟨cxAnonymousReceipt, List.mem_singleton_self _, _, List.mem_singleton_self _, rfl⟩

end Obscuro.BatchStorage
