import Obscuro.Enclave.BatchExecutor
import Obscuro.Enclave.Mempool
import Obscuro.Enclave.EnclaveDB
import Obscuro.Enclave.Validator

/-!
# The sequencer's batch production

The batch production of `go/enclave/nodetype/sequencer.go`, over the batch table of
`BatchStorage` and the mempool of `Mempool`:

* `CreateBatch` — the genesis batch first (`initGenesis`), then one batch a call on the head
  batch (`createNewHeadBatch`), with the mempool's selection and the next sequence number;
* `produceBatch` — `ComputeBatch` of `BatchExecutor`, the state commit, the signature, and
  `sequencer.StoreExecutedBatch`, which writes the row and its execution in two transactions;
* `OnL1Fork` — on an L1 fork, the batches of the blocks that left the canonical chain are
  produced again, in height order, on the new head's parent (`duplicateBatches`).

Every write commits on its own, so a call that fails keeps the writes before the failure. The
L1 side of the enclave (its block table, the canonical flags of its blocks, its head and its
rollup table) is read through an `L1View` that each call is given, since L1 blocks arrive
between calls.
-/

namespace Obscuro.Sequencer

open BatchStorage BatchExecutor Events CrossChain Mempool Validator

variable {Tx : Type}

/-! ## The model -/

/-- The enclave's L1 side as a call of the sequencer reads it: the block table and the L1
messages (`CrossChain.L1Storage`), whether a block is canonical (the flag a new batch row
takes), the head block (`blockProcessor.GetHead`), and the rollup table's
`FetchReorgedRollup`. -/
structure L1View extends L1Storage where
  isCanon : L1BlockHash → Bool
  GetHead : Except String L1Block
  FetchReorgedRollup : List L1BlockHash → Except String L2BatchHash

/-- `sequencer`, as far as batch production reads it besides its storage and mempool: the
batch executor's go-ethereum (`env`, whose `RlpHash` hashes batch headers), the states of
batch roots, the shared secret, the enclave key's signature, the genesis state and the message
bus deployment, the mempool's transaction order and sizes, and `settings.MaxBatchSize`. -/
structure sequencer (Tx : Type) where
  env : Env StateDB Tx
  stateAt : Hash → Except String StateDB
  Secret : Bytes
  sign : Hash → Except String (Nat × Nat)
  GetGenesisRoot : Except String Hash
  CommitGenesisState : Except String Unit
  GenerateMessageBusDeployTx : Except String Tx
  Nonce : Tx → UInt64
  getRlpSize : Tx → Except String Nat
  sortByNonce : SortByNonce Nonce
  MaxBatchSize : Nat

/-- What the sequencer's calls write: the batch table and the mempool. -/
structure SeqState (Tx : Type) where
  storage : Storage Tx
  mempool : mempoolManager Tx

variable (seq : sequencer Tx)

/-! ### Storage reads -/

/-- `storage.FetchHeadBatch()` / `ReadCurrentHeadBatch`: a canonical executed batch of the
greatest height among them; the single-row query returns the first such row. -/
def FetchHeadBatch (st : Storage Tx) : Except String (Batch Tx) :=
  let heads := st.batches.filter fun r => r.isCanonical && r.isExecuted
  match (heads.map (·.height.toNat)).max? with
  | none => .error ErrNotFound
  | some height =>
    match heads.find? (·.height.toNat = height) with
    | some r => .ok r.batch
    | none => .error ErrNotFound

/-- `storage.FetchBatchesByBlock(block)` / `ReadBatchesByBlock`: `where b.l1_proof=? order by
b.sequence`. `db.Query` reports no rows as an empty list. -/
def FetchBatchesByBlock (st : Storage Tx) (block : L1BlockHash) : List (Batch Tx) :=
  ((st.batches.filter (·.batch.Header.L1Proof = block)).mergeSort
    fun a b => a.sequence ≤ b.sequence).map (·.batch)

/-- `batchRegistry.HasGenesisBatch()`: whether there is a head batch. -/
def HasGenesisBatch (st : Storage Tx) : Except String Bool :=
  match FetchHeadBatch st with
  | .ok _ => .ok true
  | .error err =>
    if err = ErrNotFound then .ok false
    else .error ("could not retrieve current head batch. Cause: " ++ err)

/-- The batch-table statement of `updateCanonicalValue(dbtx, isCanonical, values)`: `update
batch set is_canonical=? where l1_proof in (...)`. -/
def updateCanonicalValue (isCanonical : Bool) (values : List L1BlockHash) (st : Storage Tx) :
    Storage Tx :=
  { st with
    batches := st.batches.map fun r =>
      if values.contains r.batch.Header.L1Proof then { r with isCanonical := isCanonical } else r }

/-- `UpdateCanonicalBlocks(dbtx, canonical, nonCanonical)` on the batch table, as
`storage.StoreBlock` runs it on a fork: first clear, then set. -/
def UpdateCanonicalBlocks (canonical nonCanonical : List L1BlockHash) (st : Storage Tx) :
    Storage Tx :=
  let st := if nonCanonical ≠ [] then updateCanonicalValue false nonCanonical st else st
  if canonical ≠ [] then updateCanonicalValue true canonical st else st

/-- The storage `ComputeBatch` reads: the L1 side, and the batches and their states from the
batch table. -/
def executorStorage (l1 : L1View) (st : Storage Tx) : BatchExecutor.Storage StateDB Tx where
  toL1Storage := l1.toL1Storage
  FetchBatch := FetchBatch st
  CreateStateDB := CreateStateDB seq.stateAt st
  Secret := seq.Secret

/-! ### The genesis batch -/

/-- `batchExecutor.CreateGenesisState(blkHash, timeNow)`: the genesis batch on the prefunded
state, and the message bus deployment. A failed deployment is `logger.Crit`. -/
def CreateGenesisState (blkHash : L1BlockHash) (timeNow : UInt64) :
    Except String (Batch Tx × Tx) := do
  let preFundGenesisState ← seq.GetGenesisRoot
  let genesisBatch : Batch Tx :=
    { Header :=
        { ParentHash := 0
          Root := preFundGenesisState
          TxHash := EmptyRootHash
          ReceiptHash := EmptyRootHash
          Number := 0
          SequencerOrderNo := L2GenesisSeqNo
          GasLimit := 0
          GasUsed := 0
          Time := timeNow
          Extra := []
          BaseFee := none
          L1Proof := blkHash
          R := none
          S := none
          CrossChainMessages := []
          LatestInboundCrossChainHash := 0
          LatestInboundCrossChainHeight := none }
      Transactions := [] }
  let deployTx ← seq.GenerateMessageBusDeployTx.mapError fun _ =>
    "Could not create message bus deployment transaction"
  seq.CommitGenesisState.mapError fun err => "could not apply genesis preallocation. Cause: " ++ err
  pure (genesisBatch, deployTx)

/-- `signBatch(batch)`: the enclave key's signature over the hash, in `R` and `S`. -/
def signBatch (batch : Batch Tx) : Except String (Batch Tx) := do
  let h := batch.Hash seq.env.RlpHash
  let (r, s) ← (seq.sign h).mapError fun err => "could not sign batch. Cause: " ++ err
  pure { batch with Header := { batch.Header with R := some r, S := some s } }

/-- `sequencer.StoreExecutedBatch(batch, receipts)`, over the L1 view's canonical flags. -/
def StoreExecutedBatch (l1 : L1View) (st : Storage Tx) (batch : Batch Tx)
    (receipts : List Receipt) : Except String Unit × Storage Tx :=
  sequencerStoreExecutedBatch seq.env.RlpHash l1.isCanon seq.stateAt st batch receipts

/-- `initGenesis(block)`: create the genesis batch, queue the message bus deployment, sign
the batch and store it. -/
def initGenesis (l1 : L1View) (st : SeqState Tx) (block : L1Block) (timeNow : UInt64) :
    Except String Unit × SeqState Tx :=
  match CreateGenesisState seq block.hash timeNow with
  | .error err => (.error err, st)
  | .ok (batch, msgBusTx) =>
    match AddMempoolTx seq.env.Sender seq.env.TxHash st.mempool msgBusTx with
    | .error err =>
      (.error ("failed to queue message bus creation transaction to genesis. Cause: " ++ err), st)
    | .ok mempool =>
      match signBatch seq batch with
      | .error err => (.error ("failed signing created batch. Cause: " ++ err), { st with mempool })
      | .ok batch =>
        match StoreExecutedBatch seq l1 st.storage batch [] with
        | (.error err, storage) =>
          (.error ("1. failed storing batch. Cause: " ++ err), { storage, mempool })
        | (.ok (), storage) => (.ok (), { storage, mempool })

/-! ### Producing batches -/

/-- `produceBatch(sequencerNo, l1Hash, headBatch, transactions, batchTime)`: compute the batch,
commit its state, sign it and store it with its receipts. -/
def produceBatch (l1 : L1View) (st : Storage Tx) (sequencerNo : Nat) (l1Hash : L1BlockHash)
    (headBatch : L2BatchHash) (transactions : List Tx) (batchTime : UInt64) :
    Except String (Batch Tx) × Storage Tx :=
  match ComputeBatch seq.env (executorStorage seq l1 st)
      ⟨l1Hash, headBatch, transactions, batchTime, sequencerNo⟩ with
  | .error err => (.error ("failed computing batch. Cause: " ++ err), st)
  | .ok cb =>
    match seq.env.Commit cb.State with
    | .error err => (.error ("failed committing batch state. Cause: " ++ err), st)
    | .ok _ =>
      match signBatch seq cb.Batch with
      | .error err => (.error ("failed signing created batch. Cause: " ++ err), st)
      | .ok batch =>
        match StoreExecutedBatch seq l1 st batch cb.Receipts with
        | (.error err, st) => (.error ("2. failed storing batch. Cause: " ++ err), st)
        | (.ok (), st) => (.ok batch, st)

/-- `createNewHeadBatch(l1HeadBlock)`: a batch on the head batch, when the head's L1 block is
an ancestor of the L1 head, with the mempool's selection on the head's state and the next
sequence number; the selected transactions leave the mempool. -/
def createNewHeadBatch (l1 : L1View) (st : SeqState Tx) (l1HeadBlock : L1Block)
    (timeNow : UInt64) : Except String Unit × SeqState Tx :=
  match FetchHeadBatch st.storage with
  | .error err => (.error err, st)
  | .ok headBatch =>
    match l1.FetchBlock headBatch.Header.L1Proof with
    | .error err => (.error err, st)
    | .ok b =>
      if !IsAncestor l1.toL1Storage l1HeadBlock b then
        (.error ("attempted to create batch on top of batch=" ++
          (headBatch.Hash seq.env.RlpHash).Hex ++ ". With l1 head=" ++ l1HeadBlock.hash.Hex), st)
      else
        match CreateStateDB seq.stateAt st.storage (headBatch.Hash seq.env.RlpHash) with
        | .error err =>
          (.error ("unable to create stateDB for selecting transactions. Batch: " ++
            (headBatch.Hash seq.env.RlpHash).Hex ++ " Cause: " ++ err), st)
        | .ok stateDB =>
          match CurrentTxs seq.Nonce seq.env.Sender seq.getRlpSize stateDB.GetNonce seq.sortByNonce
              st.mempool (.batchSizeLimiter seq.MaxBatchSize) with
          | .error err => (.error err, st)
          | .ok transactions =>
            match FetchCurrentSequencerNo st.storage with
            | .error err => (.error err, st)
            | .ok sequencerNo =>
              match produceBatch seq l1 st.storage (sequencerNo + 1) l1HeadBlock.hash
                  (headBatch.Hash seq.env.RlpHash) transactions timeNow with
              | (.error err, storage) =>
                (.error (" failed producing batch. Cause: " ++ err), { st with storage })
              | (.ok _, storage) =>
                (.ok (), { storage, mempool := RemoveTxs seq.env.TxHash st.mempool transactions })

/-- `sequencer.CreateBatch()`: the genesis batch while there is no head batch, and otherwise a
batch on the head batch; the L1 head is the block processor's. -/
def CreateBatch (l1 : L1View) (st : SeqState Tx) (timeNow : UInt64) :
    Except String Unit × SeqState Tx :=
  match HasGenesisBatch st.storage with
  | .error err => (.error ("unknown genesis batch state. Cause: " ++ err), st)
  | .ok hasGenesis =>
    match l1.GetHead with
    | .error err => (.error ("failed retrieving l1 head. Cause: " ++ err), st)
    | .ok l1HeadBlock =>
      if !hasGenesis then initGenesis seq l1 st l1HeadBlock timeNow
      else createNewHeadBatch seq l1 st l1HeadBlock timeNow

/-! ### Forks -/

/-- `sort.Slice` of the batches by `Number()`. Go sorts slices this short by insertion, which
keeps batches of equal height in their order; so does this. -/
def sortByHeight (batches : List (Batch Tx)) : List (Batch Tx) :=
  batches.mergeSort fun a b => a.Header.Number ≤ b.Header.Number

/-- The sanity check of `duplicateBatches`: a batch after the first is the child of the batch
before it. -/
def consecutive (prev : Option (Batch Tx)) (orphanBatch : Batch Tx) : Bool :=
  match prev with
  | some p => orphanBatch.Header.ParentHash = p.Hash seq.env.RlpHash
  | none => true

/-- One pass of the loop of `duplicateBatches`, on the storage, the batch before this one and
the head the duplicate goes on: check the batch follows the one before (`logger.Crit`), then
produce its duplicate with the next sequence number on the head, which it becomes. -/
def duplicateStep (l1 : L1View) (l1Head : L1Block) :
    Storage Tx × Option (Batch Tx) × L2BatchHash → Batch Tx →
      Except String Unit × (Storage Tx × Option (Batch Tx) × L2BatchHash)
  | (st, prev, currentHead), orphanBatch =>
    if !consecutive seq prev orphanBatch then
      (.error "the batches that must be duplicated are invalid", (st, prev, currentHead))
    else
      match FetchCurrentSequencerNo st with
      | .error err => (.error ("could not fetch sequencer no. Cause " ++ err), (st, prev, currentHead))
      | .ok sequencerNo =>
        match produceBatch seq l1 st (sequencerNo + 1) l1Head.parentHash currentHead
            orphanBatch.Transactions orphanBatch.Header.Time with
        | (.error err, st) =>
          (.error ("could not produce batch. Cause " ++ err), (st, prev, currentHead))
        | (.ok b, st) => (.ok (), (st, some orphanBatch, b.Hash seq.env.RlpHash))

/-- `duplicateBatches(l1Head, nonCanonicalL1Path)`: the batches of the blocks that left the
canonical chain, sorted by height and produced again one by one on the first one's parent,
against the new head's parent block. -/
def duplicateBatches (l1 : L1View) (st : Storage Tx) (l1Head : L1Block)
    (nonCanonicalL1Path : List L1BlockHash) : Except String Unit × Storage Tx :=
  -- read the batches attached to these blocks
  match sortByHeight (nonCanonicalL1Path.flatMap (FetchBatchesByBlock st)) with
  | [] => (.ok (), st)
  | first :: rest =>
    let result := CommitLoop.run (duplicateStep seq l1 l1Head)
      (st, none, first.Header.ParentHash) (first :: rest)
    (result.1, result.2.1)

/-- `sequencer.OnL1Fork(fork)`: duplicate the batches of the fork's non-canonical path; a rollup
of that path is only logged. -/
def OnL1Fork (l1 : L1View) (st : Storage Tx) (fork : EnclaveDB.ChainFork) :
    Except String Unit × Storage Tx :=
  if !fork.IsFork then (.ok (), st)
  else
    match duplicateBatches seq l1 st fork.NewCanonical fork.NonCanonicalPath with
    | (.error err, st) => (.error ("could not duplicate batches. Cause " ++ err), st)
    | (.ok (), st) =>
      match l1.FetchReorgedRollup fork.NonCanonicalPath with
      | .ok _ => (.ok (), st)
      | .error err =>
        if err = ErrNotFound then (.ok (), st)
        else (.error ("could not call FetchReorgedRollup. Cause: " ++ err), st)

/-! ## What the writes do to the rows -/

section Cores

/-- What the sequencer's invariants read of a row: its hash, sequence number and batch. The
flags (`isCanonical`, `isExecuted`) are left out. -/
def core (r : BatchRow Tx) : L2BatchHash × UInt64 × Batch Tx := (r.hash, r.sequence, r.batch)

/-- A row of a table with the same cores has a row of the same core in the other. -/
theorem exists_core_of_mem {rows rows' : List (BatchRow Tx)}
    (hcores : rows'.map core = rows.map core) {r : BatchRow Tx} (hr : r ∈ rows') :
    ∃ r₀ ∈ rows, r.hash = r₀.hash ∧ r.sequence = r₀.sequence ∧ r.batch = r₀.batch := by
  have hmem : core r ∈ rows.map core := hcores ▸ List.mem_map_of_mem hr
  obtain ⟨r₀, hr₀, hcore⟩ := List.mem_map.mp hmem
  simp only [core, Prod.mk.injEq] at hcore
  exact ⟨r₀, hr₀, hcore.1.symm, hcore.2.1.symm, hcore.2.2.symm⟩

theorem map_core_markExecuted (hash : L2BatchHash) (rows : List (BatchRow Tx)) :
    (markExecuted hash rows).map core = rows.map core := by
  rw [markExecuted, List.map_map]
  apply List.map_congr_left
  intro r _
  by_cases hh : r.hash = hash <;> simp [core, hh]

theorem map_core_updateCanonicalValue (isCanonical : Bool) (values : List L1BlockHash)
    (st : Storage Tx) :
    (updateCanonicalValue isCanonical values st).batches.map core = st.batches.map core := by
  simp only [updateCanonicalValue, List.map_map]
  apply List.map_congr_left
  intro r _
  by_cases hv : r.batch.Header.L1Proof ∈ values <;> simp [core, hv]

theorem map_core_UpdateCanonicalBlocks (canonical nonCanonical : List L1BlockHash)
    (st : Storage Tx) :
    (UpdateCanonicalBlocks canonical nonCanonical st).batches.map core = st.batches.map core := by
  unfold UpdateCanonicalBlocks
  split_ifs <;> simp only [map_core_updateCanonicalValue]

/-- A stored execution only marks rows. -/
theorem map_core_StoreExecutedBatch {rlpHash : BatchHeader → Hash}
    {stateAt : Hash → Except String StateDB} {st st' : Storage Tx} {batch : Batch Tx}
    {receipts : List Receipt}
    (h : BatchStorage.StoreExecutedBatch rlpHash stateAt st batch receipts = .ok st') :
    st'.batches.map core = st.batches.map core := by
  rcases StoreExecutedBatch_batches h with ⟨hsame, -⟩ | hmark
  · rw [hsame]
  · rw [hmark, map_core_markExecuted]

/-- `StoreBatch` writes nothing, or appends the row of a batch whose hash and sequence number
have none. -/
theorem StoreBatch_appends {rlpHash : BatchHeader → Hash} {isCanon : L1BlockHash → Bool}
    {st st' : Storage Tx} {batch : Batch Tx} (h : StoreBatch rlpHash isCanon st batch = .ok st') :
    st' = st ∨ (st.batches.any (·.hash = batch.Hash rlpHash) = false ∧
      st.batches.any (·.sequence = UInt64.ofNat batch.Header.SequencerOrderNo) = false ∧
      st' = { st with batches := st.batches ++ [newRow rlpHash isCanon batch] }) := by
  unfold StoreBatch at h
  split at h
  · -- a batch of the same sequence number is stored: the same batch is accepted again
    left
    split at h
    · cases h
    · cases h
      rfl
  · right
    have hw := Except.mapError_eq_ok.mp h
    unfold BatchStorage.WriteBatchAndTransactions at hw
    cases hhash : st.batches.any (·.hash = batch.Hash rlpHash)
    · cases hseq : st.batches.any (·.sequence = UInt64.ofNat batch.Header.SequencerOrderNo)
      · simp only [hhash, hseq, Bool.false_eq_true, if_false, Except.ok.injEq] at hw
        exact ⟨rfl, rfl, hw.symm⟩
      · simp only [hhash, hseq, Bool.false_eq_true, if_false, if_true] at hw
        cases hw
    · simp only [hhash, if_true] at hw
      cases hw

/-- **What storing a produced batch does to the rows.** `sequencer.StoreExecutedBatch`, whatever
it returns, leaves the cores, or appends the row of a batch whose hash and sequence number had
none (executed or not). -/
theorem sequencerStoreExecutedBatch_cores {rlpHash : BatchHeader → Hash}
    {isCanon : L1BlockHash → Bool} {stateAt : Hash → Except String StateDB} {st : Storage Tx}
    {batch : Batch Tx} {receipts : List Receipt} :
    (sequencerStoreExecutedBatch rlpHash isCanon stateAt st batch receipts).2.batches.map core =
        st.batches.map core ∨
      (st.batches.any (·.hash = batch.Hash rlpHash) = false ∧
        st.batches.any (·.sequence = UInt64.ofNat batch.Header.SequencerOrderNo) = false ∧
        (sequencerStoreExecutedBatch rlpHash isCanon stateAt st batch receipts).2.batches.map core =
          (st.batches ++ [newRow rlpHash isCanon batch]).map core) := by
  unfold sequencerStoreExecutedBatch
  cases FetchBatch st (batch.Hash rlpHash) with
  | ok _ => exact .inl rfl
  | error _ =>
    cases hstore : StoreBatch rlpHash isCanon st batch with
    | error _ => exact .inl rfl
    | ok st₁ =>
      -- the execution is a second transaction: it only marks the rows the first one left
      suffices h₂ : ∀ st₂ : Storage Tx, st₂.batches.map core = st₁.batches.map core →
          st₂.batches.map core = st.batches.map core ∨
            (st.batches.any (·.hash = batch.Hash rlpHash) = false ∧
              st.batches.any (·.sequence = UInt64.ofNat batch.Header.SequencerOrderNo) = false ∧
              st₂.batches.map core = (st.batches ++ [newRow rlpHash isCanon batch]).map core) by
        dsimp only
        cases hst : BatchStorage.StoreExecutedBatch rlpHash stateAt st₁ batch receipts with
        | error _ => exact h₂ st₁ rfl
        | ok st₂ => exact h₂ st₂ (map_core_StoreExecutedBatch hst)
      intro st₂ h₂
      rw [h₂]
      rcases StoreBatch_appends hstore with rfl | ⟨hhash, hseq, rfl⟩
      · exact .inl rfl
      · exact .inr ⟨hhash, hseq, rfl⟩

end Cores

/-! ## The table's invariant -/

section Invariant

variable {rlpHash : BatchHeader → Hash}

/-- The sequence numbers of the rows are `1, 2, …, n` in table order, as `uint64` values. -/
def SeqRange (st : Storage Tx) : Prop :=
  st.batches.map (·.sequence) = (List.range' L2GenesisSeqNo st.batches.length).map UInt64.ofNat

/-- Every row is a genesis row (height zero) or the child of a row of the table, one height
lower. -/
def Rooted (st : Storage Tx) : Prop :=
  ∀ r ∈ st.batches, r.batch.Header.Number = 0 ∨
    ∃ p ∈ st.batches, p.hash = r.batch.Header.ParentHash ∧
      r.batch.Header.Number = p.batch.Header.Number + 1

/-- What the sequencer's calls keep of its batch table: one row per hash under its batch's hash,
the sequence numbers from one on without gaps, and every row rooted in the table. -/
structure SeqInv (rlpHash : BatchHeader → Hash) (st : Storage Tx) : Prop where
  rows : RowsWF rlpHash st
  seqRange : SeqRange st
  rooted : Rooted st

/-- The invariant reads the cores only. -/
theorem SeqInv.of_cores {st st' : Storage Tx} (hcores : st'.batches.map core = st.batches.map core)
    (hinv : SeqInv rlpHash st) : SeqInv rlpHash st' := by
  have hlen : st'.batches.length = st.batches.length := by
    simpa using congrArg List.length hcores
  refine ⟨⟨?_, ?_⟩, ?_, ?_⟩
  · have hhash : st'.batches.map (·.hash) = st.batches.map (·.hash) := by
      have h := congrArg (List.map Prod.fst) hcores
      simp only [List.map_map] at h
      exact h
    rw [hhash]
    exact hinv.rows.nodup
  · intro r hr
    obtain ⟨r₀, hr₀, hhash, -, hbatch⟩ := exists_core_of_mem hcores hr
    rw [hhash, hbatch]
    exact hinv.rows.hash r₀ hr₀
  · have hseq : st'.batches.map (·.sequence) = st.batches.map (·.sequence) := by
      have h := congrArg (List.map fun c => c.2.1) hcores
      simp only [List.map_map] at h
      exact h
    rw [SeqRange, hseq, hlen]
    exact hinv.seqRange
  · -- a row's parent keeps its core in the other table
    intro r hr
    obtain ⟨r₀, hr₀, -, -, hbatch⟩ := exists_core_of_mem hcores hr
    rw [hbatch]
    rcases hinv.rooted r₀ hr₀ with hgen | ⟨p₀, hp₀, hparent, hnum⟩
    · exact .inl hgen
    · obtain ⟨p, hp, hphash, -, hpbatch⟩ := exists_core_of_mem hcores.symm hp₀
      refine .inr ⟨p, hp, hphash.symm.trans hparent, ?_⟩
      rw [← hpbatch]
      exact hnum

/-- A fresh value appended to `f 1, …, f n` is `f (n + 1)` when it is `f s` for some
`1 ≤ s ≤ n + 1`. -/
theorem range'_map_append_fresh {f : Nat → UInt64} {n s : Nat}
    (hfresh : f s ∉ (List.range' L2GenesisSeqNo n).map f) (hs : L2GenesisSeqNo ≤ s)
    (hs' : s ≤ n + 1) :
    (List.range' L2GenesisSeqNo n).map f ++ [f s] = (List.range' L2GenesisSeqNo (n + 1)).map f := by
  have hsn : s = L2GenesisSeqNo + n := by
    by_contra hne
    have hlt : s < L2GenesisSeqNo + n := by
      simp only [L2GenesisSeqNo] at hs hne ⊢
      omega
    exact hfresh (List.mem_map_of_mem (List.mem_range'_1.mpr ⟨hs, hlt⟩))
  rw [List.range'_concat, List.map_append, List.map_singleton, hsn, Nat.one_mul]

/-- **Appending a new batch.** The row of a batch whose hash and sequence number have none keeps
the invariant, when the sequence number is at most one past the rows and the batch is a genesis
batch or the child of a row one height lower. -/
theorem SeqInv.append_newRow {isCanon : L1BlockHash → Bool} {st st' : Storage Tx}
    {batch : Batch Tx} (hinv : SeqInv rlpHash st)
    (hhash : st.batches.any (·.hash = batch.Hash rlpHash) = false)
    (hseq : st.batches.any (·.sequence = UInt64.ofNat batch.Header.SequencerOrderNo) = false)
    (hseqNo : L2GenesisSeqNo ≤ batch.Header.SequencerOrderNo ∧
      batch.Header.SequencerOrderNo ≤ st.batches.length + 1)
    (hrooted : batch.Header.Number = 0 ∨ ∃ p ∈ st.batches, p.hash = batch.Header.ParentHash ∧
      batch.Header.Number = p.batch.Header.Number + 1)
    (happ : st'.batches = st.batches ++ [newRow rlpHash isCanon batch]) : SeqInv rlpHash st' := by
  refine ⟨hinv.rows.append_newRow hhash happ, ?_, ?_⟩
  · -- the new sequence number is the next one
    have hfresh : UInt64.ofNat batch.Header.SequencerOrderNo ∉
        (List.range' L2GenesisSeqNo st.batches.length).map UInt64.ofNat := by
      rw [← hinv.seqRange]
      intro hmem
      obtain ⟨r, hr, hrseq⟩ := List.mem_map.mp hmem
      exact List.any_eq_false.mp hseq r hr (decide_eq_true hrseq)
    rw [SeqRange, happ, List.map_append, hinv.seqRange, List.length_append, List.length_singleton]
    exact range'_map_append_fresh hfresh hseqNo.1 hseqNo.2
  · intro r hr
    rw [happ, List.mem_append, List.mem_singleton] at hr
    rcases hr with hr | rfl
    · rcases hinv.rooted r hr with hgen | ⟨p, hp, hparent, hnum⟩
      · exact .inl hgen
      · exact .inr ⟨p, happ ▸ List.mem_append_left _ hp, hparent, hnum⟩
    · rcases hrooted with hgen | ⟨p, hp, hparent, hnum⟩
      · exact .inl hgen
      · exact .inr ⟨p, happ ▸ List.mem_append_left _ hp, hparent, hnum⟩

/-- **Storing a produced batch keeps the invariant**, whatever the store returns, when the
batch's sequence number is at most one past the rows and it is a genesis batch or the child of
a row one height lower. -/
theorem SeqInv.sequencerStoreExecutedBatch {isCanon : L1BlockHash → Bool}
    {stateAt : Hash → Except String StateDB} {st : Storage Tx} {batch : Batch Tx}
    {receipts : List Receipt} (hinv : SeqInv rlpHash st)
    (hseqNo : L2GenesisSeqNo ≤ batch.Header.SequencerOrderNo ∧
      batch.Header.SequencerOrderNo ≤ st.batches.length + 1)
    (hrooted : batch.Header.Number = 0 ∨ ∃ p ∈ st.batches, p.hash = batch.Header.ParentHash ∧
      batch.Header.Number = p.batch.Header.Number + 1) :
    SeqInv rlpHash (sequencerStoreExecutedBatch rlpHash isCanon stateAt st batch receipts).2 := by
  rcases sequencerStoreExecutedBatch_cores with hsame | ⟨hhash, hseq, happ⟩
  · exact hinv.of_cores hsame
  · -- the appended row, then at most its execution marked
    have hinv₁ : SeqInv rlpHash { st with batches := st.batches ++ [newRow rlpHash isCanon batch] } :=
      hinv.append_newRow hhash hseq hseqNo hrooted rfl
    exact hinv₁.of_cores happ

end Invariant

/-! ## One spec lemma per step -/

section Steps

/-- What a computed batch keeps of its context: its parent is the fetched parent batch, one
height lower, its L1 proof the fetched block, its sequence number and time those of the
context, and its transactions a sublist of the candidates. -/
theorem ComputeBatch_lineage {σ : Type} {env : Env σ Tx} {s : BatchExecutor.Storage σ Tx}
    {ctx : BatchExecutionContext Tx} {cb : ComputedBatch σ Tx} (h : ComputeBatch env s ctx = .ok cb) :
    ∃ parent block, s.FetchBatch ctx.ParentPtr = .ok parent ∧ s.FetchBlock ctx.BlockPtr = .ok block ∧
      cb.Batch.Header.ParentHash = parent.Hash env.RlpHash ∧
      cb.Batch.Header.Number = parent.Header.Number + 1 ∧
      cb.Batch.Header.SequencerOrderNo = ctx.SequencerNo ∧
      cb.Batch.Header.L1Proof = block.hash ∧
      cb.Batch.Header.Time = ctx.AtTime ∧
      cb.Batch.Transactions.Sublist ctx.Transactions := by
  obtain ⟨block, parent, parentBlock, stateDB, messages, successfulTxs, txReceipts, s1,
    ccSuccessfulTxs, ccReceipts, s2, outBatch, hblock, hparent, -, -, -, hproc, -, -, hout, rfl⟩ :=
    (ComputeBatch_eq_ok env s).mp h
  -- the completions of the header keep the fields of the context, and the height
  have hctx := contextOf_populateOutbound env hout
  have hnum : outBatch.Header.Number = parent.Header.Number + 1 := by
    unfold populateOutboundCrossChainData at hout
    split at hout
    · cases hout
    · cases hout
      rfl
  have hsub : successfulTxs.Sublist ctx.Transactions := by
    rw [processTransactions_eq] at hproc
    obtain ⟨r, hr, hrr⟩ := Except.map_eq_ok.mp hproc
    have hfst : r.1 = successfulTxs := congrArg Prod.fst hrr
    exact hfst ▸ (collectResults_sublist hr).1
  refine ⟨parent, block, hparent, hblock, ?_, hnum, ?_, ?_, ?_, ?_⟩
  · exact congrArg BatchExecutionContext.ParentPtr hctx
  · exact congrArg BatchExecutionContext.SequencerNo hctx
  · exact congrArg BatchExecutionContext.BlockPtr hctx
  · exact congrArg BatchExecutionContext.AtTime hctx
  · have htxs : outBatch.Transactions = successfulTxs :=
      congrArg BatchExecutionContext.Transactions hctx
    show outBatch.Transactions.Sublist ctx.Transactions
    rw [htxs]
    exact hsub

theorem FetchBatch_eq_ok {st : Storage Tx} {hash : L2BatchHash} {b : Batch Tx}
    (h : FetchBatch st hash = .ok b) : ∃ r ∈ st.batches, r.hash = hash ∧ r.batch = b := by
  unfold FetchBatch at h
  split at h
  · rename_i r hfind
    cases h
    have hr := List.find?_some hfind
    simp only [decide_eq_true_eq] at hr
    exact ⟨r, List.mem_of_find?_eq_some hfind, hr, rfl⟩
  · cases h

/-- A signature sets `R` and `S` only. -/
theorem signBatch_eq_ok {b b' : Batch Tx} (h : signBatch seq b = .ok b') :
    ∃ r s, b' = { b with Header := { b.Header with R := some r, S := some s } } := by
  obtain ⟨⟨r, s⟩, -, h⟩ := Except.bind_eq_ok.mp h
  exact ⟨r, s, (Except.ok.inj h).symm⟩

/-- `produceBatch` writes nothing, or stores the signed computed batch. -/
theorem produceBatch_cases {l1 : L1View} {st : Storage Tx} {sequencerNo : Nat}
    {l1Hash : L1BlockHash} {headBatch : L2BatchHash} {transactions : List Tx}
    {batchTime : UInt64} :
    (produceBatch seq l1 st sequencerNo l1Hash headBatch transactions batchTime).2 = st ∨
      ∃ cb batch, ComputeBatch seq.env (executorStorage seq l1 st)
          ⟨l1Hash, headBatch, transactions, batchTime, sequencerNo⟩ = .ok cb ∧
        signBatch seq cb.Batch = .ok batch ∧
        (produceBatch seq l1 st sequencerNo l1Hash headBatch transactions batchTime).2 =
          (StoreExecutedBatch seq l1 st batch cb.Receipts).2 := by
  unfold produceBatch
  cases hcb : ComputeBatch seq.env (executorStorage seq l1 st)
      ⟨l1Hash, headBatch, transactions, batchTime, sequencerNo⟩ with
  | error _ => exact .inl rfl
  | ok cb =>
    dsimp only
    cases seq.env.Commit cb.State with
    | error _ => exact .inl rfl
    | ok _ =>
      dsimp only
      cases hsign : signBatch seq cb.Batch with
      | error _ => exact .inl rfl
      | ok batch =>
        refine .inr ⟨cb, batch, rfl, hsign, ?_⟩
        dsimp only
        rcases StoreExecutedBatch seq l1 st batch cb.Receipts with ⟨_ | _, st'⟩ <;> rfl

/-- Over the invariant, the greatest sequence number is at most the number of rows. -/
theorem SeqRange.FetchCurrentSequencerNo_le {st : Storage Tx} (hseq : SeqRange st) {m : Nat}
    (h : FetchCurrentSequencerNo st = .ok m) : m ≤ st.batches.length := by
  unfold FetchCurrentSequencerNo at h
  split at h
  · rename_i seqNo hmax
    cases h
    obtain ⟨r, hr, rfl⟩ := List.mem_map.mp (List.max?_mem hmax)
    have hmem : r.sequence ∈ (List.range' L2GenesisSeqNo st.batches.length).map UInt64.ofNat :=
      hseq ▸ List.mem_map_of_mem hr
    obtain ⟨i, hi, hri⟩ := List.mem_map.mp hmem
    have hlt := (List.mem_range'_1.mp hi).2
    calc r.sequence.toNat = i % 2 ^ 64 := by rw [← hri, UInt64.toNat_ofNat']
      _ ≤ i := Nat.mod_le i _
      _ ≤ st.batches.length := by
        simp only [L2GenesisSeqNo] at hlt
        omega
  · cases h

/-- **Producing a batch keeps the invariant**, whatever it returns, for a sequence number at
most one past the rows. -/
theorem SeqInv.produceBatch {l1 : L1View} {st : Storage Tx} {sequencerNo : Nat}
    {l1Hash : L1BlockHash} {headBatch : L2BatchHash} {transactions : List Tx} {batchTime : UInt64}
    (hinv : SeqInv seq.env.RlpHash st)
    (hseqNo : L2GenesisSeqNo ≤ sequencerNo ∧ sequencerNo ≤ st.batches.length + 1) :
    SeqInv seq.env.RlpHash
      (produceBatch seq l1 st sequencerNo l1Hash headBatch transactions batchTime).2 := by
  rcases produceBatch_cases seq with hsame | ⟨cb, batch, hcb, hsign, hst⟩
  · rw [hsame]
    exact hinv
  · rw [hst]
    obtain ⟨parent, -, hparent, -, hph, hnum, hseq, -⟩ := ComputeBatch_lineage hcb
    obtain ⟨r, s, rfl⟩ := signBatch_eq_ok seq hsign
    -- the parent is a row, whose hash the computed batch names
    obtain ⟨p, hp, hphash, rfl⟩ := FetchBatch_eq_ok hparent
    refine hinv.sequencerStoreExecutedBatch ?_ (.inr ⟨p, hp, ?_, hnum⟩)
    · show L2GenesisSeqNo ≤ cb.Batch.Header.SequencerOrderNo ∧
        cb.Batch.Header.SequencerOrderNo ≤ st.batches.length + 1
      rw [hseq]
      exact hseqNo
    · show p.hash = cb.Batch.Header.ParentHash
      rw [hph, ← hinv.rows.hash p hp]

/-- Producing a batch with the next sequence number keeps the invariant. -/
theorem SeqInv.produceBatch_next {l1 : L1View} {st : Storage Tx} {sequencerNo : Nat}
    {l1Hash : L1BlockHash} {headBatch : L2BatchHash} {transactions : List Tx} {batchTime : UInt64}
    (hinv : SeqInv seq.env.RlpHash st) (hno : FetchCurrentSequencerNo st = .ok sequencerNo) :
    SeqInv seq.env.RlpHash
      (Sequencer.produceBatch seq l1 st (sequencerNo + 1) l1Hash headBatch transactions
        batchTime).2 := by
  have hle := hinv.seqRange.FetchCurrentSequencerNo_le hno
  exact hinv.produceBatch seq ⟨by simp [L2GenesisSeqNo], by omega⟩

end Steps

/-! ## What a call writes

Every call is a sequence of committed writes, each of one of five kinds (`Write`): the
invariants are proved once for a write, and each call is shown to be such a sequence. -/

section Writes

/-- Every transaction of a stored batch has a sender that recovers. -/
def SignedBatches (st : Storage Tx) : Prop :=
  ∀ r ∈ st.batches, ∀ tx ∈ r.batch.Transactions, ∃ sender, seq.env.Sender tx = .ok sender

/-- One committed write of the sequencer. -/
inductive Write : SeqState Tx → SeqState Tx → Prop
  /-- canonical or executed flags of the batch table -/
  | flags {st : SeqState Tx} {storage : Storage Tx} :
      storage.batches.map core = st.storage.batches.map core → Write st { st with storage }
  /-- the genesis batch, stored with no receipts -/
  | genesis {l1 : L1View} {st : SeqState Tx} {batch : Batch Tx} :
      batch.Header.Number = 0 → batch.Header.SequencerOrderNo = L2GenesisSeqNo →
      batch.Transactions = [] →
      Write st { st with storage := (StoreExecutedBatch seq l1 st.storage batch []).2 }
  /-- a produced batch on the next sequence number, over transactions that are signed or
  already in a stored batch -/
  | next {l1 : L1View} {st : SeqState Tx} {sequencerNo : Nat} {l1Hash : L1BlockHash}
      {headBatch : L2BatchHash} {transactions : List Tx} {batchTime : UInt64} :
      FetchCurrentSequencerNo st.storage = .ok sequencerNo →
      (∀ tx ∈ transactions, (∃ sender, seq.env.Sender tx = .ok sender) ∨
        ∃ r ∈ st.storage.batches, tx ∈ r.batch.Transactions) →
      Write st { st with storage := (Sequencer.produceBatch seq l1 st.storage (sequencerNo + 1)
        l1Hash headBatch transactions batchTime).2 }
  /-- a transaction queued in the mempool -/
  | add {st : SeqState Tx} {tx : Tx} {mempool : mempoolManager Tx} :
      AddMempoolTx seq.env.Sender seq.env.TxHash st.mempool tx = .ok mempool →
      Write st { st with mempool }
  /-- a selection taken out of the mempool -/
  | remove {st : SeqState Tx} {transactions : List Tx} :
      Write st { st with mempool := RemoveTxs seq.env.TxHash st.mempool transactions }

/-- What the sequencer's writes keep of its state: the table's invariant, batches of signed
transactions, and the mempool's map invariant. -/
structure StateInv (st : SeqState Tx) : Prop where
  table : SeqInv seq.env.RlpHash st.storage
  signed : SignedBatches seq st.storage
  pool : PoolWF seq.env.Sender seq.env.TxHash st.mempool

/-- The sequencer's state when the enclave starts: no batches and an empty mempool. -/
def SeqState.empty : SeqState Tx := ⟨⟨[], [], []⟩, ⟨[]⟩⟩

theorem StateInv.empty : StateInv seq (SeqState.empty : SeqState Tx) where
  table := ⟨⟨List.nodup_nil, fun _ hr => by cases hr⟩, rfl, fun _ hr => by cases hr⟩
  signed _ hr := by cases hr
  pool := PoolWF.empty _ _

/-- The genesis batch is a root with the first sequence number and no transactions. -/
theorem CreateGenesisState_eq_ok {blkHash : L1BlockHash} {timeNow : UInt64} {batch : Batch Tx}
    {deployTx : Tx} (h : CreateGenesisState seq blkHash timeNow = .ok (batch, deployTx)) :
    batch.Header.Number = 0 ∧ batch.Header.SequencerOrderNo = L2GenesisSeqNo ∧
      batch.Transactions = [] := by
  obtain ⟨root, -, h⟩ := Except.bind_eq_ok.mp h
  obtain ⟨tx, -, h⟩ := Except.bind_eq_ok.mp h
  obtain ⟨⟨⟩, -, h⟩ := Except.bind_eq_ok.mp h
  cases h
  exact ⟨rfl, rfl, rfl⟩

/-! ### The invariants of one write -/

/-- Signed batches stay so when the rows' cores become the old ones and some new rows, whose
transactions are signed or already stored. -/
theorem SignedBatches.of_cores_append {st st' : Storage Tx} {extra : List (BatchRow Tx)}
    (hs : SignedBatches seq st) (hcores : st'.batches.map core = (st.batches ++ extra).map core)
    (hextra : ∀ r ∈ extra, ∀ tx ∈ r.batch.Transactions,
      (∃ sender, seq.env.Sender tx = .ok sender) ∨ ∃ r₀ ∈ st.batches, tx ∈ r₀.batch.Transactions) :
    SignedBatches seq st' := by
  intro r hr tx htx
  obtain ⟨r₀, hr₀, -, -, hbatch⟩ := exists_core_of_mem hcores hr
  rw [hbatch] at htx
  rcases List.mem_append.mp hr₀ with hold | hnew
  · exact hs r₀ hold tx htx
  · rcases hextra r₀ hnew tx htx with hsigned | ⟨r₁, hr₁, htx₁⟩
    · exact hsigned
    · exact hs r₁ hr₁ tx htx₁

/-- Storing a batch keeps the batches signed when its transactions are signed or stored. -/
theorem SignedBatches.StoreExecutedBatch {l1 : L1View} {st : Storage Tx} {batch : Batch Tx}
    {receipts : List Receipt} (hs : SignedBatches seq st)
    (htxs : ∀ tx ∈ batch.Transactions, (∃ sender, seq.env.Sender tx = .ok sender) ∨
      ∃ r ∈ st.batches, tx ∈ r.batch.Transactions) :
    SignedBatches seq (StoreExecutedBatch seq l1 st batch receipts).2 := by
  unfold Sequencer.StoreExecutedBatch
  rcases sequencerStoreExecutedBatch_cores with hsame | ⟨-, -, happ⟩
  · have hcores : (sequencerStoreExecutedBatch seq.env.RlpHash l1.isCanon seq.stateAt st batch
        receipts).2.batches.map core = (st.batches ++ []).map core := by
      rw [hsame, List.append_nil]
    exact hs.of_cores_append seq hcores (by simp)
  · refine hs.of_cores_append seq happ ?_
    intro r hr
    rw [List.mem_singleton.mp hr]
    exact htxs

/-- A produced batch's transactions are among those it was given. -/
theorem SignedBatches.produceBatch {l1 : L1View} {st : Storage Tx} {sequencerNo : Nat}
    {l1Hash : L1BlockHash} {headBatch : L2BatchHash} {transactions : List Tx}
    {batchTime : UInt64} (hs : SignedBatches seq st)
    (htxs : ∀ tx ∈ transactions, (∃ sender, seq.env.Sender tx = .ok sender) ∨
      ∃ r ∈ st.batches, tx ∈ r.batch.Transactions) :
    SignedBatches seq
      (Sequencer.produceBatch seq l1 st sequencerNo l1Hash headBatch transactions batchTime).2 := by
  rcases produceBatch_cases seq with hsame | ⟨cb, batch, hcb, hsign, hst⟩
  · rw [hsame]
    exact hs
  · rw [hst]
    obtain ⟨-, -, -, -, -, -, -, -, -, hsub⟩ := ComputeBatch_lineage hcb
    obtain ⟨r, s, rfl⟩ := signBatch_eq_ok seq hsign
    exact hs.StoreExecutedBatch seq fun tx htx => htxs tx (hsub.subset htx)

/-- Storing the genesis batch keeps the table's invariant. -/
theorem SeqInv.storeGenesis {l1 : L1View} {st : Storage Tx} {batch : Batch Tx}
    (hinv : SeqInv seq.env.RlpHash st) (hnum : batch.Header.Number = 0)
    (hseq : batch.Header.SequencerOrderNo = L2GenesisSeqNo) :
    SeqInv seq.env.RlpHash (StoreExecutedBatch seq l1 st batch []).2 := by
  refine hinv.sequencerStoreExecutedBatch ⟨le_of_eq hseq.symm, ?_⟩ (.inl hnum)
  rw [hseq]
  simp [L2GenesisSeqNo]

/-- **One write keeps the invariant.** -/
theorem Write.inv {st st' : SeqState Tx} (hw : Write seq st st') (hinv : StateInv seq st) :
    StateInv seq st' := by
  cases hw with
  | flags hcores =>
    have hcores' := hcores.trans (congrArg (List.map core) (List.append_nil _).symm)
    exact ⟨hinv.table.of_cores hcores, hinv.signed.of_cores_append seq hcores' (by simp), hinv.pool⟩
  | genesis hnum hseq htxs =>
    refine ⟨hinv.table.storeGenesis seq hnum hseq, hinv.signed.StoreExecutedBatch seq ?_, hinv.pool⟩
    simp [htxs]
  | next hno htxs =>
    exact ⟨hinv.table.produceBatch_next seq hno, hinv.signed.produceBatch seq htxs, hinv.pool⟩
  | add hadd => exact ⟨hinv.table, hinv.signed, hinv.pool.AddMempoolTx _ _ hadd⟩
  | remove => exact ⟨hinv.table, hinv.signed, hinv.pool.RemoveTxs _ _ _⟩

/-- Storing a batch keeps the old rows' cores as a prefix. -/
theorem StoreExecutedBatch_cores_prefix {l1 : L1View} {st : Storage Tx} {batch : Batch Tx}
    {receipts : List Receipt} :
    st.batches.map core <+: (StoreExecutedBatch seq l1 st batch receipts).2.batches.map core := by
  unfold Sequencer.StoreExecutedBatch
  rcases sequencerStoreExecutedBatch_cores with hsame | ⟨-, -, happ⟩
  · exact hsame ▸ List.prefix_refl _
  · rw [happ, List.map_append]
    exact List.prefix_append _ _

theorem produceBatch_cores_prefix {l1 : L1View} {st : Storage Tx} {sequencerNo : Nat}
    {l1Hash : L1BlockHash} {headBatch : L2BatchHash} {transactions : List Tx}
    {batchTime : UInt64} :
    st.batches.map core <+: (Sequencer.produceBatch seq l1 st sequencerNo l1Hash headBatch
      transactions batchTime).2.batches.map core := by
  rcases produceBatch_cases seq with hsame | ⟨cb, batch, -, -, hst⟩
  · exact hsame ▸ List.prefix_refl _
  · exact hst ▸ StoreExecutedBatch_cores_prefix seq

/-- One write changes no stored row's hash, sequence number or batch, and adds rows at the end
only. -/
theorem Write.cores_prefix {st st' : SeqState Tx} (hw : Write seq st st') :
    st.storage.batches.map core <+: st'.storage.batches.map core := by
  cases hw with
  | flags hcores => exact hcores ▸ List.prefix_refl _
  | genesis => exact StoreExecutedBatch_cores_prefix seq
  | next => exact produceBatch_cores_prefix seq
  | add => exact List.prefix_refl _
  | remove => exact List.prefix_refl _

/-! ### Sequences of writes -/

theorem StateInv.of_writes {st st' : SeqState Tx} (h : Relation.ReflTransGen (Write seq) st st')
    (hinv : StateInv seq st) : StateInv seq st' := by
  induction h with
  | refl => exact hinv
  | tail _ hw ih => exact hw.inv seq ih

theorem cores_prefix_of_writes {st st' : SeqState Tx}
    (h : Relation.ReflTransGen (Write seq) st st') :
    st.storage.batches.map core <+: st'.storage.batches.map core := by
  induction h with
  | refl => exact List.prefix_refl _
  | tail _ hw ih => exact ih.trans (hw.cores_prefix seq)

/-- A row stored before a sequence of writes is still stored after it, up to its flags. -/
theorem exists_row_of_writes {st st' : SeqState Tx} (h : Relation.ReflTransGen (Write seq) st st')
    {r : BatchRow Tx} (hr : r ∈ st.storage.batches) :
    ∃ r' ∈ st'.storage.batches, core r' = core r :=
  List.mem_map.mp ((cores_prefix_of_writes seq h).subset (List.mem_map_of_mem hr))

/-! ### Each call is a sequence of writes -/

theorem initGenesis_writes {l1 : L1View} {st : SeqState Tx} {block : L1Block} {timeNow : UInt64} :
    Relation.ReflTransGen (Write seq) st (Sequencer.initGenesis seq l1 st block timeNow).2 := by
  unfold Sequencer.initGenesis
  split
  · exact .refl
  · next batch msgBusTx hgen =>
    obtain ⟨hnum, hseq, htxs⟩ := CreateGenesisState_eq_ok seq hgen
    split
    · exact .refl
    · next mempool hadd =>
      -- the deployment transaction is queued before the batch is signed
      have hqueued : Relation.ReflTransGen (Write seq) st { st with mempool } := .single (.add hadd)
      split
      · exact hqueued
      · next signed hsign =>
        obtain ⟨r, s, rfl⟩ := signBatch_eq_ok seq hsign
        have hstored : Relation.ReflTransGen (Write seq) st
            ⟨(StoreExecutedBatch seq l1 st.storage
              { batch with Header := { batch.Header with R := some r, S := some s } } []).2,
              mempool⟩ :=
          hqueued.tail (.genesis hnum hseq htxs)
        split
        · next hres =>
          rw [hres] at hstored
          exact hstored
        · next hres =>
          rw [hres] at hstored
          exact hstored

theorem createNewHeadBatch_writes {l1 : L1View} {st : SeqState Tx} {l1HeadBlock : L1Block}
    {timeNow : UInt64} :
    Relation.ReflTransGen (Write seq) st
      (Sequencer.createNewHeadBatch seq l1 st l1HeadBlock timeNow).2 := by
  unfold Sequencer.createNewHeadBatch
  -- every read that fails returns the state as it was
  split
  · exact .refl
  · next headBatch _ =>
    split
    · exact .refl
    · split
      · exact .refl
      · split
        · exact .refl
        · next stateDB _ =>
          split
          · exact .refl
          · next transactions hselect =>
            split
            · exact .refl
            · next sequencerNo hno =>
              -- the selection is signed, so the produced batch is a write of the next kind
              have hsigned := CurrentTxs_signed seq.Nonce seq.env.Sender seq.getRlpSize
                stateDB.GetNonce seq.sortByNonce hselect
              have hproduced : Relation.ReflTransGen (Write seq) st
                  ⟨(Sequencer.produceBatch seq l1 st.storage (sequencerNo + 1) l1HeadBlock.hash
                    (headBatch.Hash seq.env.RlpHash) transactions timeNow).2, st.mempool⟩ :=
                .single (.next hno fun tx htx => .inl (hsigned tx htx))
              split
              · next hres =>
                rw [hres] at hproduced
                exact hproduced
              · next hres =>
                rw [hres] at hproduced
                exact hproduced.tail .remove

theorem CreateBatch_writes {l1 : L1View} {st : SeqState Tx} {timeNow : UInt64} :
    Relation.ReflTransGen (Write seq) st (Sequencer.CreateBatch seq l1 st timeNow).2 := by
  unfold Sequencer.CreateBatch
  split
  · exact .refl
  · split
    · exact .refl
    · split
      · exact initGenesis_writes seq
      · exact createNewHeadBatch_writes seq

/-- One pass of the duplication loop, on a batch that is stored, is a sequence of writes. -/
theorem duplicateStep_writes {l1 : L1View} {l1Head : L1Block} {st : Storage Tx}
    {prev : Option (Batch Tx)} {currentHead : L2BatchHash} {orphanBatch : Batch Tx}
    {mempool : mempoolManager Tx} (horphan : ∃ r ∈ st.batches, r.batch = orphanBatch) :
    Relation.ReflTransGen (Write seq) ⟨st, mempool⟩
      ⟨(Sequencer.duplicateStep seq l1 l1Head (st, prev, currentHead) orphanBatch).2.1, mempool⟩ := by
  obtain ⟨r, hr, hbatch⟩ := horphan
  rw [Sequencer.duplicateStep]
  split
  · exact .refl
  · split
    · exact .refl
    · next sequencerNo hno =>
      -- the orphan's transactions are those of a stored batch
      have hproduced : Relation.ReflTransGen (Write seq) ⟨st, mempool⟩
          ⟨(Sequencer.produceBatch seq l1 st (sequencerNo + 1) l1Head.parentHash currentHead
            orphanBatch.Transactions orphanBatch.Header.Time).2, mempool⟩ :=
        .single (.next hno fun tx htx => .inr ⟨r, hr, hbatch ▸ htx⟩)
      split
      · next hres =>
        rw [hres] at hproduced
        exact hproduced
      · next hres =>
        rw [hres] at hproduced
        exact hproduced

/-- The batches to duplicate are batches of the table. -/
theorem exists_row_of_mem_orphans {st : Storage Tx} {path : List L1BlockHash} {o : Batch Tx}
    (ho : o ∈ sortByHeight (path.flatMap (FetchBatchesByBlock st))) :
    ∃ r ∈ st.batches, r.batch = o := by
  have hread : o ∈ path.flatMap (FetchBatchesByBlock st) := (List.mergeSort_perm _ _).mem_iff.mp ho
  obtain ⟨block, -, hblock⟩ := List.mem_flatMap.mp hread
  obtain ⟨r, hr, rfl⟩ := List.mem_map.mp hblock
  exact ⟨r, List.mem_of_mem_filter ((List.mergeSort_perm _ _).mem_iff.mp hr), rfl⟩

/-- The duplication loop is a sequence of writes, whatever it returns, on batches of the table:
each pass is, on a batch the writes before it kept. -/
theorem run_duplicateStep_writes {l1 : L1View} {l1Head : L1Block} {mempool : mempoolManager Tx}
    (orphans : List (Batch Tx)) (acc : Storage Tx × Option (Batch Tx) × L2BatchHash)
    (horphans : ∀ o ∈ orphans, ∃ r ∈ acc.1.batches, r.batch = o) :
    Relation.ReflTransGen (Write seq) ⟨acc.1, mempool⟩
      ⟨(CommitLoop.run (Sequencer.duplicateStep seq l1 l1Head) acc orphans).2.1, mempool⟩ := by
  refine CommitLoop.run_preserves
    (fun (acc' : Storage Tx × Option (Batch Tx) × L2BatchHash) =>
      Relation.ReflTransGen (Write seq) ⟨acc.1, mempool⟩ ⟨acc'.1, mempool⟩)
    (fun o => ∃ r ∈ acc.1.batches, r.batch = o) ?_ orphans acc horphans .refl
  intro ⟨st', prev', head'⟩ o hacc ⟨r, hr, hbatch⟩
  obtain ⟨r', hr', hcore⟩ := exists_row_of_writes seq hacc hr
  have hbatch' : r'.batch = r.batch := congrArg (fun c => c.2.2) hcore
  exact hacc.trans (duplicateStep_writes seq ⟨r', hr', hbatch'.trans hbatch⟩)

theorem duplicateBatches_writes {l1 : L1View} {st : Storage Tx} {l1Head : L1Block}
    {path : List L1BlockHash} {mempool : mempoolManager Tx} :
    Relation.ReflTransGen (Write seq) ⟨st, mempool⟩
      ⟨(Sequencer.duplicateBatches seq l1 st l1Head path).2, mempool⟩ := by
  unfold Sequencer.duplicateBatches
  split
  · exact .refl
  · next first rest horphans =>
    exact run_duplicateStep_writes seq (first :: rest) (st, none, first.Header.ParentHash)
      fun o ho => exists_row_of_mem_orphans (horphans ▸ ho)

theorem OnL1Fork_writes {l1 : L1View} {st : Storage Tx} {fork : EnclaveDB.ChainFork}
    {mempool : mempoolManager Tx} :
    Relation.ReflTransGen (Write seq) ⟨st, mempool⟩
      ⟨(Sequencer.OnL1Fork seq l1 st fork).2, mempool⟩ := by
  unfold Sequencer.OnL1Fork
  have hdup : Relation.ReflTransGen (Write seq) ⟨st, mempool⟩
      ⟨(Sequencer.duplicateBatches seq l1 st fork.NewCanonical fork.NonCanonicalPath).2, mempool⟩ :=
    duplicateBatches_writes seq
  split
  · exact .refl
  · split
    · next hres =>
      rw [hres] at hdup
      exact hdup
    · next hres =>
      rw [hres] at hdup
      -- the rollup table is only read
      split
      · exact hdup
      · split
        · exact hdup
        · exact hdup

end Writes

/-! ## Duplicating the orphaned batches -/

section Duplicates

theorem FetchBatchBySeqNo_eq_ok {st : Storage Tx} {seqNo : UInt64} {b : Batch Tx}
    (h : FetchBatchBySeqNo st seqNo = .ok b) : ∃ r ∈ st.batches, r.batch = b := by
  unfold FetchBatchBySeqNo at h
  split at h
  · next r hfind =>
    cases h
    exact ⟨r, List.mem_of_find?_eq_some hfind, rfl⟩
  · cases h

/-- Under well-formed rows, a batch `StoreBatch` accepts has a row under its hash. -/
theorem StoreBatch_stored {rlpHash : BatchHeader → Hash} {isCanon : L1BlockHash → Bool}
    {st st' : Storage Tx} {batch : Batch Tx} (hwf : RowsWF rlpHash st)
    (h : StoreBatch rlpHash isCanon st batch = .ok st') :
    ∃ r ∈ st'.batches, r.hash = batch.Hash rlpHash := by
  unfold StoreBatch at h
  split at h
  · next existing hfetch =>
    -- the batch of the same sequence number has the same hash
    split at h
    · cases h
    · next hsame =>
      cases h
      obtain ⟨r, hr, rfl⟩ := FetchBatchBySeqNo_eq_ok hfetch
      exact ⟨r, hr, (hwf.hash r hr).trans (not_not.mp hsame)⟩
  · have hw := Except.mapError_eq_ok.mp h
    unfold BatchStorage.WriteBatchAndTransactions at hw
    split_ifs at hw
    cases hw
    exact ⟨_, List.mem_append_right _ (List.mem_singleton_self _), rfl⟩

/-- Under well-formed rows, a batch `sequencer.StoreExecutedBatch` reports stored has a row under
its hash. -/
theorem sequencerStoreExecutedBatch_stored {rlpHash : BatchHeader → Hash}
    {isCanon : L1BlockHash → Bool} {stateAt : Hash → Except String StateDB} {st st' : Storage Tx}
    {batch : Batch Tx} {receipts : List Receipt} (hwf : RowsWF rlpHash st)
    (h : sequencerStoreExecutedBatch rlpHash isCanon stateAt st batch receipts = (.ok (), st')) :
    ∃ r ∈ st'.batches, r.hash = batch.Hash rlpHash := by
  unfold sequencerStoreExecutedBatch at h
  split at h
  · next b hfetch =>
    -- stored before: nothing is written
    cases h
    obtain ⟨r, hr, hhash, -⟩ := FetchBatch_eq_ok hfetch
    exact ⟨r, hr, hhash⟩
  · split at h
    · cases h
    · next st₁ hstore =>
      obtain ⟨r, hr, hhash⟩ := StoreBatch_stored hwf hstore
      split at h
      · cases h
      · next st₂ hexec =>
        cases h
        obtain ⟨r', hr', hhash', -⟩ := exists_core_of_mem (map_core_StoreExecutedBatch hexec).symm hr
        exact ⟨r', hr', hhash'.symm.trans hhash⟩

/-- A batch `produceBatch` returns was computed, signed and reported stored. -/
theorem produceBatch_eq_ok {l1 : L1View} {st st' : Storage Tx} {sequencerNo : Nat}
    {l1Hash : L1BlockHash} {headBatch : L2BatchHash} {transactions : List Tx}
    {batchTime : UInt64} {d : Batch Tx}
    (h : Sequencer.produceBatch seq l1 st sequencerNo l1Hash headBatch transactions batchTime =
      (.ok d, st')) :
    ∃ cb, ComputeBatch seq.env (executorStorage seq l1 st)
        ⟨l1Hash, headBatch, transactions, batchTime, sequencerNo⟩ = .ok cb ∧
      signBatch seq cb.Batch = .ok d ∧ StoreExecutedBatch seq l1 st d cb.Receipts = (.ok (), st') := by
  unfold Sequencer.produceBatch at h
  split at h
  · cases h
  · next cb hcb =>
    split at h
    · cases h
    · split at h
      · cases h
      · next batch hsign =>
        split at h
        · cases h
        · next hstore =>
          cases h
          exact ⟨cb, hcb, hsign, hstore⟩

/-- **What a produced batch is.** On well-formed rows, a batch `produceBatch` returns is on the
head it was given, at the given time, with some of the given transactions, on the block the L1
hash names, and stored under its hash. -/
theorem produceBatch_ok_spec {l1 : L1View} {st st' : Storage Tx} {sequencerNo : Nat}
    {l1Hash : L1BlockHash} {headBatch : L2BatchHash} {transactions : List Tx}
    {batchTime : UInt64} {d : Batch Tx} (hwf : RowsWF seq.env.RlpHash st)
    (h : Sequencer.produceBatch seq l1 st sequencerNo l1Hash headBatch transactions batchTime =
      (.ok d, st')) :
    d.Header.ParentHash = headBatch ∧ d.Header.Time = batchTime ∧
      d.Transactions.Sublist transactions ∧
      (∃ blk, l1.FetchBlock l1Hash = .ok blk ∧ d.Header.L1Proof = blk.hash) ∧
      ∃ r ∈ st'.batches, r.hash = d.Hash seq.env.RlpHash := by
  obtain ⟨cb, hcb, hsign, hstore⟩ := produceBatch_eq_ok seq h
  obtain ⟨parent, blk, hparent, hblk, hph, -, -, hproof, htime, hsub⟩ := ComputeBatch_lineage hcb
  obtain ⟨r, s, rfl⟩ := signBatch_eq_ok seq hsign
  -- the parent is the row under the head's hash, so its hash is the head
  obtain ⟨p, hp, hphash, rfl⟩ := FetchBatch_eq_ok hparent
  have hhead : p.batch.Hash seq.env.RlpHash = headBatch := (hwf.hash p hp).symm.trans hphash
  exact ⟨hph.trans hhead, htime, hsub, ⟨blk, hblk, hproof⟩, sequencerStoreExecutedBatch_stored hwf hstore⟩

/-- A pass of the duplication loop that succeeds checked its batch against the one before and
produced its duplicate, which becomes the head. -/
theorem duplicateStep_eq_ok {l1 : L1View} {l1Head : L1Block} {st st' : Storage Tx}
    {prev prev' : Option (Batch Tx)} {head head' : L2BatchHash} {orphanBatch : Batch Tx}
    (h : Sequencer.duplicateStep seq l1 l1Head (st, prev, head) orphanBatch =
      (.ok (), (st', prev', head'))) :
    consecutive seq prev orphanBatch = true ∧ prev' = some orphanBatch ∧
      ∃ sequencerNo d, FetchCurrentSequencerNo st = .ok sequencerNo ∧
        Sequencer.produceBatch seq l1 st (sequencerNo + 1) l1Head.parentHash head
          orphanBatch.Transactions orphanBatch.Header.Time = (.ok d, st') ∧
        head' = d.Hash seq.env.RlpHash := by
  rw [Sequencer.duplicateStep] at h
  split at h
  · cases h
  · next hcons =>
    split at h
    · cases h
    · next sequencerNo hno =>
      split at h
      · cases h
      · next d st₁ hres =>
        cases h
        exact ⟨by simpa using hcons, rfl, sequencerNo, d, hno, hres, rfl⟩

/-- `ds` duplicates the batches `os` on `head`: the first duplicate is on `head` and each next
one on the duplicate before it, each with its batch's time and a part of its transactions. -/
def DuplicatesOn (rlpHash : BatchHeader → Hash) :
    L2BatchHash → List (Batch Tx) → List (Batch Tx) → Prop
  | _, [], [] => True
  | head, o :: os, d :: ds =>
    d.Header.ParentHash = head ∧ d.Header.Time = o.Header.Time ∧
      d.Transactions.Sublist o.Transactions ∧ DuplicatesOn rlpHash (d.Hash rlpHash) os ds
  | _, _, _ => False

/-- **The duplication loop.** A run of the loop that succeeds, on batches of a table with the
invariant, went through batches that follow the one before (after `prev`, if any) and left, in
the table, their duplicates on `head` against the new head's parent block. The induction is on
the batches, from the state each pass leaves. -/
theorem run_duplicateStep_eq_ok {l1 : L1View} {l1Head : L1Block} :
    ∀ (orphans : List (Batch Tx)) {st st' : Storage Tx} {prev prev' : Option (Batch Tx)}
      {head head' : L2BatchHash},
      SeqInv seq.env.RlpHash st → (∀ o ∈ orphans, ∃ r ∈ st.batches, r.batch = o) →
      CommitLoop.run (Sequencer.duplicateStep seq l1 l1Head) (st, prev, head) orphans =
        (.ok (), (st', prev', head')) →
      (prev.toList ++ orphans).IsChain (fun a b => b.Header.ParentHash = a.Hash seq.env.RlpHash) ∧
      ∃ ds, DuplicatesOn seq.env.RlpHash head orphans ds ∧
        ∀ d ∈ ds, (∃ blk, l1.FetchBlock l1Head.parentHash = .ok blk ∧ d.Header.L1Proof = blk.hash) ∧
          ∃ r ∈ st'.batches, r.hash = d.Hash seq.env.RlpHash
  | [], st, st', prev, prev', head, head', _, _, h => by
    cases h
    refine ⟨?_, [], trivial, by simp⟩
    cases prev <;> simp
  | o :: os, st, st', prev, prev', head, head', hinv, horphans, h => by
    obtain ⟨⟨st₁, prev₁, head₁⟩, hstep, hrest⟩ := CommitLoop.run_cons_eq_ok.mp h
    obtain ⟨hcons, rfl, sequencerNo, d, hno, hprod, rfl⟩ := duplicateStep_eq_ok seq hstep
    obtain ⟨hparent, htime, hsub, hblk, hstored⟩ := produceBatch_ok_spec seq hinv.rows hprod
    -- the table after this pass keeps the invariant and the batches still to duplicate
    have hinv₁ : SeqInv seq.env.RlpHash st₁ := by
      have h₁ : SeqInv seq.env.RlpHash (Sequencer.produceBatch seq l1 st (sequencerNo + 1)
          l1Head.parentHash head o.Transactions o.Header.Time).2 :=
        hinv.produceBatch_next seq hno
      rwa [hprod] at h₁
    have hwrites : Relation.ReflTransGen (Write seq) ⟨st, ⟨[]⟩⟩ ⟨st₁, ⟨[]⟩⟩ := by
      have hw : Relation.ReflTransGen (Write seq) ⟨st, ⟨[]⟩⟩
          ⟨(Sequencer.duplicateStep seq l1 l1Head (st, prev, head) o).2.1, ⟨[]⟩⟩ :=
        duplicateStep_writes seq (horphans o List.mem_cons_self)
      rwa [hstep] at hw
    have horphans₁ : ∀ o' ∈ os, ∃ r ∈ st₁.batches, r.batch = o' := by
      intro o' ho'
      obtain ⟨r, hr, rfl⟩ := horphans o' (List.mem_cons_of_mem o ho')
      obtain ⟨r', hr', hcore⟩ := exists_row_of_writes seq hwrites hr
      exact ⟨r', hr', congrArg (fun c => c.2.2) hcore⟩
    obtain ⟨hchain, ds, hdup, hds⟩ := run_duplicateStep_eq_ok os hinv₁ horphans₁ hrest
    -- the duplicate of `o` stays stored through the later passes
    have hkept : ∃ r ∈ st'.batches, r.hash = d.Hash seq.env.RlpHash := by
      obtain ⟨r, hr, hhash⟩ := hstored
      have hw : Relation.ReflTransGen (Write seq) ⟨st₁, ⟨[]⟩⟩
          ⟨(CommitLoop.run (Sequencer.duplicateStep seq l1 l1Head)
            (st₁, some o, d.Hash seq.env.RlpHash) os).2.1, ⟨[]⟩⟩ :=
        run_duplicateStep_writes seq os (st₁, some o, d.Hash seq.env.RlpHash) horphans₁
      rw [hrest] at hw
      obtain ⟨r', hr', hcore⟩ := exists_row_of_writes seq hw hr
      exact ⟨r', hr', (congrArg Prod.fst hcore).trans hhash⟩
    refine ⟨?_, d :: ds, ⟨hparent, htime, hsub, hdup⟩, ?_⟩
    · cases prev with
      | none => exact hchain
      | some p =>
        have hpo : o.Header.ParentHash = p.Hash seq.env.RlpHash := by
          simpa [consecutive] using hcons
        exact List.isChain_cons_cons.mpr ⟨hpo, hchain⟩
    · intro d' hd'
      rcases List.mem_cons.mp hd' with rfl | hd'
      · exact ⟨hblk, hkept⟩
      · exact hds d' hd'

/-- **Duplicating the orphaned batches.** When `duplicateBatches` succeeds on a table with the
invariant, the batches it read (those of the blocks that left the canonical chain, by height)
follow one another, each the child of the one before, and the table then holds duplicates of
them in the same order: the first on the first orphan's parent and each next one on the
duplicate before it, each with its orphan's time and some of its transactions, on the block the
new head's parent hash names. -/
theorem duplicateBatches_eq_ok {l1 : L1View} {st st' : Storage Tx} {l1Head : L1Block}
    {path : List L1BlockHash} (hinv : SeqInv seq.env.RlpHash st)
    (h : Sequencer.duplicateBatches seq l1 st l1Head path = (.ok (), st')) :
    (sortByHeight (path.flatMap (FetchBatchesByBlock st))).IsChain
        (fun a b => b.Header.ParentHash = a.Hash seq.env.RlpHash) ∧
      ∀ first rest, sortByHeight (path.flatMap (FetchBatchesByBlock st)) = first :: rest →
        ∃ ds, DuplicatesOn seq.env.RlpHash first.Header.ParentHash (first :: rest) ds ∧
          ∀ d ∈ ds, (∃ blk, l1.FetchBlock l1Head.parentHash = .ok blk ∧
            d.Header.L1Proof = blk.hash) ∧ ∃ r ∈ st'.batches, r.hash = d.Hash seq.env.RlpHash := by
  unfold Sequencer.duplicateBatches at h
  split at h
  · next horphans =>
    -- nothing to duplicate
    rw [horphans]
    exact ⟨.nil, fun _ _ hnil => by cases hnil⟩
  · next first rest horphans =>
    rcases hrun : CommitLoop.run (Sequencer.duplicateStep seq l1 l1Head)
        (st, none, first.Header.ParentHash) (first :: rest) with ⟨res, st₁, prev', head'⟩
    simp only [hrun, Prod.mk.injEq] at h
    obtain ⟨rfl, rfl⟩ := h
    obtain ⟨hchain, ds, hdup, hds⟩ := run_duplicateStep_eq_ok seq (first :: rest) hinv
      (fun o ho => exists_row_of_mem_orphans (horphans ▸ ho)) hrun
    rw [horphans]
    refine ⟨hchain, ?_⟩
    intro first' rest' hcons
    cases hcons
    exact ⟨ds, hdup, hds⟩

/-- A sequencer over unit transactions: a header hashes to its sequence number, and every call
into go-ethereum but a transaction's execution succeeds, as does every signature. -/
def unitSeq : sequencer Unit where
  env :=
    { Keccak256 := fun _ => 0
      RlpHash := fun h => BitVec.ofNat 256 h.SequencerOrderNo
      TxHash := fun _ => 0
      Sender := fun _ => .ok 0
      ApplyTransaction := fun _ _ _ _ => .error "no execution"
      GetLogs := fun _ _ _ _ => []
      Finalise := id
      IntermediateRoot := fun _ => 0
      DeriveShaTxs := fun _ => 0
      DeriveShaReceipts := fun _ => 0
      CreateSyntheticTransactions := fun _ _ => []
      ExtractOutboundMessages := fun _ => .ok []
      Commit := fun _ => .ok 0 }
  stateAt _ := .ok ⟨fun _ => 0, fun _ => []⟩
  Secret := []
  sign _ := .ok (0, 0)
  GetGenesisRoot := .ok 0
  CommitGenesisState := .ok ()
  GenerateMessageBusDeployTx := .ok ()
  Nonce _ := 0
  getRlpSize _ := .ok 0
  sortByNonce := insertionSortByNonce _
  MaxBatchSize := 0

/-- L1 blocks `1`, its child `2`, and `3`, a second child of `1` that has become the head. -/
def cxForkL1 : L1View :=
  ⟨⟨fun h => if h = 1 then .ok ⟨1, 0, 1⟩ else if h = 2 then .ok ⟨2, 1, 2⟩
      else if h = 3 then .ok ⟨3, 1, 2⟩ else .error ErrNotFound,
    fun _ => .ok []⟩, fun h => h == 1 || h == 3, .ok ⟨3, 1, 2⟩, fun _ => .error ErrNotFound⟩

/-- The genesis batch on block `1`, and its child on block `2` with one transaction. -/
def cxGenesis : Batch Unit := ⟨{ cxStoreHeader 0 1 0 with L1Proof := 1 }, []⟩
def cxOrphan : Batch Unit := ⟨{ cxStoreHeader 1 2 1 with L1Proof := 2 }, [()]⟩

/-- Both batches executed; block `2` has left the canonical chain, and its batch with it. -/
def cxForkStorage : Storage Unit :=
  ⟨[⟨1, 1, 0, true, cxGenesis, true⟩, ⟨2, 2, 1, false, cxOrphan, true⟩], [], []⟩

/-- On the fork to block `3`, the batch of block `2` is duplicated on the genesis batch, against
block `1`; its transaction fails and is left out. -/
theorem duplicateBatches_eq_ok_fork :
    SeqInv unitSeq.env.RlpHash cxForkStorage ∧
      (Sequencer.duplicateBatches unitSeq cxForkL1 cxForkStorage ⟨3, 1, 2⟩ [2]).1 = .ok () ∧
      ∃ ds, DuplicatesOn unitSeq.env.RlpHash cxOrphan.Header.ParentHash [cxOrphan] ds := by
  have hinv : SeqInv unitSeq.env.RlpHash cxForkStorage :=
    ⟨⟨by decide, by decide⟩, by unfold SeqRange; decide, by unfold Rooted; decide⟩
  have horphans : sortByHeight ([(2 : L1BlockHash)].flatMap (FetchBatchesByBlock cxForkStorage)) =
      [cxOrphan] := by
    simp [sortByHeight, FetchBatchesByBlock, cxForkStorage, cxGenesis, cxOrphan, cxStoreHeader]
  have hok : (Sequencer.duplicateBatches unitSeq cxForkL1 cxForkStorage ⟨3, 1, 2⟩ [2]).1 = .ok () := by
    rw [Sequencer.duplicateBatches, horphans]
    decide
  obtain ⟨-, hdup⟩ := duplicateBatches_eq_ok unitSeq hinv (Prod.ext hok rfl)
  obtain ⟨ds, hds, -⟩ := hdup cxOrphan [] horphans
  exact ⟨hinv, hok, ds, hds⟩

end Duplicates

/-! ## Runs of calls -/

section Runs

/-- `sequencer.SubmitTransaction(transaction)`: `mempool.AddMempoolTx`. -/
def SubmitTransaction (st : SeqState Tx) (transaction : Tx) : Except String Unit × SeqState Tx :=
  match AddMempoolTx seq.env.Sender seq.env.TxHash st.mempool transaction with
  | .ok mempool => (.ok (), { st with mempool })
  | .error err => (.error err, st)

/-- What drives the sequencer: the host's request for a batch, a submitted transaction, and an
L1 block stored by the enclave, which sets the canonical flags of the batch table
(`storage.StoreBlock`) and, on a fork, duplicates the orphaned batches. The calls come in any
order. -/
inductive Call (Tx : Type) where
  | CreateBatch (l1 : L1View) (timeNow : UInt64)
  | SubmitTransaction (transaction : Tx)
  | StoreBlock (canonical nonCanonical : List L1BlockHash)
  | OnL1Fork (l1 : L1View) (fork : EnclaveDB.ChainFork)

/-- A call's effect on the state, whatever it returns. -/
def Call.apply : Call Tx → SeqState Tx → SeqState Tx
  | .CreateBatch l1 timeNow, st => (Sequencer.CreateBatch seq l1 st timeNow).2
  | .SubmitTransaction transaction, st => (Sequencer.SubmitTransaction seq st transaction).2
  | .StoreBlock canonical nonCanonical, st =>
    { st with storage := UpdateCanonicalBlocks canonical nonCanonical st.storage }
  | .OnL1Fork l1 fork, st => { st with storage := (Sequencer.OnL1Fork seq l1 st.storage fork).2 }

/-- The state after a sequence of calls. -/
def runCalls (calls : List (Call Tx)) (st : SeqState Tx) : SeqState Tx :=
  calls.foldl (fun st c => c.apply seq st) st

theorem Call.apply_writes (c : Call Tx) (st : SeqState Tx) :
    Relation.ReflTransGen (Write seq) st (c.apply seq st) := by
  cases c with
  | CreateBatch l1 timeNow => exact CreateBatch_writes seq
  | SubmitTransaction transaction =>
    rw [Call.apply, Sequencer.SubmitTransaction]
    split
    · next mempool hadd => exact .single (.add hadd)
    · exact .refl
  | StoreBlock canonical nonCanonical =>
    exact .single (.flags (map_core_UpdateCanonicalBlocks canonical nonCanonical st.storage))
  | OnL1Fork l1 fork => exact OnL1Fork_writes seq

theorem runCalls_writes (calls : List (Call Tx)) (st : SeqState Tx) :
    Relation.ReflTransGen (Write seq) st (runCalls seq calls st) := by
  induction calls generalizing st with
  | nil => exact .refl
  | cons c calls ih => exact (c.apply_writes seq st).trans (ih (c.apply seq st))

/-- **The sequencer's invariant over every run.** From the empty state, after any sequence of
calls in any order, whatever each returns: every batch row is stored under its batch's hash,
once; the sequence numbers are `1, 2, …, n` in table order; every batch is a genesis batch or
the child of a stored batch one height lower; every transaction of a stored batch has a sender
that recovers; and the mempool holds one entry per hash, under its transaction's hash, of
transactions whose sender recovers. -/
theorem runCalls_stateInv (calls : List (Call Tx)) :
    StateInv seq (runCalls seq calls SeqState.empty) :=
  (StateInv.empty seq).of_writes seq (runCalls_writes seq calls _)

/-- **The batch table is append-only.** Over any sequence of calls from any state, no stored
row's hash, sequence number or batch changes and no row is removed: the rows' cores before are a
prefix of those after, and only the canonical and executed flags change. -/
theorem runCalls_cores_prefix (calls : List (Call Tx)) (st : SeqState Tx) :
    st.storage.batches.map core <+: (runCalls seq calls st).storage.batches.map core :=
  cores_prefix_of_writes seq (runCalls_writes seq calls st)

end Runs

end Obscuro.Sequencer
