import Obscuro.Enclave.Rollups

/-!
# Executing the batches of a rollup

`RollupCompression.executeAndSaveIncompleteBatches` of
`go/enclave/components/rollup_compression.go`, the second step of `ProcessExtRollup`: each
batch rebuilt from a rollup is looked up by sequence number, and when it is not stored it is
created as the genesis batch, stored from the header it carries (a re-orged batch), or
executed on top of the current parent with `computeBatch`. The parent starts as the rollup's
`FirstCanonParentHash` and moves to every batch found stored, created or computed; a re-orged
batch stored from its header does not move it.

The store and the executor are a parameter, `Executor`. The run records the calls to
`computeBatch` as pairs of the batch's sequence number and the parent hash passed.

Main results:

* `executeAndSaveLoop_calls_extend` — the calls of a run extend the calls before it;
* `executeAndSaveIncompleteBatches_storedParent` — a batch already stored becomes the parent
  of the canonical batch after it, even when the rollup says it was re-orged.
-/

namespace Obscuro.Rollups

open RollupCompression

variable {Tx σ : Type}

/-- What `executeAndSaveIncompleteBatches` calls, over a store `σ`: the batch reads and writes
of `storage.Storage`, `batchExecutor.CreateGenesisState`, `computeBatch` (which reads the
parent's state from the store) and the commit of the computed state. -/
structure Executor (Tx σ : Type) where
  FetchBatch : σ → L2BatchHash → Except String (Batch Tx)
  FetchBatchBySeqNo : σ → UInt64 → Except String (Batch Tx)
  StoreBatch : Batch Tx → σ → Except String σ
  StoreExecutedBatch : Batch Tx → σ → Except String σ
  CreateGenesisState : L1BlockHash → UInt64 → Except String (Batch Tx)
  computeBatch : L1BlockHash → L2BatchHash → List Tx → UInt64 → Int → σ →
    Except String (Batch Tx)
  Commit : Batch Tx → Except String Unit

/-- The range loop of `executeAndSaveIncompleteBatches`, from the parent hash `parentHash`,
with the calls to `computeBatch` made so far. -/
def executeAndSaveLoop (e : Executor Tx σ) (rlpHash : BatchHeader → Hash) :
    L2BatchHash → List (BatchFromRollup Tx) → σ → List (Int × L2BatchHash) →
      Except String (σ × List (Int × L2BatchHash))
  | _, [], st, calls => .ok (st, calls)
  | parentHash, incompleteBatch :: rest, st, calls =>
    -- check whether the batch is already stored in the database
    match e.FetchBatchBySeqNo st (Go.bigUint64 incompleteBatch.seqNo) with
    | .ok b => executeAndSaveLoop e rlpHash (b.Hash rlpHash) rest st calls
    | .error err =>
      if err ≠ ErrNotFound then .error err
      else if Go.bigUint64 incompleteBatch.seqNo = UInt64.ofNat L2GenesisSeqNo then do
        -- handle genesis
        let genBatch ← e.CreateGenesisState incompleteBatch.l1Proof incompleteBatch.time
        let st ← e.StoreBatch genBatch st
        let st ← e.StoreExecutedBatch genBatch st
        executeAndSaveLoop e rlpHash (genBatch.Hash rlpHash) rest st calls
      else
        match incompleteBatch.header with
        | some header => do
          -- this batch was re-orged
          let st ← e.StoreBatch ⟨header, incompleteBatch.transactions⟩ st
          executeAndSaveLoop e rlpHash parentHash rest st calls
        | none => do
          let computedBatch ← e.computeBatch incompleteBatch.l1Proof parentHash
            incompleteBatch.transactions incompleteBatch.time incompleteBatch.seqNo st
          (e.Commit computedBatch).mapError fun err =>
            "cannot commit stateDB for incoming valid batch seq=" ++
              toString incompleteBatch.seqNo ++ ". Cause: " ++ err
          let st ← e.StoreBatch computedBatch st
          let st ← e.StoreExecutedBatch computedBatch st
          executeAndSaveLoop e rlpHash (computedBatch.Hash rlpHash) rest st
            (calls ++ [(incompleteBatch.seqNo, parentHash)])

/-- `executeAndSaveIncompleteBatches(calldataRollupHeader, incompleteBatches)`: the store
after it, and the calls to `computeBatch` it made. -/
def executeAndSaveIncompleteBatches (e : Executor Tx σ) (rlpHash : BatchHeader → Hash)
    (calldataRollupHeader : CalldataRollupHeader) (incompleteBatches : List (BatchFromRollup Tx))
    (st : σ) : Except String (σ × List (Int × L2BatchHash)) := do
  let parentHash := calldataRollupHeader.FirstCanonParentHash
  if Go.bigUint64 calldataRollupHeader.FirstBatchSequence ≠ UInt64.ofNat L2GenesisSeqNo then
    let _ ← e.FetchBatch st parentHash
  executeAndSaveLoop e rlpHash parentHash incompleteBatches st []

/-! ## The calls a run makes -/

section Loop

variable {e : Executor Tx σ} {rlpHash : BatchHeader → Hash}

/-- A batch found stored moves the parent to it and calls nothing. -/
theorem executeAndSaveLoop_stored {parentHash : L2BatchHash} {b : BatchFromRollup Tx}
    {rest : List (BatchFromRollup Tx)} {st : σ} {calls : List (Int × L2BatchHash)}
    {stored : Batch Tx} (hstored : e.FetchBatchBySeqNo st (Go.bigUint64 b.seqNo) = .ok stored) :
    executeAndSaveLoop e rlpHash parentHash (b :: rest) st calls =
      executeAndSaveLoop e rlpHash (stored.Hash rlpHash) rest st calls := by
  rw [executeAndSaveLoop, hstored]

/-- A canonical batch that is neither stored nor the genesis batch is computed on the current
parent, and that call is recorded. -/
theorem executeAndSaveLoop_computed {parentHash : L2BatchHash} {b : BatchFromRollup Tx}
    {rest : List (BatchFromRollup Tx)} {st : σ} {calls : List (Int × L2BatchHash)}
    (hnew : e.FetchBatchBySeqNo st (Go.bigUint64 b.seqNo) = .error ErrNotFound)
    (hgen : Go.bigUint64 b.seqNo ≠ UInt64.ofNat L2GenesisSeqNo) (hcanon : b.header = none) :
    executeAndSaveLoop e rlpHash parentHash (b :: rest) st calls = (do
      let computedBatch ← e.computeBatch b.l1Proof parentHash b.transactions b.time b.seqNo st
      (e.Commit computedBatch).mapError fun err =>
        "cannot commit stateDB for incoming valid batch seq=" ++ toString b.seqNo ++
          ". Cause: " ++ err
      let st ← e.StoreBatch computedBatch st
      let st ← e.StoreExecutedBatch computedBatch st
      executeAndSaveLoop e rlpHash (computedBatch.Hash rlpHash) rest st
        (calls ++ [(b.seqNo, parentHash)])) := by
  rw [executeAndSaveLoop, hnew]
  simp only [ne_eq, not_true_eq_false, if_false, hgen, hcanon]

/-- **The calls only grow.** A run that succeeds ends with the calls it started with, then
the calls it made. -/
theorem executeAndSaveLoop_calls_extend :
    ∀ {parentHash : L2BatchHash} {bs : List (BatchFromRollup Tx)} {st st' : σ}
      {calls calls' : List (Int × L2BatchHash)},
      executeAndSaveLoop e rlpHash parentHash bs st calls = .ok (st', calls') → calls <+: calls'
  | _, [], _, _, _, _, h => by
    cases h
    exact List.prefix_refl _
  | parentHash, b :: rest, st, st', calls, calls', h => by
    unfold executeAndSaveLoop at h
    split at h
    · -- already stored
      exact executeAndSaveLoop_calls_extend h
    · split at h
      · cases h
      split at h
      · -- genesis
        obtain ⟨genBatch, -, h⟩ := Except.bind_eq_ok.mp h
        obtain ⟨st₁, -, h⟩ := Except.bind_eq_ok.mp h
        obtain ⟨st₂, -, h⟩ := Except.bind_eq_ok.mp h
        exact executeAndSaveLoop_calls_extend h
      split at h
      · -- re-orged: stored from its header
        obtain ⟨st₁, -, h⟩ := Except.bind_eq_ok.mp h
        exact executeAndSaveLoop_calls_extend h
      · -- computed: the call is recorded before the rest of the loop
        obtain ⟨computedBatch, -, h⟩ := Except.bind_eq_ok.mp h
        obtain ⟨-, -, h⟩ := Except.bind_eq_ok.mp h
        obtain ⟨st₁, -, h⟩ := Except.bind_eq_ok.mp h
        obtain ⟨st₂, -, h⟩ := Except.bind_eq_ok.mp h
        exact (List.prefix_append _ _).trans (executeAndSaveLoop_calls_extend h)

end Loop

/-- **A stored batch becomes the parent, re-orged or not.** When a rollup's first batch is
already in storage and the next is a canonical batch still to be computed, a successful run
computes that batch on top of the stored batch's hash. The branch for a stored batch does not
read the header the rollup carries for it, so this holds of a re-orged batch too. -/
theorem executeAndSaveIncompleteBatches_storedParent (e : Executor Tx σ)
    (rlpHash : BatchHeader → Hash) (hdr : CalldataRollupHeader)
    (r c : BatchFromRollup Tx) (rest : List (BatchFromRollup Tx)) (st st' : σ)
    (calls : List (Int × L2BatchHash)) (stored : Batch Tx)
    (hstored : e.FetchBatchBySeqNo st (Go.bigUint64 r.seqNo) = .ok stored)
    (hnew : e.FetchBatchBySeqNo st (Go.bigUint64 c.seqNo) = .error ErrNotFound)
    (hgen : Go.bigUint64 c.seqNo ≠ UInt64.ofNat L2GenesisSeqNo) (hcanon : c.header = none)
    (h : executeAndSaveIncompleteBatches e rlpHash hdr (r :: c :: rest) st = .ok (st', calls)) :
    calls.head? = some (c.seqNo, stored.Hash rlpHash) := by
  -- the initial check of the first parent changes nothing
  have hloop : executeAndSaveLoop e rlpHash hdr.FirstCanonParentHash (r :: c :: rest) st [] =
      .ok (st', calls) := by
    unfold executeAndSaveIncompleteBatches at h
    split at h
    · obtain ⟨-, -, h⟩ := Except.bind_eq_ok.mp h
      exact h
    · exact h
  rw [executeAndSaveLoop_stored hstored, executeAndSaveLoop_computed hnew hgen hcanon] at hloop
  obtain ⟨computedBatch, -, hloop⟩ := Except.bind_eq_ok.mp hloop
  obtain ⟨-, -, hloop⟩ := Except.bind_eq_ok.mp hloop
  obtain ⟨st₁, -, hloop⟩ := Except.bind_eq_ok.mp hloop
  obtain ⟨st₂, -, hloop⟩ := Except.bind_eq_ok.mp hloop
  obtain ⟨tail, rfl⟩ := executeAndSaveLoop_calls_extend hloop
  rfl

/-- A rollup of two batches after sequence number 4: batch 5 was re-orged and is stored
already, batch 6 is canonical and new. The first canonical batch's parent is hash `9`. -/
def cxExecHdr : CalldataRollupHeader := ⟨5, 3, 9, 100, [], [], []⟩
def cxExecStored : Batch Unit := ⟨cxHeader 3 5 100 2, []⟩
def cxExecReorged : BatchFromRollup Unit := ⟨[], 5, 3, 0, 100, 2, some (cxHeader 3 5 100 2)⟩
def cxExecCanon : BatchFromRollup Unit := ⟨[], 6, 3, 0, 101, 2, none⟩

/-- A store holding batch 5 only, where every write and execution succeeds. -/
def cxExecutor : Executor Unit Unit where
  FetchBatch _ _ := .ok cxExecStored
  FetchBatchBySeqNo _ seqNo := if seqNo = 5 then .ok cxExecStored else .error ErrNotFound
  StoreBatch _ st := .ok st
  StoreExecutedBatch _ st := .ok st
  CreateGenesisState _ _ := .error "unused"
  computeBatch l1Proof _ _ time seqNo _ := .ok ⟨cxHeader 3 seqNo.toNat time l1Proof, []⟩
  Commit _ := .ok ()

theorem executeAndSaveIncompleteBatches_storedParent_reorged :
    cxExecReorged.header.isSome ∧ cxExecStored.Hash cxRlpHash ≠ cxExecHdr.FirstCanonParentHash ∧
      ∃ calls, executeAndSaveIncompleteBatches cxExecutor cxRlpHash cxExecHdr
          [cxExecReorged, cxExecCanon] () = .ok ((), calls) ∧
        calls.head? = some (cxExecCanon.seqNo, cxExecStored.Hash cxRlpHash) := by
  have hrun : executeAndSaveIncompleteBatches cxExecutor cxRlpHash cxExecHdr
      [cxExecReorged, cxExecCanon] () = .ok ((), [(6, 5)]) := by decide
  exact ⟨rfl, by decide, _, hrun,
    executeAndSaveIncompleteBatches_storedParent cxExecutor cxRlpHash cxExecHdr cxExecReorged
      cxExecCanon [] () () _ cxExecStored rfl rfl (by decide) rfl hrun⟩

end Obscuro.Rollups
