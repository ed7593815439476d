import Obscuro.Enclave.RollupCompression

/-!
# Producing, signing and consuming rollups

The sequencer's side: `batchRegistry.BatchesAfter` of `go/enclave/components/batch_registry.go`,
`rollupProducerImpl.CreateRollup` and `createNextRollup` of
`go/enclave/components/rollup_producer.go`, `sequencer.CreateRollup` and `signRollup` of
`go/enclave/nodetype/sequencer.go`, and `RollupCompression.CreateExtRollup`. The validator's
side: `rollupConsumerImpl.getSignedRollup` of `go/enclave/components/rollup_consumer.go` and
`RollupCompression.ProcessExtRollup`.

A rollup takes the stored batches with consecutive sequence numbers from a given one on,
re-orged batches included: the compression carries their full headers so that validators can
rebuild them. Its header lists the cross-chain messages of all of them. The sequencer signs
`RollupHeader.Hash()`, which covers the header only: the compressed batches travel beside it
in `CalldataRollupHeader` and `BatchPayloads`, and the header's `PayloadHash` is never set.

The serialisation, compression and encryption of the two payloads are parameters, as are the
signature and the sequencer's signature check.

Main results:

* `CreateRollup_eq_ok` — what the producer puts in a rollup;
* `Sequencer.CreateRollup_payloadHash` — a published rollup's `PayloadHash` is always zero;
* `getSignedRollup_payloads`, `ProcessExtRollup_transactions` — the signature check does not
  read the payloads, and the validator rebuilds batches from whatever transactions they hold;
* `ProcessExtRollup_unsignedPayload`, `CreateRollup_publishesReorgedMessages` — a rollup
  whose payload was swapped passes the check, and a rollup over a re-org publishes the
  messages of the re-orged batch beside those of its duplicate.
-/

namespace Obscuro.Rollups

open RollupCompression

variable {Tx : Type}

/-- `core.Rollup`: the header and the batches it carries. -/
structure Rollup (Tx : Type) where
  Header : RollupHeader
  Batches : List (Batch Tx)

/-- What the producer reads of `storage.Storage`, beside the two methods the compression
reads. -/
structure Store (Tx : Type) extends RollupCompression.Storage Tx where
  FetchHeadBatch : Except String (Batch Tx)
  FetchBatchBySeqNo : UInt64 → Except String (Batch Tx)
  FetchCanonicaBlockByHeight : Int → Except String L1Block
  FetchHeadBlock : Except String L1Block

/-! ## Choosing the batches -/

/-- `rollupLimiter.AcceptBatch(batch)`: take the batch if its RLP encoding (of length
`encodedSize batch`) fits in the bytes left, and charge them. -/
def AcceptBatch (encodedSize : Batch Tx → Except String Nat) (remainingSize : UInt64)
    (batch : Batch Tx) : Except String (Bool × UInt64) := do
  let size ← (encodedSize batch).mapError fun err => "failed to encode data: " ++ err
  let encodedSize := UInt64.ofNat size
  if encodedSize > remainingSize then pure (false, remainingSize)
  else pure (true, remainingSize - encodedSize)

/-- The loop of `BatchesAfter` from `currentBatchSeq` on: fetch the batch of that sequence
number and stop at the first whose L1 proof is above `upToL1Height` or that the limiter
refuses. The Go loop runs while `currentBatchSeq ≤ headSeqNo`; `fuel` bounds it by the number
of sequence numbers up to `headSeqNo`, after which the condition fails unless the `uint64`
counter wrapped. -/
def batchesAfterLoop (s : Store Tx) (encodedSize : Batch Tx → Except String Nat)
    (upToL1Height headSeqNo : UInt64) :
    Nat → UInt64 → UInt64 → Except String (List (Batch Tx))
  -- the loop goes on only when `currentBatchSeq` wrapped around past `headSeqNo`
  | 0, currentBatchSeq, _ =>
    if currentBatchSeq ≤ headSeqNo then .error "batch loop exhausted" else .ok []
  | fuel + 1, currentBatchSeq, remainingSize =>
    if currentBatchSeq ≤ headSeqNo then do
      let batch ← (s.FetchBatchBySeqNo currentBatchSeq).mapError fun err =>
        "could not retrieve batch by sequence number " ++ toString currentBatchSeq ++
          ". Cause: " ++ err
      -- check the block height
      let block ← (s.FetchBlock batch.Header.L1Proof).mapError fun err =>
        "could not retrieve block. Cause: " ++ err
      if block.NumberU64 > upToL1Height then pure []
      else do
        -- check the limiter
        let (didAcceptBatch, remainingSize) ← AcceptBatch encodedSize remainingSize batch
        if !didAcceptBatch then pure []
        else do
          let rest ← batchesAfterLoop s encodedSize upToL1Height headSeqNo fuel
            (currentBatchSeq + 1) remainingSize
          pure (batch :: rest)
    else pure []

/-- The sanity check of `BatchesAfter`: the sequence numbers go up by one from the first. -/
def consecutive (batches : List (Batch Tx)) : Bool :=
  match batches with
  | [] => true
  | b0 :: _ =>
    let current := UInt64.ofNat b0.SeqNo
    batches.zipIdx.all fun (b, i) => current + UInt64.ofNat i == UInt64.ofNat b.SeqNo

/-- `batchRegistry.BatchesAfter(batchSeqNo, upToL1Height, rollupLimiter)`, with the limiter's
initial room `rollupLimiter`. -/
def BatchesAfter (s : Store Tx) (encodedSize : Batch Tx → Except String Nat)
    (batchSeqNo upToL1Height rollupLimiter : UInt64) : Except String (List (Batch Tx)) := do
  -- sanity check
  let headBatch ← s.FetchHeadBatch
  let headSeqNo := UInt64.ofNat headBatch.SeqNo
  if headSeqNo < batchSeqNo then
    throw ("head batch height " ++ toString headSeqNo ++
      " is in the past compared to requested batch " ++ toString batchSeqNo)
  else do
    let resultBatches ← batchesAfterLoop s encodedSize upToL1Height headSeqNo
      (headSeqNo.toNat - batchSeqNo.toNat + 1) batchSeqNo rollupLimiter
    if !consecutive resultBatches then throw "created invalid rollup with batches out of sequence"
    else pure resultBatches

/-! ## Building, signing and publishing a rollup -/

/-- `rollupProducerImpl.createNextRollup(batches, block)`: a header over the batches, with
the L1 block the compression is relative to, and the cross-chain messages of every batch in
order. `batches[len(batches)-1]` panics on an empty list. -/
def createNextRollup (sequencerID : Address) (batches : List (Batch Tx)) (block : L1Block) :
    Except String (Rollup Tx) :=
  match batches.getLast? with
  | none => .error "runtime error: index out of range [-1]"
  | some lastBatch =>
    .ok { Header :=
            { Coinbase := sequencerID
              CompressionL1Head := block.hash
              CrossChainMessages := batches.flatMap (·.Header.CrossChainMessages)
              -- `common.RollupHeader{}`: the fields not assigned keep their zero values
              PayloadHash := 0
              R := none
              S := none
              LastBatchSeqNo := UInt64.ofNat lastBatch.SeqNo }
          Batches := batches }

/-- `rollupProducerImpl.CreateRollup(fromBatchNo, upToL1Height, limiter)`. -/
def CreateRollup (s : Store Tx) (encodedSize : Batch Tx → Except String Nat)
    (sequencerID : Address) (fromBatchNo upToL1Height limiter : UInt64) :
    Except String (Rollup Tx) := do
  let batches ← (BatchesAfter s encodedSize fromBatchNo upToL1Height limiter).mapError fun err =>
    "could not fetch 'from' batch (seqNo=" ++ toString fromBatchNo ++ ") for rollup: " ++ err
  if batches.length = 0 then throw "no batches for rollup"
  else do
    -- `big.NewInt(int64(upToL1Height))`
    let block ← s.FetchCanonicaBlockByHeight (Go.newInt upToL1Height.toInt64)
    createNextRollup sequencerID batches block

/-- `sequencer.signRollup(rollup)`: the enclave key's signature `(R, S)` over the header's
hash. `sign` is `ecdsa.Sign` with that key. -/
def signRollup (rlpHash : RollupHeader → Hash) (sign : Hash → Except String (Nat × Nat))
    (rollup : Rollup Tx) : Except String (Rollup Tx) := do
  let h := rollup.Header.Hash rlpHash
  let (r, s) ← (sign h).mapError fun err => "could not sign batch. Cause: " ++ err
  pure { rollup with Header := { rollup.Header with R := some r, S := some s } }

/-- `RollupCompression.CreateExtRollup(r)`: the header as is, and the calldata header and the
transactions of each batch, each serialised, compressed and encrypted (`encodeHeader`,
`encodeTxs`). -/
def CreateExtRollup (rlp : Codec BatchHeader) (batchHash : BatchHeader → Hash) (gob : Codec Int)
    (s : RollupCompression.Storage Tx) (encodeHeader : CalldataRollupHeader → Except String Bytes)
    (encodeTxs : List (List Tx) → Except String Bytes) (r : Rollup Tx) : Except String ExtRollup := do
  let header ← createRollupHeader rlp batchHash gob s r.Batches
  let encryptedHeader ← encodeHeader header
  let transactions := r.Batches.map (·.Transactions)
  let encryptedTransactions ← encodeTxs transactions
  pure { Header := r.Header
         BatchPayloads := encryptedTransactions
         CalldataRollupHeader := encryptedHeader }

/-- `RollupDelay`: the most recent L1 blocks a rollup leaves out. -/
def RollupDelay : UInt64 := 2

/-- The configuration `sequencer.CreateRollup` runs with. -/
structure SequencerConfig (Tx : Type) where
  SequencerID : Address
  MaxRollupSize : UInt64
  RollupHash : RollupHeader → Hash
  BatchHash : BatchHeader → Hash
  Sign : Hash → Except String (Nat × Nat)
  EncodedSize : Batch Tx → Except String Nat
  EncodeHeader : CalldataRollupHeader → Except String Bytes
  EncodeTxs : List (List Tx) → Except String Bytes

/-- `sequencer.CreateRollup(lastBatchNo)`: a rollup of the batches from `lastBatchNo` on
whose L1 proofs are at least `RollupDelay` blocks below the L1 head (in `uint64`, so a head
below `RollupDelay` wraps), signed and compressed. -/
def Sequencer.CreateRollup (rlp : Codec BatchHeader) (gob : Codec Int) (c : SequencerConfig Tx)
    (s : Store Tx) (lastBatchNo : UInt64) : Except String ExtRollup := do
  let currentL1Head ← s.FetchHeadBlock
  let upToL1Height := currentL1Head.NumberU64 - RollupDelay
  let rollup ← Rollups.CreateRollup s c.EncodedSize c.SequencerID lastBatchNo upToL1Height
    c.MaxRollupSize
  let rollup ← (signRollup c.RollupHash c.Sign rollup).mapError fun err =>
    "failed to sign created rollup: " ++ err
  CreateExtRollup rlp c.BatchHash gob s.toStorage c.EncodeHeader c.EncodeTxs rollup

/-! ## Consuming a rollup -/

/-- `rollupConsumerImpl.getSignedRollup(rollups)`: every rollup must carry the sequencer's
signature over its hash. `CheckSequencerSignature` is the signature validator. -/
def getSignedRollup (CheckSequencerSignature : Hash → Option Nat → Option Nat → Except String Unit)
    (rlpHash : RollupHeader → Hash) (rollups : List ExtRollup) : Except String (List ExtRollup) :=
  rollups.mapM fun rollup => do
    (CheckSequencerSignature (rollup.Hash rlpHash) rollup.Header.R rollup.Header.S).mapError
      fun err => "rollup signature was invalid. Cause: " ++ err
    pure rollup

/-- `RollupCompression.ProcessExtRollup(rollup)`: decrypt, decompress and decode the
transactions and the calldata header (`decodeTxs`, `decodeHeader`), rebuild the batches, and
hand them to `executeAndSaveIncompleteBatches`. The result is the calldata header, with the
rebuilt batches that were executed and saved. -/
def ProcessExtRollup (gob : Codec Int) (rlp : Codec BatchHeader) (deriveSha : List Tx → Hash)
    (s : RollupCompression.Storage Tx) (decodeTxs : Bytes → Except String (List (List Tx)))
    (decodeHeader : Bytes → Except String CalldataRollupHeader)
    (executeAndSaveIncompleteBatches :
      CalldataRollupHeader → List (BatchFromRollup Tx) → Except String Unit)
    (rollup : ExtRollup) : Except String (CalldataRollupHeader × List (BatchFromRollup Tx)) := do
  let transactionsPerBatch ← decodeTxs rollup.BatchPayloads
  let calldataRollupHeader ← decodeHeader rollup.CalldataRollupHeader
  let incompleteBatches ← createIncompleteBatches gob rlp deriveSha s calldataRollupHeader
    transactionsPerBatch rollup.Header.CompressionL1Head
  executeAndSaveIncompleteBatches calldataRollupHeader incompleteBatches
  pure (calldataRollupHeader, incompleteBatches)

/-! ## What the producer puts in a rollup -/

/-- The loop of `BatchesAfter` returns the batches stored under consecutive sequence numbers
from `currentBatchSeq` on. -/
theorem batchesAfterLoop_fetch {s : Store Tx} {encodedSize : Batch Tx → Except String Nat}
    {upToL1Height headSeqNo : UInt64} :
    ∀ {fuel : Nat} {currentBatchSeq remainingSize : UInt64} {batches : List (Batch Tx)},
      batchesAfterLoop s encodedSize upToL1Height headSeqNo fuel currentBatchSeq remainingSize =
        .ok batches →
      ∀ i b, batches[i]? = some b → s.FetchBatchBySeqNo (currentBatchSeq + UInt64.ofNat i) = .ok b
  | 0, currentBatchSeq, _, batches, h => by
    unfold batchesAfterLoop at h
    split_ifs at h
    cases h
    simp
  | fuel + 1, currentBatchSeq, remainingSize, batches, h => by
    unfold batchesAfterLoop at h
    split_ifs at h with hle
    · -- one batch fetched, then either a stop or the rest of the loop
      obtain ⟨batch, hbatch, h⟩ := Except.bind_eq_ok.mp h
      obtain ⟨block, -, h⟩ := Except.bind_eq_ok.mp h
      rw [Except.mapError_eq_ok] at hbatch
      split_ifs at h with hhigh
      · cases h
        simp
      · obtain ⟨⟨accepted, remaining⟩, -, h⟩ := Except.bind_eq_ok.mp h
        dsimp only at h
        split_ifs at h with hrefused
        · cases h
          simp
        · obtain ⟨rest, hrest, h⟩ := Except.bind_eq_ok.mp h
          cases h
          intro i b hb
          cases i with
          | zero =>
            cases hb
            simpa using hbatch
          | succ i =>
            have hseq : currentBatchSeq + UInt64.ofNat (i + 1) =
                currentBatchSeq + 1 + UInt64.ofNat i := by
              rw [UInt64.ofNat_add, UInt64.ofNat_one, UInt64.add_comm (UInt64.ofNat i) 1,
                UInt64.add_assoc]
            rw [hseq]
            exact batchesAfterLoop_fetch hrest i b hb
    · cases h
      simp

/-- `BatchesAfter` returns what its loop fetched, once the sanity check has passed. -/
theorem BatchesAfter_eq_ok {s : Store Tx} {encodedSize : Batch Tx → Except String Nat}
    {batchSeqNo upToL1Height rollupLimiter : UInt64} {batches : List (Batch Tx)}
    (h : BatchesAfter s encodedSize batchSeqNo upToL1Height rollupLimiter = .ok batches) :
    ∃ headSeqNo fuel, batchesAfterLoop s encodedSize upToL1Height headSeqNo fuel batchSeqNo
      rollupLimiter = .ok batches ∧ consecutive batches = true := by
  unfold BatchesAfter at h
  obtain ⟨head, -, h⟩ := Except.bind_eq_ok.mp h
  dsimp only at h
  split_ifs at h with hpast
  obtain ⟨res, hres, h⟩ := Except.bind_eq_ok.mp h
  split_ifs at h with hcons
  cases h
  exact ⟨_, _, hres, by simpa using hcons⟩

/-- **The producer's rollup.** A rollup `CreateRollup` returns carries the batches stored
under consecutive sequence numbers from `fromBatchNo` on, at least one; its header lists the
cross-chain messages of every one of them, in order; the payload hash and the signature are
unset. -/
theorem CreateRollup_eq_ok {s : Store Tx} {encodedSize : Batch Tx → Except String Nat}
    {sequencerID : Address} {fromBatchNo upToL1Height limiter : UInt64} {r : Rollup Tx}
    (h : CreateRollup s encodedSize sequencerID fromBatchNo upToL1Height limiter = .ok r) :
    r.Batches ≠ [] ∧
      (∀ i b, r.Batches[i]? = some b → s.FetchBatchBySeqNo (fromBatchNo + UInt64.ofNat i) = .ok b) ∧
      r.Header.CrossChainMessages = r.Batches.flatMap (·.Header.CrossChainMessages) ∧
      r.Header.PayloadHash = 0 ∧ r.Header.R = none ∧ r.Header.S = none := by
  unfold CreateRollup at h
  obtain ⟨batches, hbatches, h⟩ := Except.bind_eq_ok.mp h
  rw [Except.mapError_eq_ok] at hbatches
  -- the empty case throws
  split_ifs at h with hempty
  obtain ⟨block, -, h⟩ := Except.bind_eq_ok.mp h
  obtain ⟨headSeqNo, fuel, hloop, -⟩ := BatchesAfter_eq_ok hbatches
  unfold createNextRollup at h
  cases hlast : batches.getLast? with
  | none => rw [hlast] at h; cases h
  | some lastBatch =>
    rw [hlast] at h
    cases h
    have hnil : batches ≠ [] := fun hnil => hempty (by rw [hnil]; rfl)
    exact ⟨hnil, batchesAfterLoop_fetch hloop, rfl, rfl, rfl, rfl⟩

/-- `signRollup` sets the signature over the hash of the header it is given, and nothing
else. -/
theorem signRollup_eq_ok {rlpHash : RollupHeader → Hash} {sign : Hash → Except String (Nat × Nat)}
    {rollup r : Rollup Tx} (h : signRollup rlpHash sign rollup = .ok r) :
    ∃ R S, sign (rollup.Header.Hash rlpHash) = .ok (R, S) ∧
      r = { rollup with Header := { rollup.Header with R := some R, S := some S } } := by
  unfold signRollup at h
  obtain ⟨⟨R, S⟩, hsign, h⟩ := Except.bind_eq_ok.mp h
  rw [Except.mapError_eq_ok] at hsign
  exact ⟨R, S, hsign, (Except.ok.inj h).symm⟩

/-- `CreateExtRollup` publishes the rollup's header as it is. -/
theorem CreateExtRollup_header {rlp : Codec BatchHeader} {batchHash : BatchHeader → Hash}
    {gob : Codec Int} {s : RollupCompression.Storage Tx}
    {encodeHeader : CalldataRollupHeader → Except String Bytes}
    {encodeTxs : List (List Tx) → Except String Bytes} {r : Rollup Tx} {ext : ExtRollup}
    (h : CreateExtRollup rlp batchHash gob s encodeHeader encodeTxs r = .ok ext) :
    ext.Header = r.Header := by
  unfold CreateExtRollup at h
  obtain ⟨_, -, h⟩ := Except.bind_eq_ok.mp h
  obtain ⟨_, -, h⟩ := Except.bind_eq_ok.mp h
  obtain ⟨_, -, h⟩ := Except.bind_eq_ok.mp h
  cases h
  rfl

/-- **What the sequencer signs.** A rollup the sequencer publishes carries the producer's
header, with the signature over that header's hash, and a zero `PayloadHash`: nothing on the
way from `CreateRollup` to `CreateExtRollup` sets it. -/
theorem Sequencer.CreateRollup_header {rlp : Codec BatchHeader} {gob : Codec Int}
    {c : SequencerConfig Tx} {s : Store Tx} {lastBatchNo : UInt64} {ext : ExtRollup}
    (h : Sequencer.CreateRollup rlp gob c s lastBatchNo = .ok ext) :
    ∃ upToL1Height r R S,
      Rollups.CreateRollup s c.EncodedSize c.SequencerID lastBatchNo upToL1Height
        c.MaxRollupSize = .ok r ∧
      c.Sign (r.Header.Hash c.RollupHash) = .ok (R, S) ∧
      ext.Header = { r.Header with R := some R, S := some S } ∧ ext.Header.PayloadHash = 0 := by
  unfold Sequencer.CreateRollup at h
  obtain ⟨head, -, h⟩ := Except.bind_eq_ok.mp h
  obtain ⟨r, hr, h⟩ := Except.bind_eq_ok.mp h
  obtain ⟨signed, hsigned, h⟩ := Except.bind_eq_ok.mp h
  rw [Except.mapError_eq_ok] at hsigned
  obtain ⟨R, S, hsign, rfl⟩ := signRollup_eq_ok hsigned
  have hext := CreateExtRollup_header h
  refine ⟨_, r, R, S, hr, hsign, hext, ?_⟩
  rw [hext]
  exact (CreateRollup_eq_ok hr).2.2.2.1

/-! ## What the validator checks and rebuilds -/

variable {check : Hash → Option Nat → Option Nat → Except String Unit}
  {rlpHash : RollupHeader → Hash}

/-- The signature check reads the header only: a rollup with other payloads has the same
hash and passes or fails the check exactly as the original does. -/
theorem getSignedRollup_payloads (r : ExtRollup) (calldata payloads : Bytes) :
    ({ r with CalldataRollupHeader := calldata, BatchPayloads := payloads } : ExtRollup).Hash
        rlpHash = r.Hash rlpHash ∧
      getSignedRollup check rlpHash [{ r with CalldataRollupHeader := calldata, BatchPayloads := payloads }] =
        (fun _ => [{ r with CalldataRollupHeader := calldata, BatchPayloads := payloads }]) <$>
          getSignedRollup check rlpHash [r] := by
  have hhash : ({ r with CalldataRollupHeader := calldata, BatchPayloads := payloads } :
      ExtRollup).Hash rlpHash = r.Hash rlpHash := rfl
  refine ⟨hhash, ?_⟩
  simp only [getSignedRollup, List.mapM_cons, List.mapM_nil, hhash]
  cases check (r.Hash rlpHash) r.Header.R r.Header.S <;> rfl

/-- The decoder loop gives each rebuilt batch the transactions of its slot. -/
theorem createIncompleteBatchesLoop_transactions {gob : Codec Int} {rlp : Codec BatchHeader}
    {deriveSha : List Tx → Hash} {s : RollupCompression.Storage Tx} {hdr : CalldataRollupHeader}
    {head : L1Block} {startAtSeq : Int64} :
    ∀ {txs : List (List Tx)} {idx : Nat} {curH curT : Int64} {curL1 : Int}
      {ibs : List (BatchFromRollup Tx)},
      createIncompleteBatchesLoop gob rlp deriveSha s hdr head startAtSeq idx curH curT curL1 txs =
        .ok ibs →
      ibs.map (·.transactions) = txs
  | [], _, _, _, _, _, h => by
    cases h
    rfl
  | batchTxs :: rest, idx, curH, curT, curL1, ibs, h => by
    simp only [createIncompleteBatchesLoop, Except.bind_eq_ok, Except.pure_eq_ok,
      Except.ok.injEq] at h
    -- the reads before the recursive call do not matter; the batch takes its slot's list
    obtain ⟨_, _, _, _, _, _, _, _, _, _, _, _, bs, hbs, rfl⟩ := h
    rw [List.map_cons, createIncompleteBatchesLoop_transactions hbs]

/-- The validator rebuilds the batches from the transactions it decodes from the payload,
whatever they are. -/
theorem ProcessExtRollup_transactions {gob : Codec Int} {rlp : Codec BatchHeader}
    {deriveSha : List Tx → Hash} {s : RollupCompression.Storage Tx}
    {decodeTxs : Bytes → Except String (List (List Tx))}
    {decodeHeader : Bytes → Except String CalldataRollupHeader}
    {save : CalldataRollupHeader → List (BatchFromRollup Tx) → Except String Unit}
    {rollup : ExtRollup} {out : CalldataRollupHeader × List (BatchFromRollup Tx)}
    (h : ProcessExtRollup gob rlp deriveSha s decodeTxs decodeHeader save rollup = .ok out) :
    decodeTxs rollup.BatchPayloads = .ok (out.2.map (·.transactions)) := by
  unfold ProcessExtRollup at h
  obtain ⟨txs, htxs, h⟩ := Except.bind_eq_ok.mp h
  obtain ⟨hdr, -, h⟩ := Except.bind_eq_ok.mp h
  obtain ⟨ibs, hibs, h⟩ := Except.bind_eq_ok.mp h
  obtain ⟨-, -, h⟩ := Except.bind_eq_ok.mp h
  cases h
  unfold createIncompleteBatches at hibs
  obtain ⟨_, -, hibs⟩ := Except.bind_eq_ok.mp hibs
  rw [htxs, createIncompleteBatchesLoop_transactions hibs]

/-! ## Canonical messages -/

/-- Concatenating over a filtered list gives the same result exactly when the elements
filtered out contribute nothing. -/
theorem flatMap_eq_flatMap_filter_iff {α β : Type} (f : α → List β) (p : α → Bool) :
    ∀ l : List α, l.flatMap f = (l.filter p).flatMap f ↔ ∀ x ∈ l, p x = false → f x = []
  | [] => by simp
  | x :: l => by
    have ih := flatMap_eq_flatMap_filter_iff f p l
    cases hp : p x with
    | true =>
      simp only [List.flatMap_cons, List.filter_cons, hp, if_true, List.append_cancel_left_eq, ih,
        List.mem_cons, forall_eq_or_imp, Bool.true_eq_false, false_implies, true_and]
    | false =>
      simp only [List.flatMap_cons, List.filter_cons, hp, Bool.false_eq_true, if_false,
        List.mem_cons, forall_eq_or_imp, forall_const]
      -- the filtered side is never longer, so `f x` must be empty
      have hle : ((l.filter p).flatMap f).length ≤ (l.flatMap f).length :=
        (List.filter_sublist.flatMap f).length_le
      constructor
      · intro heq
        have hlen := congrArg List.length heq
        rw [List.length_append] at hlen
        have hfx : f x = [] := List.eq_nil_of_length_eq_zero (by omega)
        rw [hfx, List.nil_append] at heq
        exact ⟨hfx, ih.mp heq⟩
      · rintro ⟨hfx, hrest⟩
        rw [hfx, List.nil_append]
        exact ih.mpr hrest

/-- A rollup's messages are those of its canonical batches, in order, exactly when each of
its re-orged batches carries none. -/
theorem CreateRollup_messages_canonical {s : Store Tx}
    {encodedSize : Batch Tx → Except String Nat} {sequencerID : Address}
    {fromBatchNo upToL1Height limiter : UInt64} {r : Rollup Tx}
    (h : CreateRollup s encodedSize sequencerID fromBatchNo upToL1Height limiter = .ok r)
    (batchHash : BatchHeader → Hash) :
    r.Header.CrossChainMessages =
        (r.Batches.filter (isCanonical batchHash s.toStorage)).flatMap (·.Header.CrossChainMessages) ↔
      ∀ b ∈ r.Batches, isCanonical batchHash s.toStorage b = false →
        b.Header.CrossChainMessages = [] := by
  rw [(CreateRollup_eq_ok h).2.2.1]
  exact flatMap_eq_flatMap_filter_iff _ _ r.Batches

/-! ## A rollup over a re-org

On the L1 chain, blocks `A` and `B` at height 2 fork from a common parent. The batch at
height 5 with sequence number 5 was built on `A`. When `B` replaced `A`, the sequencer
duplicated it on `B` under sequence number 6, re-executing its transaction, which emits the
same cross-chain message `m` again. -/

def cxMsg : CrossChainMessage := ⟨0x44#160, 0, 0, 0, [], 0⟩
def cxBlockA : L1Block := ⟨2, 1, 2⟩
def cxBlockB : L1Block := ⟨3, 1, 2⟩
def cxOld : Batch Unit := ⟨{ cxHeader 5 5 100 2 with CrossChainMessages := [cxMsg] }, [()]⟩
def cxNew : Batch Unit := ⟨{ cxHeader 5 6 101 3 with CrossChainMessages := [cxMsg] }, [()]⟩

/-- The sequencer's store after the re-org: both batches, `cxNew` the canonical one at
height 5. -/
def cxStore : Store Unit where
  FetchBatchByHeight h := if h = 5 then .ok cxNew else .error ErrNotFound
  FetchBlock h := if h = 2 then .ok cxBlockA else if h = 3 then .ok cxBlockB else .error ErrNotFound
  FetchHeadBatch := .ok cxNew
  FetchBatchBySeqNo n := if n = 5 then .ok cxOld else if n = 6 then .ok cxNew else .error ErrNotFound
  FetchCanonicaBlockByHeight h := if h = 2 then .ok cxBlockB else .error ErrNotFound
  FetchHeadBlock := .ok ⟨4, 3, 4⟩

/-- **Re-orged messages are published, twice.** The rollup from sequence number 5 carries
both batches. Only `cxNew` is canonical, so the canonical messages are `[m]`, but the header
lists `[m, m]`: the re-orged batch's message, and the same message again from its
duplicate. -/
theorem CreateRollup_publishesReorgedMessages :
    ∃ r, CreateRollup cxStore (fun _ => .ok 1) 0 5 2 100 = .ok r ∧ r.Batches = [cxOld, cxNew] ∧
      isCanonical cxRlpHash cxStore.toStorage cxOld = false ∧
      isCanonical cxRlpHash cxStore.toStorage cxNew = true ∧
      r.Header.CrossChainMessages = [cxMsg, cxMsg] ∧
      (r.Batches.filter (isCanonical cxRlpHash cxStore.toStorage)).flatMap
        (·.Header.CrossChainMessages) = [cxMsg] ∧
      ¬ r.Header.CrossChainMessages.Nodup := by
  refine ⟨_, rfl, ?_⟩
  exact ⟨rfl, by decide, by decide, rfl, by decide, by decide⟩

/-! ## A payload swapped under a signature

The sequencer signs a rollup whose payload holds one transaction. Anyone can publish the same
header and signature with a payload of two transactions. The keccak stand-in hashes a header
to its last sequence number, and the signature stand-in is that hash. -/

/-- A lossless encoding of integers: a sign byte, then the magnitude's big-endian bytes. -/
def cxGob : Codec Int where
  encode i := (if i < 0 then 1 else 0) :: Go.bigBytes i.natAbs
  decode
    | [] => .error "empty encoding"
    | sign :: rest => .ok (if sign = 1 then -(Go.setBytes rest : Int) else Go.setBytes rest)
  decode_encode i := by
    by_cases h : i < 0
    · simp [h, abs_of_neg h]
    · simp [h, abs_of_nonneg (not_lt.mp h)]
  encode_ne_nil _ := List.cons_ne_nil _ _

def cxRollupHash (h : RollupHeader) : Hash := BitVec.ofNat 256 h.LastBatchSeqNo.toNat
def cxCheck (h : Hash) (R S : Option Nat) : Except String Unit :=
  if R = some h.toNat ∧ S = some 1 then .ok () else .error "invalid signature"

/-- The calldata header of one batch: sequence number 6, height 5, L1 proof at height 2. -/
def cxCalldata : CalldataRollupHeader := ⟨6, 5, 0, 101, [cxGob.encode 0], [cxGob.encode 2], []⟩
def cxDecodeTxs (b : Bytes) : Except String (List (List Unit)) := .ok [List.replicate b.length ()]

def cxSigned : ExtRollup := ⟨⟨0, 3, [cxMsg], 0, some 6, some 1, 6⟩, [0], [0]⟩
def cxForged : ExtRollup := { cxSigned with BatchPayloads := [0, 0] }

/-- **The payload is not signed.** The forged rollup has the signed one's hash and passes
the signature check with the same `(R, S)`, and the validator rebuilds its batch with two
transactions instead of one. -/
theorem ProcessExtRollup_unsignedPayload (rlp : Codec BatchHeader) (deriveSha : List Unit → Hash) :
    cxForged.Hash cxRollupHash = cxSigned.Hash cxRollupHash ∧
      getSignedRollup cxCheck cxRollupHash [cxSigned] = .ok [cxSigned] ∧
      getSignedRollup cxCheck cxRollupHash [cxForged] = .ok [cxForged] ∧
      (ProcessExtRollup cxGob rlp deriveSha cxStore.toStorage cxDecodeTxs (fun _ => .ok cxCalldata)
        (fun _ _ => .ok ()) cxSigned).map (·.2.map (·.transactions)) = .ok [[()]] ∧
      (ProcessExtRollup cxGob rlp deriveSha cxStore.toStorage cxDecodeTxs (fun _ => .ok cxCalldata)
        (fun _ _ => .ok ()) cxForged).map (·.2.map (·.transactions)) = .ok [[(), ()]] :=
  ⟨rfl, rfl, rfl, rfl, rfl⟩

end Obscuro.Rollups
