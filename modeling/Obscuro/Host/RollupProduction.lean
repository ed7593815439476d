import Obscuro.Enclave.Rollups
import Obscuro.Common.Converters
import Obscuro.Host.StateTracker

/-!
# Periodic rollup production

`Guardian.periodicRollupProduction` of `go/host/enclave/guardian.go`: on every tick, a host that
is up to date with the L1 reads the management contract's `lastBatchSeqNo`, asks its enclave
for a rollup of the batches after it, and publishes what comes back. The request goes through
`Client.CreateRollup` (`go/host/rpc/enclaverpc/enclave_client.go`) and `RPCServer.CreateRollup`
(`go/enclave/rpc_server.go`) to `sequencer.CreateRollup`; the rollup comes back through the
converters of `Obscuro.Common.Converters`.

The contract's `lastBatchSeqNo` is 0 before any rollup, and the genesis batch has sequence
number `L2GenesisSeqNo = 1`. The host adds one to the L1 value only above `L2GenesisSeqNo`, and
the server replaces any start at or below it by 1, so that 0 and 1 both ask for the rollup
from batch 1.

* `fromSeqNo_fromBatch` — the start the producer sees on a tick where the L1 reports `n`: `n + 1`,
  except for `n = L2GenesisSeqNo`, where it is 1;
* `enclaveCreateRollup_eq_ok` — what the client returns is the sequencer's rollup, its messages'
  consistency levels cleared by the converters;
* `rollupTick_calldata` — the calldata header of a published rollup names as first batch the
  batch stored under that start;
* `periodicRollupProduction_resumes` — after a rollup ending at any other batch `n`, the
  published rollup starts at batch `n + 1`;
* `periodicRollupProduction_repeatsGenesis` — after a rollup ending at the genesis batch, the
  published rollup starts at the genesis batch again.

The ticker, the interrupter, the logger, the enclave's stop check and its mutex are left out:
one tick is one call of `Guardian.rollupTick`.
-/

namespace Obscuro.HostEnclave

open Rollups

variable {Tx : Type}

/-! ## The request and its way to the sequencer -/

/-- The start of `RPCServer.CreateRollup`: the requested sequence number once it is above
`L2GenesisSeqNo`, and 1 otherwise. -/
def RPCServer.fromSeqNo (FromSequenceNumber : Option UInt64) : UInt64 :=
  match FromSequenceNumber with
  | some n => if n > UInt64.ofNat L2GenesisSeqNo then n else 1
  | none => 1

/-- `RPCServer.CreateRollup`: the enclave's rollup from `fromSeqNo`, as a message. An enclave
error is the response's `SystemError`. -/
def RPCServer.CreateRollup (enclaveCreateRollup : UInt64 → Except String ExtRollup)
    (FromSequenceNumber : Option UInt64) : Except String RPC.ExtRollupMsg := do
  let rollup ← enclaveCreateRollup (RPCServer.fromSeqNo FromSequenceNumber)
  RPC.ToExtRollupMsg rollup

/-- `Client.CreateRollup(fromSeqNo)`: the server's rollup converted back (`none` for a message
without a header); a `SystemError` is an error. -/
def Client.CreateRollup (server : Option UInt64 → Except String RPC.ExtRollupMsg)
    (fromSeqNo : UInt64) : Except String (Option ExtRollup) := do
  let msg ← server (some fromSeqNo)
  pure (RPC.FromExtRollupMsg msg)

/-- `g.enclaveClient.CreateRollup` against a sequencer: `enclaveImpl.CreateRollup` hands the
request to `sequencer.CreateRollup`. -/
def Guardian.enclaveCreateRollup (rlp : Codec BatchHeader) (gob : Codec Int)
    (c : SequencerConfig Tx) (s : Store Tx) : UInt64 → Except String (Option ExtRollup) :=
  Client.CreateRollup (RPCServer.CreateRollup (Sequencer.CreateRollup rlp gob c s))

/-! ## One tick -/

/-- The start a tick asks for: `lastBatchNo.Uint64()`, plus one once it is above
`L2GenesisSeqNo`. -/
def Guardian.fromBatch (lastBatchNo : Nat) : UInt64 :=
  if Go.bigUint64 lastBatchNo > UInt64.ofNat L2GenesisSeqNo then Go.bigUint64 lastBatchNo + 1
  else Go.bigUint64 lastBatchNo

/-- One tick of `periodicRollupProduction`: the rollup handed to `PublishRollup`, or `none`
when the tick skips (behind the L1, no L1 value, or an enclave error). `FetchLatestSeqNo` is
the management contract's `lastBatchSeqNo` as the L1 client reads it. -/
def Guardian.rollupTick (state : StateTracker) (FetchLatestSeqNo : Except String Nat)
    (CreateRollup : UInt64 → Except String (Option ExtRollup)) : Option (Option ExtRollup) :=
  -- if we're behind the L1, we don't want to produce rollups
  if !state.IsUpToDate then none
  else
    match FetchLatestSeqNo with
    | .error _ => none
    | .ok lastBatchNo =>
      match CreateRollup (Guardian.fromBatch lastBatchNo) with
      | .error _ => none
      | .ok producedRollup => some producedRollup

/-! ## Where a tick starts -/

/-- The producer's start on a tick where the L1 reports `n`: after the L1 value, but 1 for
both 0 (nothing published) and `L2GenesisSeqNo` (the genesis batch published). -/
theorem fromSeqNo_fromBatch (n : Nat) (hn : n + 1 < 2 ^ 64) :
    RPCServer.fromSeqNo (some (Guardian.fromBatch n)) =
      if n = L2GenesisSeqNo then 1 else UInt64.ofNat (n + 1) := by
  have hgen : L2GenesisSeqNo = 1 := rfl
  have hsize : UInt64.size = 2 ^ 64 := rfl
  unfold Guardian.fromBatch RPCServer.fromSeqNo
  rw [Go.bigUint64_natCast, ← UInt64.ofNat_one, ← UInt64.ofNat_add, hgen]
  by_cases h1 : 1 < n
  · -- past the genesis batch: the host moves on by one, and the server keeps it
    have hinc : 1 < n + 1 := by omega
    simp only [gt_iff_lt, UInt64.ofNat_lt_iff_lt (by omega) (by omega) |>.mpr h1,
      UInt64.ofNat_lt_iff_lt (by omega) (by omega) |>.mpr hinc, if_true]
    rw [if_neg (by omega)]
  · -- 0 or 1: the host asks for it as it is, and the server asks for 1
    have hn1 : ¬ UInt64.ofNat 1 < UInt64.ofNat n := by
      rw [UInt64.ofNat_lt_iff_lt (by omega) (by omega)]
      exact h1
    simp only [gt_iff_lt, hn1, if_false]
    interval_cases n <;> decide

/-- A tick publishes only when the host is up to date, the L1 value was read, and the enclave
returned the rollup for the start computed from it. -/
theorem rollupTick_eq_some {state : StateTracker} {FetchLatestSeqNo : Except String Nat}
    {CreateRollup : UInt64 → Except String (Option ExtRollup)} {published : Option ExtRollup}
    (h : Guardian.rollupTick state FetchLatestSeqNo CreateRollup = some published) :
    state.IsUpToDate = true ∧ ∃ lastBatchNo, FetchLatestSeqNo = .ok lastBatchNo ∧
      CreateRollup (Guardian.fromBatch lastBatchNo) = .ok published := by
  unfold Guardian.rollupTick at h
  split_ifs at h with hup
  refine ⟨by simpa using hup, ?_⟩
  cases hfetch : FetchLatestSeqNo with
  | error e => simp [hfetch] at h
  | ok lastBatchNo =>
    rw [hfetch] at h
    dsimp only at h
    refine ⟨lastBatchNo, rfl, ?_⟩
    cases hcreate : CreateRollup (Guardian.fromBatch lastBatchNo) with
    | error e => simp [hcreate] at h
    | ok producedRollup =>
      rw [hcreate] at h
      cases h
      rfl

/-- The client returns what the enclave built from the server's start, through both
converters. -/
theorem Client_CreateRollup_eq_ok {enclave : UInt64 → Except String ExtRollup}
    {fromSeqNo : UInt64} {r : Option ExtRollup}
    (h : Client.CreateRollup (RPCServer.CreateRollup enclave) fromSeqNo = .ok r) :
    ∃ ext msg, enclave (RPCServer.fromSeqNo (some fromSeqNo)) = .ok ext ∧
      RPC.ToExtRollupMsg ext = .ok msg ∧ r = RPC.FromExtRollupMsg msg := by
  unfold Client.CreateRollup at h
  obtain ⟨msg, hmsg, h⟩ := Except.bind_eq_ok.mp h
  unfold RPCServer.CreateRollup at hmsg
  obtain ⟨ext, hext, hmsg⟩ := Except.bind_eq_ok.mp hmsg
  exact ⟨ext, msg, hext, hmsg, (Except.ok.inj h).symm⟩

/-- Against a sequencer, the client returns the sequencer's rollup with its header's messages at
consistency level 0: the header is signed, so the converters do not panic on it, and its
`PayloadHash` is already 0. -/
theorem enclaveCreateRollup_eq_ok {rlp : Codec BatchHeader} {gob : Codec Int}
    {c : SequencerConfig Tx} {s : Store Tx} {fromSeqNo : UInt64} {r : Option ExtRollup}
    (h : Guardian.enclaveCreateRollup rlp gob c s fromSeqNo = .ok r) :
    ∃ ext, Sequencer.CreateRollup rlp gob c s (RPCServer.fromSeqNo (some fromSeqNo)) = .ok ext ∧
      r = some { ext with Header := { ext.Header with
        CrossChainMessages := ext.Header.CrossChainMessages.map fun m =>
          { m with ConsistencyLevel := 0 } } } := by
  obtain ⟨ext, msg, hext, hmsg, rfl⟩ := Client_CreateRollup_eq_ok h
  refine ⟨ext, hext, ?_⟩
  obtain ⟨_, _, R, S, -, -, hheader, hpayload⟩ := Sequencer.CreateRollup_header hext
  have hR : ext.Header.R = some R := by rw [hheader]
  have hS : ext.Header.S = some S := by rw [hheader]
  have hRn : ext.Header.R ≠ none := by simp [hR]
  have hSn : ext.Header.S ≠ none := by simp [hS]
  obtain ⟨hm, hhm⟩ := RPC.ToRollupHeaderMsg_ok hRn hSn
  -- the rollup round trip, and inside it the header round trip
  have hround := RPC.FromExtRollupMsg_ToExtRollupMsg hhm
  have hheaderRound := RPC.FromRollupHeaderMsg_ToRollupHeaderMsg hR hS
  rw [hhm] at hheaderRound
  rw [hmsg] at hround
  simp only [Except.map, Except.ok.injEq] at hround hheaderRound
  rw [hround, hheaderRound, ← hpayload]

/-- The calldata header names its first batch's sequence number. -/
theorem createRollupHeader_FirstBatchSequence {rlp : Codec BatchHeader}
    {batchHash : BatchHeader → Hash} {gob : Codec Int} {s : RollupCompression.Storage Tx}
    {b0 : Batch Tx} {rest : List (Batch Tx)} {hdr : RollupCompression.CalldataRollupHeader}
    (h : RollupCompression.createRollupHeader rlp batchHash gob s (b0 :: rest) = .ok hdr) :
    hdr.FirstBatchSequence = b0.SeqNo := by
  unfold RollupCompression.createRollupHeader at h
  obtain ⟨entries, -, h⟩ := Except.bind_eq_ok.mp h
  cases h
  rfl

/-- **The calldata of a sequencer's rollup.** The calldata header the sequencer encodes into
a rollup names as its first batch the batch stored under the start it was asked for: the
producer takes that batch first, and signing does not touch the batches. -/
theorem Sequencer.CreateRollup_calldata {rlp : Codec BatchHeader} {gob : Codec Int}
    {c : SequencerConfig Tx} {s : Store Tx} {fromSeqNo : UInt64} {ext : ExtRollup}
    (h : Sequencer.CreateRollup rlp gob c s fromSeqNo = .ok ext) :
    ∃ hdr b, c.EncodeHeader hdr = .ok ext.CalldataRollupHeader ∧
      s.FetchBatchBySeqNo fromSeqNo = .ok b ∧ hdr.FirstBatchSequence = b.SeqNo := by
  unfold Sequencer.CreateRollup at h
  obtain ⟨head, -, h⟩ := Except.bind_eq_ok.mp h
  obtain ⟨r, hr, h⟩ := Except.bind_eq_ok.mp h
  obtain ⟨signed, hsigned, h⟩ := Except.bind_eq_ok.mp h
  rw [Except.mapError_eq_ok] at hsigned
  obtain ⟨R, S, -, rfl⟩ := signRollup_eq_ok hsigned
  -- the producer took at least one batch, the first stored under the start
  obtain ⟨hne, hfetch, -⟩ := CreateRollup_eq_ok hr
  obtain ⟨b0, rest, hbatches⟩ := List.exists_cons_of_ne_nil hne
  unfold CreateExtRollup at h
  obtain ⟨hdr, hhdr, h⟩ := Except.bind_eq_ok.mp h
  obtain ⟨enc, henc, h⟩ := Except.bind_eq_ok.mp h
  obtain ⟨txs, -, h⟩ := Except.bind_eq_ok.mp h
  cases h
  dsimp only at hhdr
  rw [hbatches] at hhdr
  refine ⟨hdr, b0, henc, ?_, createRollupHeader_FirstBatchSequence hhdr⟩
  simpa using hfetch 0 b0 (by simp [hbatches])

/-- **What a tick publishes.** A rollup a tick publishes carries a calldata header whose first
batch is the batch stored under the start the server computed from the L1 value. -/
theorem rollupTick_calldata {rlp : Codec BatchHeader} {gob : Codec Int} {c : SequencerConfig Tx}
    {s : Store Tx} {state : StateTracker} {n : Nat} {published : Option ExtRollup}
    (h : Guardian.rollupTick state (.ok n) (Guardian.enclaveCreateRollup rlp gob c s) =
      some published) :
    ∃ ext hdr b, published = some ext ∧ c.EncodeHeader hdr = .ok ext.CalldataRollupHeader ∧
      s.FetchBatchBySeqNo (RPCServer.fromSeqNo (some (Guardian.fromBatch n))) = .ok b ∧
      hdr.FirstBatchSequence = b.SeqNo := by
  obtain ⟨-, m, hm, hcreate⟩ := rollupTick_eq_some h
  cases hm
  obtain ⟨ext, hext, rfl⟩ := enclaveCreateRollup_eq_ok hcreate
  obtain ⟨hdr, b, henc, hfetch, hfirst⟩ := Sequencer.CreateRollup_calldata hext
  exact ⟨_, hdr, b, rfl, henc, hfetch, hfirst⟩

/-- In a store that answers a sequence number with the batch of that number, the rollup a tick
publishes starts, by its calldata header, at the start the server computed. -/
theorem rollupTick_FirstBatchSequence {rlp : Codec BatchHeader} {gob : Codec Int}
    {c : SequencerConfig Tx} {s : Store Tx} {state : StateTracker} {n : Nat}
    {published : Option ExtRollup} {start : UInt64}
    (hstore : ∀ k b, s.FetchBatchBySeqNo k = .ok b → b.SeqNo = k.toNat)
    (hstart : RPCServer.fromSeqNo (some (Guardian.fromBatch n)) = start)
    (h : Guardian.rollupTick state (.ok n) (Guardian.enclaveCreateRollup rlp gob c s) =
      some published) :
    ∃ ext hdr, published = some ext ∧ c.EncodeHeader hdr = .ok ext.CalldataRollupHeader ∧
      hdr.FirstBatchSequence = start.toNat := by
  obtain ⟨ext, hdr, b, rfl, henc, hfetch, hfirst⟩ := rollupTick_calldata h
  rw [hstart] at hfetch
  exact ⟨ext, hdr, rfl, henc, hfirst.trans (hstore _ b hfetch)⟩

/-- **Resuming after the L1's last batch.** In a store that answers a sequence number with the
batch of that number, when the L1 reports any value `n` but `L2GenesisSeqNo`, the rollup a tick
publishes starts, by its calldata header, at batch `n + 1`. -/
theorem periodicRollupProduction_resumes {rlp : Codec BatchHeader} {gob : Codec Int}
    {c : SequencerConfig Tx} {s : Store Tx} {state : StateTracker} {n : Nat}
    {published : Option ExtRollup}
    (hstore : ∀ k b, s.FetchBatchBySeqNo k = .ok b → b.SeqNo = k.toNat)
    (hn : n ≠ L2GenesisSeqNo) (hlt : n + 1 < 2 ^ 64)
    (h : Guardian.rollupTick state (.ok n) (Guardian.enclaveCreateRollup rlp gob c s) =
      some published) :
    ∃ ext hdr, published = some ext ∧ c.EncodeHeader hdr = .ok ext.CalldataRollupHeader ∧
      hdr.FirstBatchSequence = n + 1 := by
  have hstart := fromSeqNo_fromBatch n hlt
  rw [if_neg hn] at hstart
  rw [← UInt64.toNat_ofNat_of_lt' hlt]
  exact rollupTick_FirstBatchSequence hstore hstart h

/-- **The genesis batch published twice.** In a store that answers a sequence number with the
batch of that number, when the L1 reports `L2GenesisSeqNo` (the last rollup ended at the
genesis batch), the rollup a tick publishes starts, by its calldata header, at the genesis
batch again, not at the batch after it. -/
theorem periodicRollupProduction_repeatsGenesis {rlp : Codec BatchHeader} {gob : Codec Int}
    {c : SequencerConfig Tx} {s : Store Tx} {state : StateTracker} {published : Option ExtRollup}
    (hstore : ∀ k b, s.FetchBatchBySeqNo k = .ok b → b.SeqNo = k.toNat)
    (h : Guardian.rollupTick state (.ok L2GenesisSeqNo)
      (Guardian.enclaveCreateRollup rlp gob c s) = some published) :
    ∃ ext hdr, published = some ext ∧ c.EncodeHeader hdr = .ok ext.CalldataRollupHeader ∧
      hdr.FirstBatchSequence = L2GenesisSeqNo := by
  have hstart := fromSeqNo_fromBatch L2GenesisSeqNo (by decide)
  rw [if_pos rfl] at hstart
  exact rollupTick_FirstBatchSequence hstore hstart h

/-! ## Two stored batches after a genesis-only rollup

The enclave stores batches 1 and 2, both with their L1 proof at height 1, and the L1 head is at
height 4, so both are at least `RollupDelay` blocks deep; the L1 reports 1. -/

/-- A batch header with sequence number and height `seqNo`, its L1 proof the block `1`. -/
def cxSeqHeader (seqNo : Nat) : BatchHeader :=
  { ParentHash := 0, Root := 0, TxHash := 0, ReceiptHash := 0, Number := seqNo,
    SequencerOrderNo := seqNo, GasLimit := 0, GasUsed := 0, Time := UInt64.ofNat seqNo,
    Extra := [], BaseFee := none, L1Proof := 1, R := none, S := none, CrossChainMessages := [],
    LatestInboundCrossChainHash := 0, LatestInboundCrossChainHeight := none }

def cxSeqBatch (seqNo : Nat) : Batch Unit := ⟨cxSeqHeader seqNo, []⟩

def cxProofBlock : L1Block := ⟨1, 0, 1⟩

def cxTwoBatchStore : Store Unit where
  FetchBatchByHeight n := if n = 1 ∨ n = 2 then .ok (cxSeqBatch n.toNat) else .error "not found"
  FetchBlock h := if h = 1 then .ok cxProofBlock else .error "not found"
  FetchHeadBatch := .ok (cxSeqBatch 2)
  FetchBatchBySeqNo n := if n = 1 ∨ n = 2 then .ok (cxSeqBatch n.toNat) else .error "not found"
  FetchCanonicaBlockByHeight _ := .ok cxProofBlock
  FetchHeadBlock := .ok ⟨4, 3, 4⟩

/-- Some lossless RLP: the header codec is read only for re-orged batches, and there are none. -/
noncomputable def cxRlp : Codec BatchHeader :=
  Classical.choice (Codec.nonempty_of_countable BatchHeader)

def cxSequencer : SequencerConfig Unit where
  SequencerID := 0
  MaxRollupSize := 100
  RollupHash h := BitVec.ofNat 256 h.LastBatchSeqNo.toNat
  BatchHash h := BitVec.ofNat 256 h.SequencerOrderNo
  Sign h := .ok (h.toNat, 1)
  EncodedSize _ := .ok 1
  EncodeHeader hdr := .ok [UInt8.ofNat hdr.FirstBatchSequence]
  EncodeTxs _ := .ok []

def cxLive : StateTracker := { NewStateTracker with status := .Live }

/-- The producer, asked from 1, takes both batches; asked from 2, it would take the second. -/
example : (Rollups.CreateRollup cxTwoBatchStore cxSequencer.EncodedSize 0 1 2 100).map
    (·.Batches.map (·.SeqNo)) = .ok [1, 2] := rfl

example : (Rollups.CreateRollup cxTwoBatchStore cxSequencer.EncodedSize 0 2 2 100).map
    (·.Batches.map (·.SeqNo)) = .ok [2] := rfl

/-- The store answers a sequence number with the batch of that number. -/
theorem cxTwoBatchStore_seqNo (k : UInt64) (b : Batch Unit)
    (h : cxTwoBatchStore.FetchBatchBySeqNo k = .ok b) : b.SeqNo = k.toNat := by
  simp only [cxTwoBatchStore] at h
  split_ifs at h
  cases h
  rfl

/-- Batch 2 is stored, the tick publishes, and the published rollup starts at batch 1. -/
theorem periodicRollupProduction_repeatsGenesis_twoBatches :
    cxTwoBatchStore.FetchBatchBySeqNo 2 = .ok (cxSeqBatch 2) ∧
    ∃ published, Guardian.rollupTick cxLive (.ok L2GenesisSeqNo)
        (Guardian.enclaveCreateRollup cxRlp Rollups.cxGob cxSequencer cxTwoBatchStore) =
          some published ∧
      ∃ ext hdr, published = some ext ∧
        cxSequencer.EncodeHeader hdr = .ok ext.CalldataRollupHeader ∧
        hdr.FirstBatchSequence = L2GenesisSeqNo := by
  obtain ⟨published, htick⟩ : ∃ published, Guardian.rollupTick cxLive (.ok L2GenesisSeqNo)
      (Guardian.enclaveCreateRollup cxRlp Rollups.cxGob cxSequencer cxTwoBatchStore) =
        some published :=
    ⟨_, rfl⟩
  exact ⟨rfl, published, htick,
    periodicRollupProduction_repeatsGenesis cxTwoBatchStore_seqNo htick⟩

/-- When the L1 reports 0, the tick publishes, and the published rollup starts at batch 1. -/
theorem periodicRollupProduction_resumes_fromZero :
    ∃ published, Guardian.rollupTick cxLive (.ok 0)
        (Guardian.enclaveCreateRollup cxRlp Rollups.cxGob cxSequencer cxTwoBatchStore) =
          some published ∧
      ∃ ext hdr, published = some ext ∧
        cxSequencer.EncodeHeader hdr = .ok ext.CalldataRollupHeader ∧
        hdr.FirstBatchSequence = 0 + 1 := by
  obtain ⟨published, htick⟩ : ∃ published, Guardian.rollupTick cxLive (.ok 0)
      (Guardian.enclaveCreateRollup cxRlp Rollups.cxGob cxSequencer cxTwoBatchStore) =
        some published :=
    ⟨_, rfl⟩
  exact ⟨published, htick,
    periodicRollupProduction_resumes cxTwoBatchStore_seqNo (by decide) (by decide) htick⟩

end Obscuro.HostEnclave
