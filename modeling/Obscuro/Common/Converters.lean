import Obscuro.Common.Types
import Obscuro.Common.Bytes
import Obscuro.Lib.GoInt
import Obscuro.Lib.ExceptBind
import Obscuro.Enclave.MessageExtraction

/-!
# The host–enclave gRPC converters

`go/common/rpc/converters.go`: the functions that turn batch and rollup headers, and the
batches and rollups around them, into the protobuf messages of `generated/enclave.pb.go` and
back. Hashes and addresses travel as their bytes, `*big.Int` values as `Bytes()` or as
`Uint64()`, and cross-chain messages field by field.

* `FromCrossChainMsgs_ToCrossChainMsgs` — a message comes back with `ConsistencyLevel` 0: the
  protobuf message has no such field;
* `FromBatchHeaderMsg_ToBatchHeaderMsg` — a signed batch header comes back with a nil
  `BaseFee` or `LatestInboundCrossChainHeight` as 0 and its messages' levels as 0, and is
  otherwise the same; `FromRollupHeaderMsg_ToRollupHeaderMsg` — a signed rollup header comes
  back with its `PayloadHash` as 0 as well, which the message does not carry either;
* `BatchHeader.Hash_of_rlpView` — the batch hash, under the assumption that RLP writes a nil
  `*big.Int` as it writes 0 (`NilAsZero`); the rollup header has no nil field left to differ.

`x.Bytes()` on a nil `*big.Int` dereferences it, so a header without a signature makes
`ToBatchHeaderMsg` and `ToRollupHeaderMsg` panic; the panic is an error here. A message
without a header converts to a batch or rollup without one, which is `none`.
-/

namespace Obscuro

/-! ## What RLP encodes -/

/-- The batch header as RLP writes it: a nil `*big.Int` is written as 0. -/
def BatchHeader.rlpView (h : BatchHeader) : BatchHeader :=
  { h with
    BaseFee := some (h.BaseFee.getD 0)
    R := some (h.R.getD 0)
    S := some (h.S.getD 0)
    LatestInboundCrossChainHeight := some (h.LatestInboundCrossChainHeight.getD 0) }

/-- A hash of the RLP encoding does not tell a nil `*big.Int` from 0. -/
def BatchHeader.NilAsZero (rlpHash : BatchHeader → Obscuro.Hash) : Prop :=
  ∀ h, rlpHash h = rlpHash h.rlpView

/-- Headers that RLP writes alike, once the signature is cleared, have one hash. -/
theorem BatchHeader.Hash_of_rlpView {rlpHash : BatchHeader → Obscuro.Hash}
    (hrlp : BatchHeader.NilAsZero rlpHash) {h h' : BatchHeader}
    (hv : ({ h with R := none, S := none } : BatchHeader).rlpView =
      ({ h' with R := none, S := none } : BatchHeader).rlpView) :
    h.Hash rlpHash = h'.Hash rlpHash := by
  unfold BatchHeader.Hash
  rw [hrlp, hv, ← hrlp]

namespace RPC

open CrossChain (nilDereference)

/-! ## Messages -/

/-- `generated.CrossChainMsg`. -/
structure CrossChainMsg where
  Sender : Bytes
  Sequence : UInt64
  Nonce : UInt32
  Topic : UInt32
  Payload : Bytes
  deriving DecidableEq, Repr

/-- `generated.BatchHeaderMsg`. -/
structure BatchHeaderMsg where
  ParentHash : Bytes
  Proof : Bytes
  Root : Bytes
  TxHash : Bytes
  Number : UInt64
  SequencerOrderNo : UInt64
  ReceiptHash : Bytes
  Extra : Bytes
  R : Bytes
  S : Bytes
  GasLimit : UInt64
  GasUsed : UInt64
  Time : UInt64
  BaseFee : UInt64
  LatestInboundCrossChainHeight : Bytes
  LatestInboundCrossChainHash : Bytes
  CrossChainMessages : List CrossChainMsg
  deriving DecidableEq, Repr

/-- `generated.ExtBatchMsg`. -/
structure ExtBatchMsg where
  Header : Option BatchHeaderMsg
  TxHashes : List Bytes
  Txs : Bytes
  deriving DecidableEq, Repr

/-- `generated.RollupHeaderMsg`. -/
structure RollupHeaderMsg where
  ParentHash : Bytes
  CompressionL1Head : Bytes
  ProofNumber : UInt64
  Number : UInt64
  Time : UInt64
  Coinbase : Bytes
  CrossChainMessages : List CrossChainMsg
  R : Bytes
  S : Bytes
  LastBatchSeqNo : UInt64
  deriving DecidableEq, Repr

/-- `generated.ExtRollupMsg`. -/
structure ExtRollupMsg where
  Header : Option RollupHeaderMsg
  BatchPayloads : Bytes
  CalldataRollupHeader : Bytes
  deriving DecidableEq, Repr

/-! ## Converters -/

/-- `ToCrossChainMsgs`. -/
def ToCrossChainMsgs (messages : List CrossChainMessage) : List CrossChainMsg :=
  messages.map fun message =>
    { Sender := message.Sender.Bytes, Sequence := message.Sequence, Nonce := message.Nonce,
      Topic := message.Topic, Payload := message.Payload }

/-- `FromCrossChainMsgs`: `ConsistencyLevel` is left at its zero value. -/
def FromCrossChainMsgs (messages : List CrossChainMsg) : List CrossChainMessage :=
  messages.map fun message =>
    { Sender := BytesToAddress message.Sender, Sequence := message.Sequence,
      Nonce := message.Nonce, Topic := message.Topic, Payload := message.Payload,
      ConsistencyLevel := 0 }

/-- `ToBatchHeaderMsg`: `R.Bytes()` and `S.Bytes()` panic on a nil signature. -/
def ToBatchHeaderMsg (header : BatchHeader) : Except String BatchHeaderMsg :=
  match header.R, header.S with
  | some r, some s => .ok
    { ParentHash := header.ParentHash.Bytes
      Proof := header.L1Proof.Bytes
      Root := header.Root.Bytes
      TxHash := header.TxHash.Bytes
      Number := Go.bigUint64 header.Number
      SequencerOrderNo := Go.bigUint64 header.SequencerOrderNo
      ReceiptHash := header.ReceiptHash.Bytes
      Extra := header.Extra
      R := Go.bigBytes r
      S := Go.bigBytes s
      GasLimit := header.GasLimit
      GasUsed := header.GasUsed
      Time := header.Time
      -- `baseFee` stays 0 for a nil `BaseFee`
      BaseFee := (header.BaseFee.map fun baseFee : Nat => Go.bigUint64 baseFee).getD 0
      CrossChainMessages := ToCrossChainMsgs header.CrossChainMessages
      LatestInboundCrossChainHash := header.LatestInboundCrossChainHash.Bytes
      LatestInboundCrossChainHeight :=
        (header.LatestInboundCrossChainHeight.map Go.bigBytes).getD [] }
  | _, _ => .error nilDereference

/-- `FromBatchHeaderMsg`. `big.NewInt(int64(u))` of a `uint64` from `2^63` up is negative, a value
no `BatchHeader` here holds (RLP cannot encode it); `Int.toNat` stands in for it. -/
def FromBatchHeaderMsg (header : BatchHeaderMsg) : BatchHeader where
  ParentHash := BytesToHash header.ParentHash
  L1Proof := BytesToHash header.Proof
  Root := BytesToHash header.Root
  TxHash := BytesToHash header.TxHash
  Number := (Go.newInt header.Number.toInt64).toNat
  SequencerOrderNo := (Go.newInt header.SequencerOrderNo.toInt64).toNat
  ReceiptHash := BytesToHash header.ReceiptHash
  Extra := header.Extra
  R := some (Go.setBytes header.R)
  S := some (Go.setBytes header.S)
  GasLimit := header.GasLimit
  GasUsed := header.GasUsed
  Time := header.Time
  BaseFee := some (Go.newInt header.BaseFee.toInt64).toNat
  CrossChainMessages := FromCrossChainMsgs header.CrossChainMessages
  LatestInboundCrossChainHash := BytesToHash header.LatestInboundCrossChainHash
  LatestInboundCrossChainHeight := some (Go.setBytes header.LatestInboundCrossChainHeight)

/-- `ToExtBatchMsg`, for a batch with a header. -/
def ToExtBatchMsg (batch : ExtBatch) : Except String ExtBatchMsg := do
  let header ← ToBatchHeaderMsg batch.Header
  pure
    { Header := some header
      TxHashes := batch.TxHashes.map Hash.Bytes
      Txs := batch.EncryptedTxBlob }

/-- `FromExtBatchMsg`: a message without a header gives a batch without one (`none`). -/
def FromExtBatchMsg (msg : ExtBatchMsg) : Option ExtBatch :=
  match msg.Header with
  | none => none
  | some header => some
    { Header := FromBatchHeaderMsg header, TxHashes := msg.TxHashes.map BytesToHash,
      EncryptedTxBlob := msg.Txs }

/-- `ToRollupHeaderMsg`: `PayloadHash` is not carried, and a nil signature panics. -/
def ToRollupHeaderMsg (header : RollupHeader) : Except String RollupHeaderMsg :=
  match header.R, header.S with
  | some r, some s => .ok
    { ParentHash := []
      CompressionL1Head := header.CompressionL1Head.Bytes
      ProofNumber := 0
      Number := 0
      Time := 0
      Coinbase := header.Coinbase.Bytes
      CrossChainMessages := ToCrossChainMsgs header.CrossChainMessages
      R := Go.bigBytes r
      S := Go.bigBytes s
      LastBatchSeqNo := header.LastBatchSeqNo }
  | _, _ => .error nilDereference

/-- `FromRollupHeaderMsg`: `PayloadHash` is left at its zero value. -/
def FromRollupHeaderMsg (header : RollupHeaderMsg) : RollupHeader where
  Coinbase := BytesToAddress header.Coinbase
  CompressionL1Head := BytesToHash header.CompressionL1Head
  CrossChainMessages := FromCrossChainMsgs header.CrossChainMessages
  PayloadHash := 0
  R := some (Go.setBytes header.R)
  S := some (Go.setBytes header.S)
  LastBatchSeqNo := header.LastBatchSeqNo

/-- `ToExtRollupMsg`, for a rollup with a header. -/
def ToExtRollupMsg (rollup : ExtRollup) : Except String ExtRollupMsg := do
  let header ← ToRollupHeaderMsg rollup.Header
  pure
    { Header := some header
      BatchPayloads := rollup.BatchPayloads
      CalldataRollupHeader := rollup.CalldataRollupHeader }

/-- `FromExtRollupMsg`: a message without a header gives a rollup without one (`none`). -/
def FromExtRollupMsg (msg : ExtRollupMsg) : Option ExtRollup :=
  match msg.Header with
  | none => none
  | some header => some
    { Header := FromRollupHeaderMsg header, BatchPayloads := msg.BatchPayloads,
      CalldataRollupHeader := msg.CalldataRollupHeader }

/-! ## Round trips -/

/-- A cross-chain message comes back with every field but its consistency level. -/
theorem FromCrossChainMsgs_ToCrossChainMsgs (messages : List CrossChainMessage) :
    FromCrossChainMsgs (ToCrossChainMsgs messages) =
      messages.map fun message => { message with ConsistencyLevel := 0 } := by
  simp [FromCrossChainMsgs, ToCrossChainMsgs]

/-- A `uint64` field read back through `big.NewInt(int64(…))` below `2^63`. -/
theorem toNat_newInt_bigUint64 {n : Nat} (h : n < 2 ^ 63) :
    (Go.newInt (Go.bigUint64 n).toInt64).toNat = n := by
  rw [Go.newInt_toInt64_bigUint64 h]
  rfl

/-- **The batch header round trip.** A signed header whose numbers fit `int64` comes back with a
nil `BaseFee` and `LatestInboundCrossChainHeight` as 0, its messages' consistency levels as 0,
and every other field as it was. -/
theorem FromBatchHeaderMsg_ToBatchHeaderMsg {h : BatchHeader} {r s : Nat} (hR : h.R = some r)
    (hS : h.S = some s) (hNumber : h.Number < 2 ^ 63) (hSeq : h.SequencerOrderNo < 2 ^ 63)
    (hBaseFee : ∀ b ∈ h.BaseFee, b < 2 ^ 63) :
    (ToBatchHeaderMsg h).map FromBatchHeaderMsg = .ok
      { h with
        BaseFee := some (h.BaseFee.getD 0)
        CrossChainMessages := h.CrossChainMessages.map fun m => { m with ConsistencyLevel := 0 }
        LatestInboundCrossChainHeight := some (h.LatestInboundCrossChainHeight.getD 0) } := by
  -- a nil `BaseFee` travels as 0, and 0 comes back
  have hbase : (Go.newInt ((h.BaseFee.map fun b : Nat => Go.bigUint64 b).getD 0).toInt64).toNat =
      h.BaseFee.getD 0 := by
    cases hb : h.BaseFee with
    | none => rfl
    | some b => exact toNat_newInt_bigUint64 (hBaseFee b hb)
  have hheight : Go.setBytes ((h.LatestInboundCrossChainHeight.map Go.bigBytes).getD []) =
      h.LatestInboundCrossChainHeight.getD 0 := by
    cases h.LatestInboundCrossChainHeight with
    | none => rfl
    | some height => simp
  unfold ToBatchHeaderMsg
  rw [hR, hS]
  simp only [Except.map, FromBatchHeaderMsg, BytesToHash_Bytes, Go.setBytes_bigBytes,
    toNat_newInt_bigUint64 hNumber, toNat_newInt_bigUint64 hSeq, hbase, hheight,
    FromCrossChainMsgs_ToCrossChainMsgs, ← hR, ← hS]

/-- The rollup header round trip: a signed header comes back with its `PayloadHash` as 0 and its
messages' consistency levels as 0, and every other field as it was. -/
theorem FromRollupHeaderMsg_ToRollupHeaderMsg {h : RollupHeader} {r s : Nat} (hR : h.R = some r)
    (hS : h.S = some s) :
    (ToRollupHeaderMsg h).map FromRollupHeaderMsg = .ok
      { h with
        PayloadHash := 0
        CrossChainMessages := h.CrossChainMessages.map fun m => { m with ConsistencyLevel := 0 } } := by
  unfold ToRollupHeaderMsg
  rw [hR, hS]
  simp only [Except.map, FromRollupHeaderMsg, BytesToHash_Bytes, BytesToAddress_Bytes,
    Go.setBytes_bigBytes, FromCrossChainMsgs_ToCrossChainMsgs, ← hR, ← hS]

/-- A batch comes back with its transaction hashes and its encrypted transactions. -/
theorem FromExtBatchMsg_ToExtBatchMsg {b : ExtBatch} {msg : BatchHeaderMsg}
    (hheader : ToBatchHeaderMsg b.Header = .ok msg) :
    (ToExtBatchMsg b).map FromExtBatchMsg =
      .ok (some { b with Header := FromBatchHeaderMsg msg }) := by
  simp [ToExtBatchMsg, hheader, Except.map, FromExtBatchMsg, Function.comp_def]

/-- A rollup comes back with its batch payloads and its calldata header. -/
theorem FromExtRollupMsg_ToExtRollupMsg {r : ExtRollup} {msg : RollupHeaderMsg}
    (hheader : ToRollupHeaderMsg r.Header = .ok msg) :
    (ToExtRollupMsg r).map FromExtRollupMsg =
      .ok (some { r with Header := FromRollupHeaderMsg msg }) := by
  simp [ToExtRollupMsg, hheader, Except.map, FromExtRollupMsg]

/-- A signed batch header converts. -/
theorem ToBatchHeaderMsg_ok {h : BatchHeader} (hR : h.R ≠ none) (hS : h.S ≠ none) :
    ∃ msg, ToBatchHeaderMsg h = .ok msg := by
  obtain ⟨r, hr⟩ := Option.ne_none_iff_exists'.mp hR
  obtain ⟨s, hs⟩ := Option.ne_none_iff_exists'.mp hS
  unfold ToBatchHeaderMsg
  rw [hr, hs]
  exact ⟨_, rfl⟩

/-- A signed rollup header converts. -/
theorem ToRollupHeaderMsg_ok {h : RollupHeader} (hR : h.R ≠ none) (hS : h.S ≠ none) :
    ∃ msg, ToRollupHeaderMsg h = .ok msg := by
  obtain ⟨r, hr⟩ := Option.ne_none_iff_exists'.mp hR
  obtain ⟨s, hs⟩ := Option.ne_none_iff_exists'.mp hS
  unfold ToRollupHeaderMsg
  rw [hr, hs]
  exact ⟨_, rfl⟩

/-- Clearing consistency levels that are all 0 changes nothing. -/
theorem map_clearLevel_of_forall {messages : List CrossChainMessage}
    (h : ∀ m ∈ messages, m.ConsistencyLevel = 0) :
    messages.map (fun m => { m with ConsistencyLevel := 0 }) = messages := by
  conv => rhs; rw [← List.map_id messages]
  apply List.map_congr_left
  intro m hm
  rw [← h m hm]
  rfl

/-- **The converters.** Under a batch hash that does not tell a nil `*big.Int` from 0: a signed batch
header whose numbers fit `int64` and whose messages have consistency level 0 comes back with
its hash and signature; a signed rollup header with a zero `PayloadHash` and such messages comes
back with its hash and signature; and a batch or rollup with a signed header comes back with
its transaction hashes and encrypted transactions, or its payloads and calldata header. -/
theorem converters_roundTrip {rlpHash : BatchHeader → Hash} {rollupHash : RollupHeader → Hash}
    (hrlp : BatchHeader.NilAsZero rlpHash) :
    (∀ h : BatchHeader, h.R ≠ none → h.S ≠ none → h.Number < 2 ^ 63 →
      h.SequencerOrderNo < 2 ^ 63 → (∀ b ∈ h.BaseFee, b < 2 ^ 63) →
      (∀ m ∈ h.CrossChainMessages, m.ConsistencyLevel = 0) →
      ∃ h', (ToBatchHeaderMsg h).map FromBatchHeaderMsg = .ok h' ∧
        h'.Hash rlpHash = h.Hash rlpHash ∧ h'.R = h.R ∧ h'.S = h.S) ∧
    (∀ h : RollupHeader, h.R ≠ none → h.S ≠ none → h.PayloadHash = 0 →
      (∀ m ∈ h.CrossChainMessages, m.ConsistencyLevel = 0) →
      ∃ h', (ToRollupHeaderMsg h).map FromRollupHeaderMsg = .ok h' ∧
        h'.Hash rollupHash = h.Hash rollupHash ∧ h'.R = h.R ∧ h'.S = h.S) ∧
    (∀ b : ExtBatch, b.Header.R ≠ none → b.Header.S ≠ none →
      ∃ b', (ToExtBatchMsg b).map FromExtBatchMsg = .ok (some b') ∧
        b'.TxHashes = b.TxHashes ∧ b'.EncryptedTxBlob = b.EncryptedTxBlob) ∧
    (∀ r : ExtRollup, r.Header.R ≠ none → r.Header.S ≠ none →
      ∃ r', (ToExtRollupMsg r).map FromExtRollupMsg = .ok (some r') ∧
        r'.BatchPayloads = r.BatchPayloads ∧ r'.CalldataRollupHeader = r.CalldataRollupHeader) := by
  refine ⟨fun h hR hS hNumber hSeq hBaseFee hlevels => ?_, fun h hR hS hpayload hlevels => ?_,
    fun b hR hS => ?_, fun r hR hS => ?_⟩
  · obtain ⟨r, hr⟩ := Option.ne_none_iff_exists'.mp hR
    obtain ⟨s, hs⟩ := Option.ne_none_iff_exists'.mp hS
    refine ⟨_, FromBatchHeaderMsg_ToBatchHeaderMsg hr hs hNumber hSeq hBaseFee, ?_, rfl, rfl⟩
    -- only the fields RLP writes alike have moved
    apply BatchHeader.Hash_of_rlpView hrlp
    rw [map_clearLevel_of_forall hlevels]
    simp [BatchHeader.rlpView]
  · obtain ⟨r, hr⟩ := Option.ne_none_iff_exists'.mp hR
    obtain ⟨s, hs⟩ := Option.ne_none_iff_exists'.mp hS
    refine ⟨_, FromRollupHeaderMsg_ToRollupHeaderMsg hr hs, ?_, rfl, rfl⟩
    -- the rollup round trip only moves the payload hash and the levels
    rw [map_clearLevel_of_forall hlevels, ← hpayload]
  · obtain ⟨msg, hmsg⟩ := ToBatchHeaderMsg_ok hR hS
    exact ⟨_, FromExtBatchMsg_ToExtBatchMsg hmsg, rfl, rfl⟩
  · obtain ⟨msg, hmsg⟩ := ToRollupHeaderMsg_ok hR hS
    exact ⟨_, FromExtRollupMsg_ToExtRollupMsg hmsg, rfl, rfl⟩

/-- The batch header round trip, under a hash of the header's number. -/
theorem converters_roundTrip_numberHash :
    BatchHeader.NilAsZero (fun h => BitVec.ofNat 256 h.Number) ∧
    ∀ h : BatchHeader, h.R ≠ none → h.S ≠ none → h.Number < 2 ^ 63 →
      h.SequencerOrderNo < 2 ^ 63 → (∀ b ∈ h.BaseFee, b < 2 ^ 63) →
      (∀ m ∈ h.CrossChainMessages, m.ConsistencyLevel = 0) →
      ∃ h', (ToBatchHeaderMsg h).map FromBatchHeaderMsg = .ok h' ∧
        h'.Hash (fun h => BitVec.ofNat 256 h.Number) =
          h.Hash (fun h => BitVec.ofNat 256 h.Number) ∧ h'.R = h.R ∧ h'.S = h.S :=
  ⟨fun _ => rfl, (@converters_roundTrip (fun h => BitVec.ofNat 256 h.Number) (fun _ => 0)
    (fun _ => rfl)).1⟩

/-- A cross-chain message published at consistency level 1. -/
def cxMessage : CrossChainMessage :=
  { Sender := 0, Sequence := 0, Nonce := 0, Topic := 0, Payload := [], ConsistencyLevel := 1 }

/-- A signed batch header carrying that message. -/
def cxBatchHeader : BatchHeader :=
  { ParentHash := 0, Root := 0, TxHash := 0, ReceiptHash := 0, Number := 1, SequencerOrderNo := 1,
    GasLimit := 0, GasUsed := 0, Time := 0, Extra := [], BaseFee := none, L1Proof := 0,
    R := some 1, S := some 1, CrossChainMessages := [cxMessage],
    LatestInboundCrossChainHash := 0, LatestInboundCrossChainHeight := none }

/-- A signed rollup header with a nonzero payload hash. -/
def cxRollupHeader : RollupHeader :=
  { Coinbase := 0, CompressionL1Head := 0, CrossChainMessages := [], PayloadHash := 1,
    R := some 1, S := some 1, LastBatchSeqNo := 1 }

/-- Two hashes that RLP could be: one reads the messages' consistency levels, the other the
payload hash, and neither tells nil from 0. The signed headers above come back with other
hashes. -/
theorem converters_dropsLevelAndPayloadHash :
    BatchHeader.NilAsZero
        (fun h => BitVec.ofNat 256 (h.CrossChainMessages.map (·.ConsistencyLevel.toNat)).sum) ∧
      (∃ h', (ToBatchHeaderMsg cxBatchHeader).map FromBatchHeaderMsg = .ok h' ∧
        h'.Hash (fun h => BitVec.ofNat 256 (h.CrossChainMessages.map (·.ConsistencyLevel.toNat)).sum) ≠
          cxBatchHeader.Hash
            (fun h => BitVec.ofNat 256 (h.CrossChainMessages.map (·.ConsistencyLevel.toNat)).sum)) ∧
      ∃ h', (ToRollupHeaderMsg cxRollupHeader).map FromRollupHeaderMsg = .ok h' ∧
        h'.Hash (·.PayloadHash) ≠ cxRollupHeader.Hash (·.PayloadHash) :=
  ⟨fun _ => rfl, ⟨_, rfl, by decide⟩, ⟨_, rfl, by decide⟩⟩

end RPC

end Obscuro
