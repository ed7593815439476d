import Mathlib

/-!
# Obscuro — common data model

The plaintext structures every part of the node exchanges, after `go/common/headers.go`,
`go/common/rollups.go` and `go/common/types.go`. Hashes are 32-byte values and addresses
20-byte values, as `gethcommon.Hash` and `gethcommon.Address` are. A `*big.Int` field that
the code only ever fills from counters and heights, and that RLP cannot carry when negative,
is a `Nat`; `uint64` fields are `UInt64`, so that Go's wrapping arithmetic on them is Lean's.
A nil-able pointer is an `Option`.

Transactions are opaque to everything modelled here except through the functions passed to
the models, so `Batch` is generic in its transaction type.
-/

namespace Obscuro

/-- `gethcommon.Hash`. -/
abbrev Hash := BitVec 256
/-- `common.L1BlockHash`. -/
abbrev L1BlockHash := Hash
/-- `common.L2BatchHash`. -/
abbrev L2BatchHash := Hash
/-- `gethcommon.Address`. -/
abbrev Address := BitVec 160
/-- `[]byte`. -/
abbrev Bytes := List UInt8

/-- `common.TxHash`. -/
abbrev TxHash := Hash

/-- `gethcommon.Hash.Bytes()`: the 32 bytes, most significant first. -/
def Hash.Bytes (h : Hash) : Bytes :=
  (List.range 32).map fun k => UInt8.ofNat (h.toNat / 256 ^ (31 - k))

/-- `gethcommon.Hash.Hex()`, as `%s` prints a hash: `0x` and 64 lower-case hex digits. -/
def Hash.Hex (h : Hash) : String :=
  "0x" ++ String.ofList ((List.range 64).map fun k => Nat.digitChar (h.toNat / 16 ^ (63 - k) % 16))

/-- `errutil.ErrNotFound` (`ethereum.NotFound`), the error a store returns for a missing key. -/
def ErrNotFound : String := "not found"
/-- `errutil.ErrBlockAlreadyProcessed`. -/
def ErrBlockAlreadyProcessed : String := "block already processed"
/-- `errutil.ErrBlockAncestorNotFound`. -/
def ErrBlockAncestorNotFound : String := "block ancestor not found"
/-- `errutil.ErrBlockForBatchNotFound`. -/
def ErrBlockForBatchNotFound : String := "block for batch not found"
/-- `errutil.ErrAncestorBatchNotFound`. -/
def ErrAncestorBatchNotFound : String := "parent for batch not found"

/-- `common.L1GenesisHeight`. -/
def L1GenesisHeight : Nat := 0
/-- `common.L2GenesisSeqNo`: the genesis batch has sequence number 1. -/
def L2GenesisSeqNo : Nat := 1

/-- `types.EmptyRootHash`, the root of the empty trie. -/
def EmptyRootHash : Hash := 0x56e81f171bcc55a6ff8345e692c0f86e5b48e01b996cadc001622fb5e363b421#256

/-- The part of an L1 block (`types.Block`) the enclave reads: its hash, its parent's hash
and its height. geth rejects headers whose number does not fit 64 bits. -/
structure L1Block where
  hash : L1BlockHash
  parentHash : L1BlockHash
  number : Nat
  deriving DecidableEq, Repr, Countable

/-- `block.NumberU64()`. -/
def L1Block.NumberU64 (b : L1Block) : UInt64 := UInt64.ofNat b.number

/-- `MessageBus.StructsCrossChainMessage`. -/
structure CrossChainMessage where
  Sender : Address
  Sequence : UInt64
  Nonce : UInt32
  Topic : UInt32
  Payload : Bytes
  ConsistencyLevel : UInt8
  deriving DecidableEq, Repr, Countable

/-- `types.Log`: an event, with the position fields the node fills in. -/
structure Log where
  Address : Address
  Topics : List Hash
  Data : Bytes
  BlockNumber : Nat
  TxHash : TxHash
  BlockHash : Hash
  Index : Nat
  deriving DecidableEq, Repr

/-- `types.Receipt`: the fields the enclave reads or writes. The consensus fields the EVM
alone computes (gas, bloom, contract address) reach the model only through the functions
that hash receipts. -/
structure Receipt where
  Status : UInt64
  Logs : List Log
  TxHash : TxHash
  BlockHash : Hash
  BlockNumber : Nat
  TransactionIndex : Nat
  deriving DecidableEq, Repr

/-- `common.BatchHeader`. -/
structure BatchHeader where
  ParentHash : L2BatchHash
  Root : Hash
  TxHash : Hash
  ReceiptHash : Hash
  Number : Nat
  SequencerOrderNo : Nat
  GasLimit : UInt64
  GasUsed : UInt64
  Time : UInt64
  Extra : Bytes
  BaseFee : Option Nat
  L1Proof : L1BlockHash
  R : Option Nat
  S : Option Nat
  CrossChainMessages : List CrossChainMessage
  LatestInboundCrossChainHash : Hash
  LatestInboundCrossChainHeight : Option Nat
  deriving DecidableEq, Repr, Countable

/-- `BatchHeader.Hash()`: the keccak hash of the RLP encoding with the signature cleared.
`rlpHash` is that keccak-of-RLP function. -/
def BatchHeader.Hash (rlpHash : BatchHeader → Hash) (h : BatchHeader) : L2BatchHash :=
  rlpHash { h with R := none, S := none }

/-- `core.Batch`. -/
structure Batch (Tx : Type) where
  Header : BatchHeader
  Transactions : List Tx

namespace Batch

variable {Tx : Type}

/-- `batch.SeqNo()`. -/
def SeqNo (b : Batch Tx) : Nat := b.Header.SequencerOrderNo
/-- `batch.Number()`. -/
def Number (b : Batch Tx) : Nat := b.Header.Number
/-- `batch.NumberU64()`. -/
def NumberU64 (b : Batch Tx) : UInt64 := UInt64.ofNat b.Header.Number
/-- `batch.Hash()`. -/
def Hash (rlpHash : BatchHeader → Obscuro.Hash) (b : Batch Tx) : L2BatchHash :=
  b.Header.Hash rlpHash

end Batch

/-- `common.ExtBatch`: a batch as it travels outside the enclave, its transactions encrypted. -/
structure ExtBatch where
  Header : BatchHeader
  TxHashes : List TxHash
  EncryptedTxBlob : Bytes
  deriving DecidableEq, Repr, Countable

/-- `ExtBatch.Hash()`: the hash of the header. -/
def ExtBatch.Hash (rlpHash : BatchHeader → Obscuro.Hash) (b : ExtBatch) : L2BatchHash :=
  b.Header.Hash rlpHash

theorem ExtBatch.Hash_eq (rlpHash : BatchHeader → Obscuro.Hash) (b : ExtBatch) :
    b.Hash rlpHash = b.Header.Hash rlpHash := rfl

/-- `common.RollupHeader`: the fields the management contract processes. -/
structure RollupHeader where
  Coinbase : Address
  CompressionL1Head : L1BlockHash
  CrossChainMessages : List CrossChainMessage
  PayloadHash : Hash
  R : Option Nat
  S : Option Nat
  LastBatchSeqNo : UInt64
  deriving DecidableEq, Repr, Countable

/-- `RollupHeader.Hash()`: keccak of the RLP encoding with the signature cleared. -/
def RollupHeader.Hash (rlpHash : RollupHeader → Obscuro.Hash) (h : RollupHeader) : Obscuro.Hash :=
  rlpHash { h with R := none, S := none }

/-- `common.ExtRollup`: the rollup as published, its batches compressed and encrypted. -/
structure ExtRollup where
  Header : RollupHeader
  CalldataRollupHeader : Bytes
  BatchPayloads : Bytes
  deriving DecidableEq, Repr, Countable

/-- `ExtRollup.Hash()`: the hash of the header, and of nothing else. -/
def ExtRollup.Hash (rlpHash : RollupHeader → Obscuro.Hash) (r : ExtRollup) : Obscuro.Hash :=
  r.Header.Hash rlpHash

end Obscuro
