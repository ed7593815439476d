import Obscuro.Common.Types
import Obscuro.Common.Bytes
import Obscuro.Lib.GoInt
import Obscuro.Lib.Codec
import Obscuro.Lib.WriteLog
import Obscuro.Lib.ExceptBind

/-!
# The host's batch store

`go/host/db/batches.go`: the host keeps the batches it sees in a key-value store
(`ethdb.KeyValueStore`, LevelDB or geth's memory database, both of which report a missing key as
`errutil.ErrNotFound`). `DB.AddBatch` stages every write for one batch in a write batch and
commits it with one `Write`; it reads the total transaction count and the head batch from the
committed store, not from what it has staged.

Keys are byte strings, a two-letter prefix followed by a hash (its 32 bytes) or by a number (its
decimal text), as in `hostdb.go`. Values are RLP encodings, taken as lossless `Codec`s, hashes'
bytes and big-endian numbers.

The abstract store is the list of batches stored so far, in order (`storeBatch`: a batch whose
hash is there already is refused). `Represents` says what every key the reads use holds for such
a list:

* `AddBatch_represents` — `AddBatch` refines `storeBatch` and keeps `Represents`;
* `Represents.GetHeadBatchHeader` — the head is `List.argmax` of the numbers, the first stored
  batch of greatest number;
* `Represents.GetTotalTransactions`, `Represents.GetBatch`, … — what the reads return;
* `AddBatch_error` — a call that fails commits nothing.

A sequence number is a decimal key that the last stored batch with that number overwrites, so
`GetBatchBySequenceNumber` returns the last stored batch with that number.
-/

namespace Obscuro.HostDB

open WriteLog

/-! ## Keys and values -/

/-- `[]byte(s)`: the UTF-8 bytes of a string. -/
def stringBytes (s : String) : Bytes := s.toUTF8.data.toList

/-- `batchHeaderPrefix`. -/
def batchHeaderPrefix : Bytes := stringBytes "ba"
/-- `batchHashPrefix`. -/
def batchHashPrefix : Bytes := stringBytes "bh"
/-- `batchNumberPrefix`. -/
def batchNumberPrefix : Bytes := stringBytes "bn"
/-- `batchPrefix`. -/
def batchPrefix : Bytes := stringBytes "bp"
/-- `batchHashForSeqNoPrefix`. -/
def batchHashForSeqNoPrefix : Bytes := stringBytes "bs"
/-- `batchTxHashesPrefix`. -/
def batchTxHashesPrefix : Bytes := stringBytes "bt"
/-- `headBatch`. -/
def headBatch : Bytes := stringBytes "hb"
/-- `totalTransactionsKey`. -/
def totalTransactionsKey : Bytes := stringBytes "t"

/-- `batchHeaderKey`: the prefix and the hash. -/
def batchHeaderKey (hash : Hash) : Bytes := batchHeaderPrefix ++ hash.Bytes

/-- `batchKey`. -/
def batchKey (hash : Hash) : Bytes := batchPrefix ++ hash.Bytes

/-- `batchHashKey`: the prefix and the number in decimal. -/
def batchHashKey (num : Nat) : Bytes := batchHashPrefix ++ stringBytes (toString num)

/-- `batchTxHashesKey`. -/
def batchTxHashesKey (hash : Hash) : Bytes := batchTxHashesPrefix ++ hash.Bytes

/-- `batchNumberKey`. -/
def batchNumberKey (txHash : Hash) : Bytes := batchNumberPrefix ++ txHash.Bytes

/-- `batchHashBySeqNoKey`. -/
def batchHashBySeqNoKey (seqNo : Nat) : Bytes :=
  batchHashForSeqNoPrefix ++ stringBytes (toString seqNo)

/-- The RLP encodings the store writes. -/
structure RLP where
  header : Codec BatchHeader
  batch : Codec ExtBatch
  txHashes : Codec (List TxHash)

/-! ## The store -/

/-- `DB`: the host's key-value store. -/
structure DB where
  kvStore : Bytes → Option Bytes

/-- `kvStore.Get`: a missing key is `errutil.ErrNotFound`. -/
def DB.Get (db : DB) (key : Bytes) : Except String Bytes :=
  match db.kvStore key with
  | some value => .ok value
  | none => .error ErrNotFound

/-- An empty store. -/
def DB.empty : DB := ⟨fun _ => none⟩

/-- `kvStore.NewBatch()`: a write batch records its puts and applies them at `Write`. -/
def NewBatch : List (Op Bytes Bytes) := []

/-- `w.Put(key, value)` on a write batch, which cannot fail. -/
def Put (w : List (Op Bytes Bytes)) (key value : Bytes) : List (Op Bytes Bytes) :=
  w ++ [.put key value]

/-- `b.Write()`: the recorded writes, in order, at once. -/
def Write (db : DB) (w : List (Op Bytes Bytes)) : DB := ⟨applyAll w db.kvStore⟩

/-- The shape every `read…` helper shares: read the key, take an empty value for a missing one,
and decode. -/
def readKey {α : Type} (db : DB) (key : Bytes) (decode : Bytes → Except String α) :
    Except String α := do
  let data ← db.Get key
  if data.length = 0 then throw ErrNotFound
  decode data

section Schema

variable (rlp : RLP) (rlpHash : BatchHeader → Hash)

/-- `readBatchHeader`. -/
def readBatchHeader (db : DB) (hash : Hash) : Except String BatchHeader :=
  readKey db (batchHeaderKey hash) rlp.header.decode

/-- `readHeadBatchHash`: unlike the other reads, an empty value is not refused. -/
def readHeadBatchHash (db : DB) : Except String Hash := do
  let value ← db.Get headBatch
  pure (BytesToHash value)

/-- `writeBatchHeader`. -/
def writeBatchHeader (w : List (Op Bytes Bytes)) (header : BatchHeader) :
    List (Op Bytes Bytes) :=
  Put w (batchHeaderKey (header.Hash rlpHash)) (rlp.header.encode header)

/-- `writeHeadBatchHash`. -/
def writeHeadBatchHash (w : List (Op Bytes Bytes)) (val : Hash) : List (Op Bytes Bytes) :=
  Put w headBatch val.Bytes

/-- `writeBatchHash`: the hash under the batch's number. -/
def writeBatchHash (w : List (Op Bytes Bytes)) (header : BatchHeader) : List (Op Bytes Bytes) :=
  Put w (batchHashKey header.Number) (header.Hash rlpHash).Bytes

/-- `writeBatchSeqNo`: the hash under the batch's sequence number. -/
def writeBatchSeqNo (w : List (Op Bytes Bytes)) (header : BatchHeader) : List (Op Bytes Bytes) :=
  Put w (batchHashBySeqNoKey header.SequencerOrderNo) (header.Hash rlpHash).Bytes

/-- `readBatchHash`. -/
def readBatchHash (db : DB) (number : Nat) : Except String Hash :=
  readKey db (batchHashKey number) fun data => pure (BytesToHash data)

/-- `readBatchTxHashes`. -/
def readBatchTxHashes (db : DB) (batchHash : L2BatchHash) : Except String (List TxHash) :=
  readKey db (batchTxHashesKey batchHash) rlp.txHashes.decode

/-- `writeBatchNumber`: the batch's number, big-endian, under a transaction's hash. -/
def writeBatchNumber (w : List (Op Bytes Bytes)) (header : BatchHeader) (txHash : Hash) :
    List (Op Bytes Bytes) :=
  Put w (batchNumberKey txHash) (Go.bigBytes header.Number)

/-- `writeBatchTxHashes`. -/
def writeBatchTxHashes (w : List (Op Bytes Bytes)) (batchHash : L2BatchHash)
    (txHashes : List TxHash) : List (Op Bytes Bytes) :=
  Put w (batchTxHashesKey batchHash) (rlp.txHashes.encode txHashes)

/-- `readBatchNumber`. -/
def readBatchNumber (db : DB) (txHash : Hash) : Except String Nat :=
  readKey db (batchNumberKey txHash) fun data => pure (Go.setBytes data)

/-- `readBatchHashBySequenceNumber`. -/
def readBatchHashBySequenceNumber (db : DB) (seqNum : Nat) : Except String Hash :=
  readKey db (batchHashBySeqNoKey seqNum) fun data => pure (BytesToHash data)

/-- `readTotalTransactions`: a missing or empty count is 0. -/
def readTotalTransactions (db : DB) : Except String Nat :=
  match db.Get totalTransactionsKey with
  | .error err => if err = ErrNotFound then .ok 0 else .error err
  | .ok data => if data.length = 0 then .ok 0 else .ok (Go.setBytes data)

/-- `writeTotalTransactions`. -/
def writeTotalTransactions (w : List (Op Bytes Bytes)) (newTotal : Nat) : List (Op Bytes Bytes) :=
  Put w totalTransactionsKey (Go.bigBytes newTotal)

/-- `writeBatch`. -/
def writeBatch (w : List (Op Bytes Bytes)) (batch : ExtBatch) : List (Op Bytes Bytes) :=
  Put w (batchKey (batch.Hash rlpHash)) (rlp.batch.encode batch)

/-- `readBatch`. -/
def readBatch (db : DB) (hash : Hash) : Except String ExtBatch :=
  readKey db (batchKey hash) rlp.batch.decode

/-- `GetHeadBatchHeader`. -/
def GetHeadBatchHeader (db : DB) : Except String BatchHeader := do
  let headBatchHash ← readHeadBatchHash db
  readBatchHeader rlp db headBatchHash

/-- `GetBatchHeader`. -/
def GetBatchHeader (db : DB) (hash : Hash) : Except String BatchHeader :=
  readBatchHeader rlp db hash

/-- `GetBatchTxs`. -/
def GetBatchTxs (db : DB) (batchHash : L2BatchHash) : Except String (List TxHash) :=
  readBatchTxHashes rlp db batchHash

/-- `GetTotalTransactions`. -/
def GetTotalTransactions (db : DB) : Except String Nat :=
  readTotalTransactions db

/-- `GetBatch`. -/
def GetBatch (db : DB) (batchHash : L2BatchHash) : Except String ExtBatch :=
  readBatch rlp db batchHash

/-- `GetBatchBySequenceNumber`. -/
def GetBatchBySequenceNumber (db : DB) (sequenceNumber : Nat) : Except String ExtBatch :=
  match readBatchHashBySequenceNumber db sequenceNumber with
  | .error err =>
    .error ("could not retrieve batch hash for seqNo=" ++ toString sequenceNumber ++ ": " ++ err)
  | .ok batchHash => GetBatch rlp db batchHash

/-- `errutil.ErrAlreadyExists`. -/
def ErrAlreadyExists : String := "already exists"

/-- The body of `DB.AddBatch` up to `b.Write()`: the checks and reads, and the write batch they
stage. -/
def addBatchWrites (db : DB) (batch : ExtBatch) : Except String (List (Op Bytes Bytes)) := do
  -- the duplicate check, so that a batch's transactions are counted once
  match GetBatchHeader rlp db (batch.Hash rlpHash) with
  | .ok _ => throw ErrAlreadyExists
  | .error err =>
    if err ≠ ErrNotFound then throw ("4. could not retrieve batch header. Cause: " ++ err)
  let b := NewBatch
  let b := writeBatchHeader rlp rlpHash b batch.Header
  let b := writeBatch rlp rlpHash b batch
  let b := writeBatchTxHashes rlp b (batch.Hash rlpHash) batch.TxHashes
  let b := writeBatchHash rlpHash b batch.Header
  let b := writeBatchSeqNo rlpHash b batch.Header
  let b := batch.TxHashes.foldl (fun b txHash => writeBatchNumber b batch.Header txHash) b
  -- the count and the head are read from the committed store
  let currentTotal ← (readTotalTransactions db).mapError
    fun err => "could not retrieve total transactions. Cause: " ++ err
  let b := writeTotalTransactions b (currentTotal + batch.TxHashes.length)
  match GetHeadBatchHeader rlp db with
  | .error err =>
    if err ≠ ErrNotFound then throw ("could not retrieve head batch header. Cause: " ++ err)
    else pure (writeHeadBatchHash b (batch.Hash rlpHash))
  | .ok headBatchHeader =>
    pure (if headBatchHeader.Number < batch.Header.Number then
      writeHeadBatchHash b (batch.Hash rlpHash) else b)

/-- `DB.AddBatch`: the staged writes are committed at the end, so an error returns the store as
it was. -/
def AddBatch (db : DB) (batch : ExtBatch) : Except String Unit × DB :=
  match addBatchWrites rlp rlpHash db batch with
  | .ok b => (.ok (), Write db b)
  | .error err => (.error err, db)

end Schema

/-! ## Keys -/

/-- Decimal keys of different numbers differ. -/
@[simp] theorem stringBytes_repr_inj {m n : Nat} :
    stringBytes m.repr = stringBytes n.repr ↔ m = n := by
  constructor
  · intro h
    apply Nat.repr_injective
    apply String.toByteArray_inj.mp
    exact ByteArray.ext (Array.toList_inj.mp h)
  · intro h
    rw [h]

-- Each key is its two prefix letters followed by the rest, so that keys of different
-- families are told apart by `simp` on their first bytes.
@[simp] theorem batchHeaderKey_eq (hash : Hash) : batchHeaderKey hash = 98 :: 97 :: hash.Bytes :=
  rfl
@[simp] theorem batchKey_eq (hash : Hash) : batchKey hash = 98 :: 112 :: hash.Bytes := rfl
@[simp] theorem batchHashKey_eq (num : Nat) :
    batchHashKey num = 98 :: 104 :: stringBytes (toString num) := rfl
@[simp] theorem batchTxHashesKey_eq (hash : Hash) :
    batchTxHashesKey hash = 98 :: 116 :: hash.Bytes := rfl
@[simp] theorem batchNumberKey_eq (txHash : Hash) :
    batchNumberKey txHash = 98 :: 110 :: txHash.Bytes := rfl
@[simp] theorem batchHashBySeqNoKey_eq (seqNo : Nat) :
    batchHashBySeqNoKey seqNo = 98 :: 115 :: stringBytes (toString seqNo) := rfl
@[simp] theorem headBatch_eq : headBatch = [104, 98] := rfl
@[simp] theorem totalTransactionsKey_eq : totalTransactionsKey = [116] := rfl

/-! ## Reads -/

/-- A key that holds an encoding reads back the value encoded. -/
theorem readKey_encode {α : Type} {db : DB} {key : Bytes} {c : Codec α} {a : α}
    (h : db.kvStore key = some (c.encode a)) : readKey db key c.decode = .ok a := by
  simp [readKey, DB.Get, h, c.encode_ne_nil a]

/-- A missing key reads as `ErrNotFound`, whatever the decoder. -/
theorem readKey_none {α : Type} {db : DB} {key : Bytes} (decode : Bytes → Except String α)
    (h : db.kvStore key = none) : readKey db key decode = .error ErrNotFound := by
  simp [readKey, DB.Get, h]

/-- A key that holds a hash's bytes reads back the hash. -/
theorem readKey_hash {db : DB} {key : Bytes} {hash : Hash} (h : db.kvStore key = some hash.Bytes) :
    readKey db key (fun data => pure (BytesToHash data)) = .ok hash := by
  have hne : hash.Bytes ≠ [] := List.ne_nil_of_length_pos (by simp)
  simp [readKey, DB.Get, h, hne]

/-! ## The abstract store -/

section Abstract

variable (rlp : RLP) (rlpHash : BatchHeader → Hash)

/-- Storing a batch in the abstract store: the list of stored batches grows by the batch, unless
one of the same hash is there. -/
def storeBatch (stored : List ExtBatch) (batch : ExtBatch) : List ExtBatch :=
  if stored.any (·.Hash rlpHash = batch.Hash rlpHash) then stored else stored ++ [batch]

/-- What the store holds for a list of stored batches, key family by key family: under a hash,
the stored batch of that hash; under a sequence number, the last stored batch with it; under
`headBatch`, the first stored batch of greatest number. -/
structure Represents (db : DB) (stored : List ExtBatch) : Prop where
  nodup : (stored.map (·.Hash rlpHash)).Nodup
  header : ∀ hash, db.kvStore (batchHeaderKey hash) =
    (stored.find? (·.Hash rlpHash = hash)).map fun b => rlp.header.encode b.Header
  batch : ∀ hash, db.kvStore (batchKey hash) =
    (stored.find? (·.Hash rlpHash = hash)).map rlp.batch.encode
  txHashes : ∀ hash, db.kvStore (batchTxHashesKey hash) =
    (stored.find? (·.Hash rlpHash = hash)).map fun b => rlp.txHashes.encode b.TxHashes
  seqNo : ∀ seqNo, db.kvStore (batchHashBySeqNoKey seqNo) =
    (stored.reverse.find? (·.Header.SequencerOrderNo = seqNo)).map fun b => (b.Hash rlpHash).Bytes
  total : readTotalTransactions db = .ok (stored.map (·.TxHashes.length)).sum
  head : db.kvStore headBatch = (stored.argmax (·.Header.Number)).map fun b => (b.Hash rlpHash).Bytes

/-- The empty store holds no batch. -/
theorem represents_empty : Represents rlp rlpHash DB.empty [] where
  nodup := List.nodup_nil
  header _ := rfl
  batch _ := rfl
  txHashes _ := rfl
  seqNo _ := rfl
  total := rfl
  head := rfl

variable {rlp rlpHash}

/-- With one element per key, looking an element up by its key finds it. -/
theorem find?_eq_of_unique {α : Type} {l : List α} {p : α → Bool} {a : α} (ha : a ∈ l)
    (hpa : p a = true) (huniq : ∀ b ∈ l, p b = true → b = a) : l.find? p = some a := by
  obtain ⟨x, hx⟩ : ∃ x, l.find? p = some x :=
    Option.isSome_iff_exists.mp (List.find?_isSome.mpr ⟨a, ha, hpa⟩)
  rw [hx, huniq x (List.mem_of_find?_eq_some hx) (List.find?_some hx)]

/-- With distinct hashes, looking a stored batch up by its hash finds it. -/
theorem find?_hash_of_mem {stored : List ExtBatch} (hnodup : (stored.map (·.Hash rlpHash)).Nodup)
    {b : ExtBatch} (hb : b ∈ stored) :
    stored.find? (·.Hash rlpHash = b.Hash rlpHash) = some b :=
  find?_eq_of_unique hb (by simp) fun x hx hxhash =>
    List.inj_on_of_nodup_map hnodup hx hb (by simpa using hxhash)

section Reads

variable {db : DB} {stored : List ExtBatch} (hr : Represents rlp rlpHash db stored)
include hr

theorem Represents.GetBatchHeader {b : ExtBatch} (hb : b ∈ stored) :
    GetBatchHeader rlp db (b.Hash rlpHash) = .ok b.Header :=
  readKey_encode (by rw [hr.header, find?_hash_of_mem hr.nodup hb]; rfl)

theorem Represents.GetBatch {b : ExtBatch} (hb : b ∈ stored) :
    HostDB.GetBatch rlp db (b.Hash rlpHash) = .ok b :=
  readKey_encode (by rw [hr.batch, find?_hash_of_mem hr.nodup hb]; rfl)

theorem Represents.GetBatchTxs {b : ExtBatch} (hb : b ∈ stored) :
    HostDB.GetBatchTxs rlp db (b.Hash rlpHash) = .ok b.TxHashes :=
  readKey_encode (by rw [hr.txHashes, find?_hash_of_mem hr.nodup hb]; rfl)

/-- A hash that no stored batch has is not found. -/
theorem Represents.GetBatchHeader_of_not_mem {hash : Hash}
    (hnew : ∀ b ∈ stored, b.Hash rlpHash ≠ hash) :
    HostDB.GetBatchHeader rlp db hash = .error ErrNotFound := by
  have hnone : stored.find? (·.Hash rlpHash = hash) = none :=
    List.find?_eq_none.mpr fun b hb => by simpa using hnew b hb
  exact readKey_none _ (by rw [hr.header, hnone]; rfl)

/-- A sequence number reads as the last stored batch with that number. -/
theorem Represents.GetBatchBySequenceNumber {seqNo : Nat} {b : ExtBatch}
    (hb : stored.reverse.find? (·.Header.SequencerOrderNo = seqNo) = some b) :
    HostDB.GetBatchBySequenceNumber rlp db seqNo = .ok b := by
  have hhash : readBatchHashBySequenceNumber db seqNo = .ok (b.Hash rlpHash) :=
    readKey_hash (by rw [hr.seqNo, hb]; rfl)
  have hmem : b ∈ stored := List.mem_reverse.mp (List.mem_of_find?_eq_some hb)
  rw [HostDB.GetBatchBySequenceNumber, hhash]
  exact hr.GetBatch hmem

theorem Represents.GetTotalTransactions :
    HostDB.GetTotalTransactions db = .ok (stored.map (·.TxHashes.length)).sum :=
  hr.total

/-- The head is the first stored batch of greatest number, and there is none before any batch
is stored. -/
theorem Represents.GetHeadBatchHeader :
    HostDB.GetHeadBatchHeader rlp db =
      match stored.argmax (·.Header.Number) with
      | some m => .ok m.Header
      | none => .error ErrNotFound := by
  cases hmax : stored.argmax (·.Header.Number) with
  | none =>
    have hhead : db.kvStore headBatch = none := by rw [hr.head, hmax]; rfl
    simp only [HostDB.GetHeadBatchHeader, readHeadBatchHash, DB.Get, hhead]
    rfl
  | some m =>
    have hhead : db.kvStore headBatch = some (m.Hash rlpHash).Bytes := by rw [hr.head, hmax]; rfl
    have hm : m ∈ stored := List.argmax_mem hmax
    have hread : readHeadBatchHash db = .ok (m.Hash rlpHash) := by
      simp only [readHeadBatchHash, DB.Get, hhead, Except.ok_bind', Except.pure_eq_ok,
        BytesToHash_Bytes]
    rw [HostDB.GetHeadBatchHeader, hread]
    exact hr.GetBatchHeader hm

end Reads

/-! ## Adding a batch -/

variable (rlp rlpHash) in
/-- The five records `AddBatch` writes for a new batch: header, batch and transaction hashes
under its hash, and its hash under its number and its sequence number. -/
def batchRecordWrites (batch : ExtBatch) : List (Op Bytes Bytes) :=
  [.put (batchHeaderKey (batch.Hash rlpHash)) (rlp.header.encode batch.Header),
    .put (batchKey (batch.Hash rlpHash)) (rlp.batch.encode batch),
    .put (batchTxHashesKey (batch.Hash rlpHash)) (rlp.txHashes.encode batch.TxHashes),
    .put (batchHashKey batch.Header.Number) (batch.Hash rlpHash).Bytes,
    .put (batchHashBySeqNoKey batch.Header.SequencerOrderNo) (batch.Hash rlpHash).Bytes]

variable (rlp rlpHash) in
/-- The writes `AddBatch` commits for a new batch, given the committed count and head: the
records, the batch's number under each of its transactions, the count, and the head when the
batch is higher. -/
def newBatchWrites (batch : ExtBatch) (total : Nat) (head : Option ExtBatch) :
    List (Op Bytes Bytes) :=
  batchRecordWrites rlp rlpHash batch ++
  batch.TxHashes.map (fun txHash => .put (batchNumberKey txHash) (Go.bigBytes batch.Header.Number)) ++
  [.put totalTransactionsKey (Go.bigBytes (total + batch.TxHashes.length))] ++
  if head.all (·.Header.Number < batch.Header.Number) then
    [.put headBatch (batch.Hash rlpHash).Bytes] else []

/-- The head write touches only `headBatch`. -/
theorem headWrites_key_ne {batch : ExtBatch} {head : Option ExtBatch} {k : Bytes}
    (hk : headBatch ≠ k) :
    ∀ op ∈ (if head.all (·.Header.Number < batch.Header.Number) then
      [.put headBatch (batch.Hash rlpHash).Bytes] else ([] : List (Op Bytes Bytes))),
      op.key ≠ k := by
  split
  · simpa using hk
  · simp

/-- Every write but the head write leaves `headBatch` alone. -/
theorem headBatch_not_written {batch : ExtBatch} {total : Nat} :
    ∀ op ∈ batchRecordWrites rlp rlpHash batch ++ batch.TxHashes.map
        (fun txHash => Op.put (batchNumberKey txHash) (Go.bigBytes batch.Header.Number)) ++
        [Op.put totalTransactionsKey (Go.bigBytes (total + batch.TxHashes.length))],
      op.key ≠ headBatch := by
  intro op hop
  simp only [List.mem_append, List.mem_map, List.mem_singleton] at hop
  rcases hop with (hop | ⟨txHash, -, rfl⟩) | rfl
  · simp only [batchRecordWrites, List.mem_cons, List.not_mem_nil, or_false] at hop
    rcases hop with rfl | rfl | rfl | rfl | rfl <;> simp
  · simp
  · simp

/-- `headBatch` holds the new batch's hash when it is higher than the head, and the old value
otherwise. -/
theorem applyAll_newBatchWrites_head {batch : ExtBatch} {total : Nat} {head : Option ExtBatch}
    (t : Bytes → Option Bytes) :
    applyAll (newBatchWrites rlp rlpHash batch total head) t headBatch =
      if head.all (·.Header.Number < batch.Header.Number) then
        some (batch.Hash rlpHash).Bytes else t headBatch := by
  rw [newBatchWrites, applyAll_append]
  split
  · simp [Op.apply]
  · exact applyAll_of_forall_key_ne headBatch_not_written t

/-- The count holds the committed count and the batch's transactions. -/
theorem applyAll_newBatchWrites_total {batch : ExtBatch} {total : Nat} {head : Option ExtBatch}
    (t : Bytes → Option Bytes) :
    applyAll (newBatchWrites rlp rlpHash batch total head) t totalTransactionsKey =
      some (Go.bigBytes (total + batch.TxHashes.length)) := by
  rw [newBatchWrites, applyAll_append_apply_of_right (headWrites_key_ne (by simp)),
    applyAll_append]
  simp [Op.apply]

/-- A key that no transaction write, count or head touches holds what the records leave. -/
theorem applyAll_newBatchWrites_of_record {batch : ExtBatch} {total : Nat}
    {head : Option ExtBatch} {k : Bytes} (htx : ∀ txHash, batchNumberKey txHash ≠ k)
    (htotal : totalTransactionsKey ≠ k) (hhead : headBatch ≠ k) (t : Bytes → Option Bytes) :
    applyAll (newBatchWrites rlp rlpHash batch total head) t k =
      applyAll (batchRecordWrites rlp rlpHash batch) t k := by
  have htxWrites : ∀ op ∈ batch.TxHashes.map
      (fun txHash => Op.put (batchNumberKey txHash) (Go.bigBytes batch.Header.Number)),
      op.key ≠ k := by
    simp only [List.mem_map]
    rintro _ ⟨txHash, -, rfl⟩
    exact htx txHash
  rw [newBatchWrites, applyAll_append_apply_of_right (headWrites_key_ne hhead),
    applyAll_append_apply_of_right (by simpa using htotal),
    applyAll_append_apply_of_right htxWrites]

/-- The loop over the transactions appends one write per transaction hash. -/
theorem foldl_writeBatchNumber (header : BatchHeader) :
    ∀ (txHashes : List TxHash) (w : List (Op Bytes Bytes)),
      txHashes.foldl (fun b txHash => writeBatchNumber b header txHash) w =
        w ++ txHashes.map fun txHash => Op.put (batchNumberKey txHash) (Go.bigBytes header.Number)
  | [], w => by simp
  | txHash :: txHashes, w => by
    rw [List.foldl_cons, foldl_writeBatchNumber header txHashes, writeBatchNumber, Put,
      List.map_cons, List.append_assoc, List.singleton_append]

/-- The writes `AddBatch` stages for a new batch, with the count it read and the head write when
the batch is higher, are `newBatchWrites`. -/
theorem stagedWrites_eq (batch : ExtBatch) (total : Nat) (head : Option ExtBatch) :
    (let b := writeTotalTransactions
        (batch.TxHashes.foldl (fun b txHash => writeBatchNumber b batch.Header txHash)
          (writeBatchSeqNo rlpHash (writeBatchHash rlpHash (writeBatchTxHashes rlp
            (writeBatch rlp rlpHash (writeBatchHeader rlp rlpHash NewBatch batch.Header) batch)
            (batch.Hash rlpHash) batch.TxHashes) batch.Header) batch.Header))
        (total + batch.TxHashes.length)
      if head.all (·.Header.Number < batch.Header.Number) then
        writeHeadBatchHash b (batch.Hash rlpHash) else b) =
      newBatchWrites rlp rlpHash batch total head := by
  simp only [foldl_writeBatchNumber, newBatchWrites, batchRecordWrites, writeBatchHeader,
    writeBatch, writeBatchTxHashes, writeBatchHash, writeBatchSeqNo, writeTotalTransactions,
    writeHeadBatchHash, Put, NewBatch, ExtBatch.Hash_eq]
  split <;> simp

/-- A stored count reads back. -/
theorem readTotalTransactions_of_bigBytes {db : DB} {n : Nat}
    (h : db.kvStore totalTransactionsKey = some (Go.bigBytes n)) :
    readTotalTransactions db = .ok n := by
  have hread : Go.setBytes (Go.bigBytes n) = n := Go.setBytes_bigBytes n
  by_cases hempty : (Go.bigBytes n).length = 0
  · have hn : n = 0 := by
      rw [List.length_eq_zero_iff.mp hempty] at hread
      exact hread.symm
    simp only [readTotalTransactions, DB.Get, h, hempty, if_true]
    rw [hn]
  · simp only [readTotalTransactions, DB.Get, h, hempty, if_false, hread]

/-- Looking a key up after appending an element whose key is new. -/
theorem find?_append_new {α κ : Type} [DecidableEq κ] {key : α → κ} {l : List α} {x : α}
    (hnew : ∀ y ∈ l, key y ≠ key x) (k : κ) :
    (l ++ [x]).find? (key · = k) = if key x = k then some x else l.find? (key · = k) := by
  by_cases hkey : key x = k
  · have hnone : l.find? (key · = k) = none :=
      List.find?_eq_none.mpr fun y hy => by simpa [← hkey] using hnew y hy
    simp [List.find?_append, hnone, hkey]
  · simp [List.find?_append, hkey]

section Add

variable {db : DB} {stored : List ExtBatch} (hr : Represents rlp rlpHash db stored)
include hr

/-- A batch whose hash is stored is refused, and nothing is written. -/
theorem AddBatch_of_mem {batch b : ExtBatch} (hb : b ∈ stored)
    (hhash : b.Hash rlpHash = batch.Hash rlpHash) :
    AddBatch rlp rlpHash db batch = (.error ErrAlreadyExists, db) := by
  have hfound : HostDB.GetBatchHeader rlp db (batch.Hash rlpHash) = .ok b.Header := by
    rw [← hhash]
    exact hr.GetBatchHeader hb
  simp [AddBatch, addBatchWrites, hfound]

/-- A new batch is written with the count and head read from the committed store. -/
theorem AddBatch_of_not_mem {batch : ExtBatch} (hnew : ∀ b ∈ stored, b.Hash rlpHash ≠ batch.Hash rlpHash) :
    AddBatch rlp rlpHash db batch =
      (.ok (), Write db (newBatchWrites rlp rlpHash batch (stored.map (·.TxHashes.length)).sum
        (stored.argmax (·.Header.Number)))) := by
  have hheader := hr.GetBatchHeader_of_not_mem hnew
  have hhead := hr.GetHeadBatchHeader
  unfold AddBatch addBatchWrites
  rw [hheader, show readTotalTransactions db = _ from hr.total, hhead]
  -- the head read decides the head write as `newBatchWrites` does
  rw [← stagedWrites_eq]
  cases stored.argmax (·.Header.Number) with
  | none => simp
  | some m =>
    by_cases hlt : m.Header.Number < batch.Header.Number
    · simp [hlt]
    · simp [hlt]

/-- The writes of a new batch give the store of the batches with it appended. -/
theorem Represents.write_new {batch : ExtBatch}
    (hnew : ∀ b ∈ stored, b.Hash rlpHash ≠ batch.Hash rlpHash) :
    Represents rlp rlpHash
      (Write db (newBatchWrites rlp rlpHash batch (stored.map (·.TxHashes.length)).sum
        (stored.argmax (·.Header.Number))))
      (stored ++ [batch]) where
  nodup := by
    rw [List.map_append, List.nodup_append]
    refine ⟨hr.nodup, List.nodup_singleton _, ?_⟩
    simp only [List.map_cons, List.map_nil, List.mem_singleton, List.mem_map]
    rintro _ ⟨b, hb, rfl⟩ _ rfl
    exact hnew b hb
  header hash := by
    show applyAll _ db.kvStore _ = _
    rw [applyAll_newBatchWrites_of_record (by simp) (by simp) (by simp), find?_append_new hnew]
    by_cases hhash : batch.Hash rlpHash = hash
    · simp [batchRecordWrites, applyAll_cons, Op.apply, hhash]
    · simpa [batchRecordWrites, applyAll_cons, Op.apply, Function.update_apply, Ne.symm hhash,
        hhash] using hr.header hash
  batch hash := by
    show applyAll _ db.kvStore _ = _
    rw [applyAll_newBatchWrites_of_record (by simp) (by simp) (by simp), find?_append_new hnew]
    by_cases hhash : batch.Hash rlpHash = hash
    · simp [batchRecordWrites, applyAll_cons, Op.apply, hhash]
    · simpa [batchRecordWrites, applyAll_cons, Op.apply, Function.update_apply, Ne.symm hhash,
        hhash] using hr.batch hash
  txHashes hash := by
    show applyAll _ db.kvStore _ = _
    rw [applyAll_newBatchWrites_of_record (by simp) (by simp) (by simp), find?_append_new hnew]
    by_cases hhash : batch.Hash rlpHash = hash
    · simp [batchRecordWrites, applyAll_cons, Op.apply, hhash]
    · simpa [batchRecordWrites, applyAll_cons, Op.apply, Function.update_apply, Ne.symm hhash,
        hhash] using hr.txHashes hash
  seqNo seqNo := by
    show applyAll _ db.kvStore _ = _
    rw [applyAll_newBatchWrites_of_record (by simp) (by simp) (by simp), List.reverse_append]
    by_cases hseq : batch.Header.SequencerOrderNo = seqNo
    · simp [batchRecordWrites, applyAll_cons, Op.apply, hseq]
    · simpa [batchRecordWrites, applyAll_cons, Op.apply, Function.update_apply, Ne.symm hseq,
        hseq] using hr.seqNo seqNo
  total := by
    apply readTotalTransactions_of_bigBytes
    rw [List.map_append, List.sum_append, List.map_singleton, List.sum_singleton]
    exact applyAll_newBatchWrites_total _
  head := by
    show applyAll _ db.kvStore _ = _
    rw [applyAll_newBatchWrites_head, List.argmax_concat, hr.head]
    cases stored.argmax (·.Header.Number) with
    | none => rfl
    | some m =>
      by_cases hlt : m.Header.Number < batch.Header.Number
      · simp [hlt]
      · simp [hlt]

/-- **`AddBatch` refines `storeBatch`.** A batch whose hash is stored is refused with
`ErrAlreadyExists`; any other is stored, and the store represents the batches with it. -/
theorem AddBatch_represents (batch : ExtBatch) :
    (AddBatch rlp rlpHash db batch).1 =
        (if stored.any (·.Hash rlpHash = batch.Hash rlpHash) then .error ErrAlreadyExists
        else .ok ()) ∧
      Represents rlp rlpHash (AddBatch rlp rlpHash db batch).2 (storeBatch rlpHash stored batch) := by
  by_cases hany : stored.any (·.Hash rlpHash = batch.Hash rlpHash)
  · obtain ⟨b, hb, hhash⟩ := List.any_eq_true.mp hany
    rw [AddBatch_of_mem hr hb (by simpa using hhash), storeBatch, if_pos hany, if_pos hany]
    exact ⟨rfl, hr⟩
  · have hnew : ∀ b ∈ stored, b.Hash rlpHash ≠ batch.Hash rlpHash := by
      intro b hb hhash
      exact hany (List.any_eq_true.mpr ⟨b, hb, by simpa using hhash⟩)
    rw [AddBatch_of_not_mem hr hnew, storeBatch, if_neg hany, if_neg hany]
    exact ⟨rfl, hr.write_new hnew⟩

end Add

/-- A call that fails commits nothing: every write waits for the final `Write`. -/
theorem AddBatch_error {db : DB} {batch : ExtBatch} {err : String}
    (h : (AddBatch rlp rlpHash db batch).1 = .error err) : (AddBatch rlp rlpHash db batch).2 = db := by
  unfold AddBatch at h ⊢
  cases hw : addBatchWrites rlp rlpHash db batch with
  | ok b => simp [hw] at h
  | error e => rfl

/-- Whatever the store holds, a call that stages its writes stages those of a new batch, for the
count it read and a head of the number it read. -/
theorem addBatchWrites_eq_ok {db : DB} {batch : ExtBatch} {b : List (Op Bytes Bytes)}
    (h : addBatchWrites rlp rlpHash db batch = .ok b) :
    ∃ total head, b = newBatchWrites rlp rlpHash batch total head := by
  unfold addBatchWrites at h
  cases hget : GetBatchHeader rlp db (batch.Hash rlpHash) with
  | ok _ => simp [hget] at h
  | error err =>
    -- the duplicate check passed only with `ErrNotFound`, and the count was read
    by_cases herr : err = ErrNotFound
    swap
    · simp [hget, herr] at h
    cases htotal : readTotalTransactions db with
    | error e => simp [hget, herr, htotal] at h
    | ok total =>
      refine ⟨total, ?_⟩
      cases hhead : GetHeadBatchHeader rlp db with
      | error e =>
        by_cases he : e = ErrNotFound
        · refine ⟨none, ?_⟩
          simp [hget, herr, htotal, hhead, he] at h
          rw [← stagedWrites_eq]
          simp [← h]
        · simp [hget, herr, htotal, hhead, he] at h
      | ok head =>
        -- a head of the number read decides the head write the same way
        refine ⟨some ⟨head, [], []⟩, ?_⟩
        simp [hget, herr, htotal, hhead] at h
        rw [← stagedWrites_eq]
        by_cases hlt : head.Number < batch.Header.Number
        · simp [← h, hlt]
        · simp [← h, hlt]

/-! ## Runs -/

variable (rlp rlpHash) in
/-- `AddBatch` called on each batch in turn, whatever each call returns. -/
def run (db : DB) (batches : List ExtBatch) : DB :=
  batches.foldl (fun db batch => (AddBatch rlp rlpHash db batch).2) db

variable (rlp rlpHash) in
/-- The store after `AddBatch` on each batch, from an empty key-value store. -/
def AddBatches (batches : List ExtBatch) : DB := run rlp rlpHash DB.empty batches

variable (rlpHash) in
/-- The batches the calls store, in order. -/
def Stored (batches : List ExtBatch) : List ExtBatch := batches.foldl (storeBatch rlpHash) []

/-- Every run keeps `Represents`, one call at a time. -/
theorem run_represents :
    ∀ (batches : List ExtBatch) {db : DB} {stored : List ExtBatch},
      Represents rlp rlpHash db stored →
      Represents rlp rlpHash (run rlp rlpHash db batches) (batches.foldl (storeBatch rlpHash) stored)
  | [], _, _, hr => hr
  | batch :: batches, _, _, hr => run_represents batches (AddBatch_represents hr batch).2

theorem AddBatches_represents (batches : List ExtBatch) :
    Represents rlp rlpHash (AddBatches rlp rlpHash batches) (Stored rlpHash batches) :=
  run_represents batches (represents_empty rlp rlpHash)

/-- **The host batch store.** After any sequence of `AddBatch` calls on an empty store: the next
call is refused with `ErrAlreadyExists` exactly when the hash is stored, and a refused or
failed call changes no key; the head is the first stored batch of greatest number; the count is
the number of transactions of the stored batches; a stored batch's header, batch and
transaction hashes read back by its hash; and a sequence number reads back the last stored batch
with that number. -/
theorem AddBatches_store (batches : List ExtBatch) (batch : ExtBatch) :
    ((AddBatch rlp rlpHash (AddBatches rlp rlpHash batches) batch).1 =
        (if (Stored rlpHash batches).any (·.Hash rlpHash = batch.Hash rlpHash) then
          .error ErrAlreadyExists else .ok ()) ∧
      ∀ err, (AddBatch rlp rlpHash (AddBatches rlp rlpHash batches) batch).1 = .error err →
        (AddBatch rlp rlpHash (AddBatches rlp rlpHash batches) batch).2 =
          AddBatches rlp rlpHash batches) ∧
    (Stored rlpHash batches = [] →
      HostDB.GetHeadBatchHeader rlp (AddBatches rlp rlpHash batches) = .error ErrNotFound) ∧
    (Stored rlpHash batches ≠ [] → ∃ m ∈ Stored rlpHash batches,
      HostDB.GetHeadBatchHeader rlp (AddBatches rlp rlpHash batches) = .ok m.Header ∧
      (∀ b ∈ Stored rlpHash batches, b.Header.Number ≤ m.Header.Number) ∧
      ∀ b ∈ Stored rlpHash batches, b.Header.Number = m.Header.Number →
        (Stored rlpHash batches).idxOf m ≤ (Stored rlpHash batches).idxOf b) ∧
    HostDB.GetTotalTransactions (AddBatches rlp rlpHash batches) =
      .ok ((Stored rlpHash batches).map (·.TxHashes.length)).sum ∧
    (∀ b ∈ Stored rlpHash batches,
      HostDB.GetBatchHeader rlp (AddBatches rlp rlpHash batches) (b.Hash rlpHash) = .ok b.Header ∧
      HostDB.GetBatch rlp (AddBatches rlp rlpHash batches) (b.Hash rlpHash) = .ok b ∧
      HostDB.GetBatchTxs rlp (AddBatches rlp rlpHash batches) (b.Hash rlpHash) = .ok b.TxHashes) ∧
    ∀ seqNo b, (Stored rlpHash batches).reverse.find? (·.Header.SequencerOrderNo = seqNo) = some b →
      HostDB.GetBatchBySequenceNumber rlp (AddBatches rlp rlpHash batches) seqNo = .ok b := by
  have hr : Represents rlp rlpHash (AddBatches rlp rlpHash batches) (Stored rlpHash batches) :=
    AddBatches_represents batches
  refine ⟨⟨(AddBatch_represents hr batch).1, fun _ herr => AddBatch_error herr⟩, fun hnil => ?_,
    fun hne => ?_, hr.GetTotalTransactions, fun b hb => ⟨hr.GetBatchHeader hb, hr.GetBatch hb,
      hr.GetBatchTxs hb⟩, fun _ _ hfind => hr.GetBatchBySequenceNumber hfind⟩
  · rw [hr.GetHeadBatchHeader, hnil]
    rfl
  · -- the head is `List.argmax`, whose characterisation Mathlib gives
    obtain ⟨m, hmax⟩ := Option.ne_none_iff_exists'.mp
      (mt (List.argmax_eq_none (f := fun b : ExtBatch => b.Header.Number)).mp hne)
    obtain ⟨hm, hle, hfirst⟩ := List.argmax_eq_some_iff.mp hmax
    refine ⟨m, hm, ?_, hle, fun b hb heq => hfirst b hb heq.ge⟩
    rw [hr.GetHeadBatchHeader, hmax]

end Abstract

/-- A header with number `n` and sequence number 7, every other field zero or empty. -/
def cxHeader (n : Nat) : BatchHeader where
  ParentHash := 0
  Root := 0
  TxHash := 0
  ReceiptHash := 0
  Number := n
  SequencerOrderNo := 7
  GasLimit := 0
  GasUsed := 0
  Time := 0
  Extra := []
  BaseFee := none
  L1Proof := 0
  R := none
  S := none
  CrossChainMessages := []
  LatestInboundCrossChainHash := 0
  LatestInboundCrossChainHeight := none

/-- A batch with no transactions around `cxHeader n`. -/
def cxBatch (n : Nat) : ExtBatch := ⟨cxHeader n, [], []⟩

/-- A header hash that tells the two headers apart. -/
def cxHash (h : BatchHeader) : Hash := BitVec.ofNat 256 h.Number

/-- Some lossless encodings of the three kinds of record; the runs below hold for any. -/
noncomputable def cxRLP : RLP :=
  ⟨Classical.choice (Codec.nonempty_of_countable _),
    Classical.choice (Codec.nonempty_of_countable _),
    Classical.choice (Codec.nonempty_of_countable _)⟩

/-- Two batches of different hashes and one sequence number are both stored, and the sequence
number reads back the second one only. -/
theorem AddBatches_seqNoOverwritten :
    cxBatch 1 ∈ Stored cxHash [cxBatch 1, cxBatch 2] ∧
      HostDB.GetBatchBySequenceNumber cxRLP (AddBatches cxRLP cxHash [cxBatch 1, cxBatch 2]) 7 =
        .ok (cxBatch 2) ∧
      cxBatch 2 ≠ cxBatch 1 := by
  refine ⟨by decide, ?_, by decide⟩
  exact (AddBatches_represents [cxBatch 1, cxBatch 2]).GetBatchBySequenceNumber (by decide)

end Obscuro.HostDB
