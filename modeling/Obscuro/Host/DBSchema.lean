import Obscuro.Host.BatchDB

/-!
# The host database's key schema

`go/host/db/hostdb.go` lists the prefixes of every key the host writes, and `blocks.go`,
`batches.go` and `rollups.go` build the keys from them: a prefix of one to three ASCII letters
followed by a 32-byte hash, by a number's minimal big-endian bytes (`big.Int.Bytes`), or by a
number's decimal text (`big.Int.String`). Four keys are the bare prefix.

Several prefixes are prefixes of one another (`b`, `ba`, `bh`, `bht`, `bn`, `bnh`, `rh`, `rhb`),
so that no two keys collide only because of the payloads' lengths and alphabets: a hash is 32
bytes, a 64-bit number at most 8 bytes or 20 decimal digits, and a digit is never a letter.

`SchemaKey` names each key of the schema with its payload, `SchemaKey.bytes` is the key the
source builds for it, and `decodeKey` reads a key back: first by its length, which singles out
the hash keys, then by its prefix. The results are

* `decodeKey_bytes` — every key whose numbers are below `2^64` decodes to what built it;
* `SchemaKey.bytes_injOn` — so over such keys each constructor is injective and no two
  constructors share a key.
-/

namespace Obscuro.HostDB

/-! ## The other prefixes

The block and rollup keys of `hostdb.go`, and their key functions in `blocks.go` and
`rollups.go`. -/

def blockHeaderPrefix : Bytes := stringBytes "b"
def blockNumberHeaderPrefix : Bytes := stringBytes "bnh"
def rollupHeaderPrefix : Bytes := stringBytes "rh"
def rollupHeaderBlockPrefix : Bytes := stringBytes "rhb"
def tipRollupHash : Bytes := stringBytes "tr"
def blockHeadedAtTip : Bytes := stringBytes "bht"

/-- `blockNumberKey`: the prefix and the height's big-endian bytes, none for height zero. -/
def blockNumberKey (height : Nat) : Bytes := blockNumberHeaderPrefix ++ Go.bigBytes height

def blockHashKey (hash : Hash) : Bytes := blockHeaderPrefix ++ hash.Bytes

def rollupHashKey (hash : Hash) : Bytes := rollupHeaderPrefix ++ hash.Bytes

def rollupBlockKey (hash : Hash) : Bytes := rollupHeaderBlockPrefix ++ hash.Bytes

/-! ## Schema keys and their decoder -/

/-- A key of the host database, by the function that builds it and its argument. -/
inductive SchemaKey where
  | blockHash (hash : Hash)
  | blockNumber (height : Nat)
  | batchHeader (hash : Hash)
  | batch (hash : Hash)
  | batchHash (num : Nat)
  | batchTxHashes (hash : Hash)
  | batchNumber (txHash : Hash)
  | batchHashBySeqNo (seqNo : Nat)
  | rollupHash (hash : Hash)
  | rollupBlock (hash : Hash)
  | headBatch
  | totalTransactions
  | tipRollupHash
  | blockHeadedAtTip
  deriving DecidableEq, Repr

namespace SchemaKey

/-- The bytes the source writes for a key. -/
def bytes : SchemaKey → Bytes
  | blockHash hash => blockHashKey hash
  | blockNumber height => blockNumberKey height
  | batchHeader hash => batchHeaderKey hash
  | batch hash => batchKey hash
  | batchHash num => batchHashKey num
  | batchTxHashes hash => batchTxHashesKey hash
  | batchNumber txHash => HostDB.batchNumberKey txHash
  | batchHashBySeqNo seqNo => batchHashBySeqNoKey seqNo
  | rollupHash hash => rollupHashKey hash
  | rollupBlock hash => rollupBlockKey hash
  | headBatch => HostDB.headBatch
  | totalTransactions => totalTransactionsKey
  | tipRollupHash => HostDB.tipRollupHash
  | blockHeadedAtTip => HostDB.blockHeadedAtTip

/-- The numbers in a key are heights and sequence numbers, which are 64-bit in the chain. -/
def Valid : SchemaKey → Prop
  | blockNumber height => height < 2 ^ 64
  | batchHash num => num < 2 ^ 64
  | batchHashBySeqNo seqNo => seqNo < 2 ^ 64
  | _ => True

end SchemaKey

/-- Decimal text read back to its number, one byte a character. -/
def decimal? (digits : Bytes) : Option Nat :=
  (String.ofList (digits.map fun b => Char.ofNat b.toNat)).toNat?

/-- The keys shorter than a hash key, by their prefix: the bare prefixes, then the number keys,
the longer of two nested prefixes first. -/
def decodeShortKey (key : Bytes) : Option SchemaKey :=
  if key = totalTransactionsKey then some .totalTransactions
  else if key = headBatch then some .headBatch
  else if key = tipRollupHash then some .tipRollupHash
  else if key = blockHeadedAtTip then some .blockHeadedAtTip
  else if blockNumberHeaderPrefix <+: key then some (.blockNumber (Go.setBytes (key.drop 3)))
  else if batchHashPrefix <+: key then (decimal? (key.drop 2)).map .batchHash
  else if batchHashForSeqNoPrefix <+: key then (decimal? (key.drop 2)).map .batchHashBySeqNo
  else none

/-- The hash keys, by their length and then their prefix. -/
def decodeHashKey (key : Bytes) : Option SchemaKey :=
  if key.length = 33 then
    if blockHeaderPrefix <+: key then some (.blockHash (BytesToHash (key.drop 1))) else none
  else if key.length = 34 then
    if batchHeaderPrefix <+: key then some (.batchHeader (BytesToHash (key.drop 2)))
    else if batchPrefix <+: key then some (.batch (BytesToHash (key.drop 2)))
    else if batchTxHashesPrefix <+: key then some (.batchTxHashes (BytesToHash (key.drop 2)))
    else if batchNumberPrefix <+: key then some (.batchNumber (BytesToHash (key.drop 2)))
    else if rollupHeaderPrefix <+: key then some (.rollupHash (BytesToHash (key.drop 2)))
    else none
  else if key.length = 35 then
    if rollupHeaderBlockPrefix <+: key then some (.rollupBlock (BytesToHash (key.drop 3)))
    else none
  else none

/-- The key a byte string is, if any: a hash key is at least 33 bytes long, and every other
key is shorter. -/
def decodeKey (key : Bytes) : Option SchemaKey :=
  if key.length < 33 then decodeShortKey key else decodeHashKey key

/-! ## Decimal text -/

/-- A decimal digit is one of the ASCII bytes `'0'` to `'9'`. -/
theorem isDigit_bounds {c : Char} (h : c.isDigit = true) : 48 ≤ c.toNat ∧ c.toNat ≤ 57 := by
  simp only [Char.isDigit, Bool.and_eq_true, decide_eq_true_eq] at h
  exact ⟨UInt32.le_iff_toNat_le.mp h.1, UInt32.le_iff_toNat_le.mp h.2⟩

theorem toNat_toUInt8_of_isDigit {c : Char} (h : c.isDigit = true) :
    c.val.toUInt8.toNat = c.toNat := by
  have h57 := (isDigit_bounds h).2
  rw [UInt32.toNat_toUInt8]
  exact Nat.mod_eq_of_lt (by rw [Char.toNat] at h57; omega)

theorem utf8Size_of_isDigit {c : Char} (h : c.isDigit = true) : c.utf8Size = 1 := by
  have h57 := (isDigit_bounds h).2
  have h127 : (127 : UInt32).toNat = 127 := rfl
  rw [Char.utf8Size_eq_one_iff, UInt32.le_iff_toNat_le]
  rw [Char.toNat] at h57
  omega

/-- `[]byte(num.String())`: one ASCII byte a decimal digit. -/
theorem stringBytes_repr (n : Nat) :
    stringBytes n.repr = (Nat.toDigits 10 n).map fun c => c.val.toUInt8 := by
  have hascii : ∀ c ∈ Nat.toDigits 10 n, String.utf8EncodeChar c = [c.val.toUInt8] :=
    fun c hc => String.utf8EncodeChar_eq_singleton
      (utf8Size_of_isDigit (Nat.isDigit_of_mem_toDigits (by norm_num) (by norm_num) hc))
  show (String.ofList (Nat.toDigits 10 n)).toUTF8.data.toList = _
  simp only [String.toUTF8, String.toByteArray_ofList, List.utf8Encode]
  rw [List.flatMap_congr hascii, List.toList_data_toByteArray, List.map_eq_flatMap]

theorem digit_of_mem_stringBytes {n : Nat} {b : UInt8} (hb : b ∈ stringBytes n.repr) :
    48 ≤ b.toNat ∧ b.toNat ≤ 57 := by
  rw [stringBytes_repr, List.mem_map] at hb
  obtain ⟨c, hc, rfl⟩ := hb
  have hdigit := Nat.isDigit_of_mem_toDigits (by norm_num) (by norm_num) hc
  rw [toNat_toUInt8_of_isDigit hdigit]
  exact isDigit_bounds hdigit

/-- A 64-bit number has at most 20 decimal digits. -/
theorem length_stringBytes_repr_le {n : Nat} (h : n < 2 ^ 64) :
    (stringBytes n.repr).length ≤ 20 := by
  rw [stringBytes_repr, List.length_map]
  exact Nat.toDigits_length 10 n 20 (by norm_num) (by omega)

/-- `decimal?` reads a number's decimal key text back. -/
theorem decimal?_stringBytes (n : Nat) : decimal? (stringBytes n.repr) = some n := by
  have hchar : ∀ c ∈ Nat.toDigits 10 n, Char.ofNat c.val.toUInt8.toNat = c := by
    intro c hc
    rw [toNat_toUInt8_of_isDigit (Nat.isDigit_of_mem_toDigits (by norm_num) (by norm_num) hc),
      Char.ofNat_toNat]
  rw [decimal?, stringBytes_repr, List.map_map, Function.comp_def, List.map_congr_left hchar,
    List.map_id']
  exact Nat.toNat?_repr n


/-! ## Keys as bytes -/

@[simp] theorem blockHeaderPrefix_eq : blockHeaderPrefix = [98] := rfl
@[simp] theorem blockNumberHeaderPrefix_eq : blockNumberHeaderPrefix = [98, 110, 104] := rfl
@[simp] theorem batchHeaderPrefix_eq : batchHeaderPrefix = [98, 97] := rfl
@[simp] theorem batchHashPrefix_eq : batchHashPrefix = [98, 104] := rfl
@[simp] theorem batchNumberPrefix_eq : batchNumberPrefix = [98, 110] := rfl
@[simp] theorem batchPrefix_eq : batchPrefix = [98, 112] := rfl
@[simp] theorem batchHashForSeqNoPrefix_eq : batchHashForSeqNoPrefix = [98, 115] := rfl
@[simp] theorem batchTxHashesPrefix_eq : batchTxHashesPrefix = [98, 116] := rfl
@[simp] theorem rollupHeaderPrefix_eq : rollupHeaderPrefix = [114, 104] := rfl
@[simp] theorem rollupHeaderBlockPrefix_eq : rollupHeaderBlockPrefix = [114, 104, 98] := rfl
@[simp] theorem tipRollupHash_eq : tipRollupHash = [116, 114] := rfl
@[simp] theorem blockHeadedAtTip_eq : blockHeadedAtTip = [98, 104, 116] := rfl

/-! ## Decoding -/

theorem decodeKey_of_length_lt {key : Bytes} (h : key.length < 33) :
    decodeKey key = decodeShortKey key := if_pos h

theorem decodeShortKey_blockNumberKey (height : Nat) :
    decodeShortKey (blockNumberKey height) = some (.blockNumber height) := by
  simp [decodeShortKey, blockNumberKey]

/-- No decimal text is the letter `t` that ends `blockHeadedAtTip`. -/
theorem stringBytes_repr_ne (n : Nat) : stringBytes n.repr ≠ [116] := by
  intro h
  have h57 := (digit_of_mem_stringBytes (h ▸ List.mem_singleton_self _)).2
  simp at h57

theorem decodeShortKey_batchHashKey (num : Nat) :
    decodeShortKey (batchHashKey num) = some (.batchHash num) := by
  simp [decodeShortKey, stringBytes_repr_ne, decimal?_stringBytes]

theorem decodeShortKey_batchHashBySeqNoKey (seqNo : Nat) :
    decodeShortKey (batchHashBySeqNoKey seqNo) = some (.batchHashBySeqNo seqNo) := by
  simp [decodeShortKey, decimal?_stringBytes]

/-- Every key whose numbers are 64-bit decodes to what built it. -/
theorem decodeKey_bytes {k : SchemaKey} (hk : k.Valid) : decodeKey k.bytes = some k := by
  cases k with
  -- the number keys are shorter than a hash key, by the bounds on their numbers
  | blockNumber height =>
    have hlen : (Go.bigBytes height).length ≤ 8 := Go.length_bigBytes_le hk
    rw [SchemaKey.bytes, decodeKey_of_length_lt (by simp [blockNumberKey]; omega),
      decodeShortKey_blockNumberKey]
  | batchHash num =>
    have hlen := length_stringBytes_repr_le hk
    rw [SchemaKey.bytes, decodeKey_of_length_lt (by simp; omega), decodeShortKey_batchHashKey]
  | batchHashBySeqNo seqNo =>
    have hlen := length_stringBytes_repr_le hk
    rw [SchemaKey.bytes, decodeKey_of_length_lt (by simp; omega),
      decodeShortKey_batchHashBySeqNoKey]
  -- a hash key's length and its first bytes fix its family
  | blockHash hash => simp [decodeKey, decodeHashKey, SchemaKey.bytes, blockHashKey]
  | batchHeader hash => simp [decodeKey, decodeHashKey, SchemaKey.bytes]
  | batch hash => simp [decodeKey, decodeHashKey, SchemaKey.bytes]
  | batchTxHashes hash => simp [decodeKey, decodeHashKey, SchemaKey.bytes]
  | batchNumber txHash => simp [decodeKey, decodeHashKey, SchemaKey.bytes]
  | rollupHash hash => simp [decodeKey, decodeHashKey, SchemaKey.bytes, rollupHashKey]
  | rollupBlock hash => simp [decodeKey, decodeHashKey, SchemaKey.bytes, rollupBlockKey]
  | headBatch => simp [decodeKey, decodeShortKey, SchemaKey.bytes]
  | totalTransactions => simp [decodeKey, decodeShortKey, SchemaKey.bytes]
  | tipRollupHash => simp [decodeKey, decodeShortKey, SchemaKey.bytes]
  | blockHeadedAtTip => simp [decodeKey, decodeShortKey, SchemaKey.bytes]

/-- Two different keys with 64-bit numbers are different bytes. -/
theorem SchemaKey.bytes_ne (k k' : SchemaKey) (hk : k.Valid) (hk' : k'.Valid) (hne : k ≠ k') :
    k.bytes ≠ k'.bytes := by
  intro h
  have hdec : some k = some k' := by
    rw [← decodeKey_bytes hk, ← decodeKey_bytes hk', h]
  exact hne (Option.some.inj hdec)

/-- Over keys whose numbers are 64-bit, equal bytes are equal keys. -/
theorem SchemaKey.bytes_eq_iff {k k' : SchemaKey} (hk : k.Valid) (hk' : k'.Valid) :
    k.bytes = k'.bytes ↔ k = k' := by
  constructor
  · intro h
    by_contra hne
    exact SchemaKey.bytes_ne k k' hk hk' hne h
  · rintro rfl
    rfl

/-- The schema's keys never collide: over keys whose numbers are 64-bit, each key constructor
is injective and no two constructors build the same key. -/
theorem SchemaKey.bytes_injOn : Set.InjOn SchemaKey.bytes {k | k.Valid} := by
  intro k hk k' hk' h
  exact (SchemaKey.bytes_eq_iff hk hk').mp h

end Obscuro.HostDB
