import Obscuro.Common.Types
import Obscuro.Lib.Codec
import Obscuro.Lib.ExceptBind

/-!
# Batches on the wire

`go/enclave/core/batch.go`: a batch leaves the enclave as an `ExtBatch`, its transactions
RLP-encoded, compressed and encrypted into one blob (`ToExtBatch`), and a batch from a peer
comes back in through the inverse pipeline (`ToBatch`), which `enclaveImpl.SubmitBatch` runs
first on every batch it is handed. The encryption is `dataEncryptionServiceImpl` of
`go/enclave/crypto/data_enc_service.go`: AES-GCM under a fixed key, with a fresh 12-byte nonce
written in front of the ciphertext.

The cipher, the compression and the RLP codec are libraries; each is a structure here that
carries the law the pipeline relies on (opening a sealed text, decompressing a compressed
one, decoding an encoding). A Go panic is an error carrying the runtime's message.

`Decrypt` slices the nonce off the blob before it looks at the blob's length.

## Results

* `ToBatch_ToExtBatch` — a batch sent out comes back with its header and transactions;
* `Decrypt_of_lt` — a blob shorter than the nonce makes `Decrypt` panic;
* `ToBatch_panicsOnShortBlob` — so does `ToBatch`, on every such batch a peer sends.
-/

namespace Obscuro.BatchTransport

/-- `crypto.NonceLength`. -/
def NonceLength : Nat := 12

/-- A nonce: `make([]byte, NonceLength)`, filled by `io.ReadFull`. -/
abbrev Nonce := { nonce : Bytes // nonce.length = NonceLength }

/-- `cipher.AEAD` of AES-GCM, without additional data: `Open` inverts `Seal` under the same
nonce. -/
structure AEAD where
  Seal : Nonce → Bytes → Bytes
  Open : Bytes → Bytes → Except String Bytes
  open_seal : ∀ (nonce : Nonce) (plaintext : Bytes), Open nonce.1 (Seal nonce plaintext) = .ok plaintext

/-- `compression.DataCompressionService`: `Decompress` inverts what `CompressBatch` returns. -/
structure DataCompressionService where
  CompressBatch : Bytes → Except String Bytes
  Decompress : Bytes → Except String Bytes
  decompress_compress : ∀ {blob compressed : Bytes}, CompressBatch blob = .ok compressed →
    Decompress compressed = .ok blob

/-- The runtime's message for `blob[0:NonceLength]` on a blob of `n < NonceLength` bytes,
whose capacity is its length. With a larger capacity the first slice passes and
`blob[NonceLength:]` panics instead. -/
def sliceOutOfRange (n : Nat) : String :=
  "runtime error: slice bounds out of range [:" ++ toString NonceLength ++ "] with capacity " ++
    toString n

section Service

variable (cipher : AEAD)

/-- `dataEncryptionServiceImpl.Encrypt(blob)`: the nonce the random reader gives, followed by
the sealed blob. `random` is `io.ReadFull(rand.Reader, nonce)`. -/
def Encrypt (random : Except String Nonce) (blob : Bytes) : Except String Bytes := do
  let nonce ← random
  pure (nonce.1 ++ cipher.Seal nonce blob)

/-- `dataEncryptionServiceImpl.Decrypt(blob)`: the first `NonceLength` bytes are the nonce,
the rest the ciphertext. The slicing comes first, with no check of the length. -/
def Decrypt (blob : Bytes) : Except String Bytes :=
  if blob.length < NonceLength then .error (sliceOutOfRange blob.length)
  else cipher.Open (blob.take NonceLength) (blob.drop NonceLength)

/-- A blob `Encrypt` produced decrypts to what was encrypted: the nonce is the first
`NonceLength` bytes, and `Open` inverts `Seal` under it. -/
theorem Decrypt_Encrypt {random : Except String Nonce} {blob enc : Bytes}
    (h : Encrypt cipher random blob = .ok enc) : Decrypt cipher enc = .ok blob := by
  obtain ⟨nonce, -, h⟩ := Except.bind_eq_ok.mp h
  cases h
  have hlen : nonce.1.length = NonceLength := nonce.2
  -- the blob is long enough, and splits back into the nonce and the sealed text
  rw [Decrypt, if_neg (by simp [hlen]), List.take_left' hlen, List.drop_left' hlen]
  exact cipher.open_seal nonce blob

/-- A blob shorter than a nonce makes `Decrypt` panic on its first slice. -/
theorem Decrypt_of_lt {blob : Bytes} (h : blob.length < NonceLength) :
    Decrypt cipher blob = .error (sliceOutOfRange blob.length) := by
  rw [Decrypt, if_pos h]

end Service

section Batch

variable {Tx : Type} (cipher : AEAD) (compression : DataCompressionService)
  (rlp : Codec (List Tx)) (txHash : Tx → TxHash)

/-- `Batch.ToExtBatch(transactionBlobCrypto, compression)`: the header, the transactions'
hashes, and the blob of the RLP-encoded transactions, compressed, then encrypted. -/
def ToExtBatch (random : Except String Nonce) (b : Batch Tx) : Except String ExtBatch := do
  let txHashes := b.Transactions.map txHash
  let bytes := rlp.encode b.Transactions
  let compressed ← compression.CompressBatch bytes
  let enc ← Encrypt cipher random compressed
  pure { Header := b.Header, TxHashes := txHashes, EncryptedTxBlob := enc }

/-- `ToBatch(extBatch, transactionBlobCrypto, compression)`: decrypt, decompress and decode
the blob; the header is taken as it came. -/
def ToBatch (extBatch : ExtBatch) : Except String (Batch Tx) := do
  let compressed ← Decrypt cipher extBatch.EncryptedTxBlob
  let encoded ← compression.Decompress compressed
  let txs ← rlp.decode encoded
  pure { Header := extBatch.Header, Transactions := txs }

/-- **A batch sent out comes back.** Whatever nonce the random reader gives, the `ExtBatch`
that `ToExtBatch` builds converts back to a batch with the same header and the same
transactions, in order. -/
theorem ToBatch_ToExtBatch {random : Except String Nonce} {b : Batch Tx} {e : ExtBatch}
    (h : ToExtBatch cipher compression rlp txHash random b = .ok e) :
    ToBatch cipher compression rlp e = .ok b := by
  obtain ⟨compressed, hcompress, h⟩ := Except.bind_eq_ok.mp h
  obtain ⟨enc, hencrypt, h⟩ := Except.bind_eq_ok.mp h
  cases h
  -- each stage undoes the one it mirrors, innermost first
  have hdecrypt := Decrypt_Encrypt cipher hencrypt
  have hdecompress := compression.decompress_compress hcompress
  simp only [ToBatch, hdecrypt, hdecompress, rlp.decode_encode, Except.ok_bind']
  rfl

/-- **`ToBatch` panics on a short blob.** An `ExtBatch` whose blob is shorter than a nonce, the
empty blob included, makes `ToBatch` panic in `Decrypt`, whatever the cipher, compression and
codec. `SubmitBatch` calls `ToBatch` on every batch a peer sends, before any check, and
recovers no panic. -/
theorem ToBatch_panicsOnShortBlob {extBatch : ExtBatch}
    (hshort : extBatch.EncryptedTxBlob.length < NonceLength) :
    ToBatch cipher compression rlp extBatch =
      .error (sliceOutOfRange extBatch.EncryptedTxBlob.length) := by
  rw [ToBatch, Decrypt_of_lt cipher hshort, Except.error_bind']

end Batch

/-- A cipher and a compression that pass their input through: they keep their laws, and the
panic does not depend on them. -/
def cxCipher : AEAD := ⟨fun _ plaintext => plaintext, fun _ ciphertext => .ok ciphertext,
  fun _ _ => rfl⟩

def cxCompression : DataCompressionService := ⟨.ok, .ok, Eq.symm⟩

/-- Some lossless encoding of transaction lists. -/
noncomputable def cxCodec : Codec (List Unit) := Classical.choice (Codec.nonempty_of_countable _)

/-- A batch from a peer with an empty transaction blob. -/
def cxEmptyBlob : ExtBatch :=
  ⟨⟨0, 0, 0, 0, 0, 0, 0, 0, 0, [], none, 0, none, none, [], 0, none⟩, [], []⟩

theorem ToBatch_panicsOnShortBlob_empty :
    cxEmptyBlob.EncryptedTxBlob.length < NonceLength ∧
      ToBatch cxCipher cxCompression cxCodec cxEmptyBlob = .error (sliceOutOfRange 0) :=
  ⟨by decide, ToBatch_panicsOnShortBlob cxCipher cxCompression cxCodec (by decide)⟩

end Obscuro.BatchTransport
