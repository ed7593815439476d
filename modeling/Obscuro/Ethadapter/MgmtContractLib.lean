import Obscuro.Common.Types
import Obscuro.Lib.Codec
import Obscuro.Lib.ExceptBind
import Obscuro.Lib.GoInt

/-!
# Management-contract transactions

`go/ethadapter/mgmtcontractlib/mgmt_contract_lib.go`: the host builds its L1 transactions to the
management contract with `CreateRollup`, `CreateRequestSecret`, `CreateRespondSecret` and
`CreateInitializeSecret`, and reads every transaction of every L1 block back with `DecodeTx`
(`Publisher.ExtractRollupTxs` and `Publisher.ExtractSecretResponses` of
`go/host/l1/publisher.go`).

go-ethereum's ABI codec and base64 are libraries. Each is a structure here carrying the law the
round trips rest on: what `Pack` writes, `MethodById` and `UnpackIntoMap` read back, and
`DecodeString` inverts `EncodeToString`. The contract library holds the ABI parsed from
`MgmtContractABI`, whose four methods have the input names fixed below.

A Go panic is an error carrying its message, and so is `logger.Crit`, which exits the process.

`DecodeTx` slices the four-byte selector off the calldata before it checks the calldata's
length, and panics on a selector no method has.

## Results

* `DecodeTx_CreateRollup`, `DecodeTx_CreateRequestSecret`, `DecodeTx_CreateRespondSecret`,
  `DecodeTx_CreateInitializeSecret` — a transaction the host builds decodes back to what it was
  built from, bar the fields `DecodeTx` does not read;
* `DecodeTx_of_not_contract` — a transaction to another address, or without calldata, is no
  management-contract transaction;
* `DecodeTx_panicsOnShortCalldata`, `DecodeTx_panicsOnUnknownSelector` — one to three bytes of
  calldata, or an unknown selector, sent to the contract make `DecodeTx` panic;
* `ExtractRollupTxs_eq`, `ExtractRollupTxs_panics` — the host reads the rollups of a block in
  order, and one such transaction in the block makes it panic.
-/

namespace Obscuro.MgmtContractLib

/-- `methodBytesLen`: the length of a method selector. -/
def methodBytesLen : Nat := 4

def AddRollupMethod : String := "AddRollup"
def RespondSecretMethod : String := "RespondNetworkSecret"
def RequestSecretMethod : String := "RequestNetworkSecret"
def InitializeSecretMethod : String := "InitializeNetworkSecret"

/-- The input names of the four methods in `MgmtContractABI`, in order. -/
def mgmtContractInputs (method : String) : List String :=
  if method = AddRollupMethod then ["r", "_rollupData", "crossChainData"]
  else if method = InitializeSecretMethod then
    ["_aggregatorID", "_initSecret", "_hostAddress", "_genesisAttestation"]
  else if method = RequestSecretMethod then ["requestReport"]
  else if method = RespondSecretMethod then
    ["attesterID", "requesterID", "attesterSig", "responseSecret", "hostAddress", "verifyAttester"]
  else []

/-- A value `Pack` takes and `UnpackIntoMap` stores under an input's name (Go's `interface{}`),
for the types the four methods take: a struct is the list of its fields, a `nil` pointer is
`nil`. -/
inductive ABIValue where
  | address (a : Address)
  | bytes (b : Bytes)
  | bytes32 (h : Hash)
  | string (s : String)
  | bool (b : Bool)
  | uint (n : Int)
  | tuple (fields : List ABIValue)
  | array (items : List ABIValue)
  | nil

/-- The Go type of the value an interface holds, as the runtime names it in a failed type
assertion. -/
def ABIValue.goType : ABIValue → String
  | .address _ => "common.Address"
  | .bytes _ => "[]uint8"
  | .bytes32 _ => "[32]uint8"
  | .string _ => "string"
  | .bool _ => "bool"
  | .uint _ => "*big.Int"
  | .tuple _ => "struct"
  | .array _ => "[]struct"
  | .nil => "nil"

def ABIValue.asString : ABIValue → Option String
  | .string s => some s
  | _ => none

def ABIValue.asAddress : ABIValue → Option Address
  | .address a => some a
  | _ => none

def ABIValue.asBytes : ABIValue → Option Bytes
  | .bytes b => some b
  | _ => none

/-- The runtime's message for `v.(t)` when `v` holds another type. -/
def interfaceConversion (v : ABIValue) (t : String) : String :=
  "interface conversion: interface \x7b\x7d is " ++ v.goType ++ ", not " ++ t

/-- `abi.ABI`, as far as the library uses it. A method is known by its name. -/
structure ABI where
  /-- `method.Inputs`, by name. -/
  Inputs : String → List String
  /-- `abi.MethodById(sigdata)`: the method whose selector `sigdata` is. -/
  MethodById : Bytes → Except String String
  /-- `abi.Pack(name, args...)`: the selector followed by the encoded arguments. -/
  Pack : String → List ABIValue → Except String Bytes
  /-- `method.Inputs.UnpackIntoMap(map, data)`, into an empty map. -/
  UnpackIntoMap : String → Bytes → Except String (List (String × ABIValue))
  /-- What `Pack` writes is a selector naming the method, followed by the arguments, which
  come back under the method's input names. -/
  unpack_pack : ∀ {name : String} {args : List ABIValue} {data : Bytes},
    Pack name args = .ok data → ∃ sel rest, data = sel ++ rest ∧ sel.length = methodBytesLen ∧
      MethodById sel = .ok name ∧ UnpackIntoMap name rest = .ok ((Inputs name).zip args)

/-- `base64.StdEncoding`: `DecodeString` inverts `EncodeToString`. -/
structure Base64 where
  EncodeToString : Bytes → String
  DecodeString : String → Except String Bytes
  decode_encode : ∀ b, DecodeString (EncodeToString b) = .ok b

/-- `contractLibImpl`: the contract's address and the ABI parsed from `MgmtContractABI`. -/
structure contractLibImpl where
  addr : Address
  contractABI : ABI
  inputs : contractABI.Inputs = mgmtContractInputs

/-- A `types.Transaction`, as far as `DecodeTx` reads it: its recipient (`nil` for a contract
creation) and its calldata. A `types.LegacyTx` the library builds has its recipient and
calldata. -/
structure Transaction where
  To : Option Address
  Data : Bytes

structure L1RollupTx where
  Rollup : Bytes

structure L1RespondSecretTx where
  Secret : Bytes
  RequesterID : Address
  AttesterID : Address
  AttesterSig : Bytes
  HostAddress : String

structure L1RequestSecretTx where
  Attestation : Bytes

structure L1InitializeSecretTx where
  AggregatorID : Option Address
  InitialSecret : Bytes
  HostAddress : String
  Attestation : Bytes

/-- `ethadapter.L1Transaction`: the four types `DecodeTx` returns. -/
inductive L1Transaction where
  | rollup (tx : L1RollupTx)
  | respondSecret (tx : L1RespondSecretTx)
  | requestSecret (tx : L1RequestSecretTx)
  | initializeSecret (tx : L1InitializeSecretTx)

/-- A value that must be there: `panic(msg)`, or `logger.Crit(msg)`, when it is not. -/
def orPanic {α : Type} (o : Option α) (msg : String) : Except String α :=
  match o with
  | some a => .ok a
  | none => .error msg

/-- The runtime's message for `data[:methodBytesLen]` on calldata of `n < methodBytesLen`
bytes, whose capacity is its length. -/
def sliceOutOfRange (n : Nat) : String :=
  "runtime error: slice bounds out of range [:" ++ toString methodBytesLen ++ "] with capacity " ++
    toString n

section Decode

variable (c : contractLibImpl) (b64 : Base64)

/-- `Base64DecodeFromString(in)`: panics on a string that is not base64. -/
def Base64DecodeFromString (s : String) : Except String Bytes := b64.DecodeString s

/-- `unpackInitSecretTx`: only the attestation is read. The check of `err` after the decoding
reads the error of `UnpackIntoMap`, which is `nil` there. -/
def unpackInitSecretTx (tx : Transaction) (method : String) : Except String L1InitializeSecretTx := do
  let contractCallData ← c.contractABI.UnpackIntoMap method (tx.Data.drop methodBytesLen)
  let callData ← orPanic (contractCallData.lookup "_genesisAttestation")
    "call data not found for requestReport"
  let attestation ← orPanic callData.asString (interfaceConversion callData "string")
  let att ← Base64DecodeFromString b64 attestation
  pure { AggregatorID := none, InitialSecret := [], HostAddress := "", Attestation := att }

/-- `unpackRequestSecretTx`. -/
def unpackRequestSecretTx (tx : Transaction) (method : String) : Except String L1RequestSecretTx := do
  let contractCallData ← c.contractABI.UnpackIntoMap method (tx.Data.drop methodBytesLen)
  let callData ← orPanic (contractCallData.lookup "requestReport")
    "call data not found for requestReport"
  let requestReport ← orPanic callData.asString (interfaceConversion callData "string")
  let att ← Base64DecodeFromString b64 requestReport
  pure { Attestation := att }

/-- `unpackRespondSecretTx`: every failure is a `logger.Crit`. -/
def unpackRespondSecretTx (tx : Transaction) (method : String) : Except String L1RespondSecretTx := do
  let contractCallData ← (c.contractABI.UnpackIntoMap method (tx.Data.drop methodBytesLen)).mapError
    fun _ => "could not unpack transaction."
  let requesterData ← orPanic (contractCallData.lookup "requesterID")
    "call data not found for requesterID"
  let requesterAddr ← orPanic requesterData.asAddress "could not decode requester data"
  let attesterData ← orPanic (contractCallData.lookup "attesterID")
    "call data not found for attesterID"
  let attesterAddr ← orPanic attesterData.asAddress "could not decode attester data"
  let responseSecretData ← orPanic (contractCallData.lookup "responseSecret")
    "call data not found for responseSecret"
  let responseSecretBytes ← orPanic responseSecretData.asBytes "could not decode responseSecret data"
  let hostAddressData ← orPanic (contractCallData.lookup "hostAddress")
    "call data not found for hostAddress"
  let hostAddressString ← orPanic hostAddressData.asString "could not decode hostAddress data"
  pure {
    AttesterID := attesterAddr
    RequesterID := requesterAddr
    Secret := responseSecretBytes
    AttesterSig := []
    HostAddress := hostAddressString }

/-- The `AddRollupMethod` case of `DecodeTx`. -/
def unpackRollupTx (tx : Transaction) (method : String) : Except String L1RollupTx := do
  let contractCallData ← c.contractABI.UnpackIntoMap method (tx.Data.drop methodBytesLen)
  let callData ← orPanic (contractCallData.lookup "_rollupData")
    "call data not found for rollupData"
  let rollupData ← orPanic callData.asString (interfaceConversion callData "string")
  let rollup ← Base64DecodeFromString b64 rollupData
  pure { Rollup := rollup }

/-- The `switch method.Name` of `DecodeTx`: `none` for a method other than the four. -/
def decodeMethod (tx : Transaction) (method : String) : Except String (Option L1Transaction) :=
  if method = AddRollupMethod then
    (some ∘ .rollup) <$> unpackRollupTx c b64 tx method
  else if method = RespondSecretMethod then
    (some ∘ .respondSecret) <$> unpackRespondSecretTx c tx method
  else if method = RequestSecretMethod then
    (some ∘ .requestSecret) <$> unpackRequestSecretTx c b64 tx method
  else if method = InitializeSecretMethod then
    (some ∘ .initializeSecret) <$> unpackInitSecretTx c b64 tx method
  else pure none

/-- `contractLibImpl.DecodeTx(tx)`: `none` for a transaction that is not a call of one of the
four methods. Comparing the recipients' `Hex()` compares the addresses. -/
def DecodeTx (tx : Transaction) : Except String (Option L1Transaction) :=
  if tx.To ≠ some c.addr ∨ tx.Data.length = 0 then .ok none
  -- `tx.Data()[:methodBytesLen]`, before any check of the length
  else if tx.Data.length < methodBytesLen then .error (sliceOutOfRange tx.Data.length)
  else do
    let method ← c.contractABI.MethodById (tx.Data.take methodBytesLen)
    decodeMethod c b64 tx method

/-- `Publisher.ExtractRollupTxs(block)`: the rollups among the decoded transactions, in
order. -/
def ExtractRollupTxs (txs : List Transaction) : Except String (List L1RollupTx) :=
  txs.filterMapM fun tx => do
    let t ← DecodeTx c b64 tx
    pure (match t with
      | some (.rollup rollupTx) => some rollupTx
      | _ => none)

/-- `Publisher.ExtractSecretResponses(block)`: the secret responses among the decoded
transactions, in order. -/
def ExtractSecretResponses (txs : List Transaction) : Except String (List L1RespondSecretTx) :=
  txs.filterMapM fun tx => do
    let t ← DecodeTx c b64 tx
    pure (match t with
      | some (.respondSecret scrtTx) => some scrtTx
      | _ => none)

end Decode

section Create

variable (c : contractLibImpl) (b64 : Base64) (rollupRLP : Codec ExtRollup)
  (rlpHash : RollupHeader → Hash)

/-- `base64EncodeToString(bytes)`. -/
def base64EncodeToString (bytes : Bytes) : String := b64.EncodeToString bytes

/-- `convertCrossChainMessages`: the consistency level is left at zero. -/
def convertCrossChainMessages (messages : List CrossChainMessage) : List ABIValue :=
  messages.map fun message => .tuple [.address message.Sender, .uint message.Sequence.toNat,
    .uint message.Nonce.toNat, .uint message.Topic.toNat, .bytes message.Payload, .uint 0]

/-- `contractLibImpl.CreateRollup(t)`: panics when the rollup does not decode, or on a failed
`Pack`. -/
def CreateRollup (t : L1RollupTx) : Except String Transaction := do
  let decodedRollup ← rollupRLP.decode t.Rollup
  let encRollupData := base64EncodeToString b64 t.Rollup
  let metaRollup := ABIValue.tuple [.bytes32 (decodedRollup.Hash rlpHash),
    .address decodedRollup.Header.Coinbase,
    .uint (Go.newInt decodedRollup.Header.LastBatchSeqNo.toInt64)]
  let crossChain := ABIValue.tuple
    [.array (convertCrossChainMessages decodedRollup.Header.CrossChainMessages)]
  let data ← c.contractABI.Pack AddRollupMethod [metaRollup, .string encRollupData, crossChain]
  pure { To := some c.addr, Data := data }

/-- `contractLibImpl.CreateRequestSecret(tx)`. -/
def CreateRequestSecret (tx : L1RequestSecretTx) : Except String Transaction := do
  let data ← c.contractABI.Pack RequestSecretMethod [.string (base64EncodeToString b64 tx.Attestation)]
  pure { To := some c.addr, Data := data }

/-- `contractLibImpl.CreateRespondSecret(tx, verifyAttester)`. -/
def CreateRespondSecret (tx : L1RespondSecretTx) (verifyAttester : Bool) :
    Except String Transaction := do
  let data ← c.contractABI.Pack RespondSecretMethod [.address tx.AttesterID,
    .address tx.RequesterID, .bytes tx.AttesterSig, .bytes tx.Secret, .string tx.HostAddress,
    .bool verifyAttester]
  pure { To := some c.addr, Data := data }

/-- `contractLibImpl.CreateInitializeSecret(tx)`. -/
def CreateInitializeSecret (tx : L1InitializeSecretTx) : Except String Transaction := do
  let data ← c.contractABI.Pack InitializeSecretMethod [tx.AggregatorID.elim .nil .address,
    .bytes tx.InitialSecret, .string tx.HostAddress,
    .string (base64EncodeToString b64 tx.Attestation)]
  pure { To := some c.addr, Data := data }

end Create

-- ---------------------------------------------------------------------------
-- Decoding what the host encodes
-- ---------------------------------------------------------------------------

@[simp] theorem orPanic_some {α : Type} (a : α) (msg : String) : orPanic (some a) msg = .ok a := rfl

@[simp] theorem orPanic_none {α : Type} (msg : String) : orPanic (none : Option α) msg = .error msg :=
  rfl

section Spec

variable (c : contractLibImpl) (b64 : Base64)

theorem Base64DecodeFromString_base64EncodeToString (bytes : Bytes) :
    Base64DecodeFromString b64 (base64EncodeToString b64 bytes) = .ok bytes :=
  b64.decode_encode bytes

/-- What the library packs is read back: the selector names the method, and the arguments come
back under the input names of `MgmtContractABI`. -/
theorem unpack_packed {name : String} {args : List ABIValue} {data : Bytes}
    (hpack : c.contractABI.Pack name args = .ok data) :
    methodBytesLen ≤ data.length ∧
      c.contractABI.MethodById (data.take methodBytesLen) = .ok name ∧
      c.contractABI.UnpackIntoMap name (data.drop methodBytesLen) =
        .ok ((mgmtContractInputs name).zip args) := by
  obtain ⟨sel, rest, rfl, hsel, hm, hu⟩ := c.contractABI.unpack_pack hpack
  refine ⟨by simp [hsel], ?_, ?_⟩
  · rw [List.take_left' hsel, hm]
  · rw [List.drop_left' hsel, hu, c.inputs]

/-- A transaction to the contract whose calldata starts with a known selector is decoded by
its method. -/
theorem DecodeTx_of_method {tx : Transaction} (hto : tx.To = some c.addr)
    (hlen : methodBytesLen ≤ tx.Data.length) {method : String}
    (hm : c.contractABI.MethodById (tx.Data.take methodBytesLen) = .ok method) :
    DecodeTx c b64 tx = decodeMethod c b64 tx method := by
  have hcall : ¬(tx.To ≠ some c.addr ∨ tx.Data.length = 0) := by
    simp only [hto, ne_eq, not_true_eq_false, false_or]
    have : 0 < methodBytesLen := by decide
    omega
  rw [DecodeTx, if_neg hcall, if_neg (Nat.not_lt.mpr hlen), hm, Except.ok_bind']

/-- A transaction the library packs is decoded by the method it packed. -/
theorem DecodeTx_of_pack {name : String} {args : List ABIValue} {data : Bytes}
    (hpack : c.contractABI.Pack name args = .ok data) :
    DecodeTx c b64 ⟨some c.addr, data⟩ = decodeMethod c b64 ⟨some c.addr, data⟩ name :=
  have hpacked := unpack_packed c hpack
  DecodeTx_of_method c b64 rfl hpacked.1 hpacked.2.1

/-- **A transaction to another address is not the contract's.** A transaction to another
address, a contract creation, or one without calldata, decodes to `nil`. -/
theorem DecodeTx_of_not_contract {tx : Transaction} (h : tx.To ≠ some c.addr ∨ tx.Data = []) :
    DecodeTx c b64 tx = .ok none := by
  rw [DecodeTx, if_pos (h.imp_right List.length_eq_zero_iff.mpr)]

/-- A transaction to the contract with calldata is not skipped. -/
theorem not_skipped_of_call {tx : Transaction} (hto : tx.To = some c.addr) (hne : tx.Data ≠ []) :
    ¬(tx.To ≠ some c.addr ∨ tx.Data.length = 0) := by
  simp [hto, hne]

/-- **Short calldata makes `DecodeTx` panic.** A transaction to the contract with one to three
bytes of calldata, which anyone can send, makes the selector slice panic. -/
theorem DecodeTx_panicsOnShortCalldata {tx : Transaction} (hto : tx.To = some c.addr)
    (hne : tx.Data ≠ []) (hshort : tx.Data.length < methodBytesLen) :
    DecodeTx c b64 tx = .error (sliceOutOfRange tx.Data.length) := by
  rw [DecodeTx, if_neg (not_skipped_of_call c hto hne), if_pos hshort]

/-- **An unknown selector makes `DecodeTx` panic.** `MethodById`'s error is panicked with. -/
theorem DecodeTx_panicsOnUnknownSelector {tx : Transaction} (hto : tx.To = some c.addr)
    (hlen : methodBytesLen ≤ tx.Data.length) {e : String}
    (hm : c.contractABI.MethodById (tx.Data.take methodBytesLen) = .error e) :
    DecodeTx c b64 tx = .error e := by
  have hcall : ¬(tx.To ≠ some c.addr ∨ tx.Data.length = 0) := by
    simp only [hto, ne_eq, not_true_eq_false, false_or]
    have : 0 < methodBytesLen := by decide
    omega
  rw [DecodeTx, if_neg hcall, if_neg (Nat.not_lt.mpr hlen), hm, Except.error_bind']

variable (rollupRLP : Codec ExtRollup) (rlpHash : RollupHeader → Hash)

/-- **A rollup round-trips.** The rollup transaction the host publishes decodes to the same
encoded rollup. -/
theorem DecodeTx_CreateRollup {t : L1RollupTx} {tx : Transaction}
    (h : CreateRollup c b64 rollupRLP rlpHash t = .ok tx) :
    DecodeTx c b64 tx = .ok (some (.rollup t)) := by
  obtain ⟨decodedRollup, -, h⟩ := Except.bind_eq_ok.mp h
  obtain ⟨data, hpack, h⟩ := Except.bind_eq_ok.mp h
  cases h
  have hunpack := (unpack_packed c hpack).2.2
  rw [DecodeTx_of_pack c b64 hpack, decodeMethod, if_pos rfl]
  -- `_rollupData` is the second input of `AddRollup`: the base64 of the rollup
  simp only [unpackRollupTx, hunpack, Except.ok_bind']
  have hlookup : ((mgmtContractInputs AddRollupMethod).zip [ABIValue.tuple [.bytes32
      (decodedRollup.Hash rlpHash), .address decodedRollup.Header.Coinbase,
      .uint (Go.newInt decodedRollup.Header.LastBatchSeqNo.toInt64)],
      .string (base64EncodeToString b64 t.Rollup), .tuple [.array (convertCrossChainMessages
        decodedRollup.Header.CrossChainMessages)]]).lookup "_rollupData" =
      some (.string (base64EncodeToString b64 t.Rollup)) := rfl
  simp only [hlookup, orPanic_some, ABIValue.asString, Except.ok_bind',
    Base64DecodeFromString_base64EncodeToString]
  rfl

/-- **An attestation request round-trips.** -/
theorem DecodeTx_CreateRequestSecret {t : L1RequestSecretTx} {tx : Transaction}
    (h : CreateRequestSecret c b64 t = .ok tx) :
    DecodeTx c b64 tx = .ok (some (.requestSecret t)) := by
  obtain ⟨data, hpack, h⟩ := Except.bind_eq_ok.mp h
  cases h
  have hunpack := (unpack_packed c hpack).2.2
  rw [DecodeTx_of_pack c b64 hpack, decodeMethod, if_neg (by decide), if_neg (by decide),
    if_pos rfl]
  have hlookup : ((mgmtContractInputs RequestSecretMethod).zip
      [ABIValue.string (base64EncodeToString b64 t.Attestation)]).lookup "requestReport" =
      some (.string (base64EncodeToString b64 t.Attestation)) := rfl
  simp only [unpackRequestSecretTx, hunpack, hlookup, Except.ok_bind', orPanic_some,
    ABIValue.asString, Base64DecodeFromString_base64EncodeToString]
  rfl

/-- **A secret response round-trips.** The attester, the requester, the secret and the host
address come back; the signature is not read. -/
theorem DecodeTx_CreateRespondSecret {t : L1RespondSecretTx} {verifyAttester : Bool}
    {tx : Transaction} (h : CreateRespondSecret c t verifyAttester = .ok tx) :
    DecodeTx c b64 tx = .ok (some (.respondSecret { t with AttesterSig := [] })) := by
  obtain ⟨data, hpack, h⟩ := Except.bind_eq_ok.mp h
  cases h
  have hunpack := (unpack_packed c hpack).2.2
  rw [DecodeTx_of_pack c b64 hpack, decodeMethod, if_neg (by decide), if_pos rfl]
  -- the four inputs the decoder reads, by name
  have hinputs : mgmtContractInputs RespondSecretMethod =
      ["attesterID", "requesterID", "attesterSig", "responseSecret", "hostAddress",
        "verifyAttester"] := rfl
  simp only [unpackRespondSecretTx, hunpack, hinputs, Except.mapError_ok', Except.ok_bind']
  rfl

/-- **A secret initialisation comes back with its attestation only.** The aggregator, the
secret and the host address are not read. -/
theorem DecodeTx_CreateInitializeSecret {t : L1InitializeSecretTx} {tx : Transaction}
    (h : CreateInitializeSecret c b64 t = .ok tx) :
    DecodeTx c b64 tx = .ok (some (.initializeSecret
      { AggregatorID := none, InitialSecret := [], HostAddress := "",
        Attestation := t.Attestation })) := by
  obtain ⟨data, hpack, h⟩ := Except.bind_eq_ok.mp h
  cases h
  have hunpack := (unpack_packed c hpack).2.2
  rw [DecodeTx_of_pack c b64 hpack, decodeMethod, if_neg (by decide), if_neg (by decide),
    if_neg (by decide), if_pos rfl]
  have hlookup : ((mgmtContractInputs InitializeSecretMethod).zip [t.AggregatorID.elim ABIValue.nil .address,
      .bytes t.InitialSecret, .string t.HostAddress,
      .string (base64EncodeToString b64 t.Attestation)]).lookup "_genesisAttestation" =
      some (.string (base64EncodeToString b64 t.Attestation)) := rfl
  simp only [unpackInitSecretTx, hunpack, hlookup, Except.ok_bind', orPanic_some,
    ABIValue.asString, Base64DecodeFromString_base64EncodeToString]
  rfl

/-- The rollups of a block whose transactions all decode, in block order. -/
theorem ExtractRollupTxs_eq {txs : List Transaction} {decoded : Transaction → Option L1Transaction}
    (h : ∀ tx ∈ txs, DecodeTx c b64 tx = .ok (decoded tx)) :
    ExtractRollupTxs c b64 txs = .ok (txs.filterMap fun tx =>
      match decoded tx with
      | some (.rollup rollupTx) => some rollupTx
      | _ => none) :=
  Except.filterMapM_of_ok fun tx htx => by rw [h tx htx, Except.ok_bind']; rfl

/-- **The host reads back the rollups it published.** In a block whose transactions are the
host's rollup transactions or are not calls of the contract, `ExtractRollupTxs` returns the
published rollups in block order. -/
theorem ExtractRollupTxs_CreateRollup {txs : List Transaction}
    (published : Transaction → Option L1RollupTx)
    (h : ∀ tx ∈ txs, match published tx with
      | some t => CreateRollup c b64 rollupRLP rlpHash t = .ok tx
      | none => tx.To ≠ some c.addr ∨ tx.Data = []) :
    ExtractRollupTxs c b64 txs = .ok (txs.filterMap published) := by
  apply Except.filterMapM_of_ok
  intro tx htx
  have htx := h tx htx
  cases hp : published tx with
  | none =>
    simp only [hp] at htx
    rw [DecodeTx_of_not_contract c b64 htx, Except.ok_bind']
    rfl
  | some t =>
    simp only [hp] at htx
    rw [DecodeTx_CreateRollup c b64 rollupRLP rlpHash htx, Except.ok_bind']
    rfl

/-- **One short call crashes the host's block scan.** A block holding a transaction to the
contract with one to three bytes of calldata makes `ExtractRollupTxs` panic. -/
theorem ExtractRollupTxs_panics {txs : List Transaction} {tx : Transaction} (htx : tx ∈ txs)
    (hto : tx.To = some c.addr) (hne : tx.Data ≠ []) (hshort : tx.Data.length < methodBytesLen) :
    ∃ e, ExtractRollupTxs c b64 txs = .error e :=
  Except.filterMapM_eq_error ⟨tx, htx, by
    rw [DecodeTx, if_neg (not_skipped_of_call c hto hne), if_pos hshort, Except.error_bind']⟩

end Spec

/-- An ABI whose `Pack` always fails, which keeps the law; the short-calldata panic comes
before any ABI call. -/
def cxABI : ABI where
  Inputs := mgmtContractInputs
  MethodById _ := .error "no method with id"
  Pack _ _ := .error "abi: cannot pack"
  UnpackIntoMap _ _ := .error "abi: cannot unpack"
  unpack_pack h := nomatch h

def cxLib : contractLibImpl := ⟨0xAA#160, cxABI, rfl⟩

/-- One character per byte: a lossless stand-in for base64. -/
def cxBase64 : Base64 where
  EncodeToString b := String.ofList (b.map fun x => Char.ofNat x.toNat)
  DecodeString s := .ok (s.toList.map fun ch => ch.toNat.toUInt8)
  decode_encode b := by
    have hbyte : ∀ x : UInt8, (Char.ofNat x.toNat).toNat.toUInt8 = x := by
      intro x
      have hvalid : x.toNat.isValidChar := Or.inl (by have := x.toNat_lt; omega)
      rw [Char.toNat_ofNat, if_pos hvalid]
      simp
    simp only [String.toList_ofList, List.map_map, Except.ok.injEq]
    conv_rhs => rw [← List.map_id b]
    exact List.map_congr_left fun x _ => hbyte x

/-- A one-byte call of the contract. -/
theorem DecodeTx_panicsOnShortCalldata_oneByte :
    DecodeTx cxLib cxBase64 ⟨some cxLib.addr, [1]⟩ = .error (sliceOutOfRange 1) :=
  DecodeTx_panicsOnShortCalldata cxLib cxBase64 rfl (List.cons_ne_nil 1 []) (by decide)

end Obscuro.MgmtContractLib
