import Obscuro.Common.Types
import Obscuro.Lib.ExceptBind

/-!
# The L1 contracts: attestation, rollups and cross-chain messages

`contracts/src/management/ManagementContract.sol`, the `MessageBus` it deploys and owns
(`contracts/src/messaging/MessageBus.sol`), and a `CrossChainMessenger` over that bus
(`contracts/src/messaging/messenger/CrossChainMessenger.sol`), as one state machine. A
transaction is a call by an external account at a block time; a call that reverts leaves
the state as it was. `relayMessage` records the message whose call it makes to the target
(for the bridge, the payout of `receiveAssets`).

`keccak256(abi.encode(msg))`, the signed-message hash of `RespondNetworkSecret`,
`ECDSA.recover` and the relayed call's outcome are parameters (`Crypto`). View functions and
the events are not modelled.

Main results:

* `exec_eq_ok` — what one transaction that succeeds does, call by call, with the checks it
  passed (`ExecOk`);
* `run_attested` — an account becomes attested only by `InitializeNetworkSecret` or by a
  `RespondNetworkSecret` naming it;
* `run_relayed_pushed` — every message relayed from a freshly deployed contract was pushed
  by an `AddRollup` whose `AggregatorID` was attested at the time;
* `AddRollup_outsiderPayout` — that `AggregatorID` is the caller's word: an account that is
  not attested, with no signature, gets a message of its own relayed, and makes itself
  attested.
-/

namespace Obscuro.Contracts

/-- `Structs.MetaRollup`. -/
structure MetaRollup where
  Hash : Hash
  AggregatorID : Address
  LastSequenceNumber : Nat

/-- The storage of the three contracts. Solidity mappings are total functions with the zero
value of their type as default. -/
structure State where
  -- `ManagementContract`
  attestationRequests : Address → String
  attested : Address → Bool
  hostAddresses : List String
  networkSecretInitialized : Bool
  lastBatchSeqNo : Nat
  rollups : Obscuro.Hash → MetaRollup
  -- `MessageBus`
  messageFinalityTimestamps : Obscuro.Hash → Nat
  messages : Address × UInt32 → List CrossChainMessage
  addressSequences : Address → UInt64
  -- `CrossChainMessenger`
  messageConsumed : Obscuro.Hash → Bool
  -- the messages whose calls `relayMessage` made, in order
  relayed : List CrossChainMessage

/-- The contracts right after deployment: every mapping empty. -/
def deploy : State :=
  { attestationRequests := fun _ => ""
    attested := fun _ => false
    hostAddresses := []
    networkSecretInitialized := false
    lastBatchSeqNo := 0
    rollups := fun _ => ⟨0, 0, 0⟩
    messageFinalityTimestamps := fun _ => 0
    messages := fun _ => []
    addressSequences := fun _ => 0
    messageConsumed := fun _ => false
    relayed := [] }

/-- The external calls. -/
inductive Call where
  | InitializeNetworkSecret (aggregatorID : Address) (initSecret : Bytes) (hostAddress : String)
      (genesisAttestation : String)
  | RequestNetworkSecret (requestReport : String)
  | RespondNetworkSecret (attesterID requesterID : Address) (attesterSig responseSecret : Bytes)
      (hostAddress : String) (verifyAttester : Bool)
  | AddRollup (r : MetaRollup) (rollupData : String) (crossChainData : List CrossChainMessage)
  | publishMessage (nonce topic : UInt32) (payload : Bytes) (consistencyLevel : UInt8)
  | storeCrossChainMessage (crossChainMessage : CrossChainMessage) (finalAfterTimestamp : Nat)
  | relayMessage (message : CrossChainMessage)

/-- A transaction: its sender, the block's timestamp, and the call. -/
structure Tx where
  sender : Address
  timestamp : Nat
  call : Call

/-- The cryptography and the relayed call. `signedMessageHash a r h s` is
`ECDSA.toEthSignedMessageHash(abi.encodePacked(a, r, h, s))`; `recover` reverts on a
malformed signature; `callTarget m` says whether the call that `m` encodes succeeds. -/
structure Crypto where
  keccakMessage : CrossChainMessage → Obscuro.Hash
  signedMessageHash : Address → Address → String → Bytes → Obscuro.Hash
  recover : Obscuro.Hash → Bytes → Except String Address
  callTarget : CrossChainMessage → Bool

variable (c : Crypto) (mc : Address)

/-- `MessageBus.storeCrossChainMessage(crossChainMessage, finalAfterTimestamp)`, called by
`sender` at `timestamp`; `mc`, the management contract, is the bus's owner. -/
def storeCrossChainMessage (sender : Address) (timestamp : Nat)
    (crossChainMessage : CrossChainMessage) (finalAfterTimestamp : Nat) (s : State) :
    Except String State :=
  if sender ≠ mc then .error "Ownable: caller is not the owner"
  else
    let finalAtTimestamp := timestamp + finalAfterTimestamp
    let msgHash := c.keccakMessage crossChainMessage
    if s.messageFinalityTimestamps msgHash ≠ 0 then .error "Message submitted more than once!"
    else
      let key := (crossChainMessage.Sender, crossChainMessage.Topic)
      .ok { s with
        messageFinalityTimestamps := Function.update s.messageFinalityTimestamps msgHash finalAtTimestamp
        messages := Function.update s.messages key (s.messages key ++ [crossChainMessage]) }

/-- `ManagementContract.AppendRollup(r)`. -/
def AppendRollup (r : MetaRollup) (s : State) : State :=
  { s with
    rollups := Function.update s.rollups r.Hash r
    lastBatchSeqNo := if r.LastSequenceNumber > s.lastBatchSeqNo then r.LastSequenceNumber
      else s.lastBatchSeqNo }

/-- `ManagementContract.pushCrossChainMessages(crossChainData)`: store every message, final
one second after the block time. -/
def pushCrossChainMessages (timestamp : Nat) (messages : List CrossChainMessage) (s : State) :
    Except String State :=
  messages.foldlM (fun s m => storeCrossChainMessage c mc mc timestamp m 1 s) s

/-- The signature check of `RespondNetworkSecret`, run when `verifyAttester` is set. -/
def verifyAttesterSig (attesterID requesterID : Address) (attesterSig responseSecret : Bytes)
    (hostAddress : String) : Except String Unit := do
  let calculatedHashSigned := c.signedMessageHash attesterID requesterID hostAddress responseSecret
  let recoveredAddrSignedCalculated ← c.recover calculatedHashSigned attesterSig
  if recoveredAddrSignedCalculated = attesterID then pure ()
  else throw "calculated address and attesterID dont match"

/-- One transaction: the new state, or the revert reason. -/
def exec (s : State) (tx : Tx) : Except String State :=
  match tx.call with
  | .InitializeNetworkSecret aggregatorID _ hostAddress _ =>
    if s.networkSecretInitialized then .error "revert"
    else .ok { s with
      networkSecretInitialized := true
      attested := Function.update s.attested aggregatorID true
      hostAddresses := s.hostAddresses ++ [hostAddress] }
  | .RequestNetworkSecret requestReport =>
    .ok { s with attestationRequests := Function.update s.attestationRequests tx.sender requestReport }
  | .RespondNetworkSecret attesterID requesterID attesterSig responseSecret hostAddress verifyAttester =>
    -- only attested aggregators can respond to Network Secret Requests
    if !s.attested attesterID then .error "revert"
    else
      (if verifyAttester then
          verifyAttesterSig c attesterID requesterID attesterSig responseSecret hostAddress
        else pure ()) >>= fun _ =>
      -- mark the requesterID aggregator as an attested aggregator and store its host address
      .ok { s with
        attested := Function.update s.attested requesterID true
        hostAddresses := s.hostAddresses ++ [hostAddress] }
  | .AddRollup r _ crossChainData =>
    if !s.attested r.AggregatorID then .error "aggregator not attested"
    else pushCrossChainMessages c mc tx.timestamp crossChainData (AppendRollup r s)
  | .publishMessage _ _ _ _ =>
    .ok { s with addressSequences :=
      Function.update s.addressSequences tx.sender (s.addressSequences tx.sender + 1) }
  | .storeCrossChainMessage crossChainMessage finalAfterTimestamp =>
    storeCrossChainMessage c mc tx.sender tx.timestamp crossChainMessage finalAfterTimestamp s
  | .relayMessage message =>
    -- `consumeMessage`: the bus holds the message and it is final, and it was not consumed
    let msgHash := c.keccakMessage message
    let timestamp := s.messageFinalityTimestamps msgHash
    if !(decide (timestamp > 0) && decide (timestamp ≤ tx.timestamp)) then
      .error "Message not found or finalized."
    else if s.messageConsumed msgHash then .error "Message already consumed."
    else if !c.callTarget message then .error "CallFailed"
    else .ok { s with
      messageConsumed := Function.update s.messageConsumed msgHash true
      relayed := s.relayed ++ [message] }

/-- One transaction: a call that reverts leaves the state unchanged. -/
def step (s : State) (tx : Tx) : State :=
  match exec c mc s tx with
  | .ok s' => s'
  | .error _ => s

/-- A sequence of transactions. -/
def run (s : State) : List Tx → State
  | [] => s
  | tx :: txs => run (step c mc s tx) txs

/-- What a transaction that succeeds does: one constructor per call, with the checks the call
passed and the state it leaves. -/
inductive ExecOk (s : State) (tx : Tx) : State → Prop
  | InitializeNetworkSecret {aggregatorID initSecret hostAddress genesisAttestation}
      (hcall : tx.call =
        .InitializeNetworkSecret aggregatorID initSecret hostAddress genesisAttestation)
      (hfresh : s.networkSecretInitialized = false) :
      ExecOk s tx { s with
        networkSecretInitialized := true
        attested := Function.update s.attested aggregatorID true
        hostAddresses := s.hostAddresses ++ [hostAddress] }
  | RequestNetworkSecret {requestReport} (hcall : tx.call = .RequestNetworkSecret requestReport) :
      ExecOk s tx { s with
        attestationRequests := Function.update s.attestationRequests tx.sender requestReport }
  | RespondNetworkSecret
      {attesterID requesterID attesterSig responseSecret hostAddress verifyAttester}
      (hcall : tx.call = .RespondNetworkSecret attesterID requesterID attesterSig
        responseSecret hostAddress verifyAttester)
      (hattester : s.attested attesterID = true)
      (hsig : verifyAttester = true → verifyAttesterSig c attesterID requesterID attesterSig
        responseSecret hostAddress = .ok ()) :
      ExecOk s tx { s with
        attested := Function.update s.attested requesterID true
        hostAddresses := s.hostAddresses ++ [hostAddress] }
  | AddRollup {r rollupData crossChainData s'}
      (hcall : tx.call = .AddRollup r rollupData crossChainData)
      (haggregator : s.attested r.AggregatorID = true)
      (hpush : pushCrossChainMessages c mc tx.timestamp crossChainData (AppendRollup r s) = .ok s') :
      ExecOk s tx s'
  | publishMessage {nonce topic payload consistencyLevel}
      (hcall : tx.call = .publishMessage nonce topic payload consistencyLevel) :
      ExecOk s tx { s with
        addressSequences := Function.update s.addressSequences tx.sender
          (s.addressSequences tx.sender + 1) }
  | storeCrossChainMessage {crossChainMessage finalAfterTimestamp s'}
      (hcall : tx.call = .storeCrossChainMessage crossChainMessage finalAfterTimestamp)
      (hstore : storeCrossChainMessage c mc tx.sender tx.timestamp crossChainMessage
        finalAfterTimestamp s = .ok s') :
      ExecOk s tx s'
  | relayMessage {message} (hcall : tx.call = .relayMessage message)
      (hfinal : 0 < s.messageFinalityTimestamps (c.keccakMessage message) ∧
        s.messageFinalityTimestamps (c.keccakMessage message) ≤ tx.timestamp)
      (hunconsumed : s.messageConsumed (c.keccakMessage message) = false)
      (htarget : c.callTarget message = true) :
      ExecOk s tx { s with
        messageConsumed := Function.update s.messageConsumed (c.keccakMessage message) true
        relayed := s.relayed ++ [message] }

/-! ## What storing a message changes -/

variable {c mc}

/-- `storeCrossChainMessage` succeeds only for the owner, and then sets the finality time of
the message's hash, which was unset, and writes nothing outside the bus. -/
theorem storeCrossChainMessage_eq_ok {sender : Address} {t f : Nat} {m : CrossChainMessage}
    {s s' : State} (h : storeCrossChainMessage c mc sender t m f s = .ok s') :
    sender = mc ∧ s.messageFinalityTimestamps (c.keccakMessage m) = 0 ∧
      s'.messageFinalityTimestamps =
        Function.update s.messageFinalityTimestamps (c.keccakMessage m) (t + f) ∧
      s'.attested = s.attested ∧ s'.relayed = s.relayed ∧ s'.messageConsumed = s.messageConsumed := by
  unfold storeCrossChainMessage at h
  dsimp only at h
  split_ifs at h with hsender hstored
  cases h
  exact ⟨not_not.mp hsender, not_not.mp hstored, rfl, rfl, rfl, rfl⟩

/-- Pushing a rollup's messages writes nothing outside the bus. -/
theorem pushCrossChainMessages_frame {t : Nat} :
    ∀ {msgs : List CrossChainMessage} {s s' : State},
      pushCrossChainMessages c mc t msgs s = .ok s' →
      s'.attested = s.attested ∧ s'.relayed = s.relayed ∧ s'.messageConsumed = s.messageConsumed
  | [], _, _, h => by
    cases h
    exact ⟨rfl, rfl, rfl⟩
  | m :: msgs, s, s', h => by
    rw [pushCrossChainMessages, List.foldlM_cons] at h
    obtain ⟨s1, h1, h⟩ := Except.bind_eq_ok.mp h
    obtain ⟨-, -, -, a1, r1, c1⟩ := storeCrossChainMessage_eq_ok h1
    obtain ⟨a2, r2, c2⟩ := pushCrossChainMessages_frame h
    exact ⟨a2.trans a1, r2.trans r1, c2.trans c1⟩

/-- A hash gets a finality time from a push only if one of the pushed messages has it. -/
theorem pushCrossChainMessages_timestamp {t : Nat} (k : Obscuro.Hash) :
    ∀ {msgs : List CrossChainMessage} {s s' : State},
      pushCrossChainMessages c mc t msgs s = .ok s' → s'.messageFinalityTimestamps k ≠ 0 →
      s.messageFinalityTimestamps k ≠ 0 ∨ ∃ m ∈ msgs, c.keccakMessage m = k
  | [], _, _, h, hk => by
    cases h
    exact .inl hk
  | m :: msgs, s, s', h, hk => by
    rw [pushCrossChainMessages, List.foldlM_cons] at h
    obtain ⟨s1, h1, h⟩ := Except.bind_eq_ok.mp h
    obtain ⟨-, -, hts, -⟩ := storeCrossChainMessage_eq_ok h1
    rcases pushCrossChainMessages_timestamp k h hk with hk1 | ⟨m', hm', hkm'⟩
    · -- the head message's hash, or an entry that was already set
      rw [hts] at hk1
      by_cases hkm : k = c.keccakMessage m
      · exact .inr ⟨m, List.mem_cons_self, hkm.symm⟩
      · rw [Function.update_of_ne hkm] at hk1
        exact .inl hk1
    · exact .inr ⟨m', List.mem_cons_of_mem _ hm', hkm'⟩

/-! ## One transaction -/

/-- **What one transaction does.** A transaction that succeeds made one of the calls, passed
that call's checks, and left the state `ExecOk` gives. -/
theorem exec_eq_ok {s s' : State} {tx : Tx} (h : exec c mc s tx = .ok s') :
    ExecOk c mc s tx s' := by
  unfold exec at h
  split at h
  case h_1 agg i hst g hcall =>
    split at h
    · cases h
    · rename_i hinitialized
      cases h
      exact .InitializeNetworkSecret hcall (by simpa using hinitialized)
  case h_2 rep hcall =>
    cases h
    exact .RequestNetworkSecret hcall
  case h_3 att req sig sec hst v hcall =>
    split at h
    · cases h
    · rename_i hattester
      -- with `verifyAttester` off, the signature is never looked at
      obtain ⟨⟨⟩, hsig, h⟩ := Except.bind_eq_ok.mp h
      cases h
      refine .RespondNetworkSecret hcall (by simpa using hattester) fun hv => ?_
      simpa [hv] using hsig
  case h_4 r d data hcall =>
    split at h
    · cases h
    · rename_i haggregator
      exact .AddRollup hcall (by simpa using haggregator) h
  case h_5 n t p cl hcall =>
    cases h
    exact .publishMessage hcall
  case h_6 m f hcall =>
    exact .storeCrossChainMessage hcall h
  case h_7 m hcall =>
    dsimp only at h
    split_ifs at h with hfinal hconsumed htarget
    cases h
    exact .relayMessage hcall (by simpa [Nat.pos_iff_ne_zero] using hfinal) (by simpa using hconsumed)
      (by simpa using htarget)

/-- One transaction attests an account only if it is `InitializeNetworkSecret` naming it, or
a `RespondNetworkSecret` naming it as the requester. -/
theorem exec_attested {s s' : State} {tx : Tx} {a : Address} (h : exec c mc s tx = .ok s')
    (ha : s'.attested a = true) :
    s.attested a = true ∨ (∃ i hst g, tx.call = .InitializeNetworkSecret a i hst g) ∨
      ∃ att sig sec hst v, tx.call = .RespondNetworkSecret att a sig sec hst v := by
  cases exec_eq_ok h with
  | @InitializeNetworkSecret agg i hst g hcall _ =>
    by_cases hagg : a = agg
    · subst hagg
      exact .inr (.inl ⟨i, hst, g, hcall⟩)
    · exact .inl (by simpa [Function.update_of_ne hagg] using ha)
  | @RespondNetworkSecret att req sig sec hst v hcall _ _ =>
    by_cases hreq : a = req
    · subst hreq
      exact .inr (.inr ⟨att, sig, sec, hst, v, hcall⟩)
    · exact .inl (by simpa [Function.update_of_ne hreq] using ha)
  | AddRollup _ _ hpush =>
    rw [(pushCrossChainMessages_frame hpush).1] at ha
    exact .inl ha
  | storeCrossChainMessage _ hstore =>
    rw [(storeCrossChainMessage_eq_ok hstore).2.2.2.1] at ha
    exact .inl ha
  | RequestNetworkSecret | publishMessage | relayMessage => exact .inl ha

/-- One transaction gives a hash a finality time only as an `AddRollup` whose
`AggregatorID` is attested and that pushes a message of that hash. External accounts cannot
call the bus as its owner. -/
theorem exec_timestamp {s s' : State} {tx : Tx} {k : Obscuro.Hash} (hsender : tx.sender ≠ mc)
    (h : exec c mc s tx = .ok s') (hk : s'.messageFinalityTimestamps k ≠ 0) :
    s.messageFinalityTimestamps k ≠ 0 ∨
      ∃ r d data m, tx.call = .AddRollup r d data ∧ s.attested r.AggregatorID = true ∧
        m ∈ data ∧ c.keccakMessage m = k := by
  cases exec_eq_ok h with
  | @AddRollup r d data _ hcall hattested hpush =>
    rcases pushCrossChainMessages_timestamp k hpush hk with hk' | ⟨m, hm, hkm⟩
    · exact .inl hk'
    · exact .inr ⟨r, d, data, m, hcall, hattested, hm, hkm⟩
  | storeCrossChainMessage _ hstore =>
    exact absurd (storeCrossChainMessage_eq_ok hstore).1 hsender
  | InitializeNetworkSecret | RequestNetworkSecret | RespondNetworkSecret | publishMessage
    | relayMessage => exact .inl hk

/-- One transaction relays a message only if the bus holds a finality time for its hash. -/
theorem exec_relayed {s s' : State} {tx : Tx} {m : CrossChainMessage}
    (h : exec c mc s tx = .ok s') (hm : m ∈ s'.relayed) :
    m ∈ s.relayed ∨ s.messageFinalityTimestamps (c.keccakMessage m) ≠ 0 := by
  cases exec_eq_ok h with
  | @relayMessage message _ hfinal _ _ =>
    -- the relayed message passed `verifyMessageFinalized`
    rcases List.mem_append.mp hm with hm | hm
    · exact .inl hm
    · rw [List.mem_singleton.mp hm]
      exact .inr (Nat.pos_iff_ne_zero.mp hfinal.1)
  | AddRollup _ _ hpush =>
    rw [(pushCrossChainMessages_frame hpush).2.1] at hm
    exact .inl hm
  | storeCrossChainMessage _ hstore =>
    rw [(storeCrossChainMessage_eq_ok hstore).2.2.2.2.1] at hm
    exact .inl hm
  | InitializeNetworkSecret | RequestNetworkSecret | RespondNetworkSecret | publishMessage =>
    exact .inl hm

/-! ## Whole runs -/

theorem step_attested {s : State} {tx : Tx} {a : Address} (ha : (step c mc s tx).attested a = true) :
    s.attested a = true ∨ (∃ i hst g, tx.call = .InitializeNetworkSecret a i hst g) ∨
      ∃ att sig sec hst v, tx.call = .RespondNetworkSecret att a sig sec hst v := by
  unfold step at ha
  split at ha
  · exact exec_attested ‹_› ha
  · exact .inl ha

/-- **Who becomes attested.** Over any run, an account becomes attested only through a
transaction that is `InitializeNetworkSecret` naming it, or a `RespondNetworkSecret` naming
it as the requester. -/
theorem run_attested (a : Address) :
    ∀ (s : State) (txs : List Tx), (run c mc s txs).attested a = true →
      s.attested a = true ∨ ∃ tx ∈ txs, (∃ i hst g, tx.call = .InitializeNetworkSecret a i hst g) ∨
        ∃ att sig sec hst v, tx.call = .RespondNetworkSecret att a sig sec hst v
  | _, [], ha => .inl ha
  | s, tx :: txs, ha => by
    rcases run_attested a (step c mc s tx) txs ha with ha | ⟨tx', htx', hcall⟩
    · rcases step_attested ha with ha | hcall
      · exact .inl ha
      · exact .inr ⟨tx, List.mem_cons_self, hcall⟩
    · exact .inr ⟨tx', List.mem_cons_of_mem _ htx', hcall⟩

/-- A message relayed in a run was relayed before it, or its hash had a finality time at
the start, or some `AddRollup` of the run, with its `AggregatorID` attested when it ran,
pushed a message of the same hash. -/
theorem run_relayed (m : CrossChainMessage) :
    ∀ (s : State) (txs : List Tx), (∀ tx ∈ txs, tx.sender ≠ mc) →
      m ∈ (run c mc s txs).relayed →
      m ∈ s.relayed ∨ s.messageFinalityTimestamps (c.keccakMessage m) ≠ 0 ∨
        ∃ pre tx post r d data m', txs = pre ++ tx :: post ∧ tx.call = .AddRollup r d data ∧
          (run c mc s pre).attested r.AggregatorID = true ∧ m' ∈ data ∧
          c.keccakMessage m' = c.keccakMessage m
  | _, [], _, hm => .inl hm
  | s, tx :: txs, hs, hm => by
    have hsender : tx.sender ≠ mc := hs tx List.mem_cons_self
    rcases run_relayed m (step c mc s tx) txs (fun t ht => hs t (List.mem_cons_of_mem _ ht)) hm
      with hm | hk | ⟨pre, tx', post, r, d, data, m', rfl, hcall, hatt, hm', hkey⟩
    · -- relayed by this transaction, or before it
      unfold step at hm
      split at hm
      · exact (exec_relayed ‹_› hm).imp_right .inl
      · exact .inl hm
    · -- the hash's finality time was set by this transaction, or before it
      unfold step at hk
      split at hk
      · rcases exec_timestamp hsender ‹_› hk with hk | ⟨r, d, data, m', hcall, hatt, hm', hkey⟩
        · exact .inr (.inl hk)
        · exact .inr (.inr ⟨[], tx, txs, r, d, data, m', rfl, hcall, hatt, hm', hkey⟩)
      · exact .inr (.inl hk)
    · exact .inr (.inr ⟨tx :: pre, tx', post, r, d, data, m', rfl, hcall, hatt, hm', hkey⟩)

/-- **Relayed messages come from attested rollups.** From freshly deployed contracts, every
message `relayMessage` delivers has the hash of a message that an `AddRollup` pushed, and
that `AddRollup` named an `AggregatorID` attested when it ran. -/
theorem run_relayed_pushed (txs : List Tx) (hs : ∀ tx ∈ txs, tx.sender ≠ mc)
    {m : CrossChainMessage} (hm : m ∈ (run c mc deploy txs).relayed) :
    ∃ pre tx post r d data m', txs = pre ++ tx :: post ∧ tx.call = .AddRollup r d data ∧
      (run c mc deploy pre).attested r.AggregatorID = true ∧ m' ∈ data ∧
      c.keccakMessage m' = c.keccakMessage m := by
  rcases run_relayed m deploy txs hs hm with hm | hk | hpushed
  · cases hm
  · exact absurd rfl hk
  · exact hpushed

/-! ## An outsider's message relayed

The network secret is initialised for the aggregator `G`. An outsider `O`, never attested
and with no key of `G`, submits a rollup that names `G` as its aggregator and carries a
withdrawal message of its own making, relays that message, and then has itself attested by
naming `G` as the attester with `verifyAttester` off. The stand-in keccak hashes a message to
its sequence number; every signature is malformed. -/

def cxCrypto : Crypto :=
  ⟨fun m => BitVec.ofNat 256 m.Sequence.toNat, fun _ _ _ _ => 0,
    fun _ _ => .error "ECDSA: invalid signature", fun _ => true⟩

def cxManagement : Address := 0xAA#160
def cxAggregator : Address := 0x01#160
def cxOutsider : Address := 0x02#160
def cxWithdrawal : CrossChainMessage := ⟨0xBB#160, 0, 0, 0, [0x02], 0⟩

def cxAttack : List Tx :=
  [⟨cxAggregator, 1, .InitializeNetworkSecret cxAggregator [] "aggregator" ""⟩,
   ⟨cxOutsider, 2, .AddRollup ⟨7#256, cxAggregator, 1⟩ "" [cxWithdrawal]⟩,
   ⟨cxOutsider, 3, .relayMessage cxWithdrawal⟩,
   ⟨cxOutsider, 4, .RespondNetworkSecret cxAggregator cxOutsider [] [] "outsider" false⟩]

/-- **An outsider injects and relays a message, and attests itself.** After the run the
outsider's withdrawal has been relayed, though the outsider was not attested when it sent the
rollup and no signature was checked; the last transaction, with no signature either, makes
the outsider attested. -/
theorem AddRollup_outsiderPayout :
    (run cxCrypto cxManagement deploy (cxAttack.take 2)).attested cxOutsider = false ∧
      (run cxCrypto cxManagement deploy (cxAttack.take 3)).relayed = [cxWithdrawal] ∧
      (run cxCrypto cxManagement deploy (cxAttack.take 3)).attested cxOutsider = false ∧
      (run cxCrypto cxManagement deploy cxAttack).attested cxOutsider = true := by
  decide

/-- The outsider's relayed withdrawal was pushed by its `AddRollup`, which named the attested
aggregator. -/
theorem run_relayed_pushed_outsider :
    ∃ pre tx post r d data m', cxAttack.take 3 = pre ++ tx :: post ∧
      tx.call = .AddRollup r d data ∧
      (run cxCrypto cxManagement deploy pre).attested r.AggregatorID = true ∧ m' ∈ data ∧
      cxCrypto.keccakMessage m' = cxCrypto.keccakMessage cxWithdrawal :=
  @run_relayed_pushed cxCrypto cxManagement (cxAttack.take 3) (by decide) cxWithdrawal (by decide)

end Obscuro.Contracts
