import Obscuro.Common.Types
import Obscuro.Lib.ExceptBind
import Obscuro.Lib.Ledger

/-!
# The bridge over both layers

`contracts/src/bridge/L1/ObscuroBridge.sol` on the L1; `contracts/src/bridge/L2/EthereumBridge.sol`
on the L2 with the `WrappedERC20` tokens it deploys (`contracts/src/common/WrappedERC20.sol`,
over `ObsERC20.sol` and OpenZeppelin 4.5's `ERC20`); and `CrossChainMessenger.relayMessage`
(`contracts/src/messaging/messenger/CrossChainMessenger.sol`) on each layer, delivering the
other bridge's messages. One state machine holds both layers.

Each bridge's `remoteBridgeAddress` is the other bridge and is never reset. So every message a
bridge queues is a call on the other bridge, and every message the other bridge accepts from
its messenger comes from it. The two message buses are the lists of calls published and not
yet consumed. `relayMessage` on a layer may deliver any of them, at any later time, at most
once; a delivery whose call reverts leaves its message where it was. Messages of other senders
are left out: `onlyCrossChainSender` refuses them.

On the L1 the assets are ether (`address(0)`) and ERC20 tokens, with a balance per asset and
account. Every whitelisted address other than `address(0)` is a standard ERC20 token: a
transfer moves exactly the amount and calls no one back. A token call on `address(0)` reverts,
as `SafeERC20` does on an address without code. The ether a native withdrawal sends runs the
receiver's code; whatever that code calls is a later transaction of the run, since the messenger
sets `crossChainSender` afresh for every message it relays.
-/

namespace Obscuro.Bridge

/-- The roles of `ObscuroBridge`'s `AccessControl`. -/
inductive Role
  | NATIVE_TOKEN_ROLE
  | ERC20_TOKEN_ROLE
  | ADMIN_ROLE
  deriving DecidableEq, Repr

/-- A call one bridge queues for the other: `abi.encodeWithSelector` of
`IBridge.receiveAssets` or of `ITokenFactory.onCreateTokenCommand`. -/
inductive BridgeCall
  | receiveAssets (asset : Address) (amount : Nat) (receiver : Address)
  | onCreateTokenCommand (crossChainAddress : Address) (name symbol : String)
  deriving DecidableEq, Repr

/-- Both layers. A mapping is a total function with the zero value as default. -/
structure State where
  -- `ObscuroBridge`'s roles
  hasRole : Role × Address → Bool
  -- the L1 balances, `(asset, account) ↦ amount`, with ether as `address(0)`
  l1Balances : Address × Address → Nat
  -- `EthereumBridge.wrappedTokens` holds each token under its own address: its keys
  wrappedTokens : Finset Address
  localToRemoteToken : Address → Address
  remoteToLocalToken : Address → Address
  -- the `WrappedERC20` tokens: `(token, account) ↦ balance`, and each one's supply
  balances : Address × Address → Nat
  totalSupply : Address → Nat
  -- the calls each bridge published that the other layer has not consumed
  toL2 : List BridgeCall
  toL1 : List BridgeCall

variable (l1Bridge l2Bridge : Address)

/-! ## L1 assets -/

/-- An L1 payment of `amount` of `asset` from `sender` to `recipient`: a token's `transfer`, or
ether sent with a call. The payer must hold the amount. -/
def l1Transfer (s : State) (asset sender recipient : Address) (amount : Nat) :
    Except String State :=
  if s.l1Balances (asset, sender) < amount then .error "transfer amount exceeds balance"
  else .ok { s with
    l1Balances := Ledger.transfer s.l1Balances (asset, sender) (asset, recipient) amount }

/-- `SafeERC20.safeTransferFrom(IERC20(asset), sender, recipient, amount)`. -/
def safeTransferFrom (s : State) (asset sender recipient : Address) (amount : Nat) :
    Except String State :=
  if asset = 0 then .error "Address: call to non-contract"
  else l1Transfer s asset sender recipient amount

/-- `SafeERC20.safeTransfer(IERC20(asset), recipient, amount)`, called by the bridge. -/
def safeTransfer (s : State) (asset recipient : Address) (amount : Nat) : Except String State :=
  safeTransferFrom s asset l1Bridge recipient amount

/-! ## `ObscuroBridge` -/

namespace ObscuroBridge

/-- `onlyRole(role)`. -/
def onlyRole (s : State) (role : Role) (account : Address) : Except String Unit :=
  if s.hasRole (role, account) then .ok () else .error "AccessControl: account is missing role"

/-- `_grantRole` and `_revokeRole`. -/
def setRole (s : State) (role : Role) (account : Address) (member : Bool) : State :=
  { s with hasRole := Function.update s.hasRole (role, account) member }

/-- `_grantRole(role, account)`. -/
def grantRole (s : State) (role : Role) (account : Address) : State := setRole s role account true

/-- `_revokeRole(role, account)`. -/
def revokeRole (s : State) (role : Role) (account : Address) : State :=
  setRole s role account false

/-- `queueMessage(remoteBridgeAddress, data, ...)`: published for the L2 bridge. -/
def queueMessage (s : State) (call : BridgeCall) : State := { s with toL2 := s.toL2 ++ [call] }

/-- `promoteToAdmin(newAdmin)`. -/
def promoteToAdmin (s : State) (sender newAdmin : Address) : Except String State := do
  onlyRole s .ADMIN_ROLE sender
  pure (grantRole s .ADMIN_ROLE newAdmin)

/-- `whitelistToken(asset, name, symbol)`: the role, and the command to create the wrapper. -/
def whitelistToken (s : State) (sender asset : Address) (name symbol : String) :
    Except String State := do
  onlyRole s .ADMIN_ROLE sender
  let s := grantRole s .ERC20_TOKEN_ROLE asset
  pure (queueMessage s (.onCreateTokenCommand asset name symbol))

/-- `removeToken(asset)`. -/
def removeToken (s : State) (sender asset : Address) : Except String State := do
  onlyRole s .ADMIN_ROLE sender
  pure (revokeRole s .ERC20_TOKEN_ROLE asset)

/-- `sendNative(receiver)` with `msg.value = value`, which reaches the bridge with the call. -/
def sendNative (s : State) (sender : Address) (value : Nat) (receiver : Address) :
    Except String State := do
  let s ← l1Transfer s 0 sender l1Bridge value
  if ¬ value > 0 then .error "Empty transfer."
  else .ok (queueMessage s (.receiveAssets 0 value receiver))

/-- `sendERC20(asset, amount, receiver)`. -/
def sendERC20 (s : State) (sender asset : Address) (amount : Nat) (receiver : Address) :
    Except String State :=
  if ¬ amount > 0 then .error "Attempting empty transfer."
  else if ¬ s.hasRole (.ERC20_TOKEN_ROLE, asset) then
    .error "This address has not been given a type and is thus considered not whitelisted."
  else do
    -- ensures the token is correctly transferred to the contract
    let s ← safeTransferFrom s asset sender l1Bridge amount
    pure (queueMessage s (.receiveAssets asset amount receiver))

/-- `_receiveTokens(asset, amount, receiver)`. -/
def receiveTokens (s : State) (asset : Address) (amount : Nat) (receiver : Address) :
    Except String State :=
  safeTransfer l1Bridge s asset receiver amount

/-- `_receiveNative(amount, receiver)`: `receiver.call{value: amount}("")` fails when the bridge
lacks the ether or the receiver's code reverts (`receiverAccepts` false). -/
def receiveNative (s : State) (amount : Nat) (receiver : Address) (receiverAccepts : Bool) :
    Except String State :=
  match (if receiverAccepts then l1Transfer s 0 l1Bridge receiver amount else .error "") with
  | .ok s => .ok s
  | .error _ => .error "Failed to send Ether"

/-- `receiveAssets(asset, amount, receiver)`, once `onlyCrossChainSender` has passed. -/
def receiveAssets (s : State) (asset : Address) (amount : Nat) (receiver : Address)
    (receiverAccepts : Bool) : Except String State :=
  if s.hasRole (.ERC20_TOKEN_ROLE, asset) then receiveTokens l1Bridge s asset amount receiver
  else if s.hasRole (.NATIVE_TOKEN_ROLE, asset) then
    receiveNative l1Bridge s amount receiver receiverAccepts
  else .error "Attempting to withdraw unknown asset."

/-- The bridge's dispatch of a relayed call: it has no `onCreateTokenCommand` and no fallback. -/
def dispatch (receiverAccepts : Bool) (s : State) : BridgeCall → Except String State
  | .receiveAssets asset amount receiver =>
    receiveAssets l1Bridge s asset amount receiver receiverAccepts
  | .onCreateTokenCommand .. => .error "CallFailed"

end ObscuroBridge

/-! ## `WrappedERC20` -/

namespace WrappedERC20

/-- `ObsERC20.balanceOf(account)`: readable by the account itself, as `tx.origin` or as the
caller. -/
def balanceOf (s : State) (origin caller token account : Address) : Except String Nat :=
  if origin = account ∨ caller = account then .ok (s.balances (token, account))
  else .error "Not allowed to read the balance"

/-- `issueFor(receiver, amount)` by the bridge, its admin: `_mint(receiver, amount)`. -/
def issueFor (s : State) (token receiver : Address) (amount : Nat) : Except String State :=
  if receiver = 0 then .error "ERC20: mint to the zero address"
  -- the checked `_totalSupply += amount`
  else if 2 ^ 256 ≤ s.totalSupply token + amount then .error "Panic(0x11)"
  else .ok { s with
    totalSupply := Function.update s.totalSupply token (s.totalSupply token + amount)
    balances := Function.update s.balances (token, receiver)
      (s.balances (token, receiver) + amount) }

/-- `burnFor(giver, amount)` called by the bridge: `balanceOf(giver)` is an internal call, so its
caller is still the bridge; then `_burn(giver, amount)`. -/
def burnFor (s : State) (origin token giver : Address) (amount : Nat) : Except String State := do
  let balance ← balanceOf s origin l2Bridge token giver
  if ¬ balance ≥ amount then .error "Insufficient balance."
  else if giver = 0 then .error "ERC20: burn from the zero address"
  -- the checked `_totalSupply -= amount`
  else if s.totalSupply token < amount then .error "Panic(0x11)"
  else .ok { s with
    balances := Function.update s.balances (token, giver) (balance - amount)
    totalSupply := Function.update s.totalSupply token (s.totalSupply token - amount) }

/-- `transfer(recipient, amount)`: OpenZeppelin's `_transfer`. -/
def transfer (s : State) (token sender recipient : Address) (amount : Nat) : Except String State :=
  if sender = 0 then .error "ERC20: transfer from the zero address"
  else if recipient = 0 then .error "ERC20: transfer to the zero address"
  else if s.balances (token, sender) < amount then .error "ERC20: transfer amount exceeds balance"
  else .ok { s with
    balances := Ledger.transfer s.balances (token, sender) (token, recipient) amount }

end WrappedERC20

/-! ## `EthereumBridge` -/

namespace EthereumBridge

/-- `hasTokenMapping(wrappedToken)`. -/
def hasTokenMapping (s : State) (wrappedToken : Address) : Bool := wrappedToken ∈ s.wrappedTokens

/-- `queueMessage(remoteBridgeAddress, data, ...)`: published for the L1 bridge. -/
def queueMessage (s : State) (call : BridgeCall) : State := { s with toL1 := s.toL1 ++ [call] }

/-- `onCreateTokenCommand(crossChainAddress, name, symbol)`, once `onlyCrossChainSender` has
passed. `new WrappedERC20(name, symbol)` deploys at `newToken`: CREATE never lands on
`address(0)`, a collision with a deployed token fails the creation, and a new contract's storage
is empty. The name and symbol are the token's metadata, which nothing here reads. -/
def onCreateTokenCommand (s : State) (newToken crossChainAddress : Address)
    (_name _symbol : String) : Except String State :=
  if newToken = 0 ∨ newToken ∈ s.wrappedTokens then .error "contract creation failed"
  else .ok { s with
    wrappedTokens := insert newToken s.wrappedTokens
    localToRemoteToken := Function.update s.localToRemoteToken newToken crossChainAddress
    remoteToLocalToken := Function.update s.remoteToLocalToken crossChainAddress newToken
    totalSupply := Function.update s.totalSupply newToken 0
    balances := fun k => if k.1 = newToken then 0 else s.balances k }

/-- `sendNative(receiver)` with `msg.value = value`. -/
def sendNative (s : State) (value : Nat) (receiver : Address) : Except String State :=
  if ¬ value > 0 then .error "Nothing sent."
  else if ¬ hasTokenMapping s 0 then .error "No mapping for token."
  else .ok (queueMessage s (.receiveAssets (s.localToRemoteToken 0) value receiver))

/-- `sendERC20(asset, amount, receiver)`: burn the wrapped tokens, and ask the L1 bridge for
the asset they stand for. -/
def sendERC20 (s : State) (origin sender asset : Address) (amount : Nat) (receiver : Address) :
    Except String State :=
  if ¬ hasTokenMapping s asset then .error "No mapping for token."
  else do
    let s ← WrappedERC20.burnFor l2Bridge s origin asset sender amount
    pure (queueMessage s (.receiveAssets (s.localToRemoteToken asset) amount receiver))

/-- `receiveAssets(asset, amount, receiver)`, once `onlyCrossChainSender` has passed: mint the
wrapper of `asset` that was created last. -/
def receiveAssets (s : State) (asset : Address) (amount : Nat) (receiver : Address) :
    Except String State :=
  let localAddress := s.remoteToLocalToken asset
  if ¬ hasTokenMapping s localAddress then .error "Receiving assets for unknown wrapped token!"
  else WrappedERC20.issueFor s localAddress receiver amount

/-- The bridge's dispatch of a relayed call. -/
def dispatch (newToken : Address) (s : State) : BridgeCall → Except String State
  | .receiveAssets asset amount receiver => receiveAssets s asset amount receiver
  | .onCreateTokenCommand crossChainAddress name symbol =>
    onCreateTokenCommand s newToken crossChainAddress name symbol

end EthereumBridge

/-! ## The messengers -/

namespace CrossChainMessenger

/-- `relayMessage(message)` on a layer whose bus is `bus`: `consumeMessage` (the bus holds it,
unconsumed), then the call on that layer's bridge, which sees the other bridge as
`crossChainSender`. A reverting call undoes the consumption. -/
def relayMessage (bus : State → List BridgeCall) (consume : State → BridgeCall → State)
    (call : State → BridgeCall → Except String State) (s : State) (message : BridgeCall) :
    Except String State :=
  if message ∉ bus s then .error "Message not found or finalized."
  else call (consume s message) message

/-- `relayMessage` on the L2: a message of the L1 bridge. -/
def relayMessageL2 (newToken : Address) : State → BridgeCall → Except String State :=
  relayMessage (·.toL2) (fun s m => { s with toL2 := s.toL2.erase m })
    (EthereumBridge.dispatch newToken)

/-- `relayMessage` on the L1: a message of the L2 bridge. -/
def relayMessageL1 (receiverAccepts : Bool) : State → BridgeCall → Except String State :=
  relayMessage (·.toL1) (fun s m => { s with toL1 := s.toL1.erase m })
    (ObscuroBridge.dispatch l1Bridge receiverAccepts)

end CrossChainMessenger

/-! ## Runs -/

/-- The external calls: the bridges' functions, the messengers' `relayMessage` (with the
receiver's answer to a native payout, or the address a token creation deploys at), and plain
transfers of L1 assets and of wrapped tokens. -/
inductive Call
  | promoteToAdmin (newAdmin : Address)
  | whitelistToken (asset : Address) (name symbol : String)
  | removeToken (asset : Address)
  | l1SendNative (value : Nat) (receiver : Address)
  | l1SendERC20 (asset : Address) (amount : Nat) (receiver : Address)
  | l2SendNative (value : Nat) (receiver : Address)
  | l2SendERC20 (asset : Address) (amount : Nat) (receiver : Address)
  | l1RelayMessage (message : BridgeCall) (receiverAccepts : Bool)
  | l2RelayMessage (message : BridgeCall) (newToken : Address)
  | l1Transfer (asset recipient : Address) (amount : Nat)
  | l2Transfer (token recipient : Address) (amount : Nat)
  deriving DecidableEq, Repr

/-- A transaction: its caller, its `tx.origin`, and the call. No transaction comes from the L1
bridge: the bridge's code calls out only in `receiveAssets`. -/
structure Tx where
  sender : Address
  origin : Address
  call : Call
  sender_ne : sender ≠ l1Bridge

/-- One transaction: the new state, or the revert reason. -/
def exec (s : State) (tx : Tx l1Bridge) : Except String State :=
  match tx.call with
  | .promoteToAdmin newAdmin => ObscuroBridge.promoteToAdmin s tx.sender newAdmin
  | .whitelistToken asset name symbol => ObscuroBridge.whitelistToken s tx.sender asset name symbol
  | .removeToken asset => ObscuroBridge.removeToken s tx.sender asset
  | .l1SendNative value receiver => ObscuroBridge.sendNative l1Bridge s tx.sender value receiver
  | .l1SendERC20 asset amount receiver =>
    ObscuroBridge.sendERC20 l1Bridge s tx.sender asset amount receiver
  | .l2SendNative value receiver => EthereumBridge.sendNative s value receiver
  | .l2SendERC20 asset amount receiver =>
    EthereumBridge.sendERC20 l2Bridge s tx.origin tx.sender asset amount receiver
  | .l1RelayMessage message receiverAccepts =>
    CrossChainMessenger.relayMessageL1 l1Bridge receiverAccepts s message
  | .l2RelayMessage message newToken => CrossChainMessenger.relayMessageL2 newToken s message
  | .l1Transfer asset recipient amount =>
    -- `ObscuroBridge` has neither `receive` nor `fallback`: plain ether to it reverts
    if asset = 0 ∧ recipient = l1Bridge then .error "no receive function"
    else l1Transfer s asset tx.sender recipient amount
  | .l2Transfer token recipient amount =>
    if token ∈ s.wrappedTokens then WrappedERC20.transfer s token tx.sender recipient amount
    else .error "not a wrapped token"

/-- One transaction: one that reverts leaves both layers as they were. -/
def step (s : State) (tx : Tx l1Bridge) : State :=
  match exec l1Bridge l2Bridge s tx with
  | .ok s' => s'
  | .error _ => s

/-- A sequence of transactions, in any interleaving of the two layers. -/
def run (s : State) : List (Tx l1Bridge) → State
  | [] => s
  | tx :: txs => run (step l1Bridge l2Bridge s tx) txs

/-- Both bridges right after deployment: `deployer` is the only admin and ether the only native
asset, no token is wrapped and no message is queued. The L1 balances are any. -/
def deploy (deployer : Address) (l1Balances : Address × Address → Nat) : State where
  hasRole k := decide (k = (.ADMIN_ROLE, deployer)) || decide (k = (.NATIVE_TOKEN_ROLE, 0))
  l1Balances := l1Balances
  wrappedTokens := ∅
  localToRemoteToken _ := 0
  remoteToLocalToken _ := 0
  balances _ := 0
  totalSupply _ := 0
  toL2 := []
  toL1 := []

/-! ## What each call does

One lemma per function: what a call that succeeds checked, and the state it left. -/

section Spec

variable {l1Bridge l2Bridge : Address} {s s' : State}

theorem l1Transfer_eq_ok {asset sender recipient : Address} {amount : Nat}
    (h : l1Transfer s asset sender recipient amount = .ok s') :
    amount ≤ s.l1Balances (asset, sender) ∧ s' = { s with
      l1Balances := Ledger.transfer s.l1Balances (asset, sender) (asset, recipient) amount } := by
  unfold l1Transfer at h
  split_ifs at h with hlow
  cases h
  exact ⟨Nat.le_of_not_lt hlow, rfl⟩

theorem safeTransferFrom_eq_ok {asset sender recipient : Address} {amount : Nat}
    (h : safeTransferFrom s asset sender recipient amount = .ok s') :
    asset ≠ 0 ∧ l1Transfer s asset sender recipient amount = .ok s' := by
  unfold safeTransferFrom at h
  split_ifs at h with hzero
  exact ⟨hzero, h⟩

namespace ObscuroBridge

theorem promoteToAdmin_eq_ok {sender newAdmin : Address}
    (h : promoteToAdmin s sender newAdmin = .ok s') : s' = grantRole s .ADMIN_ROLE newAdmin := by
  unfold promoteToAdmin at h
  obtain ⟨_, -, h⟩ := Except.bind_eq_ok.mp h
  exact (Except.ok.inj h).symm

theorem whitelistToken_eq_ok {sender asset : Address} {name symbol : String}
    (h : whitelistToken s sender asset name symbol = .ok s') :
    s' = queueMessage (grantRole s .ERC20_TOKEN_ROLE asset)
      (.onCreateTokenCommand asset name symbol) := by
  unfold whitelistToken at h
  obtain ⟨_, -, h⟩ := Except.bind_eq_ok.mp h
  exact (Except.ok.inj h).symm

theorem removeToken_eq_ok {sender asset : Address} (h : removeToken s sender asset = .ok s') :
    s' = revokeRole s .ERC20_TOKEN_ROLE asset := by
  unfold removeToken at h
  obtain ⟨_, -, h⟩ := Except.bind_eq_ok.mp h
  exact (Except.ok.inj h).symm

theorem sendNative_eq_ok {sender receiver : Address} {value : Nat}
    (h : sendNative l1Bridge s sender value receiver = .ok s') :
    ∃ s₁, l1Transfer s 0 sender l1Bridge value = .ok s₁ ∧
      s' = queueMessage s₁ (.receiveAssets 0 value receiver) := by
  unfold sendNative at h
  obtain ⟨s₁, hpaid, h⟩ := Except.bind_eq_ok.mp h
  split_ifs at h
  exact ⟨s₁, hpaid, (Except.ok.inj h).symm⟩

theorem sendERC20_eq_ok {sender asset receiver : Address} {amount : Nat}
    (h : sendERC20 l1Bridge s sender asset amount receiver = .ok s') :
    ∃ s₁, safeTransferFrom s asset sender l1Bridge amount = .ok s₁ ∧
      s' = queueMessage s₁ (.receiveAssets asset amount receiver) := by
  unfold sendERC20 at h
  split_ifs at h
  obtain ⟨s₁, hpaid, h⟩ := Except.bind_eq_ok.mp h
  exact ⟨s₁, hpaid, (Except.ok.inj h).symm⟩

/-- A withdrawal pays out of the bridge: the asset itself when it is a whitelisted token, ether
when it has the native role. -/
theorem receiveAssets_eq_ok {asset receiver : Address} {amount : Nat} {accepts : Bool}
    (h : receiveAssets l1Bridge s asset amount receiver accepts = .ok s') :
    l1Transfer s asset l1Bridge receiver amount = .ok s' ∨
      (s.hasRole (.NATIVE_TOKEN_ROLE, asset) = true ∧
        l1Transfer s 0 l1Bridge receiver amount = .ok s') := by
  unfold receiveAssets at h
  split_ifs at h with herc20 hnative
  · exact .inl (safeTransferFrom_eq_ok h).2
  · -- `receiver.call{value: amount}`: only an accepted payment the bridge can afford succeeds
    refine .inr ⟨hnative, ?_⟩
    unfold receiveNative at h
    cases accepts with
    | false => simp at h
    | true =>
      simp only [if_true] at h
      split at h
      · rename_i s₁ hpay
        cases h
        exact hpay
      · simp at h

theorem dispatch_eq_ok {accepts : Bool} {message : BridgeCall}
    (h : dispatch l1Bridge accepts s message = .ok s') :
    ∃ asset amount receiver, message = .receiveAssets asset amount receiver ∧
      receiveAssets l1Bridge s asset amount receiver accepts = .ok s' := by
  cases message with
  | receiveAssets asset amount receiver => exact ⟨asset, amount, receiver, rfl, h⟩
  | onCreateTokenCommand => simp [dispatch] at h

end ObscuroBridge

namespace WrappedERC20

theorem issueFor_eq_ok {token receiver : Address} {amount : Nat}
    (h : issueFor s token receiver amount = .ok s') :
    s' = { s with
      totalSupply := Function.update s.totalSupply token (s.totalSupply token + amount)
      balances := Function.update s.balances (token, receiver)
        (s.balances (token, receiver) + amount) } := by
  unfold issueFor at h
  split_ifs at h
  exact (Except.ok.inj h).symm

theorem burnFor_eq_ok {origin token giver : Address} {amount : Nat}
    (h : burnFor l2Bridge s origin token giver amount = .ok s') :
    amount ≤ s.totalSupply token ∧ s' = { s with
      balances := Function.update s.balances (token, giver) (s.balances (token, giver) - amount)
      totalSupply := Function.update s.totalSupply token (s.totalSupply token - amount) } := by
  unfold burnFor at h
  obtain ⟨balance, hbalance, h⟩ := Except.bind_eq_ok.mp h
  unfold balanceOf at hbalance
  split_ifs at hbalance
  cases hbalance
  split_ifs at h with hlow hzero hsupply
  exact ⟨Nat.le_of_not_lt hsupply, (Except.ok.inj h).symm⟩

theorem transfer_eq_ok {token sender recipient : Address} {amount : Nat}
    (h : transfer s token sender recipient amount = .ok s') :
    s' = { s with
      balances := Ledger.transfer s.balances (token, sender) (token, recipient) amount } := by
  unfold transfer at h
  split_ifs at h
  exact (Except.ok.inj h).symm

end WrappedERC20

namespace EthereumBridge

theorem onCreateTokenCommand_eq_ok {newToken crossChainAddress : Address} {name symbol : String}
    (h : onCreateTokenCommand s newToken crossChainAddress name symbol = .ok s') :
    newToken ≠ 0 ∧ newToken ∉ s.wrappedTokens ∧ s' = { s with
      wrappedTokens := insert newToken s.wrappedTokens
      localToRemoteToken := Function.update s.localToRemoteToken newToken crossChainAddress
      remoteToLocalToken := Function.update s.remoteToLocalToken crossChainAddress newToken
      totalSupply := Function.update s.totalSupply newToken 0
      balances := fun k => if k.1 = newToken then 0 else s.balances k } := by
  unfold onCreateTokenCommand at h
  split_ifs at h with hfresh
  push Not at hfresh
  exact ⟨hfresh.1, hfresh.2, (Except.ok.inj h).symm⟩

/-- `sendNative` needs a wrapped token at `address(0)`. -/
theorem sendNative_eq_ok {value : Nat} {receiver : Address}
    (h : sendNative s value receiver = .ok s') : (0 : Address) ∈ s.wrappedTokens := by
  unfold sendNative at h
  split_ifs at h with hvalue hmapped
  simpa [hasTokenMapping] using hmapped

theorem sendERC20_eq_ok {origin sender asset receiver : Address} {amount : Nat}
    (h : sendERC20 l2Bridge s origin sender asset amount receiver = .ok s') :
    asset ∈ s.wrappedTokens ∧
      ∃ s₁, WrappedERC20.burnFor l2Bridge s origin asset sender amount = .ok s₁ ∧
      s' = queueMessage s₁ (.receiveAssets (s₁.localToRemoteToken asset) amount receiver) := by
  unfold sendERC20 at h
  split_ifs at h with hmapped
  obtain ⟨s₁, hburn, h⟩ := Except.bind_eq_ok.mp h
  exact ⟨by simpa [hasTokenMapping] using hmapped, s₁, hburn, (Except.ok.inj h).symm⟩

theorem receiveAssets_eq_ok {asset receiver : Address} {amount : Nat}
    (h : receiveAssets s asset amount receiver = .ok s') :
    s.remoteToLocalToken asset ∈ s.wrappedTokens ∧
      WrappedERC20.issueFor s (s.remoteToLocalToken asset) receiver amount = .ok s' := by
  unfold receiveAssets at h
  simp only at h
  split_ifs at h with hmapped
  exact ⟨by simpa [hasTokenMapping] using hmapped, h⟩

end EthereumBridge

theorem CrossChainMessenger.relayMessage_eq_ok {bus : State → List BridgeCall}
    {consume : State → BridgeCall → State} {call : State → BridgeCall → Except String State}
    {message : BridgeCall}
    (h : CrossChainMessenger.relayMessage bus consume call s message = .ok s') :
    message ∈ bus s ∧ call (consume s message) message = .ok s' := by
  unfold CrossChainMessenger.relayMessage at h
  split_ifs at h with hfound
  exact ⟨hfound, h⟩

end Spec

end Obscuro.Bridge
