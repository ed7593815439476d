import Obscuro.Contracts.Bridge

/-!
# The bridge is an escrow

The L1 bridge holds what backs every claim the bridges create: the wrapped tokens in
circulation on the L2, and the transfers either bridge has published that the other layer has
not delivered. `books` gives, per L1 asset, the bridge's balance as the reserve and those
amounts as the claims; the bridge conserves assets when the books stay backed.

* `Wf` — what the mappings and roles keep: no token is wrapped at `address(0)`, a remote asset
  maps to a wrapped token that maps back to it, and only ether has the native role;
* `covers_deposit`, `covers_withdraw`, `covers_payment`, `claims_burn`, `claims_mint`,
  `claims_create` — the accounting of each kind of step;
* `exec_inv` — every transaction keeps `Wf` and covers its claims;
* `run_conservesAssets` — in every state a run from deployment reaches, the L1 bridge's balance
  of each asset is at least the supply of its wrapped tokens plus what is in flight.
-/

namespace Obscuro.Bridge

open Ledger

/-- The amount of `a` a published call transfers. -/
def receiveAmount (a : Address) : BridgeCall → Nat
  | .receiveAssets asset amount _ => if asset = a then amount else 0
  | .onCreateTokenCommand .. => 0

/-- The amount of `a` in flight on a bus. -/
def pending (a : Address) (bus : List BridgeCall) : Nat := (bus.map (receiveAmount a)).sum

/-- The supply of the wrapped tokens that stand for the L1 asset `a`. -/
def wrappedSupply (s : State) (a : Address) : Nat :=
  ∑ w ∈ s.wrappedTokens.filter (s.localToRemoteToken · = a), s.totalSupply w

variable (l1Bridge l2Bridge : Address)

/-- The escrow's books: the L1 bridge's balance of each asset, and what is owed for it. -/
def books (s : State) : Books Address where
  reserve a := s.l1Balances (a, l1Bridge)
  claims a := wrappedSupply s a + pending a s.toL2 + pending a s.toL1

/-- What the bridges' mappings and roles keep. -/
structure Wf (s : State) : Prop where
  zero_not_wrapped : (0 : Address) ∉ s.wrappedTokens
  remote_mem : ∀ a, s.remoteToLocalToken a = 0 ∨ s.remoteToLocalToken a ∈ s.wrappedTokens
  remote_local : ∀ a, s.remoteToLocalToken a ∈ s.wrappedTokens →
    s.localToRemoteToken (s.remoteToLocalToken a) = a
  native_zero : ∀ a, s.hasRole (.NATIVE_TOKEN_ROLE, a) = true → a = 0

/-- The invariant: well-formed, with backed books. -/
structure Inv (s : State) : Prop extends Wf s where
  backed : (books l1Bridge s).Backed

variable {l1Bridge l2Bridge}

/-! ## In flight -/

@[simp] theorem receiveAmount_receiveAssets (a asset receiver : Address) (amount : Nat) :
    receiveAmount a (.receiveAssets asset amount receiver) = if asset = a then amount else 0 :=
  rfl

@[simp] theorem receiveAmount_onCreateTokenCommand (a crossChainAddress : Address)
    (name symbol : String) :
    receiveAmount a (.onCreateTokenCommand crossChainAddress name symbol) = 0 := rfl

@[simp] theorem pending_append_singleton (a : Address) (bus : List BridgeCall) (c : BridgeCall) :
    pending a (bus ++ [c]) = pending a bus + receiveAmount a c := by
  simp [pending]

/-- Consuming a message takes its amount out of flight. -/
theorem pending_erase {a : Address} {bus : List BridgeCall} {c : BridgeCall} (h : c ∈ bus) :
    pending a (bus.erase c) + receiveAmount a c = pending a bus := by
  unfold pending
  rw [← List.sum_map_erase _ h, Nat.add_comm]

/-! ## Frames -/

/-- Steps that keep the tokens, their mappings and the native role keep `Wf`. -/
theorem Wf.of_eq {s s' : State} (hw : Wf s) (hwrapped : s'.wrappedTokens = s.wrappedTokens)
    (hlocal : s'.localToRemoteToken = s.localToRemoteToken)
    (hremote : s'.remoteToLocalToken = s.remoteToLocalToken)
    (hnative : ∀ a, s'.hasRole (.NATIVE_TOKEN_ROLE, a) = s.hasRole (.NATIVE_TOKEN_ROLE, a)) :
    Wf s' where
  zero_not_wrapped := hwrapped ▸ hw.zero_not_wrapped
  remote_mem a := hwrapped ▸ hremote ▸ hw.remote_mem a
  remote_local a := hwrapped ▸ hlocal ▸ hremote ▸ hw.remote_local a
  native_zero a := hnative a ▸ hw.native_zero a

/-- An L1 payment moves only L1 balances. -/
theorem Wf.l1Transfer {s s' : State} {asset sender recipient : Address} {amount : Nat}
    (hwf : Wf s) (h : l1Transfer s asset sender recipient amount = .ok s') : Wf s' := by
  obtain ⟨-, rfl⟩ := l1Transfer_eq_ok h
  exact hwf.of_eq rfl rfl rfl fun _ => rfl

/-! ## The accounting of each kind of step -/

/-- A deposit: the payer, who is not the bridge, pays the bridge, and the bridge publishes the
transfer of the same amount. -/
theorem covers_deposit {s s₁ : State} {asset sender receiver : Address} {amount : Nat}
    (hsender : sender ≠ l1Bridge) (hpay : l1Transfer s asset sender l1Bridge amount = .ok s₁) :
    (books l1Bridge s).Covers (books l1Bridge
      (ObscuroBridge.queueMessage s₁ (.receiveAssets asset amount receiver))) := by
  obtain ⟨hlow, rfl⟩ := l1Transfer_eq_ok hpay
  intro a
  have hreserve := transfer_add (asset, l1Bridge) hlow (a, l1Bridge)
  -- the bridge is not the payer
  have hpayer : (a, l1Bridge) ≠ (asset, sender) := fun h => hsender (Prod.ext_iff.mp h).2.symm
  -- `dsimp` also rewrites the state inside the filter's decidability instance
  dsimp only [books, ObscuroBridge.queueMessage, wrappedSupply]
  simp only [pending_append_singleton, receiveAmount_receiveAssets]
  by_cases ha : asset = a
  · subst ha
    simp only [hpayer, if_false, if_true] at hreserve ⊢
    omega
  · have hne : (a, l1Bridge) ≠ (asset, l1Bridge) := fun h => ha (Prod.ext_iff.mp h).1.symm
    simp only [hpayer, hne, ha, if_false] at hreserve ⊢
    omega

/-- A payment by an account other than the bridge never lowers the bridge's balance. -/
theorem covers_payment {s s' : State} {asset sender recipient : Address} {amount : Nat}
    (hsender : sender ≠ l1Bridge) (hpay : l1Transfer s asset sender recipient amount = .ok s') :
    (books l1Bridge s).Covers (books l1Bridge s') := by
  obtain ⟨hlow, rfl⟩ := l1Transfer_eq_ok hpay
  intro a
  have hreserve := transfer_add (asset, recipient) hlow (a, l1Bridge)
  have hpayer : (a, l1Bridge) ≠ (asset, sender) := fun h => hsender (Prod.ext_iff.mp h).2.symm
  simp only [hpayer, if_false] at hreserve
  dsimp only [books, wrappedSupply]
  split_ifs at hreserve <;> omega

/-- A withdrawal: a published transfer is consumed, and the bridge pays its amount of its asset
out. -/
theorem covers_withdraw {s s' : State} {asset receiver : Address} {amount : Nat}
    (hmem : .receiveAssets asset amount receiver ∈ s.toL1)
    (hpay : l1Transfer { s with toL1 := s.toL1.erase (.receiveAssets asset amount receiver) }
      asset l1Bridge receiver amount = .ok s') :
    (books l1Bridge s).Covers (books l1Bridge s') := by
  obtain ⟨hlow, rfl⟩ := l1Transfer_eq_ok hpay
  intro a
  have hreserve := transfer_add (asset, receiver) hlow (a, l1Bridge)
  have hflight := pending_erase (a := a) hmem
  dsimp only [books, wrappedSupply]
  by_cases ha : asset = a
  · subst ha
    simp only [if_true, receiveAmount_receiveAssets] at hreserve hflight
    split_ifs at hreserve <;> omega
  · have hne : (a, l1Bridge) ≠ (asset, l1Bridge) := fun h => ha (Prod.ext_iff.mp h).1.symm
    simp only [hne, ha, if_false, receiveAmount_receiveAssets] at hreserve hflight
    split_ifs at hreserve <;> omega

/-- A burn of `amount` of the wrapped token `w` that publishes the transfer of as much of the
asset it stands for leaves the claims as they were. -/
theorem claims_burn {s : State} {w : Address} {amount : Nat}
    (hw : w ∈ s.wrappedTokens) (hlow : amount ≤ s.totalSupply w) (receiver a : Address) :
    wrappedSupply { s with
        totalSupply := Function.update s.totalSupply w (s.totalSupply w - amount) } a +
        receiveAmount a (.receiveAssets (s.localToRemoteToken w) amount receiver) =
      wrappedSupply s a := by
  have hsum := sum_filter_update_add hw s.localToRemoteToken a s.totalSupply
    (s.totalSupply w - amount)
  simp only [wrappedSupply, receiveAmount_receiveAssets]
  split_ifs at hsum ⊢ <;> omega

/-- A mint of `amount` of the wrapped token of `asset`, for a transfer of as much of it that is
consumed, leaves the claims as they were. -/
theorem claims_mint {s : State} {asset : Address} (hwf : Wf s)
    (hw : s.remoteToLocalToken asset ∈ s.wrappedTokens) (amount : Nat) (receiver a : Address) :
    wrappedSupply { s with
        totalSupply := Function.update s.totalSupply (s.remoteToLocalToken asset)
          (s.totalSupply (s.remoteToLocalToken asset) + amount) } a =
      wrappedSupply s a + receiveAmount a (.receiveAssets asset amount receiver) := by
  have hsum := sum_filter_update_add hw s.localToRemoteToken a s.totalSupply
    (s.totalSupply (s.remoteToLocalToken asset) + amount)
  -- the wrapped token stands for `asset`
  rw [hwf.remote_local asset hw] at hsum
  simp only [wrappedSupply, receiveAmount_receiveAssets]
  split_ifs at hsum ⊢ <;> omega

/-- Creating a wrapped token adds a fresh token with no supply: the wrapped supply of every
asset stays as it was. -/
theorem claims_create {s s' : State} {newToken crossChainAddress : Address} {name symbol : String}
    (hcreate : EthereumBridge.onCreateTokenCommand s newToken crossChainAddress name symbol =
      .ok s') (a : Address) :
    wrappedSupply s' a = wrappedSupply s a := by
  obtain ⟨-, hfresh, rfl⟩ := EthereumBridge.onCreateTokenCommand_eq_ok hcreate
  -- the tokens wrapped before keep their asset and their supply
  have hold : ∀ k ∈ s.wrappedTokens, k ≠ newToken := fun k hk h => hfresh (h ▸ hk)
  exact sum_filter_insert hfresh (fun k hk => Function.update_of_ne (hold k hk) _ _)
    (fun k hk => Function.update_of_ne (hold k hk) _ _) (Function.update_self _ _ _) a

/-- A burn of wrapped tokens that publishes the transfer of as much of the asset they stand for
moves the claim from the supply onto the bus to the L1. -/
theorem covers_burn {s s₁ : State} {origin w giver receiver : Address} {amount : Nat}
    (hw : w ∈ s.wrappedTokens)
    (hburn : WrappedERC20.burnFor l2Bridge s origin w giver amount = .ok s₁) :
    (books l1Bridge s).Covers (books l1Bridge (EthereumBridge.queueMessage s₁
      (.receiveAssets (s₁.localToRemoteToken w) amount receiver))) := by
  obtain ⟨hlow, rfl⟩ := WrappedERC20.burnFor_eq_ok hburn
  intro a
  have hclaims := claims_burn hw hlow receiver a
  dsimp only [books, EthereumBridge.queueMessage, wrappedSupply] at hclaims ⊢
  simp only [pending_append_singleton]
  omega

/-- A delivered transfer to the L2 mints the asset's wrapped token: the claim moves from the
bus onto the supply. -/
theorem covers_mint {s s' : State} {asset receiver : Address} {amount : Nat} (hwf : Wf s)
    (hmem : .receiveAssets asset amount receiver ∈ s.toL2)
    (hmint : EthereumBridge.receiveAssets
      { s with toL2 := s.toL2.erase (.receiveAssets asset amount receiver) } asset amount receiver =
      .ok s') :
    (books l1Bridge s).Covers (books l1Bridge s') := by
  obtain ⟨hw, hissue⟩ := EthereumBridge.receiveAssets_eq_ok hmint
  obtain rfl := WrappedERC20.issueFor_eq_ok hissue
  intro a
  have hclaims := claims_mint hwf hw amount receiver a
  have hflight := pending_erase (a := a) hmem
  dsimp only [books, wrappedSupply] at hclaims ⊢
  omega

/-- A delivered token command creates a token with no supply, and carried no asset. -/
theorem covers_create {s s' : State} {newToken crossChainAddress : Address} {name symbol : String}
    (hmem : .onCreateTokenCommand crossChainAddress name symbol ∈ s.toL2)
    (hcreate : EthereumBridge.onCreateTokenCommand
      { s with toL2 := s.toL2.erase (.onCreateTokenCommand crossChainAddress name symbol) }
      newToken crossChainAddress name symbol = .ok s') :
    (books l1Bridge s).Covers (books l1Bridge s') := by
  have hsupply := claims_create hcreate
  obtain ⟨-, -, rfl⟩ := EthereumBridge.onCreateTokenCommand_eq_ok hcreate
  intro a
  have hflight := pending_erase (a := a) hmem
  have hclaims := hsupply a
  dsimp only [books, wrappedSupply] at hclaims hflight ⊢
  simp only [receiveAmount_onCreateTokenCommand] at hflight
  omega

/-! ## Well-formedness -/

/-- The created token is fresh and not `address(0)`, and the command maps its remote asset to
it: the mappings stay consistent. -/
theorem Wf.onCreateTokenCommand {s s' : State} {newToken crossChainAddress : Address}
    {name symbol : String} (hwf : Wf s)
    (hcreate : EthereumBridge.onCreateTokenCommand s newToken crossChainAddress name symbol =
      .ok s') :
    Wf s' := by
  obtain ⟨hzero, hfresh, rfl⟩ := EthereumBridge.onCreateTokenCommand_eq_ok hcreate
  refine ⟨?zero, ?mem, ?remote, hwf.native_zero⟩
  case zero =>
    simp only [Finset.mem_insert, not_or]
    exact ⟨Ne.symm hzero, hwf.zero_not_wrapped⟩
  case mem =>
    intro a
    by_cases ha : a = crossChainAddress
    · subst ha
      exact .inr (by simp)
    · rcases hwf.remote_mem a with h | h
      · exact .inl (by simp [ha, h])
      · exact .inr (by simp [ha, h])
  case remote =>
    intro a ha
    by_cases hc : a = crossChainAddress
    · subst hc
      simp
    · simp only [Function.update_of_ne hc, Finset.mem_insert] at ha ⊢
      -- the asset's token was wrapped before, so it is not the new one
      have hold : s.remoteToLocalToken a ∈ s.wrappedTokens := by
        rcases ha with h | h
        · rcases hwf.remote_mem a with h0 | h0
          · exact absurd (h.symm.trans h0) hzero
          · exact absurd (h ▸ h0) hfresh
        · exact h
      have hne : s.remoteToLocalToken a ≠ newToken := fun h => hfresh (h ▸ hold)
      rw [Function.update_of_ne hne]
      exact hwf.remote_local a hold

/-! ## Every transaction keeps the invariant -/

theorem Inv.of_covers {s s' : State} (hinv : Inv l1Bridge s) (hwf : Wf s')
    (hcovers : (books l1Bridge s).Covers (books l1Bridge s')) : Inv l1Bridge s' :=
  ⟨hwf, hinv.backed.of_covers hcovers⟩

/-- A role other than the native one is read by nothing the invariant reads. -/
theorem Inv.setRole {s : State} (hinv : Inv l1Bridge s) {role : Role}
    (hrole : role ≠ .NATIVE_TOKEN_ROLE) (account : Address) (member : Bool) :
    Inv l1Bridge (ObscuroBridge.setRole s role account member) := by
  refine hinv.of_covers (hinv.toWf.of_eq rfl rfl rfl fun a => ?_) (Books.Covers.refl _)
  have hne : ((.NATIVE_TOKEN_ROLE, a) : Role × Address) ≠ (role, account) :=
    fun h => hrole (Prod.ext_iff.mp h).1.symm
  exact Function.update_of_ne hne _ _

/-- A published token command carries no asset. -/
theorem Inv.queueTokenCommand {s : State} (hinv : Inv l1Bridge s) (crossChainAddress : Address)
    (name symbol : String) :
    Inv l1Bridge
      (ObscuroBridge.queueMessage s (.onCreateTokenCommand crossChainAddress name symbol)) := by
  refine hinv.of_covers (hinv.toWf.of_eq rfl rfl rfl fun _ => rfl) fun a => ?_
  dsimp only [books, ObscuroBridge.queueMessage, wrappedSupply]
  simp only [pending_append_singleton, receiveAmount_onCreateTokenCommand]
  omega

/-- Every transaction that succeeds keeps the invariant: one case per call. -/
theorem exec_inv {s s' : State} {tx : Tx l1Bridge} (hinv : Inv l1Bridge s)
    (h : exec l1Bridge l2Bridge s tx = .ok s') : Inv l1Bridge s' := by
  obtain ⟨sender, origin, call, hsender⟩ := tx
  cases call with
  | promoteToAdmin newAdmin =>
    obtain rfl := ObscuroBridge.promoteToAdmin_eq_ok h
    exact hinv.setRole (by decide) _ _
  | whitelistToken asset name symbol =>
    obtain rfl := ObscuroBridge.whitelistToken_eq_ok h
    exact (hinv.setRole (by decide) _ _).queueTokenCommand _ _ _
  | removeToken asset =>
    obtain rfl := ObscuroBridge.removeToken_eq_ok h
    exact hinv.setRole (by decide) _ _
  | l1SendNative value receiver =>
    obtain ⟨s₁, hpay, rfl⟩ := ObscuroBridge.sendNative_eq_ok h
    exact hinv.of_covers ((hinv.toWf.l1Transfer hpay).of_eq rfl rfl rfl fun _ => rfl)
      (covers_deposit hsender hpay)
  | l1SendERC20 asset amount receiver =>
    obtain ⟨s₁, hsafe, rfl⟩ := ObscuroBridge.sendERC20_eq_ok h
    have hpay := (safeTransferFrom_eq_ok hsafe).2
    exact hinv.of_covers ((hinv.toWf.l1Transfer hpay).of_eq rfl rfl rfl fun _ => rfl)
      (covers_deposit hsender hpay)
  | l2SendNative value receiver =>
    -- no token is wrapped at `address(0)`: the L2 `sendNative` always reverts
    exact absurd (EthereumBridge.sendNative_eq_ok h) hinv.zero_not_wrapped
  | l2SendERC20 asset amount receiver =>
    obtain ⟨hw, s₁, hburn, rfl⟩ := EthereumBridge.sendERC20_eq_ok h
    refine hinv.of_covers ?_ (covers_burn hw hburn)
    -- a burn moves only balances and supplies
    obtain ⟨-, rfl⟩ := WrappedERC20.burnFor_eq_ok hburn
    exact hinv.toWf.of_eq rfl rfl rfl fun _ => rfl
  | l1RelayMessage message accepts =>
    dsimp only [exec, CrossChainMessenger.relayMessageL1] at h
    obtain ⟨hmem, hcall⟩ := CrossChainMessenger.relayMessage_eq_ok h
    obtain ⟨asset, amount, receiver, rfl, hreceive⟩ := ObscuroBridge.dispatch_eq_ok hcall
    -- the payout is of the asset itself, or ether under the native role, which only ether has
    have hpay : l1Transfer { s with toL1 := s.toL1.erase (.receiveAssets asset amount receiver) }
        asset l1Bridge receiver amount = .ok s' := by
      rcases ObscuroBridge.receiveAssets_eq_ok hreceive with hpay | ⟨hnative, hpay⟩
      · exact hpay
      · obtain rfl := hinv.native_zero asset hnative
        exact hpay
    have hcovers := covers_withdraw hmem hpay
    obtain ⟨-, rfl⟩ := l1Transfer_eq_ok hpay
    exact hinv.of_covers (hinv.toWf.of_eq rfl rfl rfl fun _ => rfl) hcovers
  | l2RelayMessage message newToken =>
    dsimp only [exec, CrossChainMessenger.relayMessageL2] at h
    obtain ⟨hmem, hcall⟩ := CrossChainMessenger.relayMessage_eq_ok h
    -- the bus holds what the L2 bridge's dispatch takes
    have hwf : Wf { s with toL2 := s.toL2.erase message } :=
      hinv.toWf.of_eq rfl rfl rfl fun _ => rfl
    cases message with
    | receiveAssets asset amount receiver =>
      dsimp only [EthereumBridge.dispatch] at hcall
      refine hinv.of_covers ?_ (covers_mint hinv.toWf hmem hcall)
      -- a mint moves only balances and supplies
      obtain ⟨-, hissue⟩ := EthereumBridge.receiveAssets_eq_ok hcall
      obtain rfl := WrappedERC20.issueFor_eq_ok hissue
      exact hwf.of_eq rfl rfl rfl fun _ => rfl
    | onCreateTokenCommand crossChainAddress name symbol =>
      dsimp only [EthereumBridge.dispatch] at hcall
      exact hinv.of_covers (hwf.onCreateTokenCommand hcall) (covers_create hmem hcall)
  | l1Transfer asset recipient amount =>
    dsimp only [exec] at h
    split_ifs at h
    exact hinv.of_covers (hinv.toWf.l1Transfer h) (covers_payment hsender h)
  | l2Transfer token recipient amount =>
    dsimp only [exec] at h
    split_ifs at h
    obtain rfl := WrappedERC20.transfer_eq_ok h
    exact hinv.of_covers (hinv.toWf.of_eq rfl rfl rfl fun _ => rfl) (Books.Covers.refl _)

theorem step_inv {s : State} (hinv : Inv l1Bridge s) (tx : Tx l1Bridge) :
    Inv l1Bridge (step l1Bridge l2Bridge s tx) := by
  unfold step
  split
  · rename_i s' h
    exact exec_inv hinv h
  · -- a reverted transaction leaves the state as it was
    exact hinv

theorem run_inv {s : State} (hinv : Inv l1Bridge s) (txs : List (Tx l1Bridge)) :
    Inv l1Bridge (run l1Bridge l2Bridge s txs) := by
  induction txs generalizing s with
  | nil => exact hinv
  | cons tx txs ih => exact ih (step_inv hinv tx)

/-- Right after deployment nothing is wrapped or in flight, and only ether has the native
role. -/
theorem deploy_inv (deployer : Address) (l1Balances : Address × Address → Nat) :
    Inv l1Bridge (deploy deployer l1Balances) where
  zero_not_wrapped := Finset.notMem_empty 0
  remote_mem _ := .inl rfl
  remote_local _ h := absurd h (Finset.notMem_empty _)
  native_zero a h := by simpa [deploy] using h
  backed a := by simp [books, wrappedSupply, pending, deploy]

/-- **The bridge conserves assets.** In every state that a run of transactions reaches from
deployment, the L1 bridge holds of every asset at least the supply of the wrapped tokens that
stand for it, plus the amounts of it that either bridge has published and the other has not
consumed. -/
theorem run_conservesAssets (deployer : Address) (l1Balances : Address × Address → Nat)
    (txs : List (Tx l1Bridge)) (a : Address) :
    wrappedSupply (run l1Bridge l2Bridge (deploy deployer l1Balances) txs) a +
        pending a (run l1Bridge l2Bridge (deploy deployer l1Balances) txs).toL2 +
        pending a (run l1Bridge l2Bridge (deploy deployer l1Balances) txs).toL1 ≤
      (run l1Bridge l2Bridge (deploy deployer l1Balances) txs).l1Balances (a, l1Bridge) :=
  (run_inv (deploy_inv deployer l1Balances) txs).backed a

end Obscuro.Bridge
