import Obscuro.Common.Types
import Obscuro.Lib.ParentWalk
import Obscuro.Lib.ExceptBind

/-!
# Inbound cross-chain messages

`go/enclave/crosschain/message_bus_manager.go` and the ancestry test of
`go/enclave/storage/storage.go`. When a batch is computed, the messages published on L1
between the parent batch's L1 proof and the batch's own proof are read back from storage,
block by block, walking parents down from the newer proof. They become the synthetic
transactions that deliver them on L2.

`IsAncestor` and the walk of `RetrieveInboundMessages` recurse on fetched parents with no
bound in Go; here each carries a fuel argument (one fetch per unit), and a top-level call
passes the newer block's height plus one, more than any walk in a well-formed store takes.
`logger.Crit` ends the enclave process, so each `Crit` of the walk is an error carrying its
message.

Main results:

* `IsAncestor_of_segment` — the ancestry test accepts every ancestor-or-self;
* `RetrieveInboundMessages_of_segment` — the messages retrieved between two blocks are those
  of the blocks strictly above the older one, newest block first;
* `RetrieveInboundMessages_tiling` — along a chain of blocks, the calls for consecutive pairs
  retrieve every block's messages once: their concatenation is a permutation of the messages
  of the whole range.
-/

namespace Obscuro.CrossChain

open ParentWalk

/-- The part of the enclave storage the message bus manager reads. -/
structure L1Storage where
  FetchBlock : L1BlockHash → Except String L1Block
  GetL1Messages : L1BlockHash → Except String (List CrossChainMessage)

/-- The L1 store as parent links. -/
def L1Storage.links (s : L1Storage) : Links String L1BlockHash L1Block :=
  ⟨s.FetchBlock, L1Block.parentHash, L1Block.number⟩

/-- `storageImpl.IsAncestor(block, maybeAncestor)`, with one unit of fuel per parent fetch.
A failed fetch answers `false`, as the Go code does after logging it. -/
def isAncestorAux (s : L1Storage) : Nat → L1Block → L1Block → Bool
  | 0, _, _ => false
  | fuel + 1, block, maybeAncestor =>
    if maybeAncestor.hash = block.hash then true
    else if block.NumberU64 ≤ maybeAncestor.NumberU64 then false
    else
      match s.FetchBlock block.parentHash with
      | .error _ => false
      | .ok p => isAncestorAux s fuel p maybeAncestor

/-- `storageImpl.IsAncestor`. -/
def IsAncestor (s : L1Storage) (block maybeAncestor : L1Block) : Bool :=
  isAncestorAux s (block.number + 1) block maybeAncestor

/-- `IsAncestor(block, maybeAncestor)` calls itself on `p`: `block` is not `maybeAncestor`, is
higher by `NumberU64`, and `p` is its fetched parent. -/
def IsAncestorCall (s : L1Storage) (maybeAncestor block p : L1Block) : Prop :=
  maybeAncestor.hash ≠ block.hash ∧ ¬ block.NumberU64 ≤ maybeAncestor.NumberU64 ∧
    s.FetchBlock block.parentHash = .ok p

/-- The loop of `RetrieveInboundMessages`: from block `b`, with the messages gathered so far,
until the block with hash `from` is reached. -/
def retrieveLoop (s : L1Storage) (fromHash : L1BlockHash) (height : UInt64) :
    Nat → L1Block → List CrossChainMessage → Except String (List CrossChainMessage)
  | 0, _, _ => .error "walk exhausted"
  | fuel + 1, b, messages =>
    if b.hash = fromHash then .ok messages
    else
      match s.GetL1Messages b.hash with
      | .error _ => .error "Reading the key for the block failed with uncommon reason."
      | .ok messagesForBlock =>
        -- no deposits before genesis
        if b.NumberU64 < height then .error "block height is less than genesis height"
        else
          match s.FetchBlock b.parentHash with
          | .error _ =>
            .error ("Synthetic transactions can't be processed because the rollups are not " ++
              "on the same Ethereum fork")
          | .ok p => retrieveLoop s fromHash height fuel p (messages ++ messagesForBlock)

/-- `MessageBusManager.RetrieveInboundMessages(fromBlock, toBlock)`: the messages of the
blocks from `toBlock` down to, and without, `fromBlock`. -/
def RetrieveInboundMessages (s : L1Storage) (fromBlock toBlock : L1Block) :
    Except String (List CrossChainMessage) :=
  if IsAncestor s toBlock fromBlock then
    retrieveLoop s fromBlock.hash fromBlock.NumberU64 (toBlock.number + 1) toBlock []
  else
    .error ("Synthetic transactions can't be processed because the rollups are not on the " ++
      "same Ethereum fork. This should not happen.")

/-! ## The walks on a well-formed store -/

/-- What the ancestry test relies on: the store answers a hash with the block of that hash
(blocks are filed under their own hash), a stored parent is one lower, and heights fit in the
64 bits of `NumberU64`, as geth's header check requires of every block. -/
structure BlockStore (s : L1Storage) : Prop where
  keyed : ∀ h blk, s.FetchBlock h = .ok blk → blk.hash = h
  wellFormed : WellFormed s.links
  heightBound : ∀ h blk, s.FetchBlock h = .ok blk → blk.number < 2 ^ 64

/-- What the retrieval relies on: the store answers a hash with the block of that hash, a
stored parent is one lower, heights fit in 64 bits, and every stored block's messages can be
read (`msgs` names them). -/
structure Sound (s : L1Storage) (msgs : L1Block → List CrossChainMessage) : Prop where
  keyed : ∀ h blk, s.FetchBlock h = .ok blk → blk.hash = h
  wellFormed : WellFormed s.links
  heightBound : ∀ h blk, s.FetchBlock h = .ok blk → blk.number < 2 ^ 64
  messages : ∀ h blk, s.FetchBlock h = .ok blk → s.GetL1Messages blk.hash = .ok (msgs blk)

section Walks

variable {s : L1Storage} {msgs : L1Block → List CrossChainMessage}

theorem Sound.toBlockStore (hs : Sound s msgs) : BlockStore s :=
  ⟨hs.keyed, hs.wellFormed, hs.heightBound⟩

theorem BlockStore.isStored_hash (hs : BlockStore s) {b : L1Block} (hb : IsStored s.links b) :
    s.FetchBlock b.hash = .ok b := by
  obtain ⟨h, hh⟩ := hb
  rw [hs.keyed h b hh]
  exact hh

theorem BlockStore.number_lt (hs : BlockStore s) {b : L1Block} (hb : IsStored s.links b) :
    b.number < 2 ^ 64 :=
  let ⟨h, hh⟩ := hb
  hs.heightBound h b hh

/-- Two stored blocks with one hash are one block: the store answers one block per hash. -/
theorem BlockStore.eq_of_hash (hs : BlockStore s) {a c : L1Block} (ha : IsStored s.links a)
    (hc : IsStored s.links c) (heq : a.hash = c.hash) : a = c := by
  have h1 := hs.isStored_hash ha
  rw [heq, hs.isStored_hash hc] at h1
  exact (Except.ok.inj h1).symm

/-- A block strictly above `a` on a walk has another hash than `a`. -/
theorem BlockStore.hash_ne (hs : BlockStore s) {a c : L1Block} (ha : IsStored s.links a)
    (hc : IsStored s.links c) (hlt : a.number < c.number) : c.hash ≠ a.hash := by
  intro heq
  rw [hs.eq_of_hash hc ha heq] at hlt
  exact Nat.lt_irrefl _ hlt

/-- Heights that fit in 64 bits compare as their `NumberU64`s do. -/
theorem numberU64_le_iff {a b : L1Block} (ha : a.number < 2 ^ 64) (hb : b.number < 2 ^ 64) :
    a.NumberU64 ≤ b.NumberU64 ↔ a.number ≤ b.number := by
  rw [L1Block.NumberU64, L1Block.NumberU64, UInt64.le_iff_toNat_le,
    UInt64.toNat_ofNat_of_lt' ha, UInt64.toNat_ofNat_of_lt' hb]

/-- One call of the test: where the Go code recurses, the model does, with one less fuel. -/
theorem isAncestorAux_succ_of_call {fuel : Nat} {b a p : L1Block} (h : IsAncestorCall s a b p) :
    isAncestorAux s (fuel + 1) b a = isAncestorAux s fuel p a := by
  obtain ⟨hne, hnum, hp⟩ := h
  simp only [isAncestorAux, hne, hnum, if_false, hp]

/-- **Ancestry test, completeness.** Every ancestor-or-self of a stored block is recognised,
given fuel for the walk. -/
theorem isAncestorAux_of_segment (hs : BlockStore s) {b a : L1Block} {bs : List L1Block}
    (h : Segment s.links b bs a) (hb : IsStored s.links b) :
    ∀ {fuel}, bs.length < fuel → isAncestorAux s fuel b a = true := by
  induction h with
  | refl a =>
    intro fuel hfuel
    obtain ⟨fuel, rfl⟩ : ∃ f, fuel = f + 1 := ⟨fuel - 1, by simp at hfuel; omega⟩
    simp [isAncestorAux]
  | step hp hrest ih =>
    rename_i b p a bs
    intro fuel hfuel
    obtain ⟨fuel, rfl⟩ : ∃ f, fuel = f + 1 := ⟨fuel - 1, by omega⟩
    have hseg := Segment.step hp hrest
    have hlt : a.number < b.number := hseg.number_lt hs.wellFormed hb b List.mem_cons_self
    have ha : IsStored s.links a := by
      rcases hrest with _ | ⟨hp', _⟩
      · exact ⟨_, hp⟩
      · exact (Segment.step hp' ‹_›).ancestorAt.isStored_of_pos (by simp)
    -- `b` is not `a`, and is higher, so the test goes on to `b`'s parent
    have hne : a.hash ≠ b.hash := fun e => hs.hash_ne ha hb hlt e.symm
    have hnum : ¬ b.NumberU64 ≤ a.NumberU64 := by
      rw [numberU64_le_iff (hs.number_lt hb) (hs.number_lt ha)]
      omega
    rw [isAncestorAux_succ_of_call ⟨hne, hnum, hp⟩]
    exact ih ⟨_, hp⟩ (by simp at hfuel; omega)

theorem IsAncestor_of_segment (hs : BlockStore s) {b a : L1Block} {bs : List L1Block}
    (h : Segment s.links b bs a) (hb : IsStored s.links b) : IsAncestor s b a = true := by
  have hlen := h.ancestorAt.number_add hs.wellFormed hb
  exact isAncestorAux_of_segment hs h hb (by simp only [L1Storage.links] at hlen; omega)

/-- **Ancestry test, soundness.** The test answers `true` only on an ancestor-or-self, with any
fuel: it stops with `true` on `maybeAncestor`'s hash, which the store files as that very
block. -/
theorem ancestorOrSelf_of_isAncestorAux (hs : BlockStore s) {a : L1Block}
    (ha : IsStored s.links a) :
    ∀ {fuel : Nat} {b : L1Block}, IsStored s.links b → isAncestorAux s fuel b a = true →
      AncestorOrSelf s.links b a
  | 0, _, _, h => by simp [isAncestorAux] at h
  | fuel + 1, b, hb, h => by
    by_cases heq : a.hash = b.hash
    · rw [hs.eq_of_hash ha hb heq]
      exact AncestorOrSelf.refl b
    by_cases hnum : b.NumberU64 ≤ a.NumberU64
    · simp [isAncestorAux, heq, hnum] at h
    cases hp : s.FetchBlock b.parentHash with
    | error e => simp [isAncestorAux, heq, hnum, hp] at h
    | ok p =>
      rw [isAncestorAux_succ_of_call ⟨heq, hnum, hp⟩] at h
      exact AncestorOrSelf.of_parent hp (ancestorOrSelf_of_isAncestorAux hs ha ⟨_, hp⟩ h)

/-- **Exactness of the ancestry test.** Between stored blocks, with fuel past their height
difference, the test answers `true` exactly on the ancestors-or-self. -/
theorem isAncestorAux_iff (hs : BlockStore s) {b a : L1Block} (hb : IsStored s.links b)
    (ha : IsStored s.links a) {fuel : Nat} (hfuel : b.number - a.number < fuel) :
    isAncestorAux s fuel b a = true ↔ AncestorOrSelf s.links b a := by
  constructor
  · exact ancestorOrSelf_of_isAncestorAux hs ha hb
  · intro h
    obtain ⟨bs, hseg⟩ := h.segment
    have hlen := hseg.ancestorAt.number_add hs.wellFormed hb
    exact isAncestorAux_of_segment hs hseg hb (by simp only [L1Storage.links] at hlen; omega)

theorem IsAncestor_iff (hs : BlockStore s) {b a : L1Block} (hb : IsStored s.links b)
    (ha : IsStored s.links a) : IsAncestor s b a = true ↔ AncestorOrSelf s.links b a :=
  isAncestorAux_iff hs hb ha (by omega)

/-- **Termination.** The test's recursion is well founded on a store whose stored parents are
one lower: each call is on the fetched parent of its caller. -/
theorem isAncestorCall_wellFounded (hwf : WellFormed s.links) (a : L1Block) :
    WellFounded fun p b => IsAncestorCall s a b p :=
  Subrelation.wf (fun h => h.2.2) (parent_wellFounded hwf)

/-- **The retrieval walk.** From a stored block `b` whose walk reaches the stored `a` through
`bs`, the loop appends the messages of `bs`, newest first, given fuel for the walk. -/
theorem retrieveLoop_of_segment (hs : Sound s msgs) {b a : L1Block} {bs : List L1Block}
    (h : Segment s.links b bs a) (hb : IsStored s.links b) (ha : IsStored s.links a) :
    ∀ {fuel} (acc : List CrossChainMessage), bs.length < fuel →
      retrieveLoop s a.hash a.NumberU64 fuel b acc = .ok (acc ++ bs.flatMap msgs) := by
  induction h with
  | refl a =>
    intro fuel acc hfuel
    obtain ⟨fuel, rfl⟩ : ∃ f, fuel = f + 1 := ⟨fuel - 1, by simp at hfuel; omega⟩
    simp [retrieveLoop]
  | step hp hrest ih =>
    rename_i b p a bs
    intro fuel acc hfuel
    obtain ⟨fuel, rfl⟩ : ∃ f, fuel = f + 1 := ⟨fuel - 1, by omega⟩
    have hlt : a.number < b.number :=
      (Segment.step hp hrest).number_lt hs.wellFormed hb b List.mem_cons_self
    -- `b` is not the target, its messages are read, and it is not below the target's height
    have hne : b.hash ≠ a.hash := hs.toBlockStore.hash_ne ha hb hlt
    have hmsgs : s.GetL1Messages b.hash = .ok (msgs b) := by
      obtain ⟨hh, hbh⟩ := hb
      exact hs.messages hh b hbh
    have hheight : ¬ b.NumberU64 < a.NumberU64 := by
      rw [UInt64.lt_iff_toNat_lt, L1Block.NumberU64, L1Block.NumberU64,
        UInt64.toNat_ofNat_of_lt' (hs.toBlockStore.number_lt hb),
        UInt64.toNat_ofNat_of_lt' (hs.toBlockStore.number_lt ha)]
      omega
    have hp' : s.FetchBlock b.parentHash = .ok p := hp
    simp only [retrieveLoop, hne, if_false, hmsgs, hheight, hp']
    rw [ih ⟨_, hp⟩ ha _ (by simp at hfuel; omega), List.flatMap_cons, List.append_assoc]

/-- **Retrieval spec.** For an ancestor-or-self `fromBlock` of a stored `toBlock`, reached
through `bs`, `RetrieveInboundMessages` returns the messages of `bs`: every block from
`toBlock` down to, and without, `fromBlock`, newest first. -/
theorem RetrieveInboundMessages_of_segment (hs : Sound s msgs) {fromBlock toBlock : L1Block}
    {bs : List L1Block} (h : Segment s.links toBlock bs fromBlock)
    (hto : IsStored s.links toBlock) (hfrom : IsStored s.links fromBlock) :
    RetrieveInboundMessages s fromBlock toBlock = .ok (bs.flatMap msgs) := by
  have hlen := h.ancestorAt.number_add hs.wellFormed hto
  rw [RetrieveInboundMessages, if_pos (IsAncestor_of_segment hs.toBlockStore h hto),
    retrieveLoop_of_segment hs h hto hfrom [] (by simp only [L1Storage.links] at hlen; omega),
    List.nil_append]

/-- **Tiling.** Along a chain of items carrying stored blocks (`blk`), each block an
ancestor-or-self of the next one's, the retrievals for consecutive pairs all succeed, each
returning the messages between its two blocks newest first, and together they return the
messages of the blocks strictly above the first block up to the last one, each block's once:
their concatenation is a permutation of the messages of that range. -/
theorem RetrieveInboundMessages_tiling {α : Type} (blk : α → L1Block) (hs : Sound s msgs) :
    ∀ (ps : List α) (a : α), IsStored s.links (blk a) →
      (a :: ps).IsChain (fun x y => AncestorOrSelf s.links (blk y) (blk x)) →
      (∀ p ∈ ps, IsStored s.links (blk p)) →
      ∃ ms range,
        ((a :: ps).zip ps).mapM (fun pr => RetrieveInboundMessages s (blk pr.1) (blk pr.2)) =
          .ok ms ∧
        List.Forall₂ (fun pr m => ∃ seg, Segment s.links (blk pr.2) seg (blk pr.1) ∧
          m = seg.flatMap msgs) ((a :: ps).zip ps) ms ∧
        Segment s.links (blk ((a :: ps).getLast (List.cons_ne_nil _ _))) range (blk a) ∧
        ms.flatten.Perm (range.flatMap msgs)
  | [], a, _, _, _ => ⟨[], [], rfl, .nil, .refl (blk a), by simp⟩
  | p :: ps, a, ha, hchain, hstored => by
    obtain ⟨hpa, hchain'⟩ := List.isChain_cons_cons.mp hchain
    have hp : IsStored s.links (blk p) := hstored p List.mem_cons_self
    -- the first call covers the blocks from `p` down to `a`; the rest by induction from `p`
    obtain ⟨seg, hseg⟩ := hpa.segment
    obtain ⟨ms, range, hms, hcalls, hrange, hperm⟩ := RetrieveInboundMessages_tiling blk hs ps p
      hp hchain' (fun q hq => hstored q (List.mem_cons_of_mem _ hq))
    refine ⟨seg.flatMap msgs :: ms, range ++ seg, ?_, ?_, ?_, ?_⟩
    · rw [List.zip_cons_cons, List.mapM_cons, RetrieveInboundMessages_of_segment hs hseg hp ha,
        Except.ok_bind', hms]
      rfl
    · rw [List.zip_cons_cons]
      exact .cons ⟨seg, hseg, rfl⟩ hcalls
    · rw [List.getLast_cons (List.cons_ne_nil _ _)]
      exact hrange.append hseg
    · -- the calls run oldest pair first, each newest block first: a reordering of the range
      rw [List.flatten_cons, List.flatMap_append]
      exact (hperm.append_left _).trans List.perm_append_comm

end Walks

end Obscuro.CrossChain
