import Obscuro.Common.Types
import Obscuro.Lib.ParentWalk

/-!
# Host L1 repository — catching up on the canonical chain

`Repository.FetchNextBlock` of `go/host/l1/blockrepository.go` answers the enclave's "what comes
after the block I last saw": after the zero hash it is the genesis, after the repository's head
there is nothing yet, and after any other block it walks back with `latestCanonAncestor` to the
first ancestor-or-self that the eth client reports as canonical at its height, then returns the
canonical block one higher, flagged when it is the head.

The eth client is its two lookups; `latestCanonAncestor` recurses on the parent with no bound,
so the model takes fuel, one unit a parent step. The L1 block tree the client serves is
`ServedTree`: blocks by hash, a canonical chain by height that is a path from the genesis, and a
parent one height lower for every other block. `DeepestCanonAncestor` is the block the walk
should find, stated over the parent walks of `Obscuro/Lib/ParentWalk.lean`.

## Results

* `latestCanonAncestor_spec` — from a block at most as high as the canonical chain, the walk
  returns its deepest canonical ancestor-or-self, with fuel for its height;
* `FetchNextBlock_of_belowCanonTip` — then `FetchNextBlock` returns the canonical block one
  above that ancestor, flagged when it is the head, or `ErrNoNextBlock`;
* `FetchNextBlock_errorsAboveCanonTip` — from a block on a fork higher than the canonical
  chain the first lookup by height fails, and `FetchNextBlock` returns that error instead of
  walking back.

The live block stream (`streamLiveBlocks`), which sets `head`, and the receipt lookups are not
modelled; `head` is a field of the repository.
-/

namespace Obscuro.L1Repository

open ParentWalk

/-- `ethadapter.EthClient`: the two lookups of the catch-up. -/
structure EthClient where
  BlockByHash : L1BlockHash → Except String L1Block
  BlockByNumber : Nat → Except String L1Block

/-- The repository: its eth client and the hash of the latest block it streamed. -/
structure Repository where
  ethClient : EthClient
  head : L1BlockHash

/-- `ErrNoNextBlock`. -/
def ErrNoNextBlock : String := "no next block"

/-- `increment(i)`: `i.Add(i, one)`. It writes into `i`, which is the copy `Number()` returns,
so nothing else sees it. -/
def increment (i : Nat) : Nat := i + 1

/-- `latestCanonAncestor(blkHash)`: fetch the block, compare it with the canonical block at its
height, and go on with its parent until they agree. -/
def latestCanonAncestor (ethClient : EthClient) (fuel : Nat) (blkHash : L1BlockHash) :
    Option (Except String L1Block) :=
  match ethClient.BlockByHash blkHash with
  | .error err =>
    some (.error ("unable to fetch L1 block with hash=" ++ blkHash.Hex ++ " - " ++ err))
  | .ok blk =>
    match ethClient.BlockByNumber blk.number with
    | .error err =>
      some (.error ("unable to fetch L1 block at height=" ++ toString blk.number ++ " - " ++ err))
    | .ok canonAtSameHeight =>
      if blk.hash ≠ canonAtSameHeight.hash then
        match fuel with
        | 0 => none
        | fuel + 1 => latestCanonAncestor ethClient fuel blk.parentHash
      else some (.ok blk)

/-- `FetchNextBlock(prevBlockHash)`: the next block to send and whether it is the head. -/
def FetchNextBlock (r : Repository) (fuel : Nat) (prevBlockHash : L1BlockHash) :
    Option (Except String (L1Block × Bool)) :=
  if prevBlockHash = r.head then some (.error ErrNoNextBlock)
  else if prevBlockHash = 0 then
    -- starting from the genesis
    match r.ethClient.BlockByNumber 0 with
    | .error err => some (.error ("could not find genesis block - " ++ err))
    | .ok blk => some (.ok (blk, false))
  else
    match latestCanonAncestor r.ethClient fuel prevBlockHash with
    | none => none
    | some (.error err) => some (.error err)
    | some (.ok lca) =>
      match r.ethClient.BlockByNumber (increment lca.number) with
      | .error err =>
        -- `errors.Is(err, ethereum.NotFound)`: the client returns `NotFound` itself
        if err = ErrNotFound then some (.error ErrNoNextBlock)
        else some (.error ("could not find block after latest canon ancestor, height=" ++
          toString (increment lca.number) ++ " - " ++ err))
      | .ok blk => some (.ok (blk, blk.hash = r.head))

-- ---------------------------------------------------------------------------
-- The block tree the client serves
-- ---------------------------------------------------------------------------

/-- The client's blocks as parent links. -/
def EthClient.links (ethClient : EthClient) : Links String L1BlockHash L1Block :=
  ⟨ethClient.BlockByHash, L1Block.parentHash, L1Block.number⟩

/-- An L1 block tree served by the client: `BlockByHash` answers the block of that hash;
`BlockByNumber` answers a known block of that height or `NotFound`, and its blocks form a path
from the genesis, the only block of height `0`; every other block's parent is known, one
height lower. -/
structure ServedTree (ethClient : EthClient) : Prop where
  byHash : ∀ {h b}, ethClient.BlockByHash h = .ok b → b.hash = h
  byNumber : ∀ {n c}, ethClient.BlockByNumber n = .ok c →
    c.number = n ∧ ethClient.BlockByHash c.hash = .ok c
  byNumber_error : ∀ {n err}, ethClient.BlockByNumber n = .error err → err = ErrNotFound
  canonParent : ∀ {n c}, ethClient.BlockByNumber (n + 1) = .ok c →
    ∃ p, ethClient.BlockByNumber n = .ok p ∧ c.parentHash = p.hash
  genesis : ∀ {h b}, ethClient.BlockByHash h = .ok b → b.number = 0 →
    ethClient.BlockByNumber 0 = .ok b
  parent : ∀ {h b}, ethClient.BlockByHash h = .ok b → 0 < b.number →
    ∃ p, ethClient.BlockByHash b.parentHash = .ok p
  wellFormed : WellFormed ethClient.links

/-- `b` is the canonical block at its height. -/
def IsCanon (ethClient : EthClient) (b : L1Block) : Prop :=
  ethClient.BlockByNumber b.number = .ok b

/-- `a` is the deepest ancestor-or-self of `b` that is canonical: no canonical ancestor-or-self
of `b` is higher. -/
def DeepestCanonAncestor (ethClient : EthClient) (b a : L1Block) : Prop :=
  AncestorOrSelf ethClient.links b a ∧ IsCanon ethClient a ∧
    ∀ c, AncestorOrSelf ethClient.links b c → IsCanon ethClient c → c.number ≤ a.number

section Tree

variable {ethClient : EthClient} (hT : ServedTree ethClient)
include hT

/-- Two known blocks with one hash are one block. -/
theorem ServedTree.eq_of_hash {h h' : L1BlockHash} {b b' : L1Block}
    (hb : ethClient.BlockByHash h = .ok b) (hb' : ethClient.BlockByHash h' = .ok b')
    (hhash : b.hash = b'.hash) : b = b' := by
  have hh : h = h' := by rw [← hT.byHash hb, ← hT.byHash hb', hhash]
  rw [hh, hb'] at hb
  cases hb
  rfl

/-- A known block is canonical exactly when it has the hash of the canonical block at its
height: the comparison `latestCanonAncestor` makes. -/
theorem ServedTree.isCanon_iff {h : L1BlockHash} {b c : L1Block}
    (hb : ethClient.BlockByHash h = .ok b) (hc : ethClient.BlockByNumber b.number = .ok c) :
    IsCanon ethClient b ↔ b.hash = c.hash := by
  constructor
  · intro hcanon
    rw [IsCanon, hc] at hcanon
    cases hcanon
    rfl
  · intro hhash
    have hbc := hT.eq_of_hash hb (hT.byNumber hc).2 hhash
    rw [IsCanon, hbc]
    rw [hbc] at hc
    exact hc

/-- A known block that is not canonical is not the genesis. -/
theorem ServedTree.pos_of_not_isCanon {h : L1BlockHash} {b : L1Block}
    (hb : ethClient.BlockByHash h = .ok b) (hnot : ¬IsCanon ethClient b) : 0 < b.number := by
  by_contra hzero
  have hgen := hT.genesis hb (by omega)
  apply hnot
  rw [IsCanon, show b.number = 0 by omega]
  exact hgen

/-- A known canonical block is its own deepest canonical ancestor: its ancestors are lower. -/
theorem ServedTree.deepestCanonAncestor_self {h : L1BlockHash} {b : L1Block}
    (hb : ethClient.BlockByHash h = .ok b) (hcanon : IsCanon ethClient b) :
    DeepestCanonAncestor ethClient b b :=
  ⟨.refl b, hcanon, fun _ hc _ => hc.number_le hT.wellFormed ⟨h, hb⟩⟩

end Tree

/-- Past a block that is not canonical, its deepest canonical ancestor is its parent's. -/
theorem DeepestCanonAncestor.of_parent {ethClient : EthClient} {b p a : L1Block}
    (hp : ethClient.BlockByHash b.parentHash = .ok p) (hnot : ¬IsCanon ethClient b)
    (hdeep : DeepestCanonAncestor ethClient p a) : DeepestCanonAncestor ethClient b a := by
  obtain ⟨hanc, hcanon, hdeepest⟩ := hdeep
  refine ⟨hanc.of_parent hp, hcanon, fun c hc hccanon => ?_⟩
  rcases hc.eq_or_of_parent hp with rfl | hpc
  · exact absurd hccanon hnot
  · exact hdeepest c hpc hccanon

-- ---------------------------------------------------------------------------
-- The walk
-- ---------------------------------------------------------------------------

section Walk

variable {ethClient : EthClient} {h : L1BlockHash} {b c : L1Block}

theorem latestCanonAncestor_of_eq (fuel : Nat) (hb : ethClient.BlockByHash h = .ok b)
    (hc : ethClient.BlockByNumber b.number = .ok c) (hhash : b.hash = c.hash) :
    latestCanonAncestor ethClient fuel h = some (.ok b) := by
  unfold latestCanonAncestor
  rw [hb]
  dsimp only
  rw [hc]
  dsimp only
  rw [if_neg (not_not.mpr hhash)]

theorem latestCanonAncestor_of_ne (fuel : Nat) (hb : ethClient.BlockByHash h = .ok b)
    (hc : ethClient.BlockByNumber b.number = .ok c) (hhash : b.hash ≠ c.hash) :
    latestCanonAncestor ethClient (fuel + 1) h = latestCanonAncestor ethClient fuel b.parentHash := by
  rw [latestCanonAncestor, hb]
  dsimp only
  rw [hc]
  dsimp only
  rw [if_pos hhash]

/-- A block above the canonical chain: the lookup at its height fails, and the walk with it. -/
theorem latestCanonAncestor_of_error (fuel : Nat) {err : String}
    (hb : ethClient.BlockByHash h = .ok b) (herr : ethClient.BlockByNumber b.number = .error err) :
    latestCanonAncestor ethClient fuel h =
      some (.error ("unable to fetch L1 block at height=" ++ toString b.number ++ " - " ++ err)) := by
  unfold latestCanonAncestor
  rw [hb]
  dsimp only
  rw [herr]

/-- **The walk finds the deepest canonical ancestor.** From a known block no higher than the
canonical chain, with fuel for its height, `latestCanonAncestor` returns the deepest canonical
ancestor-or-self. The induction is on the fuel; each step to a parent keeps the block no higher
than the canonical chain, because the chain is a path from the genesis. -/
theorem latestCanonAncestor_spec (hT : ServedTree ethClient) :
    ∀ {fuel : Nat} {h : L1BlockHash} {b : L1Block}, ethClient.BlockByHash h = .ok b →
      (∃ c, ethClient.BlockByNumber b.number = .ok c) → b.number ≤ fuel →
      ∃ a, latestCanonAncestor ethClient fuel h = some (.ok a) ∧ DeepestCanonAncestor ethClient b a
  | fuel, h, b, hb, ⟨c, hc⟩, hfuel => by
    by_cases hhash : b.hash = c.hash
    · -- `b` is canonical: the walk stops on it
      have hcanon := (hT.isCanon_iff hb hc).mpr hhash
      exact ⟨b, latestCanonAncestor_of_eq fuel hb hc hhash, hT.deepestCanonAncestor_self hb hcanon⟩
    · -- `b` is on a fork: it is above the genesis, and the walk goes on with its parent
      have hnot : ¬IsCanon ethClient b := mt (hT.isCanon_iff hb hc).mp hhash
      have hpos := hT.pos_of_not_isCanon hb hnot
      obtain ⟨p, hp⟩ := hT.parent hb hpos
      have hpn : p.number + 1 = b.number := hT.wellFormed hb hp
      -- the canonical chain reaches `b`'s height, so it reaches the parent's
      have hpc : ∃ c', ethClient.BlockByNumber p.number = .ok c' := by
        rw [← hpn] at hc
        obtain ⟨c', hc', -⟩ := hT.canonParent hc
        exact ⟨c', hc'⟩
      obtain ⟨fuel, rfl⟩ : ∃ f, fuel = f + 1 := ⟨fuel - 1, by omega⟩
      have hpfuel : p.number ≤ fuel := by omega
      obtain ⟨a, hrun, hdeep⟩ := latestCanonAncestor_spec hT hp hpc hpfuel
      refine ⟨a, ?_, hdeep.of_parent hp hnot⟩
      rw [latestCanonAncestor_of_ne fuel hb hc hhash]
      exact hrun

end Walk

-- ---------------------------------------------------------------------------
-- FetchNextBlock
-- ---------------------------------------------------------------------------

section Fetch

variable {r : Repository} {prev : L1BlockHash} {b : L1Block}

/-- Past the head and the zero hash, `FetchNextBlock` is the walk followed by the lookup one
height above its result. -/
theorem FetchNextBlock_of_walk (fuel : Nat) (hhead : prev ≠ r.head) (hzero : prev ≠ 0)
    {lca : L1Block} (hrun : latestCanonAncestor r.ethClient fuel prev = some (.ok lca)) :
    FetchNextBlock r fuel prev =
      match r.ethClient.BlockByNumber (lca.number + 1) with
      | .error err =>
        if err = ErrNotFound then some (.error ErrNoNextBlock)
        else some (.error ("could not find block after latest canon ancestor, height=" ++
          toString (lca.number + 1) ++ " - " ++ err))
      | .ok blk => some (.ok (blk, blk.hash = r.head)) := by
  rw [FetchNextBlock, if_neg hhead, if_neg hzero, hrun]
  rfl

/-- **Catch-up on the canonical chain.** In a served tree, from a known block other than the
head and the zero hash and no higher than the canonical chain, `FetchNextBlock` returns the
canonical block one above the block's deepest canonical ancestor, flagged exactly when it is
the head, or `ErrNoNextBlock` when the chain ends there. -/
theorem FetchNextBlock_of_belowCanonTip (hT : ServedTree r.ethClient) {fuel : Nat}
    (hb : r.ethClient.BlockByHash prev = .ok b) (hhead : prev ≠ r.head) (hzero : prev ≠ 0)
    (htip : ∃ c, r.ethClient.BlockByNumber b.number = .ok c) (hfuel : b.number ≤ fuel) :
    ∃ a, DeepestCanonAncestor r.ethClient b a ∧
      FetchNextBlock r fuel prev =
        some (match r.ethClient.BlockByNumber (a.number + 1) with
          | .ok blk => .ok (blk, decide (blk.hash = r.head))
          | .error _ => .error ErrNoNextBlock) := by
  obtain ⟨a, hrun, hdeep⟩ := latestCanonAncestor_spec hT hb htip hfuel
  refine ⟨a, hdeep, ?_⟩
  rw [FetchNextBlock_of_walk fuel hhead hzero hrun]
  cases hnext : r.ethClient.BlockByNumber (a.number + 1) with
  | ok blk => rfl
  | error err =>
    -- the client has nothing at that height: `NotFound`
    have hnf := hT.byNumber_error hnext
    dsimp only
    rw [if_pos hnf]

/-- From a known block other than the head and the zero hash whose height the canonical chain
has not reached, `FetchNextBlock` returns the error of the lookup at that height: the block on
a fork above the canonical chain is never walked back from. -/
theorem FetchNextBlock_errorsAboveCanonTip (fuel : Nat) {err : String}
    (hb : r.ethClient.BlockByHash prev = .ok b) (hhead : prev ≠ r.head) (hzero : prev ≠ 0)
    (habove : r.ethClient.BlockByNumber b.number = .error err) :
    FetchNextBlock r fuel prev =
      some (.error ("unable to fetch L1 block at height=" ++ toString b.number ++ " - " ++ err)) := by
  rw [FetchNextBlock, if_neg hhead, if_neg hzero, latestCanonAncestor_of_error fuel hb habove]

/-- A genesis, its canonical child, and a fork of two blocks beside it that is higher than the
canonical chain. -/
def cxGenesis : L1Block := ⟨1, 0, 0⟩
def cxC1 : L1Block := ⟨2, 1, 1⟩
def cxF1 : L1Block := ⟨3, 1, 1⟩
def cxF2 : L1Block := ⟨4, 3, 2⟩

def cxClient : EthClient where
  BlockByHash h :=
    if h = 1 then .ok cxGenesis else if h = 2 then .ok cxC1
    else if h = 3 then .ok cxF1 else if h = 4 then .ok cxF2 else .error ErrNotFound
  BlockByNumber
    | 0 => .ok cxGenesis
    | 1 => .ok cxC1
    | _ => .error ErrNotFound

theorem cxClient_blockByHash {h : L1BlockHash} {b : L1Block}
    (hb : cxClient.BlockByHash h = .ok b) :
    b.hash = h ∧ (b = cxGenesis ∨ b = cxC1 ∨ b = cxF1 ∨ b = cxF2) := by
  simp only [cxClient] at hb
  split_ifs at hb with h1 h2 h3 h4 <;> cases hb
  · exact ⟨h1.symm, .inl rfl⟩
  · exact ⟨h2.symm, .inr (.inl rfl)⟩
  · exact ⟨h3.symm, .inr (.inr (.inl rfl))⟩
  · exact ⟨h4.symm, .inr (.inr (.inr rfl))⟩

theorem cxClient_servedTree : ServedTree cxClient where
  byHash hb := (cxClient_blockByHash hb).1
  byNumber {n c} hc := by
    rcases n with _ | _ | n <;> cases hc
    · exact ⟨rfl, rfl⟩
    · exact ⟨rfl, rfl⟩
  byNumber_error {n err} herr := by
    rcases n with _ | _ | n <;> cases herr
    rfl
  canonParent {n c} hc := by
    rcases n with _ | n <;> cases hc
    exact ⟨cxGenesis, rfl, rfl⟩
  genesis hb hzero := by
    obtain ⟨-, rfl | rfl | rfl | rfl⟩ := cxClient_blockByHash hb
    · rfl
    all_goals exact absurd hzero (by decide)
  parent hb hpos := by
    obtain ⟨-, rfl | rfl | rfl | rfl⟩ := cxClient_blockByHash hb
    · exact absurd hpos (by decide)
    · exact ⟨cxGenesis, rfl⟩
    · exact ⟨cxGenesis, rfl⟩
    · exact ⟨cxF1, rfl⟩
  wellFormed {h b p} hb hp := by
    -- the block and its parent are two of the four; the hashes decide which
    obtain ⟨-, hb'⟩ := cxClient_blockByHash (h := h) hb
    obtain ⟨hph, hp'⟩ := cxClient_blockByHash (h := b.parentHash) hp
    rcases hb' with rfl | rfl | rfl | rfl <;> rcases hp' with rfl | rfl | rfl | rfl <;>
      revert hph <;> decide

/-- The deepest canonical ancestor of the fork's tip is the genesis. -/
theorem cxF2_deepestCanonAncestor : DeepestCanonAncestor cxClient cxF2 cxGenesis := by
  have hF1 : cxClient.links.fetch (cxClient.links.parent cxF2) = .ok cxF1 := rfl
  have hG : cxClient.links.fetch (cxClient.links.parent cxF1) = .ok cxGenesis := rfl
  refine ⟨((AncestorOrSelf.refl cxGenesis).of_parent hG).of_parent hF1, rfl, fun c hc hcanon => ?_⟩
  -- neither fork block is canonical, and below them lies only the genesis
  rcases hc.eq_or_of_parent hF1 with rfl | hc
  · cases hcanon
  rcases hc.eq_or_of_parent hG with rfl | hc
  · cases hcanon
  exact hc.number_le cxClient_servedTree.wellFormed ⟨1, rfl⟩

theorem FetchNextBlock_errorsAboveCanonTip_tallFork :
    ServedTree cxClient ∧ DeepestCanonAncestor cxClient cxF2 cxGenesis ∧
      cxClient.BlockByNumber (cxGenesis.number + 1) = .ok cxC1 ∧
      FetchNextBlock ⟨cxClient, cxC1.hash⟩ 2 cxF2.hash =
        some (.error ("unable to fetch L1 block at height=" ++ toString cxF2.number ++ " - " ++
          ErrNotFound)) :=
  ⟨cxClient_servedTree, cxF2_deepestCanonAncestor, rfl,
    FetchNextBlock_errorsAboveCanonTip (r := ⟨cxClient, cxC1.hash⟩) 2 rfl (by decide) (by decide)
      rfl⟩

end Fetch

end Obscuro.L1Repository
