import Obscuro.Enclave.CrossChain

/-!
# Block ancestry in the enclave storage and in the mock L1

`storageImpl.IsAncestor` (`go/enclave/storage/storage.go`) and the mock L1's
`blockResolverInMem.IsAncestor` (`integration/ethereummock/db.go`) run one recursion over two
stores: a block is its own ancestor, a candidate at least as high as the block is not, and
otherwise the question moves to the block's parent, a failed fetch answering `false`.
`CrossChain.IsAncestor` models the first over any `L1Storage`; the mock's is that definition
over the store its block cache makes.

The mock's cache is a map in which `StoreBlock` files each block under its own hash, so that
`BlockResolverInMem` carries the filing as a field, which `NewResolver` and `StoreBlock` keep.
Whether the stored parents are one lower depends on the order of the stores:
`wellFormed_StoreBlock` is the step of that invariant.

Results:

* `IsBlockAncestor_iff` — `storageImpl.IsBlockAncestor` resolves the candidate's hash, then
  answers as `IsAncestor`;
* `IsAncestor_exact` — on a store whose stored parents are one lower, both tests answer `true`
  exactly on the ancestors-or-self, and both recursions are well founded.
-/

namespace Obscuro.BlockResolver

open ParentWalk CrossChain

/-! ## The enclave storage -/

/-- `storageImpl.IsBlockAncestor(block, maybeAncestor)`: the candidate is resolved by its hash
first, and a hash the store does not answer is no ancestor. -/
def IsBlockAncestor (s : L1Storage) (block : L1Block) (maybeAncestor : L1BlockHash) : Bool :=
  match s.FetchBlock maybeAncestor with
  | .error _ => false
  | .ok resolvedBlock => IsAncestor s block resolvedBlock

theorem IsBlockAncestor_iff {s : L1Storage} (hs : BlockStore s) {b : L1Block}
    (hb : IsStored s.links b) (h : L1BlockHash) :
    IsBlockAncestor s b h = true ↔ ∃ a, s.FetchBlock h = .ok a ∧ AncestorOrSelf s.links b a := by
  unfold IsBlockAncestor
  cases hfetch : s.FetchBlock h with
  | error e => simp
  | ok a => simp [IsAncestor_iff hs hb ⟨h, hfetch⟩]

/-! ## The mock L1's resolver -/

/-- `blockResolverInMem`: the mock's block cache, every block filed under its own hash. -/
structure BlockResolverInMem where
  blockCache : L1BlockHash → Option L1Block
  keyed : ∀ h b, blockCache h = some b → b.hash = h

namespace BlockResolverInMem

/-- `NewResolver`: an empty cache. -/
def NewResolver : BlockResolverInMem where
  blockCache _ := none
  keyed _ _ h := nomatch h

/-- `StoreBlock`: the block under its hash, replacing what was there. -/
def StoreBlock (n : BlockResolverInMem) (block : L1Block) : BlockResolverInMem where
  blockCache h := if h = block.hash then some block else n.blockCache h
  keyed h b hb := by
    by_cases hh : h = block.hash
    · rw [if_pos hh, Option.some.injEq] at hb
      rw [← hb, hh]
    · rw [if_neg hh] at hb
      exact n.keyed h b hb

/-- `FetchBlock`: `errutil.ErrNotFound` for a hash the cache does not hold. -/
def FetchBlock (n : BlockResolverInMem) (hash : L1BlockHash) : Except String L1Block :=
  match n.blockCache hash with
  | some block => .ok block
  | none => .error ErrNotFound

/-- The cache as the store the ancestry test reads. The test fetches parents (`ParentBlock` is
`FetchBlock` of the parent hash) and reads no messages. -/
def storage (n : BlockResolverInMem) : L1Storage := ⟨n.FetchBlock, fun _ => .ok []⟩

/-- `blockResolverInMem.IsAncestor`: the code of `storageImpl.IsAncestor` over the cache. -/
def IsAncestor (n : BlockResolverInMem) (block maybeAncestor : L1Block) : Bool :=
  CrossChain.IsAncestor n.storage block maybeAncestor

theorem FetchBlock_eq_ok {n : BlockResolverInMem} {h : L1BlockHash} {b : L1Block} :
    n.FetchBlock h = .ok b ↔ n.blockCache h = some b := by
  unfold FetchBlock
  cases n.blockCache h <;> simp

theorem FetchBlock_StoreBlock {n : BlockResolverInMem} {block : L1Block} {h : L1BlockHash}
    {b : L1Block} :
    (n.StoreBlock block).FetchBlock h = .ok b ↔
      (h = block.hash ∧ b = block) ∨ (h ≠ block.hash ∧ n.FetchBlock h = .ok b) := by
  rw [FetchBlock_eq_ok, FetchBlock_eq_ok]
  by_cases hh : h = block.hash
  · simp [StoreBlock, hh, eq_comm]
  · simp [StoreBlock, hh]

/-- The cache is a block store once its stored parents are one lower and its heights are
64-bit: `StoreBlock` itself files every block under its hash. -/
theorem blockStore {n : BlockResolverInMem} (hwf : WellFormed n.storage.links)
    (hbound : ∀ h b, n.FetchBlock h = .ok b → b.number < 2 ^ 64) : BlockStore n.storage where
  keyed h b hb := n.keyed h b (FetchBlock_eq_ok.mp hb)
  wellFormed := hwf
  heightBound := hbound

/-- **Store step.** Storing a block one above its cached parent, one below its cached children
and not its own parent keeps the stored parents one lower. -/
theorem wellFormed_StoreBlock {n : BlockResolverInMem} {block : L1Block}
    (hwf : WellFormed n.storage.links) (hself : block.parentHash ≠ block.hash)
    (hparent : ∀ p, n.FetchBlock block.parentHash = .ok p → p.number + 1 = block.number)
    (hchild : ∀ h c, n.FetchBlock h = .ok c → c.parentHash = block.hash →
      block.number + 1 = c.number) :
    WellFormed (n.StoreBlock block).storage.links := by
  intro h b p hb hp
  simp only [storage, L1Storage.links] at hb hp ⊢
  rw [FetchBlock_StoreBlock] at hb hp
  rcases hb with ⟨-, rfl⟩ | ⟨-, hb⟩
  · -- the new block: its parent is an old one
    rcases hp with ⟨heq, -⟩ | ⟨-, hp⟩
    · exact absurd heq hself
    · exact hparent p hp
  · -- an old block: its parent is the new block or an old one
    rcases hp with ⟨heq, rfl⟩ | ⟨-, hp⟩
    · exact hchild h b hb heq
    · exact hwf hb hp

theorem FetchBlock_NewResolver (h : L1BlockHash) : NewResolver.FetchBlock h = .error ErrNotFound :=
  rfl

theorem wellFormed_NewResolver : WellFormed NewResolver.storage.links := by
  intro h b p hb _
  exact absurd hb (by simp [storage, L1Storage.links, FetchBlock_NewResolver])

/-- The resolver returns only the blocks stored in it. -/
theorem FetchBlock_foldl_StoreBlock {h : L1BlockHash} {b : L1Block} :
    ∀ (blocks : List L1Block) (n : BlockResolverInMem),
      (blocks.foldl StoreBlock n).FetchBlock h = .ok b → b ∈ blocks ∨ n.FetchBlock h = .ok b
  | [], _, hb => .inr hb
  | block :: blocks, n, hb => by
    rcases FetchBlock_foldl_StoreBlock blocks (n.StoreBlock block) hb with hmem | hb
    · exact .inl (List.mem_cons_of_mem block hmem)
    · rcases FetchBlock_StoreBlock.mp hb with ⟨-, rfl⟩ | ⟨-, hb⟩
      · exact .inl List.mem_cons_self
      · exact .inr hb

/-- A resolver made by `NewResolver` and a run of `StoreBlock`s returns only the blocks stored,
each under its own hash. -/
theorem FetchBlock_foldl_NewResolver {blocks : List L1Block} {h : L1BlockHash} {b : L1Block}
    (hb : (blocks.foldl StoreBlock NewResolver).FetchBlock h = .ok b) : b ∈ blocks ∧ b.hash = h :=
  ⟨(FetchBlock_foldl_StoreBlock blocks NewResolver hb).resolve_right (by
      simp [FetchBlock_NewResolver]),
    (blocks.foldl StoreBlock NewResolver).keyed h b (FetchBlock_eq_ok.mp hb)⟩

end BlockResolverInMem

/-! ## Exactness -/

open BlockResolverInMem

/-- **Ancestry tests.** On a store that files blocks under their hashes, whose stored parents
are one lower and whose heights are 64-bit, `storageImpl.IsAncestor(b, a)` is `true` exactly
when `a` is `b` or an ancestor of `b`, for stored `b` and `a`, and its recursion is well
founded. The mock's cache files blocks under their hashes by construction, and its
`IsAncestor` answers the same way once its stored parents are one lower. -/
theorem IsAncestor_exact :
    (∀ s : L1Storage, BlockStore s → ∀ b a : L1Block, IsStored s.links b → IsStored s.links a →
      (CrossChain.IsAncestor s b a = true ↔ AncestorOrSelf s.links b a) ∧
        WellFounded fun p c => IsAncestorCall s a c p) ∧
    (∀ n : BlockResolverInMem, WellFormed n.storage.links →
      (∀ h b, n.FetchBlock h = .ok b → b.number < 2 ^ 64) → ∀ b a : L1Block,
        IsStored n.storage.links b → IsStored n.storage.links a →
        (n.IsAncestor b a = true ↔ AncestorOrSelf n.storage.links b a) ∧
          WellFounded fun p c => IsAncestorCall n.storage a c p) := by
  constructor
  · intro s hs b a hb ha
    exact ⟨IsAncestor_iff hs hb ha, isAncestorCall_wellFounded hs.wellFormed a⟩
  · intro n hwf hbound b a hb ha
    exact ⟨IsAncestor_iff (blockStore hwf hbound) hb ha, isAncestorCall_wellFounded hwf a⟩


/-- A mock chain of three blocks, stored from the genesis up. -/
def cxB0 : L1Block := ⟨1, 0, 0⟩
def cxB1 : L1Block := ⟨2, 1, 1⟩
def cxB2 : L1Block := ⟨3, 2, 2⟩
def cxResolver : BlockResolverInMem := [cxB0, cxB1, cxB2].foldl StoreBlock NewResolver

theorem cxResolver_wellFormed : WellFormed cxResolver.storage.links := by
  -- each block goes in above its stored parent, and before any child of it
  have h0 : WellFormed ([cxB0].foldl StoreBlock NewResolver).storage.links :=
    wellFormed_StoreBlock wellFormed_NewResolver (by decide)
      (fun p hp => by simp [FetchBlock_NewResolver] at hp)
      (fun h c hc => by simp [FetchBlock_NewResolver] at hc)
  have h1 : WellFormed ([cxB0, cxB1].foldl StoreBlock NewResolver).storage.links :=
    wellFormed_StoreBlock h0 (by decide)
      (fun p hp => by
        obtain ⟨hmem, hh⟩ := FetchBlock_foldl_NewResolver hp
        rw [List.mem_singleton] at hmem
        subst hmem
        decide)
      (fun h c hc hpar => by
        obtain ⟨hmem, -⟩ := FetchBlock_foldl_NewResolver hc
        rw [List.mem_singleton] at hmem
        subst hmem
        exact absurd hpar (by decide))
  have h2 : WellFormed ([cxB0, cxB1, cxB2].foldl StoreBlock NewResolver).storage.links :=
    wellFormed_StoreBlock h1 (by decide)
      (fun p hp => by
        obtain ⟨hmem, hh⟩ := FetchBlock_foldl_NewResolver hp
        simp only [List.mem_cons, List.not_mem_nil, or_false] at hmem
        rcases hmem with rfl | rfl
        · exact absurd hh (by decide)
        · decide)
      (fun h c hc hpar => by
        obtain ⟨hmem, -⟩ := FetchBlock_foldl_NewResolver hc
        simp only [List.mem_cons, List.not_mem_nil, or_false] at hmem
        rcases hmem with rfl | rfl <;> exact absurd hpar (by decide))
  intro h b p hb hp
  exact h2 hb hp

theorem cxResolver_heights (h : L1BlockHash) (b : L1Block) (hb : cxResolver.FetchBlock h = .ok b) :
    b.number < 2 ^ 64 := by
  have hmem := (FetchBlock_foldl_NewResolver hb).1
  simp only [List.mem_cons, List.not_mem_nil, or_false] at hmem
  rcases hmem with rfl | rfl | rfl <;> decide

/-- Both tests on the mock chain, from its top block to its genesis. -/
theorem IsAncestor_exact_threeBlocks :
    ((CrossChain.IsAncestor cxResolver.storage cxB2 cxB0 = true ↔
        AncestorOrSelf cxResolver.storage.links cxB2 cxB0) ∧
      WellFounded fun p c => IsAncestorCall cxResolver.storage cxB0 c p) ∧
    ((cxResolver.IsAncestor cxB2 cxB0 = true ↔
        AncestorOrSelf cxResolver.storage.links cxB2 cxB0) ∧
      WellFounded fun p c => IsAncestorCall cxResolver.storage cxB0 c p) := by
  have hb : IsStored cxResolver.storage.links cxB2 := ⟨3, rfl⟩
  have ha : IsStored cxResolver.storage.links cxB0 := ⟨1, rfl⟩
  exact ⟨IsAncestor_exact.1 cxResolver.storage
      (blockStore cxResolver_wellFormed cxResolver_heights) cxB2 cxB0 hb ha,
    IsAncestor_exact.2 cxResolver cxResolver_wellFormed cxResolver_heights cxB2 cxB0 hb ha⟩

end Obscuro.BlockResolver
