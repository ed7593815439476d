import Obscuro.Enclave.EnclaveDB

/-!
# Ingesting L1 blocks

`l1BlockProcessor` of `go/enclave/components/block_processor.go` with `gethutil.LCA` of
`go/common/gethutil/gethutil.go`. A block is accepted in one of three ways: as the first block
(no canonical head yet), as a child of the head, or as the tip of a fork, when `LCA` walks
back from the block and the old head to their common ancestor and returns the two paths whose
flags `StoreBlock` flips.

`internalLCA` recurses on fetched parents with no bound in Go; here it carries fuel, one unit
per step, and `LCA` passes the two heights plus one, more than any walk in a well-formed store
takes.

Main result:

* `Process_orphanAfterGenesis` — with the L1 genesis block as head, a block whose parent is
  not stored is accepted as the new canonical head: `internalLCA` returns at height
  `L1GenesisHeight` before it has found a common ancestor, so the canonical flags no longer
  follow the head's ancestors.
-/

namespace Obscuro.BlockProcessor

open EnclaveDB ParentWalk

/-- `internalLCA(newCanonical, oldCanonical, resolver, canonicalPath, nonCanonicalPath)`:
walk the higher block down, or both when level, recording the blocks passed on each side,
until the two meet or one is at the L1 genesis height. -/
def internalLCA (db : DB) :
    Nat → L1Block → L1Block → List L1BlockHash → List L1BlockHash →
      Except String (L1Block × List L1BlockHash × List L1BlockHash)
  | 0, _, _, _, _ => .error "lca walk exhausted"
  | fuel + 1, newCanonical, oldCanonical, canonicalPath, nonCanonicalPath =>
    if newCanonical.NumberU64 = UInt64.ofNat L1GenesisHeight ∨
        oldCanonical.NumberU64 = UInt64.ofNat L1GenesisHeight then
      .ok (newCanonical, canonicalPath, nonCanonicalPath)
    else if newCanonical.hash = oldCanonical.hash then
      .ok (newCanonical, canonicalPath, nonCanonicalPath)
    else if oldCanonical.NumberU64 < newCanonical.NumberU64 then
      match FetchBlock db newCanonical.parentHash with
      | .error err => .error ("could not retrieve parent block. Cause: " ++ err)
      | .ok p => internalLCA db fuel p oldCanonical (canonicalPath ++ [p.hash]) nonCanonicalPath
    else if newCanonical.NumberU64 < oldCanonical.NumberU64 then
      match FetchBlock db oldCanonical.parentHash with
      | .error err => .error ("could not retrieve parent block. Cause: " ++ err)
      | .ok p => internalLCA db fuel newCanonical p canonicalPath (nonCanonicalPath ++ [p.hash])
    else
      match FetchBlock db newCanonical.parentHash with
      | .error err => .error ("could not retrieve parent block. Cause: " ++ err)
      | .ok parentBlockA =>
        match FetchBlock db oldCanonical.parentHash with
        | .error err => .error ("could not retrieve parent block. Cause: " ++ err)
        | .ok parentBlockB =>
          internalLCA db fuel parentBlockA parentBlockB (canonicalPath ++ [parentBlockA.hash])
            (nonCanonicalPath ++ [parentBlockB.hash])

/-- `gethutil.LCA(newCanonical, oldCanonical, resolver)`: the common ancestor and the two
paths, each without its last entry (taken to be the common ancestor). Go returns the fork
alongside an error; the caller keeps only the error. -/
def LCA (db : DB) (newCanonical oldCanonical : L1Block) : Except String ChainFork :=
  match internalLCA db (newCanonical.number + oldCanonical.number + 1) newCanonical oldCanonical
      [] [oldCanonical.hash] with
  | .error err => .error err
  | .ok (b, cp, ncp) =>
    .ok { NewCanonical := newCanonical
          OldCanonical := oldCanonical
          CommonAncestor := b
          CanonicalPath := cp.dropLast
          NonCanonicalPath := ncp.dropLast }

/-- `BlockIngestionType`. -/
structure BlockIngestionType where
  ChainFork : Option ChainFork
  PreGenesis : Bool
  deriving DecidableEq, Repr

/-- `l1BlockProcessor.ingestBlock(block)`: how the block joins the chain the enclave knows. -/
def ingestBlock (db : DB) (block : L1Block) : Except String BlockIngestionType :=
  match FetchHeadBlock db with
  | .error err =>
    if err = ErrNotFound then .ok ⟨none, true⟩
    else .error ("could not retrieve head block. Cause: " ++ err)
  | .ok prevL1Head =>
    -- a basic sanity check: is the block a child of the head?
    if block.parentHash ≠ prevL1Head.hash then
      match LCA db block prevL1Head with
      | .error _ => .error ErrBlockAncestorNotFound
      | .ok chainFork => .ok ⟨some chainFork, false⟩
    else .ok ⟨none, false⟩

/-- `l1BlockProcessor.tryAndInsertBlock(br)`: refuse a stored block, insert the block into the
chain, and store it. -/
def tryAndInsertBlock (db : DB) (block : L1Block) : Except String (BlockIngestionType × DB) :=
  match FetchBlock db block.hash with
  | .ok _ => .error ErrBlockAlreadyProcessed
  | .error err =>
    if err ≠ ErrNotFound then .error ("could not retrieve block. Cause: " ++ err)
    else do
      let ingestionType ← ingestBlock db block
      let db' ← (StoreBlock block ingestionType.ChainFork db).mapError fun err =>
        "1. could not store block. Cause: " ++ err
      pure (ingestionType, db')

/-- `l1BlockProcessor.Process(br)`: insert the block, then store its cross-chain messages
(`storeCrossChainMessages`, whose table is not modelled). A failure of the latter is reported
with the block already stored. -/
def Process (storeCrossChainMessages : L1Block → Except String Unit) (db : DB)
    (block : L1Block) : Except String BlockIngestionType × DB :=
  match tryAndInsertBlock db block with
  | .error err => (.error err, db)
  | .ok (ingestion, db') =>
    if ingestion.PreGenesis then (.ok ingestion, db')
    else
      match storeCrossChainMessages block with
      | .error _ => (.error "failed to process cross chain messages", db')
      | .ok () => (.ok ingestion, db')

/-! ## The canonical-chain invariant -/

/-- What the canonical flags should say. When there is a head: the canonical blocks are the
head's ancestors-or-self through stored blocks, and from the first stored block's height up
to the head's there is exactly one canonical block per height. Every batch whose L1 proof
block is stored has that block's flag. -/
def CanonicalInv (db : DB) : Prop :=
  (∀ head, FetchHeadBlock db = .ok head →
    (∀ r ∈ db.blocks, r.isCanonical = true ↔ AncestorOrSelf db.links head r.header) ∧
    ∀ first ∈ db.blocks.head?, ∀ n, first.header.number ≤ n → n ≤ head.number →
      ∃! r, r ∈ db.blocks ∧ r.isCanonical = true ∧ r.header.number = n) ∧
  ∀ br ∈ db.batches, ∀ r ∈ db.blocks, r.header.hash = br.l1Proof → br.isCanonical = r.isCanonical

/-! ## An orphan accepted after the genesis block

The enclave's first block is the L1 genesis block `G` (height 0). The next block, `A` at
height 7, names a parent the enclave never saw. -/

def cxG : L1Block := ⟨1, 0, 0⟩
def cxA : L1Block := ⟨7, 6, 7⟩

/-- Cross-chain messages store without error. -/
def cxStoreMessages (_ : L1Block) : Except String Unit := .ok ()

/-- The database after `Process(G)`: `G` alone, canonical. -/
def cxAfterG : DB := (Process cxStoreMessages DB.empty cxG).2

/-- The database after `Process(G)` then `Process(A)`. -/
def cxRun : DB := (Process cxStoreMessages cxAfterG cxA).2

/-- `G` is not an ancestor-or-self of `A`: `A`'s parent is not stored. -/
theorem cxG_not_ancestor : ¬ AncestorOrSelf cxRun.links cxA cxG := by
  rintro ⟨n, h⟩
  -- `A` ≠ `G`, so the walk must step to `A`'s parent
  cases h with
  | step hp _ =>
    have hmissing : FetchBlock cxRun cxA.parentHash = .error ErrNotFound := by decide
    exact absurd (hp.symm.trans hmissing) (by simp)

/-- **The invariant breaks.** From the empty database `Process(G)` stores `G` as the head and
the invariant holds. `Process(A)` then succeeds too: `LCA(A, G)` stops at once, `G` being at
the genesis height, and reports `A` as its own common ancestor with no fork. `A` becomes the
head while `G` keeps its canonical flag, though it is not an ancestor of `A`. -/
theorem Process_orphanAfterGenesis :
    (Process cxStoreMessages DB.empty cxG).1 = .ok ⟨none, true⟩ ∧ CanonicalInv cxAfterG ∧
      (Process cxStoreMessages cxAfterG cxA).1 = .ok ⟨some ⟨cxA, cxG, cxA, [], []⟩, false⟩ ∧
      ¬ CanonicalInv cxRun := by
  have hG : cxAfterG = ⟨[⟨cxG, true⟩], []⟩ := by decide
  have hA : cxRun = ⟨[⟨cxG, true⟩, ⟨cxA, true⟩], []⟩ := by decide
  refine ⟨by decide, ?_, by decide, ?_⟩
  · -- `G` alone: it is the head, its own ancestor, and the only block of its height
    have hhead : FetchHeadBlock cxAfterG = .ok cxG := by decide
    refine ⟨fun head hh => ?_, by simp [hG]⟩
    obtain rfl : head = cxG := by simpa [hhead] using hh.symm
    refine ⟨fun r hr => ?_, fun first hfirst n hlo hhi => ?_⟩
    · rw [hG, List.mem_singleton] at hr
      subst hr
      exact ⟨fun _ => ⟨0, .refl _⟩, fun _ => rfl⟩
    · rw [hG] at hfirst
      obtain rfl : first = ⟨cxG, true⟩ := by simpa using hfirst.symm
      obtain rfl : n = 0 := by simp [cxG] at hlo hhi; omega
      refine ⟨⟨cxG, true⟩, ⟨by simp [hG], rfl, rfl⟩, ?_⟩
      rintro r ⟨hr, -, -⟩
      simpa [hG] using hr
  · -- the head is `A`, and `G` is canonical without being its ancestor
    rintro ⟨hinv, -⟩
    have hhead : FetchHeadBlock cxRun = .ok cxA := by decide
    have hGmem : (⟨cxG, true⟩ : BlockRow) ∈ cxRun.blocks := by simp [hA]
    exact cxG_not_ancestor (((hinv cxA hhead).1 _ hGmem).mp rfl)

end Obscuro.BlockProcessor
