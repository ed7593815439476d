import Obscuro.Enclave.ChainFork

/-!
# The canonical chain over every run of block ingestion

`l1BlockProcessor.Process` (`go/enclave/components/block_processor.go`) with
`storageImpl.StoreBlock` (`go/enclave/storage/storage.go`), and the batch inserts of
`enclavedb.WriteBatchAndTransactions`, keep the enclave's `block` and `batch` tables. A block
joins as the first block, as a child of the head, or as the tip of a fork: `LCA` walks back from
the block and the head to their common ancestor, and `StoreBlock` clears the flags of the head's
side and sets those of the block's.

What the L1 guarantees of the blocks the host submits enters as one assumption, `Consistent`:
a block is above the L1 genesis height and below `2^64`, is not its own parent, and is one above
a stored block it names as parent and one below a stored block that names it. The genesis
height matters: `Process_orphanAfterGenesis` is what happens at height `0`.

The invariant, `Inv`: the block table is a tree rooted at its first row (`Tree`); the flags
say "ancestor-or-self of the head" (`Follows`) for a head that no stored block descends from
(`Leaf`); and every batch has the flag of its L1 proof block (`BatchFlags`). `CanonicalInv`
follows from it (`Inv.canonicalInv`).

Results:

* `LCA_join` — for a block not stored yet whose parent is, `LCA` against the head returns the
  parent's walk and the head's walk down to their deepest common ancestor;
* `Inv.of_tryAndInsertBlock_eq_ok` — inserting a consistent block keeps the invariant, and the
  flags then follow the new block;
* `Process_head` — when `Process` reports success, the new block is the head;
* `Process_orphan` — a block whose parent is not stored is refused, and the tables are left
  as they were;
* `runCalls_canonicalInv` — over every sequence of submitted blocks and stored batches from
  the empty tables, on blocks above the genesis height each one above the delivered block it
  names as parent, the canonical flags are what `CanonicalInv` says.
-/

namespace Obscuro.BlockProcessor

open EnclaveDB ParentWalk

/-! ## Rows and fetches -/

/-- `FetchBlock` reads the headers only, in table order. -/
theorem FetchBlock_eq_find (db : DB) (hash : L1BlockHash) :
    FetchBlock db hash =
      match (db.blocks.map (·.header)).find? (·.hash = hash) with
      | some b => .ok b
      | none => .error ErrNotFound := by
  unfold FetchBlock
  rw [List.find?_map, Function.comp_def]
  cases db.blocks.find? (fun r => decide (r.header.hash = hash)) <;> rfl

/-- Two tables with the same headers in the same order fetch alike. -/
theorem FetchBlock_congr_headers {db₁ db₂ : DB}
    (h : db₁.blocks.map (·.header) = db₂.blocks.map (·.header)) :
    FetchBlock db₁ = FetchBlock db₂ := by
  funext hash
  rw [FetchBlock_eq_find, FetchBlock_eq_find, h]

theorem heightLinks_congr_headers {db₁ db₂ : DB}
    (h : db₁.blocks.map (·.header) = db₂.blocks.map (·.header)) :
    heightLinks db₁ = heightLinks db₂ := by
  rw [heightLinks, heightLinks, FetchBlock_congr_headers h]

/-- With one row per hash, a row is what its hash fetches. -/
theorem FetchBlock_of_mem {db : DB} (hnodup : (db.blocks.map (·.header.hash)).Nodup)
    {r : BlockRow} (hr : r ∈ db.blocks) : FetchBlock db r.header.hash = .ok r.header := by
  unfold FetchBlock
  cases hfind : db.blocks.find? (fun r' => decide (r'.header.hash = r.header.hash)) with
  | none =>
    rw [List.find?_eq_none] at hfind
    exact absurd (decide_eq_true rfl) (hfind r hr)
  | some r' =>
    have hr' := List.mem_of_find?_eq_some hfind
    have hhash : r'.header.hash = r.header.hash := by
      simpa using List.find?_some hfind
    rw [List.inj_on_of_nodup_map hnodup hr' hr hhash]

/-- The code's height of a block below `2^64` is its number. -/
theorem height_eq_number {b : L1Block} (h : b.number < 2 ^ 64) : height b = b.number := by
  simp only [height, L1Block.NumberU64, UInt64.toNat_ofNat']
  exact Nat.mod_eq_of_lt h

/-! ## Flags -/

/-- The flag `UpdateCanonicalBlocks canonical nonCanonical` leaves on a row whose key (a
block's hash, a batch's L1 proof) is `k`: set on the canonical path, cleared on the
non-canonical one, kept elsewhere. The paths are tested as the SQL `IN` tests them, with a
Boolean `contains`. -/
def flagAfter (canonical nonCanonical : List L1BlockHash) (k : L1BlockHash) (flag : Bool) :
    Bool :=
  if canonical.contains k then true else if nonCanonical.contains k then false else flag

/-- The flag by membership in the two paths. -/
theorem flagAfter_eq (canonical nonCanonical : List L1BlockHash) (k : L1BlockHash) (flag : Bool) :
    flagAfter canonical nonCanonical k flag =
      if k ∈ canonical then true else if k ∈ nonCanonical then false else flag := by
  simp [flagAfter]

@[simp] theorem flagAfter_nil (k : L1BlockHash) (flag : Bool) : flagAfter [] [] k flag = flag := by
  simp [flagAfter]

/-- Two tables whose rows are rewritten row by row agree when the rewrites agree on every
row. -/
theorem DB.map_congr {blocks : List BlockRow} {batches : List BatchRow}
    {f g : BlockRow → BlockRow} {f' g' : BatchRow → BatchRow} (hblocks : ∀ r ∈ blocks, f r = g r)
    (hbatches : ∀ r ∈ batches, f' r = g' r) :
    ({ blocks := blocks.map f, batches := batches.map f' } : DB) =
      { blocks := blocks.map g, batches := batches.map g' } := by
  rw [List.map_congr_left hblocks, List.map_congr_left hbatches]

/-- One statement of `updateCanonicalValue`, row by row. -/
theorem updateCanonicalValue_eq (isCanonical : Bool) (values : List L1BlockHash) (db : DB) :
    updateCanonicalValue isCanonical values db =
      { blocks := db.blocks.map fun r =>
          { r with isCanonical := if r.header.hash ∈ values then isCanonical else r.isCanonical }
        batches := db.batches.map fun r =>
          { r with
            isCanonical := if r.l1Proof ∈ values then isCanonical else r.isCanonical } } := by
  unfold updateCanonicalValue
  refine DB.map_congr (fun r _ => ?_) (fun r _ => ?_) <;> split <;> rfl

theorem UpdateCanonicalBlocks_eq (canonical nonCanonical : List L1BlockHash) (db : DB) :
    UpdateCanonicalBlocks canonical nonCanonical db =
      { blocks := db.blocks.map fun r =>
          { r with isCanonical := flagAfter canonical nonCanonical r.header.hash r.isCanonical }
        batches := db.batches.map fun r =>
          { r with isCanonical := flagAfter canonical nonCanonical r.l1Proof r.isCanonical } } := by
  unfold UpdateCanonicalBlocks
  -- an empty path writes nothing, and `flagAfter` reads nothing from it
  by_cases hn : nonCanonical = [] <;> by_cases hc : canonical = []
  · subst hn hc
    simp
  all_goals
    simp only [hn, hc, ne_eq, not_true_eq_false, not_false_eq_true, if_true, if_false,
      updateCanonicalValue_eq, List.map_map]
    -- row by row, the two writes compose to `flagAfter`
    refine DB.map_congr (fun r _ => ?_) (fun r _ => ?_) <;> simp [flagAfter_eq]

/-- Setting one more hash after a flip is the flip with that hash on the canonical side. -/
theorem UpdateCanonicalBlocks_UpdateCanonicalBlocks (b : L1BlockHash)
    (canonical nonCanonical : List L1BlockHash) (db : DB) :
    UpdateCanonicalBlocks [b] [] (UpdateCanonicalBlocks canonical nonCanonical db) =
      UpdateCanonicalBlocks (b :: canonical) nonCanonical db := by
  simp only [UpdateCanonicalBlocks_eq, List.map_map]
  refine DB.map_congr (fun r _ => ?_) (fun r _ => ?_)
  · by_cases hk : r.header.hash = b <;> simp [flagAfter_eq, hk]
  · by_cases hk : r.l1Proof = b <;> simp [flagAfter_eq, hk]

/-- The flips leave every header where it was. -/
@[simp] theorem headers_UpdateCanonicalBlocks (canonical nonCanonical : List L1BlockHash)
    (db : DB) :
    (UpdateCanonicalBlocks canonical nonCanonical db).blocks.map (·.header) =
      db.blocks.map (·.header) := by
  simp [UpdateCanonicalBlocks_eq, Function.comp_def]

/-! ## Inserting a block -/

/-- The tables `StoreBlock` leaves: the flags of the block and of `canonical` set, those of
`nonCanonical` cleared, and the block appended as canonical. -/
def insertBlock (b : L1Block) (canonical nonCanonical : List L1BlockHash) (db : DB) : DB :=
  let db := UpdateCanonicalBlocks (b.hash :: canonical) nonCanonical db
  { db with blocks := db.blocks ++ [⟨b, true⟩] }

theorem insertBlock_blocks (b : L1Block) (canonical nonCanonical : List L1BlockHash) (db : DB) :
    (insertBlock b canonical nonCanonical db).blocks =
      db.blocks.map (fun r => { r with
        isCanonical := flagAfter (b.hash :: canonical) nonCanonical r.header.hash r.isCanonical })
        ++ [⟨b, true⟩] := by
  simp [insertBlock, UpdateCanonicalBlocks_eq]

theorem insertBlock_batches (b : L1Block) (canonical nonCanonical : List L1BlockHash) (db : DB) :
    (insertBlock b canonical nonCanonical db).batches =
      db.batches.map fun r => { r with
        isCanonical := flagAfter (b.hash :: canonical) nonCanonical r.l1Proof r.isCanonical } := by
  simp [insertBlock, UpdateCanonicalBlocks_eq]

theorem insertBlock_headers (b : L1Block) (canonical nonCanonical : List L1BlockHash) (db : DB) :
    (insertBlock b canonical nonCanonical db).blocks.map (·.header) =
      db.blocks.map (·.header) ++ [b] := by
  simp [insertBlock_blocks, Function.comp_def]

/-- No row of the table has this hash. -/
theorem fresh_of_FetchBlock_error {db : DB} {hash : L1BlockHash} {err : String}
    (h : FetchBlock db hash = .error err) : ∀ r ∈ db.blocks, r.header.hash ≠ hash := by
  unfold FetchBlock at h
  split at h
  · cases h
  · rename_i hfind
    intro r hr
    simpa using List.find?_eq_none.mp hfind r hr

/-- `WriteBlock` of a block whose hash no row has appends it. -/
theorem WriteBlock_fresh {db : DB} {b : L1Block}
    (hfresh : ∀ r ∈ db.blocks, r.header.hash ≠ b.hash) :
    WriteBlock b db = .ok { db with blocks := db.blocks ++ [⟨b, true⟩] } := by
  have hany : db.blocks.any (·.header.hash = b.hash) = false := by
    simpa using hfresh
  simp [WriteBlock, hany]

/-- The flips keep a hash fresh. -/
theorem fresh_UpdateCanonicalBlocks {db : DB} {b : L1Block}
    (hfresh : ∀ r ∈ db.blocks, r.header.hash ≠ b.hash)
    (canonical nonCanonical : List L1BlockHash) :
    ∀ r ∈ (UpdateCanonicalBlocks canonical nonCanonical db).blocks,
      r.header.hash ≠ b.hash := by
  intro r hr
  have hmem : r.header ∈ db.blocks.map (·.header) := by
    rw [← headers_UpdateCanonicalBlocks canonical nonCanonical]
    exact List.mem_map_of_mem hr
  obtain ⟨r₀, hr₀, heq⟩ := List.mem_map.mp hmem
  rw [← heq]
  exact hfresh r₀ hr₀

/-- **A block with no parent to flip.** `StoreBlock` without a fork sets the block's own hash
(the batches that name it) and appends it. -/
theorem StoreBlock_none {db : DB} {b : L1Block}
    (hfresh : ∀ r ∈ db.blocks, r.header.hash ≠ b.hash) :
    StoreBlock b none db = .ok (insertBlock b [] [] db) := by
  simp only [StoreBlock]
  rw [WriteBlock_fresh (fresh_UpdateCanonicalBlocks hfresh _ _)]
  rfl

/-- **A fork.** `StoreBlock` on a fork flips both paths, sets the block's own hash, and appends
the block. -/
theorem StoreBlock_fork {db : DB} {b : L1Block} {cf : ChainFork}
    (hfresh : ∀ r ∈ db.blocks, r.header.hash ≠ b.hash) (hfork : cf.IsFork = true) :
    StoreBlock b (some cf) db = .ok (insertBlock b cf.CanonicalPath cf.NonCanonicalPath db) := by
  simp only [StoreBlock, hfork, if_true]
  rw [WriteBlock_fresh (fresh_UpdateCanonicalBlocks (fresh_UpdateCanonicalBlocks hfresh _ _) _ _),
    UpdateCanonicalBlocks_UpdateCanonicalBlocks]
  rfl

/-! ## A table with one more block

`db'` has the headers of `db` and then `B`, whose hash no row of `db` has. A block stored in
`db` whose parent is not `B` has the same parent in `db'`, so the walks from the blocks of
`db` are the same in both. -/

section Snoc

variable {db db' : DB} {B : L1Block}

theorem FetchBlock_snoc_of_ne
    (hheaders : db'.blocks.map (·.header) = db.blocks.map (·.header) ++ [B])
    {hash : L1BlockHash} (hne : hash ≠ B.hash) : FetchBlock db' hash = FetchBlock db hash := by
  rw [FetchBlock_eq_find, FetchBlock_eq_find, hheaders, List.find?_append]
  have hB : [B].find? (·.hash = hash) = none := by
    simp [Ne.symm hne]
  rw [hB, Option.or_none]

theorem FetchBlock_snoc_self
    (hheaders : db'.blocks.map (·.header) = db.blocks.map (·.header) ++ [B])
    (hfresh : ∀ r ∈ db.blocks, r.header.hash ≠ B.hash) : FetchBlock db' B.hash = .ok B := by
  rw [FetchBlock_eq_find, hheaders, List.find?_append]
  have hdb : (db.blocks.map (·.header)).find? (·.hash = B.hash) = none := by
    rw [List.find?_eq_none]
    simpa using hfresh
  simp [hdb]

/-- A fresh hash fetches nothing. -/
theorem FetchBlock_fresh (hfresh : ∀ r ∈ db.blocks, r.header.hash ≠ B.hash) (p : L1Block) :
    FetchBlock db B.hash ≠ .ok p := by
  intro h
  obtain ⟨r, hr, rfl⟩ := FetchBlock_mem h
  exact hfresh r hr (FetchBlock_hash h)

theorem not_isStored_of_fresh (hfresh : ∀ r ∈ db.blocks, r.header.hash ≠ B.hash) :
    ¬ IsStored (heightLinks db) B := by
  intro hB
  exact FetchBlock_fresh hfresh B (FetchBlock_of_isStored hB)

theorem isStored_snoc_iff (hheaders : db'.blocks.map (·.header) = db.blocks.map (·.header) ++ [B])
    (hfresh : ∀ r ∈ db.blocks, r.header.hash ≠ B.hash) {x : L1Block} :
    IsStored (heightLinks db') x ↔ IsStored (heightLinks db) x ∨ x = B := by
  constructor
  · rintro ⟨hash, hx⟩
    change FetchBlock db' hash = .ok x at hx
    by_cases hB : hash = B.hash
    · rw [hB, FetchBlock_snoc_self hheaders hfresh] at hx
      cases hx
      exact .inr rfl
    · rw [FetchBlock_snoc_of_ne hheaders hB] at hx
      exact .inl ⟨hash, hx⟩
  · rintro (hx | rfl)
    · -- the hash of a block of `db` is not `B`'s
      have hne : x.hash ≠ B.hash := fun h =>
        FetchBlock_fresh hfresh x (h ▸ FetchBlock_of_isStored hx)
      exact ⟨x.hash, (FetchBlock_snoc_of_ne hheaders hne).trans (FetchBlock_of_isStored hx)⟩
    · exact ⟨_, FetchBlock_snoc_self hheaders hfresh⟩

section Transfer

variable (hheaders : db'.blocks.map (·.header) = db.blocks.map (·.header) ++ [B])
  (hnoChild : ∀ r ∈ db.blocks, r.header.parentHash ≠ B.hash)
include hheaders hnoChild

theorem fetch_parent_snoc {x : L1Block} (hx : IsStored (heightLinks db) x) :
    FetchBlock db' x.parentHash = FetchBlock db x.parentHash := by
  obtain ⟨r, hr, rfl⟩ := FetchBlock_mem hx.choose_spec
  exact FetchBlock_snoc_of_ne hheaders (hnoChild r hr)

/-- The two tables agree on the parents of the blocks of `db`, as `ParentWalk`'s congruences
take it. -/
theorem heightLinks_snoc_parent :
    (heightLinks db').parent = (heightLinks db).parent ∧
      ∀ x, IsStored (heightLinks db) x →
        (heightLinks db').fetch ((heightLinks db).parent x) =
          (heightLinks db).fetch ((heightLinks db).parent x) :=
  ⟨rfl, fun _ hx => fetch_parent_snoc hheaders hnoChild hx⟩

theorem ancestorOrSelf_snoc {x a : L1Block} (hx : IsStored (heightLinks db) x) :
    AncestorOrSelf (heightLinks db') x a ↔ AncestorOrSelf (heightLinks db) x a :=
  AncestorOrSelf.congr (heightLinks_snoc_parent hheaders hnoChild).1
    (heightLinks_snoc_parent hheaders hnoChild).2 hx

theorem segment_snoc {x a : L1Block} {bs : List L1Block} (hx : IsStored (heightLinks db) x) :
    Segment (heightLinks db') x bs a ↔ Segment (heightLinks db) x bs a :=
  Segment.congr (heightLinks_snoc_parent hheaders hnoChild).1
    (heightLinks_snoc_parent hheaders hnoChild).2 hx

theorem deepestCommonAncestor_snoc {x y a : L1Block} (hx : IsStored (heightLinks db) x)
    (hy : IsStored (heightLinks db) y) :
    DeepestCommonAncestor (heightLinks db') x y a ↔
      DeepestCommonAncestor (heightLinks db) x y a :=
  DeepestCommonAncestor.congr (heightLinks_snoc_parent hheaders hnoChild).1
    (heightLinks_snoc_parent hheaders hnoChild).2 rfl hx hy

/-- The new block is well placed when its parent, if stored, is one height below it. -/
theorem wellFormed_snoc (hfresh : ∀ r ∈ db.blocks, r.header.hash ≠ B.hash)
    (hwf : WellFormed (heightLinks db)) (hself : B.parentHash ≠ B.hash)
    (hB : ∀ p, FetchBlock db B.parentHash = .ok p → height p + 1 = height B) :
    WellFormed (heightLinks db') := by
  intro hash b p hb hp
  change FetchBlock db' hash = .ok b at hb
  change FetchBlock db' b.parentHash = .ok p at hp
  rcases (isStored_snoc_iff hheaders hfresh).mp ⟨hash, hb⟩ with hb' | rfl
  · rw [fetch_parent_snoc hheaders hnoChild hb'] at hp
    exact hwf (FetchBlock_of_isStored hb') hp
  · rw [FetchBlock_snoc_of_ne hheaders hself] at hp
    exact hB p hp

/-- No block of `db` descends from the new block. -/
theorem leaf_snoc (hfresh : ∀ r ∈ db.blocks, r.header.hash ≠ B.hash) {x : L1Block}
    (hx : IsStored (heightLinks db') x) (hxB : AncestorOrSelf (heightLinks db') x B) : x = B := by
  rcases (isStored_snoc_iff hheaders hfresh).mp hx with hx | rfl
  · have hB := ((ancestorOrSelf_snoc hheaders hnoChild hx).mp hxB).isStored hx
    exact absurd hB (not_isStored_of_fresh hfresh)
  · rfl

/-- The ancestors-or-self of the new block are itself and its parent's. -/
theorem ancestorOrSelf_snoc_new {P : L1Block}
    (hfresh : ∀ r ∈ db.blocks, r.header.hash ≠ B.hash)
    (hself : B.parentHash ≠ B.hash) (hP : FetchBlock db B.parentHash = .ok P) {x : L1Block} :
    AncestorOrSelf (heightLinks db') B x ↔ x = B ∨ AncestorOrSelf (heightLinks db) P x := by
  have hBP : FetchBlock db' B.parentHash = .ok P := (FetchBlock_snoc_of_ne hheaders hself).trans hP
  have hPstored : IsStored (heightLinks db) P := ⟨_, hP⟩
  rw [← ancestorOrSelf_snoc hheaders hnoChild hPstored]
  constructor
  · exact AncestorOrSelf.eq_or_of_parent hBP
  · rintro (rfl | hx)
    · exact .refl x
    · exact hx.of_parent hBP

end Transfer

end Snoc

/-! ## The walk against a table with one more block -/

/-- **The walk reads the parents of the blocks it stands on.** A table that answers those
parents as `db'` does walks as `db'` does. -/
theorem internalLCA_congr {db db' : DB}
    (hfetch : ∀ x, IsStored (heightLinks db') x →
      FetchBlock db x.parentHash = FetchBlock db' x.parentHash) :
    ∀ (fuel : Nat) (x y : L1Block) (cp ncp : List L1BlockHash),
      IsStored (heightLinks db') x → IsStored (heightLinks db') y →
        internalLCA db fuel x y cp ncp = internalLCA db' fuel x y cp ncp
  | 0, _, _, _, _, _, _ => rfl
  | fuel + 1, x, y, cp, ncp, hx, hy => by
    rw [internalLCA, internalLCA, hfetch x hx, hfetch y hy]
    -- the branches now differ only in the table their recursive call walks, from fetched blocks
    split_ifs
    · rfl
    · rfl
    · cases hp : FetchBlock db' x.parentHash with
      | error err => rfl
      | ok p => exact internalLCA_congr hfetch fuel p y _ _ ⟨_, hp⟩ hy
    · cases hq : FetchBlock db' y.parentHash with
      | error err => rfl
      | ok q => exact internalLCA_congr hfetch fuel x q _ _ hx ⟨_, hq⟩
    · cases hp : FetchBlock db' x.parentHash with
      | error err => rfl
      | ok p =>
        cases hq : FetchBlock db' y.parentHash with
        | error err => rfl
        | ok q => exact internalLCA_congr hfetch fuel p q _ _ ⟨_, hp⟩ ⟨_, hq⟩

/-- The old head's path, its own hash first, without the common ancestor at its end. -/
theorem dropLast_path {db : DB} {y a : L1Block} {bs : List L1Block}
    (h : Segment (heightLinks db) y bs a) :
    ([y.hash] ++ (bs ++ [a]).tail.map L1Block.hash).dropLast = bs.map L1Block.hash := by
  have hpath : [y.hash] ++ (bs ++ [a]).tail.map L1Block.hash = (bs ++ [a]).map L1Block.hash := by
    rw [h.append_singleton]
    rfl
  rw [hpath, List.map_append, List.map_singleton, List.dropLast_concat]

/-! ## The blocks the L1 submits, and the block table -/

/-- What the L1 guarantees of a block the host submits, against the stored blocks: it is above
the genesis height and below `2^64`, it is not its own parent, it is one above a stored block
it names as parent, and one below a stored block that names it. -/
structure Consistent (db : DB) (B : L1Block) : Prop where
  bounded : L1GenesisHeight < B.number ∧ B.number < 2 ^ 64
  self : B.parentHash ≠ B.hash
  parent : ∀ r ∈ db.blocks, r.header.hash = B.parentHash → B.number = r.header.number + 1
  child : ∀ r ∈ db.blocks, r.header.parentHash = B.hash → r.header.number = B.number + 1

theorem Consistent.parent_number {db : DB} {B P : L1Block} (hcons : Consistent db B)
    (hP : FetchBlock db B.parentHash = .ok P) : B.number = P.number + 1 := by
  obtain ⟨r, hr, rfl⟩ := FetchBlock_mem hP
  exact hcons.parent r hr (FetchBlock_hash hP)

/-- The block table is one tree of blocks above the genesis height, one row per hash, rooted
at its first row. -/
structure Tree (db : DB) : Prop where
  nodup : (db.blocks.map (·.header.hash)).Nodup
  bounded : ∀ r ∈ db.blocks, L1GenesisHeight < r.header.number ∧ r.header.number < 2 ^ 64
  wf : WellFormed (heightLinks db)
  rooted : ∀ first ∈ db.blocks.head?, ∀ r ∈ db.blocks,
    AncestorOrSelf (heightLinks db) r.header first.header

theorem Tree.height_eq {db : DB} (ht : Tree db) {x : L1Block} (hx : IsStored (heightLinks db) x) :
    height x = x.number := by
  obtain ⟨r, hr, rfl⟩ := FetchBlock_mem hx.choose_spec
  exact height_eq_number (ht.bounded r hr).2

theorem Tree.height_pos {db : DB} (ht : Tree db) {x : L1Block} (hx : IsStored (heightLinks db) x) :
    0 < height x := by
  obtain ⟨r, hr, rfl⟩ := FetchBlock_mem hx.choose_spec
  rw [height_eq_number (ht.bounded r hr).2]
  exact (ht.bounded r hr).1

/-- **No stored block names a new block with a stored parent.** Such a child would have no
stored parent, so it would be the first block; yet it is two heights above the new block's
parent, which descends from the first block. -/
theorem Tree.noChild {db : DB} {B P : L1Block} (ht : Tree db) (hcons : Consistent db B)
    (hfresh : ∀ r ∈ db.blocks, r.header.hash ≠ B.hash)
    (hP : FetchBlock db B.parentHash = .ok P) :
    ∀ r ∈ db.blocks, r.header.parentHash ≠ B.hash := by
  intro r hr hchild
  obtain ⟨first, hfirst⟩ : ∃ first, db.blocks.head? = some first := by
    cases h : db.blocks with
    | nil => simp [h] at hr
    | cons f _ => exact ⟨f, rfl⟩
  have hrfirst : first.header = r.header := by
    obtain ⟨n, hn⟩ := ht.rooted first hfirst r hr
    rcases n with _ | n
    · exact AncestorAt.zero_iff.mp hn
    · obtain ⟨p, hp, -⟩ := AncestorAt.succ_iff.mp hn
      change FetchBlock db r.header.parentHash = .ok p at hp
      rw [hchild] at hp
      exact absurd hp (FetchBlock_fresh hfresh p)
  have hchildNumber := hcons.child first (List.mem_of_mem_head? hfirst) (hrfirst ▸ hchild)
  have hparentNumber := hcons.parent_number hP
  -- the parent descends from the first block, so it is no lower
  have hPfirst : height first.header ≤ height P := by
    obtain ⟨rP, hrP, hPeq⟩ := FetchBlock_mem hP
    have := (ht.rooted first hfirst rP hrP).number_le ht.wf
      ⟨rP.header.hash, FetchBlock_of_mem ht.nodup hrP⟩
    rw [hPeq] at this
    exact this
  rw [ht.height_eq ⟨_, FetchBlock_of_mem ht.nodup (List.mem_of_mem_head? hfirst)⟩,
    ht.height_eq ⟨_, hP⟩] at hPfirst
  omega

/-- **`LCA` on a block that joins the tree.** For a block not stored yet whose parent `P` is
stored, `LCA` against a stored head `H` returns the walk from `P` and the walk from `H` down to
their deepest common ancestor: the walk of `internalLCA` is that of the table with the block
stored, where `Meeting` holds from the start. -/
theorem LCA_join {db : DB} {B P H A : L1Block} {bsP bsH : List L1Block} (ht : Tree db)
    (hcons : Consistent db B) (hfresh : ∀ r ∈ db.blocks, r.header.hash ≠ B.hash)
    (hP : FetchBlock db B.parentHash = .ok P) (hH : IsStored (heightLinks db) H)
    (hdeep : DeepestCommonAncestor (heightLinks db) P H A)
    (hsegP : Segment (heightLinks db) P bsP A) (hsegH : Segment (heightLinks db) H bsH A) :
    LCA db B H = .ok ⟨B, H, A, bsP.map L1Block.hash, bsH.map L1Block.hash⟩ := by
  let db₀ : DB := ⟨db.blocks ++ [⟨B, true⟩], db.batches⟩
  have hheaders : db₀.blocks.map (·.header) = db.blocks.map (·.header) ++ [B] := by
    simp [db₀]
  have hnoChild := ht.noChild hcons hfresh hP
  have hPstored : IsStored (heightLinks db) P := ⟨_, hP⟩
  have hBP : FetchBlock db₀ B.parentHash = .ok P :=
    (FetchBlock_snoc_of_ne hheaders hcons.self).trans hP
  have hwf₀ : WellFormed (heightLinks db₀) := by
    refine wellFormed_snoc hheaders hnoChild hfresh ht.wf hcons.self fun p hp => ?_
    rw [ht.height_eq ⟨_, hp⟩, height_eq_number hcons.bounded.2, hcons.parent_number hp]
  have hB₀ : IsStored (heightLinks db₀) B := (isStored_snoc_iff hheaders hfresh).mpr (.inr rfl)
  have hH₀ : IsStored (heightLinks db₀) H := (isStored_snoc_iff hheaders hfresh).mpr (.inl hH)
  have hmeet : Meeting db₀ B H A (B :: bsP) bsH := by
    refine ⟨hB₀, hH₀, ?_, .step hBP ((segment_snoc hheaders hnoChild hPstored).mpr hsegP),
      (segment_snoc hheaders hnoChild hH).mpr hsegH, .inl ⟨?_, ht.height_pos hH⟩⟩
    · -- the head does not descend from the new block
      refine DeepestCommonAncestor.of_child hBP
        ((deepestCommonAncestor_snoc hheaders hnoChild hPstored hH).mpr hdeep) fun hHB => ?_
      have hHeq := leaf_snoc hheaders hnoChild hfresh hH₀ hHB
      exact not_isStored_of_fresh hfresh (hHeq ▸ hH)
    · rw [height_eq_number hcons.bounded.2]
      exact hcons.bounded.1
  -- each walk is as long as the height it descends
  have hfuel : (B :: bsP).length + bsH.length < B.number + H.number + 1 := by
    have e1 := hsegP.ancestorAt.number_add ht.wf hPstored
    have e2 := hsegH.ancestorAt.number_add ht.wf hH
    have := hcons.parent_number hP
    change height A + bsP.length = height P at e1
    change height A + bsH.length = height H at e2
    rw [ht.height_eq hPstored] at e1
    rw [ht.height_eq hH] at e2
    simp only [List.length_cons]
    omega
  have hsame : internalLCA db (B.number + H.number + 1) B H [] [H.hash] =
      internalLCA db₀ (B.number + H.number + 1) B H [] [H.hash] := by
    refine internalLCA_congr (fun x hx => ?_) _ B H [] [H.hash] hB₀ hH₀
    -- the walk never asks for the new block as a parent
    have hne : x.parentHash ≠ B.hash := by
      rcases (isStored_snoc_iff hheaders hfresh).mp hx with hx | rfl
      · obtain ⟨r, hr, rfl⟩ := FetchBlock_mem hx.choose_spec
        exact hnoChild r hr
      · exact hcons.self
    exact (FetchBlock_snoc_of_ne hheaders hne).symm
  rw [LCA, hsame, internalLCA_eq hwf₀ _ [] [H.hash] hmeet hfuel]
  simp only [List.nil_append, dropLast_tail_map, List.tail_cons, dropLast_path hsegH]

/-! ## An orphan block -/

/-- **A walk from an orphan fails.** Against stored blocks all above the genesis height, the
walk from a fresh block above it whose parent is not stored never returns: the block cannot
step down, and the stored side never reaches it. -/
theorem internalLCA_orphan {db : DB} {B : L1Block} {err : String}
    (hpos : ∀ y, IsStored (heightLinks db) y → 0 < height y) (hB : 0 < height B)
    (hfresh : ∀ r ∈ db.blocks, r.header.hash ≠ B.hash)
    (horphan : FetchBlock db B.parentHash = .error err) :
    ∀ (fuel : Nat) (y : L1Block) (cp ncp : List L1BlockHash), IsStored (heightLinks db) y →
      ∃ e, internalLCA db fuel B y cp ncp = .error e
  | 0, _, _, _, _ => ⟨_, rfl⟩
  | fuel + 1, y, cp, ncp, hy => by
    have hg : ¬ (B.NumberU64 = UInt64.ofNat L1GenesisHeight ∨
        y.NumberU64 = UInt64.ofNat L1GenesisHeight) := by
      rw [NumberU64_eq_genesis_iff, NumberU64_eq_genesis_iff]
      have := hpos y hy
      omega
    have hh : B.hash ≠ y.hash := fun h =>
      FetchBlock_fresh hfresh y (h ▸ FetchBlock_of_isStored hy)
    rw [internalLCA, if_neg hg, if_neg hh, horphan]
    split_ifs
    · exact ⟨_, rfl⟩
    · -- only the stored side steps
      cases hq : FetchBlock db y.parentHash with
      | error e => exact ⟨_, rfl⟩
      | ok q => exact internalLCA_orphan hpos hB hfresh horphan fuel q _ _ ⟨_, hq⟩
    · exact ⟨_, rfl⟩

/-- `LCA` from an orphan fails, against a head that is stored. -/
theorem LCA_orphan {db : DB} {B H : L1Block} {err : String}
    (hpos : ∀ y, IsStored (heightLinks db) y → 0 < height y) (hB : 0 < height B)
    (hfresh : ∀ r ∈ db.blocks, r.header.hash ≠ B.hash)
    (horphan : FetchBlock db B.parentHash = .error err) (hH : IsStored (heightLinks db) H) :
    ∃ e, LCA db B H = .error e := by
  obtain ⟨e, he⟩ := internalLCA_orphan hpos hB hfresh horphan _ H [] [H.hash] hH
  exact ⟨e, by rw [LCA, he]⟩

/-! ## The invariant -/

/-- The flags say "ancestor-or-self of `head`". -/
def Follows (db : DB) (head : L1Block) : Prop :=
  ∀ r ∈ db.blocks, r.isCanonical = true ↔ AncestorOrSelf (heightLinks db) head r.header

/-- No stored block descends from `head` but `head` itself. -/
def Leaf (db : DB) (head : L1Block) : Prop :=
  ∀ x, IsStored (heightLinks db) x → AncestorOrSelf (heightLinks db) x head → x = head

/-- Every batch has the flag of its L1 proof block. -/
def BatchFlags (db : DB) : Prop :=
  ∀ br ∈ db.batches, ∀ r ∈ db.blocks, r.header.hash = br.l1Proof →
    br.isCanonical = r.isCanonical

/-- The enclave's tables between two calls: a tree of blocks, empty or with flags that follow a
head from which nothing descends, and batches flagged as their L1 proof blocks. -/
structure Inv (db : DB) : Prop where
  tree : Tree db
  head : db.blocks = [] ∨ ∃ h, IsStored (heightLinks db) h ∧ Follows db h ∧ Leaf db h
  batches : BatchFlags db

theorem Inv.empty : Inv DB.empty := by
  refine ⟨⟨List.nodup_nil, by simp [DB.empty], ?_, by simp [DB.empty]⟩, .inl rfl,
    by simp [BatchFlags, DB.empty]⟩
  intro hash b p hb
  simp [heightLinks, FetchBlock, DB.empty] at hb

/-! ### The head -/

/-- `FetchHeadBlock` returns `H` when its row is canonical, no canonical row is higher, and
none other is as high. -/
theorem FetchHeadBlock_of_max {db : DB} {H : L1Block} {rH : BlockRow} (hrH : rH ∈ db.blocks)
    (hcanon : rH.isCanonical = true) (hheader : rH.header = H)
    (hmax : ∀ r ∈ db.blocks, r.isCanonical = true →
      r.header.number ≤ H.number ∧ (r.header.number = H.number → r.header = H)) :
    FetchHeadBlock db = .ok H := by
  have hHmem : rH ∈ db.blocks.filter (·.isCanonical) := List.mem_filter.mpr ⟨hrH, hcanon⟩
  have hmax? : ((db.blocks.filter (·.isCanonical)).map (·.header.number)).max? =
      some H.number := by
    rw [List.max?_eq_some_iff]
    refine ⟨List.mem_map.mpr ⟨rH, hHmem, by rw [hheader]⟩, fun n hn => ?_⟩
    obtain ⟨r, hr, rfl⟩ := List.mem_map.mp hn
    obtain ⟨hr, hc⟩ := List.mem_filter.mp hr
    exact (hmax r hr hc).1
  unfold FetchHeadBlock
  simp only [hmax?]
  -- the first canonical row at that height is `H`'s
  split
  · rename_i r hfind
    obtain ⟨hr, hc⟩ := List.mem_filter.mp (List.mem_of_find?_eq_some hfind)
    have hnum : r.header.number = H.number := by simpa using List.find?_some hfind
    rw [(hmax r hr hc).2 hnum]
  · rename_i hfind
    exact absurd (List.find?_eq_none.mp hfind rH hHmem) (by simp [hheader])

/-- A stored block is a row of the table. -/
theorem Tree.isStored_of_mem {db : DB} (ht : Tree db) {r : BlockRow} (hr : r ∈ db.blocks) :
    IsStored (heightLinks db) r.header :=
  ⟨_, FetchBlock_of_mem ht.nodup hr⟩

/-- Two rows with one header are one row. -/
theorem Tree.row_eq {db : DB} (ht : Tree db) {r r' : BlockRow} (hr : r ∈ db.blocks)
    (hr' : r' ∈ db.blocks) (h : r.header = r'.header) : r = r' :=
  List.inj_on_of_nodup_map ht.nodup hr hr' (congrArg L1Block.hash h)

/-- Every stored block descends from the first row. -/
theorem Tree.rooted_of_isStored {db : DB} (ht : Tree db) {first : BlockRow}
    (hfirst : first ∈ db.blocks.head?) {x : L1Block} (hx : IsStored (heightLinks db) x) :
    AncestorOrSelf (heightLinks db) x first.header := by
  obtain ⟨r, hr, rfl⟩ := FetchBlock_mem hx.choose_spec
  exact ht.rooted first hfirst r hr

/-- The head the flags follow is what `FetchHeadBlock` returns: its ancestors are lower. -/
theorem Tree.FetchHeadBlock_eq {db : DB} {H : L1Block} (ht : Tree db)
    (hH : IsStored (heightLinks db) H) (hf : Follows db H) : FetchHeadBlock db = .ok H := by
  obtain ⟨rH, hrH, hheader⟩ := FetchBlock_mem hH.choose_spec
  have hHcanon : rH.isCanonical = true := (hf rH hrH).mpr (by rw [hheader]; exact .refl H)
  refine FetchHeadBlock_of_max hrH hHcanon hheader fun r hr hc => ?_
  have hanc := (hf r hr).mp hc
  have hrs := ht.isStored_of_mem hr
  have hle : height r.header ≤ height H := hanc.number_le ht.wf hH
  rw [ht.height_eq hrs, ht.height_eq hH] at hle
  refine ⟨hle, fun heq => ?_⟩
  exact AncestorOrSelf.eq_of_number ht.wf hH hanc (.refl H)
    (by change height r.header = height H; rw [ht.height_eq hrs, ht.height_eq hH, heq])

/-- From the first row's height to the head's, the head has one canonical row per height. -/
theorem Tree.canonical_at {db : DB} {H : L1Block} (ht : Tree db)
    (hH : IsStored (heightLinks db) H) (hf : Follows db H) {first : BlockRow}
    (hfirst : first ∈ db.blocks.head?) (n : Nat) (hlo : first.header.number ≤ n)
    (hhi : n ≤ H.number) :
    ∃! r, r ∈ db.blocks ∧ r.isCanonical = true ∧ r.header.number = n := by
  -- the head's walk down to the first row passes every height in between
  obtain ⟨k, hk⟩ := ht.rooted_of_isStored hfirst hH
  have hFstored := ht.isStored_of_mem (List.mem_of_mem_head? hfirst)
  have hkn : height first.header + k = height H := hk.number_add ht.wf hH
  rw [ht.height_eq hFstored, ht.height_eq hH] at hkn
  obtain ⟨c, hc, -⟩ := hk.split (show H.number - n ≤ k by omega)
  have hcstored : IsStored (heightLinks db) c := AncestorOrSelf.isStored ⟨_, hc⟩ hH
  have hcn : height c + (H.number - n) = height H := hc.number_add ht.wf hH
  rw [ht.height_eq hcstored, ht.height_eq hH] at hcn
  obtain ⟨r, hr, rfl⟩ := FetchBlock_mem hcstored.choose_spec
  refine ⟨r, ⟨hr, (hf r hr).mpr ⟨_, hc⟩, by omega⟩, ?_⟩
  -- two canonical rows of one height are ancestors-or-self of the head of one height
  rintro r' ⟨hr', hc', hn'⟩
  have hr's := ht.isStored_of_mem hr'
  refine ht.row_eq hr' hr (AncestorOrSelf.eq_of_number ht.wf hH ((hf r' hr').mp hc') ⟨_, hc⟩ ?_)
  change height r'.header = height r.header
  rw [ht.height_eq hr's, ht.height_eq hcstored]
  omega

/-- In the code's `db.links`, with the block numbers, the walks are the same. -/
theorem links_ancestorOrSelf_iff {db : DB} {b a : L1Block} (hb : IsStored (heightLinks db) b) :
    AncestorOrSelf db.links b a ↔ AncestorOrSelf (heightLinks db) b a := by
  have hparent : db.links.parent = (heightLinks db).parent := rfl
  have hfetch : ∀ x, IsStored (heightLinks db) x →
      db.links.fetch ((heightLinks db).parent x) =
        (heightLinks db).fetch ((heightLinks db).parent x) :=
    fun _ _ => rfl
  exact AncestorOrSelf.congr hparent hfetch hb

/-- **The invariant gives `CanonicalInv`.** -/
theorem Inv.canonicalInv {db : DB} (hinv : Inv db) : CanonicalInv db := by
  refine ⟨fun head hhead => ?_, hinv.batches⟩
  rcases hinv.head with hnil | ⟨H, hH, hf, -⟩
  · have hnone : FetchHeadBlock db = .error ErrNotFound := by
      simp [FetchHeadBlock, hnil]
    rw [hnone] at hhead
    cases hhead
  · have hHead : H = head :=
      Except.ok.inj ((hinv.tree.FetchHeadBlock_eq hH hf).symm.trans hhead)
    subst hHead
    exact ⟨fun r hr => (hf r hr).trans (links_ancestorOrSelf_iff hH).symm,
      fun first hfirst n hlo hhi => hinv.tree.canonical_at hH hf hfirst n hlo hhi⟩

/-! ### Flags after a fork -/

/-- A stored block is on a walk of stored blocks exactly when its hash is. -/
theorem mem_map_hash_iff {db : DB} {x : L1Block} {bs : List L1Block}
    (hx : IsStored (heightLinks db) x) (hbs : ∀ y ∈ bs, IsStored (heightLinks db) y) :
    x.hash ∈ bs.map L1Block.hash ↔ x ∈ bs := by
  constructor
  · intro h
    obtain ⟨y, hy, hyx⟩ := List.mem_map.mp h
    rw [← eq_of_hash_eq (hbs y hy) hx hyx]
    exact hy
  · exact List.mem_map_of_mem

/-- **The flags after a fork.** Take a stored block `x` whose flag says whether it is an
ancestor-or-self of the head `H`. Setting the walk from `P` and clearing the walk from `H`, both
down to their common ancestor `A`, leaves a flag that says whether `x` is an ancestor-or-self of
`P`: below `A` the two agree, and above it each walk holds its own side. -/
theorem flagAfter_fork {db : DB} {P H A x : L1Block} {bsP bsH : List L1Block} {flag : Bool}
    (ht : Tree db) (hP : IsStored (heightLinks db) P) (hH : IsStored (heightLinks db) H)
    (hsegP : Segment (heightLinks db) P bsP A) (hsegH : Segment (heightLinks db) H bsH A)
    (hx : IsStored (heightLinks db) x)
    (hflag : flag = true ↔ AncestorOrSelf (heightLinks db) H x) :
    flagAfter (bsP.map L1Block.hash) (bsH.map L1Block.hash) x.hash flag = true ↔
      AncestorOrSelf (heightLinks db) P x := by
  have hmemP := mem_map_hash_iff hx (hsegP.isStored_of_mem hP)
  have hmemH := mem_map_hash_iff hx (hsegH.isStored_of_mem hH)
  rw [hsegP.ancestorOrSelf_iff]
  rw [hsegH.ancestorOrSelf_iff] at hflag
  rw [flagAfter_eq]
  by_cases h1 : x ∈ bsP
  · simp [hmemP.mpr h1, h1]
  by_cases h2 : x ∈ bsH
  · -- on the head's walk: above the common ancestor, so not below it
    have hA : IsStored (heightLinks db) A := hsegH.ancestorOrSelf.isStored hH
    have hlt := hsegH.number_lt ht.wf hH x h2
    simp only [hmemP, h1, hmemH, h2, if_true, if_false, Bool.false_eq_true, false_or, false_iff]
    intro hAx
    exact absurd (hAx.number_le ht.wf hA) (Nat.not_le.mpr hlt)
  · simp only [hmemP, h1, hmemH, h2, if_false, false_or] at hflag ⊢
    exact hflag

/-! ### Each insertion keeps the invariant -/

theorem flagAfter_cons_of_ne {k b : L1BlockHash} (hne : k ≠ b)
    (canonical nonCanonical : List L1BlockHash) (flag : Bool) :
    flagAfter (b :: canonical) nonCanonical k flag = flagAfter canonical nonCanonical k flag := by
  simp [flagAfter_eq, hne]

section Insert

variable {db : DB} {B : L1Block} {canonical nonCanonical : List L1BlockHash}

/-- The new block joins as the first block, or under a stored parent. -/
def Joins (db : DB) (B : L1Block) : Prop :=
  db.blocks = [] ∨ ∃ P, FetchBlock db B.parentHash = .ok P

theorem Tree.noChild_of_joins (ht : Tree db) (hcons : Consistent db B)
    (hfresh : ∀ r ∈ db.blocks, r.header.hash ≠ B.hash) (hjoin : Joins db B) :
    ∀ r ∈ db.blocks, r.header.parentHash ≠ B.hash := by
  rcases hjoin with hnil | ⟨P, hP⟩
  · simp [hnil]
  · exact ht.noChild hcons hfresh hP

theorem Tree.insert (ht : Tree db) (hcons : Consistent db B)
    (hfresh : ∀ r ∈ db.blocks, r.header.hash ≠ B.hash) (hjoin : Joins db B) :
    Tree (insertBlock B canonical nonCanonical db) := by
  have hheaders := insertBlock_headers B canonical nonCanonical db
  have hnoChild := ht.noChild_of_joins hcons hfresh hjoin
  refine ⟨?_, ?_, ?_, ?_⟩
  · -- one more hash, not among the others
    have hhashes : (insertBlock B canonical nonCanonical db).blocks.map (·.header.hash) =
        db.blocks.map (·.header.hash) ++ [B.hash] := by
      simpa [List.map_map, Function.comp_def] using congrArg (List.map L1Block.hash) hheaders
    rw [hhashes, List.nodup_append]
    refine ⟨ht.nodup, List.nodup_singleton _, fun a ha b hb => ?_⟩
    obtain ⟨r, hr, rfl⟩ := List.mem_map.mp ha
    rw [List.mem_singleton.mp hb]
    exact hfresh r hr
  · intro r hr
    rw [insertBlock_blocks] at hr
    rcases List.mem_append.mp hr with hr | hr
    · obtain ⟨r₀, hr₀, rfl⟩ := List.mem_map.mp hr
      exact ht.bounded r₀ hr₀
    · rw [List.mem_singleton.mp hr]
      exact hcons.bounded
  · refine wellFormed_snoc hheaders hnoChild hfresh ht.wf hcons.self fun p hp => ?_
    rw [ht.height_eq ⟨_, hp⟩, height_eq_number hcons.bounded.2, hcons.parent_number hp]
  · -- the old rows still descend from the first; the new one through its parent
    intro first hfirst r hr
    rw [insertBlock_blocks] at hfirst hr
    rcases hjoin with hnil | ⟨P, hP⟩
    · simp only [hnil, List.map_nil, List.nil_append, List.head?_cons, Option.mem_def,
        Option.some.injEq, List.mem_singleton] at hfirst hr
      rw [hr, ← hfirst]
      exact .refl B
    · obtain ⟨rP, hrP, -⟩ := FetchBlock_mem hP
      obtain ⟨first₀, rest, hdb⟩ : ∃ first₀ rest, db.blocks = first₀ :: rest := by
        cases h : db.blocks with
        | nil => simp [h] at hrP
        | cons f rest => exact ⟨f, rest, rfl⟩
      have hfirst₀ : first₀ ∈ db.blocks.head? := by simp [hdb]
      have hfirstHeader : first.header = first₀.header := by
        simp only [hdb, List.map_cons, List.cons_append, List.head?_cons, Option.mem_def,
          Option.some.injEq] at hfirst
        rw [← hfirst]
      rw [hfirstHeader]
      rcases List.mem_append.mp hr with hr | hr
      · obtain ⟨r₀, hr₀, rfl⟩ := List.mem_map.mp hr
        exact (ancestorOrSelf_snoc hheaders hnoChild (ht.isStored_of_mem hr₀)).mpr
          (ht.rooted first₀ hfirst₀ r₀ hr₀)
      · rw [List.mem_singleton.mp hr]
        exact (ancestorOrSelf_snoc_new hheaders hnoChild hfresh hcons.self hP).mpr
          (.inr (ht.rooted_of_isStored hfirst₀ ⟨_, hP⟩))

/-- Batches keep the flags of their L1 proof blocks through the flips, and those that name
the new block are set with it. -/
theorem BatchFlags.insert (hb : BatchFlags db) :
    BatchFlags (insertBlock B canonical nonCanonical db) := by
  intro br hbr r hr hhash
  rw [insertBlock_batches] at hbr
  obtain ⟨br₀, hbr₀, rfl⟩ := List.mem_map.mp hbr
  rw [insertBlock_blocks] at hr
  rcases List.mem_append.mp hr with hr | hr
  · obtain ⟨r₀, hr₀, rfl⟩ := List.mem_map.mp hr
    simp only at hhash ⊢
    rw [hhash, hb br₀ hbr₀ r₀ hr₀ hhash]
  · rw [List.mem_singleton.mp hr] at hhash ⊢
    simp only at hhash ⊢
    simp [flagAfter_eq, ← hhash]

/-- **An insertion keeps the invariant.** The block joins as the first block, or under a
stored parent `P` with flags that, before the block is appended, say "ancestor-or-self of
`P`". The block is then the head. -/
theorem Inv.insert (hinv : Inv db) (hcons : Consistent db B)
    (hfresh : ∀ r ∈ db.blocks, r.header.hash ≠ B.hash)
    (hjoin : db.blocks = [] ∨ ∃ P, FetchBlock db B.parentHash = .ok P ∧
      ∀ r ∈ db.blocks, flagAfter canonical nonCanonical r.header.hash r.isCanonical = true ↔
        AncestorOrSelf (heightLinks db) P r.header) :
    Inv (insertBlock B canonical nonCanonical db) ∧
      Follows (insertBlock B canonical nonCanonical db) B := by
  have hjoins : Joins db B := hjoin.imp_right fun ⟨P, hP, _⟩ => ⟨P, hP⟩
  have hheaders := insertBlock_headers B canonical nonCanonical db
  have hnoChild := hinv.tree.noChild_of_joins hcons hfresh hjoins
  have hfollows : Follows (insertBlock B canonical nonCanonical db) B := by
    intro r hr
    rw [insertBlock_blocks] at hr
    rcases List.mem_append.mp hr with hr | hr
    · obtain ⟨r₀, hr₀, rfl⟩ := List.mem_map.mp hr
      -- an old row: the new block's hash is not its own
      rcases hjoin with hnil | ⟨P, hP, hflags⟩
      · simp [hnil] at hr₀
      have hne := hfresh r₀ hr₀
      simp only
      rw [flagAfter_cons_of_ne hne, hflags r₀ hr₀,
        ancestorOrSelf_snoc_new hheaders hnoChild hfresh hcons.self hP]
      exact ⟨.inr, fun h => h.resolve_left fun heq => hne (congrArg L1Block.hash heq)⟩
    · rw [List.mem_singleton.mp hr]
      exact ⟨fun _ => .refl B, fun _ => rfl⟩
  refine ⟨⟨hinv.tree.insert hcons hfresh hjoins, .inr ⟨B, ?_, hfollows, ?_⟩,
    hinv.batches.insert⟩, hfollows⟩
  · exact (isStored_snoc_iff hheaders hfresh).mpr (.inr rfl)
  · exact fun x hx hxB => leaf_snoc hheaders hnoChild hfresh hx hxB

end Insert

/-! ## `Process` -/

theorem ingestBlock_first {db : DB} {B : L1Block} (hhead : FetchHeadBlock db = .error ErrNotFound) :
    ingestBlock db B = .ok ⟨none, true⟩ := by
  simp [ingestBlock, hhead]

theorem ingestBlock_child {db : DB} {B H : L1Block} (hhead : FetchHeadBlock db = .ok H)
    (hchild : B.parentHash = H.hash) : ingestBlock db B = .ok ⟨none, false⟩ := by
  simp [ingestBlock, hhead, hchild]

theorem ingestBlock_fork {db : DB} {B H : L1Block} {cf : ChainFork}
    (hhead : FetchHeadBlock db = .ok H) (hchild : B.parentHash ≠ H.hash)
    (hlca : LCA db B H = .ok cf) : ingestBlock db B = .ok ⟨some cf, false⟩ := by
  simp [ingestBlock, hhead, hchild, hlca]

/-- The head is a canonical row. -/
theorem FetchHeadBlock_mem {db : DB} {H : L1Block} (h : FetchHeadBlock db = .ok H) :
    ∃ r ∈ db.blocks, r.isCanonical = true ∧ r.header = H := by
  unfold FetchHeadBlock at h
  dsimp only at h
  split at h
  · cases h
  · split at h
    · rename_i r hfind
      cases h
      obtain ⟨hr, hc⟩ := List.mem_filter.mp (List.mem_of_find?_eq_some hfind)
      exact ⟨r, hr, by simpa using hc, rfl⟩
    · cases h

/-- **An orphan is refused.** With a head, a fresh block above the genesis height whose parent
is not stored, against stored blocks all above the genesis height, has no ancestor in common
with the head. -/
theorem ingestBlock_orphan {db : DB} {B H : L1Block} {err : String}
    (hnodup : (db.blocks.map (·.header.hash)).Nodup)
    (hpos : ∀ r ∈ db.blocks, 0 < height r.header) (hhead : FetchHeadBlock db = .ok H)
    (hB : 0 < height B) (hfresh : ∀ r ∈ db.blocks, r.header.hash ≠ B.hash)
    (horphan : FetchBlock db B.parentHash = .error err) :
    ingestBlock db B = .error ErrBlockAncestorNotFound := by
  have hpos' : ∀ y, IsStored (heightLinks db) y → 0 < height y := by
    intro y hy
    obtain ⟨r, hr, rfl⟩ := FetchBlock_mem hy.choose_spec
    exact hpos r hr
  have hH : IsStored (heightLinks db) H := by
    obtain ⟨r, hr, -, rfl⟩ := FetchHeadBlock_mem hhead
    exact ⟨_, FetchBlock_of_mem hnodup hr⟩
  have hchild : B.parentHash ≠ H.hash := fun h => by
    rw [h, FetchBlock_of_isStored hH] at horphan
    cases horphan
  obtain ⟨e, he⟩ := LCA_orphan hpos' hB hfresh horphan hH
  simp [ingestBlock, hhead, hchild, he]

/-- `tryAndInsertBlock` succeeds on a fresh block, ingested and stored. -/
theorem tryAndInsertBlock_eq_ok {db db' : DB} {B : L1Block} {i : BlockIngestionType}
    (h : tryAndInsertBlock db B = .ok (i, db')) :
    (∀ r ∈ db.blocks, r.header.hash ≠ B.hash) ∧ ingestBlock db B = .ok i ∧
      StoreBlock B i.ChainFork db = .ok db' := by
  unfold tryAndInsertBlock at h
  split at h
  · cases h
  · rename_i err hfetch
    split_ifs at h
    obtain ⟨i', hi, h⟩ := Except.bind_eq_ok.mp h
    obtain ⟨db'', hs, h⟩ := Except.bind_eq_ok.mp h
    cases h
    exact ⟨fresh_of_FetchBlock_error hfetch, hi, Except.mapError_eq_ok.mp hs⟩

/-- What `Process` leaves in the tables: what `tryAndInsertBlock` stored, whether or not the
cross-chain messages store after it. -/
theorem Process_snd (storeCrossChainMessages : L1Block → Except String Unit) (db : DB)
    (B : L1Block) :
    (Process storeCrossChainMessages db B).2 =
      match tryAndInsertBlock db B with
      | .ok (_, db') => db'
      | .error _ => db := by
  unfold Process
  cases tryAndInsertBlock db B with
  | error err => rfl
  | ok res =>
    obtain ⟨i, db'⟩ := res
    simp only
    split_ifs
    · rfl
    · split <;> rfl

/-- **One ingestion keeps the invariant.** A block that the L1 makes consistent with the table
and that is inserted: as the first block, as a child of the head, or as the tip of a fork,
where `LCA` walks down from its parent and the head to their deepest common ancestor and the
flips of `StoreBlock` move the flags to the new branch. -/
theorem Inv.of_tryAndInsertBlock_eq_ok {db db' : DB} {B : L1Block} {i : BlockIngestionType}
    (hinv : Inv db) (hcons : Consistent db B) (h : tryAndInsertBlock db B = .ok (i, db')) :
    ∃ canonical nonCanonical, db' = insertBlock B canonical nonCanonical db ∧ Inv db' ∧
      Follows db' B := by
  obtain ⟨hfresh, hingest, hstore⟩ := tryAndInsertBlock_eq_ok h
  rcases hinv.head with hnil | ⟨H, hH, hf, hleaf⟩
  · -- the first block
    have hhead : FetchHeadBlock db = .error ErrNotFound := by
      simp [FetchHeadBlock, hnil]
    obtain rfl := Except.ok.inj (hingest.symm.trans (ingestBlock_first hhead))
    rw [StoreBlock_none hfresh] at hstore
    cases hstore
    exact ⟨[], [], rfl, hinv.insert hcons hfresh (.inl hnil)⟩
  have hhead := hinv.tree.FetchHeadBlock_eq hH hf
  by_cases hchild : B.parentHash = H.hash
  · -- a child of the head: no flag moves
    obtain rfl := Except.ok.inj (hingest.symm.trans (ingestBlock_child hhead hchild))
    rw [StoreBlock_none hfresh] at hstore
    cases hstore
    refine ⟨[], [], rfl, hinv.insert hcons hfresh
      (.inr ⟨H, hchild ▸ FetchBlock_of_isStored hH, fun r hr => ?_⟩)⟩
    rw [flagAfter_nil]
    exact hf r hr
  cases hP : FetchBlock db B.parentHash with
  | error err =>
    -- an orphan: `LCA` fails
    have horphan := ingestBlock_orphan hinv.tree.nodup
      (fun r hr => hinv.tree.height_pos (hinv.tree.isStored_of_mem hr)) hhead
      (by rw [height_eq_number hcons.bounded.2]; exact hcons.bounded.1) hfresh hP
    rw [horphan] at hingest
    cases hingest
  | ok P =>
    -- a fork: both walk down to the deepest common ancestor, below the first row
    have hPstored : IsStored (heightLinks db) P := ⟨_, hP⟩
    obtain ⟨first, hfirst⟩ : ∃ first, first ∈ db.blocks.head? := by
      obtain ⟨r, hr, -⟩ := FetchBlock_mem hP
      cases h : db.blocks with
      | nil => simp [h] at hr
      | cons f _ => exact ⟨f, by simp⟩
    obtain ⟨A, hdeep⟩ := DeepestCommonAncestor.exists hinv.tree.wf hPstored
      ⟨first.header, hinv.tree.rooted_of_isStored hfirst hPstored,
        hinv.tree.rooted_of_isStored hfirst hH⟩
    obtain ⟨bsP, hsegP⟩ := hdeep.1.1.segment
    obtain ⟨bsH, hsegH⟩ := hdeep.1.2.segment
    obtain rfl := Except.ok.inj (hingest.symm.trans
      (ingestBlock_fork hhead hchild (LCA_join hinv.tree hcons hfresh hP hH hdeep hsegP hsegH)))
    -- the head is not below the parent, since nothing descends from it
    have hfork : bsH ≠ [] := by
      rintro rfl
      have hAH : A = H := Segment.nil_iff.mp hsegH
      subst hAH
      have hPH := hleaf P hPstored hdeep.1.1
      exact hchild (by rw [← FetchBlock_hash hP, hPH])
    rw [StoreBlock_fork hfresh (by simpa [ChainFork.IsFork] using hfork)] at hstore
    cases hstore
    refine ⟨_, _, rfl, hinv.insert hcons hfresh (.inr ⟨P, hP, fun r hr => ?_⟩)⟩
    exact flagAfter_fork hinv.tree hPstored hH hsegP hsegH (hinv.tree.isStored_of_mem hr) (hf r hr)

/-- `Process` keeps the invariant, whatever it returns, and stores at most the block. -/
theorem Inv.after_Process {db : DB} {B : L1Block}
    (storeCrossChainMessages : L1Block → Except String Unit) (hinv : Inv db)
    (hcons : Consistent db B) :
    Inv (Process storeCrossChainMessages db B).2 ∧
      (Process storeCrossChainMessages db B).2.blocks.map (·.header) ⊆
        db.blocks.map (·.header) ++ [B] := by
  rw [Process_snd]
  cases h : BlockProcessor.tryAndInsertBlock db B with
  | error err => exact ⟨hinv, List.subset_append_left _ _⟩
  | ok res =>
    obtain ⟨i, db'⟩ := res
    obtain ⟨canonical, nonCanonical, rfl, hinv', -⟩ := hinv.of_tryAndInsertBlock_eq_ok hcons h
    exact ⟨hinv', by rw [insertBlock_headers]; exact List.Subset.refl _⟩

/-- A `Process` that reports success stored the block. -/
theorem Process_fst_eq_ok {storeCrossChainMessages : L1Block → Except String Unit} {db : DB}
    {B : L1Block} {i : BlockIngestionType} (h : (Process storeCrossChainMessages db B).1 = .ok i) :
    tryAndInsertBlock db B = .ok (i, (Process storeCrossChainMessages db B).2) := by
  unfold Process at h ⊢
  cases htry : BlockProcessor.tryAndInsertBlock db B with
  | error err =>
    rw [htry] at h
    cases h
  | ok res =>
    obtain ⟨i', db'⟩ := res
    rw [htry] at h
    simp only at h ⊢
    -- every branch that reports success returns the ingestion with the stored tables
    split_ifs at h ⊢
    · cases h
      rfl
    · split at h
      · cases h
      · cases h
        rfl

/-- **The new block is the head.** When `Process` reports success on a block the L1 makes
consistent with the table, `FetchHeadBlock` returns that block, on a fork as on a child of the
head. -/
theorem Process_head {storeCrossChainMessages : L1Block → Except String Unit} {db : DB}
    {B : L1Block} {i : BlockIngestionType} (hinv : Inv db) (hcons : Consistent db B)
    (hok : (Process storeCrossChainMessages db B).1 = .ok i) :
    FetchHeadBlock (Process storeCrossChainMessages db B).2 = .ok B := by
  obtain ⟨canonical, nonCanonical, hdb', hinv', hf⟩ :=
    hinv.of_tryAndInsertBlock_eq_ok hcons (Process_fst_eq_ok hok)
  have hB : (⟨B, true⟩ : BlockRow) ∈ (Process storeCrossChainMessages db B).2.blocks := by
    rw [hdb', insertBlock_blocks]
    exact List.mem_append_right _ List.mem_cons_self
  exact hinv'.tree.FetchHeadBlock_eq (hinv'.tree.isStored_of_mem hB) hf

/-- A block whose hash no row has is not found. -/
theorem FetchBlock_of_fresh {db : DB} {B : L1Block}
    (hfresh : ∀ r ∈ db.blocks, r.header.hash ≠ B.hash) :
    FetchBlock db B.hash = .error ErrNotFound := by
  unfold FetchBlock
  rw [List.find?_eq_none.mpr (by simpa using hfresh)]

/-- **An orphan leaves the tables as they were.** With a head, against stored blocks all above
the genesis height, one row per hash, `Process` refuses a fresh block above the genesis height
whose parent is not stored, with `ErrBlockAncestorNotFound`, and writes nothing. -/
theorem Process_orphan (storeCrossChainMessages : L1Block → Except String Unit) {db : DB}
    {B H : L1Block} {e : String} (hnodup : (db.blocks.map (·.header.hash)).Nodup)
    (hpos : ∀ r ∈ db.blocks, 0 < height r.header) (hhead : FetchHeadBlock db = .ok H)
    (hB : 0 < height B) (hfresh : ∀ r ∈ db.blocks, r.header.hash ≠ B.hash)
    (horphan : FetchBlock db B.parentHash = .error e) :
    Process storeCrossChainMessages db B = (.error ErrBlockAncestorNotFound, db) := by
  have hingest := ingestBlock_orphan hnodup hpos hhead hB hfresh horphan
  have htry : tryAndInsertBlock db B = .error ErrBlockAncestorNotFound := by
    simp [tryAndInsertBlock, FetchBlock_of_fresh hfresh, hingest]
  simp [Process, htry]

/-- The tables hold the block `cxG` at height 1 as head; `cxA` at height 7 names a parent
they do not hold. -/
def orphanDB : DB := ⟨[⟨⟨1, 0, 1⟩, true⟩], []⟩

theorem Process_orphan_refused :
    Process cxStoreMessages orphanDB cxA = (.error ErrBlockAncestorNotFound, orphanDB) :=
  Process_orphan cxStoreMessages (by decide) (by decide)
    (by decide : FetchHeadBlock orphanDB = .ok ⟨1, 0, 1⟩) (by decide) (by decide)
    (by decide : FetchBlock orphanDB cxA.parentHash = .error ErrNotFound)

/-! ## Batches -/

/-- The block part of the invariant reads the block table only. -/
theorem Tree.of_blocks_eq {db db' : DB} (h : db'.blocks = db.blocks) (ht : Tree db) :
    Tree db' := by
  have hL : heightLinks db' = heightLinks db := heightLinks_congr_headers (by rw [h])
  refine ⟨?_, ?_, ?_, ?_⟩
  · rw [h]
    exact ht.nodup
  · rw [h]
    exact ht.bounded
  · rw [hL]
    exact ht.wf
  · rw [h, hL]
    exact ht.rooted

theorem Inv.head_of_blocks_eq {db db' : DB} (h : db'.blocks = db.blocks) (hinv : Inv db) :
    db'.blocks = [] ∨ ∃ head, IsStored (heightLinks db') head ∧ Follows db' head ∧
      Leaf db' head := by
  have hL : heightLinks db' = heightLinks db := heightLinks_congr_headers (by rw [h])
  unfold Follows Leaf
  rw [h, hL]
  exact hinv.head

/-- Inserting a batch keeps the invariant: it takes the flag of its L1 proof block. -/
theorem Inv.after_WriteBatch {Tx : Type} {rlpHash : BatchHeader → Hash} {batch : Batch Tx}
    {db db' : DB} (hinv : Inv db) (h : WriteBatchAndTransactions rlpHash batch db = .ok db') :
    Inv db' ∧ db'.blocks = db.blocks := by
  unfold WriteBatchAndTransactions at h
  split_ifs at h
  have hdb' := (Except.ok.inj h).symm
  have hblocks : db'.blocks = db.blocks := by rw [hdb']
  refine ⟨⟨hinv.tree.of_blocks_eq hblocks, hinv.head_of_blocks_eq hblocks, ?_⟩, hblocks⟩
  rw [hdb']
  intro br hbr r hr hhash
  rcases List.mem_append.mp hbr with hbr | hbr
  · exact hinv.batches br hbr r hr hhash
  · rw [List.mem_singleton.mp hbr] at hhash ⊢
    simp only at hhash ⊢
    -- the row the query finds is `r`, the one row of that hash
    cases hfind : db.blocks.find? (·.header.hash = batch.Header.L1Proof) with
    | none => exact absurd (List.find?_eq_none.mp hfind r hr) (by simpa using hhash)
    | some r' =>
      have hhash' : r'.header.hash = batch.Header.L1Proof := by
        simpa using List.find?_some hfind
      rw [List.inj_on_of_nodup_map hinv.tree.nodup (List.mem_of_find?_eq_some hfind) hr
        (hhash'.trans hhash.symm)]

/-! ## Runs -/

/-- The calls that write the enclave's block and batch tables: an L1 block submitted
(`enclaveImpl.SubmitL1Block`, which runs `l1BlockProcessor.Process`), and a batch stored
(`storageImpl.StoreBatch`, which runs `WriteBatchAndTransactions` in a transaction). -/
inductive Call (Tx : Type) where
  | SubmitL1Block (block : L1Block)
  | StoreBatch (batch : Batch Tx)

section Run

variable {Tx : Type} (storeCrossChainMessages : L1Block → Except String Unit)
  (rlpHash : BatchHeader → Hash)

/-- A call's effect on the tables, whatever it returns: a failed batch insert writes nothing. -/
def Call.apply : Call Tx → DB → DB
  | .SubmitL1Block block, db => (Process storeCrossChainMessages db block).2
  | .StoreBatch batch, db =>
    match WriteBatchAndTransactions rlpHash batch db with
    | .ok db' => db'
    | .error _ => db

/-- The tables after a sequence of calls. -/
def runCalls (calls : List (Call Tx)) (db : DB) : DB :=
  calls.foldl (fun db c => c.apply storeCrossChainMessages rlpHash db) db

/-- The L1 blocks the calls submit. -/
def blocksOf : List (Call Tx) → List L1Block
  | [] => []
  | .SubmitL1Block block :: calls => block :: blocksOf calls
  | .StoreBatch _ :: calls => blocksOf calls

theorem blocksOf_cons (c : Call Tx) (calls : List (Call Tx)) :
    blocksOf (c :: calls) = blocksOf [c] ++ blocksOf calls := by
  cases c <;> rfl

section Blocks

/-! The blocks the L1 delivers, `S`: above the genesis height and below `2^64`, and one above a
delivered block they name as parent. -/

variable {S : List L1Block}
  (hbounded : ∀ b ∈ S, L1GenesisHeight < b.number ∧ b.number < 2 ^ 64)
  (hparent : ∀ b ∈ S, ∀ p ∈ S, p.hash = b.parentHash → b.number = p.number + 1)
include hbounded hparent

theorem consistent_of_mem {db : DB} {B : L1Block} (hB : B ∈ S)
    (hdb : ∀ r ∈ db.blocks, r.header ∈ S) : Consistent db B where
  bounded := hbounded B hB
  self h := by
    have := hparent B hB B hB h.symm
    omega
  parent r hr h := hparent B hB r.header (hdb r hr) h
  child r hr h := hparent r.header (hdb r hr) B hB h.symm

/-- One call keeps the invariant, and the tables' blocks among the delivered ones. -/
theorem Call.apply_inv (c : Call Tx) (hc : ∀ b ∈ blocksOf [c], b ∈ S) {db : DB}
    (hinv : Inv db) (hdb : ∀ r ∈ db.blocks, r.header ∈ S) :
    Inv (c.apply storeCrossChainMessages rlpHash db) ∧
      ∀ r ∈ (c.apply storeCrossChainMessages rlpHash db).blocks, r.header ∈ S := by
  cases c with
  | SubmitL1Block block =>
    have hB : block ∈ S := hc block (by simp [blocksOf])
    obtain ⟨hinv', hsub⟩ := hinv.after_Process storeCrossChainMessages
      (consistent_of_mem hbounded hparent hB hdb)
    refine ⟨hinv', fun r hr => ?_⟩
    rcases List.mem_append.mp (hsub (List.mem_map_of_mem hr)) with hmem | hmem
    · obtain ⟨r₀, hr₀, heq⟩ := List.mem_map.mp hmem
      rw [← heq]
      exact hdb r₀ hr₀
    · rw [List.mem_singleton.mp hmem]
      exact hB
  | StoreBatch batch =>
    simp only [Call.apply]
    split
    · rename_i db' hw
      obtain ⟨hinv', hblocks⟩ := hinv.after_WriteBatch hw
      exact ⟨hinv', by rw [hblocks]; exact hdb⟩
    · exact ⟨hinv, hdb⟩

/-- Every run keeps the invariant. -/
theorem runCalls_inv : ∀ (calls : List (Call Tx)) {db : DB},
    (∀ b ∈ blocksOf calls, b ∈ S) → Inv db → (∀ r ∈ db.blocks, r.header ∈ S) →
      Inv (runCalls storeCrossChainMessages rlpHash calls db) ∧
        ∀ r ∈ (runCalls storeCrossChainMessages rlpHash calls db).blocks, r.header ∈ S
  | [], _, _, hinv, hdb => ⟨hinv, hdb⟩
  | c :: calls, _, hcalls, hinv, hdb => by
    rw [blocksOf_cons] at hcalls
    obtain ⟨hinv', hdb'⟩ := c.apply_inv storeCrossChainMessages rlpHash hbounded hparent
      (fun b hb => hcalls b (List.mem_append_left _ hb)) hinv hdb
    exact runCalls_inv calls (fun b hb => hcalls b (List.mem_append_right _ hb)) hinv' hdb'

end Blocks

/-- **The canonical flags over every run.** From the empty tables, over any sequence of
submitted L1 blocks and stored batches, whatever each call returns, the flags are what
`CanonicalInv` says: provided the blocks submitted are above the L1 genesis height and below
`2^64`, and each is one above a submitted block it names as parent. -/
theorem runCalls_canonicalInv (calls : List (Call Tx))
    (hbounded : ∀ b ∈ blocksOf calls, L1GenesisHeight < b.number ∧ b.number < 2 ^ 64)
    (hparent : ∀ b ∈ blocksOf calls, ∀ p ∈ blocksOf calls, p.hash = b.parentHash →
      b.number = p.number + 1) :
    CanonicalInv (runCalls storeCrossChainMessages rlpHash calls DB.empty) :=
  (runCalls_inv storeCrossChainMessages rlpHash hbounded hparent calls (fun _ hb => hb) Inv.empty
    (by simp [DB.empty])).1.canonicalInv

end Run

/-- `A1` at height 1 and its child `A2`. -/
def forkBase : List (Call Unit) := [.SubmitL1Block ⟨1, 0, 1⟩, .SubmitL1Block ⟨2, 1, 2⟩]

/-- A run with a fork: `A1`, `A2`, then `B2`, a second child of `A1`. -/
def forkRun : List (Call Unit) := forkBase ++ [.SubmitL1Block ⟨3, 1, 2⟩]

theorem runCalls_canonicalInv_fork :
    CanonicalInv (runCalls cxStoreMessages (fun _ => 0) forkRun DB.empty) :=
  runCalls_canonicalInv cxStoreMessages (fun _ => 0) forkRun (by decide) (by decide)

/-- The blocks of the fork, as the L1 delivers them. -/
def forkBlocks : List L1Block := [⟨1, 0, 1⟩, ⟨2, 1, 2⟩, ⟨3, 1, 2⟩]

/-- On the tables `A1` and `A2` leave, `B2` forks off `A1`: `Process` reports the fork, and
`B2` becomes the head. -/
theorem Process_head_fork :
    FetchHeadBlock (Process cxStoreMessages
      (runCalls cxStoreMessages (fun _ => 0) forkBase DB.empty) ⟨3, 1, 2⟩).2 = .ok ⟨3, 1, 2⟩ := by
  have hbounded : ∀ b ∈ forkBlocks, L1GenesisHeight < b.number ∧ b.number < 2 ^ 64 := by decide
  have hparent : ∀ b ∈ forkBlocks, ∀ p ∈ forkBlocks, p.hash = b.parentHash →
      b.number = p.number + 1 := by decide
  have hrun := runCalls_inv cxStoreMessages (fun _ => 0) hbounded hparent forkBase
    (by decide) Inv.empty (by simp [DB.empty])
  exact Process_head hrun.1 (consistent_of_mem hbounded hparent (by decide) hrun.2)
    (i := ⟨some ⟨⟨3, 1, 2⟩, ⟨2, 1, 2⟩, ⟨1, 0, 1⟩, [], [2]⟩, false⟩) (by decide)

end Obscuro.BlockProcessor
