import Obscuro.Host.Tables

/-!
# The block listing

`DB.GetBlockListing` in `go/host/db/blocks.go`, which the scan API serves: for each index of the
page, from `Offset` while below `Offset + Size` in `uint64` arithmetic, the header at that height
and the rollup stored from its block; a height with no header is skipped. The total is the
height of the tip header, and a store with no tip fails the whole call.

The index becomes a height through `big.NewInt(int64(i))`, and `blockNumberKey` writes
`x.Bytes()`, the absolute value: an index `i ≥ 2^63` reads height `2^64 - i`.

* `blockListingLoop_eq` — the loop lists, index by index, what each pass finds;
* `blockListingStep_represents` — over stores that represent the headers and the rollups, a pass
  finds the last header added at its height, with the hash of the last rollup stored from that
  header's block;
* `GetBlockListing_represents` — the listing, for every pagination;
* `GetBlockListing_page`, `GetBlockListing_overflow`, `GetBlockListing_highOffset` — a page
  below `2^63` lists its heights in order, a page whose end overflows is empty, and a page past
  `2^63` lists heights counting down from `2^64 - Offset`;
* `HostOp.run_GetBlockListing` — the listing after any interleaving of the host's writers.
-/

namespace Obscuro.HostDB

/-! ## The model -/

/-- `common.QueryPagination`. `Size` is a Go `uint`, 64-bit on the platforms the host runs on. -/
structure QueryPagination where
  Offset : UInt64
  Size : UInt64
  deriving DecidableEq, Repr

/-- `common.PublicBlock`. -/
structure PublicBlock where
  BlockHeader : L1Block
  RollupHash : Hash
  deriving DecidableEq, Repr

/-- `common.BlockListingResponse`. -/
structure BlockListingResponse where
  BlocksData : List PublicBlock
  Total : UInt64
  deriving DecidableEq, Repr

/-- A read whose `ErrNotFound` the caller takes as a nil result: `if err != nil &&
!errors.Is(err, errutil.ErrNotFound) { return nil, err }`. -/
def orNotFound {α : Type} : Except String α → Except String (Option α)
  | .ok a => .ok (some a)
  | .error err => if err ≠ ErrNotFound then .error err else .ok none

/-- The height `big.NewInt(int64(i))` gives to `blockNumberKey`, which writes its absolute
value. -/
def listingHeight (i : UInt64) : Nat := (Go.newInt i.toInt64).natAbs

section Listing

variable (blockRlp : Codec L1Block) (rollupRlp : Codec RollupHeader)
  (rlpHash : RollupHeader → Hash) (nilHeaderHash : Hash)

/-- One pass of the loop of `GetBlockListing`, at index `i`. A header that is not found is nil,
and `header.Hash()` on a nil header is `nilHeaderHash`, the hash of the encoding of a nil
header, whose rollup is looked up all the same. -/
def blockListingStep (db : DB) (i : UInt64) : Except String (Option PublicBlock) := do
  let header ← orNotFound (GetBlockByHeight blockRlp db (listingHeight i))
  -- check if the block has a rollup
  let rollup ← orNotFound
    (GetRollupHeaderByBlock rollupRlp db ((header.map (·.hash)).getD nilHeaderHash))
  pure (header.map fun header => ⟨header, (rollup.map (·.Hash rlpHash)).getD 0⟩)

/-- The loop of `GetBlockListing`: `for i := pagination.Offset; i < stop; i++`. -/
def blockListingLoop (db : DB) (stop i : UInt64) (blocks : List PublicBlock) :
    Except String (List PublicBlock) :=
  if _h : i < stop then do
    let block ← blockListingStep blockRlp rollupRlp rlpHash nilHeaderHash db i
    blockListingLoop db stop (i + 1) (blocks ++ block.toList)
  else pure blocks
termination_by stop.toNat - i.toNat
decreasing_by
  have hlt : i.toNat < stop.toNat := UInt64.lt_iff_toNat_lt.mp _h
  have hstop : stop.toNat < 2 ^ 64 := stop.toNat_lt
  have hsucc : (i + 1).toNat = i.toNat + 1 := by
    rw [UInt64.toNat_add, UInt64.toNat_one]
    omega
  omega

/-- `DB.GetBlockListing`. -/
def GetBlockListing (db : DB) (pagination : QueryPagination) :
    Except String BlockListingResponse := do
  -- fetch requested blocks
  let blocks ← blockListingLoop blockRlp rollupRlp rlpHash nilHeaderHash db
    (pagination.Offset + pagination.Size) pagination.Offset []
  -- fetch the total blocks so we can paginate
  let tipHeader ← GetBlockAtTip blockRlp db
  pure ⟨blocks, tipHeader.NumberU64⟩

end Listing

/-! ## Heights -/

/-- `int64(i)` keeps an index below `2^63` and wraps one above it. -/
theorem toInt_toInt64_ofNat {j : Nat} (hj : j < 2 ^ 64) :
    (UInt64.ofNat j).toInt64.toInt = if j < 2 ^ 63 then (j : Int) else (j : Int) - 2 ^ 64 := by
  have hbits : (UInt64.ofNat j).toInt64.toInt = (UInt64.ofNat j).toBitVec.toInt := rfl
  have hnat : (UInt64.ofNat j).toBitVec.toNat = j := by
    simp only [UInt64.toNat_toBitVec, UInt64.toNat_ofNat']
    omega
  rw [hbits, BitVec.toInt_eq_toNat_cond, hnat]
  split_ifs <;> first | rfl | omega

theorem listingHeight_ofNat {j : Nat} (hj : j < 2 ^ 64) :
    listingHeight (UInt64.ofNat j) = if j < 2 ^ 63 then j else 2 ^ 64 - j := by
  rw [listingHeight, Go.newInt, toInt_toInt64_ofNat hj]
  split_ifs <;> omega

theorem listingHeight_lt (i : UInt64) : listingHeight i < 2 ^ 64 := by
  have h := listingHeight_ofNat i.toNat_lt
  rw [UInt64.ofNat_toNat] at h
  rw [h]
  split_ifs <;> omega

/-! ## The loop -/

section Loop

variable {blockRlp : Codec L1Block} {rollupRlp : Codec RollupHeader}
  {rlpHash : RollupHeader → Hash} {nilHeaderHash : Hash} {db : DB}

theorem blockListingLoop_of_lt {stop i : UInt64} (h : i < stop) (blocks : List PublicBlock) :
    blockListingLoop blockRlp rollupRlp rlpHash nilHeaderHash db stop i blocks =
      blockListingStep blockRlp rollupRlp rlpHash nilHeaderHash db i >>= fun block =>
        blockListingLoop blockRlp rollupRlp rlpHash nilHeaderHash db stop (i + 1)
          (blocks ++ block.toList) := by
  rw [blockListingLoop, dif_pos h]

theorem blockListingLoop_of_not_lt {stop i : UInt64} (h : ¬ i < stop) (blocks : List PublicBlock) :
    blockListingLoop blockRlp rollupRlp rlpHash nilHeaderHash db stop i blocks = .ok blocks := by
  rw [blockListingLoop, dif_neg h]
  rfl

/-- **The loop.** When the pass at every index of the page succeeds, the loop lists, index by
index, what each pass finds. -/
theorem blockListingLoop_eq {stop : UInt64} {f : Nat → Option PublicBlock}
    (hstep : ∀ j, j < stop.toNat →
      blockListingStep blockRlp rollupRlp rlpHash nilHeaderHash db (UInt64.ofNat j) = .ok (f j)) :
    ∀ (n : Nat) (i : UInt64) (blocks : List PublicBlock), stop.toNat - i.toNat = n →
      blockListingLoop blockRlp rollupRlp rlpHash nilHeaderHash db stop i blocks =
        .ok (blocks ++ (List.range' i.toNat n).filterMap f) := by
  intro n
  -- induction on the number of indices left, which each pass lowers by one
  induction n with
  | zero =>
    intro i blocks hn
    have hge : ¬ i < stop := by
      rw [UInt64.lt_iff_toNat_lt]
      omega
    rw [blockListingLoop_of_not_lt hge, List.range'_zero, List.filterMap_nil, List.append_nil]
  | succ n ih =>
    intro i blocks hn
    have hlt : i < stop := by
      rw [UInt64.lt_iff_toNat_lt]
      omega
    have hsucc : (i + 1).toNat = i.toNat + 1 := by
      have hstop := stop.toNat_lt
      rw [UInt64.toNat_add, UInt64.toNat_one]
      omega
    have hpass : blockListingStep blockRlp rollupRlp rlpHash nilHeaderHash db i = .ok (f i.toNat) := by
      have h := hstep i.toNat (by omega)
      rwa [UInt64.ofNat_toNat] at h
    rw [blockListingLoop_of_lt hlt, hpass, Except.ok_bind', ih (i + 1) _ (by omega), hsucc,
      List.range'_succ, List.filterMap_cons]
    cases f i.toNat with
    | none => simp
    | some block => simp

end Loop

/-! ## The listing over represented tables -/

variable (rlpHash : RollupHeader → Hash) in
/-- What the listing shows at a height: the last header added there, with the hash of the last
rollup stored from that header's block, or zero. -/
def listedBlock (added : List L1Block) (stored : List StoredRollup) (height : Nat) :
    Option PublicBlock :=
  (added.reverse.find? (·.number = height)).map fun header =>
    ⟨header, ((stored.reverse.find? (·.block = header.hash)).map (·.header.Hash rlpHash)).getD 0⟩

section Represented

variable {blockRlp : Codec L1Block} {rollupRlp : Codec RollupHeader}
  {rlpHash : RollupHeader → Hash} (nilHeaderHash : Hash) {db : DB} {added : List L1Block}
  {stored : List StoredRollup} (hb : RepresentsBlocks blockRlp db added)
  (hr : RepresentsRollups rollupRlp rlpHash db stored)
include hb hr

omit hb in
/-- The rollup read never fails but with `ErrNotFound`, which the pass takes as nil. -/
theorem orNotFound_GetRollupHeaderByBlock (blockHash : Hash) :
    orNotFound (GetRollupHeaderByBlock rollupRlp db blockHash) =
      .ok ((stored.reverse.find? (·.block = blockHash)).map (·.header)) := by
  rw [hr.GetRollupHeaderByBlock]
  cases stored.reverse.find? (·.block = blockHash) with
  | none => rfl
  | some r => rfl

/-- A pass finds the last header added at its height, with its block's last rollup. -/
theorem blockListingStep_represents (i : UInt64) :
    blockListingStep blockRlp rollupRlp rlpHash nilHeaderHash db i =
      .ok (listedBlock rlpHash added stored (listingHeight i)) := by
  have hheader : orNotFound (GetBlockByHeight blockRlp db (listingHeight i)) =
      .ok (added.reverse.find? (·.number = listingHeight i)) := by
    rw [hb.GetBlockByHeight (listingHeight_lt i)]
    cases added.reverse.find? (·.number = listingHeight i) with
    | none => rfl
    | some header => rfl
  rw [blockListingStep, hheader, Except.ok_bind', orNotFound_GetRollupHeaderByBlock hr,
    Except.ok_bind', listedBlock]
  cases added.reverse.find? (·.number = listingHeight i) with
  | none => rfl
  | some header =>
    simp only [Option.map_some, Option.getD_some]
    cases stored.reverse.find? (·.block = header.hash) with
    | none => rfl
    | some r => rfl

/-- **The listing.** Over stores that represent the headers and the rollups, the page lists, for
each index from `Offset` below the `uint64` sum `Offset + Size`, what is at that index's height;
the call fails with `ErrNotFound` before any header is added, and otherwise gives the tip's
height as the total. -/
theorem GetBlockListing_represents (pagination : QueryPagination) :
    GetBlockListing blockRlp rollupRlp rlpHash nilHeaderHash db pagination =
      match added.argmax (·.number) with
      | none => .error ErrNotFound
      | some tip => .ok ⟨(List.range' pagination.Offset.toNat
          ((pagination.Offset + pagination.Size).toNat - pagination.Offset.toNat)).filterMap
            fun j => listedBlock rlpHash added stored (listingHeight (UInt64.ofNat j)),
          tip.NumberU64⟩ := by
  rw [GetBlockListing, blockListingLoop_eq
      (fun j _ => blockListingStep_represents nilHeaderHash hb hr (UInt64.ofNat j)) _ _ _ rfl,
    Except.ok_bind', hb.GetBlockAtTip, List.nil_append]
  cases added.argmax (·.number) with
  | none => rfl
  | some tip => rfl

/-- A page that ends below `2^63` lists its heights in order. -/
theorem GetBlockListing_page {pagination : QueryPagination} {tip : L1Block}
    (htip : added.argmax (·.number) = some tip)
    (hpage : pagination.Offset.toNat + pagination.Size.toNat < 2 ^ 63) :
    GetBlockListing blockRlp rollupRlp rlpHash nilHeaderHash db pagination =
      .ok ⟨(List.range' pagination.Offset.toNat pagination.Size.toNat).filterMap
          (listedBlock rlpHash added stored), tip.NumberU64⟩ := by
  have hend : (pagination.Offset + pagination.Size).toNat =
      pagination.Offset.toNat + pagination.Size.toNat := by
    rw [UInt64.toNat_add]
    omega
  rw [GetBlockListing_represents nilHeaderHash hb hr, htip, hend, Nat.add_sub_cancel_left]
  -- every index of the page is its own height
  dsimp only
  congr 2
  apply List.filterMap_congr
  intro j hj
  rw [List.mem_range'_1] at hj
  rw [listingHeight_ofNat (by omega), if_pos (by omega)]

/-- A page whose end overflows `uint64` is empty. -/
theorem GetBlockListing_overflow {pagination : QueryPagination} {tip : L1Block}
    (htip : added.argmax (·.number) = some tip)
    (hover : 2 ^ 64 ≤ pagination.Offset.toNat + pagination.Size.toNat) :
    GetBlockListing blockRlp rollupRlp rlpHash nilHeaderHash db pagination =
      .ok ⟨[], tip.NumberU64⟩ := by
  have hend : (pagination.Offset + pagination.Size).toNat ≤ pagination.Offset.toNat := by
    have hsize := pagination.Size.toNat_lt
    rw [UInt64.toNat_add]
    omega
  rw [GetBlockListing_represents nilHeaderHash hb hr, htip, Nat.sub_eq_zero_of_le hend]
  rfl

/-- A page that starts at or past `2^63` and does not overflow lists heights counting down:
index `j` reads the height `2^64 - j`. -/
theorem GetBlockListing_highOffset {pagination : QueryPagination} {tip : L1Block}
    (htip : added.argmax (·.number) = some tip)
    (hhigh : 2 ^ 63 ≤ pagination.Offset.toNat)
    (hpage : pagination.Offset.toNat + pagination.Size.toNat < 2 ^ 64) :
    GetBlockListing blockRlp rollupRlp rlpHash nilHeaderHash db pagination =
      .ok ⟨(List.range' pagination.Offset.toNat pagination.Size.toNat).filterMap
          (fun j => listedBlock rlpHash added stored (2 ^ 64 - j)), tip.NumberU64⟩ := by
  have hend : (pagination.Offset + pagination.Size).toNat =
      pagination.Offset.toNat + pagination.Size.toNat := by
    rw [UInt64.toNat_add]
    omega
  rw [GetBlockListing_represents nilHeaderHash hb hr, htip, hend, Nat.add_sub_cancel_left]
  -- every index of the page reads the height it wraps to
  dsimp only
  congr 2
  apply List.filterMap_congr
  intro j hj
  rw [List.mem_range'_1] at hj
  rw [listingHeight_ofNat (by omega), if_neg (by omega)]

end Represented

/-- **The listing after any interleaving.** From an empty store, after any run of 64-bit calls
of the batch repository and the guardian with one header per block hash, the block listing
lists the headers added and the rollups stored, as `GetBlockListing_represents` says. -/
theorem HostOp.run_GetBlockListing (e : Encoding) (nilHeaderHash : Hash) (ops : List HostOp)
    (hv : ∀ op ∈ ops, op.Valid)
    (hinj : ∀ a ∈ headersOf ops, ∀ b ∈ headersOf ops, a.hash = b.hash → a = b)
    (pagination : QueryPagination) :
    GetBlockListing e.blockRlp e.rollupRlp e.rollupHash nilHeaderHash (run e DB.empty ops) pagination =
      match (headersOf ops).argmax (·.number) with
      | none => .error ErrNotFound
      | some tip => .ok ⟨(List.range' pagination.Offset.toNat
          ((pagination.Offset + pagination.Size).toNat - pagination.Offset.toNat)).filterMap
            fun j => listedBlock e.rollupHash (headersOf ops)
              ((rollupsOf ops).foldl (fun s p => storeRollup e.rollupHash s p.1 p.2) [])
              (listingHeight (UInt64.ofNat j)),
          tip.NumberU64⟩ := by
  obtain ⟨-, hb, hr⟩ := run_tables e ops hv hinj
  exact GetBlockListing_represents nilHeaderHash hb hr pagination

/-- Some lossless encodings; a rollup header hashes to its payload hash. -/
noncomputable def cxEncoding : Encoding :=
  ⟨cxRLP, cxHash, Classical.choice (Codec.nonempty_of_countable _),
    Classical.choice (Codec.nonempty_of_countable _), (·.PayloadHash)⟩

/-- A rollup whose header has payload hash `payload`. -/
def cxRollup (payload : Hash) : ExtRollup := ⟨⟨0, 0, [], payload, none, none, 0⟩, [], []⟩

/-- Block 1 at height 5 with rollup 7 from it, block 2 at height 6, then block 3 re-orgs height
6, and rollup 8 is stored from block 1 too. -/
def cxListingOps : List HostOp :=
  [.AddBlock ⟨1, 0, 5⟩, .AddRollupHeader (cxRollup 7) ⟨1, 0, 5⟩, .AddBlock ⟨2, 1, 6⟩,
    .AddBlock ⟨3, 1, 6⟩, .AddRollupHeader (cxRollup 8) ⟨1, 0, 5⟩]

/-- The page of heights 5 to 7 lists block 1 with its last rollup and block 3, which replaced
block 2, with no rollup; height 7 has no block, and the total is the tip's height 6. -/
theorem HostOp.run_GetBlockListing_reorg :
    GetBlockListing cxEncoding.blockRlp cxEncoding.rollupRlp cxEncoding.rollupHash 0
        (run cxEncoding DB.empty cxListingOps) ⟨5, 3⟩ =
      .ok ⟨[⟨⟨1, 0, 5⟩, 8⟩, ⟨⟨3, 1, 6⟩, 0⟩], 6⟩ := by
  rw [HostOp.run_GetBlockListing cxEncoding 0 cxListingOps
    (by simp [cxListingOps, HostOp.Valid]) (by decide)]
  decide

end Obscuro.HostDB
