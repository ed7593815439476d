import Obscuro.Common.Types
import Obscuro.Lib.GoInt
import Obscuro.Lib.ParentWalk
import Obscuro.Lib.Codec
import Obscuro.Lib.ExceptBind

/-!
# Obscuro — rollup header compression

`go/enclave/components/rollup_compression.go`. A rollup carries its batches without their
headers: `createRollupHeader` keeps only what cannot be recomputed, and
`createIncompleteBatches` rebuilds, for every batch, its sequence number, height, time and
L1 proof from that metadata.

Each field travels in its own way, and is rebuilt by its own accumulator:

* sequence numbers are implicit: the first one, then one more per batch;
* heights are implicit too, but advance only on canonical batches, starting one below
  `FirstCanonBatchHeight`;
* times are deltas, taken in `uint64` and stored as `int64`, summed back in `int64`;
* L1 proofs are height deltas (the first entry absolute), resolved against the chain below
  the compression L1 head by `getAncestorOfHeight`, which finds the ancestor at a 64-bit
  height or fails on the fetch that leaves the store (`getAncestorOfHeight_exact`), but reads
  only the low 64 bits of the height it is given;
* a batch that is not the canonical one at its height travels as its full header, in the
  sparse `ReOrgs` list.

The serialisation libraries are parameters: `gob` is `big.Int`'s Gob encoding, `rlp` the RLP
encoding of a header, `rlpHash` keccak-of-RLP (so `batch.Hash()` is `Batch.Hash rlpHash`),
and `deriveSha` is `types.DeriveSha` on a transaction list. The store is read through
`Storage`, the two `storage.Storage` methods these functions call.
-/

namespace Obscuro.RollupCompression

open ParentWalk

/-- `common.CalldataRollupHeader`. Every `[]byte` entry is one encoded value. -/
structure CalldataRollupHeader where
  FirstBatchSequence : Nat
  FirstCanonBatchHeight : Nat
  FirstCanonParentHash : L2BatchHash
  StartTime : UInt64
  BatchTimeDeltas : List Bytes
  L1HeightDeltas : List Bytes
  ReOrgs : List Bytes

/-- `batchFromRollup`: a batch rebuilt from the rollup, before it is executed. -/
structure BatchFromRollup (Tx : Type) where
  transactions : List Tx
  seqNo : Int
  height : Int
  txHash : Hash
  time : UInt64
  l1Proof : L1BlockHash
  header : Option BatchHeader

/-- The two `storage.Storage` methods the compression reads. -/
structure Storage (Tx : Type) where
  FetchBatchByHeight : UInt64 → Except String (Batch Tx)
  FetchBlock : L1BlockHash → Except String L1Block

variable {Tx : Type}

/-- The L1 block store as parent links. -/
def Storage.links (s : Storage Tx) : Links String L1BlockHash L1Block :=
  ⟨s.FetchBlock, L1Block.parentHash, L1Block.number⟩

section Encode

variable (rlp : Codec BatchHeader) (rlpHash : BatchHeader → Hash)

/-- What one iteration of `createRollupHeader`'s range loop writes at its index: the re-org
header (`nil` for a canonical batch), the time delta and the L1 height delta. -/
structure HeaderEntry where
  reorg : Option BatchHeader
  deltaTime : Int
  l1HeightDelta : Int

/-- The range loop of `createRollupHeader`, from index `i` on, with the previous batch's time
`prev` and the previous L1 proof's height `prevL1Height` (never read at index 0). -/
def createRollupHeaderLoop (s : Storage Tx) :
    Nat → UInt64 → Int → List (Batch Tx) → Except String (List HeaderEntry)
  | _, _, _, [] => .ok []
  | i, prev, prevL1Height, batch :: rest => do
    -- determine whether the batch is canonical
    let can ← s.FetchBatchByHeight batch.NumberU64
    let reorg := if can.Hash rlpHash != batch.Hash rlpHash then some batch.Header else none
    let deltaTime := Go.newInt (batch.Header.Time - prev).toInt64
    let block ← s.FetchBlock batch.Header.L1Proof
    -- the first element is the actual height
    let l1HeightDelta : Int :=
      if i = 0 then block.number
      else Go.newInt (Go.bigInt64 block.number - Go.bigInt64 prevL1Height)
    let entries ← createRollupHeaderLoop s (i + 1) batch.Header.Time block.number rest
    return { reorg, deltaTime, l1HeightDelta } :: entries

/-- `transformToByteArray`: a re-org header as its RLP encoding, a canonical slot as `[]`. -/
def transformToByteArray (reorgs : List (Option BatchHeader)) : List Bytes :=
  reorgs.map fun
    | some h => rlp.encode h
    | none => []

/-- The loop that picks the first canonical batch (the one with no re-org entry). -/
def firstCanon : List (Batch Tx) → List (Option BatchHeader) → Option (Batch Tx)
  | b :: bs, r :: rs => if r.isNone then some b else firstCanon bs rs
  | _, _ => none

/-- `createRollupHeader`. `batches[0]` panics on an empty list. -/
def createRollupHeader (gob : Codec Int) (s : Storage Tx) (batches : List (Batch Tx)) :
    Except String CalldataRollupHeader :=
  match batches with
  | [] => .error "index out of range"
  | b0 :: _ => do
    let entries ← createRollupHeaderLoop rlpHash s 0 b0.Header.Time 0 batches
    let reorgs := entries.map HeaderEntry.reorg
    let isReorg := reorgs.any Option.isSome
    -- optimisation in case there is no reorg header
    let reorgsBA := if isReorg then transformToByteArray rlp reorgs else []
    let firstCanonBatch := (firstCanon batches reorgs).getD b0
    return {
      FirstBatchSequence := b0.SeqNo
      FirstCanonBatchHeight := firstCanonBatch.Number
      FirstCanonParentHash := firstCanonBatch.Header.ParentHash
      StartTime := b0.Header.Time
      BatchTimeDeltas := entries.map fun e => gob.encode e.deltaTime
      L1HeightDeltas := entries.map fun e => gob.encode e.l1HeightDelta
      ReOrgs := reorgsBA }

end Encode

section Decode

variable (gob : Codec Int) (rlp : Codec BatchHeader) (deriveSha : List Tx → Hash)

/-- `getAncestorOfHeight`: walk parents from `head` to the first block whose `NumberU64`
equals `ancestorHeight.Uint64()`. The Go recursion has no bound; the walk here may make
`head.number + 1` fetches, which in a well-formed store is more than any walk from a stored
head can make before a fetch fails. -/
def getAncestorOfHeight (s : Storage Tx) (ancestorHeight : Int) (head : L1Block) :
    Except String L1Block :=
  walkTo s.links (fun b => b.NumberU64 == Go.bigUint64 ancestorHeight)
    "ancestor walk exhausted" (head.number + 1) head

/-- The re-org header at index `idx`, if the sparse `ReOrgs` list has a non-empty entry
there. -/
def reorgHeader (hdr : CalldataRollupHeader) (idx : Nat) : Except String (Option BatchHeader) :=
  if hdr.ReOrgs.length > 0 then do
    let encHeader ← Go.index hdr.ReOrgs idx
    if encHeader.length > 0 then some <$> rlp.decode encHeader else pure none
  else pure none

/-- The hash of a batch's transactions, as `createIncompleteBatches` computes it. -/
def txHashOf (txs : List Tx) : Hash :=
  if txs.length = 0 then EmptyRootHash else deriveSha txs

/-- The range loop of `createIncompleteBatches` from index `idx` on, with its three
accumulators: the current height, time and L1 height. -/
def createIncompleteBatchesLoop (s : Storage Tx) (hdr : CalldataRollupHeader)
    (rollupL1Block : L1Block) (startAtSeq : Int64) :
    Nat → Int64 → Int64 → Int → List (List Tx) → Except String (List (BatchFromRollup Tx))
  | _, _, _, _, [] => .ok []
  | idx, currentHeight, currentTime, currentL1Height, batchTransactions :: rest => do
    -- the l1 proofs are stored as deltas; the first element is the actual height
    let l1Delta ← gob.decode (← Go.index hdr.L1HeightDeltas idx)
    let currentL1Height : Int :=
      if idx = 0 then l1Delta
      else Go.newInt (Go.bigInt64 l1Delta + Go.bigInt64 currentL1Height)
    let block ← getAncestorOfHeight s currentL1Height rollupL1Block
    let timeDelta ← gob.decode (← Go.index hdr.BatchTimeDeltas idx)
    let currentTime := currentTime + Go.bigInt64 timeDelta
    let currentSeqNo := Go.newInt (startAtSeq + Int64.ofNat idx)
    let fullReorgedHeader ← reorgHeader rlp hdr idx
    -- only if the batch is canonical, increment the height
    let currentHeight := if fullReorgedHeader.isNone then currentHeight + 1 else currentHeight
    let b : BatchFromRollup Tx := {
      transactions := batchTransactions
      seqNo := currentSeqNo
      height := Go.newInt currentHeight
      txHash := txHashOf deriveSha batchTransactions
      time := currentTime.toUInt64
      l1Proof := block.hash
      header := fullReorgedHeader }
    let bs ← createIncompleteBatchesLoop s hdr rollupL1Block startAtSeq (idx + 1)
      currentHeight currentTime currentL1Height rest
    return b :: bs

/-- `createIncompleteBatches`. -/
def createIncompleteBatches (s : Storage Tx) (hdr : CalldataRollupHeader)
    (transactionsPerBatch : List (List Tx)) (compressionL1Head : L1BlockHash) :
    Except String (List (BatchFromRollup Tx)) := do
  let startAtSeq := Go.bigInt64 hdr.FirstBatchSequence
  let currentHeight := Go.bigInt64 hdr.FirstCanonBatchHeight - 1
  let currentTime := hdr.StartTime.toInt64
  let rollupL1Block ← s.FetchBlock compressionL1Head
  createIncompleteBatchesLoop gob rlp deriveSha s hdr rollupL1Block startAtSeq 0
    currentHeight currentTime 0 transactionsPerBatch

end Decode

/-- `createRollupHeader`'s test: the canonical batch stored at `b`'s height is `b` itself. -/
def isCanonical (rlpHash : BatchHeader → Hash) (s : Storage Tx) (b : Batch Tx) : Bool :=
  match s.FetchBatchByHeight b.NumberU64 with
  | .ok can => can.Hash rlpHash == b.Hash rlpHash
  | .error _ => false

-- ---------------------------------------------------------------------------
-- The encoder loop
-- ---------------------------------------------------------------------------

section EncoderLoop

variable {rlpHash : BatchHeader → Hash} {s : Storage Tx}

/-- One iteration of the encoder loop, read backwards from a successful run. -/
theorem createRollupHeaderLoop_cons_eq_ok {i : Nat} {prev : UInt64} {prevL1Height : Int}
    {b : Batch Tx} {rest : List (Batch Tx)} {es : List HeaderEntry}
    (h : createRollupHeaderLoop rlpHash s i prev prevL1Height (b :: rest) = .ok es) :
    ∃ can blk es', s.FetchBatchByHeight b.NumberU64 = .ok can ∧
      s.FetchBlock b.Header.L1Proof = .ok blk ∧
      createRollupHeaderLoop rlpHash s (i + 1) b.Header.Time blk.number rest = .ok es' ∧
      es = { reorg := if can.Hash rlpHash != b.Hash rlpHash then some b.Header else none
             deltaTime := Go.newInt (b.Header.Time - prev).toInt64
             l1HeightDelta := if i = 0 then (blk.number : Int)
               else Go.newInt (Go.bigInt64 blk.number - Go.bigInt64 prevL1Height) } :: es' := by
  simp only [createRollupHeaderLoop, Except.bind_eq_ok, Except.pure_eq_ok, Except.ok.injEq] at h
  obtain ⟨can, hcan, blk, hblk, es', hrest, rfl⟩ := h
  exact ⟨can, blk, es', hcan, hblk, hrest, rfl⟩

/-- The re-org slot the encoder writes for a batch whose height lookup returned `can`. -/
theorem reorg_slot_eq {b can : Batch Tx} (hcan : s.FetchBatchByHeight b.NumberU64 = .ok can) :
    (if can.Hash rlpHash != b.Hash rlpHash then some b.Header else none) =
      if isCanonical rlpHash s b then none else some b.Header := by
  by_cases h : can.Hash rlpHash = b.Hash rlpHash <;> simp [isCanonical, hcan, h]

/-- The encoder loop succeeds when every height lookup and every L1 proof fetch does. -/
theorem createRollupHeaderLoop_eq_ok {bs : List (Batch Tx)}
    (hcan : ∀ b ∈ bs, ∃ can, s.FetchBatchByHeight b.NumberU64 = .ok can)
    (hblk : ∀ b ∈ bs, ∃ blk, s.FetchBlock b.Header.L1Proof = .ok blk) :
    ∀ i prev prevL1Height, ∃ es, createRollupHeaderLoop rlpHash s i prev prevL1Height bs = .ok es := by
  induction bs with
  | nil => exact fun _ _ _ => ⟨[], rfl⟩
  | cons b rest ih =>
    intro i prev prevL1Height
    obtain ⟨can, hc⟩ := hcan b List.mem_cons_self
    obtain ⟨blk, hb⟩ := hblk b List.mem_cons_self
    obtain ⟨es, hes⟩ := ih (fun b' hb' => hcan b' (List.mem_cons_of_mem _ hb'))
      (fun b' hb' => hblk b' (List.mem_cons_of_mem _ hb')) (i + 1) b.Header.Time blk.number
    simp only [createRollupHeaderLoop, hc, hb, hes, Except.ok_bind', Except.pure_eq_ok]
    exact ⟨_, rfl⟩

/-- The encoder writes a re-org header exactly for the batches that are not canonical. -/
theorem createRollupHeaderLoop_reorg {bs : List (Batch Tx)} :
    ∀ {i prev prevL1Height es}, createRollupHeaderLoop rlpHash s i prev prevL1Height bs = .ok es →
      List.Forall₂ (fun b e => e.reorg = if isCanonical rlpHash s b then none else some b.Header)
        bs es := by
  induction bs with
  | nil =>
    intro i prev prevL1Height es h
    cases h
    exact .nil
  | cons b rest ih =>
    intro i prev prevL1Height es h
    obtain ⟨can, blk, es', hcan, -, hrest, rfl⟩ := createRollupHeaderLoop_cons_eq_ok h
    exact .cons (reorg_slot_eq hcan) (ih hrest)

/-- The first-canonical search finds the first batch the classification keeps. -/
theorem firstCanon_eq_head_filter {bs : List (Batch Tx)} {rs : List (Option BatchHeader)}
    (h : List.Forall₂ (fun b r => r = if isCanonical rlpHash s b then none else some b.Header)
      bs rs) :
    firstCanon bs rs = (bs.filter (isCanonical rlpHash s)).head? := by
  induction h with
  | nil => rfl
  | @cons b r bs' rs' hr _ ih =>
    have hnone : r.isNone = isCanonical rlpHash s b := by
      subst hr
      cases isCanonical rlpHash s b <;> rfl
    rw [firstCanon, hnone, List.filter_cons]
    by_cases hb : isCanonical rlpHash s b = true
    · simp [hb]
    · simp [hb, ih]

end EncoderLoop

-- ---------------------------------------------------------------------------
-- The decoder loop, one accumulator at a time
-- ---------------------------------------------------------------------------

section DecoderSteps

/-- Time: the stored delta, taken in `uint64` and read back as `int64`, added to the
previous time gives this batch's time, for every pair of `uint64` times. -/
theorem time_step (prev t : UInt64) :
    prev.toInt64 + Go.bigInt64 (Go.newInt (t - prev).toInt64) = t.toInt64 := by
  rw [Go.bigInt64_newInt, ← UInt64.toInt64_add]
  simp

/-- L1 height: the decoder's accumulator undoes the encoder's delta, exactly when the height
fits 63 bits (the first entry is absolute and needs no bound). -/
theorem l1Height_step {idx n : Nat} {prev d : Int} (hn : n < 2 ^ 63)
    (hd : d = if idx = 0 then (n : Int) else Go.newInt (Go.bigInt64 n - Go.bigInt64 prev)) :
    (if idx = 0 then d else Go.newInt (Go.bigInt64 d + Go.bigInt64 prev)) = n := by
  subst hd
  by_cases h0 : idx = 0
  · simp [h0]
  · simp only [h0, if_false, Go.bigInt64_newInt, Int64.sub_add_cancel]
    exact Go.newInt_bigInt64_natCast hn

/-- Sequence number: the first one plus the index, when it fits 63 bits. -/
theorem seqNo_step {first idx : Nat} (h : first + idx < 2 ^ 63) :
    Go.newInt (Go.bigInt64 first + Int64.ofNat idx) = ((first + idx : Nat) : Int) := by
  have : Go.bigInt64 first + Int64.ofNat idx = Go.bigInt64 ((first + idx : Nat) : Int) := by
    simp [Go.bigInt64, Int64.ofInt_eq_ofNat]
  rw [this]
  exact Go.newInt_bigInt64_natCast h

/-- The sparse re-org list read from index `idx` on holds `rs`: either the list is empty and
every slot is canonical, or it lists the slots' encodings from `idx` on. -/
def ReorgsAt (rlp : Codec BatchHeader) (hdr : CalldataRollupHeader) (idx : Nat)
    (rs : List (Option BatchHeader)) : Prop :=
  (hdr.ReOrgs = [] ∧ ∀ r ∈ rs, r = none) ∨
    (0 < hdr.ReOrgs.length ∧ hdr.ReOrgs.drop idx = transformToByteArray rlp rs)

/-- Re-orgs: the decoder reads back the slot the encoder wrote, since an RLP encoding is
never empty. -/
theorem reorgHeader_step {rlp : Codec BatchHeader} {hdr : CalldataRollupHeader} {idx : Nat}
    {r : Option BatchHeader} {rs : List (Option BatchHeader)} (h : ReorgsAt rlp hdr idx (r :: rs)) :
    reorgHeader rlp hdr idx = .ok r ∧ ReorgsAt rlp hdr (idx + 1) rs := by
  rcases h with ⟨hnil, hall⟩ | ⟨hpos, hdrop⟩
  · have hr : r = none := hall r List.mem_cons_self
    exact ⟨by simp [reorgHeader, hnil, hr],
      .inl ⟨hnil, fun r' hr' => hall r' (List.mem_cons_of_mem _ hr')⟩⟩
  · refine ⟨?_, .inr ⟨hpos, Go.drop_succ_of_drop hdrop⟩⟩
    have hidx := Go.index_eq_ok_of_drop hdrop
    cases r with
    | none => simp [reorgHeader, hpos, hidx]
    | some hd => simp [reorgHeader, hpos, hidx]

variable {gob : Codec Int} {rlp : Codec BatchHeader} {deriveSha : List Tx → Hash}
  {s : Storage Tx}

/-- One iteration of the decoder loop, given the results of its reads. -/
theorem createIncompleteBatchesLoop_cons {hdr : CalldataRollupHeader} {head : L1Block}
    {startAtSeq : Int64} {idx : Nat} {curH curT : Int64} {curL1 : Int} {txs : List Tx}
    {rest : List (List Tx)} {l1Bytes tBytes : Bytes} {l1Delta timeDelta : Int} {block : L1Block}
    {r : Option BatchHeader}
    (hl1 : Go.index hdr.L1HeightDeltas idx = .ok l1Bytes) (hl1d : gob.decode l1Bytes = .ok l1Delta)
    (hblock : getAncestorOfHeight s
      (if idx = 0 then l1Delta else Go.newInt (Go.bigInt64 l1Delta + Go.bigInt64 curL1)) head =
        .ok block)
    (ht : Go.index hdr.BatchTimeDeltas idx = .ok tBytes) (htd : gob.decode tBytes = .ok timeDelta)
    (hr : reorgHeader rlp hdr idx = .ok r) :
    createIncompleteBatchesLoop gob rlp deriveSha s hdr head startAtSeq idx curH curT curL1
        (txs :: rest) = (do
      let bs ← createIncompleteBatchesLoop gob rlp deriveSha s hdr head startAtSeq (idx + 1)
        (if r.isNone then curH + 1 else curH) (curT + Go.bigInt64 timeDelta)
        (if idx = 0 then l1Delta else Go.newInt (Go.bigInt64 l1Delta + Go.bigInt64 curL1)) rest
      pure ({ transactions := txs
              seqNo := Go.newInt (startAtSeq + Int64.ofNat idx)
              height := Go.newInt (if r.isNone then curH + 1 else curH)
              txHash := txHashOf deriveSha txs
              time := (curT + Go.bigInt64 timeDelta).toUInt64
              l1Proof := block.hash
              header := r } :: bs)) := by
  simp only [createIncompleteBatchesLoop, hl1, hl1d, hblock, ht, htd, hr, Except.ok_bind']

/-- Heights: `curH + 1` is the height of the next canonical batch, and the canonical batches
still ahead have consecutive heights that fit 63 bits. -/
def HeightInv (curH : Int64) (canon : List (Batch Tx)) : Prop :=
  (∀ c ∈ canon.head?, Go.bigInt64 c.Number = curH + 1) ∧
    canon.IsChain (fun a c => c.Number = a.Number + 1) ∧ ∀ c ∈ canon, c.Number < 2 ^ 63

/-- Heights: a canonical batch takes the height `curH + 1` and moves the accumulator on; a
re-orged one leaves it. -/
theorem HeightInv.cons {p : Batch Tx → Bool} {curH : Int64} {b : Batch Tx}
    {rest : List (Batch Tx)} (h : HeightInv curH ((b :: rest).filter p)) :
    HeightInv (if p b then curH + 1 else curH) (rest.filter p) ∧
      (p b = true → Go.newInt (curH + 1) = b.Number) := by
  obtain ⟨hfirst, hchain, hbound⟩ := h
  by_cases hp : p b = true
  · rw [if_pos hp]
    simp only [List.filter_cons, hp, if_true, List.head?_cons, Option.mem_def,
      Option.some.injEq, forall_eq', List.mem_cons, forall_eq_or_imp] at hfirst hchain hbound
    refine ⟨⟨?_, hchain.tail, hbound.2⟩, fun _ => ?_⟩
    · cases hl : rest.filter p with
      | nil => simp
      | cons c l =>
        rw [hl, List.isChain_cons_cons] at hchain
        intro c' hc'
        simp only [List.head?_cons, Option.mem_def, Option.some.injEq] at hc'
        subst hc'
        rw [hchain.1, Go.bigInt64_natCast_succ, hfirst]
    · rw [← hfirst]
      exact Go.newInt_bigInt64_natCast hbound.1
  · rw [if_neg hp]
    simp only [List.filter_cons, hp, Bool.false_eq_true, if_false] at hfirst hchain hbound
    exact ⟨⟨hfirst, hchain, hbound⟩, fun h => absurd h hp⟩

/-- Sequence numbers: the batch at index `idx` carries `first + idx`, and those ahead follow
on consecutively, within 63 bits. -/
def SeqInv (first idx : Nat) (rest : List (Batch Tx)) : Prop :=
  (∀ b ∈ rest.head?, b.SeqNo = first + idx) ∧
    rest.IsChain (fun a b => b.SeqNo = a.SeqNo + 1) ∧ ∀ b ∈ rest, b.SeqNo < 2 ^ 63

theorem SeqInv.cons {first idx : Nat} {b : Batch Tx} {rest : List (Batch Tx)}
    (h : SeqInv first idx (b :: rest)) :
    SeqInv first (idx + 1) rest ∧ b.SeqNo = first + idx ∧ first + idx < 2 ^ 63 := by
  obtain ⟨hfirst, hchain, hbound⟩ := h
  simp only [List.head?_cons, Option.mem_def, Option.some.injEq, forall_eq', List.mem_cons,
    forall_eq_or_imp] at hfirst hbound
  refine ⟨⟨?_, hchain.tail, hbound.2⟩, hfirst, hfirst ▸ hbound.1⟩
  cases rest with
  | nil => simp
  | cons c l =>
    rw [List.isChain_cons_cons] at hchain
    simp [hchain.1, hfirst]
    omega

/-- In a well-formed store the walk from a stored head returns the ancestor at the height it
is given, when heights fit 64 bits. -/
theorem getAncestorOfHeight_eq (hwf : WellFormed s.links) {head a : L1Block}
    (hhead : IsStored s.links head) (hbound : head.number < 2 ^ 64)
    (ha : AncestorOrSelf s.links head a) :
    getAncestorOfHeight s a.number head = .ok a := by
  obtain ⟨n, hn⟩ := ha
  have hnum : a.number + n = head.number := hn.number_add hwf hhead
  apply walkTo_of_ancestorAt hn
  · simp [L1Block.NumberU64, Go.bigUint64_natCast]
  · intro m c hm hc
    have hcnum : c.number + m = head.number := hc.number_add hwf hhead
    have hne : c.number ≠ a.number := by omega
    simp only [L1Block.NumberU64, Go.bigUint64_natCast, beq_eq_false_iff_ne, ne_eq]
    exact fun h => hne (Go.ofNat_inj_of_lt (by omega) (by omega) h)
  · omega

/-- A walk that finds no ancestor-or-self at the height it is given leaves the stored chain:
it returns the error of a failed parent fetch, from an ancestor-or-self of the head, when both
the head's height and the height asked for are 64-bit. -/
theorem getAncestorOfHeight_error (hwf : WellFormed s.links) {head : L1Block}
    (hhead : IsStored s.links head) (hbound : head.number < 2 ^ 64) {k : Int} (hk0 : 0 ≤ k)
    (hk : k < 2 ^ 64) (hnone : ∀ a, AncestorOrSelf s.links head a → (a.number : Int) ≠ k) :
    ∃ c e, AncestorOrSelf s.links head c ∧ s.FetchBlock c.parentHash = .error e ∧
      getAncestorOfHeight s k head = .error e := by
  -- no block of the path passes the test: its height is below `2^64`, and not `k`
  have hstop : ∀ c, AncestorOrSelf s.links head c → (c.NumberU64 == Go.bigUint64 k) = false := by
    intro c hc
    have hle : c.number ≤ head.number := hc.number_le hwf hhead
    have hne : (c.number : Int) ≠ k := hnone c hc
    simp only [L1Block.NumberU64, Go.bigUint64, beq_eq_false_iff_ne, ne_eq]
    intro h
    have := Go.ofNat_inj_of_lt (by omega) (by omega) h
    omega
  exact walkTo_of_forall_stop_false hwf hhead hstop (Nat.lt_succ_self _)

end DecoderSteps

-- ---------------------------------------------------------------------------
-- The round trip
-- ---------------------------------------------------------------------------

/-- What the round trip recovers of batch `b` in the rebuilt `r`: sequence number, time,
transactions and their hash always; height and L1 proof for a canonical batch; the carried
header for a re-orged one. -/
structure Reconstructs (rlpHash : BatchHeader → Hash) (deriveSha : List Tx → Hash)
    (s : Storage Tx) (b : Batch Tx) (r : BatchFromRollup Tx) : Prop where
  seqNo : r.seqNo = b.SeqNo
  time : r.time = b.Header.Time
  transactions : r.transactions = b.Transactions
  txHash : r.txHash = deriveSha b.Transactions
  canonical : isCanonical rlpHash s b = true → r.height = b.Number ∧ r.l1Proof = b.Header.L1Proof
  reorged : isCanonical rlpHash s b = false → r.header = some b.Header

section RoundTrip

variable {gob : Codec Int} {rlp : Codec BatchHeader} {rlpHash : BatchHeader → Hash}
  {deriveSha : List Tx → Hash} {s : Storage Tx}

theorem txHashOf_eq (hsha : deriveSha [] = EmptyRootHash) (txs : List Tx) :
    txHashOf deriveSha txs = deriveSha txs := by
  cases txs with
  | nil => simp [txHashOf, hsha]
  | cons t ts => simp [txHashOf]

/-- **The decoder loop undoes the encoder loop**, by induction on the batches still ahead. The
encoder's accumulators (`prev`, `prevL1`) and the decoder's (`curH`, `curT`, and the L1
height, which both sides hold as `prevL1`) are related by the invariants in the hypotheses. -/
theorem createIncompleteBatchesLoop_roundTrip (hsha : deriveSha [] = EmptyRootHash)
    (hkeyed : ∀ h blk, s.FetchBlock h = .ok blk → blk.hash = h) (hwf : WellFormed s.links)
    (hl1 : ∀ h blk, s.FetchBlock h = .ok blk → blk.number < 2 ^ 63) {head : L1Block}
    (hhead : IsStored s.links head) (hdr : CalldataRollupHeader) (first : Nat) :
    ∀ (rest : List (Batch Tx)) (idx : Nat) (prev : UInt64) (prevL1 : Int) (curH curT : Int64)
      (es : List HeaderEntry),
      createRollupHeaderLoop rlpHash s idx prev prevL1 rest = .ok es →
      hdr.BatchTimeDeltas.drop idx = es.map (fun e => gob.encode e.deltaTime) →
      hdr.L1HeightDeltas.drop idx = es.map (fun e => gob.encode e.l1HeightDelta) →
      ReorgsAt rlp hdr idx (es.map HeaderEntry.reorg) →
      curT = prev.toInt64 →
      HeightInv curH (rest.filter (isCanonical rlpHash s)) →
      SeqInv first idx rest →
      (∀ b ∈ rest, ∀ blk, s.FetchBlock b.Header.L1Proof = .ok blk →
        (∃ a, AncestorOrSelf s.links head a ∧ a.number = blk.number) ∧
          (isCanonical rlpHash s b = true → AncestorOrSelf s.links head blk)) →
      ∃ res, createIncompleteBatchesLoop gob rlp deriveSha s hdr head (Go.bigInt64 first) idx
          curH curT prevL1 (rest.map (·.Transactions)) = .ok res ∧
        List.Forall₂ (Reconstructs rlpHash deriveSha s) rest res
  | [], _, _, _, _, _, _, _, _, _, _, _, _, _, _ => ⟨[], rfl, .nil⟩
  | b :: rest, idx, prev, prevL1, curH, curT, es, hloop, htime, hl1d, hreorg, hT, hH, hS,
      hproofs => by
    obtain ⟨can, blk, es', hcan, hblk, hloop', rfl⟩ := createRollupHeaderLoop_cons_eq_ok hloop
    rw [List.map_cons] at htime hl1d hreorg
    -- the L1 height: rebuilt exactly, then resolved to the ancestor of the head at it
    have hL1 := @l1Height_step idx _ prevL1 _ (hl1 _ _ hblk) rfl
    obtain ⟨⟨a, ha, hanum⟩, hcanon⟩ := hproofs b List.mem_cons_self blk hblk
    have hblock : getAncestorOfHeight s blk.number head = .ok a := by
      rw [← hanum]
      exact getAncestorOfHeight_eq hwf hhead (hl1 _ _ hhead.choose_spec |>.trans (by norm_num)) ha
    -- the re-org slot, and the two accumulators that depend on it
    obtain ⟨hr, hreorg'⟩ := reorgHeader_step hreorg
    have hslot := @reorg_slot_eq _ rlpHash _ _ _ hcan
    set r := if can.Hash rlpHash != b.Hash rlpHash then some b.Header else none with hr_def
    have hnone : r.isNone = isCanonical rlpHash s b := by
      rw [hslot]
      cases isCanonical rlpHash s b <;> rfl
    obtain ⟨hH', hheight⟩ := @HeightInv.cons _ (isCanonical rlpHash s) _ _ _ hH
    obtain ⟨hS', hseq, hseqBound⟩ := SeqInv.cons hS
    rw [List.map_cons, createIncompleteBatchesLoop_cons (Go.index_eq_ok_of_drop hl1d)
      (gob.decode_encode _) (by rw [hL1]; exact hblock) (Go.index_eq_ok_of_drop htime)
      (gob.decode_encode _) hr, hL1, hnone]
    obtain ⟨res, hres, hall⟩ := createIncompleteBatchesLoop_roundTrip hsha hkeyed hwf hl1 hhead
      hdr first rest (idx + 1) b.Header.Time blk.number _ _ es' hloop'
      (Go.drop_succ_of_drop htime) (Go.drop_succ_of_drop hl1d) hreorg' rfl hH' hS'
      (fun b' hb' => hproofs b' (List.mem_cons_of_mem _ hb'))
    refine ⟨_, by rw [hT, time_step, hres]; rfl, .cons ⟨?_, ?_, rfl, txHashOf_eq hsha _, ?_, ?_⟩ hall⟩
    · rw [seqNo_step hseqBound, hseq]
    · exact UInt64.toUInt64_toInt64 _
    · intro hc
      have hab : a = blk := AncestorOrSelf.eq_of_number hwf hhead ha (hcanon hc) hanum
      simp only [hc, if_true]
      exact ⟨hheight hc, by rw [hab]; exact hkeyed _ _ hblk⟩
    · intro hc
      show r = some b.Header
      rw [hslot, hc]
      rfl

end RoundTrip

/-- The hypotheses of the round trip: a non-empty list with
consecutive sequence numbers, consecutive heights among the batches classified canonical,
every lookup the encoder makes answered, and the L1 proof of every canonical batch on the
chain below the compression head. -/
structure CompressionHyps (rlpHash : BatchHeader → Hash) (s : Storage Tx) (bs : List (Batch Tx))
    (head : L1BlockHash) (headBlock : L1Block) : Prop where
  nonempty : bs ≠ []
  seqNos : bs.IsChain fun a b => b.SeqNo = a.SeqNo + 1
  heights : (bs.filter (isCanonical rlpHash s)).IsChain fun a b => b.Number = a.Number + 1
  classified : ∀ b ∈ bs, ∃ can, s.FetchBatchByHeight b.NumberU64 = .ok can
  proofStored : ∀ b ∈ bs, ∃ blk, s.FetchBlock b.Header.L1Proof = .ok blk
  headStored : s.FetchBlock head = .ok headBlock
  canonProof : ∀ b ∈ bs, isCanonical rlpHash s b = true →
    ∀ blk, s.FetchBlock b.Header.L1Proof = .ok blk → AncestorOrSelf s.links headBlock blk

/-- The round trip's conclusion: both directions succeed, and the rebuilt batch at every index
`Reconstructs` the original there. -/
def RoundTrips (gob : Codec Int) (rlp : Codec BatchHeader) (rlpHash : BatchHeader → Hash)
    (deriveSha : List Tx → Hash) (s : Storage Tx) (bs : List (Batch Tx)) (head : L1BlockHash) :
    Prop :=
  ∃ hdr res, createRollupHeader rlp rlpHash gob s bs = .ok hdr ∧
    createIncompleteBatches gob rlp deriveSha s hdr (bs.map (·.Transactions)) head = .ok res ∧
    res.length = bs.length ∧
    ∀ i (hb : i < bs.length) (hr : i < res.length), Reconstructs rlpHash deriveSha s bs[i] res[i]

/-- What the round trip needs beyond the stated hypotheses: the L1 store answers each hash
with the block of that hash and is well formed (stored parents one lower), the 64-bit
accumulators do not wrap (L1 heights, canonical heights and sequence numbers below `2^63`),
and a re-orged batch's L1 height also has an ancestor-or-self below the compression head,
since the decoder resolves every batch's L1 height, canonical or not. -/
structure RoundTripHyps (rlpHash : BatchHeader → Hash) (s : Storage Tx) (bs : List (Batch Tx))
    (head : L1BlockHash) (headBlock : L1Block) : Prop
    extends CompressionHyps rlpHash s bs head headBlock where
  keyed : ∀ h blk, s.FetchBlock h = .ok blk → blk.hash = h
  wellFormed : WellFormed s.links
  l1Bound : ∀ h blk, s.FetchBlock h = .ok blk → blk.number < 2 ^ 63
  seqBound : ∀ b ∈ bs, b.SeqNo < 2 ^ 63
  heightBound : ∀ b ∈ bs, isCanonical rlpHash s b = true → b.Number < 2 ^ 63
  reorgProof : ∀ b ∈ bs, isCanonical rlpHash s b = false →
    ∀ blk, s.FetchBlock b.Header.L1Proof = .ok blk →
      ∃ a, AncestorOrSelf s.links headBlock a ∧ a.number = blk.number

/-! ## Concrete runs

Two batches on an L1 chain `P ← H` (`H` the compression head, at height 10). `cxBatch0` is
the canonical batch at height 5 with proof `P`; `cxBatch1` is a re-orged batch at height 6
(the canonical one there, `cxCanon6`, has another hash). The keccak stand-in hashes a header to
its sequence number, which tells the three batches apart. -/

/-- A batch header with only the fields the compression reads set. -/
def cxHeader (number seqNo : Nat) (time : UInt64) (l1Proof : L1BlockHash) : BatchHeader :=
  { ParentHash := 0, Root := 0, TxHash := 0, ReceiptHash := 0, Number := number,
    SequencerOrderNo := seqNo, GasLimit := 0, GasUsed := 0, Time := time, Extra := [],
    BaseFee := none, L1Proof := l1Proof, R := none, S := none, CrossChainMessages := [],
    LatestInboundCrossChainHash := 0, LatestInboundCrossChainHeight := none }

def cxRlpHash (h : BatchHeader) : Hash := BitVec.ofNat 256 h.SequencerOrderNo

def cxHead : L1Block := ⟨4, 2, 10⟩
def cxProof : L1Block := ⟨2, 1, 9⟩
/-- An L1 block on a fork, one above the compression head. -/
def cxFork : L1Block := ⟨5, 3, 11⟩

def cxBatch0 : Batch Unit := ⟨cxHeader 5 10 100 2, []⟩
def cxCanon6 : Batch Unit := ⟨cxHeader 6 12 95 2, []⟩

/-- The store: canonical batches at heights 5 and 6, and the blocks `H`, `P` and the fork. -/
def cxStorage : Storage Unit where
  FetchBatchByHeight h :=
    if h = 5 then .ok cxBatch0 else if h = 6 then .ok cxCanon6 else .error "not found"
  FetchBlock h :=
    if h = 4 then .ok cxHead else if h = 2 then .ok cxProof
    else if h = 5 then .ok cxFork else .error "not found"

/-- `P` is the parent of the head. -/
theorem cxHead_ancestor_cxProof : AncestorOrSelf cxStorage.links cxHead cxProof :=
  ⟨1, .step rfl (.refl cxProof)⟩

def cxReorg : Batch Unit := ⟨cxHeader 6 11 90 2, []⟩

theorem cxBatch0_canonical : isCanonical cxRlpHash cxStorage cxBatch0 = true := by decide

theorem cxReorg_not_canonical : isCanonical cxRlpHash cxStorage cxReorg = false := by decide

section Main

variable {gob : Codec Int} {rlp : Codec BatchHeader} {rlpHash : BatchHeader → Hash}
  {deriveSha : List Tx → Hash} {s : Storage Tx}

/-- The re-org list the encoder writes is read back slot by slot from index 0. -/
theorem reorgsAt_zero {hdr : CalldataRollupHeader} {rs : List (Option BatchHeader)}
    (hne : rs ≠ [])
    (h : hdr.ReOrgs = if rs.any Option.isSome then transformToByteArray rlp rs else []) :
    ReorgsAt rlp hdr 0 rs := by
  by_cases hany : rs.any Option.isSome = true
  · rw [if_pos hany] at h
    refine .inr ⟨?_, by rw [h]; rfl⟩
    simpa [h, transformToByteArray, List.length_pos_iff] using hne
  · rw [if_neg hany] at h
    refine .inl ⟨h, fun r hr => ?_⟩
    simp only [List.any_eq_true, not_exists, not_and, Bool.not_eq_true,
      Option.isSome_eq_false_iff, Option.isNone_iff_eq_none] at hany
    exact hany r hr

/-- **Rollup header compression round-trips** under `RoundTripHyps`: for every batch of the
list, the rebuilt batch at its index has its sequence number, time (for all `uint64` times),
transactions and their hash; a canonical batch also its height and L1 proof, and a re-orged
one carries its full header. -/
theorem createIncompleteBatches_createRollupHeader (hsha : deriveSha [] = EmptyRootHash)
    {bs : List (Batch Tx)} {head : L1BlockHash} {headBlock : L1Block}
    (h : RoundTripHyps rlpHash s bs head headBlock) :
    RoundTrips gob rlp rlpHash deriveSha s bs head := by
  obtain ⟨b0, rest, rfl⟩ := List.exists_cons_of_ne_nil h.nonempty
  obtain ⟨es, hes⟩ := @createRollupHeaderLoop_eq_ok _ rlpHash _ _ h.classified
    h.proofStored 0 b0.Header.Time 0
  -- the re-org slots, and the first canonical batch they single out
  have hrs : List.Forall₂ (fun b r => r = if isCanonical rlpHash s b then none else some b.Header)
      (b0 :: rest) (es.map HeaderEntry.reorg) :=
    List.forall₂_map_right_iff.mpr (createRollupHeaderLoop_reorg hes)
  have hfirst := firstCanon_eq_head_filter hrs
  have hne : es.map HeaderEntry.reorg ≠ [] := by
    intro h0
    simpa [h0] using hrs.length_eq
  set canonBatch := (firstCanon (b0 :: rest) (es.map HeaderEntry.reorg)).getD b0
  set hdr : CalldataRollupHeader := {
    FirstBatchSequence := b0.SeqNo
    FirstCanonBatchHeight := canonBatch.Number
    FirstCanonParentHash := canonBatch.Header.ParentHash
    StartTime := b0.Header.Time
    BatchTimeDeltas := es.map fun e => gob.encode e.deltaTime
    L1HeightDeltas := es.map fun e => gob.encode e.l1HeightDelta
    ReOrgs := if (es.map HeaderEntry.reorg).any Option.isSome then
      transformToByteArray rlp (es.map HeaderEntry.reorg) else [] } with hdr_def
  have hhdr : createRollupHeader rlp rlpHash gob s (b0 :: rest) = .ok hdr := by
    simp only [createRollupHeader, hes, Except.ok_bind', Except.pure_eq_ok]
    rfl
  -- the decoder's three accumulators start where the loop invariant wants them
  have hH : HeightInv (Go.bigInt64 hdr.FirstCanonBatchHeight - 1)
      ((b0 :: rest).filter (isCanonical rlpHash s)) := by
    refine ⟨fun c hc => ?_, h.heights, fun c hc => ?_⟩
    · have hc' : canonBatch = c := by
        simp only [canonBatch, hfirst, Option.mem_def.mp hc, Option.getD_some]
      rw [Int64.sub_add_cancel, ← hc']
    · rw [List.mem_filter] at hc
      exact h.heightBound c hc.1 hc.2
  have hS : SeqInv b0.SeqNo 0 (b0 :: rest) := ⟨by simp, h.seqNos, h.seqBound⟩
  have hproofs : ∀ b ∈ b0 :: rest, ∀ blk, s.FetchBlock b.Header.L1Proof = .ok blk →
      (∃ a, AncestorOrSelf s.links headBlock a ∧ a.number = blk.number) ∧
        (isCanonical rlpHash s b = true → AncestorOrSelf s.links headBlock blk) := by
    intro b hb blk hblk
    refine ⟨?_, fun hc => h.canonProof b hb hc blk hblk⟩
    cases hc : isCanonical rlpHash s b
    · exact h.reorgProof b hb hc blk hblk
    · exact ⟨blk, h.canonProof b hb hc blk hblk, rfl⟩
  obtain ⟨res, hres, hall⟩ := @createIncompleteBatchesLoop_roundTrip _ gob rlp _ _ _
    hsha h.keyed h.wellFormed h.l1Bound _ ⟨head, h.headStored⟩ hdr b0.SeqNo (b0 :: rest) 0
    b0.Header.Time 0 _ _ es hes rfl rfl (reorgsAt_zero hne rfl) rfl hH hS hproofs
  refine ⟨hdr, res, hhdr, ?_, hall.length_eq.symm, fun i hb hr => ?_⟩
  · simp only [createIncompleteBatches, h.headStored, Except.ok_bind']
    exact hres
  · simpa using hall.get hb hr

/-- The blocks of the concrete store, by hash. -/
theorem cxStorage_fetchBlock {h : L1BlockHash} {blk : L1Block}
    (hb : cxStorage.FetchBlock h = .ok blk) :
    (h = 4 ∧ blk = cxHead) ∨ (h = 2 ∧ blk = cxProof) ∨ (h = 5 ∧ blk = cxFork) := by
  simp only [cxStorage] at hb
  split_ifs at hb with h4 h2 h5 <;> cases hb <;> simp_all

theorem cxStorage_keyed (h : L1BlockHash) (blk : L1Block)
    (hb : cxStorage.FetchBlock h = .ok blk) : blk.hash = h := by
  rcases cxStorage_fetchBlock hb with ⟨rfl, rfl⟩ | ⟨rfl, rfl⟩ | ⟨rfl, rfl⟩ <;> rfl

theorem cxStorage_wellFormed : WellFormed cxStorage.links := by
  intro h b p hb hp
  change cxStorage.FetchBlock h = .ok b at hb
  change cxStorage.FetchBlock b.parentHash = .ok p at hp
  change p.number + 1 = b.number
  -- only the head has a stored parent
  rcases cxStorage_fetchBlock hb with ⟨-, rfl⟩ | ⟨-, rfl⟩ | ⟨-, rfl⟩ <;>
    rcases cxStorage_fetchBlock hp with ⟨hh, rfl⟩ | ⟨hh, rfl⟩ | ⟨hh, rfl⟩ <;>
    first | rfl | exact absurd hh (by decide)

theorem cxRoundTripHyps : RoundTripHyps cxRlpHash cxStorage [cxBatch0, cxReorg] 4 cxHead where
  nonempty := by simp
  seqNos := by simp [cxBatch0, cxReorg, Batch.SeqNo, cxHeader]
  heights := by simp [cxBatch0_canonical, cxReorg_not_canonical]
  classified := by
    simp only [List.mem_cons, List.not_mem_nil, or_false, forall_eq_or_imp, forall_eq]
    exact ⟨⟨_, rfl⟩, ⟨_, rfl⟩⟩
  proofStored := by
    simp only [List.mem_cons, List.not_mem_nil, or_false, forall_eq_or_imp, forall_eq]
    exact ⟨⟨_, rfl⟩, ⟨_, rfl⟩⟩
  headStored := rfl
  canonProof := by
    simp only [List.mem_cons, List.not_mem_nil, or_false, forall_eq_or_imp, forall_eq,
      cxReorg_not_canonical, Bool.false_eq_true, IsEmpty.forall_iff, and_true]
    intro _ blk hblk
    cases hblk
    exact cxHead_ancestor_cxProof
  keyed := cxStorage_keyed
  wellFormed := cxStorage_wellFormed
  l1Bound h blk hb := by
    rcases cxStorage_fetchBlock hb with ⟨-, rfl⟩ | ⟨-, rfl⟩ | ⟨-, rfl⟩ <;> decide
  seqBound := by simp [cxBatch0, cxReorg, Batch.SeqNo, cxHeader]
  heightBound := by simp [cxBatch0, cxReorg, Batch.Number, cxHeader]
  reorgProof := by
    simp only [List.mem_cons, List.not_mem_nil, or_false, forall_eq_or_imp, forall_eq,
      cxBatch0_canonical, Bool.true_eq_false, IsEmpty.forall_iff, true_and]
    intro _ blk hblk
    cases hblk
    exact ⟨cxProof, cxHead_ancestor_cxProof, rfl⟩

/-- The round trip on the concrete run, with lossless codecs: the re-orged batch's proof is
below the head, so its L1 height resolves. -/
theorem createIncompleteBatches_createRollupHeader_run :
    RoundTripHyps cxRlpHash cxStorage [cxBatch0, cxReorg] 4 cxHead ∧
      RoundTrips (Classical.choice (Codec.nonempty_of_countable Int))
        (Classical.choice (Codec.nonempty_of_countable BatchHeader)) cxRlpHash
        (fun _ => EmptyRootHash) cxStorage [cxBatch0, cxReorg] 4 :=
  ⟨cxRoundTripHyps, createIncompleteBatches_createRollupHeader rfl cxRoundTripHyps⟩

end Main

/-- The round trip, for all lossless codecs and every list that meets its hypotheses. -/
def CompressionRoundTrip : Prop :=
  ∀ (Tx : Type) (gob : Codec Int) (rlp : Codec BatchHeader) (rlpHash : BatchHeader → Hash)
    (deriveSha : List Tx → Hash), deriveSha [] = EmptyRootHash →
  ∀ (s : Storage Tx) (bs : List (Batch Tx)) (head : L1BlockHash) (headBlock : L1Block),
    CompressionHyps rlpHash s bs head headBlock → RoundTrips gob rlp rlpHash deriveSha s bs head

/-- The re-orged batch whose L1 proof is the fork block above the compression head. -/
def cxReorgAbove : Batch Unit := ⟨cxHeader 6 11 90 5, []⟩

theorem cxReorgAbove_not_canonical : isCanonical cxRlpHash cxStorage cxReorgAbove = false := by
  decide

/-- The stated hypotheses hold for `[cxBatch0, cxReorgAbove]`. -/
theorem cxCompressionHyps : CompressionHyps cxRlpHash cxStorage [cxBatch0, cxReorgAbove] 4 cxHead where
  nonempty := by simp
  seqNos := by simp [cxBatch0, cxReorgAbove, Batch.SeqNo, cxHeader]
  heights := by simp [cxBatch0_canonical, cxReorgAbove_not_canonical]
  classified := by
    simp only [List.mem_cons, List.not_mem_nil, or_false, forall_eq_or_imp, forall_eq]
    exact ⟨⟨_, rfl⟩, ⟨_, rfl⟩⟩
  proofStored := by
    simp only [List.mem_cons, List.not_mem_nil, or_false, forall_eq_or_imp, forall_eq]
    exact ⟨⟨_, rfl⟩, ⟨_, rfl⟩⟩
  headStored := rfl
  canonProof := by
    simp only [List.mem_cons, List.not_mem_nil, or_false, forall_eq_or_imp, forall_eq,
      cxReorgAbove_not_canonical, Bool.false_eq_true, IsEmpty.forall_iff, and_true]
    intro _ blk hblk
    cases hblk
    exact cxHead_ancestor_cxProof

/-- What the encoder writes for `[cxBatch0, cxReorgAbove]`, whatever the codecs. -/
theorem cx_createRollupHeader (gob : Codec Int) (rlp : Codec BatchHeader) :
    createRollupHeader rlp cxRlpHash gob cxStorage [cxBatch0, cxReorgAbove] = .ok
      { FirstBatchSequence := 10, FirstCanonBatchHeight := 5, FirstCanonParentHash := 0,
        StartTime := 100,
        BatchTimeDeltas := [gob.encode (Go.newInt ((100 : UInt64) - 100).toInt64),
          gob.encode (Go.newInt ((90 : UInt64) - 100).toInt64)],
        L1HeightDeltas := [gob.encode 9, gob.encode (Go.newInt (Go.bigInt64 11 - Go.bigInt64 9))],
        ReOrgs := [[], rlp.encode cxReorgAbove.Header] } := rfl

theorem cx_fetchHead : cxStorage.FetchBlock 4 = .ok cxHead := rfl

/-- The canonical batch's height 9 resolves to `P`... -/
theorem cx_getAncestorOfHeight_proof : getAncestorOfHeight cxStorage 9 cxHead = .ok cxProof := rfl

/-- ...but the fork's height 11, one above the head, walks off the stored chain. -/
theorem cx_getAncestorOfHeight_fork :
    getAncestorOfHeight cxStorage (Go.newInt (Go.bigInt64 11)) cxHead = .error "not found" := rfl

/-- **The stated round trip fails.** A re-orged batch whose L1 proof lies above the
compression head: `createIncompleteBatches` resolves every batch's L1 height against the
head, canonical or not, walks below `P` and fails, for every choice of lossless codecs. -/
theorem createIncompleteBatches_reorgAboveHead : ¬ CompressionRoundTrip := by
  intro h
  obtain ⟨gob⟩ := Codec.nonempty_of_countable Int
  obtain ⟨rlp⟩ := Codec.nonempty_of_countable BatchHeader
  obtain ⟨hdr, res, hhdr, hres, -⟩ := h Unit gob rlp cxRlpHash (fun _ => EmptyRootHash) rfl
    cxStorage [cxBatch0, cxReorgAbove] 4 cxHead cxCompressionHyps
  rw [cx_createRollupHeader] at hhdr
  cases hhdr
  -- the first batch decodes; the second one's L1 height does not resolve
  simp only [createIncompleteBatches, createIncompleteBatchesLoop, Go.index, List.map_cons,
    List.map_nil, List.getElem?_cons_zero, List.getElem?_cons_succ, Codec.decode_encode,
    Except.ok_bind', ↓reduceIte, cx_fetchHead, cx_getAncestorOfHeight_proof, Nat.zero_add,
    Nat.one_ne_zero, Go.bigInt64_newInt, Int64.sub_add_cancel, cx_getAncestorOfHeight_fork,
    Except.error_bind'] at hres
  cases hres

/-! ## The ancestor lookup -/

/-- **Ancestor lookup.** On a store whose stored parents are one lower, for a stored head with
a 64-bit height and a height `0 ≤ k < 2^64`, `getAncestorOfHeight` returns the ancestor-or-self
of the head at height `k` when there is one (there is at most one), and otherwise the error of
a failed parent fetch from an ancestor-or-self of the head; its recursion is well founded. -/
theorem getAncestorOfHeight_exact {s : Storage Tx} (hwf : WellFormed s.links) {head : L1Block}
    (hhead : IsStored s.links head) (hbound : head.number < 2 ^ 64) {k : Int} (hk0 : 0 ≤ k)
    (hk : k < 2 ^ 64) :
    (∀ a, AncestorOrSelf s.links head a → (a.number : Int) = k →
      getAncestorOfHeight s k head = .ok a) ∧
    ((∀ a, AncestorOrSelf s.links head a → (a.number : Int) ≠ k) →
      ∃ c e, AncestorOrSelf s.links head c ∧ s.FetchBlock c.parentHash = .error e ∧
        getAncestorOfHeight s k head = .error e) ∧
    WellFounded (WalkStep s.links fun b => b.NumberU64 == Go.bigUint64 k) := by
  refine ⟨?_, getAncestorOfHeight_error hwf hhead hbound hk0 hk, walkStep_wellFounded hwf _⟩
  rintro a ha rfl
  exact getAncestorOfHeight_eq hwf hhead hbound ha

/-- The lookup above the head of the concrete store, at the fork's height 11. -/
theorem getAncestorOfHeight_exact_aboveHead :
    (∀ a, AncestorOrSelf cxStorage.links cxHead a → (a.number : Int) = 11 →
      getAncestorOfHeight cxStorage 11 cxHead = .ok a) ∧
    ((∀ a, AncestorOrSelf cxStorage.links cxHead a → (a.number : Int) ≠ 11) →
      ∃ c e, AncestorOrSelf cxStorage.links cxHead c ∧ cxStorage.FetchBlock c.parentHash = .error e ∧
        getAncestorOfHeight cxStorage 11 cxHead = .error e) ∧
    WellFounded (WalkStep cxStorage.links fun b => b.NumberU64 == Go.bigUint64 11) :=
  getAncestorOfHeight_exact cxStorage_wellFormed ⟨4, rfl⟩ (by norm_num [cxHead]) (by norm_num)
    (by norm_num)

/-- **Heights wrap.** `ancestorHeight.Uint64()` keeps the low 64 bits, so a height `2^64`
above `P`'s, far above the head, finds `P` instead of failing. -/
theorem getAncestorOfHeight_wraps :
    getAncestorOfHeight cxStorage (2 ^ 64 + 9) cxHead = .ok cxProof := rfl

end Obscuro.RollupCompression
