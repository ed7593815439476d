import Obscuro.Host.BlockDB

/-!
# The host's rollup headers

`go/host/db/rollups.go`: the host keeps the header of every rollup it finds in an L1 block, in
the key-value store of `hostdb.go`, under the rollup's hash (`rollupHashKey`) and under the hash
of the L1 block it was published in (`rollupBlockKey`), and the hash of the rollup with the
greatest last batch sequence number under `tipRollupHash`. `DB.AddRollupHeader` refuses a rollup
whose hash is stored with `ErrAlreadyExists`, stages every write in one write batch and commits
it at the end; the tip it compares with is read from the committed store.

The abstract store is the list of rollups stored so far, each with the hash of its L1 block, in
order (`storeRollup`). `RepresentsRollups` says what the keys hold for such a list: under a
hash, the rollup of that hash; under an L1 block's hash, the last rollup stored from that block,
so that a second rollup published in one block replaces the first there; under
`tipRollupHash`, the hash of the first stored rollup of greatest `LastBatchSeqNo`.

* `AddRollupHeader_represents` — `AddRollupHeader` refines `storeRollup`;
* `AddRollupHeader_error` — a call that fails commits nothing;
* `AddRollupHeader_sameBlock` — of two rollups published in one L1 block, the block's entry keeps
  the second;
* `RepresentsRollups.GetRollupHeader`, `.GetRollupHeaderByBlock`, `.GetTipRollupHeader` — what
  the reads return;
* `RepresentsRollups.AddRollupHeaders` — every run of the guardian's calls.
-/

namespace Obscuro.HostDB

open WriteLog

section Rollups

variable (rollupRlp : Codec RollupHeader) (rlpHash : RollupHeader → Hash)

/-- `readRollupHeader`: the header under a key. -/
def readRollupHeader (db : DB) (key : Bytes) : Except String RollupHeader :=
  readKey db key rollupRlp.decode

/-- `GetRollupHeader`. -/
def GetRollupHeader (db : DB) (hash : Hash) : Except String RollupHeader :=
  readRollupHeader rollupRlp db (rollupHashKey hash)

/-- `readTipRollupHash`: the value under `tipRollupHash`, as a hash. -/
def readTipRollupHash (db : DB) : Except String Hash := do
  let value ← db.Get tipRollupHash
  pure (BytesToHash value)

/-- `GetTipRollupHeader`: the hash at the tip, then the header of that hash. -/
def GetTipRollupHeader (db : DB) : Except String RollupHeader := do
  let headBatchHash ← readTipRollupHash db
  readRollupHeader rollupRlp db (rollupHashKey headBatchHash)

/-- `GetRollupHeaderByBlock`. -/
def GetRollupHeaderByBlock (db : DB) (blockHash : Hash) : Except String RollupHeader :=
  readRollupHeader rollupRlp db (rollupBlockKey blockHash)

/-- `writeRollupHeader`, on the write batch. -/
def writeRollupHeader (w : List (Op Bytes Bytes)) (header : RollupHeader) :
    List (Op Bytes Bytes) :=
  Put w (rollupHashKey (header.Hash rlpHash)) (rollupRlp.encode header)

/-- `writeTipRollupHeader`, on the write batch. -/
def writeTipRollupHeader (w : List (Op Bytes Bytes)) (val : Hash) : List (Op Bytes Bytes) :=
  Put w tipRollupHash val.Bytes

/-- `writeRollupByBlockHash`, on the write batch. -/
def writeRollupByBlockHash (w : List (Op Bytes Bytes)) (header : RollupHeader) (blockHash : Hash) :
    List (Op Bytes Bytes) :=
  Put w (rollupBlockKey blockHash) (rollupRlp.encode header)

/-- The body of `DB.AddRollupHeader` up to `b.Write()`: the checks and reads, and the write batch
they stage. -/
def addRollupHeaderWrites (db : DB) (rollup : ExtRollup) (block : L1Block) :
    Except String (List (Op Bytes Bytes)) := do
  -- the rollup is already stored: return early
  match GetRollupHeader rollupRlp db (rollup.Hash rlpHash) with
  | .ok _ => throw ErrAlreadyExists
  | .error err =>
    if err ≠ ErrNotFound then throw ("could not retrieve rollup header. Cause: " ++ err)
  let b := NewBatch
  let b := writeRollupHeader rollupRlp rlpHash b rollup.Header
  let b := writeRollupByBlockHash rollupRlp b rollup.Header block.hash
  -- the tip is read from the committed store
  match GetTipRollupHeader rollupRlp db with
  | .error err =>
    if err ≠ ErrNotFound then throw ("could not retrieve rollup header at tip. Cause: " ++ err)
    else pure (writeTipRollupHeader b (rollup.Hash rlpHash))
  | .ok tipRollupHeader =>
    pure (if tipRollupHeader.LastBatchSeqNo < rollup.Header.LastBatchSeqNo then
      writeTipRollupHeader b (rollup.Hash rlpHash) else b)

/-- `DB.AddRollupHeader`: the staged writes are committed at the end, so an error returns the
store as it was. -/
def AddRollupHeader (db : DB) (rollup : ExtRollup) (block : L1Block) : Except String Unit × DB :=
  match addRollupHeaderWrites rollupRlp rlpHash db rollup block with
  | .ok b => (.ok (), Write db b)
  | .error err => (.error err, db)

end Rollups

/-! ## Keys -/

theorem rollupHashKey_ne_rollupBlockKey (hash blockHash : Hash) :
    rollupHashKey hash ≠ rollupBlockKey blockHash :=
  SchemaKey.bytes_ne (.rollupHash hash) (.rollupBlock blockHash) trivial trivial (by simp)

theorem rollupHashKey_ne_tip (hash : Hash) : rollupHashKey hash ≠ tipRollupHash :=
  SchemaKey.bytes_ne (.rollupHash hash) .tipRollupHash trivial trivial (by simp)

theorem rollupBlockKey_ne_tip (blockHash : Hash) : rollupBlockKey blockHash ≠ tipRollupHash :=
  SchemaKey.bytes_ne (.rollupBlock blockHash) .tipRollupHash trivial trivial (by simp)

theorem rollupHashKey_inj {hash hash' : Hash} :
    rollupHashKey hash = rollupHashKey hash' ↔ hash = hash' := by
  rw [← SchemaKey.rollupHash.injEq]
  exact @SchemaKey.bytes_eq_iff (.rollupHash hash) (.rollupHash hash') trivial trivial

theorem rollupBlockKey_inj {hash hash' : Hash} :
    rollupBlockKey hash = rollupBlockKey hash' ↔ hash = hash' := by
  rw [← SchemaKey.rollupBlock.injEq]
  exact @SchemaKey.bytes_eq_iff (.rollupBlock hash) (.rollupBlock hash') trivial trivial

/-! ## Reads -/

section Reads

variable {rollupRlp : Codec RollupHeader} {db : DB}

theorem GetTipRollupHeader_of_none (htip : db.kvStore tipRollupHash = none) :
    GetTipRollupHeader rollupRlp db = .error ErrNotFound := by
  simp only [GetTipRollupHeader, readTipRollupHash, DB.Get, htip]
  rfl

theorem GetTipRollupHeader_of_some {rlpHash : RollupHeader → Hash} {header : RollupHeader}
    (htip : db.kvStore tipRollupHash = some (header.Hash rlpHash).Bytes)
    (hheader : db.kvStore (rollupHashKey (header.Hash rlpHash)) = some (rollupRlp.encode header)) :
    GetTipRollupHeader rollupRlp db = .ok header := by
  simp only [GetTipRollupHeader, readTipRollupHash, DB.Get, htip, Except.ok_bind', Except.pure_eq_ok,
    BytesToHash_Bytes]
  exact readKey_encode hheader

end Reads

/-! ## The abstract store -/

/-- A rollup the host stored, with the hash of the L1 block it was found in. -/
structure StoredRollup where
  header : RollupHeader
  block : L1BlockHash
  deriving DecidableEq, Repr

section Abstract

variable (rollupRlp : Codec RollupHeader) (rlpHash : RollupHeader → Hash)

/-- Storing a rollup in the abstract store: the list grows by the rollup and its block, unless a
rollup of the same hash is there. -/
def storeRollup (stored : List StoredRollup) (rollup : ExtRollup) (block : L1Block) :
    List StoredRollup :=
  if stored.any (·.header.Hash rlpHash = rollup.Hash rlpHash) then stored
  else stored ++ [⟨rollup.Header, block.hash⟩]

/-- What the store holds for the rollups stored, in order: under a hash, the rollup of that
hash; under a block's hash, the last rollup stored from that block; under the tip, the hash of
the first stored rollup of greatest last batch sequence number. -/
structure RepresentsRollups (db : DB) (stored : List StoredRollup) : Prop where
  nodup : (stored.map (·.header.Hash rlpHash)).Nodup
  byHash : ∀ hash, db.kvStore (rollupHashKey hash) =
    (stored.find? (·.header.Hash rlpHash = hash)).map (rollupRlp.encode ·.header)
  byBlock : ∀ blockHash, db.kvStore (rollupBlockKey blockHash) =
    (stored.reverse.find? (·.block = blockHash)).map (rollupRlp.encode ·.header)
  tip : db.kvStore tipRollupHash =
    (stored.argmax (·.header.LastBatchSeqNo.toNat)).map fun r => (r.header.Hash rlpHash).Bytes

theorem representsRollups_empty : RepresentsRollups rollupRlp rlpHash DB.empty [] where
  nodup := List.nodup_nil
  byHash _ := rfl
  byBlock _ := rfl
  tip := rfl

variable {rollupRlp rlpHash}

section Reads

variable {db : DB} {stored : List StoredRollup} (hr : RepresentsRollups rollupRlp rlpHash db stored)
include hr

theorem RepresentsRollups.find?_hash {r : StoredRollup} (hmem : r ∈ stored) :
    stored.find? (·.header.Hash rlpHash = r.header.Hash rlpHash) = some r :=
  find?_eq_of_unique hmem (by simp) fun s hs hsh =>
    List.inj_on_of_nodup_map hr.nodup hs hmem (by simpa using hsh)

/-- A stored rollup reads back by its hash. -/
theorem RepresentsRollups.GetRollupHeader {r : StoredRollup} (hmem : r ∈ stored) :
    HostDB.GetRollupHeader rollupRlp db (r.header.Hash rlpHash) = .ok r.header :=
  readKey_encode (by rw [hr.byHash, hr.find?_hash hmem]; rfl)

/-- A hash no stored rollup has is not found. -/
theorem RepresentsRollups.GetRollupHeader_of_not_mem {hash : Hash}
    (hnew : ∀ r ∈ stored, r.header.Hash rlpHash ≠ hash) :
    HostDB.GetRollupHeader rollupRlp db hash = .error ErrNotFound := by
  have hnone : stored.find? (·.header.Hash rlpHash = hash) = none :=
    List.find?_eq_none.mpr fun r hmem => by simpa using hnew r hmem
  exact readKey_none _ (by rw [hr.byHash, hnone]; rfl)

/-- A block's hash reads as the last rollup stored from that block. -/
theorem RepresentsRollups.GetRollupHeaderByBlock (blockHash : Hash) :
    HostDB.GetRollupHeaderByBlock rollupRlp db blockHash =
      match stored.reverse.find? (·.block = blockHash) with
      | some r => .ok r.header
      | none => .error ErrNotFound := by
  cases hfind : stored.reverse.find? (·.block = blockHash) with
  | none => exact readKey_none _ (by rw [hr.byBlock, hfind]; rfl)
  | some r => exact readKey_encode (by rw [hr.byBlock, hfind]; rfl)

/-- The tip is the first stored rollup of greatest last batch sequence number, and there is none
before any rollup is stored. -/
theorem RepresentsRollups.GetTipRollupHeader :
    HostDB.GetTipRollupHeader rollupRlp db =
      match stored.argmax (·.header.LastBatchSeqNo.toNat) with
      | some m => .ok m.header
      | none => .error ErrNotFound := by
  cases hmax : stored.argmax (·.header.LastBatchSeqNo.toNat) with
  | none => exact GetTipRollupHeader_of_none (by rw [hr.tip, hmax]; rfl)
  | some m =>
    have hm : m ∈ stored := List.argmax_mem hmax
    exact GetTipRollupHeader_of_some (by rw [hr.tip, hmax]; rfl)
      (by rw [hr.byHash, hr.find?_hash hm]; rfl)

end Reads

/-! ## Adding a rollup -/

variable (rollupRlp rlpHash) in
/-- The writes `AddRollupHeader` commits for a new rollup, given the committed tip: the header
under the rollup's hash and under its block's hash, and the tip when the rollup is higher. -/
def newRollupWrites (rollup : ExtRollup) (block : L1Block) (tip : Option StoredRollup) :
    List (Op Bytes Bytes) :=
  [Op.put (rollupHashKey (rollup.Hash rlpHash)) (rollupRlp.encode rollup.Header),
    Op.put (rollupBlockKey block.hash) (rollupRlp.encode rollup.Header)] ++
  if tip.all (·.header.LastBatchSeqNo < rollup.Header.LastBatchSeqNo) then
    [Op.put tipRollupHash (rollup.Hash rlpHash).Bytes] else []

/-- The writes `AddRollupHeader` stages for a new rollup, with the tip write when the rollup ends
later than the tip read, are `newRollupWrites`. -/
theorem stagedRollupWrites_eq (rollup : ExtRollup) (block : L1Block) (tip : Option StoredRollup) :
    (let b := writeRollupByBlockHash rollupRlp
        (writeRollupHeader rollupRlp rlpHash NewBatch rollup.Header) rollup.Header block.hash
      if tip.all (·.header.LastBatchSeqNo < rollup.Header.LastBatchSeqNo) then
        writeTipRollupHeader b (rollup.Hash rlpHash) else b) =
      newRollupWrites rollupRlp rlpHash rollup block tip := by
  simp only [newRollupWrites, writeRollupHeader, writeRollupByBlockHash, writeTipRollupHeader,
    Put, NewBatch, ExtRollup.Hash]
  split <;> simp

/-- Off the tip, the writes of a new rollup are its two header entries. -/
theorem applyAll_newRollupWrites_of_ne_tip {rollup : ExtRollup} {block : L1Block}
    {tip : Option StoredRollup} {k : Bytes} (hk : k ≠ tipRollupHash) (t : Bytes → Option Bytes) :
    applyAll (newRollupWrites rollupRlp rlpHash rollup block tip) t k =
      Function.update (Function.update t (rollupHashKey (rollup.Hash rlpHash))
        (some (rollupRlp.encode rollup.Header))) (rollupBlockKey block.hash)
        (some (rollupRlp.encode rollup.Header)) k := by
  have htipWrites : ∀ op ∈ (if tip.all (·.header.LastBatchSeqNo < rollup.Header.LastBatchSeqNo)
      then [Op.put tipRollupHash (rollup.Hash rlpHash).Bytes] else ([] : List (Op Bytes Bytes))),
      op.key ≠ k := by
    split
    · simpa using hk.symm
    · simp
  rw [newRollupWrites, applyAll_append_apply_of_right htipWrites]
  rfl

/-- The tip holds the new rollup's hash when it is higher than the committed tip, and the old
value otherwise. -/
theorem applyAll_newRollupWrites_tip {rollup : ExtRollup} {block : L1Block}
    {tip : Option StoredRollup} (t : Bytes → Option Bytes) :
    applyAll (newRollupWrites rollupRlp rlpHash rollup block tip) t tipRollupHash =
      if tip.all (·.header.LastBatchSeqNo < rollup.Header.LastBatchSeqNo) then
        some (rollup.Hash rlpHash).Bytes else t tipRollupHash := by
  rw [newRollupWrites, applyAll_append]
  split
  · simp [Op.apply]
  · rw [applyAll_nil]
    refine applyAll_of_forall_key_ne ?_ t
    intro op hop
    simp only [List.mem_cons, List.not_mem_nil, or_false] at hop
    rcases hop with rfl | rfl
    · exact rollupHashKey_ne_tip _
    · exact rollupBlockKey_ne_tip _

section Add

variable {db : DB} {stored : List StoredRollup} (hr : RepresentsRollups rollupRlp rlpHash db stored)
include hr

/-- A rollup whose hash is stored is refused, and nothing is written. -/
theorem AddRollupHeader_of_mem {rollup : ExtRollup} {block : L1Block} {r : StoredRollup}
    (hmem : r ∈ stored) (hhash : r.header.Hash rlpHash = rollup.Hash rlpHash) :
    AddRollupHeader rollupRlp rlpHash db rollup block = (.error ErrAlreadyExists, db) := by
  have hfound : HostDB.GetRollupHeader rollupRlp db (rollup.Hash rlpHash) = .ok r.header := by
    rw [← hhash]
    exact hr.GetRollupHeader hmem
  simp [AddRollupHeader, addRollupHeaderWrites, hfound]

/-- A new rollup is written with the tip read from the committed store. -/
theorem AddRollupHeader_of_not_mem {rollup : ExtRollup} {block : L1Block}
    (hnew : ∀ r ∈ stored, r.header.Hash rlpHash ≠ rollup.Hash rlpHash) :
    AddRollupHeader rollupRlp rlpHash db rollup block =
      (.ok (), Write db (newRollupWrites rollupRlp rlpHash rollup block
        (stored.argmax (·.header.LastBatchSeqNo.toNat)))) := by
  have hheader := hr.GetRollupHeader_of_not_mem hnew
  have htip := hr.GetTipRollupHeader
  unfold AddRollupHeader addRollupHeaderWrites
  rw [hheader, htip]
  -- the tip read decides the tip write as `newRollupWrites` does
  rw [← stagedRollupWrites_eq]
  cases stored.argmax (·.header.LastBatchSeqNo.toNat) with
  | none => simp
  | some m =>
    by_cases hlt : m.header.LastBatchSeqNo < rollup.Header.LastBatchSeqNo
    · simp [hlt]
    · simp [hlt]

/-- The writes of a new rollup give the store of the rollups with it appended. -/
theorem RepresentsRollups.write_new {rollup : ExtRollup} {block : L1Block}
    (hnew : ∀ r ∈ stored, r.header.Hash rlpHash ≠ rollup.Hash rlpHash) :
    RepresentsRollups rollupRlp rlpHash
      (Write db (newRollupWrites rollupRlp rlpHash rollup block
        (stored.argmax (·.header.LastBatchSeqNo.toNat))))
      (stored ++ [⟨rollup.Header, block.hash⟩]) where
  nodup := by
    rw [List.map_append, List.nodup_append]
    refine ⟨hr.nodup, List.nodup_singleton _, ?_⟩
    simp only [List.map_cons, List.map_nil, List.mem_singleton, List.mem_map]
    rintro _ ⟨r, hmem, rfl⟩ _ rfl
    exact hnew r hmem
  byHash hash := by
    have hnew' : ∀ r ∈ stored, r.header.Hash rlpHash ≠
        (⟨rollup.Header, block.hash⟩ : StoredRollup).header.Hash rlpHash := hnew
    show applyAll _ db.kvStore _ = _
    rw [applyAll_newRollupWrites_of_ne_tip (rollupHashKey_ne_tip hash),
      Function.update_of_ne (rollupHashKey_ne_rollupBlockKey _ _), find?_append_new hnew' hash]
    by_cases hh : rollup.Hash rlpHash = hash
    · -- the new rollup's hash holds its header
      subst hh
      simp [ExtRollup.Hash]
    · rw [Function.update_of_ne (mt rollupHashKey_inj.mp (Ne.symm hh)), hr.byHash]
      simp only [ExtRollup.Hash] at hh
      simp [hh]
  byBlock blockHash := by
    show applyAll _ db.kvStore _ = _
    rw [applyAll_newRollupWrites_of_ne_tip (rollupBlockKey_ne_tip blockHash), List.reverse_append,
      List.reverse_singleton, List.singleton_append, List.find?_cons]
    by_cases hb : block.hash = blockHash
    · rw [← hb, Function.update_self]
      simp
    · rw [Function.update_of_ne (mt rollupBlockKey_inj.mp (Ne.symm hb)),
        Function.update_of_ne (Ne.symm (rollupHashKey_ne_rollupBlockKey _ _)), hr.byBlock]
      simp [hb]
  tip := by
    show applyAll _ db.kvStore _ = _
    rw [applyAll_newRollupWrites_tip, List.argmax_concat, hr.tip]
    cases stored.argmax (·.header.LastBatchSeqNo.toNat) with
    | none => rfl
    | some m =>
      by_cases hlt : m.header.LastBatchSeqNo < rollup.Header.LastBatchSeqNo
      · simp [hlt, UInt64.lt_iff_toNat_lt.mp hlt, ExtRollup.Hash]
      · simp [hlt, UInt64.lt_iff_toNat_lt.not.mp hlt]

/-- **`AddRollupHeader` refines `storeRollup`.** A rollup whose hash is stored is refused with
`ErrAlreadyExists`; any other is stored with its block, and the store represents the rollups with
it. -/
theorem AddRollupHeader_represents (rollup : ExtRollup) (block : L1Block) :
    (AddRollupHeader rollupRlp rlpHash db rollup block).1 =
        (if stored.any (·.header.Hash rlpHash = rollup.Hash rlpHash) then .error ErrAlreadyExists
        else .ok ()) ∧
      RepresentsRollups rollupRlp rlpHash (AddRollupHeader rollupRlp rlpHash db rollup block).2
        (storeRollup rlpHash stored rollup block) := by
  by_cases hany : stored.any (·.header.Hash rlpHash = rollup.Hash rlpHash)
  · obtain ⟨r, hmem, hhash⟩ := List.any_eq_true.mp hany
    rw [AddRollupHeader_of_mem hr hmem (by simpa using hhash), storeRollup, if_pos hany,
      if_pos hany]
    exact ⟨rfl, hr⟩
  · have hnew : ∀ r ∈ stored, r.header.Hash rlpHash ≠ rollup.Hash rlpHash := by
      intro r hmem hhash
      exact hany (List.any_eq_true.mpr ⟨r, hmem, by simpa using hhash⟩)
    rw [AddRollupHeader_of_not_mem hr hnew, storeRollup, if_neg hany, if_neg hany]
    exact ⟨rfl, hr.write_new hnew⟩

end Add

/-- A call that fails commits nothing: every write waits for the final `Write`. -/
theorem AddRollupHeader_error {db : DB} {rollup : ExtRollup} {block : L1Block} {err : String}
    (h : (AddRollupHeader rollupRlp rlpHash db rollup block).1 = .error err) :
    (AddRollupHeader rollupRlp rlpHash db rollup block).2 = db := by
  unfold AddRollupHeader at h ⊢
  cases hw : addRollupHeaderWrites rollupRlp rlpHash db rollup block with
  | ok b => simp [hw] at h
  | error e => rfl

/-- Whatever the store holds, a call that stages its writes stages those of a new rollup, for a
tip of the sequence number it read. -/
theorem addRollupHeaderWrites_eq_ok {db : DB} {rollup : ExtRollup} {block : L1Block}
    {b : List (Op Bytes Bytes)} (h : addRollupHeaderWrites rollupRlp rlpHash db rollup block = .ok b) :
    ∃ tip, b = newRollupWrites rollupRlp rlpHash rollup block tip := by
  unfold addRollupHeaderWrites at h
  cases hget : GetRollupHeader rollupRlp db (rollup.Hash rlpHash) with
  | ok _ => simp [hget] at h
  | error err =>
    -- the duplicate check passed only with `ErrNotFound`
    by_cases herr : err = ErrNotFound
    swap
    · simp [hget, herr] at h
    cases htip : GetTipRollupHeader rollupRlp db with
    | error e =>
      by_cases he : e = ErrNotFound
      · refine ⟨none, ?_⟩
        simp [hget, herr, htip, he] at h
        rw [← stagedRollupWrites_eq]
        simp [← h]
      · simp [hget, herr, htip, he] at h
    | ok tip =>
      -- a tip of the sequence number read decides the tip write the same way
      refine ⟨some ⟨tip, 0⟩, ?_⟩
      simp [hget, herr, htip] at h
      rw [← stagedRollupWrites_eq]
      by_cases hlt : tip.LastBatchSeqNo < rollup.Header.LastBatchSeqNo
      · simp [← h, hlt]
      · simp [← h, hlt]

/-- A rollup whose hash is new is appended with its block. -/
theorem storeRollup_of_not_mem {stored : List StoredRollup} {rollup : ExtRollup} (block : L1Block)
    (hnew : ∀ r ∈ stored, r.header.Hash rlpHash ≠ rollup.Hash rlpHash) :
    storeRollup rlpHash stored rollup block = stored ++ [⟨rollup.Header, block.hash⟩] := by
  have hany : ¬ stored.any (·.header.Hash rlpHash = rollup.Hash rlpHash) := by
    simpa using hnew
  rw [storeRollup, if_neg hany]

/-- Two new rollups published in one L1 block: the block's entry keeps only the second, while
the first still reads back by its hash. -/
theorem AddRollupHeader_sameBlock {db : DB} {stored : List StoredRollup}
    (hr : RepresentsRollups rollupRlp rlpHash db stored) {r₁ r₂ : ExtRollup} (block : L1Block)
    (h₁ : ∀ r ∈ stored, r.header.Hash rlpHash ≠ r₁.Hash rlpHash)
    (h₂ : ∀ r ∈ stored, r.header.Hash rlpHash ≠ r₂.Hash rlpHash)
    (h₁₂ : r₁.Hash rlpHash ≠ r₂.Hash rlpHash) :
    HostDB.GetRollupHeaderByBlock rollupRlp
        (AddRollupHeader rollupRlp rlpHash (AddRollupHeader rollupRlp rlpHash db r₁ block).2 r₂ block).2
        block.hash = .ok r₂.Header ∧
      HostDB.GetRollupHeader rollupRlp
        (AddRollupHeader rollupRlp rlpHash (AddRollupHeader rollupRlp rlpHash db r₁ block).2 r₂ block).2
        (r₁.Hash rlpHash) = .ok r₁.Header := by
  have hr₁ := (AddRollupHeader_represents hr r₁ block).2
  rw [storeRollup_of_not_mem block h₁] at hr₁
  have h₂' : ∀ r ∈ stored ++ [⟨r₁.Header, block.hash⟩], r.header.Hash rlpHash ≠ r₂.Hash rlpHash := by
    intro r hmem
    rcases List.mem_append.mp hmem with hmem | hmem
    · exact h₂ r hmem
    · rw [List.mem_singleton.mp hmem]
      exact h₁₂
  have hr₂ := (AddRollupHeader_represents hr₁ r₂ block).2
  rw [storeRollup_of_not_mem block h₂'] at hr₂
  constructor
  · rw [hr₂.GetRollupHeaderByBlock]
    simp
  · exact hr₂.GetRollupHeader (r := ⟨r₁.Header, block.hash⟩) (by simp)

/-! ## Runs -/

variable (rollupRlp rlpHash) in
/-- `AddRollupHeader` called on each rollup in turn, with the L1 block it was found in, as the
guardian does for the rollup transactions of each block, whatever each call returns. -/
def AddRollupHeaders (db : DB) (rollups : List (ExtRollup × L1Block)) : DB :=
  rollups.foldl (fun db p => (AddRollupHeader rollupRlp rlpHash db p.1 p.2).2) db

/-- Every run keeps `RepresentsRollups`, one call at a time. -/
theorem RepresentsRollups.AddRollupHeaders {db : DB} {stored : List StoredRollup}
    (hr : RepresentsRollups rollupRlp rlpHash db stored) :
    ∀ rollups : List (ExtRollup × L1Block),
      RepresentsRollups rollupRlp rlpHash (HostDB.AddRollupHeaders rollupRlp rlpHash db rollups)
        (rollups.foldl (fun s p => storeRollup rlpHash s p.1 p.2) stored)
  | [] => hr
  | p :: rollups => (AddRollupHeader_represents hr p.1 p.2).2.AddRollupHeaders rollups

end Abstract

end Obscuro.HostDB
