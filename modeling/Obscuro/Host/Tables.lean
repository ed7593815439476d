import Obscuro.Host.RollupDB

/-!
# The three tables of the host database

`hostdb.go` keeps the batches, the L1 block headers and the rollup headers in one key-value
store, told apart only by the prefixes of their keys. The batch repository calls `AddBatch`, and
the guardian calls `AddBlock` and `AddRollupHeader`, in any interleaving. Each table's model
(`Represents`, `RepresentsBlocks`, `RepresentsRollups`) is proved for its own calls alone; this
module shows that the tables do not interfere, so those models describe every interleaving.

A table's keys are the bytes of the valid schema keys of its family (`tableKeys`); by the key
decoder of `DBSchema` the three sets are disjoint. Two stores `AgreeOn` a table when they hold
the same values on its keys.

* `HostOp.apply_congr` — a call reads only its own table: from stores that agree there it
  leaves stores that agree there;
* `HostOp.apply_frame` — with 64-bit numbers, a call leaves the other tables' keys as they were;
* `HostOp.run_agreeOn_filter` — after any run, a table holds what the run of its own calls
  alone leaves;
* `HostOp.run_tables` — from an empty store, every interleaving leaves the batch table as the
  batch calls alone do, and represents the headers and rollups added.

A number of 31 decimal digits makes a batch key of the length of a block-hash key, and
`SchemaKey.Valid` rules such numbers out; the 64-bit bounds are what the frame needs.
-/

namespace Obscuro.HostDB

open WriteLog

/-! ## Tables and their keys -/

/-- The tables of the host database. -/
inductive Table where
  | batches
  | blocks
  | rollups
  deriving DecidableEq, Repr

/-- The table a schema key belongs to. -/
def SchemaKey.table : SchemaKey → Table
  | .blockHash _ | .blockNumber _ | .blockHeadedAtTip => .blocks
  | .rollupHash _ | .rollupBlock _ | .tipRollupHash => .rollups
  | .batchHeader _ | .batch _ | .batchHash _ | .batchTxHashes _ | .batchNumber _
  | .batchHashBySeqNo _ | .headBatch | .totalTransactions => .batches

/-- The keys of a table: the bytes of its valid schema keys. -/
def tableKeys (t : Table) : Set Bytes := {b | ∃ k : SchemaKey, k.Valid ∧ k.table = t ∧ k.bytes = b}

theorem mem_tableKeys {k : SchemaKey} (hk : k.Valid) : k.bytes ∈ tableKeys k.table :=
  ⟨k, hk, rfl, rfl⟩

/-- A key belongs to one table only. -/
theorem tableKeys_disjoint {t t' : Table} (h : t ≠ t') : Disjoint (tableKeys t) (tableKeys t') := by
  rw [Set.disjoint_left]
  rintro _ ⟨k, hk, rfl, rfl⟩ ⟨k', hk', ht', hbytes⟩
  have hkk' : k' = k := (SchemaKey.bytes_eq_iff hk' hk).mp hbytes
  subst hkk'
  exact h ht'

theorem not_mem_tableKeys {t t' : Table} (h : t ≠ t') {b : Bytes} (hb : b ∈ tableKeys t) :
    b ∉ tableKeys t' :=
  Set.disjoint_left.mp (tableKeys_disjoint h) hb

/-- Two stores agree on a table when its keys hold the same values in both. -/
def AgreeOn (t : Table) (db db' : DB) : Prop := Set.EqOn db.kvStore db'.kvStore (tableKeys t)

theorem AgreeOn.refl (t : Table) (db : DB) : AgreeOn t db db := Set.eqOn_refl _ _

theorem AgreeOn.symm {t : Table} {db db' : DB} (h : AgreeOn t db db') : AgreeOn t db' db :=
  Set.EqOn.symm h

theorem AgreeOn.trans {t : Table} {db db' db'' : DB} (h : AgreeOn t db db')
    (h' : AgreeOn t db' db'') : AgreeOn t db db'' :=
  Set.EqOn.trans h h'

theorem AgreeOn.key {t : Table} {db db' : DB} (h : AgreeOn t db db') {k : SchemaKey}
    (hk : k.Valid) (ht : k.table = t) : db.kvStore k.bytes = db'.kvStore k.bytes :=
  h ⟨k, hk, ht, rfl⟩

/-- The same writes keep two stores that agree on a table in agreement there. -/
theorem AgreeOn.Write {t : Table} {db db' : DB} (h : AgreeOn t db db') (w : List (Op Bytes Bytes)) :
    AgreeOn t (Write db w) (Write db' w) :=
  applyAll_eqOn w h

/-- Writes to another table's keys leave a table as it was. -/
theorem agreeOn_Write_self {t t' : Table} (h : t' ≠ t) {w : List (Op Bytes Bytes)}
    (hw : ∀ op ∈ w, op.key ∈ tableKeys t') (db : DB) : AgreeOn t (Write db w) db :=
  applyAll_eqOn_self (fun op hop => not_mem_tableKeys h (hw op hop)) db.kvStore

/-! ## Reads see one table -/

theorem readKey_congr {α : Type} {db db' : DB} {key : Bytes} (h : db.kvStore key = db'.kvStore key)
    (decode : Bytes → Except String α) : readKey db key decode = readKey db' key decode := by
  simp only [readKey, DB.Get, h]

theorem DB.Get_congr {db db' : DB} {key : Bytes} (h : db.kvStore key = db'.kvStore key) :
    db.Get key = db'.Get key := by
  simp only [DB.Get, h]

section Blocks

variable {blockRlp : Codec L1Block} {db db' : DB} (h : AgreeOn .blocks db db')
include h

theorem AgreeOn.GetBlockByHash (hash : Hash) :
    HostDB.GetBlockByHash blockRlp db hash = HostDB.GetBlockByHash blockRlp db' hash :=
  readKey_congr (h.key (k := .blockHash hash) trivial rfl) _

theorem AgreeOn.GetBlockByHeight {height : Nat} (hh : height < 2 ^ 64) :
    HostDB.GetBlockByHeight blockRlp db height = HostDB.GetBlockByHeight blockRlp db' height :=
  readKey_congr (h.key (k := .blockNumber height) hh rfl) _

theorem AgreeOn.GetBlockAtTip :
    HostDB.GetBlockAtTip blockRlp db = HostDB.GetBlockAtTip blockRlp db' := by
  have htip : db.Get blockHeadedAtTip = db'.Get blockHeadedAtTip :=
    DB.Get_congr (h.key (k := .blockHeadedAtTip) trivial rfl)
  simp only [HostDB.GetBlockAtTip, htip, h.GetBlockByHash]

/-- The block model reads only the block table. -/
theorem RepresentsBlocks.of_agreeOn {added : List L1Block} (hr : RepresentsBlocks blockRlp db added) :
    RepresentsBlocks blockRlp db' added where
  hashInj := hr.hashInj
  numbers := hr.numbers
  byHash hash := (h.key (k := .blockHash hash) trivial rfl).symm.trans (hr.byHash hash)
  byHeight height hh := (h.key (k := .blockNumber height) hh rfl).symm.trans (hr.byHeight height hh)
  tip := (h.key (k := .blockHeadedAtTip) trivial rfl).symm.trans hr.tip

end Blocks

section Rollups

variable {rollupRlp : Codec RollupHeader} {db db' : DB} (h : AgreeOn .rollups db db')
include h

theorem AgreeOn.GetRollupHeader (hash : Hash) :
    HostDB.GetRollupHeader rollupRlp db hash = HostDB.GetRollupHeader rollupRlp db' hash :=
  readKey_congr (h.key (k := .rollupHash hash) trivial rfl) _

theorem AgreeOn.GetRollupHeaderByBlock (blockHash : Hash) :
    HostDB.GetRollupHeaderByBlock rollupRlp db blockHash =
      HostDB.GetRollupHeaderByBlock rollupRlp db' blockHash :=
  readKey_congr (h.key (k := .rollupBlock blockHash) trivial rfl) _

theorem AgreeOn.GetTipRollupHeader :
    HostDB.GetTipRollupHeader rollupRlp db = HostDB.GetTipRollupHeader rollupRlp db' := by
  have htip : db.Get tipRollupHash = db'.Get tipRollupHash :=
    DB.Get_congr (h.key (k := .tipRollupHash) trivial rfl)
  simp only [HostDB.GetTipRollupHeader, readTipRollupHash, htip]
  cases db'.Get tipRollupHash with
  | error e => rfl
  | ok value => exact h.GetRollupHeader _

/-- The rollup model reads only the rollup table. -/
theorem RepresentsRollups.of_agreeOn {rlpHash : RollupHeader → Hash} {stored : List StoredRollup}
    (hr : RepresentsRollups rollupRlp rlpHash db stored) :
    RepresentsRollups rollupRlp rlpHash db' stored where
  nodup := hr.nodup
  byHash hash := (h.key (k := .rollupHash hash) trivial rfl).symm.trans (hr.byHash hash)
  byBlock blockHash :=
    (h.key (k := .rollupBlock blockHash) trivial rfl).symm.trans (hr.byBlock blockHash)
  tip := (h.key (k := .tipRollupHash) trivial rfl).symm.trans hr.tip

end Rollups

section Batches

variable {rlp : RLP} {db db' : DB} (h : AgreeOn .batches db db')
include h

theorem AgreeOn.GetBatchHeader (hash : Hash) :
    HostDB.GetBatchHeader rlp db hash = HostDB.GetBatchHeader rlp db' hash :=
  readKey_congr (h.key (k := .batchHeader hash) trivial rfl) _

theorem AgreeOn.GetBatch (hash : Hash) :
    HostDB.GetBatch rlp db hash = HostDB.GetBatch rlp db' hash :=
  readKey_congr (h.key (k := .batch hash) trivial rfl) _

theorem AgreeOn.GetBatchTxs (hash : Hash) :
    HostDB.GetBatchTxs rlp db hash = HostDB.GetBatchTxs rlp db' hash :=
  readKey_congr (h.key (k := .batchTxHashes hash) trivial rfl) _

theorem AgreeOn.readBatchNumber (txHash : Hash) :
    HostDB.readBatchNumber db txHash = HostDB.readBatchNumber db' txHash :=
  readKey_congr (h.key (k := .batchNumber txHash) trivial rfl) _

theorem AgreeOn.GetTotalTransactions :
    HostDB.GetTotalTransactions db = HostDB.GetTotalTransactions db' := by
  have htotal : db.Get totalTransactionsKey = db'.Get totalTransactionsKey :=
    DB.Get_congr (h.key (k := .totalTransactions) trivial rfl)
  simp only [HostDB.GetTotalTransactions, readTotalTransactions, htotal]

theorem AgreeOn.GetHeadBatchHeader :
    HostDB.GetHeadBatchHeader rlp db = HostDB.GetHeadBatchHeader rlp db' := by
  have hhead : db.Get headBatch = db'.Get headBatch :=
    DB.Get_congr (h.key (k := .headBatch) trivial rfl)
  simp only [HostDB.GetHeadBatchHeader, readHeadBatchHash, hhead]
  cases db'.Get headBatch with
  | error e => rfl
  | ok value => exact h.GetBatchHeader _

theorem AgreeOn.GetBatchBySequenceNumber {seqNo : Nat} (hs : seqNo < 2 ^ 64) :
    HostDB.GetBatchBySequenceNumber rlp db seqNo = HostDB.GetBatchBySequenceNumber rlp db' seqNo := by
  have hhash : readBatchHashBySequenceNumber db seqNo = readBatchHashBySequenceNumber db' seqNo :=
    readKey_congr (h.key (k := .batchHashBySeqNo seqNo) hs rfl) _
  simp only [HostDB.GetBatchBySequenceNumber, hhash]
  cases readBatchHashBySequenceNumber db' seqNo with
  | error e => rfl
  | ok hash => exact h.GetBatch hash

end Batches

/-! ## What each call writes -/

section Calls

variable {rlp : RLP} {rlpHash : BatchHeader → Hash} {blockRlp : Codec L1Block}
  {rollupRlp : Codec RollupHeader} {rollupHash : RollupHeader → Hash}

/-- A put of one valid key writes to the key's table. -/
theorem Put_keys {k : SchemaKey} (hk : k.Valid) (value : Bytes) :
    ∀ op ∈ HostDB.Put NewBatch k.bytes value, op.key ∈ tableKeys k.table := by
  intro op hop
  simp only [HostDB.Put, NewBatch, List.nil_append, List.mem_singleton] at hop
  rw [hop]
  exact mem_tableKeys hk

/-- With 64-bit numbers, every write of a new batch is to the batch table. -/
theorem newBatchWrites_keys {batch : ExtBatch} (hn : batch.Header.Number < 2 ^ 64)
    (hs : batch.Header.SequencerOrderNo < 2 ^ 64) (total : Nat) (head : Option ExtBatch) :
    ∀ op ∈ newBatchWrites rlp rlpHash batch total head, op.key ∈ tableKeys .batches := by
  intro op hop
  rcases List.mem_append.mp hop with hop | hhead
  · rcases List.mem_append.mp hop with hop | htotal
    · rcases List.mem_append.mp hop with hrecord | htx
      · -- the five records, two of them under the batch's numbers
        simp only [batchRecordWrites, List.mem_cons, List.not_mem_nil, or_false] at hrecord
        rcases hrecord with rfl | rfl | rfl | rfl | rfl
        · exact mem_tableKeys (k := .batchHeader _) trivial
        · exact mem_tableKeys (k := .batch _) trivial
        · exact mem_tableKeys (k := .batchTxHashes _) trivial
        · exact mem_tableKeys (k := .batchHash _) hn
        · exact mem_tableKeys (k := .batchHashBySeqNo _) hs
      · obtain ⟨txHash, -, rfl⟩ := List.mem_map.mp htx
        exact mem_tableKeys (k := .batchNumber txHash) trivial
    · rw [List.mem_singleton.mp htotal]
      exact mem_tableKeys (k := .totalTransactions) trivial
  · split at hhead
    · rw [List.mem_singleton.mp hhead]
      exact mem_tableKeys (k := .headBatch) trivial
    · exact absurd hhead List.not_mem_nil

/-- Every write of a new rollup is to the rollup table. -/
theorem newRollupWrites_keys (rollup : ExtRollup) (block : L1Block) (tip : Option StoredRollup) :
    ∀ op ∈ newRollupWrites rollupRlp rollupHash rollup block tip, op.key ∈ tableKeys .rollups := by
  intro op hop
  rcases List.mem_append.mp hop with hheader | htip
  · simp only [List.mem_cons, List.not_mem_nil, or_false] at hheader
    rcases hheader with rfl | rfl
    · exact mem_tableKeys (k := .rollupHash _) trivial
    · exact mem_tableKeys (k := .rollupBlock _) trivial
  · split at htip
    · rw [List.mem_singleton.mp htip]
      exact mem_tableKeys (k := .tipRollupHash) trivial
    · exact absurd htip List.not_mem_nil

/-! ## Frames: a call leaves the other tables -/

theorem AddBatch_frame {t : Table} (ht : Table.batches ≠ t) {batch : ExtBatch}
    (hn : batch.Header.Number < 2 ^ 64) (hs : batch.Header.SequencerOrderNo < 2 ^ 64) (db : DB) :
    AgreeOn t (AddBatch rlp rlpHash db batch).2 db := by
  unfold AddBatch
  cases hw : addBatchWrites rlp rlpHash db batch with
  | error e => exact AgreeOn.refl t db
  | ok b =>
    obtain ⟨total, head, rfl⟩ := addBatchWrites_eq_ok hw
    exact agreeOn_Write_self ht (newBatchWrites_keys hn hs total head) db

theorem AddRollupHeader_frame {t : Table} (ht : Table.rollups ≠ t) (rollup : ExtRollup)
    (block : L1Block) (db : DB) : AgreeOn t (AddRollupHeader rollupRlp rollupHash db rollup block).2 db := by
  unfold AddRollupHeader
  cases hw : addRollupHeaderWrites rollupRlp rollupHash db rollup block with
  | error e => exact AgreeOn.refl t db
  | ok b =>
    obtain ⟨tip, rfl⟩ := addRollupHeaderWrites_eq_ok hw
    exact agreeOn_Write_self ht (newRollupWrites_keys rollup block tip) db

theorem AddBlock_frame {t : Table} (ht : Table.blocks ≠ t) {header : L1Block}
    (hnum : header.number < 2 ^ 64) (db : DB) : AgreeOn t (AddBlock blockRlp db header).2 db := by
  -- the two header entries, written straight to the store
  have h₁ : AgreeOn t (writeBlockByHash blockRlp db header) db :=
    agreeOn_Write_self ht (Put_keys (k := .blockHash header.hash) trivial _) db
  have h₂ : AgreeOn t (writeBlockByHeight blockRlp (writeBlockByHash blockRlp db header) header)
      (writeBlockByHash blockRlp db header) :=
    agreeOn_Write_self ht (Put_keys (k := .blockNumber header.number) hnum _) _
  rcases @AddBlock_snd blockRlp db header with h | h <;> rw [h]
  · exact h₂.trans h₁
  · have h₃ := agreeOn_Write_self ht (Put_keys (k := .blockHeadedAtTip) trivial header.hash.Bytes)
      (writeBlockByHeight blockRlp (writeBlockByHash blockRlp db header) header)
    exact (h₃.trans h₂).trans h₁

/-! ## Congruence: a call reads its own table -/

theorem AgreeOn.addBatchWrites {db db' : DB} (h : AgreeOn .batches db db') (batch : ExtBatch) :
    HostDB.addBatchWrites rlp rlpHash db batch = HostDB.addBatchWrites rlp rlpHash db' batch := by
  have htotal : readTotalTransactions db = readTotalTransactions db' := h.GetTotalTransactions
  simp only [HostDB.addBatchWrites, h.GetBatchHeader, htotal, h.GetHeadBatchHeader]

theorem AgreeOn.AddBatch {db db' : DB} (h : AgreeOn .batches db db') (batch : ExtBatch) :
    AgreeOn .batches (HostDB.AddBatch rlp rlpHash db batch).2 (HostDB.AddBatch rlp rlpHash db' batch).2 := by
  unfold HostDB.AddBatch
  rw [h.addBatchWrites batch]
  cases HostDB.addBatchWrites rlp rlpHash db' batch with
  | error e => exact h
  | ok b => exact h.Write b

theorem AgreeOn.addRollupHeaderWrites {db db' : DB} (h : AgreeOn .rollups db db')
    (rollup : ExtRollup) (block : L1Block) :
    HostDB.addRollupHeaderWrites rollupRlp rollupHash db rollup block =
      HostDB.addRollupHeaderWrites rollupRlp rollupHash db' rollup block := by
  simp only [HostDB.addRollupHeaderWrites, h.GetRollupHeader, h.GetTipRollupHeader]

theorem AgreeOn.AddRollupHeader {db db' : DB} (h : AgreeOn .rollups db db') (rollup : ExtRollup)
    (block : L1Block) :
    AgreeOn .rollups (HostDB.AddRollupHeader rollupRlp rollupHash db rollup block).2
      (HostDB.AddRollupHeader rollupRlp rollupHash db' rollup block).2 := by
  unfold HostDB.AddRollupHeader
  rw [h.addRollupHeaderWrites rollup block]
  cases HostDB.addRollupHeaderWrites rollupRlp rollupHash db' rollup block with
  | error e => exact h
  | ok b => exact h.Write b

theorem AgreeOn.AddBlock {db db' : DB} (h : AgreeOn .blocks db db') (header : L1Block) :
    AgreeOn .blocks (HostDB.AddBlock blockRlp db header).2 (HostDB.AddBlock blockRlp db' header).2 := by
  -- the header entries are written alike, so the tip reads alike
  have h₂ : AgreeOn .blocks
      (writeBlockByHeight blockRlp (writeBlockByHash blockRlp db header) header)
      (writeBlockByHeight blockRlp (writeBlockByHash blockRlp db' header) header) :=
    (h.Write _).Write _
  have hread : HostDB.GetBlockAtTip blockRlp
      (writeBlockByHeight blockRlp (writeBlockByHash blockRlp db header) header) =
        HostDB.GetBlockAtTip blockRlp (writeBlockByHeight blockRlp (writeBlockByHash blockRlp db' header) header) :=
    h₂.GetBlockAtTip
  simp only [HostDB.AddBlock, hread]
  split
  · split_ifs
    · exact h₂
    · exact h₂.Write _
  · split_ifs
    · exact h₂.Write _
    · exact h₂.Write _

end Calls

/-! ## Runs of the three writers -/

/-- The encodings and hashes the three tables use. -/
structure Encoding where
  rlp : RLP
  rlpHash : BatchHeader → Hash
  blockRlp : Codec L1Block
  rollupRlp : Codec RollupHeader
  rollupHash : RollupHeader → Hash

/-- A call that writes to the host database: `AddBatch` from the batch repository, `AddBlock`
and `AddRollupHeader` from the guardian. -/
inductive HostOp where
  | AddBatch (batch : ExtBatch)
  | AddBlock (header : L1Block)
  | AddRollupHeader (rollup : ExtRollup) (block : L1Block)

namespace HostOp

/-- The table a call writes. -/
def table : HostOp → Table
  | AddBatch _ => .batches
  | AddBlock _ => .blocks
  | AddRollupHeader _ _ => .rollups

/-- The numbers a call puts into keys are 64-bit. -/
def Valid : HostOp → Prop
  | AddBatch batch => batch.Header.Number < 2 ^ 64 ∧ batch.Header.SequencerOrderNo < 2 ^ 64
  | AddBlock header => header.number < 2 ^ 64
  | AddRollupHeader _ _ => True

variable (e : Encoding)

/-- The store after a call, whatever it returns. -/
def apply (db : DB) : HostOp → DB
  | AddBatch batch => (HostDB.AddBatch e.rlp e.rlpHash db batch).2
  | AddBlock header => (HostDB.AddBlock e.blockRlp db header).2
  | AddRollupHeader rollup block => (HostDB.AddRollupHeader e.rollupRlp e.rollupHash db rollup block).2

/-- The calls made one after another. -/
def run (db : DB) (ops : List HostOp) : DB := ops.foldl (apply e) db

/-- The batches of the batch repository's calls. -/
def batchesOf (ops : List HostOp) : List ExtBatch :=
  ops.filterMap fun | AddBatch batch => some batch | _ => none

/-- The headers of the guardian's `AddBlock` calls. -/
def headersOf (ops : List HostOp) : List L1Block :=
  ops.filterMap fun | AddBlock header => some header | _ => none

/-- The rollups of the guardian's `AddRollupHeader` calls, with their blocks. -/
def rollupsOf (ops : List HostOp) : List (ExtRollup × L1Block) :=
  ops.filterMap fun | AddRollupHeader rollup block => some (rollup, block) | _ => none

theorem apply_congr {op : HostOp} {db db' : DB} (h : AgreeOn op.table db db') :
    AgreeOn op.table (op.apply e db) (op.apply e db') := by
  cases op with
  | AddBatch batch => exact h.AddBatch batch
  | AddBlock header => exact h.AddBlock header
  | AddRollupHeader rollup block => exact h.AddRollupHeader rollup block

theorem apply_frame {op : HostOp} (hv : op.Valid) {t : Table} (ht : op.table ≠ t) (db : DB) :
    AgreeOn t (op.apply e db) db := by
  cases op with
  | AddBatch batch => exact AddBatch_frame ht hv.1 hv.2 db
  | AddBlock header => exact AddBlock_frame ht hv db
  | AddRollupHeader rollup block => exact AddRollupHeader_frame ht rollup block db

/-- **The tables do not interfere.** After any run of 64-bit calls, a table holds what the run
of its own calls alone leaves, from stores that agree on it. -/
theorem run_agreeOn_filter (t : Table) :
    ∀ (ops : List HostOp), (∀ op ∈ ops, op.Valid) → ∀ {db db' : DB}, AgreeOn t db db' →
      AgreeOn t (run e db ops) (run e db' (ops.filter (·.table = t))) := by
  intro ops
  induction ops with
  | nil =>
    intro _ db db' h
    exact h
  | cons op ops ih =>
    intro hv db db' h
    have hvs : ∀ op' ∈ ops, op'.Valid := fun op' hop' => hv op' (List.mem_cons_of_mem op hop')
    by_cases hop : op.table = t
    · -- a call to the table: both runs make it, from stores that agree there
      subst hop
      rw [List.filter_cons_of_pos (by simp)]
      exact ih hvs (apply_congr e h)
    · -- a call to another table: only the mixed run makes it, and it leaves the table
      rw [List.filter_cons_of_neg (by simpa using hop)]
      exact ih hvs ((apply_frame e (hv op List.mem_cons_self) hop db).trans h)

theorem run_filter_batches (db : DB) :
    ∀ ops : List HostOp, run e db (ops.filter (·.table = .batches)) =
      HostDB.run e.rlp e.rlpHash db (batchesOf ops) := by
  intro ops
  induction ops generalizing db with
  | nil => rfl
  | cons op ops ih =>
    cases op with
    | AddBatch batch => exact ih _
    | AddBlock header => exact ih db
    | AddRollupHeader rollup block => exact ih db

theorem run_filter_blocks (db : DB) :
    ∀ ops : List HostOp, run e db (ops.filter (·.table = .blocks)) =
      AddBlocks e.blockRlp db (headersOf ops) := by
  intro ops
  induction ops generalizing db with
  | nil => rfl
  | cons op ops ih =>
    cases op with
    | AddBatch batch => exact ih db
    | AddBlock header => exact ih _
    | AddRollupHeader rollup block => exact ih db

theorem run_filter_rollups (db : DB) :
    ∀ ops : List HostOp, run e db (ops.filter (·.table = .rollups)) =
      AddRollupHeaders e.rollupRlp e.rollupHash db (rollupsOf ops) := by
  intro ops
  induction ops generalizing db with
  | nil => rfl
  | cons op ops ih =>
    cases op with
    | AddBatch batch => exact ih db
    | AddBlock header => exact ih db
    | AddRollupHeader rollup block => exact ih _

theorem number_lt_of_mem_headersOf {ops : List HostOp} (hv : ∀ op ∈ ops, op.Valid)
    {header : L1Block} (hmem : header ∈ headersOf ops) : header.number < 2 ^ 64 := by
  obtain ⟨op, hop, hsome⟩ := List.mem_filterMap.mp hmem
  cases op with
  | AddBatch batch => cases hsome
  | AddBlock h =>
    cases hsome
    exact hv _ hop
  | AddRollupHeader rollup block => cases hsome

/-- **The host database under every interleaving.** From an empty store, any run of 64-bit
calls of the batch repository and the guardian, with one header per block hash, leaves the
batch table as the batch calls alone leave it, and represents the headers added and the rollups
stored. -/
theorem run_tables (ops : List HostOp) (hv : ∀ op ∈ ops, op.Valid)
    (hinj : ∀ a ∈ headersOf ops, ∀ b ∈ headersOf ops, a.hash = b.hash → a = b) :
    AgreeOn .batches (run e DB.empty ops) (AddBatches e.rlp e.rlpHash (batchesOf ops)) ∧
      RepresentsBlocks e.blockRlp (run e DB.empty ops) (headersOf ops) ∧
      RepresentsRollups e.rollupRlp e.rollupHash (run e DB.empty ops)
        ((rollupsOf ops).foldl (fun s p => storeRollup e.rollupHash s p.1 p.2) []) := by
  have hbatches := run_agreeOn_filter e .batches ops hv (AgreeOn.refl _ DB.empty)
  have hblocks := run_agreeOn_filter e .blocks ops hv (AgreeOn.refl _ DB.empty)
  have hrollups := run_agreeOn_filter e .rollups ops hv (AgreeOn.refl _ DB.empty)
  rw [run_filter_batches] at hbatches
  rw [run_filter_blocks] at hblocks
  rw [run_filter_rollups] at hrollups
  refine ⟨hbatches, ?_, ?_⟩
  · -- the block-only run appends the headers, and the mixed store agrees with it
    have hrun := (representsBlocks_empty e.blockRlp).AddBlocks (headersOf ops)
      (fun _ hmem => number_lt_of_mem_headersOf hv hmem) (by simpa using hinj)
    exact hrun.of_agreeOn hblocks.symm
  · exact ((representsRollups_empty e.rollupRlp e.rollupHash).AddRollupHeaders
      (rollupsOf ops)).of_agreeOn hrollups.symm

end HostOp

end Obscuro.HostDB
