import Obscuro.Enclave.BatchStorage
import Obscuro.Lib.CommitLoop

/-!
# The validator's batch execution

`obsValidator.ExecuteStoredBatches` of `go/enclave/nodetype/validator.go`, which a validator's
enclave runs on every L1 block it ingests (`OnL1Block`): fetch the canonical batches not yet
executed, in sequence order (`ReadUnexecutedBatches` of `enclavedb/batch.go`), and for each one,
after setting up the genesis state for the genesis batch, execute it and store its execution when
its L1 proof block is stored and its parent was executed. Each `StoreExecutedBatch` commits on
its own, so a failing step leaves the earlier steps' writes.

The storage is the batch table of `BatchStorage`; the block table, the batch executor and the
genesis state are the validator's environment (`obsValidator`).

The loop is `CommitLoop.run` over one step per batch (`executeStoredBatch`). The results:

* `executeStoredBatch_preserves` — what every stored execution of a ready batch keeps, a step
  keeps, whatever it returns; `executeStoredBatches_inv` carries it over the runs;
* `ExecuteStoredBatches_closed` — over well-formed rows (`RowsWF`), every executed canonical
  batch stays the genesis or the child of an executed batch (`Closed`);
* `executeStoredBatches_chain`, `ExecuteStoredBatches_executed` — a call that succeeds, on
  batches whose L1 blocks are stored and that follow one another from an executed parent,
  leaves every canonical batch executed;
* `executeStoredBatch_notFound`, `executeStoredBatch_otherError`, `ExecuteStoredBatches_notFound`
  — the test of the L1 block read is `errors.Is(err, ErrNotFound)`: a block that is not found
  fails the step, and with it the call, while every other error of the read is dropped and the
  batch skipped;
* `runCalls_closed` — over any sequence of stored batches (`StoreBatch`) and executions, from
  well-formed, `Closed` rows, the table stays so: no batch is marked executed before its
  parent.
-/

namespace Obscuro.Validator

open BatchStorage Events

variable {Tx : Type}

/-! ## The model -/

/-- `common.L2GenesisHeight`. -/
def L2GenesisHeight : Nat := 0

/-- `Batch.IsGenesis()`. -/
def IsGenesis (b : Batch Tx) : Bool := b.Header.Number = L2GenesisHeight

/-- `ReadUnexecutedBatches(db)`: `where is_executed=false and is_canonical=true order by
b.sequence`. `db.Query` reports no rows as an empty result, never as `sql.ErrNoRows`. -/
def FetchCanonicalUnexecutedBatches (st : Storage Tx) : List (Batch Tx) :=
  ((st.batches.filter fun r => !r.isExecuted && r.isCanonical).mergeSort
    fun a b => a.sequence ≤ b.sequence).map (·.batch)

/-- `obsValidator`, as far as `ExecuteStoredBatches` reads it besides the batch table: the block
table, the batch executor and the genesis state. The hash of batches and their states are the
storage's (`rlpHash`, `stateAt`). -/
structure obsValidator (Tx : Type) where
  FetchBlock : L1BlockHash → Except String L1Block
  ExecuteBatch : Storage Tx → Batch Tx → Except String (List Receipt)
  CreateGenesisState : L1BlockHash → UInt64 → Except String (Batch Tx)

variable (rlpHash : BatchHeader → Hash) (stateAt : Hash → Except String StateDB)
  (v : obsValidator Tx)

/-- `executionPrerequisites(batch)`: whether the L1 proof block is stored and the parent was
executed. -/
def executionPrerequisites (st : Storage Tx) (batch : Batch Tx) : Except String Bool := do
  -- 1. l1 block exists
  let block ← match v.FetchBlock batch.Header.L1Proof with
    | .ok block => pure (some block)
    | .error err => if err = ErrNotFound then throw err else pure none
  -- 2. parent was executed
  let parentExecuted := BatchWasExecuted st batch.Header.ParentHash
  pure (block.isSome && parentExecuted)

/-- `handleGenesis(batch)`: create the genesis state, check it gives the batch, and store its
execution. -/
def handleGenesis (st : Storage Tx) (batch : Batch Tx) : Except String (Storage Tx) := do
  let genBatch ← v.CreateGenesisState batch.Header.L1Proof batch.Header.Time
  if genBatch.Hash rlpHash ≠ batch.Hash rlpHash then throw "received invalid genesis batch"
  StoreExecutedBatch rlpHash stateAt st genBatch []

/-- One pass of the loop of `ExecuteStoredBatches`, on one batch, with the storage it commits:
set up the genesis state for the genesis batch, then execute the batch and store its execution
when it can be executed. An error returns the storage the step had committed. -/
def executeStoredBatch (st : Storage Tx) (batch : Batch Tx) : Except String Unit × Storage Tx :=
  match (if IsGenesis batch then handleGenesis rlpHash stateAt v st batch else .ok st) with
  | .error err => (.error err, st)
  | .ok st =>
    -- check batch execution prerequisites
    match executionPrerequisites v st batch with
    | .error err => (.error ("could not determine the execution prerequisites for batch " ++
        (batch.Hash rlpHash).Hex ++ ". Cause: " ++ err), st)
    | .ok false => (.ok (), st)
    | .ok true =>
      match v.ExecuteBatch st batch with
      | .error err =>
        (.error ("could not execute batch " ++ (batch.Hash rlpHash).Hex ++ ". Cause: " ++ err), st)
      | .ok receipts =>
        match StoreExecutedBatch rlpHash stateAt st batch receipts with
        | .error err => (.error ("could not store executed batch " ++ (batch.Hash rlpHash).Hex ++
            ". Cause: " ++ err), st)
        | .ok st => (.ok (), st)

/-- `obsValidator.ExecuteStoredBatches`: the step on each canonical unexecuted batch in turn,
returning at the first error. -/
def ExecuteStoredBatches (st : Storage Tx) : Except String Unit × Storage Tx :=
  CommitLoop.run (executeStoredBatch rlpHash stateAt v) st (FetchCanonicalUnexecutedBatches st)

/-! ## Marking a batch executed -/

/-- The rows once a batch's execution is stored: the rows of its hash are marked executed. -/
def markExecuted (hash : L2BatchHash) (rows : List (BatchRow Tx)) : List (BatchRow Tx) :=
  rows.map fun r => if r.hash = hash then { r with isExecuted := true } else r

section Mark

variable {rlpHash stateAt}

/-- The transaction of `StoreExecutedBatch` marks the rows: `writeBatchExecution` marks them, and
what runs after it keeps them. -/
theorem writeBatchExecution_bind_batches {st st' : Storage Tx} {hash : L2BatchHash}
    {receipts : List Receipt} {ins : Storage Tx → Except String (Storage Tx)}
    (hins : ∀ tx tx', ins tx = .ok tx' → tx'.batches = tx.batches) {f : String → String}
    (h : ((writeBatchExecution hash receipts st >>= ins).mapError f) = .ok st') :
    st'.batches = markExecuted hash st.batches := by
  obtain ⟨tx, htx, hins'⟩ := Except.bind_eq_ok.mp (Except.mapError_eq_ok.mp h)
  rw [hins tx st' hins']
  unfold writeBatchExecution at htx
  dsimp only at htx
  split at htx
  · cases htx
    rfl
  · cases htx

theorem insertEvents_batches {rows : List EventRow} {tx tx' : Storage Tx}
    (h : insertEvents rows tx = .ok tx') : tx'.batches = tx.batches := by
  unfold insertEvents at h
  split at h
  · cases h
    rfl
  · cases h

/-- A stored execution leaves the rows of an executed batch, or marks the rows of the batch's
hash executed. -/
theorem StoreExecutedBatch_batches {st st' : Storage Tx} {batch : Batch Tx}
    {receipts : List Receipt} (h : StoreExecutedBatch rlpHash stateAt st batch receipts = .ok st') :
    (st'.batches = st.batches ∧ BatchWasExecuted st (batch.Hash rlpHash) = true) ∨
      st'.batches = markExecuted (batch.Hash rlpHash) st.batches := by
  unfold StoreExecutedBatch at h
  by_cases hexec : BatchWasExecuted st (batch.Hash rlpHash) = true
  · rw [if_pos hexec] at h
    cases h
    exact .inl ⟨rfl, hexec⟩
  · right
    rw [if_neg hexec] at h
    dsimp only at h
    -- whichever state the logs are read against, the one transaction marks the rows
    split at h
    · obtain ⟨stateDB, -, h⟩ := Except.bind_eq_ok.mp h
      refine writeBatchExecution_bind_batches ?_ h
      intro tx tx' htx
      cases stateDB with
      | none =>
        cases htx
        rfl
      | some stateDB => exact insertEvents_batches htx
    · refine writeBatchExecution_bind_batches ?_ h
      intro tx tx' htx
      cases htx
      rfl

theorem map_hash_markExecuted (hash : L2BatchHash) (rows : List (BatchRow Tx)) :
    (markExecuted hash rows).map (·.hash) = rows.map (·.hash) := by
  rw [markExecuted, List.map_map]
  apply List.map_congr_left
  intro r _
  by_cases hh : r.hash = hash <;> simp [hh]

theorem mem_markExecuted_iff {hash : L2BatchHash} {rows : List (BatchRow Tx)} {r : BatchRow Tx} :
    r ∈ markExecuted hash rows ↔ ∃ r₀ ∈ rows,
      r = if r₀.hash = hash then { r₀ with isExecuted := true } else r₀ := by
  rw [markExecuted, List.mem_map]
  constructor
  · rintro ⟨r₀, hr₀, rfl⟩
    exact ⟨r₀, hr₀, rfl⟩
  · rintro ⟨r₀, hr₀, rfl⟩
    exact ⟨r₀, hr₀, rfl⟩

/-- A marked row is a row with the same hash, batch and canonical flag, executed when the row
was or when it has the hash. -/
theorem of_mem_markExecuted {hash : L2BatchHash} {rows : List (BatchRow Tx)} {r : BatchRow Tx}
    (hr : r ∈ markExecuted hash rows) :
    ∃ r₀ ∈ rows, r.hash = r₀.hash ∧ r.batch = r₀.batch ∧ r.isCanonical = r₀.isCanonical ∧
      (r.isExecuted = true → r₀.isExecuted = true ∨ r₀.hash = hash) := by
  obtain ⟨r₀, hr₀, rfl⟩ := mem_markExecuted_iff.mp hr
  refine ⟨r₀, hr₀, ?_⟩
  by_cases hh : r₀.hash = hash <;> simp [hh]

theorem mem_markExecuted {hash : L2BatchHash} {rows : List (BatchRow Tx)} {r₀ : BatchRow Tx}
    (hr₀ : r₀ ∈ rows) :
    ∃ r ∈ markExecuted hash rows, r.batch = r₀.batch ∧ r.isCanonical = r₀.isCanonical :=
  ⟨_, mem_markExecuted_iff.mpr ⟨r₀, hr₀, rfl⟩, by split <;> exact ⟨rfl, rfl⟩⟩

/-- Looking a canonical hash up in the marked rows finds the marked row. -/
theorem find?_markExecuted (hash h : L2BatchHash) (rows : List (BatchRow Tx)) :
    (markExecuted hash rows).find? (fun r => r.isCanonical && r.hash == h) =
      (rows.find? (fun r => r.isCanonical && r.hash == h)).map
        fun r => if r.hash = hash then { r with isExecuted := true } else r := by
  rw [markExecuted, List.find?_map]
  -- marking changes neither the canonical flag nor the hash the predicate reads
  congr 2
  funext r
  by_cases hh : r.hash = hash <;> simp [hh]

/-- Marking keeps every batch executed that was. -/
theorem BatchWasExecuted_of_markExecuted {st st' : Storage Tx} {hash h : L2BatchHash}
    (hst' : st'.batches = markExecuted hash st.batches) (hexec : BatchWasExecuted st h = true) :
    BatchWasExecuted st' h = true := by
  unfold BatchWasExecuted at hexec ⊢
  rw [hst', find?_markExecuted]
  cases hfind : st.batches.find? (fun r => r.isCanonical && r.hash == h) with
  | none =>
    rw [hfind] at hexec
    cases hexec
  | some r =>
    rw [hfind] at hexec
    by_cases hh : r.hash = hash <;> simp [hh, hexec]

/-- The lookup of `BatchWasExecuted` at the hash of a canonical row finds a row of that hash. -/
theorem find?_canonical_of_mem {rows : List (BatchRow Tx)} {r : BatchRow Tx} (hr : r ∈ rows)
    (hcanon : r.isCanonical = true) :
    ∃ x, rows.find? (fun r' => r'.isCanonical && r'.hash == r.hash) = some x ∧ x ∈ rows ∧
      x.hash = r.hash := by
  obtain ⟨x, hx⟩ : ∃ x, rows.find? (fun r' => r'.isCanonical && r'.hash == r.hash) = some x :=
    Option.isSome_iff_exists.mp (List.find?_isSome.mpr ⟨r, hr, by simp [hcanon]⟩)
  have hsome := List.find?_some hx
  simp only [Bool.and_eq_true, beq_iff_eq] at hsome
  exact ⟨x, hx, List.mem_of_find?_eq_some hx, hsome.2⟩

/-- Marking the hash of a canonical row makes it executed. -/
theorem BatchWasExecuted_markExecuted_self {st st' : Storage Tx} {r : BatchRow Tx}
    (hst' : st'.batches = markExecuted r.hash st.batches) (hr : r ∈ st.batches)
    (hcanon : r.isCanonical = true) : BatchWasExecuted st' r.hash = true := by
  unfold BatchWasExecuted
  rw [hst', find?_markExecuted]
  obtain ⟨x, hx, -, hxhash⟩ := find?_canonical_of_mem hr hcanon
  rw [hx]
  simp [hxhash]

theorem BatchWasExecuted_congr {st st' : Storage Tx} (hst' : st'.batches = st.batches)
    (h : L2BatchHash) : BatchWasExecuted st' h = BatchWasExecuted st h := by
  unfold BatchWasExecuted
  rw [hst']

/-- A stored execution keeps every batch executed that was. -/
theorem StoreExecutedBatch_mono {st st' : Storage Tx} {batch : Batch Tx} {receipts : List Receipt}
    (h : StoreExecutedBatch rlpHash stateAt st batch receipts = .ok st') {hash : L2BatchHash}
    (hexec : BatchWasExecuted st hash = true) : BatchWasExecuted st' hash = true := by
  rcases StoreExecutedBatch_batches h with ⟨hsame, -⟩ | hmark
  · rw [BatchWasExecuted_congr hsame]
    exact hexec
  · exact BatchWasExecuted_of_markExecuted hmark hexec

/-- A stored execution leaves the batch executed, when a canonical row has its hash. -/
theorem StoreExecutedBatch_executed {st st' : Storage Tx} {batch : Batch Tx}
    {receipts : List Receipt} (h : StoreExecutedBatch rlpHash stateAt st batch receipts = .ok st')
    {r : BatchRow Tx} (hr : r ∈ st.batches) (hcanon : r.isCanonical = true)
    (hhash : r.hash = batch.Hash rlpHash) : BatchWasExecuted st' (batch.Hash rlpHash) = true := by
  rcases StoreExecutedBatch_batches h with ⟨hsame, hexec⟩ | hmark
  · -- already executed: the call writes nothing
    rw [BatchWasExecuted_congr hsame]
    exact hexec
  · rw [← hhash] at hmark ⊢
    exact BatchWasExecuted_markExecuted_self hmark hr hcanon

end Mark

/-! ## The invariant -/

section Invariant

variable {rlpHash stateAt}

/-- The batch table's rows: one per hash, each under its batch's hash. -/
structure RowsWF (rlpHash : BatchHeader → Hash) (st : Storage Tx) : Prop where
  nodup : (st.batches.map (·.hash)).Nodup
  hash : ∀ r ∈ st.batches, r.hash = r.batch.Hash rlpHash

/-- Every executed canonical batch is the genesis or has an executed parent. -/
def Closed (st : Storage Tx) : Prop :=
  ∀ r ∈ st.batches, r.isCanonical = true → r.isExecuted = true →
    IsGenesis r.batch = true ∨ BatchWasExecuted st r.batch.Header.ParentHash = true

/-- Every batch of a list is the batch of a canonical row. -/
def CanonicalBatches (st : Storage Tx) (batches : List (Batch Tx)) : Prop :=
  ∀ b ∈ batches, ∃ r ∈ st.batches, r.batch = b ∧ r.isCanonical = true

/-- The invariants read the rows only. -/
theorem RowsWF.of_batches_eq {st st' : Storage Tx} (hsame : st'.batches = st.batches)
    (hwf : RowsWF rlpHash st) : RowsWF rlpHash st' :=
  ⟨hsame ▸ hwf.nodup, hsame ▸ hwf.hash⟩

theorem Closed.of_batches_eq {st st' : Storage Tx} (hsame : st'.batches = st.batches)
    (hclosed : Closed st) : Closed st' := by
  intro r hr hcanon hexec
  rw [BatchWasExecuted_congr hsame]
  exact hclosed r (hsame ▸ hr) hcanon hexec

theorem RowsWF.of_markExecuted {st st' : Storage Tx} {hash : L2BatchHash}
    (hst' : st'.batches = markExecuted hash st.batches) (hwf : RowsWF rlpHash st) :
    RowsWF rlpHash st' where
  nodup := by
    rw [hst', map_hash_markExecuted]
    exact hwf.nodup
  hash r hr := by
    rw [hst'] at hr
    obtain ⟨r₀, hr₀, hhash, hbatch, -, -⟩ := of_mem_markExecuted hr
    rw [hhash, hbatch]
    exact hwf.hash r₀ hr₀

theorem CanonicalBatches.of_markExecuted {st st' : Storage Tx} {hash : L2BatchHash}
    {batches : List (Batch Tx)} (hst' : st'.batches = markExecuted hash st.batches)
    (hc : CanonicalBatches st batches) : CanonicalBatches st' batches := by
  intro b hb
  obtain ⟨r₀, hr₀, rfl, hcanon⟩ := hc b hb
  obtain ⟨r, hr, hbatch, hcanon'⟩ : ∃ r ∈ markExecuted hash st.batches,
      r.batch = r₀.batch ∧ r.isCanonical = r₀.isCanonical := mem_markExecuted hr₀
  exact ⟨r, hst' ▸ hr, hbatch, hcanon'.trans hcanon⟩

/-- The row of a batch's hash is the batch's row. -/
theorem RowsWF.eq_of_hash {st : Storage Tx} (hwf : RowsWF rlpHash st) {r r₀ : BatchRow Tx}
    (hr : r ∈ st.batches) (hr₀ : r₀ ∈ st.batches) (hhash : r.hash = r₀.batch.Hash rlpHash) :
    r = r₀ :=
  List.inj_on_of_nodup_map hwf.nodup hr hr₀ (hhash.trans (hwf.hash r₀ hr₀).symm)

/-- Marking the hash of a batch keeps `Closed` when the batch is the genesis or its parent was
executed. -/
theorem Closed.of_markExecuted {st st' : Storage Tx} {r₀ : BatchRow Tx}
    (hst' : st'.batches = markExecuted (r₀.batch.Hash rlpHash) st.batches)
    (hwf : RowsWF rlpHash st) (hclosed : Closed st) (hr₀ : r₀ ∈ st.batches)
    (hready : IsGenesis r₀.batch = true ∨ BatchWasExecuted st r₀.batch.Header.ParentHash = true) :
    Closed st' := by
  intro r hr hcanon hexec
  rw [hst'] at hr
  obtain ⟨r₁, hr₁, -, hbatch, hcanon₁, hexec₁⟩ := of_mem_markExecuted hr
  rw [hbatch]
  rcases hexec₁ hexec with hexec₁ | hhash
  · -- a row executed before: its parent stays executed
    rcases hclosed r₁ hr₁ (hcanon₁ ▸ hcanon) hexec₁ with hgen | hparent
    · exact .inl hgen
    · exact .inr (BatchWasExecuted_of_markExecuted hst' hparent)
  · -- the newly marked row is the batch's own
    rw [hwf.eq_of_hash hr₁ hr₀ hhash]
    rcases hready with hgen | hparent
    · exact .inl hgen
    · exact .inr (BatchWasExecuted_of_markExecuted hst' hparent)

/-- What the loop keeps: well-formed rows, `Closed`, and the rows of the batches it was given. -/
structure Inv (rlpHash : BatchHeader → Hash) (batches : List (Batch Tx)) (st : Storage Tx) :
    Prop where
  rows : RowsWF rlpHash st
  closed : Closed st
  canonical : CanonicalBatches st batches

/-- A stored execution of a batch of the list, ready to run, keeps the invariant. -/
theorem Inv.StoreExecutedBatch {batches : List (Batch Tx)} {st st' : Storage Tx}
    {batch b' : Batch Tx} {receipts : List Receipt} (hinv : Inv rlpHash batches st)
    (hmem : batch ∈ batches) (hhash : b'.Hash rlpHash = batch.Hash rlpHash)
    (hready : IsGenesis batch = true ∨ BatchWasExecuted st batch.Header.ParentHash = true)
    (hstore : BatchStorage.StoreExecutedBatch rlpHash stateAt st b' receipts = .ok st') :
    Inv rlpHash batches st' := by
  obtain ⟨r₀, hr₀, rfl, -⟩ := hinv.canonical batch hmem
  rcases StoreExecutedBatch_batches hstore with ⟨hsame, -⟩ | hmark
  · -- nothing was written to the rows
    exact ⟨hinv.rows.of_batches_eq hsame, hinv.closed.of_batches_eq hsame,
      fun b hb => hsame ▸ hinv.canonical b hb⟩
  · rw [hhash] at hmark
    exact ⟨hinv.rows.of_markExecuted hmark,
      Closed.of_markExecuted hmark hinv.rows hinv.closed hr₀ hready,
      hinv.canonical.of_markExecuted hmark⟩

/-- Over well-formed rows, the flag of a canonical row is what `BatchWasExecuted` reads. -/
theorem RowsWF.BatchWasExecuted_eq {st : Storage Tx} (hwf : RowsWF rlpHash st) {r : BatchRow Tx}
    (hr : r ∈ st.batches) (hcanon : r.isCanonical = true) :
    BatchWasExecuted st r.hash = r.isExecuted := by
  unfold BatchWasExecuted
  obtain ⟨x, hx, hxmem, hxhash⟩ := find?_canonical_of_mem hr hcanon
  rw [hx, List.inj_on_of_nodup_map hwf.nodup hxmem hr hxhash]

/-- The invariant for a list is one for its tail. -/
theorem Inv.tail {batch : Batch Tx} {batches : List (Batch Tx)} {st : Storage Tx}
    (hinv : Inv rlpHash (batch :: batches) st) : Inv rlpHash batches st :=
  ⟨hinv.rows, hinv.closed, fun b hb => hinv.canonical b (List.mem_cons_of_mem batch hb)⟩

/-- A stored execution under the hash of a batch of the list leaves the batch executed. -/
theorem Inv.executed_of_store {batches : List (Batch Tx)} {st st' : Storage Tx}
    {batch b' : Batch Tx} {receipts : List Receipt} (hinv : Inv rlpHash batches st)
    (hmem : batch ∈ batches) (hhash : b'.Hash rlpHash = batch.Hash rlpHash)
    (hstore : BatchStorage.StoreExecutedBatch rlpHash stateAt st b' receipts = .ok st') :
    BatchWasExecuted st' (batch.Hash rlpHash) = true := by
  obtain ⟨r₀, hr₀, rfl, hcanon⟩ := hinv.canonical batch hmem
  rw [← hhash]
  exact StoreExecutedBatch_executed hstore hr₀ hcanon ((hinv.rows.hash r₀ hr₀).trans hhash.symm)

end Invariant

/-! ## One step -/

section Step

theorem handleGenesis_eq_ok {st st' : Storage Tx} {batch : Batch Tx}
    (h : handleGenesis rlpHash stateAt v st batch = .ok st') :
    ∃ genBatch, genBatch.Hash rlpHash = batch.Hash rlpHash ∧
      StoreExecutedBatch rlpHash stateAt st genBatch [] = .ok st' := by
  obtain ⟨genBatch, -, h⟩ := Except.bind_eq_ok.mp h
  by_cases hh : genBatch.Hash rlpHash = batch.Hash rlpHash
  · rw [if_neg (not_not.mpr hh)] at h
    exact ⟨genBatch, hh, h⟩
  · rw [if_pos hh] at h
    cases h

/-- With the L1 block stored, the prerequisites are the parent's execution. -/
theorem executionPrerequisites_of_ok {st : Storage Tx} {batch : Batch Tx} {block : L1Block}
    (hblock : v.FetchBlock batch.Header.L1Proof = .ok block) :
    executionPrerequisites v st batch = .ok (BatchWasExecuted st batch.Header.ParentHash) := by
  simp [executionPrerequisites, hblock]

/-- A block that is not found is an error of the prerequisites, not a batch that waits. -/
theorem executionPrerequisites_notFound {st : Storage Tx} {batch : Batch Tx}
    (hblock : v.FetchBlock batch.Header.L1Proof = .error ErrNotFound) :
    executionPrerequisites v st batch = .error ErrNotFound := by
  simp [executionPrerequisites, hblock]

/-- Every other error of the block read is dropped, and the batch cannot be executed. -/
theorem executionPrerequisites_otherError {st : Storage Tx} {batch : Batch Tx} {err : String}
    (hblock : v.FetchBlock batch.Header.L1Proof = .error err) (herr : err ≠ ErrNotFound) :
    executionPrerequisites v st batch = .ok false := by
  simp [executionPrerequisites, hblock, herr]

theorem executionPrerequisites_eq_ok_true {st : Storage Tx} {batch : Batch Tx}
    (h : executionPrerequisites v st batch = .ok true) :
    BatchWasExecuted st batch.Header.ParentHash = true := by
  cases hblock : v.FetchBlock batch.Header.L1Proof with
  | ok block =>
    rw [executionPrerequisites_of_ok v hblock] at h
    exact Except.ok.inj h
  | error err =>
    by_cases herr : err = ErrNotFound
    · rw [herr] at hblock
      rw [executionPrerequisites_notFound v hblock] at h
      cases h
    · rw [executionPrerequisites_otherError v hblock herr] at h
      cases h

/-- **What a step keeps.** A property of the storage that every stored execution of the step's
batch keeps, when the batch is the genesis or its parent was executed, holds after the step,
whatever the step returns. -/
theorem executeStoredBatch_preserves (P : Storage Tx → Prop) {st : Storage Tx} {batch : Batch Tx}
    (hstore : ∀ {st st' : Storage Tx} {b' : Batch Tx} {receipts : List Receipt}, P st →
      b'.Hash rlpHash = batch.Hash rlpHash →
      (IsGenesis batch = true ∨ BatchWasExecuted st batch.Header.ParentHash = true) →
      StoreExecutedBatch rlpHash stateAt st b' receipts = .ok st' → P st')
    (hP : P st) : P (executeStoredBatch rlpHash stateAt v st batch).2 := by
  cases hgen : (if IsGenesis batch then handleGenesis rlpHash stateAt v st batch else .ok st) with
  | error err =>
    simp only [executeStoredBatch, hgen]
    exact hP
  | ok st₁ =>
    -- the genesis batch's state is set up, and its execution stored, before the step goes on
    have hP₁ : P st₁ := by
      by_cases hg : IsGenesis batch = true
      · rw [if_pos hg] at hgen
        obtain ⟨genBatch, hhash, hstore'⟩ := handleGenesis_eq_ok rlpHash stateAt v hgen
        exact hstore hP hhash (.inl hg) hstore'
      · rw [if_neg hg] at hgen
        cases hgen
        exact hP
    cases hpre : executionPrerequisites v st₁ batch with
    | error err =>
      simp only [executeStoredBatch, hgen, hpre]
      exact hP₁
    | ok canExecute =>
      cases canExecute with
      | false =>
        simp only [executeStoredBatch, hgen, hpre]
        exact hP₁
      | true =>
        have hparent := executionPrerequisites_eq_ok_true v hpre
        cases hexec : v.ExecuteBatch st₁ batch with
        | error err =>
          simp only [executeStoredBatch, hgen, hpre, hexec]
          exact hP₁
        | ok receipts =>
          cases hst : StoreExecutedBatch rlpHash stateAt st₁ batch receipts with
          | error err =>
            simp only [executeStoredBatch, hgen, hpre, hexec, hst]
            exact hP₁
          | ok st₂ =>
            simp only [executeStoredBatch, hgen, hpre, hexec, hst]
            exact hstore hP₁ rfl (.inr hparent) hst

/-- A step keeps the invariant of a list it runs a batch of. -/
theorem executeStoredBatch_inv {batches : List (Batch Tx)} {st : Storage Tx} {batch : Batch Tx}
    (hinv : Inv rlpHash batches st) (hmem : batch ∈ batches) :
    Inv rlpHash batches (executeStoredBatch rlpHash stateAt v st batch).2 :=
  executeStoredBatch_preserves rlpHash stateAt v (Inv rlpHash batches)
    (fun hinv' hhash hready hstore => hinv'.StoreExecutedBatch hmem hhash hready hstore) hinv

/-- A step keeps every batch executed that was. -/
theorem executeStoredBatch_mono {st : Storage Tx} {batch : Batch Tx} {hash : L2BatchHash}
    (hexec : BatchWasExecuted st hash = true) :
    BatchWasExecuted (executeStoredBatch rlpHash stateAt v st batch).2 hash = true :=
  executeStoredBatch_preserves rlpHash stateAt v (BatchWasExecuted · hash = true)
    (fun hexec' _ _ hstore => StoreExecutedBatch_mono hstore hexec') hexec

/-- **A step that succeeds executes a batch that is ready.** With its L1 block stored, and the
batch the genesis or its parent executed, a step that succeeds leaves the batch executed. -/
theorem executeStoredBatch_executed {batches : List (Batch Tx)} {st st' : Storage Tx}
    {batch : Batch Tx} (hinv : Inv rlpHash batches st) (hmem : batch ∈ batches)
    {block : L1Block} (hblock : v.FetchBlock batch.Header.L1Proof = .ok block)
    (hready : IsGenesis batch = true ∨ BatchWasExecuted st batch.Header.ParentHash = true)
    (h : executeStoredBatch rlpHash stateAt v st batch = (.ok (), st')) :
    BatchWasExecuted st' (batch.Hash rlpHash) = true := by
  cases hgen : (if IsGenesis batch then handleGenesis rlpHash stateAt v st batch else .ok st) with
  | error err =>
    simp only [executeStoredBatch, hgen] at h
    cases h
  | ok st₁ =>
    -- after the genesis set-up, the genesis batch is executed and any other batch is ready
    have hst₁ : Inv rlpHash batches st₁ ∧ (BatchWasExecuted st₁ (batch.Hash rlpHash) = true ∨
        BatchWasExecuted st₁ batch.Header.ParentHash = true) := by
      by_cases hg : IsGenesis batch = true
      · rw [if_pos hg] at hgen
        obtain ⟨genBatch, hhash, hstore⟩ := handleGenesis_eq_ok rlpHash stateAt v hgen
        exact ⟨hinv.StoreExecutedBatch hmem hhash (.inl hg) hstore,
          .inl (hinv.executed_of_store hmem hhash hstore)⟩
      · rw [if_neg hg] at hgen
        cases hgen
        exact ⟨hinv, .inr (hready.resolve_left hg)⟩
    have hpre : executionPrerequisites v st₁ batch =
        .ok (BatchWasExecuted st₁ batch.Header.ParentHash) := executionPrerequisites_of_ok v hblock
    cases hparent : BatchWasExecuted st₁ batch.Header.ParentHash with
    | false =>
      -- only the genesis batch is skipped here, executed already
      rw [hparent] at hpre
      simp only [executeStoredBatch, hgen, hpre, Prod.mk.injEq] at h
      rw [← h.2]
      rw [hparent] at hst₁
      exact hst₁.2.resolve_right Bool.false_ne_true
    | true =>
      rw [hparent] at hpre
      cases hexec : v.ExecuteBatch st₁ batch with
      | error err =>
        simp only [executeStoredBatch, hgen, hpre, hexec] at h
        cases h
      | ok receipts =>
        cases hst : StoreExecutedBatch rlpHash stateAt st₁ batch receipts with
        | error err =>
          simp only [executeStoredBatch, hgen, hpre, hexec, hst] at h
          cases h
        | ok st₂ =>
          simp only [executeStoredBatch, hgen, hpre, hexec, hst, Prod.mk.injEq] at h
          rw [← h.2]
          exact hst₁.1.executed_of_store hmem rfl hst

/-- A batch other than the genesis whose L1 block is not found fails the step, which commits
nothing. -/
theorem executeStoredBatch_notFound {st : Storage Tx} {batch : Batch Tx}
    (hg : IsGenesis batch = false) (hblock : v.FetchBlock batch.Header.L1Proof = .error ErrNotFound) :
    executeStoredBatch rlpHash stateAt v st batch =
      (.error ("could not determine the execution prerequisites for batch " ++
        (batch.Hash rlpHash).Hex ++ ". Cause: " ++ ErrNotFound), st) := by
  simp [executeStoredBatch, hg, executionPrerequisites_notFound v hblock]

/-- A batch other than the genesis whose L1 block read fails otherwise is skipped. -/
theorem executeStoredBatch_otherError {st : Storage Tx} {batch : Batch Tx} {err : String}
    (hg : IsGenesis batch = false) (hblock : v.FetchBlock batch.Header.L1Proof = .error err)
    (herr : err ≠ ErrNotFound) : executeStoredBatch rlpHash stateAt v st batch = (.ok (), st) := by
  simp [executeStoredBatch, hg, executionPrerequisites_otherError v hblock herr]

end Step

/-! ## The runs -/

section Run

theorem mem_FetchCanonicalUnexecutedBatches {st : Storage Tx} {b : Batch Tx} :
    b ∈ FetchCanonicalUnexecutedBatches st ↔
      ∃ r ∈ st.batches, r.isExecuted = false ∧ r.isCanonical = true ∧ r.batch = b := by
  simp [FetchCanonicalUnexecutedBatches, List.mem_mergeSort, and_assoc]

/-- The batches the call runs on are those of canonical rows. -/
theorem canonicalBatches_FetchCanonicalUnexecutedBatches (st : Storage Tx) :
    CanonicalBatches st (FetchCanonicalUnexecutedBatches st) := by
  intro b hb
  obtain ⟨r, hr, -, hcanon, hbatch⟩ := mem_FetchCanonicalUnexecutedBatches.mp hb
  exact ⟨r, hr, hbatch, hcanon⟩

/-- The runs keep the invariant of the list they run on, whatever they return. -/
theorem executeStoredBatches_inv (batches : List (Batch Tx)) {st : Storage Tx}
    (hinv : Inv rlpHash batches st) :
    Inv rlpHash batches (CommitLoop.run (executeStoredBatch rlpHash stateAt v) st batches).2 :=
  CommitLoop.run_preserves (Inv rlpHash batches) (· ∈ batches)
    (fun _ _ hinv' hmem => executeStoredBatch_inv rlpHash stateAt v hinv' hmem)
    batches st (fun _ hb => hb) hinv

/-- The runs keep every batch executed that was. -/
theorem executeStoredBatches_mono (batches : List (Batch Tx)) {st : Storage Tx}
    {hash : L2BatchHash} (hexec : BatchWasExecuted st hash = true) :
    BatchWasExecuted (CommitLoop.run (executeStoredBatch rlpHash stateAt v) st batches).2 hash =
      true :=
  CommitLoop.run_preserves (BatchWasExecuted · hash = true) (fun _ => True)
    (fun _ _ hexec' _ => executeStoredBatch_mono rlpHash stateAt v hexec')
    batches st (fun _ _ => trivial) hexec

/-- **A chain of ready batches is executed.** A run that succeeds, on batches of canonical rows
whose L1 blocks are stored, each the child of the one before and the first the genesis or with
an executed parent, leaves all of them executed. -/
theorem executeStoredBatches_chain : ∀ (batches : List (Batch Tx)) {st st' : Storage Tx},
    Inv rlpHash batches st →
    (∀ b ∈ batches, ∃ block, v.FetchBlock b.Header.L1Proof = .ok block) →
    List.IsChain (fun a b => b.Header.ParentHash = a.Hash rlpHash) batches →
    (∀ b ∈ batches.head?, IsGenesis b = true ∨ BatchWasExecuted st b.Header.ParentHash = true) →
    CommitLoop.run (executeStoredBatch rlpHash stateAt v) st batches = (.ok (), st') →
    ∀ b ∈ batches, BatchWasExecuted st' (b.Hash rlpHash) = true := by
  intro batches
  induction batches with
  | nil =>
    intro st st' _ _ _ _ _ b hb
    cases hb
  | cons batch rest ih =>
    intro st st' hinv hblocks hchain hfirst hrun
    obtain ⟨st₁, hstep, hrest⟩ := CommitLoop.run_cons_eq_ok.mp hrun
    obtain ⟨block, hblock⟩ := hblocks batch List.mem_cons_self
    have hexec₁ : BatchWasExecuted st₁ (batch.Hash rlpHash) = true :=
      executeStoredBatch_executed rlpHash stateAt v hinv List.mem_cons_self hblock (hfirst batch rfl)
        hstep
    have hinv₁ : Inv rlpHash rest st₁ := by
      have h : Inv rlpHash (batch :: rest) (executeStoredBatch rlpHash stateAt v st batch).2 :=
        executeStoredBatch_inv rlpHash stateAt v hinv List.mem_cons_self
      rw [hstep] at h
      exact h.tail
    -- the next batch's parent is this one, now executed
    have hfirst₁ : ∀ b ∈ rest.head?, IsGenesis b = true ∨
        BatchWasExecuted st₁ b.Header.ParentHash = true := by
      intro b hb
      cases rest with
      | nil => cases hb
      | cons c rest' =>
        cases hb
        rw [(List.isChain_cons_cons.mp hchain).1]
        exact .inr hexec₁
    have hrest' := ih hinv₁ (fun b hb => hblocks b (List.mem_cons_of_mem batch hb)) hchain.tail
      hfirst₁ hrest
    intro b hb
    rcases List.mem_cons.mp hb with rfl | hb
    · have h := executeStoredBatches_mono rlpHash stateAt v rest hexec₁
      rw [hrest] at h
      exact h
    · exact hrest' b hb

/-- A first batch, other than the genesis, whose L1 block is not found fails the whole call
before anything is written: none of the batches after it is executed. -/
theorem ExecuteStoredBatches_notFound {st : Storage Tx} {batch : Batch Tx}
    {rest : List (Batch Tx)} (hfetch : FetchCanonicalUnexecutedBatches st = batch :: rest)
    (hg : IsGenesis batch = false) (hblock : v.FetchBlock batch.Header.L1Proof = .error ErrNotFound) :
    ExecuteStoredBatches rlpHash stateAt v st =
      (.error ("could not determine the execution prerequisites for batch " ++
        (batch.Hash rlpHash).Hex ++ ". Cause: " ++ ErrNotFound), st) := by
  rw [ExecuteStoredBatches, hfetch]
  exact CommitLoop.run_cons_of_error (executeStoredBatch_notFound rlpHash stateAt v hg hblock) rest

/-- **The validator keeps `Closed`.** Over well-formed rows in which every executed canonical
batch is the genesis or has an executed parent, `ExecuteStoredBatches` keeps both, whatever it
returns. -/
theorem ExecuteStoredBatches_closed {st : Storage Tx} (hwf : RowsWF rlpHash st)
    (hclosed : Closed st) :
    RowsWF rlpHash (ExecuteStoredBatches rlpHash stateAt v st).2 ∧
      Closed (ExecuteStoredBatches rlpHash stateAt v st).2 := by
  have hinv := executeStoredBatches_inv rlpHash stateAt v (FetchCanonicalUnexecutedBatches st)
    ⟨hwf, hclosed, canonicalBatches_FetchCanonicalUnexecutedBatches st⟩
  exact ⟨hinv.rows, hinv.closed⟩

/-- **A call that succeeds catches up.** When the canonical batches not yet executed have their
L1 blocks stored and, in sequence order, each is the child of the one before and the first is
the genesis or has an executed parent, a call that succeeds leaves every canonical batch
executed. -/
theorem ExecuteStoredBatches_executed {st st' : Storage Tx} (hwf : RowsWF rlpHash st)
    (hclosed : Closed st)
    (hblocks : ∀ b ∈ FetchCanonicalUnexecutedBatches st,
      ∃ block, v.FetchBlock b.Header.L1Proof = .ok block)
    (hchain : List.IsChain (fun a b => b.Header.ParentHash = a.Hash rlpHash)
      (FetchCanonicalUnexecutedBatches st))
    (hfirst : ∀ b ∈ (FetchCanonicalUnexecutedBatches st).head?,
      IsGenesis b = true ∨ BatchWasExecuted st b.Header.ParentHash = true)
    (hrun : ExecuteStoredBatches rlpHash stateAt v st = (.ok (), st')) :
    ∀ r ∈ st.batches, r.isCanonical = true → BatchWasExecuted st' r.hash = true := by
  intro r hr hcanon
  cases hexec : r.isExecuted with
  | true =>
    -- executed before the call, and kept
    have h := executeStoredBatches_mono rlpHash stateAt v (FetchCanonicalUnexecutedBatches st)
      ((hwf.BatchWasExecuted_eq hr hcanon).trans hexec)
    rw [ExecuteStoredBatches] at hrun
    rw [hrun] at h
    exact h
  | false =>
    -- one of the batches the call runs on
    have hmem : r.batch ∈ FetchCanonicalUnexecutedBatches st :=
      mem_FetchCanonicalUnexecutedBatches.mpr ⟨r, hr, hexec, hcanon, rfl⟩
    rw [hwf.hash r hr]
    exact executeStoredBatches_chain rlpHash stateAt v _
      ⟨hwf, hclosed, canonicalBatches_FetchCanonicalUnexecutedBatches st⟩ hblocks hchain hfirst
      hrun r.batch hmem

/-- A validator over unit transactions whose L1 blocks are all stored, whose genesis state
gives the genesis batch of height 0 and sequence number 1, and whose executions succeed with no
receipts. -/
def genesisValidator : obsValidator Unit :=
  ⟨fun h => .ok ⟨h, 0, 0⟩, fun _ _ => .ok [], fun _ _ => .ok ⟨cxStoreHeader 0 1 0, []⟩⟩

/-- The genesis batch and its child, as a sequencer publishes them. -/
def cxGenesisBatch : Batch Unit := ⟨cxStoreHeader 0 1 0, []⟩
def cxChildBatch : Batch Unit := ⟨cxStoreHeader 1 2 1, []⟩

/-- A table holding both batches, canonical and not yet executed. -/
def twoBatchStorage : Storage Unit :=
  ⟨[⟨1, 1, 0, true, cxGenesisBatch, false⟩, ⟨2, 2, 1, true, cxChildBatch, false⟩], [], []⟩

/-- The call sets up the genesis state, then executes the child on it: both are executed. -/
theorem ExecuteStoredBatches_executed_twoBatches :
    BatchWasExecuted (ExecuteStoredBatches cxStoreHash cxStoreState genesisValidator
      twoBatchStorage).2 2 = true := by
  have hbatches : FetchCanonicalUnexecutedBatches twoBatchStorage =
      [cxGenesisBatch, cxChildBatch] := by
    simp [FetchCanonicalUnexecutedBatches, twoBatchStorage, List.mergeSort]
  have hok : (ExecuteStoredBatches cxStoreHash cxStoreState genesisValidator
      twoBatchStorage).1 = .ok () := by
    rw [ExecuteStoredBatches, hbatches]
    decide
  exact ExecuteStoredBatches_executed cxStoreHash cxStoreState genesisValidator
    ⟨by decide, by decide⟩ (by unfold Closed; decide) (fun _ _ => ⟨_, rfl⟩)
    (by rw [hbatches]; decide)
    (by rw [hbatches]; intro b hb; cases hb; exact .inl rfl) (Prod.ext hok rfl)
    _ (List.mem_cons_of_mem _ List.mem_cons_self) rfl

end Run

/-! ## The batch table over the validator's calls -/

section Calls

variable {rlpHash stateAt}

/-- A stored batch leaves the rows, or appends the row of a batch whose hash has none. -/
theorem StoreBatch_batches {isCanon : L1BlockHash → Bool} {st st' : Storage Tx}
    {batch : Batch Tx} (h : StoreBatch rlpHash isCanon st batch = .ok st') :
    st'.batches = st.batches ∨ (st.batches.any (·.hash = batch.Hash rlpHash) = false ∧
      st'.batches = st.batches ++ [newRow rlpHash isCanon batch]) := by
  unfold StoreBatch at h
  split at h
  · -- a batch of the same sequence number is stored: the same batch is accepted again
    left
    split at h
    · cases h
    · cases h
      rfl
  · right
    have hw := Except.mapError_eq_ok.mp h
    unfold WriteBatchAndTransactions at hw
    cases hhash : st.batches.any (·.hash = batch.Hash rlpHash)
    · cases hseq : st.batches.any (·.sequence = UInt64.ofNat batch.Header.SequencerOrderNo)
      · simp only [hhash, hseq, Bool.false_eq_true, if_false, Except.ok.injEq] at hw
        rw [← hw]
        exact ⟨rfl, rfl⟩
      · simp only [hhash, hseq, Bool.false_eq_true, if_false, if_true] at hw
        cases hw
    · simp only [hhash, if_true] at hw
      cases hw

/-- The appended row is not executed, and no row had its hash: what `BatchWasExecuted` reads is
unchanged. -/
theorem BatchWasExecuted_append_newRow {isCanon : L1BlockHash → Bool} {st st' : Storage Tx}
    {batch : Batch Tx} (happ : st'.batches = st.batches ++ [newRow rlpHash isCanon batch])
    (hash : L2BatchHash) : BatchWasExecuted st' hash = BatchWasExecuted st hash := by
  unfold BatchWasExecuted
  rw [happ]
  cases hfind : st.batches.find? (fun r => r.isCanonical && r.hash == hash) with
  | some r => rw [find?_append_of_some _ hfind]
  | none =>
    rw [List.find?_append, hfind, Option.none_or, List.find?_singleton]
    split_ifs <;> rfl

/-- The row of a batch whose hash has none, appended, keeps the well-formed rows. -/
theorem RowsWF.append_newRow {isCanon : L1BlockHash → Bool} {st st' : Storage Tx}
    {batch : Batch Tx} (hwf : RowsWF rlpHash st)
    (hnew : st.batches.any (·.hash = batch.Hash rlpHash) = false)
    (happ : st'.batches = st.batches ++ [newRow rlpHash isCanon batch]) : RowsWF rlpHash st' := by
  constructor
  · -- the new hash is none of the old ones
    have hnotin : batch.Hash rlpHash ∉ st.batches.map (·.hash) := by
      intro hmem
      obtain ⟨r, hr, hrhash⟩ := List.mem_map.mp hmem
      have hany := List.any_eq_false.mp hnew r hr
      exact hany (decide_eq_true hrhash)
    rw [happ, List.map_append, List.map_singleton]
    refine List.nodup_append.mpr ⟨hwf.nodup, List.nodup_singleton _, ?_⟩
    intro a ha b hb hab
    rw [List.mem_singleton] at hb
    subst hb hab
    exact hnotin ha
  · intro r hr
    rw [happ, List.mem_append, List.mem_singleton] at hr
    rcases hr with hr | rfl
    · exact hwf.hash r hr
    · rfl

/-- A stored batch keeps the well-formed rows. -/
theorem RowsWF.StoreBatch {isCanon : L1BlockHash → Bool} {st st' : Storage Tx}
    {batch : Batch Tx} (hwf : RowsWF rlpHash st) (h : StoreBatch rlpHash isCanon st batch = .ok st') :
    RowsWF rlpHash st' := by
  rcases StoreBatch_batches h with hsame | ⟨hnew, happ⟩
  · exact hwf.of_batches_eq hsame
  · exact hwf.append_newRow hnew happ

/-- A stored batch keeps `Closed`: its row is not executed, and what the old rows read is
unchanged. -/
theorem Closed.StoreBatch {isCanon : L1BlockHash → Bool} {st st' : Storage Tx}
    {batch : Batch Tx} (hclosed : Closed st) (h : StoreBatch rlpHash isCanon st batch = .ok st') :
    Closed st' := by
  rcases StoreBatch_batches h with hsame | ⟨-, happ⟩
  · exact hclosed.of_batches_eq hsame
  · intro r hr hcanon hexec
    rw [BatchWasExecuted_append_newRow happ]
    rw [happ, List.mem_append, List.mem_singleton] at hr
    rcases hr with hr | rfl
    · exact hclosed r hr hcanon hexec
    · cases hexec

end Calls

variable {rlpHash stateAt}

/-- The calls of a validator that write its batch table: a batch received from the sequencer,
stored with the canonical flags of the L1 blocks at that moment, and the execution of the
stored batches on an L1 block, against the block table and executor at that moment. -/
inductive Call (Tx : Type) where
  | StoreBatch (isCanon : L1BlockHash → Bool) (batch : Batch Tx)
  | ExecuteStoredBatches (v : obsValidator Tx)

variable (rlpHash stateAt)

/-- A call's effect on the batch table: a failed store writes nothing, and an execution keeps
what its steps committed. -/
def Call.apply : Call Tx → Storage Tx → Storage Tx
  | .StoreBatch isCanon batch, st =>
    match BatchStorage.StoreBatch rlpHash isCanon st batch with
    | .ok st' => st'
    | .error _ => st
  | .ExecuteStoredBatches v, st => (Validator.ExecuteStoredBatches rlpHash stateAt v st).2

/-- The batch table after a sequence of calls. -/
def runCalls (calls : List (Call Tx)) (st : Storage Tx) : Storage Tx :=
  calls.foldl (fun st c => c.apply rlpHash stateAt st) st

/-- One call keeps the rows well formed and `Closed`. -/
theorem Call.apply_closed (c : Call Tx) {st : Storage Tx} (hwf : RowsWF rlpHash st)
    (hclosed : Closed st) :
    RowsWF rlpHash (c.apply rlpHash stateAt st) ∧ Closed (c.apply rlpHash stateAt st) := by
  cases c with
  | StoreBatch isCanon batch =>
    cases h : BatchStorage.StoreBatch rlpHash isCanon st batch with
    | ok st' =>
      simp only [Call.apply, h]
      exact ⟨hwf.StoreBatch h, hclosed.StoreBatch h⟩
    | error err =>
      simp only [Call.apply, h]
      exact ⟨hwf, hclosed⟩
  | ExecuteStoredBatches v => exact ExecuteStoredBatches_closed rlpHash stateAt v hwf hclosed

/-- **No batch is executed before its parent.** Over any sequence of stored batches and
executions, whatever each call returns, the rows stay well formed and every executed canonical
batch stays the genesis or the child of an executed batch. -/
theorem runCalls_closed : ∀ (calls : List (Call Tx)) {st : Storage Tx}, RowsWF rlpHash st →
    Closed st → RowsWF rlpHash (runCalls rlpHash stateAt calls st) ∧
      Closed (runCalls rlpHash stateAt calls st) := by
  intro calls
  induction calls with
  | nil =>
    intro st hwf hclosed
    exact ⟨hwf, hclosed⟩
  | cons c calls ih =>
    intro st hwf hclosed
    have h := c.apply_closed rlpHash stateAt hwf hclosed
    exact ih h.1 h.2

/-- An empty batch table is well formed and `Closed`. -/
theorem empty_closed : RowsWF rlpHash (⟨[], [], []⟩ : Storage Tx) ∧ Closed (⟨[], [], []⟩ : Storage Tx) :=
  ⟨⟨List.nodup_nil, fun _ hr => by cases hr⟩, fun _ hr => by cases hr⟩

/-- Both batches stored from the empty table, then executed. -/
def cxStoreAndExecute : List (Call Unit) :=
  [.StoreBatch (fun _ => true) cxGenesisBatch, .StoreBatch (fun _ => true) cxChildBatch,
    .ExecuteStoredBatches genesisValidator]

/-- The stores and the execution keep the rows well formed and `Closed`. -/
theorem runCalls_closed_storeAndExecute :
    RowsWF cxStoreHash (runCalls cxStoreHash cxStoreState cxStoreAndExecute ⟨[], [], []⟩) ∧
      Closed (runCalls cxStoreHash cxStoreState cxStoreAndExecute ⟨[], [], []⟩) :=
  runCalls_closed cxStoreHash cxStoreState cxStoreAndExecute (empty_closed cxStoreHash).1
    (empty_closed cxStoreHash).2

end Obscuro.Validator
