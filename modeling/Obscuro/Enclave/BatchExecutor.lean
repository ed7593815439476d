import Obscuro.Enclave.Evm
import Obscuro.Enclave.CrossChain
import Obscuro.Lib.ExceptBind

/-!
# Computing and validating batches

`go/enclave/components/batch_executor.go` with `core.DeterministicEmptyBatch`. The sequencer
computes a batch from a candidate list of transactions (`ComputeBatch`): it runs them,
excludes those the EVM rejects, and records the survivors. A validator re-runs
`ComputeBatch` on the survivors (`ExecuteBatch`) and accepts the batch if the hashes agree.

Storage, go-ethereum and the cross-chain processor's packing and signing are parameters
(`Storage`, `Env`). The messages a batch delivers come from the modelled
`RetrieveInboundMessages`.

Main results:

* `processTransactions_prefix` — running a candidate list whose excluded transactions all
  come after the included ones gives what running the included ones alone gives;
* `ComputeBatch_reexecute_of_prefix` — for such a list, a validator's re-execution rebuilds
  the very batch the sequencer computed;
* `ExecuteBatch_rejectsAfterExclusion` — with an excluded transaction before an included one,
  the validator computes a different batch: `ExecuteBatch` reports "batch is in invalid state"
  for an honestly produced batch.
-/

namespace Obscuro.BatchExecutor

open Evm CrossChain ParentWalk

/-- The part of the enclave storage `ComputeBatch` reads: the L1 blocks and their messages,
the batches, the states, and the shared secret that `evm.secret` reads. -/
structure Storage (σ Tx : Type) extends L1Storage where
  FetchBatch : L2BatchHash → Except String (Batch Tx)
  CreateStateDB : L2BatchHash → Except String σ
  Secret : Bytes

/-- go-ethereum and the cross-chain processor as the batch executor calls them: beyond
transaction execution, the state root, trie hashing of transactions and receipts, the
synthetic transactions for inbound messages, the outbound messages of receipts, and the state
commit. -/
structure Env (σ Tx : Type) extends Geth σ Tx where
  IntermediateRoot : σ → Hash
  DeriveShaTxs : List Tx → Hash
  DeriveShaReceipts : List Receipt → Hash
  CreateSyntheticTransactions : List CrossChainMessage → σ → List Tx
  ExtractOutboundMessages : List Receipt → Except String (List CrossChainMessage)
  Commit : σ → Except String Hash

/-- `BatchExecutionContext`, without the chain config (fixed for the executor). -/
structure BatchExecutionContext (Tx : Type) where
  BlockPtr : L1BlockHash
  ParentPtr : L2BatchHash
  Transactions : List Tx
  AtTime : UInt64
  SequencerNo : Nat

/-- `ComputedBatch`: the batch, the receipts of its transactions, and the state `Commit`
writes. -/
structure ComputedBatch (σ Tx : Type) where
  Batch : Batch Tx
  Receipts : List Receipt
  State : σ

variable {σ Tx : Type} (env : Env σ Tx) (s : Storage σ Tx)

/-- `core.DeterministicEmptyBatch(parent, block, time, sequencerNo)`. -/
def DeterministicEmptyBatch (parent : BatchHeader) (block : L1Block) (time : UInt64)
    (sequencerNo : Nat) : Batch Tx :=
  { Header :=
      { ParentHash := parent.Hash env.RlpHash
        Root := 0
        TxHash := 0
        ReceiptHash := 0
        Number := parent.Number + 1
        SequencerOrderNo := sequencerNo
        GasLimit := 0
        GasUsed := 0
        Time := time
        Extra := []
        BaseFee := none
        L1Proof := block.hash
        R := none
        S := none
        CrossChainMessages := []
        LatestInboundCrossChainHash := 0
        LatestInboundCrossChainHeight := none }
    Transactions := [] }

/-- The loop of `processTransactions` over `txs` and the results: a transaction with a receipt
is kept with it, one with an error is excluded. -/
def collectResults (txResults : TxResults) : List Tx → Except String (List Tx × List Receipt)
  | [] => .ok ([], [])
  | tx :: txs =>
    match txResults (env.TxHash tx) with
    | none => .error "there should be an entry for each transaction"
    | some (.ok rec) => (fun r => (tx :: r.1, rec :: r.2)) <$> collectResults txResults txs
    | some (.error _) => collectResults txResults txs

/-- `sort.Sort(sortByTxIndex(txReceipts))`. Go sorts short slices by insertion, which keeps
receipts with equal indexes in their order; so does this. -/
def sortByTxIndex (receipts : List Receipt) : List Receipt :=
  receipts.insertionSort fun a b => a.TransactionIndex ≤ b.TransactionIndex

/-- `processTransactions(batch, tCount, txs, stateDB, cc)`: the executed transactions, their
receipts sorted by index, and the state after them. -/
def processTransactions (secret : Bytes) (batch : Batch Tx) (tCount : Nat) (txs : List Tx)
    (stateDB : σ) : Except String (List Tx × List Receipt × σ) :=
  let (txResults, s') := ExecuteTransactions env.toGeth txs stateDB batch.Header secret tCount
  (fun r => (r.1, sortByTxIndex r.2, s')) <$> collectResults env txResults txs

/-- `verifyInboundCrossChainTransactions`: every synthetic transaction ran, and succeeded. -/
def verifyInboundCrossChainTransactions (transactions executedTxs : List Tx)
    (receipts : List Receipt) : Except String Unit :=
  if transactions.length ≠ executedTxs.length then
    .error "some synthetic transactions have not been executed"
  else
    match receipts.find? (·.Status ≠ 1) with
    | some rec => .error ("found a failed receipt for a synthetic transaction: " ++ rec.TxHash.Hex)
    | none => .ok ()

/-- `populateOutboundCrossChainData`: the outbound messages of the receipts, and the L1 block
the batch read inbound messages up to. -/
def populateOutboundCrossChainData (batch : Batch Tx) (block : L1Block)
    (receipts : List Receipt) : Except String (Batch Tx) :=
  match env.ExtractOutboundMessages receipts with
  | .error err => .error ("could not extract cross chain messages. Cause: " ++ err)
  | .ok crossChainMessages =>
    .ok { batch with
      Header := { batch.Header with
        CrossChainMessages := crossChainMessages
        LatestInboundCrossChainHash := block.hash
        LatestInboundCrossChainHeight := some block.number } }

/-- `populateHeader`: the receipt and transaction roots. -/
def populateHeader (batch : Batch Tx) (receipts : List Receipt) : Batch Tx :=
  { batch with
    Header := { batch.Header with
      ReceiptHash := if receipts.isEmpty then EmptyRootHash else env.DeriveShaReceipts receipts
      TxHash :=
        if batch.Transactions.isEmpty then EmptyRootHash else env.DeriveShaTxs batch.Transactions } }

/-- The inbound messages of `ComputeBatch` (its `messages`): cross-chain data is not accessible
until one batch after genesis; later batches read the messages between the parent's L1 proof
and their own. The sequence number is compared as `SequencerNo.Int64()`. -/
def inboundMessages (sequencerNo : Nat) (parentBlock block : L1Block) :
    Except String (List CrossChainMessage) :=
  if Int64.ofNat (L2GenesisSeqNo + 1) < Go.bigInt64 sequencerNo then
    RetrieveInboundMessages s.toL1Storage parentBlock block
  else .ok []

/-- `batchExecutor.ComputeBatch(context)`. -/
def ComputeBatch (ctx : BatchExecutionContext Tx) : Except String (ComputedBatch σ Tx) := do
  -- the L1 block must exist: batches of forks are not executed
  let block ← (s.FetchBlock ctx.BlockPtr).mapError fun err =>
    if err = ErrNotFound then ErrBlockForBatchNotFound
    else "failed to retrieve block " ++ ctx.BlockPtr.Hex ++ " for batch. Cause: " ++ err
  let parent ← (s.FetchBatch ctx.ParentPtr).mapError fun err =>
    if err = ErrNotFound then ErrAncestorBatchNotFound
    else "failed to retrieve parent batch " ++ ctx.ParentPtr.Hex ++ ". Cause: " ++ err
  let parentBlock ←
    (if parent.Header.L1Proof ≠ block.hash then s.FetchBlock parent.Header.L1Proof
      else pure block)
  let batch := DeterministicEmptyBatch env parent.Header block ctx.AtTime ctx.SequencerNo
  let stateDB ← (s.CreateStateDB batch.Header.ParentHash).mapError fun err =>
    "could not create stateDB. Cause: " ++ err
  let messages ← inboundMessages s ctx.SequencerNo parentBlock block
  let crossChainTransactions := env.CreateSyntheticTransactions messages stateDB
  let (successfulTxs, txReceipts, s1) ←
    (processTransactions env s.Secret batch 0 ctx.Transactions stateDB).mapError fun err =>
      "could not process transactions. Cause: " ++ err
  let (ccSuccessfulTxs, ccReceipts, s2) ←
    processTransactions env s.Secret batch successfulTxs.length crossChainTransactions s1
  (verifyInboundCrossChainTransactions crossChainTransactions ccSuccessfulTxs
      ccReceipts).mapError fun err =>
    "batch computation failed due to cross chain messages. Cause: " ++ err
  let copyBatch : Batch Tx :=
    { Header := { batch.Header with Root := env.IntermediateRoot s2 }
      Transactions := successfulTxs }
  let copyBatch ← (populateOutboundCrossChainData env copyBatch block txReceipts).mapError
    fun err => "failed adding cross chain data to batch. Cause: " ++ err
  let copyBatch := populateHeader env copyBatch (txReceipts ++ ccReceipts)
  -- the receipts and logs the EVM produced point at the batch's final hash
  let hash := copyBatch.Hash env.RlpHash
  pure
    { Batch := copyBatch
      Receipts := txReceipts.map fun r =>
        { r with BlockHash := hash, Logs := r.Logs.map fun l => { l with BlockHash := hash } }
      State := s2 }

/-- The context a validator rebuilds from an incoming batch. -/
def contextOf (batch : Batch Tx) : BatchExecutionContext Tx :=
  { BlockPtr := batch.Header.L1Proof
    ParentPtr := batch.Header.ParentHash
    Transactions := batch.Transactions
    AtTime := batch.Header.Time
    SequencerNo := batch.Header.SequencerOrderNo }

/-- The error `ExecuteBatch` reports when the recomputed batch differs. -/
def invalidStateError (incoming computed : L2BatchHash) : String :=
  "batch is in invalid state. Incoming hash: " ++ incoming.Hex ++ "  Computed hash: " ++
    computed.Hex

/-- `batchExecutor.ExecuteBatch(batch)`: recompute the batch from its own header and
transactions, compare hashes, and commit. -/
def ExecuteBatch (batch : Batch Tx) : Except String (List Receipt) := do
  let cb ← (ComputeBatch env s (contextOf batch)).mapError fun err =>
    "failed computing batch " ++ (batch.Hash env.RlpHash).Hex ++ ". Cause: " ++ err
  if cb.Batch.Hash env.RlpHash ≠ batch.Hash env.RlpHash then
    .error (invalidStateError (batch.Hash env.RlpHash) (cb.Batch.Hash env.RlpHash))
  else
    let _ ← (env.Commit cb.State).mapError fun err =>
      "cannot commit stateDB for incoming valid batch " ++ (batch.Hash env.RlpHash).Hex ++
        ". Cause: " ++ err
    pure cb.Receipts

/-! ## Collecting the results -/

section Collect

variable {env}

theorem collectResults_cons (m : TxResults) (tx : Tx) (txs : List Tx) :
    collectResults env m (tx :: txs) =
      match m (env.TxHash tx) with
      | none => .error "there should be an entry for each transaction"
      | some (.ok rec) => (fun r => (tx :: r.1, rec :: r.2)) <$> collectResults env m txs
      | some (.error _) => collectResults env m txs := rfl

/-- The collection reads the map only at the hashes of the list. -/
theorem collectResults_congr {m m' : TxResults} :
    ∀ (txs : List Tx), (∀ tx ∈ txs, m (env.TxHash tx) = m' (env.TxHash tx)) →
      collectResults env m txs = collectResults env m' txs
  | [], _ => rfl
  | tx :: txs, h => by
    rw [collectResults_cons, collectResults_cons, h tx List.mem_cons_self,
      collectResults_congr txs fun t ht => h t (List.mem_cons_of_mem _ ht)]

/-- The collection of a concatenation is the concatenation of the collections. -/
theorem collectResults_append (m : TxResults) :
    ∀ (xs ys : List Tx), collectResults env m (xs ++ ys) =
      (collectResults env m xs >>= fun a =>
        (fun b => (a.1 ++ b.1, a.2 ++ b.2)) <$> collectResults env m ys)
  | [], ys => by
    rw [List.nil_append, collectResults]
    cases collectResults env m ys <;> rfl
  | x :: xs, ys => by
    rw [List.cons_append, collectResults_cons, collectResults_cons,
      collectResults_append m xs ys]
    rcases m (env.TxHash x) with _ | (_ | rec)
    · rfl
    · rfl
    · -- a kept transaction goes in front of both halves
      cases collectResults env m xs with
      | error => rfl
      | ok a => cases collectResults env m ys <;> rfl

/-- The kept transactions are taken from the list, in order, one receipt each. -/
theorem collectResults_sublist {m : TxResults} :
    ∀ {txs : List Tx} {r : List Tx × List Receipt}, collectResults env m txs = .ok r →
      r.1.Sublist txs ∧ r.1.length = r.2.length
  | [], r, h => by
    cases h
    simp
  | tx :: txs, r, h => by
    rw [collectResults_cons] at h
    rcases hm : m (env.TxHash tx) with _ | (_ | rec) <;> rw [hm] at h
    · cases h
    · obtain ⟨hsub, hlen⟩ := collectResults_sublist h
      exact ⟨hsub.cons tx, hlen⟩
    · obtain ⟨r', hr', rfl⟩ := Except.map_eq_ok.mp h
      obtain ⟨hsub, hlen⟩ := collectResults_sublist hr'
      exact ⟨hsub.cons_cons tx, by simp [hlen]⟩

/-- A list from which nothing is kept had an error entry for every transaction. -/
theorem collectResults_eq_nil {m : TxResults} :
    ∀ {txs : List Tx} {rs : List Receipt}, collectResults env m txs = .ok ([], rs) →
      ∀ tx ∈ txs, ∃ e, m (env.TxHash tx) = some (.error e)
  | [], _, _ => by simp
  | tx :: txs, rs, h => by
    rw [collectResults_cons] at h
    rcases hm : m (env.TxHash tx) with _ | (e | rec) <;> rw [hm] at h
    · cases h
    · intro t ht
      rcases List.mem_cons.mp ht with rfl | ht
      · exact ⟨e, hm⟩
      · exact collectResults_eq_nil h t ht
    · obtain ⟨r', -, hr'⟩ := Except.map_eq_ok.mp h
      cases hr'

end Collect

/-! ## Excluded transactions at the end -/

section Prefix

variable {env}

/-- `processTransactions` is the collection of the run's results, with the run's state. -/
theorem processTransactions_eq (secret : Bytes) (batch : Batch Tx) (tCount : Nat) (txs : List Tx)
    (st : σ) :
    processTransactions env secret batch tCount txs st =
      let run := executeLoop env.toGeth (CreateEthHeaderForBatch env.Keccak256 batch.Header secret)
        (batch.Header.Hash env.RlpHash) batch.Header.Number tCount txs st fun _ => none
      (fun r => (r.1, sortByTxIndex r.2, env.Finalise run.2)) <$> collectResults env run.1 txs :=
  rfl

/-- **Excluded transactions at the end change nothing.** If processing `acc ++ rej` keeps
exactly `acc` (transaction hashes distinct), processing `acc` alone gives the same receipts and
state: the excluded transactions were rejected, so undone, and ran after every kept one, so no
kept one's index moved. -/
theorem processTransactions_prefix {secret : Bytes} {batch : Batch Tx} {tCount : Nat}
    {acc rej : List Tx} {st st' : σ} {rs : List Receipt}
    (hnodup : ((acc ++ rej).map env.TxHash).Nodup)
    (h : processTransactions env secret batch tCount (acc ++ rej) st = .ok (acc, rs, st')) :
    processTransactions env secret batch tCount acc st = .ok (acc, rs, st') := by
  rw [processTransactions_eq] at h ⊢
  set loop := executeLoop env.toGeth (CreateEthHeaderForBatch env.Keccak256 batch.Header secret)
    (batch.Header.Hash env.RlpHash) batch.Header.Number
  -- the run of `acc ++ rej` is the run of `acc`, then of `rej` from where it ended
  set first := loop tCount acc st fun _ => none
  have hsplit : loop tCount (acc ++ rej) st (fun _ => none) =
      loop (tCount + acc.length) rej first.2 first.1 :=
    executeLoop_append _ _ _ acc rej tCount st _
  simp only [hsplit] at h
  set full := loop (tCount + acc.length) rej first.2 first.1
  obtain ⟨r, hr, hrr⟩ := Except.map_eq_ok.mp h
  simp only [Prod.mk.injEq] at hrr
  obtain ⟨hr1, hr2, hst⟩ := hrr
  rw [List.map_append, List.nodup_append] at hnodup
  -- the two halves of the collection: nothing of `rej` is kept
  rw [collectResults_append] at hr
  obtain ⟨a, ha, hb⟩ := Except.bind_eq_ok.mp hr
  obtain ⟨b, hbrej, hab⟩ := Except.map_eq_ok.mp hb
  have hab1 : a.1 ++ b.1 = acc := by rw [← hr1, ← hab]
  have hb1 : b.1 = [] := by
    obtain ⟨hsubB, -⟩ := collectResults_sublist hbrej
    cases hb' : b.1 with
    | nil => rfl
    | cons x xs =>
      -- `x` would be both an excluded and a kept transaction
      have hxrej : x ∈ rej := hsubB.subset (by rw [hb']; exact List.mem_cons_self)
      have hxacc : x ∈ acc := by
        rw [← hab1, hb']
        exact List.mem_append_right _ List.mem_cons_self
      exact absurd rfl (hnodup.2.2 _ (List.mem_map_of_mem hxacc) _ (List.mem_map_of_mem hxrej))
  have hb2 : b.2 = [] := by
    have hlen := (collectResults_sublist hbrej).2
    rw [hb1] at hlen
    exact List.length_eq_zero_iff.mp hlen.symm
  have hrejErr : ∀ tx ∈ rej, ∃ e, full.1 (env.TxHash tx) = some (.error e) := by
    obtain ⟨b1, b2⟩ := b
    simp only at hb1 hb2
    subst hb1 hb2
    exact collectResults_eq_nil hbrej
  -- so the `rej` run left the state, and the entries of `acc` are those of the first run
  have hstate : full.2 = first.2 :=
    executeLoop_state_of_errors _ _ _ rej _ _ _ hnodup.2.1 hrejErr
  have hentries : ∀ tx ∈ acc, full.1 (env.TxHash tx) = first.1 (env.TxHash tx) := fun tx htx =>
    executeLoop_result_of_not_mem _ _ _ _ rej _ _ _
      fun hmem => hnodup.2.2 _ (List.mem_map_of_mem htx) _ hmem rfl
  rw [collectResults_congr acc hentries] at ha
  dsimp only
  rw [ha, Except.map_ok']
  rw [hb1, List.append_nil] at hab1
  rw [← hab, hb2, List.append_nil] at hr2
  rw [hab1, hr2, ← hstate, hst]


end Prefix

/-! ## One run of `ComputeBatch` -/

section Run

/-- One successful run of `ComputeBatch`, read backwards: every step it takes, with its
result. -/
theorem ComputeBatch_eq_ok {ctx : BatchExecutionContext Tx} {cb : ComputedBatch σ Tx} :
    ComputeBatch env s ctx = .ok cb ↔
      ∃ block parent parentBlock stateDB messages successfulTxs txReceipts s1 ccSuccessfulTxs
        ccReceipts s2 outBatch,
        s.FetchBlock ctx.BlockPtr = .ok block ∧
        s.FetchBatch ctx.ParentPtr = .ok parent ∧
        (if parent.Header.L1Proof ≠ block.hash then s.FetchBlock parent.Header.L1Proof
          else pure block) = .ok parentBlock ∧
        s.CreateStateDB (@DeterministicEmptyBatch σ Tx env parent.Header block ctx.AtTime
          ctx.SequencerNo).Header.ParentHash = .ok stateDB ∧
        inboundMessages s ctx.SequencerNo parentBlock block = .ok messages ∧
        processTransactions env s.Secret
            (DeterministicEmptyBatch env parent.Header block ctx.AtTime ctx.SequencerNo) 0
            ctx.Transactions stateDB = .ok (successfulTxs, txReceipts, s1) ∧
        processTransactions env s.Secret
            (DeterministicEmptyBatch env parent.Header block ctx.AtTime ctx.SequencerNo)
            successfulTxs.length (env.CreateSyntheticTransactions messages stateDB) s1 =
          .ok (ccSuccessfulTxs, ccReceipts, s2) ∧
        verifyInboundCrossChainTransactions (env.CreateSyntheticTransactions messages stateDB)
            ccSuccessfulTxs ccReceipts = .ok () ∧
        populateOutboundCrossChainData env
            { Header := { (@DeterministicEmptyBatch σ Tx env parent.Header block ctx.AtTime
                ctx.SequencerNo).Header with Root := env.IntermediateRoot s2 }
              Transactions := successfulTxs } block txReceipts = .ok outBatch ∧
        cb =
          let copyBatch := populateHeader env outBatch (txReceipts ++ ccReceipts)
          let hash := copyBatch.Hash env.RlpHash
          { Batch := copyBatch
            Receipts := txReceipts.map fun r =>
              { r with BlockHash := hash, Logs := r.Logs.map fun l => { l with BlockHash := hash } }
            State := s2 } := by
  constructor
  · intro h
    obtain ⟨block, hblock, h⟩ := Except.bind_eq_ok.mp h
    obtain ⟨parent, hparent, h⟩ := Except.bind_eq_ok.mp h
    obtain ⟨parentBlock, hpb, h⟩ := Except.bind_eq_ok.mp h
    obtain ⟨stateDB, hstate, h⟩ := Except.bind_eq_ok.mp h
    obtain ⟨messages, hmsgs, h⟩ := Except.bind_eq_ok.mp h
    obtain ⟨⟨successfulTxs, txReceipts, s1⟩, hproc, h⟩ := Except.bind_eq_ok.mp h
    obtain ⟨⟨ccSuccessfulTxs, ccReceipts, s2⟩, hcc, h⟩ := Except.bind_eq_ok.mp h
    obtain ⟨⟨⟩, hverify, h⟩ := Except.bind_eq_ok.mp h
    obtain ⟨outBatch, hout, h⟩ := Except.bind_eq_ok.mp h
    rw [Except.mapError_eq_ok] at hblock hparent hstate hproc hverify hout
    exact ⟨block, parent, parentBlock, stateDB, messages, successfulTxs, txReceipts, s1,
      ccSuccessfulTxs, ccReceipts, s2, outBatch, hblock, hparent, hpb, hstate, hmsgs, hproc, hcc,
      hverify, hout, (Except.ok.inj h).symm⟩
  · rintro ⟨block, parent, parentBlock, stateDB, messages, successfulTxs, txReceipts, s1,
      ccSuccessfulTxs, ccReceipts, s2, outBatch, hblock, hparent, hpb, hstate, hmsgs, hproc, hcc,
      hverify, hout, rfl⟩
    simp only [ComputeBatch, hblock, hparent, Except.mapError_ok', Except.ok_bind', hpb,
      hstate, hmsgs, hproc, hcc, hverify, hout]
    rfl

/-- The header fields a validator rebuilds the context from survive the header's completion. -/
theorem contextOf_populateHeader (b : Batch Tx) (rs : List Receipt) :
    contextOf (populateHeader env b rs) = contextOf b := rfl

theorem contextOf_populateOutbound {b b' : Batch Tx} {block : L1Block} {rs : List Receipt}
    (h : populateOutboundCrossChainData env b block rs = .ok b') : contextOf b' = contextOf b := by
  unfold populateOutboundCrossChainData at h
  split at h
  · cases h
  · cases h
    rfl

/-- **Re-execution of a batch whose excluded transactions come last.** If the transactions
`ComputeBatch` kept are a prefix of the candidates (every excluded one after every kept one),
and the candidates' hashes are distinct, a validator recomputing the batch from its header and
transactions obtains exactly the computed batch, receipts and state. -/
theorem ComputeBatch_reexecute_of_prefix {ctx : BatchExecutionContext Tx} {cb : ComputedBatch σ Tx}
    (hkeyedBlock : ∀ h b, s.FetchBlock h = .ok b → b.hash = h)
    (hkeyedBatch : ∀ h (b : Batch Tx), s.FetchBatch h = .ok b → b.Hash env.RlpHash = h)
    (h : ComputeBatch env s ctx = .ok cb)
    (hpre : cb.Batch.Transactions <+: ctx.Transactions)
    (hnodup : (ctx.Transactions.map env.TxHash).Nodup) :
    ComputeBatch env s (contextOf cb.Batch) = .ok cb := by
  obtain ⟨block, parent, parentBlock, stateDB, messages, successfulTxs, txReceipts, s1,
    ccSuccessfulTxs, ccReceipts, s2, outBatch, hblock, hparent, hpb, hstate, hmsgs, hproc, hcc,
    hverify, hout, rfl⟩ := (ComputeBatch_eq_ok env s).mp h
  -- the computed batch gives the context back, with the kept transactions in it
  have hctx : contextOf (populateHeader env outBatch (txReceipts ++ ccReceipts)) =
      { ctx with Transactions := successfulTxs } := by
    rw [contextOf_populateHeader, contextOf_populateOutbound env hout]
    have hb := hkeyedBlock _ _ hblock
    have hp := hkeyedBatch _ _ hparent
    simp only [Batch.Hash] at hp
    simp only [contextOf, DeterministicEmptyBatch, hb, hp]
  have htxs : successfulTxs <+: ctx.Transactions := by
    have := congrArg BatchExecutionContext.Transactions hctx
    simp only [contextOf] at this
    rw [← this]
    exact hpre
  obtain ⟨rej, hrej⟩ := htxs
  rw [hctx]
  -- the same run, but for the kept transactions alone, which give what the whole list gave
  rw [← hrej] at hproc hnodup
  exact (ComputeBatch_eq_ok env s).mpr ⟨block, parent, parentBlock, stateDB, messages,
    successfulTxs, txReceipts, s1, ccSuccessfulTxs, ccReceipts, s2, outBatch, hblock, hparent, hpb,
    hstate, hmsgs, processTransactions_prefix hnodup hproc, hcc, hverify, hout, rfl⟩

end Run

/-! ## An excluded transaction before a kept one

The candidates are `bad`, which the EVM rejects (its nonce is too low), and `good`, a call to
a contract that stores the randomness it reads (`block.prevrandao`, the header's `MixDigest`).
The sequencer runs `good` at index 1, the validator, given only `good`, at index 0: the two
runs see different randomness, so the state roots and the batch hashes differ. The keccak
stand-in reads its input as a big-endian number, and a header's hash is its state root. -/

/-- The two candidate transactions. -/
inductive CxTx
  | bad
  | good
  deriving DecidableEq, Repr

/-- go-ethereum on the concrete run: the state is the value the contract stored last. -/
def cxGeth : Geth Hash CxTx where
  Keccak256 bs := BitVec.ofNat 256 (Go.setBytes bs)
  RlpHash h := h.Root
  TxHash
    | .bad => 1
    | .good => 2
  Sender _ := .ok 0
  ApplyTransaction _ h t i :=
    match t with
    | .bad => .error "nonce too low"
    | .good => .ok (⟨1, [], 2, 0, 0, i⟩, h.MixDigest)
  GetLogs _ _ _ _ := []
  Finalise st := st

def cxEnv : Env Hash CxTx :=
  { cxGeth with
    IntermediateRoot := fun st => st
    DeriveShaTxs := fun _ => 0
    DeriveShaReceipts := fun _ => 0
    CreateSyntheticTransactions := fun _ _ => []
    ExtractOutboundMessages := fun _ => .ok []
    Commit := fun st => .ok st }

/-- The L1 block both batches point at. -/
def cxBlock : L1Block := ⟨7, 6, 3⟩

/-- The parent batch's header: its hash (its root) is 5. -/
def cxParentHeader : BatchHeader :=
  { ParentHash := 0, Root := 5, TxHash := 0, ReceiptHash := 0, Number := 1,
    SequencerOrderNo := 1, GasLimit := 0, GasUsed := 0, Time := 0, Extra := [], BaseFee := none,
    L1Proof := 7, R := none, S := none, CrossChainMessages := [], LatestInboundCrossChainHash := 0,
    LatestInboundCrossChainHeight := none }

def cxStorage : Storage Hash CxTx where
  FetchBlock h := if h = 7 then .ok cxBlock else .error ErrNotFound
  GetL1Messages _ := .ok []
  FetchBatch h := if h = 5 then .ok ⟨cxParentHeader, []⟩ else .error ErrNotFound
  CreateStateDB _ := .ok 0
  Secret := []

/-- The sequencer's context: the candidates `[bad, good]` on top of the parent. -/
def cxCtx : BatchExecutionContext CxTx := ⟨7, 5, [.bad, .good], 0, 2⟩

/-- **An honestly produced batch fails validation.** The sequencer computes a batch keeping
only `good`; the validator's recomputation from that batch yields another hash, and
`ExecuteBatch` reports that the batch is in an invalid state. -/
theorem ExecuteBatch_rejectsAfterExclusion :
    ∃ cb cb', ComputeBatch cxEnv cxStorage cxCtx = .ok cb ∧ cb.Batch.Transactions = [.good] ∧
      ComputeBatch cxEnv cxStorage (contextOf cb.Batch) = .ok cb' ∧
      cb'.Batch.Hash cxEnv.RlpHash ≠ cb.Batch.Hash cxEnv.RlpHash ∧
      ExecuteBatch cxEnv cxStorage cb.Batch =
        .error (invalidStateError (cb.Batch.Hash cxEnv.RlpHash) (cb'.Batch.Hash cxEnv.RlpHash)) :=
  ⟨_, _, rfl, rfl, rfl, by decide, rfl⟩


/-! ## Inbound messages along a chain of batches -/

section Delivery

variable {env s}

/-- Below `2^63` the guard `SequencerNo.Int64() > L2GenesisSeqNo+1` is the comparison of the
numbers. -/
theorem genesisGuard_iff {sequencerNo : Nat} (h : sequencerNo < 2 ^ 63) :
    Int64.ofNat (L2GenesisSeqNo + 1) < Go.bigInt64 sequencerNo ↔ L2GenesisSeqNo + 1 < sequencerNo := by
  have h2 : (Int64.ofNat (L2GenesisSeqNo + 1)).toInt = 2 := by decide
  have hn : (Go.bigInt64 sequencerNo).toInt = sequencerNo := Go.newInt_bigInt64_natCast h
  rw [Int64.lt_iff_toInt_lt, h2, hn, L2GenesisSeqNo]
  omega

/-- The batches up to the first after genesis read no inbound messages. -/
theorem inboundMessages_of_le {sequencerNo : Nat} (h : sequencerNo ≤ L2GenesisSeqNo + 1)
    (parentBlock block : L1Block) : inboundMessages s sequencerNo parentBlock block = .ok [] := by
  have hlt : ¬ Int64.ofNat (L2GenesisSeqNo + 1) < Go.bigInt64 sequencerNo := by
    rw [genesisGuard_iff (by simp only [L2GenesisSeqNo] at h; omega)]
    omega
  rw [inboundMessages, if_neg hlt]

/-- Later batches, below `2^63`, read the messages between the two blocks. -/
theorem inboundMessages_of_lt {sequencerNo : Nat} (h : L2GenesisSeqNo + 1 < sequencerNo)
    (h63 : sequencerNo < 2 ^ 63) (parentBlock block : L1Block) :
    inboundMessages s sequencerNo parentBlock block =
      RetrieveInboundMessages s.toL1Storage parentBlock block := by
  rw [inboundMessages, if_pos ((genesisGuard_iff h63).mpr h)]

/-- The consecutive pairs of a concatenation: those of the first part, then those from the
first part's last element on. -/
theorem zip_tail_append {α : Type} :
    ∀ (pre post : List α) (h : pre ≠ []),
      (pre ++ post).zip (pre ++ post).tail = pre.zip pre.tail ++ (pre.getLast h :: post).zip post
  | [a], post, _ => by simp
  | a :: b :: rest, post, _ => by
    have ih := zip_tail_append (b :: rest) post (List.cons_ne_nil _ _)
    simp only [List.cons_append, List.tail_cons, List.zip_cons_cons] at ih ⊢
    rw [ih, List.getLast_cons (List.cons_ne_nil _ _)]

/-- **Inbound messages are delivered once along a chain.** Take a chain of batches, each with
the stored block of its L1 proof, every proof block an ancestor-or-self of the next one's. If
the batches up to the first after genesis (`pre`, ending with `b_k`) come before the others
(`post`, with sequence numbers below `2^63`), the messages retrieved for every batch after the
first, from its parent's proof block to its own, all come back, and together they are a
permutation of the messages of the L1 blocks above `b_k`'s proof up to the last proof. -/
theorem inboundMessages_chain {msgs : L1Block → List CrossChainMessage}
    (hs : Sound s.toL1Storage msgs) (pre post : List (Batch Tx × L1Block)) (hpre : pre ≠ [])
    (hproof : ∀ x ∈ pre ++ post, s.FetchBlock x.1.Header.L1Proof = .ok x.2)
    (hchain : (pre ++ post).IsChain fun x y => AncestorOrSelf s.toL1Storage.links y.2 x.2)
    (hgenesis : ∀ x ∈ pre, x.1.SeqNo ≤ L2GenesisSeqNo + 1)
    (hafter : ∀ x ∈ post, L2GenesisSeqNo + 1 < x.1.SeqNo ∧ x.1.SeqNo < 2 ^ 63) :
    ∃ ms range,
      ((pre ++ post).zip (pre ++ post).tail).mapM
          (fun pr => inboundMessages s pr.2.1.SeqNo pr.1.2 pr.2.2) = .ok ms ∧
        List.Forall₂ (fun pr m => L2GenesisSeqNo + 1 < pr.2.1.SeqNo →
          ∃ seg, Segment s.toL1Storage.links pr.2.2 seg pr.1.2 ∧ m = seg.flatMap msgs)
          ((pre ++ post).zip (pre ++ post).tail) ms ∧
        Segment s.toL1Storage.links ((pre ++ post).getLast (by simp [hpre])).2 range
          (pre.getLast hpre).2 ∧
        ms.flatten.Perm (range.flatMap msgs) := by
  have hstored : ∀ x ∈ pre ++ post, IsStored s.toL1Storage.links x.2 :=
    fun x hx => ⟨_, hproof x hx⟩
  set base := pre.getLast hpre with hbase
  have hbaseMem : base ∈ pre ++ post := List.mem_append_left _ (List.getLast_mem hpre)
  rw [zip_tail_append pre post hpre, List.mapM_append]
  -- up to `b_k` nothing is read
  have hpreMsgs : (pre.zip pre.tail).mapM
      (fun pr => inboundMessages s pr.2.1.SeqNo pr.1.2 pr.2.2) =
        .ok ((pre.zip pre.tail).map fun _ => []) :=
    Except.mapM_const fun pr hpr =>
      inboundMessages_of_le (hgenesis _ (List.mem_of_mem_tail (List.of_mem_zip hpr).2)) _ _
  -- after it, each batch reads from its parent's proof block to its own
  have hpostMsgs : ((base :: post).zip post).mapM
      (fun pr => inboundMessages s pr.2.1.SeqNo pr.1.2 pr.2.2) =
        ((base :: post).zip post).mapM
          (fun pr => RetrieveInboundMessages s.toL1Storage pr.1.2 pr.2.2) :=
    Except.mapM_congr fun pr hpr =>
      have hq := hafter _ (List.of_mem_zip hpr).2
      inboundMessages_of_lt hq.1 hq.2 _ _
  have hbaseChain : (base :: post).IsChain fun x y => AncestorOrSelf s.toL1Storage.links y.2 x.2 := by
    rw [List.isChain_append] at hchain
    cases post with
    | nil => exact List.isChain_singleton _
    | cons q post =>
      refine List.isChain_cons_cons.mpr ⟨hchain.2.2 base ?_ q rfl, hchain.2.1⟩
      rw [List.getLast?_eq_some_getLast hpre]
      rfl
  obtain ⟨ms, range, hms, hcalls, hrange, hperm⟩ := RetrieveInboundMessages_tiling Prod.snd hs
    post base (hstored base hbaseMem) hbaseChain fun p hp => hstored p (List.mem_append_right _ hp)
  refine ⟨(pre.zip pre.tail).map (fun _ => []) ++ ms, range, ?_, ?_, ?_, ?_⟩
  · rw [hpreMsgs, Except.ok_bind', hpostMsgs, hms]
    rfl
  · have hpost : List.Forall₂ (fun pr m => L2GenesisSeqNo + 1 < pr.2.1.SeqNo →
        ∃ seg, Segment s.toL1Storage.links pr.2.2 seg pr.1.2 ∧ m = seg.flatMap msgs)
        ((base :: post).zip post) ms := by
      refine hcalls.imp ?_
      intro _ _ h _
      exact h
    refine List.rel_append ?_ hpost
    -- the batches up to `b_k` fail the guard
    refine List.forall₂_map_right_iff.mpr (List.forall₂_same.mpr fun pr hpr hlt => ?_)
    exact absurd (hgenesis _ (List.mem_of_mem_tail (List.of_mem_zip hpr).2)) (by omega)
  · -- the chain ends where the part from `b_k` on ends
    have hlast : (pre ++ post).getLast (by simp [hpre]) =
        (base :: post).getLast (List.cons_ne_nil _ _) := by
      cases post with
      | nil => simp [hbase]
      | cons q post =>
        rw [List.getLast_append_of_ne_nil _ (List.cons_ne_nil _ _),
          List.getLast_cons (List.cons_ne_nil _ _)]
    rw [hlast]
    exact hrange
  · rw [List.flatten_append]
    simpa using hperm

/-! ### Two batches over one L1 step

`P` and its child `Q` are the proof blocks; `Q` carries one message. -/

def cxP : L1Block := ⟨1, 0, 0⟩
def cxQ : L1Block := ⟨2, 1, 1⟩
def cxMessage : CrossChainMessage := ⟨0, 0, 0, 0, [], 0⟩

/-- The messages of each block. -/
def cxMsgs (b : L1Block) : List CrossChainMessage := if b.hash = 2 then [cxMessage] else []

def cxChainStorage : Storage Unit Unit where
  FetchBlock h := if h = 1 then .ok cxP else if h = 2 then .ok cxQ else .error ErrNotFound
  GetL1Messages h := if h = 2 then .ok [cxMessage] else .ok []
  FetchBatch _ := .error ErrNotFound
  CreateStateDB _ := .ok ()
  Secret := []

theorem cxChainStorage_fetchBlock {h : L1BlockHash} {blk : L1Block}
    (hb : cxChainStorage.FetchBlock h = .ok blk) : (h = 1 ∧ blk = cxP) ∨ (h = 2 ∧ blk = cxQ) := by
  simp only [cxChainStorage] at hb
  split_ifs at hb with h1 h2
  · exact .inl ⟨h1, (Except.ok.inj hb).symm⟩
  · exact .inr ⟨h2, (Except.ok.inj hb).symm⟩

theorem cxChainSound : Sound cxChainStorage.toL1Storage cxMsgs where
  keyed h blk hb := by
    rcases cxChainStorage_fetchBlock hb with ⟨rfl, rfl⟩ | ⟨rfl, rfl⟩ <;> rfl
  wellFormed := by
    intro h b p hb hp
    change cxChainStorage.FetchBlock h = .ok b at hb
    change cxChainStorage.FetchBlock b.parentHash = .ok p at hp
    change p.number + 1 = b.number
    -- only `Q` has a stored parent
    rcases cxChainStorage_fetchBlock hb with ⟨-, rfl⟩ | ⟨-, rfl⟩ <;>
      rcases cxChainStorage_fetchBlock hp with ⟨hh, rfl⟩ | ⟨hh, rfl⟩ <;>
      first | rfl | exact absurd hh (by decide)
  heightBound h blk hb := by
    rcases cxChainStorage_fetchBlock hb with ⟨-, rfl⟩ | ⟨-, rfl⟩ <;> decide
  messages h blk hb := by
    rcases cxChainStorage_fetchBlock hb with ⟨-, rfl⟩ | ⟨-, rfl⟩ <;> rfl

/-- A batch with a sequence number and an L1 proof. -/
def cxBatch (seqNo : Nat) (proof : L1BlockHash) : Batch Unit :=
  ⟨{ cxParentHeader with SequencerOrderNo := seqNo, L1Proof := proof }, []⟩

theorem cxQ_ancestor_cxP : AncestorOrSelf cxChainStorage.toL1Storage.links cxQ cxP :=
  ⟨1, .step rfl (.refl cxP)⟩

/-- The first batch after genesis on `P`, then the next batch on `Q`: `Q`'s message is
delivered. -/
theorem inboundMessages_chain_run :
    ∃ ms range,
      (([(cxBatch 2 1, cxP)] ++ [(cxBatch 3 2, cxQ)]).zip
          ([(cxBatch 2 1, cxP)] ++ [(cxBatch 3 2, cxQ)]).tail).mapM
          (fun pr => inboundMessages cxChainStorage pr.2.1.SeqNo pr.1.2 pr.2.2) = .ok ms ∧
        List.Forall₂ (fun pr m => L2GenesisSeqNo + 1 < pr.2.1.SeqNo →
          ∃ seg, Segment cxChainStorage.toL1Storage.links pr.2.2 seg pr.1.2 ∧
            m = seg.flatMap cxMsgs)
          (([(cxBatch 2 1, cxP)] ++ [(cxBatch 3 2, cxQ)]).zip
            ([(cxBatch 2 1, cxP)] ++ [(cxBatch 3 2, cxQ)]).tail) ms ∧
        Segment cxChainStorage.toL1Storage.links cxQ range cxP ∧
        ms.flatten.Perm (range.flatMap cxMsgs) :=
  inboundMessages_chain cxChainSound [(cxBatch 2 1, cxP)] [(cxBatch 3 2, cxQ)] (by simp)
    (by simp [cxBatch, cxChainStorage]) (by simpa using cxQ_ancestor_cxP)
    (by simp [cxBatch, Batch.SeqNo, L2GenesisSeqNo]) (by simp [cxBatch, Batch.SeqNo, L2GenesisSeqNo])

/-- Delivery along a chain, over every store and every chain: no bound on the sequence
numbers. -/
def InboundDeliveredOnce : Prop :=
  ∀ (σ Tx : Type) (s : Storage σ Tx) (msgs : L1Block → List CrossChainMessage),
    Sound s.toL1Storage msgs →
  ∀ (pre post : List (Batch Tx × L1Block)) (hpre : pre ≠ []),
    (∀ x ∈ pre ++ post, s.FetchBlock x.1.Header.L1Proof = .ok x.2) →
    (pre ++ post).IsChain (fun x y => AncestorOrSelf s.toL1Storage.links y.2 x.2) →
    (∀ x ∈ pre, x.1.SeqNo ≤ L2GenesisSeqNo + 1) →
    (∀ x ∈ post, L2GenesisSeqNo + 1 < x.1.SeqNo) →
    ∃ ms range,
      ((pre ++ post).zip (pre ++ post).tail).mapM
          (fun pr => inboundMessages s pr.2.1.SeqNo pr.1.2 pr.2.2) = .ok ms ∧
        List.Forall₂ (fun pr m => L2GenesisSeqNo + 1 < pr.2.1.SeqNo →
          ∃ seg, Segment s.toL1Storage.links pr.2.2 seg pr.1.2 ∧ m = seg.flatMap msgs)
          ((pre ++ post).zip (pre ++ post).tail) ms ∧
        Segment s.toL1Storage.links ((pre ++ post).getLast (by simp [hpre])).2 range
          (pre.getLast hpre).2 ∧
        ms.flatten.Perm (range.flatMap msgs)

/-- The only walk from `Q` down to `P` visits `Q` alone. -/
theorem cxSegment_Q_P {range : List L1Block}
    (h : Segment cxChainStorage.toL1Storage.links cxQ range cxP) : range = [cxQ] :=
  Segment.unique cxChainSound.wellFormed h (.step rfl (.refl cxP)) ⟨2, rfl⟩

/-- **Delivery fails past `2^63`.** A batch numbered `2^63 + 1` after the first batch past
genesis: `SequencerNo.Int64()` wraps to a negative number, so `ComputeBatch` retrieves nothing,
and `Q`'s message is never delivered. -/
theorem inboundMessages_skipsWrappedSeqNo : ¬ InboundDeliveredOnce := by
  intro h
  obtain ⟨ms, range, hms, -, hrange, hperm⟩ := h Unit Unit cxChainStorage cxMsgs cxChainSound
    [(cxBatch 2 1, cxP)] [(cxBatch (2 ^ 63 + 1) 2, cxQ)] (by simp)
    (by simp [cxBatch, cxChainStorage]) (by simpa using cxQ_ancestor_cxP)
    (by simp [cxBatch, Batch.SeqNo, L2GenesisSeqNo]) (by simp [cxBatch, Batch.SeqNo, L2GenesisSeqNo])
  -- the wrapped number fails the guard: nothing is read
  have hnone : inboundMessages cxChainStorage (2 ^ 63 + 1) cxP cxQ = .ok [] := by
    rw [inboundMessages, if_neg (by decide)]
  have hms' : ms = [[]] := by
    simp only [List.singleton_append, List.tail_cons, List.zip_cons_cons, List.zip_nil_right,
      List.mapM_cons, List.mapM_nil, cxBatch, Batch.SeqNo] at hms
    rw [hnone] at hms
    exact (Except.ok.inj hms).symm
  -- but the range holds `Q`, with its message
  have hr : range = [cxQ] := cxSegment_Q_P (by simpa using hrange)
  rw [hms', hr] at hperm
  exact absurd hperm.length_eq (by decide)

end Delivery

end Obscuro.BatchExecutor
