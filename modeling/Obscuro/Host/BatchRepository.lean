import Obscuro.Host.BatchDB

/-!
# The host's L2 batch repository

`go/host/l2/batchrepository.go`: the host side of batch gossip, over the batch store of
`HostDB`.

* `HandleBatches` stores the batches a peer sends, live or as the answer to a catch-up request,
  and notifies the subscribers of the live ones. It stops at the first batch `AddBatch`
  refuses, with `ErrAlreadyExists` as with any other error.
* `HandleBatchRequest` answers a peer's catch-up request with the batches stored from a
  sequence number on. Its loop runs while it holds at most `_maxBatchesInP2PResponse` batches,
  and it advances the `big.Int` it was handed, which is the caller's.

## Results

* `handleBatchesLoop_of_new` — a list of new batches of distinct hashes is stored in full, the
  subscribers hear of each live one, and the high watermark becomes the greatest sequence
  number;
* `HandleBatches_dropsAfterStored` — a list that starts with a stored batch stores nothing;
* `batchRequestLoop_eq` — the loop of a request collects the run of consecutive sequence
  numbers stored from the one requested, up to `maxBatchesInP2PResponse + 1` batches;
* `HandleBatchRequest_sendsFiftyOne` — fifty-one consecutive stored batches are all sent.
-/

namespace Obscuro.HostL2

open HostDB

/-- `_maxBatchesInP2PResponse`. -/
def maxBatchesInP2PResponse : Nat := 50

/-- The fields of `Repository` the two handlers read and write. The sequence numbers are
`big.Int`s that never go negative here; `nil` is `none`, and a time is a number. -/
structure Repository where
  db : DB
  latestBatchSeqNo : Nat
  p2pInFlightRequested : Option Nat
  p2pInFlightReqTime : Option Nat

variable (rlp : RLP) (rlpHash : BatchHeader → Hash)

/-- `Repository.AddBatch(batch)`: store the batch, then raise the high watermark to its
sequence number if that is greater. -/
def Repository.AddBatch (r : Repository) (batch : ExtBatch) : Except String Unit × Repository :=
  match HostDB.AddBatch rlp rlpHash r.db batch with
  | (.error err, db) => (.error err, { r with db := db })
  | (.ok (), db) =>
    (.ok (), { r with
      db := db
      latestBatchSeqNo :=
        if batch.Header.SequencerOrderNo > r.latestBatchSeqNo then batch.Header.SequencerOrderNo
        else r.latestBatchSeqNo })

/-- The loop of `HandleBatches`: add each batch in turn and, when live, notify the subscribers
of it. The first refused batch ends the call (`return`), whatever the error. Returns the
repository and the batches the subscribers heard of, in order. -/
def handleBatchesLoop (isLive : Bool) : Repository → List ExtBatch → Repository × List ExtBatch
  | r, [] => (r, [])
  | r, batch :: batches =>
    match r.AddBatch rlp rlpHash batch with
    | (.error _, r) => (r, [])
    | (.ok (), r) =>
      let (r, notified) := handleBatchesLoop isLive r batches
      (r, (if isLive then [batch] else []) ++ notified)

/-- `Repository.HandleBatches(batches, isLive)`: a catch-up response whose first batch has the
sequence number requested clears the request in flight; then the loop. -/
def Repository.HandleBatches (r : Repository) (batches : List ExtBatch) (isLive : Bool) :
    Repository × List ExtBatch :=
  let r := match batches with
    | first :: _ =>
      if !isLive && r.p2pInFlightRequested == some first.Header.SequencerOrderNo then
        { r with p2pInFlightRequested := none, p2pInFlightReqTime := none }
      else r
    | [] => r
  handleBatchesLoop rlp rlpHash isLive r batches

/-- The loop of `HandleBatchRequest`: while it holds at most `_maxBatchesInP2PResponse`
batches, fetch the batch of the next sequence number, and stop at the first that cannot be
fetched. Returns the batches and the last value of `nextSeqNum`. -/
def batchRequestLoop (db : DB) (nextSeqNum : Nat) (batches : List ExtBatch) :
    List ExtBatch × Nat :=
  if batches.length ≤ maxBatchesInP2PResponse then
    match GetBatchBySequenceNumber rlp db nextSeqNum with
    -- `ErrNotFound` and any other error end the loop alike; only the log differs
    | .error _ => (batches, nextSeqNum)
    | .ok batch => batchRequestLoop db (nextSeqNum + 1) (batches ++ [batch])
  else (batches, nextSeqNum)
termination_by maxBatchesInP2PResponse + 1 - batches.length
decreasing_by
  simp only [List.length_append, List.length_singleton]
  omega

/-- `Repository.HandleBatchRequest(requesterID, fromSeqNo)`: what `RespondToBatchRequest`
sends, nothing when no batch was found, and the caller's `fromSeqNo` after the call, which
`nextSeqNum.Add` advanced in place. -/
def Repository.HandleBatchRequest (r : Repository) (requesterID : String) (fromSeqNo : Nat) :
    Option (String × List ExtBatch) × Nat :=
  let (batches, nextSeqNum) := batchRequestLoop rlp r.db fromSeqNo []
  (if batches.length = 0 then none else some (requesterID, batches), nextSeqNum)

/-- The batches stored under `seqNo`, `seqNo + 1`, …, up to the first number that is missing,
and at most `n` of them. -/
def consecutiveRun (lookup : Nat → Except String ExtBatch) (seqNo : Nat) : Nat → List ExtBatch
  | 0 => []
  | n + 1 =>
    match lookup seqNo with
    | .error _ => []
    | .ok b => b :: consecutiveRun lookup (seqNo + 1) n

-- ---------------------------------------------------------------------------
-- Adding batches
-- ---------------------------------------------------------------------------

section Handle

variable {rlp rlpHash}

/-- What `Repository.AddBatch` does: `HostDB.AddBatch`'s answer and store, and the new high
watermark when the batch is stored. -/
theorem Repository.AddBatch_eq (r : Repository) (batch : ExtBatch) :
    r.AddBatch rlp rlpHash batch =
      ((HostDB.AddBatch rlp rlpHash r.db batch).1,
        { r with
          db := (HostDB.AddBatch rlp rlpHash r.db batch).2
          latestBatchSeqNo := if (HostDB.AddBatch rlp rlpHash r.db batch).1 = .ok () then
            max r.latestBatchSeqNo batch.Header.SequencerOrderNo else r.latestBatchSeqNo }) := by
  unfold Repository.AddBatch
  rcases HostDB.AddBatch rlp rlpHash r.db batch with ⟨_ | ⟨⟩, db⟩
  · simp
  · -- the watermark moves exactly when the batch's number is greater
    by_cases hgt : batch.Header.SequencerOrderNo > r.latestBatchSeqNo
    · simp [hgt, Nat.max_eq_right hgt.le]
    · simp [hgt, Nat.max_eq_left (Nat.le_of_not_lt hgt)]

/-- A refused batch ends the loop with the store as it was and no notification. -/
theorem handleBatchesLoop_of_error {r : Repository} {batch : ExtBatch} {err : String}
    (isLive : Bool) (h : (HostDB.AddBatch rlp rlpHash r.db batch).1 = .error err)
    (batches : List ExtBatch) :
    (handleBatchesLoop rlp rlpHash isLive r (batch :: batches)).1.db = r.db ∧
      (handleBatchesLoop rlp rlpHash isLive r (batch :: batches)).2 = [] := by
  have hdb := AddBatch_error h
  simp only [handleBatchesLoop, Repository.AddBatch_eq, h, and_true]
  exact hdb

/-- **New batches are stored in full.** When none of the batches is stored and their hashes are
distinct, the loop stores every one of them, notifies the subscribers of each when live, and
leaves the high watermark at the greatest sequence number it has seen. The induction is on the
list, with the store represented by the batches stored so far. -/
theorem handleBatchesLoop_of_new (isLive : Bool) :
    ∀ (batches : List ExtBatch) {r : Repository} {stored : List ExtBatch},
      Represents rlp rlpHash r.db stored →
      ((stored ++ batches).map (·.Hash rlpHash)).Nodup →
      Represents rlp rlpHash (handleBatchesLoop rlp rlpHash isLive r batches).1.db
          (stored ++ batches) ∧
        (handleBatchesLoop rlp rlpHash isLive r batches).2 = (if isLive then batches else []) ∧
        (handleBatchesLoop rlp rlpHash isLive r batches).1.latestBatchSeqNo =
          (batches.map (·.Header.SequencerOrderNo)).foldl max r.latestBatchSeqNo
  | [], r, stored, hr, _ => by
    simp only [handleBatchesLoop, List.append_nil, List.map_nil, List.foldl_nil, ite_self,
      and_true]
    exact hr
  | batch :: batches, r, stored, hr, hnodup => by
    -- the batch is new: its hash is not among the stored ones
    have hnew : ∀ b ∈ stored, b.Hash rlpHash ≠ batch.Hash rlpHash := by
      intro b hb hhash
      rw [List.map_append, List.nodup_append] at hnodup
      exact hnodup.2.2 _ (List.mem_map_of_mem hb) _ (List.mem_map_of_mem List.mem_cons_self)
        hhash
    have hany : stored.any (·.Hash rlpHash = batch.Hash rlpHash) = false := by
      simpa using hnew
    obtain ⟨hok, hr'⟩ := AddBatch_represents hr batch
    rw [hany, if_neg Bool.false_ne_true] at hok
    rw [storeBatch, hany, if_neg Bool.false_ne_true] at hr'
    have hnodup' : (((stored ++ [batch]) ++ batches).map (·.Hash rlpHash)).Nodup := by
      simpa using hnodup
    obtain ⟨hrest, hnotified, hlatest⟩ := handleBatchesLoop_of_new isLive batches
      (r := { r with
        db := (HostDB.AddBatch rlp rlpHash r.db batch).2
        latestBatchSeqNo := max r.latestBatchSeqNo batch.Header.SequencerOrderNo })
      hr' hnodup'
    simp only [handleBatchesLoop, Repository.AddBatch_eq, hok, if_true]
    refine ⟨by simpa using hrest, ?_, by simpa using hlatest⟩
    rw [hnotified]
    cases isLive <;> rfl

/-- **A stored batch at the head of a list drops the rest.** When the first batch of a list is
one the store holds, `AddBatch` refuses it with `ErrAlreadyExists` and `HandleBatches` returns:
the store is as it was, so no later batch of the list is stored, and no subscriber hears of
any. -/
theorem HandleBatches_dropsAfterStored {r : Repository} {stored : List ExtBatch}
    (hr : Represents rlp rlpHash r.db stored) {b first : ExtBatch} (hb : b ∈ stored)
    (hhash : b.Hash rlpHash = first.Hash rlpHash) (batches : List ExtBatch) (isLive : Bool) :
    (r.HandleBatches rlp rlpHash (first :: batches) isLive).1.db = r.db ∧
      (r.HandleBatches rlp rlpHash (first :: batches) isLive).2 = [] := by
  -- clearing the request in flight leaves the store alone
  set r₀ : Repository :=
    if !isLive && r.p2pInFlightRequested == some first.Header.SequencerOrderNo then
      { r with p2pInFlightRequested := none, p2pInFlightReqTime := none }
    else r with hr₀
  have hdb : r₀.db = r.db := by
    rw [hr₀]
    split <;> rfl
  have href : (HostDB.AddBatch rlp rlpHash r₀.db first).1 = .error ErrAlreadyExists := by
    rw [hdb, AddBatch_of_mem hr hb hhash]
  have hloop := handleBatchesLoop_of_error isLive href batches
  rw [hdb] at hloop
  exact hloop

end Handle

/-- A repository that has stored `cxBatch 1` and nothing else. -/
noncomputable def cxRepository : Repository :=
  ⟨AddBatches cxRLP cxHash [cxBatch 1], 7, none, none⟩

/-- A catch-up response that overlaps the store by its first batch: the new `cxBatch 2` after it
is not stored. -/
theorem HandleBatches_dropsAfterStored_overlap :
    ((cxRepository.HandleBatches cxRLP cxHash [cxBatch 1, cxBatch 2] false).1.db =
        cxRepository.db ∧
      (cxRepository.HandleBatches cxRLP cxHash [cxBatch 1, cxBatch 2] false).2 = []) ∧
    HostDB.GetBatchHeader cxRLP
        (cxRepository.HandleBatches cxRLP cxHash [cxBatch 1, cxBatch 2] false).1.db
        ((cxBatch 2).Hash cxHash) = .error ErrNotFound := by
  have hr : Represents cxRLP cxHash cxRepository.db (Stored cxHash [cxBatch 1]) :=
    AddBatches_represents [cxBatch 1]
  have hdrop := @HandleBatches_dropsAfterStored cxRLP cxHash cxRepository _ hr (cxBatch 1)
    (cxBatch 1) (by decide) rfl [cxBatch 2] false
  refine ⟨hdrop, ?_⟩
  rw [hdrop.1]
  exact hr.GetBatchHeader_of_not_mem (by decide)

-- ---------------------------------------------------------------------------
-- Answering a request
-- ---------------------------------------------------------------------------

section Request

variable {rlp rlpHash}

/-- A run is never longer than its bound. -/
theorem length_consecutiveRun_le (lookup : Nat → Except String ExtBatch) :
    ∀ (n seqNo : Nat), (consecutiveRun lookup seqNo n).length ≤ n
  | 0, _ => le_refl 0
  | n + 1, seqNo => by
    unfold consecutiveRun
    split
    · exact Nat.zero_le _
    · exact Nat.succ_le_succ (length_consecutiveRun_le lookup n (seqNo + 1))

/-- A run over numbers that all have a batch reaches its bound. -/
theorem length_consecutiveRun_of_found {lookup : Nat → Except String ExtBatch} :
    ∀ (n seqNo : Nat), (∀ i < n, ∃ b, lookup (seqNo + i) = .ok b) →
      (consecutiveRun lookup seqNo n).length = n
  | 0, _, _ => rfl
  | n + 1, seqNo, hfound => by
    obtain ⟨b, hb⟩ := hfound 0 (Nat.succ_pos n)
    have hrest : ∀ i < n, ∃ b, lookup (seqNo + 1 + i) = .ok b := fun i hi => by
      rw [Nat.add_assoc, Nat.add_comm 1 i]
      exact hfound (i + 1) (by omega)
    simp only [consecutiveRun, Nat.add_zero] at hb ⊢
    rw [hb, List.length_cons, length_consecutiveRun_of_found n (seqNo + 1) hrest]

/-- **The loop collects a run.** From a list of `k` batches short of the bound plus one, the
loop adds the run of consecutive stored numbers from `nextSeqNum`, at most `k` of them, and
ends with `nextSeqNum` advanced past them. The induction is on `k`, the iterations left. -/
theorem batchRequestLoop_eq (db : DB) :
    ∀ (k nextSeqNum : Nat) (batches : List ExtBatch),
      batches.length + k = maxBatchesInP2PResponse + 1 →
      batchRequestLoop rlp db nextSeqNum batches =
        (batches ++ consecutiveRun (GetBatchBySequenceNumber rlp db) nextSeqNum k,
          nextSeqNum + (consecutiveRun (GetBatchBySequenceNumber rlp db) nextSeqNum k).length)
  | 0, nextSeqNum, batches, hlen => by
    -- the list is over the bound: the loop condition fails
    rw [batchRequestLoop, if_neg (by omega)]
    simp [consecutiveRun]
  | k + 1, nextSeqNum, batches, hlen => by
    rw [batchRequestLoop, if_pos (by omega)]
    simp only [consecutiveRun]
    split
    · simp
    · rename_i batch _
      rw [batchRequestLoop_eq db k (nextSeqNum + 1) (batches ++ [batch])
        (by simp only [List.length_append, List.length_singleton]; omega)]
      simp only [List.append_assoc, List.singleton_append, List.length_cons]
      congr 1
      omega

/-- A request is answered with the run of consecutive stored numbers from the one requested,
cut at `maxBatchesInP2PResponse + 1` batches, or not at all when the first is missing; the
caller's sequence number ends past the batches sent. -/
theorem HandleBatchRequest_eq (r : Repository) (requesterID : String) (fromSeqNo : Nat) :
    r.HandleBatchRequest rlp requesterID fromSeqNo =
      (if consecutiveRun (GetBatchBySequenceNumber rlp r.db) fromSeqNo
            (maxBatchesInP2PResponse + 1) = [] then none
        else some (requesterID, consecutiveRun (GetBatchBySequenceNumber rlp r.db) fromSeqNo
          (maxBatchesInP2PResponse + 1)),
        fromSeqNo + (consecutiveRun (GetBatchBySequenceNumber rlp r.db) fromSeqNo
          (maxBatchesInP2PResponse + 1)).length) := by
  unfold Repository.HandleBatchRequest
  rw [batchRequestLoop_eq r.db (maxBatchesInP2PResponse + 1) fromSeqNo [] (by simp)]
  simp only [List.nil_append, List.length_eq_zero_iff]

/-- **A response can hold fifty-one batches.** When the store holds a batch under each of the
fifty-one numbers from the one requested, `HandleBatchRequest` sends fifty-one batches: its
loop condition `len(batches) <= _maxBatchesInP2PResponse` lets one more in than the cap. -/
theorem HandleBatchRequest_sendsFiftyOne {r : Repository} {stored : List ExtBatch}
    (hr : Represents rlp rlpHash r.db stored) (requesterID : String) (fromSeqNo : Nat)
    (hstored : ∀ i ≤ maxBatchesInP2PResponse,
      ∃ b ∈ stored, b.Header.SequencerOrderNo = fromSeqNo + i) :
    ∃ batches, (r.HandleBatchRequest rlp requesterID fromSeqNo).1 = some (requesterID, batches) ∧
      batches.length = maxBatchesInP2PResponse + 1 := by
  -- each of the numbers reads back a batch
  have hfound : ∀ i < maxBatchesInP2PResponse + 1,
      ∃ b, GetBatchBySequenceNumber rlp r.db (fromSeqNo + i) = .ok b := by
    intro i hi
    obtain ⟨b, hb, hseq⟩ := hstored i (by omega)
    have hsome : (stored.reverse.find? (·.Header.SequencerOrderNo = fromSeqNo + i)).isSome :=
      List.find?_isSome.mpr ⟨b, List.mem_reverse.mpr hb, by simpa using hseq⟩
    obtain ⟨m, hm⟩ := Option.isSome_iff_exists.mp hsome
    exact ⟨m, hr.GetBatchBySequenceNumber hm⟩
  have hlen := length_consecutiveRun_of_found _ fromSeqNo hfound
  rw [HandleBatchRequest_eq]
  refine ⟨_, ?_, hlen⟩
  rw [if_neg]
  intro hnil
  rw [hnil] at hlen
  cases hlen

end Request

/-- Batches under the sequence numbers 0 to 50. -/
def cxRun : List ExtBatch :=
  (List.range 51).map fun i => ⟨{ cxHeader 0 with SequencerOrderNo := i }, [], []⟩

/-- A header hash that tells apart headers of different sequence numbers. -/
def cxSeqHash (h : BatchHeader) : Hash := BitVec.ofNat 256 h.SequencerOrderNo

/-- A repository that has stored the batches 0 to 50. -/
noncomputable def cxRunRepository : Repository :=
  ⟨AddBatches cxRLP cxSeqHash cxRun, 50, none, none⟩

/-- A request from 0 to a store that holds the batches 0 to 50 is answered with all 51. -/
theorem HandleBatchRequest_sendsFiftyOne_fromZero :
    (∀ i ≤ maxBatchesInP2PResponse,
      ∃ b ∈ Stored cxSeqHash cxRun, b.Header.SequencerOrderNo = 0 + i) ∧
    ∃ batches, (cxRunRepository.HandleBatchRequest cxRLP "peer" 0).1 = some ("peer", batches) ∧
      batches.length = maxBatchesInP2PResponse + 1 := by
  have hstored : ∀ i ≤ maxBatchesInP2PResponse,
      ∃ b ∈ Stored cxSeqHash cxRun, b.Header.SequencerOrderNo = 0 + i := by
    set_option maxRecDepth 10000 in decide
  -- the store is read through its definition, not evaluated
  have hr : Represents cxRLP cxSeqHash cxRunRepository.db (Stored cxSeqHash cxRun) := by
    dsimp only [cxRunRepository]
    exact AddBatches_represents cxRun
  exact ⟨hstored, HandleBatchRequest_sendsFiftyOne hr "peer" 0 hstored⟩

end Obscuro.HostL2
