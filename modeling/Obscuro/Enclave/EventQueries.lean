import Obscuro.Enclave.Events

/-!
# `eth_getLogs` against the subscription filter

Two pieces of code select logs by a filter (block range, contract addresses, topics by
position):

* `filterLogs` of `go/enclave/events/subscription_manager.go`, lifted from go-ethereum, on the
  logs of a batch as it is produced;
* `FilterLogs` of `go/enclave/storage/enclavedb/events.go`, which appends one SQL condition per
  constrained part of the filter to the query of `loadLogs`, over the rows `writeLog` stored.

The query is modelled by its conditions, one constructor per ` AND ...` fragment, each with its
SQL truth on a stored row. A topic column past the log's topics is `NULL`, and `NULL in (...)`
is not true; the conditions are joined by `AND`, so a row is selected when each one is true.

The SQL side constrains a topic position only when its list is non-empty. `filterLogs` also
drops every log with fewer topics than the filter has positions, wildcards included.

## Results

* `filterLogs_iff_where` — for block bounds that fit an `int64` and at most five positions, a
  log passes `filterLogs` exactly when its stored row meets the `WHERE` clause and the log has at
  least as many topics as the filter has positions.
-/

namespace Obscuro.Events

/-- One ` AND ...` condition `FilterLogs` appends to the query, with its parameters. -/
inductive Cond where
  /-- ` AND b.hash = ?` -/
  | batchHash (h : L2BatchHash)
  /-- ` AND b.height >= ?` -/
  | heightGe (bound : Int64)
  /-- ` AND b.height <= ?` -/
  | heightLe (bound : Int64)
  /-- ` AND address in (?,...,?)` -/
  | addressIn (addresses : List Address)
  /-- ` AND topic<i> in (?,...,?)` -/
  | topicIn (i : Nat) (topics : List Hash)

/-- Whether a condition is true of a stored row in a batch of height `height`. -/
def Cond.holds (row : EventRow) (height : Nat) : Cond → Bool
  | .batchHash h => row.BatchHash == h
  | .heightGe bound => decide (bound.toInt ≤ height)
  | .heightLe bound => decide ((height : Int) ≤ bound.toInt)
  | .addressIn addresses => addresses.contains row.Address
  -- `NULL in (...)` is not true
  | .topicIn i topics => match row.Topics[i]? with
    | some topic => topics.contains topic
    | none => false

/-- `fromBlock != nil && fromBlock.Sign() > 0`: ` AND b.height >= fromBlock.Int64()`. -/
def fromBlockConds : Option Int → List Cond
  | some f => if 0 < f then [.heightGe (Go.bigInt64 f)] else []
  | none => []

/-- `toBlock != nil && toBlock.Sign() > 0`: ` AND b.height <= toBlock.Int64()`. -/
def toBlockConds : Option Int → List Cond
  | some t => if 0 < t then [.heightLe (Go.bigInt64 t)] else []
  | none => []

/-- `len(addresses) > 0`: ` AND address in (...)`. -/
def addressConds (addresses : List Address) : List Cond :=
  if addresses.length > 0 then [.addressIn addresses] else []

/-- The loop over the topic positions from `i`: an empty list is a wildcard and adds nothing. -/
def topicConds : Nat → List (List Hash) → List Cond
  | _, [] => []
  | i, sub :: rest => (if sub.length > 0 then [.topicIn i sub] else []) ++ topicConds (i + 1) rest

/-- The conditions of `FilterLogs`, in the order it appends them. -/
def whereConds (fromBlock toBlock : Option Int) (blockHash : Option L2BatchHash)
    (addresses : List Address) (topics : List (List Hash)) : List Cond :=
  blockHash.toList.map .batchHash ++ fromBlockConds fromBlock ++ toBlockConds toBlock ++
    addressConds addresses ++ topicConds 0 topics

/-- `FilterLogs(db, requestingAccount, fromBlock, toBlock, blockHash, addresses, topics)`: the
logs `loadLogs` returns under the conditions. -/
def FilterLogs (events : List EventRow) (batchOf : L2BatchHash → Option (Nat × Bool))
    (requestingAccount : Option Address) (fromBlock toBlock : Option Int)
    (blockHash : Option L2BatchHash) (addresses : List Address) (topics : List (List Hash)) :
    Except String (List Log) :=
  if topics.length > 5 then .error "invalid filter. Too many topics"
  else loadLogs events batchOf requestingAccount fun row height =>
    (whereConds fromBlock toBlock blockHash addresses topics).all (·.holds row height)

/-- Topic lists matched position by position against columns, a missing column failing every
non-empty list: the SQL reading of the topic conditions. -/
def topicsMatch : List (List Hash) → List Hash → Bool
  | [], _ => true
  | sub :: rest, [] => sub.isEmpty && topicsMatch rest []
  | sub :: rest, t :: ts => (sub.isEmpty || sub.contains t) && topicsMatch rest ts

section Conditions

variable (row : EventRow) (height : Nat)

@[simp] theorem all_append_conds (cs ds : List Cond) :
    (cs ++ ds).all (·.holds row height) = (cs.all (·.holds row height) && ds.all (·.holds row height)) :=
  List.all_append

/-- The topic conditions from position `i` read the columns from `i` on. -/
theorem topicConds_all : ∀ (i : Nat) (topics : List (List Hash)),
    (topicConds i topics).all (·.holds row height) = topicsMatch topics (row.Topics.drop i)
  | _, [] => rfl
  | i, sub :: rest => by
    rw [topicConds, all_append_conds, topicConds_all (i + 1) rest]
    -- the column at `i` is the head of the columns from `i`, or missing
    cases hcol : row.Topics.drop i with
    | nil =>
      have hlen : row.Topics.length ≤ i := List.drop_eq_nil_iff.mp hcol
      have hnone : row.Topics[i]? = none := List.getElem?_eq_none_iff.mpr hlen
      have hrest : row.Topics.drop (i + 1) = [] := List.drop_eq_nil_iff.mpr (by omega)
      cases sub with
      | nil => simp [topicsMatch, hrest]
      | cons t ts => simp [topicsMatch, Cond.holds, hnone]
    | cons t ts =>
      have hsome : row.Topics[i]? = some t := by
        rw [← List.head?_drop, hcol, List.head?_cons]
      have hrest : row.Topics.drop (i + 1) = ts := by
        rw [← List.drop_drop, hcol]
        rfl
      cases sub with
      | nil => simp [topicsMatch, hrest]
      | cons s ss => simp [topicsMatch, Cond.holds, hsome, hrest]

/-- A `fromBlock` that fits an `int64` selects the same heights on both sides. -/
theorem fromBlockConds_all {f : Int} (hlo : -2 ^ 63 ≤ f) (hhi : f < 2 ^ 63) :
    (fromBlockConds (some f)).all (·.holds row height) =
      !(decide (0 ≤ Go.bigInt64 f) && decide (height < (Go.bigUint64 f).toNat)) := by
  have hint : (Go.bigInt64 f).toInt = f := Go.newInt_bigInt64_of_lt hlo hhi
  by_cases hpos : 0 < f
  · -- a positive bound is its own `Int64()` and `Uint64()`
    have huint : ((Go.bigUint64 f).toNat : Int) = f := Go.toNat_bigUint64_of_nonneg hpos.le (by omega)
    have hnonneg : 0 ≤ Go.bigInt64 f := (Go.bigInt64_nonneg_iff hlo hhi).mpr hpos.le
    simp only [fromBlockConds, if_pos hpos, List.all_cons, List.all_nil, Cond.holds, hint,
      Bool.and_true, hnonneg, decide_true, Bool.true_and]
    rw [Bool.eq_iff_iff]
    simp only [decide_eq_true_eq, Bool.not_eq_true', decide_eq_false_iff_not, not_lt]
    omega
  · -- a bound at or below zero adds no condition, and `filterLogs` skips nothing
    have hneg : ¬(0 ≤ Go.bigInt64 f) ∨ (Go.bigUint64 f).toNat ≤ height := by
      by_cases hzero : f = 0
      · subst hzero
        right
        simp [Go.bigUint64]
      · left
        rw [Go.bigInt64_nonneg_iff hlo hhi]
        omega
    simp only [fromBlockConds, if_neg hpos, List.all_nil]
    rcases hneg with hneg | hle
    · simp [hneg]
    · simp [Nat.not_lt.mpr hle]

/-- A `toBlock` that fits an `int64` selects the same heights on both sides. -/
theorem toBlockConds_all {t : Int} (hlo : -2 ^ 63 ≤ t) (hhi : t < 2 ^ 63) :
    (toBlockConds (some t)).all (·.holds row height) =
      !(decide (0 < Go.bigInt64 t) && decide ((Go.bigUint64 t).toNat < height)) := by
  have hint : (Go.bigInt64 t).toInt = t := Go.newInt_bigInt64_of_lt hlo hhi
  by_cases hpos : 0 < t
  · have huint : ((Go.bigUint64 t).toNat : Int) = t := Go.toNat_bigUint64_of_nonneg hpos.le (by omega)
    have hposInt : 0 < Go.bigInt64 t := (Go.bigInt64_pos_iff hlo hhi).mpr hpos
    simp only [toBlockConds, if_pos hpos, List.all_cons, List.all_nil, Cond.holds, hint,
      Bool.and_true, hposInt, decide_true, Bool.true_and]
    rw [Bool.eq_iff_iff]
    simp only [decide_eq_true_eq, Bool.not_eq_true', decide_eq_false_iff_not, not_lt]
    omega
  · have hnot : ¬(0 < Go.bigInt64 t) := mt (Go.bigInt64_pos_iff hlo hhi).mp hpos
    simp [toBlockConds, if_neg hpos, hnot]

/-- `fromBlockConds_all` for a bound that may be missing. -/
theorem fromBlockConds_eq (fromBlock : Option Int) :
    (∀ f ∈ fromBlock, -2 ^ 63 ≤ f ∧ f < 2 ^ 63) →
      (fromBlockConds fromBlock).all (·.holds row height) =
        !(match fromBlock with
          | some f => decide (0 ≤ Go.bigInt64 f) && decide (height < (Go.bigUint64 f).toNat)
          | none => false) := by
  intro hfits
  cases fromBlock with
  | none => rfl
  | some f => exact fromBlockConds_all row height (hfits f rfl).1 (hfits f rfl).2

/-- `toBlockConds_all` for a bound that may be missing. -/
theorem toBlockConds_eq (toBlock : Option Int) :
    (∀ t ∈ toBlock, -2 ^ 63 ≤ t ∧ t < 2 ^ 63) →
      (toBlockConds toBlock).all (·.holds row height) =
        !(match toBlock with
          | some t => decide (0 < Go.bigInt64 t) && decide ((Go.bigUint64 t).toNat < height)
          | none => false) := by
  intro hfits
  cases toBlock with
  | none => rfl
  | some t => exact toBlockConds_all row height (hfits t rfl).1 (hfits t rfl).2

/-- The address condition is `filterLogs`' address test. -/
theorem addressConds_all (addresses : List Address) :
    (addressConds addresses).all (·.holds row height) =
      !(addresses.length > 0 && !includes addresses row.Address) := by
  unfold addressConds includes
  by_cases hne : addresses.length > 0
  · simp [hne, Cond.holds, List.any_beq']
  · simp [hne]

end Conditions

/-- `filterLogs`' topic test, the length check with the position-wise match, is the SQL match
together with the length check. -/
theorem filterLogs_topics_eq (topics : List (List Hash)) (ts : List Hash) :
    (!(topics.length > ts.length) &&
        (topics.zip ts).all fun (sub, topic) => sub.length = 0 || sub.contains topic) =
      (decide (topics.length ≤ ts.length) && topicsMatch topics ts) := by
  induction topics generalizing ts with
  | nil => simp [topicsMatch]
  | cons sub rest ih =>
    cases ts with
    | nil => simp
    | cons t ts =>
      -- one position fewer on each side, the head position tested alike
      have hhead : (decide (sub.length = 0) || sub.contains t) = (sub.isEmpty || sub.contains t) := by
        cases sub <;> simp
      have hlt : (!decide (rest.length + 1 > ts.length + 1)) = !decide (rest.length > ts.length) := by
        simp
      have hle : decide (rest.length + 1 ≤ ts.length + 1) = decide (rest.length ≤ ts.length) := by
        simp
      simp only [List.length_cons, List.zip_cons_cons, List.all_cons, topicsMatch, hhead, hlt, hle]
      rw [Bool.and_left_comm, ih ts, Bool.and_left_comm]

/-- With at most `k` positions, the SQL match reads no column from `k` on. -/
theorem topicsMatch_take : ∀ {topics : List (List Hash)} {k : Nat} (ts : List Hash),
    topics.length ≤ k → topicsMatch topics (ts.take k) = topicsMatch topics ts
  | [], _, _, _ => rfl
  | _ :: _, 0, _, h => absurd h (by simp)
  | sub :: rest, k + 1, [], h => rfl
  | sub :: rest, k + 1, t :: ts, h => by
    rw [List.take_succ_cons, topicsMatch, topicsMatch,
      topicsMatch_take ts (by simpa using h)]

/-- **The two filters.** For a log and its row as `writeLog` stores it, every filter with at most
five topic positions and block bounds that fit an `int64`: the log passes `filterLogs` exactly
when its row meets the conditions of `FilterLogs` and the log has at least as many topics as the
filter has positions. A wildcard position past the log's last topic passes the SQL query and
fails `filterLogs`. -/
theorem filterLogs_iff_where (events : List EventRow) (l : Log) (receipt : Receipt)
    (stateDB : StateDB) (fromBlock toBlock : Option Int) (addresses : List Address)
    (topics : List (List Hash)) (hfrom : ∀ f ∈ fromBlock, -2 ^ 63 ≤ f ∧ f < 2 ^ 63)
    (hto : ∀ t ∈ toBlock, -2 ^ 63 ≤ t ∧ t < 2 ^ 63) (htopics : topics.length ≤ 5) :
    l ∈ filterLogs [l] fromBlock toBlock addresses topics ↔
      (whereConds fromBlock toBlock none addresses topics).all
          (·.holds (writeLog events l receipt stateDB) l.BlockNumber) ∧
        topics.length ≤ l.Topics.length := by
  set row := writeLog events l receipt stateDB
  have hrowTopics : row.Topics = l.Topics.take 5 := rfl
  have hrowAddress : row.Address = l.Address := rfl
  have htopicsEq : (topicConds 0 topics).all (·.holds row l.BlockNumber) =
      topicsMatch topics l.Topics := by
    rw [topicConds_all, List.drop_zero, hrowTopics, topicsMatch_take _ htopics]
  -- each part of the `WHERE` clause is the matching test of `filterLogs`
  have hsql : (whereConds fromBlock toBlock none addresses topics).all
      (·.holds row l.BlockNumber) =
      ((fromBlockConds fromBlock).all (·.holds row l.BlockNumber) &&
        (toBlockConds toBlock).all (·.holds row l.BlockNumber) &&
        !(addresses.length > 0 && !includes addresses l.Address) &&
        topicsMatch topics l.Topics) := by
    simp only [whereConds, Option.toList_none, List.map_nil, List.nil_append, all_append_conds,
      addressConds_all, hrowAddress, htopicsEq]
  simp only [filterLogs, List.mem_filter, List.mem_singleton, true_and]
  rw [hsql, fromBlockConds_eq row _ fromBlock hfrom, toBlockConds_eq row _ toBlock hto,
    Bool.and_assoc, Bool.and_assoc, Bool.and_assoc, filterLogs_topics_eq]
  simp only [Bool.and_eq_true, decide_eq_true_eq]
  tauto

/-! ## A wildcard past the last topic -/

/-- A log with one topic, its signature. -/
def cxLog1 : Log := ⟨0x3333333333333333333333333333333333333333#160, [5#256], [], 4, 7#256, cxBatch, 0⟩
def cxReceipt1 : Receipt := ⟨1, [cxLog1], 7#256, cxBatch, 4, 0⟩

/-- The filter `[[], []]`, two wildcard positions: its stored row meets the query, and
`filterLogs` drops the log. -/
theorem filterLogs_iff_where_wildcardBeyond :
    (whereConds none none none [] [[], []]).all
        (·.holds (writeLog [] cxLog1 cxReceipt1 cxState) cxLog1.BlockNumber) = true ∧
      cxLog1 ∉ filterLogs [cxLog1] none none [] [[], []] := by
  have hiff := filterLogs_iff_where [] cxLog1 cxReceipt1 cxState none none [] [[], []]
    (fun _ h => nomatch h) (fun _ h => nomatch h) (by decide)
  refine ⟨rfl, fun hmem => ?_⟩
  have hlen := (hiff.mp hmem).2
  simp [cxLog1] at hlen

end Obscuro.Events
