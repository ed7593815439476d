import Obscuro.Common.Types
import Obscuro.Lib.GoInt
import Obscuro.Lib.ExceptBind

/-!
# Which accounts see an event log

An event log is private to the user accounts its topics name, and public (a "lifecycle
event") when they name none. Two pieces of code decide which topics name user accounts:

* the live path, `SubscriptionManager.GetSubscribedLogsForBatch` of
  `go/enclave/events/subscription_manager.go`, with `getUserAddrsFromLogTopics` and
  `isRelevant`, run on the logs of a batch as it is produced;
* the stored path, `StoreEventLogs` and `writeLog` of `go/enclave/storage/enclavedb/events.go`,
  which fix the flag `lifecycle_event` and the columns `rel_address1..4` of a stored log with
  `isEndUserAccount`, and `loadLogs`, which returns a stored log to an account when the log
  is a lifecycle event or names it.

The live path takes a topic for a user address when its first twelve bytes are zero and the
account has a non-zero nonce and no code; the stored path when the topic has between 80 and
160 bits and the account has no code or an earlier stored log named it.

Main results:

* `getUserAddrFromTopic_eq_some_iff`, `isEndUserAccount_snd_eq_some_iff` — the two rules;
* `GetSubscribedLogsForBatch_leaksPrivateLog` — a log naming an account with nonce zero is
  stored as private to that account, and pushed live to every subscriber;
* `GetSubscribedLogsForBatch_eq`, `FilterLogsForReceipt_eq` — on logs with topics, each
  subscription gets the logs its filter passes that are relevant to its account, in order;
* `GetSubscribedLogsForBatch_panicsOnLog0`, `FilterLogsForReceipt_panicsOnLog0` — a log with no
  topic (`LOG0`) that reaches `getUserAddrsFromLogTopics` makes both panic.
-/

namespace Obscuro.Events

/-- `gethcommon.BytesToAddress(b)`: the last 20 bytes of `b`, zero-padded on the left. -/
def BytesToAddress (b : Bytes) : Address := BitVec.ofNat 160 (Go.setBytes b)

/-- `common.ExtractPotentialAddress(hash)`: the address in a topic of 80 to 160 bits. -/
def ExtractPotentialAddress (hash : Hash) : Option Address :=
  let bitlen := Go.bitLen hash.toNat
  if bitlen < 80 ∨ bitlen > 160 then none
  else some (BytesToAddress hash.Bytes)

/-- What both paths read of `state.StateDB`: an account's nonce and its code, `nil` (here
`[]`) for an account without code. -/
structure StateDB where
  GetNonce : Address → UInt64
  GetCode : Address → Bytes

/-! ## The live path -/

/-- `zeroBytesHex`: the twelve zero bytes that pad an address to 32 bytes, in hex. -/
def zeroBytesHex : String := "000000000000000000000000"

/-- The body of the loop of `getUserAddrsFromLogTopics`: the address a topic names, when
the topic's hex starts with `zeroBytesHex` and the account has sent a transaction and has
no code. `topic.Hex()[2:len(zeroBytesHex)+2]` skips the `0x`. -/
def getUserAddrFromTopic (db : StateDB) (topic : Hash) : Option Address :=
  if (topic.Hex.toList.drop 2).take zeroBytesHex.length ≠ zeroBytesHex.toList then none
  else
    let potentialAddr := BytesToAddress topic.Bytes
    if db.GetNonce potentialAddr ≠ 0 then
      if db.GetCode potentialAddr = [] then some potentialAddr else none
    else none

/-- `getUserAddrsFromLogTopics(log, db)`: the user addresses among the topics after the
first (the event's signature). Go's `log.Topics[1:len(log.Topics)]` panics when the log has
no topic at all. -/
def getUserAddrsFromLogTopics (log : Log) (db : StateDB) : Except String (List Address) :=
  match log.Topics with
  | [] => .error "runtime error: slice bounds out of range [1:0]"
  | _ :: topics => .ok (topics.filterMap (getUserAddrFromTopic db))

/-- `isRelevant(sub, userAddrs)`: a log with no user address is a lifecycle event, relevant
to everyone; otherwise it is relevant to the addresses it names. -/
def isRelevant (sub : Address) (userAddrs : List Address) : Bool :=
  if userAddrs.length = 0 then true
  else userAddrs.any (· == sub)

/-- `filters.FilterCriteria`, as far as `filterLogs` reads it. A `nil` block bound is `none`. -/
structure FilterCriteria where
  FromBlock : Option Int
  ToBlock : Option Int
  Addresses : List Address
  Topics : List (List Hash)

/-- `includes(addresses, a)`. -/
def includes (addresses : List Address) (a : Address) : Bool := addresses.any (· == a)

/-- `filterLogs(logs, fromBlock, toBlock, addresses, topics)`: the logs within the block
range, from one of the addresses, whose topics match position by position (an empty
position matches anything). -/
def filterLogs (logs : List Log) (fromBlock toBlock : Option Int) (addresses : List Address)
    (topics : List (List Hash)) : List Log :=
  logs.filter fun logItem =>
    let inThePast := match fromBlock with
      | some f => decide (0 ≤ Go.bigInt64 f) && decide (logItem.BlockNumber < (Go.bigUint64 f).toNat)
      | none => false
    let inTheFuture := match toBlock with
      | some t => decide (0 < Go.bigInt64 t) && decide ((Go.bigUint64 t).toNat < logItem.BlockNumber)
      | none => false
    !inThePast && !inTheFuture &&
      !(addresses.length > 0 && !includes addresses logItem.Address) &&
      !(topics.length > logItem.Topics.length) &&
      (topics.zip logItem.Topics).all fun (sub, topic) => sub.length = 0 || sub.contains topic

/-- A live subscription: the account it is for and its filter. -/
structure Subscription where
  Account : Address
  Filter : FilterCriteria

/-- The logs of `allLogs` that a subscription receives: those its filter passes that are
relevant to its account. -/
def relevantLogsForSub (stateDB : StateDB) (allLogs : List Log) (sub : Subscription) :
    Except String (List Log) :=
  (filterLogs allLogs sub.Filter.FromBlock sub.Filter.ToBlock sub.Filter.Addresses
      sub.Filter.Topics).filterM fun logItem =>
    isRelevant sub.Account <$> getUserAddrsFromLogTopics logItem stateDB

/-- `SubscriptionManager.GetSubscribedLogsForBatch(batch, receipts)`: for each subscription
with at least one relevant log, the list of those logs, handed to `encryptLogs`, which
encrypts each list under its subscription's viewing key. `createStateDB` is
`storage.CreateStateDB(batch.Hash())`. Go returns `nil` early when there is no subscription
or no log; that is `none` here. The per-log cache of `userAddrsForLog` is not modelled: the
addresses of a log do not change within the call. -/
def GetSubscribedLogsForBatch {ID α : Type} (subscriptions : List (ID × Subscription))
    (encryptLogs : List (ID × List Log) → Except String α) (createStateDB : Except String StateDB)
    (receipts : List Receipt) : Except String (Option α) :=
  if subscriptions.length = 0 then .ok none
  else
    let allLogs := receipts.flatMap (·.Logs)
    if allLogs.length = 0 then .ok none
    else do
      let stateDB ← createStateDB.mapError fun err =>
        "could not create state DB to filter logs. Cause: " ++ err
      let relevantLogsPerSubscription ← subscriptions.mapM fun (id, sub) =>
        (id, ·) <$> relevantLogsForSub stateDB allLogs sub
      some <$> encryptLogs (relevantLogsPerSubscription.filter fun (_, ls) => ls.length > 0)

/-- `SubscriptionManager.FilterLogsForReceipt(receipt, account)`: the logs of a receipt that are
relevant to the account, in order, with the state at the receipt's batch. `createStateDB` is
`storage.CreateStateDB`. -/
def FilterLogsForReceipt (createStateDB : Hash → Except String StateDB) (receipt : Receipt)
    (account : Address) : Except String (List Log) := do
  let stateDB ← (createStateDB receipt.BlockHash).mapError fun err =>
    "could not create state DB to filter logs. Cause: " ++ err
  receipt.Logs.filterM fun logItem => isRelevant account <$> getUserAddrsFromLogTopics logItem stateDB

/-! ## The stored path -/

/-- A row of the `events` table, with the columns `writeLog` fills: `topic0..topic4` (null
when absent), the data, index and emitting contract, `lifecycle_event`, `rel_address1..4`
(null for a topic that is not a user address, and after the last topic), and the executed
transaction (`executedTransactionID(receipt.BlockHash, l.TxHash)`). -/
structure EventRow where
  Topics : List Hash
  Data : Bytes
  Index : Nat
  Address : Address
  LifecycleEvent : Bool
  RelAddress : List (Option Obscuro.Address)
  BatchHash : L2BatchHash
  TxHash : TxHash
  deriving DecidableEq, Repr

/-- `isEndUserAccount(db, topic, stateDB)`: whether the topic is a user address, and that
address. An address that a stored row already names is one; otherwise one without code is.
The nonce check of the live path is a `TODO` in the source. A failing `count(*)` query is
not modelled. -/
def isEndUserAccount (events : List EventRow) (topic : Hash) (stateDB : StateDB) :
    Bool × Option Address :=
  match ExtractPotentialAddress topic with
  | none => (false, none)
  | some potentialAddr =>
    -- `select count(*) from events where rel_address1=? OR ... OR rel_address4=?`
    let count := (events.filter fun r => r.RelAddress.contains (some potentialAddr)).length
    if count > 0 then (true, some potentialAddr)
    else if stateDB.GetCode potentialAddr = [] then (true, some potentialAddr)
    else (false, none)

/-- `writeLog(db, l, receipt, stateDB)`: the row of `l`. Topics 1 to 4 are checked alike, and
the log is a lifecycle event when none of them is a user address. -/
def writeLog (events : List EventRow) (l : Log) (receipt : Receipt) (stateDB : StateDB) :
    EventRow :=
  let checked := ((l.Topics.drop 1).take 4).map fun topic => isEndUserAccount events topic stateDB
  { Topics := l.Topics.take 5
    -- an empty data field is normalised to `nil`, the same list here
    Data := l.Data
    Index := l.Index
    Address := l.Address
    LifecycleEvent := checked.all fun c => !c.1
    RelAddress := checked.map (·.2)
    BatchHash := receipt.BlockHash
    TxHash := l.TxHash }

/-- `StoreEventLogs(dbtx, receipts, stateDB)`: one row per log, every row computed against
the rows committed before (`dbtx.GetDB()`), then all inserted by one statement. -/
def StoreEventLogs (events : List EventRow) (receipts : List Receipt) (stateDB : StateDB) :
    List EventRow :=
  events ++ receipts.flatMap fun receipt => receipt.Logs.map fun l => writeLog events l receipt stateDB

/-- The log a row reads back as, with the height of its batch. -/
def EventRow.toLog (r : EventRow) (height : Nat) : Log :=
  { Address := r.Address
    Topics := r.Topics
    Data := r.Data
    BlockNumber := height
    TxHash := r.TxHash
    BlockHash := r.BatchHash
    Index := r.Index }

/-- `loadLogs(db, requestingAccount, whereCondition, whereParams)`: the stored logs of
canonical batches that are lifecycle events or name the account and that meet the caller's
condition. `batchOf` is the `batch` table joined on (height and `is_canonical` of a batch
hash); the `order by` is not modelled. -/
def loadLogs (events : List EventRow) (batchOf : L2BatchHash → Option (Nat × Bool))
    (requestingAccount : Option Address) (whereCondition : EventRow → Nat → Bool) :
    Except String (List Log) :=
  match requestingAccount with
  | none => .error "logs can only be requested for an account"
  | some account =>
    .ok (events.filterMap fun r =>
      match batchOf r.BatchHash with
      | some (height, true) =>
        if (r.LifecycleEvent || r.RelAddress.contains (some account)) && whereCondition r height
        then some (r.toLog height) else none
      | _ => none)

/-! ## The two rules -/

/-- The live test on the hex of a topic is the bound `topic < 2^160`. -/
theorem hexPrefix_eq_iff (topic : Hash) :
    (topic.Hex.toList.drop 2).take zeroBytesHex.length = zeroBytesHex.toList ↔
      topic.toNat < 2 ^ 160 := by
  have hdigit : ∀ d < 16, Nat.digitChar d = '0' ↔ d = 0 := by decide
  have hzeros : zeroBytesHex.toList = List.replicate 24 '0' := by decide
  have hlen : zeroBytesHex.length = 24 := by decide
  have hdigits := @Go.leadingDigits_zero_iff 16 64 topic.toNat (by decide)
    (by simpa using topic.isLt) 24 (by decide)
  rw [show (16 : Nat) ^ (64 - 24) = 2 ^ 160 by norm_num] at hdigits
  rw [← hdigits, hzeros, hlen, List.eq_replicate_iff]
  simp only [Hash.Hex, String.toList_append, String.toList_ofList]
  -- the first 24 hex digits, each `'0'` exactly when the digit is zero
  simp only [show "0x".toList = ['0', 'x'] by decide, List.cons_append, List.nil_append,
    List.drop_succ_cons, List.drop_zero, ← List.map_take, List.take_range, List.length_map,
    List.length_range, List.mem_map, List.mem_range, forall_exists_index, and_imp,
    forall_apply_eq_imp_iff₂]
  constructor
  · rintro ⟨-, h⟩ k hk
    exact (hdigit _ (Nat.mod_lt _ (by decide))).mp (h k (by omega))
  · intro h
    exact ⟨by decide, fun k hk => (hdigit _ (Nat.mod_lt _ (by decide))).mpr (h k (by omega))⟩

/-- The live rule: a topic names a user address when it is below `2^160` and the account
has sent a transaction and has no code. -/
theorem getUserAddrFromTopic_eq_some_iff {db : StateDB} {topic : Hash} {a : Address} :
    getUserAddrFromTopic db topic = some a ↔
      topic.toNat < 2 ^ 160 ∧ a = BytesToAddress topic.Bytes ∧ db.GetNonce a ≠ 0 ∧
        db.GetCode a = [] := by
  unfold getUserAddrFromTopic
  by_cases hlt : topic.toNat < 2 ^ 160
  · -- address-sized: the nonce and the code decide
    rw [if_neg (by rw [ne_eq, not_not, hexPrefix_eq_iff]; exact hlt)]
    dsimp only
    constructor
    · intro h
      split_ifs at h with hn hc
      cases h
      exact ⟨hlt, rfl, hn, hc⟩
    · rintro ⟨-, rfl, hn, hc⟩
      rw [if_pos hn, if_pos hc]
  · rw [if_pos (by rw [ne_eq, hexPrefix_eq_iff]; exact hlt)]
    exact ⟨(fun h => by cases h), fun h => absurd h.1 hlt⟩

/-- A topic holds a potential address when it has 80 to 160 bits. -/
theorem ExtractPotentialAddress_eq_some_iff {hash : Hash} {a : Address} :
    ExtractPotentialAddress hash = some a ↔
      (2 ^ 79 ≤ hash.toNat ∧ hash.toNat < 2 ^ 160) ∧ a = BytesToAddress hash.Bytes := by
  have hrange : ¬ (Go.bitLen hash.toNat < 80 ∨ Go.bitLen hash.toNat > 160) ↔
      2 ^ 79 ≤ hash.toNat ∧ hash.toNat < 2 ^ 160 := by
    rw [not_or, not_lt, not_lt, ← Go.lt_bitLen_iff, ← Go.bitLen_le_iff]
    omega
  unfold ExtractPotentialAddress
  dsimp only
  by_cases hr : 2 ^ 79 ≤ hash.toNat ∧ hash.toNat < 2 ^ 160
  · rw [if_neg (hrange.mpr hr), Option.some.injEq, eq_comm]
    exact ⟨fun h => ⟨hr, h⟩, fun h => h.2⟩
  · rw [if_pos (not_not.mp (hrange.not.mpr hr))]
    exact ⟨(fun h => by cases h), fun h => absurd h.1 hr⟩

/-- The stored rule: a topic of 80 to 160 bits names a user address when the account has no
code or a stored row names it already. -/
theorem isEndUserAccount_snd_eq_some_iff {events : List EventRow} {topic : Hash}
    {stateDB : StateDB} {a : Address} :
    (isEndUserAccount events topic stateDB).2 = some a ↔
      (2 ^ 79 ≤ topic.toNat ∧ topic.toNat < 2 ^ 160) ∧ a = BytesToAddress topic.Bytes ∧
        ((∃ r ∈ events, some a ∈ r.RelAddress) ∨ stateDB.GetCode a = []) := by
  unfold isEndUserAccount
  cases hx : ExtractPotentialAddress topic with
  | none =>
    refine ⟨(fun h => by cases h), ?_⟩
    rintro ⟨hr, rfl, -⟩
    cases hx.symm.trans (ExtractPotentialAddress_eq_some_iff.mpr ⟨hr, rfl⟩)
  | some p =>
    obtain ⟨hr, rfl⟩ := ExtractPotentialAddress_eq_some_iff.mp hx
    -- whether a stored row names the address decides it, or else whether it has code
    have hcount : (events.filter fun r => r.RelAddress.contains (some (BytesToAddress topic.Bytes))).length > 0 ↔
        ∃ r ∈ events, some (BytesToAddress topic.Bytes) ∈ r.RelAddress := by
      simp [List.length_pos_iff_exists_mem, List.mem_filter]
    dsimp only
    split_ifs with hnamed hcode
    · rw [Option.some.injEq, eq_comm]
      exact ⟨fun h => ⟨hr, h, .inl (h ▸ hcount.mp hnamed)⟩, fun h => h.2.1⟩
    · rw [Option.some.injEq, eq_comm]
      exact ⟨fun h => ⟨hr, h, .inr (h ▸ hcode)⟩, fun h => h.2.1⟩
    · refine ⟨(fun h => by cases h), ?_⟩
      rintro ⟨-, rfl, hnamed' | hcode'⟩
      · exact hnamed (hcount.mpr hnamed')
      · exact hcode hcode'

/-! ## Logs without topics

An anonymous event (`LOG0`) has no topic, and `getUserAddrsFromLogTopics` slices its topics
from index 1. That slice is the only way the live path fails once it has a state DB. -/

section Panics

variable (db : StateDB) (A : Address)

/-- The only error of `getUserAddrsFromLogTopics` is the slice panic, on a log with no topic. -/
theorem getUserAddrsFromLogTopics_eq_error {l : Log} {e : String} :
    getUserAddrsFromLogTopics l db = .error e ↔
      l.Topics = [] ∧ e = "runtime error: slice bounds out of range [1:0]" := by
  unfold getUserAddrsFromLogTopics
  cases l.Topics with
  | nil => simp [eq_comm]
  | cons t ts => simp

/-- The relevance test of a log with topics, which does not panic. -/
theorem isRelevant_getUserAddrs_of_ne_nil {l : Log} (h : l.Topics ≠ []) :
    isRelevant A <$> getUserAddrsFromLogTopics l db =
      .ok (isRelevant A (l.Topics.tail.filterMap (getUserAddrFromTopic db))) := by
  obtain ⟨t, ts, hts⟩ := List.exists_cons_of_ne_nil h
  simp [getUserAddrsFromLogTopics, hts]

/-- Filtering logs that all have topics keeps, in order, those relevant to the account. -/
theorem filterM_isRelevant_of_ne_nil {logs : List Log} (h : ∀ l ∈ logs, l.Topics ≠ []) :
    logs.filterM (fun l => isRelevant A <$> getUserAddrsFromLogTopics l db) =
      .ok (logs.filter fun l => isRelevant A (l.Topics.tail.filterMap (getUserAddrFromTopic db))) :=
  Except.filterM_of_ok fun l hl => isRelevant_getUserAddrs_of_ne_nil db A (h l hl)

/-- Filtering logs one of which has no topic panics, whatever the order of the logs. -/
theorem filterM_isRelevant_of_nil {logs : List Log} {l : Log} (hl : l ∈ logs) (hzero : l.Topics = []) :
    logs.filterM (fun l => isRelevant A <$> getUserAddrsFromLogTopics l db) =
      .error "runtime error: slice bounds out of range [1:0]" := by
  apply Except.filterM_of_error
  · -- every test that fails, fails on the slice
    intro l' _ e' he'
    exact ((getUserAddrsFromLogTopics_eq_error db).mp (Except.map_eq_error.mp he')).2
  · refine ⟨l, hl, ?_⟩
    rw [((getUserAddrsFromLogTopics_eq_error db).mpr ⟨hzero, rfl⟩), Except.map_error']

end Panics

/-- **`FilterLogsForReceipt` on logs with topics.** The logs of the receipt relevant to the
account, in the receipt's order. -/
theorem FilterLogsForReceipt_eq {createStateDB : Hash → Except String StateDB} {receipt : Receipt}
    {stateDB : StateDB} (hdb : createStateDB receipt.BlockHash = .ok stateDB)
    (h : ∀ l ∈ receipt.Logs, l.Topics ≠ []) (account : Address) :
    FilterLogsForReceipt createStateDB receipt account =
      .ok (receipt.Logs.filter fun l =>
        isRelevant account (l.Topics.tail.filterMap (getUserAddrFromTopic stateDB))) := by
  rw [FilterLogsForReceipt, hdb, Except.mapError_ok', Except.ok_bind',
    filterM_isRelevant_of_ne_nil stateDB account h]

/-- **`FilterLogsForReceipt` panics on an anonymous event.** A receipt with a log that has no
topic makes it panic, for every account. -/
theorem FilterLogsForReceipt_panicsOnLog0 {createStateDB : Hash → Except String StateDB}
    {receipt : Receipt} {stateDB : StateDB} (hdb : createStateDB receipt.BlockHash = .ok stateDB)
    {l : Log} (hl : l ∈ receipt.Logs) (hzero : l.Topics = []) (account : Address) :
    FilterLogsForReceipt createStateDB receipt account =
      .error "runtime error: slice bounds out of range [1:0]" := by
  rw [FilterLogsForReceipt, hdb, Except.mapError_ok', Except.ok_bind',
    filterM_isRelevant_of_nil stateDB account hl hzero]

/-- The only error of `relevantLogsForSub` is the slice panic. -/
theorem relevantLogsForSub_eq_error {stateDB : StateDB} {allLogs : List Log} {sub : Subscription}
    {e : String} (h : relevantLogsForSub stateDB allLogs sub = .error e) :
    e = "runtime error: slice bounds out of range [1:0]" := by
  by_cases hall : ∀ l ∈ filterLogs allLogs sub.Filter.FromBlock sub.Filter.ToBlock
      sub.Filter.Addresses sub.Filter.Topics, l.Topics ≠ []
  · rw [relevantLogsForSub, filterM_isRelevant_of_ne_nil stateDB sub.Account hall] at h
    cases h
  · push Not at hall
    obtain ⟨l, hl, hzero⟩ := hall
    rw [relevantLogsForSub, filterM_isRelevant_of_nil stateDB sub.Account hl hzero] at h
    cases h
    rfl

/-- A subscription's logs, when every log has a topic: those its filter passes that are
relevant to its account. -/
theorem relevantLogsForSub_eq (stateDB : StateDB) {allLogs : List Log}
    (htopics : ∀ l ∈ allLogs, l.Topics ≠ []) (sub : Subscription) :
    relevantLogsForSub stateDB allLogs sub =
      .ok ((filterLogs allLogs sub.Filter.FromBlock sub.Filter.ToBlock sub.Filter.Addresses
        sub.Filter.Topics).filter fun l =>
          isRelevant sub.Account (l.Topics.tail.filterMap (getUserAddrFromTopic stateDB))) :=
  filterM_isRelevant_of_ne_nil stateDB sub.Account fun l hl =>
    htopics l (List.mem_of_mem_filter hl)

/-- **A subscription's logs are the relevant part of its filtered logs.** When every log has a
topic, `GetSubscribedLogsForBatch` hands `encryptLogs`, for each subscription with a relevant
log, the logs `filterLogs` passes for its filter that `isRelevant` keeps for its account. -/
theorem GetSubscribedLogsForBatch_eq {ID α : Type} {subscriptions : List (ID × Subscription)}
    (encryptLogs : List (ID × List Log) → Except String α) {createStateDB : Except String StateDB}
    {receipts : List Receipt} {stateDB : StateDB} (hdb : createStateDB = .ok stateDB)
    (hsubs : subscriptions ≠ []) (hlogs : receipts.flatMap (·.Logs) ≠ [])
    (htopics : ∀ l ∈ receipts.flatMap (·.Logs), l.Topics ≠ []) :
    GetSubscribedLogsForBatch subscriptions encryptLogs createStateDB receipts =
      some <$> encryptLogs ((subscriptions.map fun (id, sub) =>
        (id, (filterLogs (receipts.flatMap (·.Logs)) sub.Filter.FromBlock sub.Filter.ToBlock
          sub.Filter.Addresses sub.Filter.Topics).filter fun l =>
            isRelevant sub.Account (l.Topics.tail.filterMap (getUserAddrFromTopic stateDB)))).filter
        fun (_, ls) => ls.length > 0) := by
  rw [GetSubscribedLogsForBatch, if_neg (mt List.eq_nil_of_length_eq_zero hsubs),
    if_neg (mt List.eq_nil_of_length_eq_zero hlogs), hdb, Except.mapError_ok', Except.ok_bind',
    Except.mapM_of_ok, Except.ok_bind']
  rintro ⟨id, sub⟩ -
  simp only [relevantLogsForSub_eq stateDB htopics, Except.map_ok']

/-- **Subscription logs panic on an anonymous event.** When a live subscription's filter passes
a log with no topic (an empty filter passes every log), `GetSubscribedLogsForBatch` panics,
for every other subscription and log of the batch. -/
theorem GetSubscribedLogsForBatch_panicsOnLog0 {ID α : Type}
    {subscriptions : List (ID × Subscription)} (encryptLogs : List (ID × List Log) → Except String α)
    {createStateDB : Except String StateDB} {receipts : List Receipt} {stateDB : StateDB}
    (hdb : createStateDB = .ok stateDB) {id : ID} {sub : Subscription} (hsub : (id, sub) ∈ subscriptions)
    {l : Log} (hl : l ∈ filterLogs (receipts.flatMap (·.Logs)) sub.Filter.FromBlock
      sub.Filter.ToBlock sub.Filter.Addresses sub.Filter.Topics) (hzero : l.Topics = []) :
    GetSubscribedLogsForBatch subscriptions encryptLogs createStateDB receipts =
      .error "runtime error: slice bounds out of range [1:0]" := by
  have hsubs : subscriptions.length ≠ 0 := (List.length_pos_of_mem hsub).ne'
  have hlogs : (receipts.flatMap (·.Logs)).length ≠ 0 :=
    (List.length_pos_of_mem (List.mem_of_mem_filter hl)).ne'
  rw [GetSubscribedLogsForBatch, if_neg hsubs, if_neg hlogs, hdb, Except.mapError_ok',
    Except.ok_bind', Except.mapM_of_error (e := "runtime error: slice bounds out of range [1:0]"),
    Except.error_bind']
  · -- every subscription fails only on the slice
    rintro ⟨_, sub'⟩ - e' he'
    exact relevantLogsForSub_eq_error (Except.map_eq_error.mp he')
  · -- and `sub` does
    refine ⟨(id, sub), hsub, ?_⟩
    dsimp only
    rw [relevantLogsForSub, filterM_isRelevant_of_nil stateDB sub.Account hl hzero,
      Except.map_error']

/-! ## A log private to an account with nonce zero

`A` has never sent a transaction and has no code: a fresh account. A contract emits an event
with `A` as its only indexed topic. -/

def cxA : Address := 0x1111111111111111111111111111111111111111#160
def cxB : Address := 0x2222222222222222222222222222222222222222#160
def cxTopicA : Hash := 0x0000000000000000000000001111111111111111111111111111111111111111#256
def cxBatch : L2BatchHash := 9#256

def cxLog : Log := ⟨0x3333333333333333333333333333333333333333#160, [5#256, cxTopicA], [], 4, 7#256, cxBatch, 0⟩
def cxReceipt : Receipt := ⟨1, [cxLog], 7#256, cxBatch, 4, 0⟩

/-- Every account fresh: nonce zero, no code. -/
def cxState : StateDB := ⟨fun _ => 0, fun _ => []⟩

/-- The batch is canonical, at height 4. -/
def cxBatchOf (h : L2BatchHash) : Option (Nat × Bool) := if h = cxBatch then some (4, true) else none

/-- **The live path leaks a private log.** Stored from an empty table, the log is private to
`A`: `loadLogs` returns it to `A` and not to `B`. The live path, with the same state, finds
no user address in the topics (`A`'s nonce is zero), takes the log for a lifecycle event, and
hands it to `encryptLogs` for the subscription of `B`. -/
theorem GetSubscribedLogsForBatch_leaksPrivateLog :
    cxA ≠ cxB ∧
      loadLogs (StoreEventLogs [] [cxReceipt] cxState) cxBatchOf (some cxB) (fun _ _ => true) =
        .ok [] ∧
      loadLogs (StoreEventLogs [] [cxReceipt] cxState) cxBatchOf (some cxA) (fun _ _ => true) =
        .ok [cxLog] ∧
      GetSubscribedLogsForBatch [((), ⟨cxB, ⟨none, none, [], []⟩⟩)] (fun ls => .ok ls)
          (.ok cxState) [cxReceipt] = .ok (some [((), [cxLog])]) := by
  refine ⟨by decide, rfl, rfl, rfl⟩

/-! ## An anonymous event in a batch

A contract emits an event with no topic at all (`LOG0`): no signature, nothing indexed. -/

def cxLog0 : Log := ⟨0x3333333333333333333333333333333333333333#160, [], [], 4, 7#256, cxBatch, 0⟩
def cxReceipt0 : Receipt := ⟨1, [cxLog0], 7#256, cxBatch, 4, 0⟩

/-- `B`'s subscription has an empty filter, which passes the anonymous event, and the batch
makes `GetSubscribedLogsForBatch` panic. -/
theorem GetSubscribedLogsForBatch_panicsOnLog0_anonymous :
    cxLog0.Topics = [] ∧
      GetSubscribedLogsForBatch [((), ⟨cxB, ⟨none, none, [], []⟩⟩)] (fun ls => .ok ls)
          (.ok cxState) [cxReceipt0] = .error "runtime error: slice bounds out of range [1:0]" :=
  ⟨rfl, GetSubscribedLogsForBatch_panicsOnLog0 _ rfl List.mem_cons_self (l := cxLog0) (by decide)
    rfl⟩

end Obscuro.Events
