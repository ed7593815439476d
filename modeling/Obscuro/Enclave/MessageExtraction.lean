import Obscuro.Common.Types
import Obscuro.Lib.ExceptBind

/-!
# Extracting cross-chain messages from receipts

`filterLogsFromReceipts` and `convertLogsToMessages` of `go/enclave/crosschain/common.go`, as
`MessageBusManager.ExtractOutboundMessages` (`go/enclave/crosschain/message_bus_manager.go`)
runs them on the receipts of every batch the sequencer computes, and
`blockMessageExtractor.StoreCrossChainMessages`
(`go/enclave/crosschain/block_message_extractor.go`) on the receipts of every L1 block the
enclave ingests. The L1 list is sparse: `Repository.FetchObscuroReceipts`
(`go/host/l1/blockrepository.go`) leaves a `nil` entry for a receipt it failed to fetch, so
a receipt here is an `Option`.

A Go panic is an error carrying the runtime's message. The ABI decoding of a log's data into
a message is a parameter.

Main results:

* `filterLogsFromReceipt_eq_ok_iff` and `filterLogsFromReceipts_eq_ok_iff` — the filters
  succeed exactly when every receipt is present and, for a successful receipt, every log
  has a topic; they then return the logs the bus published with the event's topic, in order;
* `filterLogsFromReceipts_panics` — a missing receipt, or a successful receipt with an
  anonymous log, makes the filter panic;
* `ExtractOutboundMessages_eq_ok_iff` and `getCrossChainMessages_eq_ok_iff` — what the two
  callers return.
-/

namespace Obscuro.CrossChain

/-- The runtime's message for `x.f` on a `nil` pointer `x`. -/
def nilDereference : String :=
  "runtime error: invalid memory address or nil pointer dereference"

/-- The runtime's message for `log.Topics[0]` on a log with no topics. -/
def topicOutOfRange : String := "runtime error: index out of range [0] with length 0"

/-- The loop of `filterLogsFromReceipt` over a receipt's logs: a log is skipped when an
address is given and differs from the log's, or a topic is given and differs from the log's
first. Both tests run on every log, so a log with no topics panics whenever a topic is
given, whatever its address. -/
def filterLogsLoop (address : Option Address) (topic : Option Hash) :
    List Log → Except String (List Log)
  | [] => .ok []
  | log :: rest => do
    -- `log.Address.Hex() != address.Hex()`: the checksummed hex of an address is injective
    let addressSkip : Bool := match address with
      | some a => log.Address ≠ a
      | none => false
    let topicSkip ← match topic with
      | none => pure false
      | some t => match log.Topics with
        | [] => throw topicOutOfRange
        | t0 :: _ => pure (decide (t0 ≠ t))
    let logs ← filterLogsLoop address topic rest
    if addressSkip || topicSkip then pure logs else pure (log :: logs)

/-- `filterLogsFromReceipt(receipt, address, topic)`. -/
def filterLogsFromReceipt (receipt : Option Receipt) (address : Option Address)
    (topic : Option Hash) : Except String (List Log) :=
  match receipt with
  | none => .error "null receipt"
  | some receipt => filterLogsLoop address topic receipt.Logs

/-- `filterLogsFromReceipts(receipts, address, topic)`: the logs of the successful receipts
that pass the filter, in order. `receipt.Status` is read before `filterLogsFromReceipt`
checks for `nil`, so a missing receipt panics there. -/
def filterLogsFromReceipts (address : Option Address) (topic : Option Hash) :
    List (Option Receipt) → Except String (List Log)
  | [] => .ok []
  | receipt :: receipts =>
    match receipt with
    | none => .error nilDereference
    | some r =>
      if r.Status = 0 then filterLogsFromReceipts address topic receipts
      else do
        let logsForReceipt ← filterLogsFromReceipt (some r) address topic
        let logs ← filterLogsFromReceipts address topic receipts
        pure (logsForReceipt ++ logs)

/-- `convertLogsToMessages(logs, eventName, messageBusABI)`: each log's data decoded into a
message (`UnpackIntoInterface`, then `createCrossChainMessage`). -/
def convertLogsToMessages (decode : Bytes → Except String CrossChainMessage) (logs : List Log) :
    Except String (List CrossChainMessage) :=
  logs.mapM fun log => decode log.Data

/-- `MessageBusManager.ExtractOutboundMessages(receipts)`: the messages the L2 bus published in
a batch's receipts. -/
def ExtractOutboundMessages (decode : Bytes → Except String CrossChainMessage)
    (messageBusAddress : Address) (crossChainEventID : Hash) (receipts : List Receipt) :
    Except String (List CrossChainMessage) := do
  let logs ← filterLogsFromReceipts (some messageBusAddress) (some crossChainEventID)
    (receipts.map some)
  convertLogsToMessages decode logs

/-- `blockMessageExtractor.getCrossChainMessages(block, receipts)`, as
`StoreCrossChainMessages` calls it on the sparse receipts of an L1 block. -/
def getCrossChainMessages (decode : Bytes → Except String CrossChainMessage)
    (busAddress : Address) (crossChainEventID : Hash) (receipts : List (Option Receipt)) :
    Except String (List CrossChainMessage) :=
  if receipts.isEmpty then .ok []
  else do
    let logs ← filterLogsFromReceipts (some busAddress) (some crossChainEventID) receipts
    convertLogsToMessages decode logs

/-! ## What the filters accept -/

/-- The logs a filter on `address` and `topic` keeps: the bus's logs whose first topic is the
event's. -/
def Published (address : Address) (topic : Hash) (log : Log) : Bool :=
  log.Address = address && log.Topics.head? = some topic

/-- A receipt the filter can read: present, and when successful, with a topic on every log. -/
def Readable (receipt : Option Receipt) : Prop :=
  ∃ r, receipt = some r ∧ (r.Status ≠ 0 → ∀ log ∈ r.Logs, log.Topics ≠ [])

@[simp] theorem Readable_some (r : Receipt) :
    Readable (some r) ↔ (r.Status ≠ 0 → ∀ log ∈ r.Logs, log.Topics ≠ []) := by
  constructor
  · rintro ⟨r', hr', h⟩
    cases hr'
    exact h
  · intro h
    exact ⟨r, rfl, h⟩

@[simp] theorem Readable_none : ¬ Readable none := by
  rintro ⟨r, hr, -⟩
  cases hr

/-- A log with no topics panics as soon as a topic is given. -/
theorem filterLogsLoop_nil_topics {address : Option Address} {topic : Hash} {log : Log}
    {rest : List Log} (hlog : log.Topics = []) :
    filterLogsLoop address (some topic) (log :: rest) = .error topicOutOfRange := by
  -- the throw binds to the error itself
  simp only [filterLogsLoop, hlog]
  rfl

/-- A log with a topic is kept, ahead of what the rest of the loop keeps, exactly when it is
published. -/
theorem filterLogsLoop_cons {address : Address} {topic : Hash} {log : Log} {rest : List Log}
    (hlog : log.Topics ≠ []) :
    filterLogsLoop (some address) (some topic) (log :: rest) =
      (fun logs => if Published address topic log then log :: logs else logs) <$>
        filterLogsLoop (some address) (some topic) rest := by
  obtain ⟨t0, ts, hts⟩ := List.exists_cons_of_ne_nil hlog
  have hkeep : (!(decide (log.Address ≠ address) || decide (t0 ≠ topic))) =
      Published address topic log := by
    simp only [Published, hts, List.head?_cons, Option.some.injEq]
    by_cases ha : log.Address = address <;> by_cases ht : t0 = topic <;> simp [ha, ht]
  cases hrest : filterLogsLoop (some address) (some topic) rest with
  | error e => simp [filterLogsLoop, hts, hrest]
  | ok logs =>
    simp only [filterLogsLoop, hts, Except.pure_eq_ok, Except.ok_bind', hrest, Except.map_ok']
    rw [← hkeep]
    cases (decide (log.Address ≠ address) || decide (t0 ≠ topic)) <;> rfl

/-- **One receipt's logs.** With an address and a topic, the loop fails exactly on a log with
no topics, and otherwise keeps the published logs in order. -/
theorem filterLogsLoop_eq_ok_iff (address : Address) (topic : Hash) (logs : List Log) :
    ∀ kept : List Log, filterLogsLoop (some address) (some topic) logs = .ok kept ↔
      (∀ log ∈ logs, log.Topics ≠ []) ∧ kept = logs.filter (Published address topic) := by
  induction logs with
  | nil =>
    intro kept
    constructor
    · intro h
      cases h
      exact ⟨(fun _ h => by cases h), rfl⟩
    · rintro ⟨-, rfl⟩
      rfl
  | cons log rest ih =>
    intro kept
    by_cases hlog : log.Topics = []
    · -- a log with no topics panics at `log.Topics[0]`
      rw [filterLogsLoop_nil_topics hlog]
      constructor
      · intro h
        cases h
      · rintro ⟨htopics, -⟩
        exact absurd hlog (htopics log List.mem_cons_self)
    · rw [filterLogsLoop_cons hlog, Except.map_eq_ok, List.forall_mem_cons, List.filter_cons]
      constructor
      · rintro ⟨logs, hlogs, rfl⟩
        obtain ⟨htopics, rfl⟩ := (ih logs).mp hlogs
        exact ⟨⟨hlog, htopics⟩, rfl⟩
      · rintro ⟨⟨-, htopics⟩, rfl⟩
        exact ⟨_, (ih _).mpr ⟨htopics, rfl⟩, rfl⟩

theorem filterLogsFromReceipt_eq_ok_iff (address : Address) (topic : Hash) (r : Receipt)
    (kept : List Log) :
    filterLogsFromReceipt (some r) (some address) (some topic) = .ok kept ↔
      (∀ log ∈ r.Logs, log.Topics ≠ []) ∧ kept = r.Logs.filter (Published address topic) :=
  filterLogsLoop_eq_ok_iff address topic r.Logs kept

/-- The logs the outbound messages come from: those of the successful receipts that the bus published with
the event's topic, in order. -/
def expectedLogs (address : Address) (topic : Hash) (receipts : List Receipt) : List Log :=
  receipts.flatMap fun r => if r.Status = 0 then [] else r.Logs.filter (Published address topic)

/-- **The receipts' logs.** With an address and a topic, `filterLogsFromReceipts` succeeds
exactly when every receipt is readable, and then returns the published logs of the
successful receipts, in order. -/
theorem filterLogsFromReceipts_eq_ok_iff (address : Address) (topic : Hash) :
    ∀ (receipts : List (Option Receipt)) (logs : List Log),
      filterLogsFromReceipts (some address) (some topic) receipts = .ok logs ↔
        (∀ receipt ∈ receipts, Readable receipt) ∧
          logs = expectedLogs address topic (receipts.filterMap id)
  | [], logs => by
    constructor
    · intro h
      cases h
      exact ⟨(fun _ h => by cases h), rfl⟩
    · rintro ⟨-, rfl⟩
      rfl
  | none :: receipts, logs => by
    -- `receipt.Status` on a missing receipt
    constructor
    · intro h
      cases h
    · rintro ⟨hreadable, -⟩
      exact absurd (hreadable none List.mem_cons_self) Readable_none
  | some r :: receipts, logs => by
    have ih := filterLogsFromReceipts_eq_ok_iff address topic receipts
    simp only [List.forall_mem_cons, Readable_some, List.filterMap_cons, id, expectedLogs,
      List.flatMap_cons]
    by_cases hstatus : r.Status = 0
    · -- a failed receipt is skipped unread
      simp only [filterLogsFromReceipts, hstatus, if_true, ne_eq, not_true_eq_false,
        false_implies, true_and, List.nil_append]
      exact ih logs
    · simp only [filterLogsFromReceipts, hstatus, if_false]
      constructor
      · intro h
        obtain ⟨kept, hkept, h⟩ := Except.bind_eq_ok.mp h
        obtain ⟨rest, hrest, h⟩ := Except.bind_eq_ok.mp h
        cases h
        obtain ⟨htopics, rfl⟩ := (filterLogsFromReceipt_eq_ok_iff address topic r kept).mp hkept
        obtain ⟨hreadable, rfl⟩ := (ih rest).mp hrest
        exact ⟨⟨fun _ => htopics, hreadable⟩, rfl⟩
      · rintro ⟨⟨htopics, hreadable⟩, rfl⟩
        have hkept := (filterLogsFromReceipt_eq_ok_iff address topic r _).mpr
          ⟨htopics hstatus, rfl⟩
        have hrest := (ih _).mpr ⟨hreadable, rfl⟩
        rw [hkept, Except.ok_bind', hrest, Except.ok_bind']
        rfl

/-! ## Where the filters panic -/

/-- The loop's only failure is the index into a log with no topics. -/
theorem filterLogsLoop_error (address : Address) (topic : Hash) :
    ∀ (logs : List Log) (e : String),
      filterLogsLoop (some address) (some topic) logs = .error e → e = topicOutOfRange
  | [], e, h => by cases h
  | log :: rest, e, h => by
    by_cases hlog : log.Topics = []
    · rw [filterLogsLoop_nil_topics hlog] at h
      cases h
      rfl
    · rw [filterLogsLoop_cons hlog] at h
      cases hrest : filterLogsLoop (some address) (some topic) rest with
      | error e' =>
        rw [hrest, Except.map_error'] at h
        cases h
        exact filterLogsLoop_error address topic rest _ hrest
      | ok kept =>
        rw [hrest, Except.map_ok'] at h
        cases h

/-- The receipts' loop fails only on a missing receipt or on a log with no topics. -/
theorem filterLogsFromReceipts_error (address : Address) (topic : Hash) :
    ∀ (receipts : List (Option Receipt)) (e : String),
      filterLogsFromReceipts (some address) (some topic) receipts = .error e →
        e = nilDereference ∨ e = topicOutOfRange
  | [], e, h => by cases h
  | none :: _, e, h => by
    cases h
    exact .inl rfl
  | some r :: receipts, e, h => by
    have ih := filterLogsFromReceipts_error address topic receipts
    by_cases hstatus : r.Status = 0
    · simp only [filterLogsFromReceipts, hstatus, if_true] at h
      exact ih e h
    · simp only [filterLogsFromReceipts, hstatus, if_false] at h
      cases hkept : filterLogsFromReceipt (some r) (some address) (some topic) with
      | error e' =>
        rw [hkept, Except.error_bind'] at h
        cases h
        exact .inr (filterLogsLoop_error address topic r.Logs _ hkept)
      | ok kept =>
        rw [hkept, Except.ok_bind'] at h
        cases hrest : filterLogsFromReceipts (some address) (some topic) receipts with
        | error e' =>
          rw [hrest, Except.error_bind'] at h
          cases h
          exact ih _ hrest
        | ok rest =>
          rw [hrest, Except.ok_bind'] at h
          cases h

/-- **The filter is not total.** A receipt list with a missing receipt, or with a successful
receipt that carries a log with no topics (an anonymous `LOG0` event), makes
`filterLogsFromReceipts` panic, whatever the bus address and event id. -/
theorem filterLogsFromReceipts_panics (address : Address) (topic : Hash)
    (receipts : List (Option Receipt)) (h : ∃ receipt ∈ receipts, ¬ Readable receipt) :
    filterLogsFromReceipts (some address) (some topic) receipts = .error nilDereference ∨
      filterLogsFromReceipts (some address) (some topic) receipts = .error topicOutOfRange := by
  obtain ⟨receipt, hmem, hunreadable⟩ := h
  cases hfilter : filterLogsFromReceipts (some address) (some topic) receipts with
  | error e =>
    rcases filterLogsFromReceipts_error address topic receipts e hfilter with rfl | rfl
    · exact .inl rfl
    · exact .inr rfl
  | ok logs =>
    obtain ⟨hreadable, -⟩ :=
      (filterLogsFromReceipts_eq_ok_iff address topic receipts logs).mp hfilter
    exact absurd (hreadable receipt hmem) hunreadable

/-- A successful L2 receipt whose one log is an anonymous event of the bus. -/
def anonymousReceipt (address : Address) : Receipt :=
  ⟨1, [⟨address, [], [], 0, 0, 0, 0⟩], 0, 0, 0, 0⟩

theorem filterLogsFromReceipts_panics_anonymous :
    (∃ receipt ∈ [some (anonymousReceipt 0)], ¬ Readable receipt) ∧
      (filterLogsFromReceipts (some 0) (some 0) [some (anonymousReceipt 0)] =
          .error nilDereference ∨
        filterLogsFromReceipts (some 0) (some 0) [some (anonymousReceipt 0)] =
          .error topicOutOfRange) := by
  have hunreadable : ¬ Readable (some (anonymousReceipt 0)) := by
    rw [Readable_some]
    intro h
    exact h (by decide) _ List.mem_cons_self rfl
  have hpanic : ∃ receipt ∈ [some (anonymousReceipt 0)], ¬ Readable receipt :=
    ⟨_, List.mem_cons_self, hunreadable⟩
  exact ⟨hpanic, filterLogsFromReceipts_panics 0 0 _ hpanic⟩

/-! ## The two callers -/

/-- **`ExtractOutboundMessages`.** The L2 messages of a batch are the decoded published logs
of its successful receipts, provided no successful receipt has a log without topics. -/
theorem ExtractOutboundMessages_eq_ok_iff (decode : Bytes → Except String CrossChainMessage)
    (messageBusAddress : Address) (crossChainEventID : Hash) (receipts : List Receipt)
    (messages : List CrossChainMessage) :
    ExtractOutboundMessages decode messageBusAddress crossChainEventID receipts = .ok messages ↔
      (∀ r ∈ receipts, r.Status ≠ 0 → ∀ log ∈ r.Logs, log.Topics ≠ []) ∧
        convertLogsToMessages decode (expectedLogs messageBusAddress crossChainEventID receipts) =
          .ok messages := by
  have hsome : (receipts.map some).filterMap id = receipts := by
    simp [List.filterMap_map]
  simp only [ExtractOutboundMessages, Except.bind_eq_ok, filterLogsFromReceipts_eq_ok_iff,
    List.forall_mem_map, Readable_some, hsome]
  constructor
  · rintro ⟨logs, ⟨hreadable, rfl⟩, hmessages⟩
    exact ⟨hreadable, hmessages⟩
  · rintro ⟨hreadable, hmessages⟩
    exact ⟨_, ⟨hreadable, rfl⟩, hmessages⟩

/-- **`getCrossChainMessages`.** The L1 messages of a block are the decoded published logs of
its successful receipts, provided every receipt was fetched and is readable. -/
theorem getCrossChainMessages_eq_ok_iff (decode : Bytes → Except String CrossChainMessage)
    (busAddress : Address) (crossChainEventID : Hash) (receipts : List (Option Receipt))
    (messages : List CrossChainMessage) :
    getCrossChainMessages decode busAddress crossChainEventID receipts = .ok messages ↔
      (∀ receipt ∈ receipts, Readable receipt) ∧
        convertLogsToMessages decode
          (expectedLogs busAddress crossChainEventID (receipts.filterMap id)) = .ok messages := by
  cases receipts with
  | nil =>
    -- an empty block is answered without running the filter
    simp [getCrossChainMessages, expectedLogs, convertLogsToMessages, eq_comm]
  | cons receipt receipts =>
    simp only [getCrossChainMessages, List.isEmpty_cons, Bool.false_eq_true, if_false,
      Except.bind_eq_ok, filterLogsFromReceipts_eq_ok_iff]
    constructor
    · rintro ⟨logs, ⟨hreadable, rfl⟩, hmessages⟩
      exact ⟨hreadable, hmessages⟩
    · rintro ⟨hreadable, hmessages⟩
      exact ⟨_, ⟨hreadable, rfl⟩, hmessages⟩

end Obscuro.CrossChain
