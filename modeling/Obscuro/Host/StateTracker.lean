import Obscuro.Common.Types
import Obscuro.Lib.GoInt

/-!
# The host's view of its enclave

`go/host/enclave/state.go`: the state machine by which the host decides what it may ask of its
enclave. It keeps the status code and the L1 and L2 heads the enclave last reported (or that the
host set after a call that succeeded), and the L1 and L2 heads the host has seen from outside.
Four calls change an enclave field and recalculate the status with `calculateStatus`; the two
calls that move only the host's heads (`OnReceivedBlock`, `OnReceivedBatch`) leave the status
as it was, and `OnDisconnected` forces `Disconnected`. The mutex and the logger are left out.

* `Consistent` — the status is `Disconnected`, or what `calculateStatus` gives on the current
  enclave fields and on the host heads of the last recalculating call;
* `step_consistent`, `run_consistent_of` — every call keeps it, so every run from
  `NewStateTracker` has it;
* `Consistent.statusSound` — what a status then says of the enclave fields;
* `run_enclaveL2Head_nonneg` — when no call passes a negative sequence number, the enclave's
  L2 head is not negative, and `GetEnclaveL2Head` returns it as it is;
* `run_statusSound` — the three together for every run.

A `*big.Int` sequence number is an `Int` (an `Option Int` where it may be nil). Nothing in the
tracker rejects a negative one, and `Live` then holds with a negative enclave L2 head.
-/

namespace Obscuro.Common

/-- `common.StatusCode`, an `int`. -/
structure StatusCode where
  code : Int
  deriving DecidableEq, Repr

/-- `common.Running`, the zero value. -/
def Running : StatusCode := ⟨0⟩

/-- `common.AwaitingSecret`. -/
def AwaitingSecret : StatusCode := ⟨1⟩

/-- `common.Unavailable`. -/
def Unavailable : StatusCode := ⟨2⟩

/-- `common.Status`: what the enclave reports of itself. -/
structure Status where
  StatusCode : StatusCode
  L1Head : Hash
  L2Head : Option Int
  deriving DecidableEq, Repr

end Obscuro.Common

namespace Obscuro.HostEnclave

/-- `enclave.Status`, the status of the enclave as the host sees it. -/
inductive Status
  | Live
  | Disconnected
  | Unavailable
  | AwaitingSecret
  | L1Catchup
  | L2Catchup
  deriving DecidableEq, Repr

/-- `gethutil.EmptyHash`, the zero hash. -/
def EmptyHash : Hash := 0

/-- `_noBatch`: an L2 head of 0 means that no batch has been seen or processed. -/
def noBatch : Int := 0

/-- `StateTracker`. -/
structure StateTracker where
  status : Status
  enclaveStatusCode : Common.StatusCode
  enclaveL1Head : Hash
  enclaveL2Head : Option Int
  hostL1Head : Hash
  hostL2Head : Option Int
  deriving DecidableEq, Repr

/-- `NewStateTracker`: `Disconnected`, every other field at its zero value. -/
def NewStateTracker : StateTracker where
  status := .Disconnected
  enclaveStatusCode := ⟨0⟩
  enclaveL1Head := 0
  enclaveL2Head := none
  hostL1Head := 0
  hostL2Head := none

namespace StateTracker

/-- `setStatus`: the tracker is left as it is when the status does not change. -/
def setStatus (s : StateTracker) (newStatus : Status) : StateTracker :=
  if s.status = newStatus then s else { s with status := newStatus }

/-- `calculateStatus`. -/
def calculateStatus (s : StateTracker) : Status :=
  if s.enclaveStatusCode = Common.AwaitingSecret then .AwaitingSecret
  else if s.enclaveStatusCode = Common.Unavailable then .Unavailable
  else if s.enclaveStatusCode = Common.Running then
    if s.hostL1Head ≠ s.enclaveL1Head ∨ s.enclaveL1Head = EmptyHash then .L1Catchup
    else
      -- the two nil tests come first in the Go condition, so the comparisons see two numbers
      match s.hostL2Head, s.enclaveL2Head with
      | some hostL2Head, some enclaveL2Head =>
        if enclaveL2Head = noBatch ∨ enclaveL2Head < hostL2Head then .L2Catchup else .Live
      | _, _ => .L2Catchup
  -- an unknown status code
  else .Unavailable

/-- `OnProcessedBlock`. -/
def OnProcessedBlock (s : StateTracker) (enclL1Head : Hash) : StateTracker :=
  let s := { s with enclaveL1Head := enclL1Head }
  s.setStatus s.calculateStatus

/-- `OnReceivedBlock`. -/
def OnReceivedBlock (s : StateTracker) (l1Head : Hash) : StateTracker :=
  { s with hostL1Head := l1Head }

/-- `OnProcessedBatch`, for a sequence number that is not nil: the host's head is raised to
the enclave's when it is nil or lower. -/
def OnProcessedBatch (s : StateTracker) (enclL2HeadSeqNo : Int) : StateTracker :=
  let s := if s.hostL2Head.all (· < enclL2HeadSeqNo) then
    { s with hostL2Head := some enclL2HeadSeqNo } else s
  let s := { s with enclaveL2Head := some enclL2HeadSeqNo }
  s.setStatus s.calculateStatus

/-- `OnReceivedBatch`. -/
def OnReceivedBatch (s : StateTracker) (l2HeadSeqNo : Option Int) : StateTracker :=
  { s with hostL2Head := l2HeadSeqNo }

/-- `OnSecretProvided`. -/
def OnSecretProvided (s : StateTracker) : StateTracker :=
  let s := if s.enclaveStatusCode = Common.AwaitingSecret then
    { s with enclaveStatusCode := Common.Running } else s
  s.setStatus s.calculateStatus

/-- `OnEnclaveStatus`. -/
def OnEnclaveStatus (s : StateTracker) (es : Common.Status) : StateTracker :=
  let s := { s with
    enclaveStatusCode := es.StatusCode, enclaveL1Head := es.L1Head, enclaveL2Head := es.L2Head }
  s.setStatus s.calculateStatus

/-- `OnDisconnected`. -/
def OnDisconnected (s : StateTracker) : StateTracker :=
  s.setStatus .Disconnected

/-- `InSyncWithL1`. -/
def InSyncWithL1 (s : StateTracker) : Bool :=
  s.status = .Live || s.status = .L2Catchup

/-- `IsUpToDate`. -/
def IsUpToDate (s : StateTracker) : Bool :=
  s.status = .Live

/-- `GetEnclaveL2Head`: a fresh number set from the bytes of the head, which are those of its
absolute value. -/
def GetEnclaveL2Head (s : StateTracker) : Option Int :=
  s.enclaveL2Head.map fun n => (Go.setBytes (Go.bigBytes n.natAbs) : Int)

end StateTracker

/-- A call on the tracker, with its argument. -/
inductive Call
  | OnProcessedBlock (enclL1Head : Hash)
  | OnReceivedBlock (l1Head : Hash)
  | OnProcessedBatch (enclL2HeadSeqNo : Int)
  | OnReceivedBatch (l2HeadSeqNo : Option Int)
  | OnSecretProvided
  | OnEnclaveStatus (es : Common.Status)
  | OnDisconnected
  deriving DecidableEq, Repr

/-- One call. -/
def step (s : StateTracker) : Call → StateTracker
  | .OnProcessedBlock enclL1Head => s.OnProcessedBlock enclL1Head
  | .OnReceivedBlock l1Head => s.OnReceivedBlock l1Head
  | .OnProcessedBatch enclL2HeadSeqNo => s.OnProcessedBatch enclL2HeadSeqNo
  | .OnReceivedBatch l2HeadSeqNo => s.OnReceivedBatch l2HeadSeqNo
  | .OnSecretProvided => s.OnSecretProvided
  | .OnEnclaveStatus es => s.OnEnclaveStatus es
  | .OnDisconnected => s.OnDisconnected

/-- The calls one after another. -/
def run (s : StateTracker) (calls : List Call) : StateTracker :=
  calls.foldl step s

@[simp] theorem run_nil (s : StateTracker) : run s [] = s := rfl

@[simp] theorem run_cons (s : StateTracker) (c : Call) (calls : List Call) :
    run s (c :: calls) = run (step s c) calls := rfl

namespace StateTracker

/-- `setStatus` sets the status, whichever branch it takes. -/
@[simp] theorem setStatus_eq (s : StateTracker) (newStatus : Status) :
    s.setStatus newStatus = { s with status := newStatus } := by
  unfold setStatus
  split
  · rename_i h
    cases s
    cases h
    rfl
  · rfl

/-- The status does not enter its own calculation. -/
@[simp] theorem calculateStatus_withStatus (s : StateTracker) (status : Status) :
    calculateStatus { s with status } = s.calculateStatus := rfl

/-- The tracker with other host heads: what `calculateStatus` saw at the last recalculating
call, when only the host heads have moved since. -/
def withHostHeads (s : StateTracker) (hostL1Head : Hash) (hostL2Head : Option Int) :
    StateTracker :=
  { s with hostL1Head, hostL2Head }

@[simp] theorem withHostHeads_withHostHeads (s : StateTracker) (a c : Hash) (b d : Option Int) :
    (s.withHostHeads a b).withHostHeads c d = s.withHostHeads c d := rfl

/-- The status is `Disconnected`, or the status that `calculateStatus` gives on the current
enclave fields and on `heads`, the host heads of the last recalculating call. -/
def Consistent (s : StateTracker) (heads : Option (Hash × Option Int)) : Prop :=
  s.status = .Disconnected ∨
    ∃ hostL1Head hostL2Head, heads = some (hostL1Head, hostL2Head) ∧
      s.status = calculateStatus (s.withHostHeads hostL1Head hostL2Head)

/-- What the status says of the enclave fields. -/
structure StatusSound (s : StateTracker) : Prop where
  live : s.status = .Live → s.enclaveStatusCode = Common.Running ∧
    s.enclaveL1Head ≠ EmptyHash ∧ ∃ n, s.enclaveL2Head = some n ∧ n ≠ 0
  catchup : s.status = .L1Catchup ∨ s.status = .L2Catchup →
    s.enclaveStatusCode = Common.Running
  inSyncWithL1 : s.InSyncWithL1 = true → s.enclaveL1Head ≠ EmptyHash

/-- Every status but `AwaitingSecret` and `Unavailable` is calculated under `Running`: the
other codes, known or not, give one of those two. -/
theorem calculateStatus_running {s : StateTracker}
    (h : s.calculateStatus ≠ .AwaitingSecret ∧ s.calculateStatus ≠ .Unavailable) :
    s.enclaveStatusCode = Common.Running := by
  by_cases hawait : s.enclaveStatusCode = Common.AwaitingSecret
  · simp [calculateStatus, hawait] at h
  by_cases hunavailable : s.enclaveStatusCode = Common.Unavailable
  · simp [calculateStatus, hunavailable] at h
  by_contra hrunning
  simp [calculateStatus, hawait, hunavailable, hrunning] at h

/-- `Live` and `L2Catchup` are calculated past the L1 test. -/
theorem calculateStatus_l1Head {s : StateTracker}
    (h : s.calculateStatus = .Live ∨ s.calculateStatus = .L2Catchup) :
    s.enclaveL1Head ≠ EmptyHash := by
  unfold calculateStatus at h
  split at h
  · simp at h
  split at h
  · simp at h
  split at h
  · split at h
    · simp at h
    · rename_i hl1
      exact fun he => hl1 (.inr he)
  · simp at h

/-- `Live` is calculated from an L2 head that is neither nil nor `_noBatch`. -/
theorem calculateStatus_live {s : StateTracker} (h : s.calculateStatus = .Live) :
    ∃ n, s.enclaveL2Head = some n ∧ n ≠ 0 := by
  unfold calculateStatus at h
  split at h
  · cases h
  split at h
  · cases h
  split at h
  · split at h
    · cases h
    · split at h
      · rename_i enclaveL2Head _ henc
        split at h
        · cases h
        · rename_i hne
          exact ⟨enclaveL2Head, henc, fun h0 => hne (.inl h0)⟩
      · cases h
  · cases h

@[simp] theorem InSyncWithL1_eq_true (s : StateTracker) :
    s.InSyncWithL1 = true ↔ s.status = .Live ∨ s.status = .L2Catchup := by
  simp [InSyncWithL1]

/-- A consistent status says what `StatusSound` asks: the host heads that `calculateStatus`
saw do not enter any of it. -/
theorem Consistent.statusSound {s : StateTracker} {heads : Option (Hash × Option Int)}
    (h : Consistent s heads) : StatusSound s := by
  rcases h with hdisconnected | ⟨hostL1Head, hostL2Head, -, hcalc⟩
  · constructor <;> simp [hdisconnected]
  · -- every field the conclusions read is one `withHostHeads` keeps
    have hfields : (s.withHostHeads hostL1Head hostL2Head).enclaveStatusCode = s.enclaveStatusCode ∧
        (s.withHostHeads hostL1Head hostL2Head).enclaveL1Head = s.enclaveL1Head ∧
        (s.withHostHeads hostL1Head hostL2Head).enclaveL2Head = s.enclaveL2Head :=
      ⟨rfl, rfl, rfl⟩
    refine ⟨fun hlive => ?_, fun hcatchup => ?_, fun hsync => ?_⟩
    · rw [hlive] at hcalc
      rw [← hfields.1, ← hfields.2.1, ← hfields.2.2]
      exact ⟨calculateStatus_running (by simp [← hcalc]),
        calculateStatus_l1Head (.inl hcalc.symm), calculateStatus_live hcalc.symm⟩
    · rw [hcalc] at hcatchup
      rw [← hfields.1]
      exact calculateStatus_running (by rcases hcatchup with h | h <;> simp [h])
    · rw [InSyncWithL1_eq_true, hcalc] at hsync
      rw [← hfields.2.1]
      exact calculateStatus_l1Head hsync

/-- A call that recalculates leaves a tracker consistent with its own host heads. -/
theorem consistent_setStatus_calculateStatus (s : StateTracker) :
    Consistent (s.setStatus s.calculateStatus)
      (some ((s.setStatus s.calculateStatus).hostL1Head,
        (s.setStatus s.calculateStatus).hostL2Head)) :=
  .inr ⟨s.hostL1Head, s.hostL2Head, by simp, by simp [withHostHeads]⟩

/-- Moving the host heads keeps the status consistent with the heads it was calculated on. -/
theorem Consistent.withHostHeads {s : StateTracker} {heads : Option (Hash × Option Int)}
    (h : Consistent s heads) (a : Hash) (b : Option Int) :
    Consistent (s.withHostHeads a b) heads := by
  rcases h with hdisconnected | ⟨hostL1Head, hostL2Head, hheads, hcalc⟩
  · exact .inl hdisconnected
  · exact .inr ⟨hostL1Head, hostL2Head, hheads, hcalc⟩

end StateTracker

open StateTracker

/-- The four calls that recalculate the status. -/
def Call.recalculates : Call → Bool
  | .OnProcessedBlock _ | .OnProcessedBatch _ | .OnSecretProvided | .OnEnclaveStatus _ => true
  | .OnReceivedBlock _ | .OnReceivedBatch _ | .OnDisconnected => false

/-- The record of the last recalculation after a call: the host heads its `calculateStatus`
read, those it leaves in the tracker, or the record as it was. -/
def Call.heads (c : Call) (s : StateTracker) (heads : Option (Hash × Option Int)) :
    Option (Hash × Option Int) :=
  if c.recalculates then some ((step s c).hostL1Head, (step s c).hostL2Head) else heads

/-- The host heads of the last recalculating call of a run, `none` before any. -/
def lastHeads (s : StateTracker) (heads : Option (Hash × Option Int)) :
    List Call → Option (Hash × Option Int)
  | [] => heads
  | c :: calls => lastHeads (step s c) (c.heads s heads) calls

theorem consistent_NewStateTracker : Consistent NewStateTracker none := .inl rfl

/-- Every call keeps the status consistent with the record of the last recalculation: four
recalculate, two move only the host heads, and `OnDisconnected` sets `Disconnected`. -/
theorem step_consistent {s : StateTracker} {heads : Option (Hash × Option Int)} (c : Call)
    (h : Consistent s heads) : Consistent (step s c) (c.heads s heads) := by
  cases c with
  | OnProcessedBlock enclL1Head => exact consistent_setStatus_calculateStatus _
  | OnReceivedBlock l1Head => exact h.withHostHeads l1Head s.hostL2Head
  | OnProcessedBatch enclL2HeadSeqNo => exact consistent_setStatus_calculateStatus _
  | OnReceivedBatch l2HeadSeqNo => exact h.withHostHeads s.hostL1Head l2HeadSeqNo
  | OnSecretProvided => exact consistent_setStatus_calculateStatus _
  | OnEnclaveStatus es => exact consistent_setStatus_calculateStatus _
  | OnDisconnected => exact .inl (by simp [step, OnDisconnected])

theorem run_consistent_of {s : StateTracker} {heads : Option (Hash × Option Int)}
    (h : Consistent s heads) : ∀ calls, Consistent (run s calls) (lastHeads s heads calls)
  | [] => h
  | c :: calls => run_consistent_of (step_consistent c h) calls

/-- The sequence numbers a call passes in are not negative. -/
def Call.SeqNoNonneg : Call → Prop
  | .OnProcessedBatch enclL2HeadSeqNo => 0 ≤ enclL2HeadSeqNo
  | .OnReceivedBatch l2HeadSeqNo => ∀ n ∈ l2HeadSeqNo, 0 ≤ n
  | .OnEnclaveStatus es => ∀ n ∈ es.L2Head, 0 ≤ n
  | _ => True

instance : DecidablePred Call.SeqNoNonneg := fun c =>
  match c with
  | .OnProcessedBlock _ => isTrue trivial
  | .OnReceivedBlock _ => isTrue trivial
  | .OnProcessedBatch enclL2HeadSeqNo => inferInstanceAs (Decidable (0 ≤ enclL2HeadSeqNo))
  | .OnReceivedBatch l2HeadSeqNo => inferInstanceAs (Decidable (∀ n ∈ l2HeadSeqNo, 0 ≤ n))
  | .OnSecretProvided => isTrue trivial
  | .OnEnclaveStatus es => inferInstanceAs (Decidable (∀ n ∈ es.L2Head, 0 ≤ n))
  | .OnDisconnected => isTrue trivial

/-- A call that passes no negative sequence number leaves the enclave's L2 head non-negative:
only `OnProcessedBatch` and `OnEnclaveStatus` set it, to a number the call passed in. -/
theorem step_enclaveL2Head_nonneg {s : StateTracker} (c : Call) (hc : c.SeqNoNonneg)
    (h : ∀ n ∈ s.enclaveL2Head, 0 ≤ n) : ∀ n ∈ (step s c).enclaveL2Head, 0 ≤ n := by
  cases c with
  | OnProcessedBatch enclL2HeadSeqNo => simpa [step, OnProcessedBatch, Call.SeqNoNonneg] using hc
  | OnEnclaveStatus es => simpa [step, OnEnclaveStatus, Call.SeqNoNonneg] using hc
  | OnSecretProvided =>
    simp only [step, OnSecretProvided, setStatus_eq]
    split <;> exact h
  | OnProcessedBlock _ | OnReceivedBlock _ | OnReceivedBatch _ | OnDisconnected =>
    simpa [step, OnProcessedBlock, OnReceivedBlock, OnReceivedBatch, OnDisconnected] using h

theorem run_enclaveL2Head_nonneg {s : StateTracker} (h : ∀ n ∈ s.enclaveL2Head, 0 ≤ n) :
    ∀ calls : List Call, (∀ c ∈ calls, c.SeqNoNonneg) →
      ∀ n ∈ (run s calls).enclaveL2Head, 0 ≤ n
  | [], _ => h
  | c :: calls, hcalls =>
    run_enclaveL2Head_nonneg
      (step_enclaveL2Head_nonneg c (hcalls c List.mem_cons_self) h) calls
      (fun c' hc' => hcalls c' (.tail _ hc'))

/-- **The status of every run.** From `NewStateTracker`, after any calls the status is
`Disconnected` or what `calculateStatus` gives on the enclave fields and on the host heads of
the last recalculating call. So `Live` means a running enclave with an L1 head and an L2 head
that is neither nil nor 0, a catch-up status a running enclave, and being in sync with L1 an
enclave L1 head. The L2 head under `Live` is positive when no call passed a negative sequence
number. -/
theorem run_statusSound (calls : List Call) :
    Consistent (run NewStateTracker calls) (lastHeads NewStateTracker none calls) ∧
      StatusSound (run NewStateTracker calls) ∧
      ((∀ c ∈ calls, c.SeqNoNonneg) → (run NewStateTracker calls).status = .Live →
        ∃ n, (run NewStateTracker calls).enclaveL2Head = some n ∧ 0 < n) := by
  have hconsistent := run_consistent_of consistent_NewStateTracker calls
  refine ⟨hconsistent, hconsistent.statusSound, fun hnonneg hlive => ?_⟩
  obtain ⟨-, -, n, hn, hne⟩ := hconsistent.statusSound.live hlive
  have hle : 0 ≤ n :=
    run_enclaveL2Head_nonneg (by simp [NewStateTracker]) calls hnonneg n hn
  exact ⟨n, hn, by omega⟩

/-- A sequence number of -1, processed once the host and the enclave agree on an L1 head,
makes the tracker `Live` with an enclave L2 head of -1. -/
theorem run_live_negativeL2Head :
    (run NewStateTracker [.OnReceivedBlock 1, .OnProcessedBlock 1, .OnProcessedBatch (-1)]).status
        = .Live ∧
      (run NewStateTracker
        [.OnReceivedBlock 1, .OnProcessedBlock 1, .OnProcessedBatch (-1)]).enclaveL2Head
        = some (-1) := by
  decide

end Obscuro.HostEnclave
