import Obscuro.Common.GethEncoding
import Obscuro.Lib.BinarySearch

/-!
# Gas estimation

`enclaveImpl.DoEstimateGas` of `go/enclave/enclave.go`, copied from go-ethereum: it computes an
upper bound `cap` for the gas (the call's own gas limit, else `GlobalGasCap`, lowered to what
the sender's balance pays for and to the caller's `gasCap`), then bisects between
`TxGas - 1` and `cap` with `isGasEnough`, which runs the call with that much gas, and finally
runs it at `cap` if the upper bound never moved.

The bounds are `uint64` and the midpoint is `(hi + lo) / 2`, which wraps when `hi + lo` does.
The loop is modelled with fuel, one unit an iteration, each iteration one call of
`isGasEnough`; `none` is the fuel running out.

## Results

* `estimateLoop_eq_bisect` — below `2^63` the loop is the bisection of
  `Obscuro/Lib/BinarySearch.lean`;
* `DoEstimateGas_least` — with an antitone test that fails below `TxGas` and returns no
  consensus error, and a `cap` of at most `2^63`, the estimate is the least gas at which the
  call passes, or an error when `cap` does not suffice, after at most
  `Nat.clog 2 (cap + 1 - TxGas)` iterations and one more call;
* `DoEstimateGas_maxGas_reverting` — with a `cap` of `2^64 - 1` the midpoint wraps, and for a
  call that always fails the loop never ends.
-/

namespace Obscuro.GasEstimation

open GethEncoding (TransactionArgs)
open BinarySearch (bisect)

/-- `params.TxGas`: the intrinsic gas of a transaction. -/
def TxGas : Nat := 21000

/-- The errors of an EVM run that `DoEstimateGas` tells apart. -/
inductive VmError where
  | ErrOutOfGas
  | ErrExecutionReverted
  | other (msg : String)

def VmError.Error : VmError → String
  | .ErrOutOfGas => "out of gas"
  | .ErrExecutionReverted => "execution reverted"
  | .other msg => msg

/-- `core.ExecutionResult`: the run's error, `nil` for a success, and its return data. -/
structure ExecutionResult where
  Err : Option VmError
  ReturnData : Bytes

def ExecutionResult.Failed (result : ExecutionResult) : Bool := result.Err.isSome

/-- `result.Revert()`: the return data of a reverted run. -/
def ExecutionResult.Revert (result : ExecutionResult) : Bytes :=
  match result.Err with
  | some .ErrExecutionReverted => result.ReturnData
  | _ => []

/-- The errors of `ObsCallAtBlock`: `ErrIntrinsicGas`, or any other. -/
inductive CallError where
  | ErrIntrinsicGas
  | other (err : String)

/-- `args.From == nil`: the zero address. -/
def withDefaultFrom (args : TransactionArgs) : TransactionArgs :=
  { args with From := some (args.From.getD 0) }

section Estimate

variable (GlobalGasCap : UInt64) (GetBalanceAtBlock : Address → Except String Nat)
  (ObsCallAtBlock : TransactionArgs → Except CallError ExecutionResult)
  (UnpackRevert : Bytes → Except String String)

/-- The upper bound of the search: the call's gas limit, or `GlobalGasCap` when it has none of
at least `TxGas`, lowered to the gas the sender's balance pays for at the fee cap, and to the
caller's `gasCap`. -/
def estimateCap (args : TransactionArgs) (gasCap : UInt64) : Except String UInt64 := do
  let hi := match args.Gas with
    | some gas => if gas.toNat ≥ TxGas then gas else GlobalGasCap
    | none => GlobalGasCap
  let feeCap ← if args.GasPrice.isSome && (args.MaxFeePerGas.isSome || args.MaxPriorityFeePerGas.isSome)
    then .error "both gasPrice and (maxFeePerGas or maxPriorityFeePerGas) specified"
    else pure (args.GasPrice.getD (args.MaxFeePerGas.getD 0))
  -- `feeCap.BitLen() != 0`
  let hi ← if feeCap ≠ 0 then do
      let balance ← (GetBalanceAtBlock (args.From.getD 0)).mapError fun err =>
        "unable to fetch account balance - " ++ err
      let available ← match args.Value with
        | some value =>
          if value ≥ balance then .error "insufficient funds for transfer" else pure (balance - value)
        | none => pure balance
      let allowance := available / feeCap
      pure (if allowance < 2 ^ 64 ∧ hi.toNat > allowance then UInt64.ofNat allowance else hi)
    else pure hi
  pure (if gasCap ≠ 0 ∧ hi > gasCap then gasCap else hi)

/-- `isGasEnough(args, gas, blkNumber)`: whether the call fails with that much gas, and its
result. Too little intrinsic gas counts as a failure; any other error of the call is a consensus
error. The source writes the gas into the caller's `args`; the bound is computed before, so only
the call sees it. -/
def isGasEnough (args : TransactionArgs) (gas : UInt64) :
    Except String (Bool × Option ExecutionResult) :=
  match ObsCallAtBlock { args with Gas := some gas } with
  | .error .ErrIntrinsicGas => .ok (true, none)
  | .error (.other err) => .error err
  | .ok result => .ok (result.Failed, some result)

/-- The bisection loop, `for lo+1 < hi`, in `uint64`: the upper bound when it ends. -/
def estimateLoop (args : TransactionArgs) (fuel : Nat) (lo hi : UInt64) :
    Option (Except String UInt64) :=
  if lo + 1 < hi then
    match fuel with
    | 0 => none
    | fuel + 1 =>
      let mid := (hi + lo) / 2
      match isGasEnough ObsCallAtBlock args mid with
      | .error err => some (.error err)
      | .ok (failed, _) =>
        if failed then estimateLoop args fuel mid hi else estimateLoop args fuel lo mid
  else some (.ok hi)

theorem estimateLoop_of_not_lt (args : TransactionArgs) {fuel : Nat} {lo hi : UInt64}
    (h : ¬lo + 1 < hi) : estimateLoop ObsCallAtBlock args fuel lo hi = some (.ok hi) := by
  unfold estimateLoop
  rw [if_neg h]

theorem estimateLoop_succ_of_lt (args : TransactionArgs) {fuel : Nat} {lo hi : UInt64}
    (h : lo + 1 < hi) :
    estimateLoop ObsCallAtBlock args (fuel + 1) lo hi =
      match isGasEnough ObsCallAtBlock args ((hi + lo) / 2) with
      | .error err => some (.error err)
      | .ok (failed, _) =>
        if failed then estimateLoop ObsCallAtBlock args fuel ((hi + lo) / 2) hi
        else estimateLoop ObsCallAtBlock args fuel lo ((hi + lo) / 2) := by
  rw [estimateLoop, if_pos h]

/-- `newRevertError(result)`: the message, with the revert reason when it unpacks. -/
def newRevertError (result : ExecutionResult) : String :=
  match UnpackRevert result.Revert with
  | .ok reason => "execution reverted: " ++ reason
  | .error _ => "execution reverted"

/-- What `DoEstimateGas` returns when the call fails at `cap`: the revert, the run's error,
or the cap as too low. A result with no error is returned as the estimate `0`, as Go's
`return 0, result.Err` does. -/
def failedAtCap (cap : UInt64) (result : Option ExecutionResult) : Except String UInt64 :=
  match result with
  | some result =>
    match result.Err with
    | some .ErrOutOfGas => .error ("gas required exceeds allowance (" ++ toString cap.toNat ++ ")")
    | some err =>
      if result.Revert.length > 0 then .error (newRevertError UnpackRevert result)
      else .error err.Error
    | none => .ok 0
  | none => .error ("gas required exceeds allowance (" ++ toString cap.toNat ++ ")")

/-- `enclaveImpl.DoEstimateGas(args, blkNumber, gasCap)`, with `fuel` iterations of the loop. -/
def DoEstimateGas (fuel : Nat) (args : TransactionArgs) (gasCap : UInt64) :
    Option (Except String UInt64) :=
  let args := withDefaultFrom args
  match estimateCap GlobalGasCap GetBalanceAtBlock args gasCap with
  | .error err => some (.error err)
  | .ok cap =>
    match estimateLoop ObsCallAtBlock args fuel (UInt64.ofNat (TxGas - 1)) cap with
    | none => none
    | some (.error err) => some (.error err)
    | some (.ok hi) =>
      -- the call is run at `cap` only if the upper bound never moved
      if hi = cap then
        match isGasEnough ObsCallAtBlock args hi with
        | .error err => some (.error err)
        | .ok (false, _) => some (.ok hi)
        | .ok (true, result) => some (failedAtCap UnpackRevert cap result)
      else some (.ok hi)

end Estimate

-- ---------------------------------------------------------------------------
-- The loop is the bisection
-- ---------------------------------------------------------------------------

section Bisect

variable (ObsCallAtBlock : TransactionArgs → Except CallError ExecutionResult)
  (UnpackRevert : Bytes → Except String String)
  (args : TransactionArgs) (failed : UInt64 → Bool)

/-- The test on gas amounts as numbers: beyond `uint64` everything passes. -/
def failedNat (n : Nat) : Bool := if n < 2 ^ 64 then failed (UInt64.ofNat n) else false

/-- A test antitone on `uint64` is antitone on the numbers. -/
theorem antitone_failedNat (hanti : ∀ g g' : UInt64, g ≤ g' → failed g = false → failed g' = false) :
    Antitone (failedNat failed) := by
  intro m n hle
  unfold failedNat
  by_cases hn : n < 2 ^ 64
  · have hm : m < 2 ^ 64 := by omega
    rw [if_pos hn, if_pos hm]
    cases hfm : failed (UInt64.ofNat m) with
    | true => exact Bool.le_true _
    | false =>
      have hle' : UInt64.ofNat m ≤ UInt64.ofNat n := by
        rw [UInt64.le_iff_toNat_le, UInt64.toNat_ofNat_of_lt' hm, UInt64.toNat_ofNat_of_lt' hn]
        exact hle
      rw [hanti _ _ hle' hfm]
  · rw [if_neg hn]
    exact Bool.false_le _

/-- A call that returns a failure has an error. -/
theorem isGasEnough_failed {gas : UInt64} {result : ExecutionResult}
    (h : isGasEnough ObsCallAtBlock args gas = .ok (true, some result)) : result.Err.isSome := by
  unfold isGasEnough at h
  split at h
  · cases h
  · cases h
  · simp only [Except.ok.injEq, Prod.mk.injEq, Option.some.injEq] at h
    obtain ⟨hfailed, rfl⟩ := h
    exact hfailed

/-- A test that gives `failed` at every amount. -/
theorem isGasEnough_eq (hgas : ∀ g, (isGasEnough ObsCallAtBlock args g).map Prod.fst = .ok (failed g))
    (gas : UInt64) : ∃ result, isGasEnough ObsCallAtBlock args gas = .ok (failed gas, result) := by
  obtain ⟨⟨f, result⟩, hcall, hf⟩ := Except.map_eq_ok.mp (hgas gas)
  cases hf
  exact ⟨result, hcall⟩

/-- **The loop is the bisection.** While the bounds stay at most `2^63`, `hi + lo` does not wrap,
and the `uint64` loop runs the bisection of the numbers. The induction is on the fuel. -/
theorem estimateLoop_eq_bisect
    (hgas : ∀ g, (isGasEnough ObsCallAtBlock args g).map Prod.fst = .ok (failed g)) :
    ∀ (fuel : Nat) (lo hi : UInt64), lo.toNat < 2 ^ 63 → hi.toNat ≤ 2 ^ 63 →
      estimateLoop ObsCallAtBlock args fuel lo hi =
        (bisect (failedNat failed) fuel lo.toNat hi.toNat).map fun bounds => .ok (UInt64.ofNat bounds.2)
  | fuel, lo, hi, hlo, hhi => by
    -- the loop condition and the midpoint do not wrap
    have hcond : (lo + 1 < hi) ↔ lo.toNat + 1 < hi.toNat := by
      rw [UInt64.lt_iff_toNat_lt, UInt64.toNat_add, UInt64.toNat_one, Nat.mod_eq_of_lt (by omega)]
    have hmid : ((hi + lo) / 2).toNat = (hi.toNat + lo.toNat) / 2 := by
      rw [UInt64.toNat_div, UInt64.toNat_add, Nat.mod_eq_of_lt (by omega)]
      rfl
    have hmidlt : (hi.toNat + lo.toNat) / 2 < 2 ^ 64 := by omega
    by_cases hlt : lo + 1 < hi
    · have hlt' := hcond.mp hlt
      cases fuel with
      | zero => simp [estimateLoop, bisect, hlt, hlt']
      | succ fuel =>
        obtain ⟨result, hcall⟩ := isGasEnough_eq ObsCallAtBlock args failed hgas ((hi + lo) / 2)
        have htest : failedNat failed ((hi.toNat + lo.toNat) / 2) = failed ((hi + lo) / 2) := by
          rw [failedNat, if_pos hmidlt, ← hmid, UInt64.ofNat_toNat]
        rw [estimateLoop_succ_of_lt ObsCallAtBlock args hlt, BinarySearch.bisect_succ_of_lt _ hlt']
        simp only [hcall, htest]
        split
        · -- the midpoint fails: the lower bound moves up
          rw [estimateLoop_eq_bisect hgas fuel _ hi (by omega) hhi, hmid]
        · -- the midpoint passes: the upper bound moves down
          rw [estimateLoop_eq_bisect hgas fuel lo _ hlo (by omega), hmid]
    · rw [estimateLoop_of_not_lt ObsCallAtBlock args hlt,
        BinarySearch.bisect_of_not_lt _ (mt hcond.mpr hlt)]
      simp

end Bisect

-- ---------------------------------------------------------------------------
-- The estimate is the least sufficient gas
-- ---------------------------------------------------------------------------

section Least

variable (GlobalGasCap : UInt64) (GetBalanceAtBlock : Address → Except String Nat)
  (ObsCallAtBlock : TransactionArgs → Except CallError ExecutionResult)
  (UnpackRevert : Bytes → Except String String)
  {args : TransactionArgs} {failed : UInt64 → Bool}

theorem failedNat_toNat (g : UInt64) : failedNat failed g.toNat = failed g := by
  rw [failedNat, if_pos g.toNat_lt, UInt64.ofNat_toNat]

/-- The open lower bound `TxGas - 1` of the search fails. -/
theorem failedNat_TxGas (hintrinsic : ∀ g : UInt64, g.toNat < TxGas → failed g = true) :
    failedNat failed (TxGas - 1) = true := by
  have hlt : TxGas - 1 < 2 ^ 64 := by decide
  rw [failedNat, if_pos hlt]
  exact hintrinsic _ (by rw [UInt64.toNat_ofNat_of_lt' hlt]; decide)

/-- The least passing number, below `2^64`, is the least passing gas. -/
theorem isLeast_ofNat {n : Nat} (hleast : IsLeast {n | failedNat failed n = false} n)
    (hlt : n < 2 ^ 64) : IsLeast {g : UInt64 | failed g = false} (UInt64.ofNat n) := by
  have hn : (UInt64.ofNat n).toNat = n := UInt64.toNat_ofNat_of_lt' (by rw [UInt64.size]; omega)
  refine ⟨?_, fun g hg => ?_⟩
  · have hfn : failedNat failed (UInt64.ofNat n).toNat = failed (UInt64.ofNat n) :=
      failedNat_toNat _
    show failed (UInt64.ofNat n) = false
    rw [← hfn, hn]
    exact hleast.1
  · -- every passing gas is at least the least passing number
    have hg' : n ≤ g.toNat := hleast.2 (show failedNat failed g.toNat = false by
      rw [failedNat_toNat]; exact hg)
    rw [UInt64.le_iff_toNat_le, hn]
    exact hg'

/-- **The loop ends.** From `TxGas - 1` to a cap of at most `2^63`, with fuel for
`Nat.clog 2 (cap + 1 - TxGas)` iterations, the loop returns the upper bound of the bisection. -/
theorem estimateLoop_from_TxGas
    (hgas : ∀ g, (isGasEnough ObsCallAtBlock args g).map Prod.fst = .ok (failed g))
    {cap : UInt64} (hbound : cap.toNat ≤ 2 ^ 63) {fuel : Nat}
    (hfuel : Nat.clog 2 (cap.toNat + 1 - TxGas) ≤ fuel) :
    ∃ lo' hi', bisect (failedNat failed) fuel (TxGas - 1) cap.toNat = some (lo', hi') ∧
      estimateLoop ObsCallAtBlock args fuel (UInt64.ofNat (TxGas - 1)) cap =
        some (.ok (UInt64.ofNat hi')) := by
  have hlo : (UInt64.ofNat (TxGas - 1)).toNat = TxGas - 1 := by decide
  have hfuel' : Nat.clog 2 (cap.toNat - (TxGas - 1)) ≤ fuel := by
    have hsub : cap.toNat - (TxGas - 1) = cap.toNat + 1 - TxGas := by unfold TxGas; omega
    rwa [hsub]
  obtain ⟨⟨lo', hi'⟩, hrun⟩ := Option.isSome_iff_exists.mp
    (BinarySearch.bisect_isSome (failedNat failed) hfuel')
  refine ⟨lo', hi', hrun, ?_⟩
  rw [estimateLoop_eq_bisect ObsCallAtBlock args failed hgas fuel _ _ (by rw [hlo]; decide) hbound,
    hlo, hrun]
  rfl

/-- When the cap fails, the bisection ends on the cap: either the bounds start adjacent, or no
value below the cap passes. -/
theorem bisect_eq_cap_of_failed (hanti : Antitone (failedNat failed))
    (hintrinsic : ∀ g : UInt64, g.toNat < TxGas → failed g = true) {fuel lo' hi' : Nat}
    {cap : UInt64} (hrun : bisect (failedNat failed) fuel (TxGas - 1) cap.toNat = some (lo', hi'))
    (hfail : failed cap = true) : hi' = cap.toNat := by
  by_cases hlt : TxGas - 1 < cap.toNat
  · exact BinarySearch.bisect_of_failed _ hanti hrun hlt (failedNat_TxGas hintrinsic)
      (by rw [failedNat_toNat]; exact hfail)
  · rw [BinarySearch.bisect_of_not_lt _ (by omega)] at hrun
    cases hrun
    rfl

/-- A failure at the cap is reported as an error: a failed run has an error. -/
theorem failedAtCap_isError (cap : UInt64) {result : Option ExecutionResult}
    (h : ∀ r, result = some r → r.Err.isSome) :
    ∃ err, failedAtCap UnpackRevert cap result = .error err := by
  unfold failedAtCap
  split
  · next r =>
    have hErr := h r rfl
    split
    · exact ⟨_, rfl⟩
    · split
      · exact ⟨_, rfl⟩
      · exact ⟨_, rfl⟩
    · next hnone => simp [hnone] at hErr
  · exact ⟨_, rfl⟩

/-- Past the bound and the loop, the call is run at the cap only if the upper bound never
moved. -/
theorem DoEstimateGas_of_loop {gasCap cap hi : UInt64} {fuel : Nat}
    (hcap : estimateCap GlobalGasCap GetBalanceAtBlock (withDefaultFrom args) gasCap = .ok cap)
    (hloop : estimateLoop ObsCallAtBlock (withDefaultFrom args) fuel (UInt64.ofNat (TxGas - 1)) cap =
      some (.ok hi)) :
    DoEstimateGas GlobalGasCap GetBalanceAtBlock ObsCallAtBlock UnpackRevert fuel args gasCap =
      if hi = cap then
        match isGasEnough ObsCallAtBlock (withDefaultFrom args) hi with
        | .error err => some (.error err)
        | .ok (false, _) => some (.ok hi)
        | .ok (true, result) => some (failedAtCap UnpackRevert cap result)
      else some (.ok hi) := by
  simp only [DoEstimateGas, hcap, hloop]

/-- **The estimate is the least sufficient gas.** For a call whose failure is antitone in the gas,
certain below `TxGas` and never a consensus error, and a cap of at most `2^63`, with fuel for
`Nat.clog 2 (cap + 1 - TxGas)` iterations of the loop (one call each) and the one call at the
cap: when the call passes at the cap, the estimate is the least gas at which it passes; when it
fails at the cap, the estimate is an error. -/
theorem DoEstimateGas_least {gasCap cap : UInt64}
    (hcap : estimateCap GlobalGasCap GetBalanceAtBlock (withDefaultFrom args) gasCap = .ok cap)
    (hbound : cap.toNat ≤ 2 ^ 63)
    (hgas : ∀ g, (isGasEnough ObsCallAtBlock (withDefaultFrom args) g).map Prod.fst = .ok (failed g))
    (hanti : ∀ g g' : UInt64, g ≤ g' → failed g = false → failed g' = false)
    (hintrinsic : ∀ g : UInt64, g.toNat < TxGas → failed g = true)
    {fuel : Nat} (hfuel : Nat.clog 2 (cap.toNat + 1 - TxGas) ≤ fuel) :
    (failed cap = false → ∃ g,
      DoEstimateGas GlobalGasCap GetBalanceAtBlock ObsCallAtBlock UnpackRevert fuel args gasCap =
        some (.ok g) ∧ IsLeast {g : UInt64 | failed g = false} g) ∧
    (failed cap = true → ∃ err,
      DoEstimateGas GlobalGasCap GetBalanceAtBlock ObsCallAtBlock UnpackRevert fuel args gasCap =
        some (.error err)) := by
  have hantiN := antitone_failedNat failed hanti
  obtain ⟨lo', hi', hrun, hloop⟩ := estimateLoop_from_TxGas ObsCallAtBlock hgas hbound hfuel
  have hrun' := DoEstimateGas_of_loop GlobalGasCap GetBalanceAtBlock ObsCallAtBlock UnpackRevert
    hcap hloop
  constructor
  · intro hpass
    -- the cap passes, so the search starts on bounds that are not adjacent
    have hlt : TxGas - 1 < cap.toNat := by
      by_contra hle
      have := hintrinsic cap (by unfold TxGas at hle ⊢; omega)
      rw [hpass] at this
      exact absurd this (by decide)
    have hleast := BinarySearch.bisect_isLeast _ hantiN hrun hlt (failedNat_TxGas hintrinsic)
      (by rw [failedNat_toNat]; exact hpass)
    have hle : hi' ≤ cap.toNat := hleast.2 (show failedNat failed cap.toNat = false by
      rw [failedNat_toNat]; exact hpass)
    have hleast' := isLeast_ofNat hleast (by omega)
    refine ⟨UInt64.ofNat hi', ?_, hleast'⟩
    rw [hrun']
    split
    · -- the bound never moved: the call at the cap passes
      obtain ⟨result, hcall⟩ := isGasEnough_eq ObsCallAtBlock _ failed hgas (UInt64.ofNat hi')
      rw [hcall, hleast'.1]
    · rfl
  · intro hfail
    have hcapEq : hi' = cap.toNat := bisect_eq_cap_of_failed hantiN hintrinsic hrun hfail
    have hcap' : UInt64.ofNat hi' = cap := by rw [hcapEq, UInt64.ofNat_toNat]
    obtain ⟨result, hcall⟩ := isGasEnough_eq ObsCallAtBlock _ failed hgas cap
    rw [hrun', if_pos hcap', hcap', hcall, hfail]
    -- a failed run at the cap carries an error
    have hres : ∀ r, result = some r → r.Err.isSome := fun r hr =>
      isGasEnough_failed ObsCallAtBlock (withDefaultFrom args)
        (show isGasEnough ObsCallAtBlock (withDefaultFrom args) cap = .ok (true, some r) by
          rw [hcall, hfail, hr])
    obtain ⟨err, herr⟩ := failedAtCap_isError UnpackRevert cap hres
    exact ⟨err, by dsimp only; rw [herr]⟩

/-- A call that needs `30000` gas: out of gas below, a success from there. -/
def cxThresholdCall (args : TransactionArgs) : Except CallError ExecutionResult :=
  match args.Gas with
  | some gas =>
    if gas.toNat < TxGas then .error .ErrIntrinsicGas
    else if gas.toNat < 30000 then .ok ⟨some .ErrOutOfGas, []⟩
    else .ok ⟨none, []⟩
  | none => .error .ErrIntrinsicGas

/-- A call request that sets nothing. -/
def cxEmptyArgs : TransactionArgs :=
  ⟨none, none, none, none, none, none, none, none, none⟩

theorem DoEstimateGas_least_threshold :
    ∃ g, DoEstimateGas 5000000000 (fun _ => .ok 0) cxThresholdCall (fun _ => .error "")
        (Nat.clog 2 ((5000000000 : UInt64).toNat + 1 - TxGas)) cxEmptyArgs 5000000000 =
      some (.ok g) ∧ IsLeast {g : UInt64 | decide (g.toNat < 30000) = false} g :=
  (@DoEstimateGas_least 5000000000 (fun _ => .ok 0) cxThresholdCall (fun _ => .error "")
    cxEmptyArgs (fun g => decide (g.toNat < 30000)) 5000000000 5000000000 rfl (by decide)
    (by
      intro g
      simp only [isGasEnough, cxThresholdCall]
      split_ifs with hintr hout
      · -- below the intrinsic gas
        have hout : g.toNat < 30000 := by unfold TxGas at hintr; omega
        simp [Except.map, hout]
      · simp [Except.map, ExecutionResult.Failed, hout]
      · simp [Except.map, ExecutionResult.Failed, hout])
    (by
      intro g g' hle hpass
      rw [UInt64.le_iff_toNat_le] at hle
      simp only [decide_eq_false_iff_not] at hpass ⊢
      omega)
    (by
      intro g hg
      simp only [decide_eq_true_eq]
      unfold TxGas at hg
      omega)
    _ le_rfl).1 (by decide)

end Least

-- ---------------------------------------------------------------------------
-- Above 2^63 the midpoint wraps
-- ---------------------------------------------------------------------------

section Wrap

variable (ObsCallAtBlock : TransactionArgs → Except CallError ExecutionResult)
  (args : TransactionArgs)

/-- **The loop does not end at the top.** With the upper bound at `2^64 - 1` and a call that
fails at every gas, `hi + lo` wraps, the midpoint falls below `2^63`, and the lower bound
moves there while the upper bound stays: the loop runs out of any fuel. The induction is on the
fuel, with the lower bound below `2^63`. -/
theorem estimateLoop_wraps
    (hfail : ∀ g, ∃ result, isGasEnough ObsCallAtBlock args g = .ok (true, result)) :
    ∀ (fuel : Nat) (lo : UInt64), lo.toNat < 2 ^ 63 →
      estimateLoop ObsCallAtBlock args fuel lo (UInt64.ofNat (2 ^ 64 - 1)) = none
  | fuel, lo, hlo => by
    have htop : (UInt64.ofNat (2 ^ 64 - 1)).toNat = 2 ^ 64 - 1 := by decide
    have hlt : lo + 1 < UInt64.ofNat (2 ^ 64 - 1) := by
      rw [UInt64.lt_iff_toNat_lt, UInt64.toNat_add, UInt64.toNat_one, htop,
        Nat.mod_eq_of_lt (by omega)]
      omega
    cases fuel with
    | zero =>
      unfold estimateLoop
      rw [if_pos hlt]
    | succ fuel =>
      -- the sum wraps: the midpoint is `(lo - 1) / 2`, or `2^63 - 1` from `lo = 0`
      have hmid : ((UInt64.ofNat (2 ^ 64 - 1) + lo) / 2).toNat < 2 ^ 63 := by
        have htwo : (2 : UInt64).toNat = 2 := rfl
        rw [UInt64.toNat_div, UInt64.toNat_add, htop, htwo]
        by_cases hzero : lo.toNat = 0
        · rw [hzero]
          decide
        · have hsum : (2 ^ 64 - 1 + lo.toNat) % 2 ^ 64 = lo.toNat - 1 := by
            rw [Nat.mod_eq_sub_mod (by omega), Nat.mod_eq_of_lt (by omega)]
            omega
          rw [hsum]
          omega
      obtain ⟨result, hcall⟩ := hfail ((UInt64.ofNat (2 ^ 64 - 1) + lo) / 2)
      rw [estimateLoop_succ_of_lt ObsCallAtBlock args hlt, hcall]
      exact estimateLoop_wraps hfail fuel _ hmid

end Wrap

/-- A call that reverts at every gas from `TxGas`. -/
def cxRevertingCall (args : TransactionArgs) : Except CallError ExecutionResult :=
  match args.Gas with
  | some gas =>
    if gas.toNat < TxGas then .error .ErrIntrinsicGas else .ok ⟨some .ErrExecutionReverted, []⟩
  | none => .error .ErrIntrinsicGas

/-- A call request with the largest gas limit and nothing else. -/
def cxMaxGasArgs : TransactionArgs :=
  ⟨none, none, some (UInt64.ofNat (2 ^ 64 - 1)), none, none, none, none, none, none⟩

/-- The call fails at every gas, which is antitone, certain below `TxGas` and no consensus error;
yet with the largest gas limit and no `gasCap` the estimate never returns, whatever the global
cap, the balances and the revert decoder. -/
theorem DoEstimateGas_maxGas_reverting (GlobalGasCap : UInt64)
    (GetBalanceAtBlock : Address → Except String Nat) (UnpackRevert : Bytes → Except String String) :
    (∀ args g, (isGasEnough cxRevertingCall args g).map Prod.fst = .ok true) ∧
    ∀ fuel, DoEstimateGas GlobalGasCap GetBalanceAtBlock cxRevertingCall UnpackRevert fuel
      cxMaxGasArgs 0 = none := by
  have hfail : ∀ args g, ∃ result, isGasEnough cxRevertingCall args g = .ok (true, result) := by
    intro args g
    simp only [isGasEnough, cxRevertingCall]
    split_ifs
    · exact ⟨none, rfl⟩
    · exact ⟨_, rfl⟩
  refine ⟨fun args g => ?_, fun fuel => ?_⟩
  · obtain ⟨result, hcall⟩ := hfail args g
    rw [hcall]
    rfl
  · -- the cap is the call's own gas limit
    have hcap : estimateCap GlobalGasCap GetBalanceAtBlock (withDefaultFrom cxMaxGasArgs) 0 =
        .ok (UInt64.ofNat (2 ^ 64 - 1)) := rfl
    have hloop := estimateLoop_wraps cxRevertingCall (withDefaultFrom cxMaxGasArgs)
      (hfail _) fuel (UInt64.ofNat (TxGas - 1)) (by decide)
    simp only [DoEstimateGas, hcap, hloop]

theorem DoEstimateGas_wraps :
    (∀ args g, (isGasEnough cxRevertingCall args g).map Prod.fst = .ok true) ∧
    ∀ fuel, DoEstimateGas 5000000000 (fun _ => .ok 0) cxRevertingCall (fun _ => .error "") fuel
      cxMaxGasArgs 0 = none :=
  DoEstimateGas_maxGas_reverting 5000000000 (fun _ => .ok 0) (fun _ => .error "")

end Obscuro.GasEstimation
