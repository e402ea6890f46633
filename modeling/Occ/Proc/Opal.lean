/-
The dynamic OPAL table (`proc_pstate.c`): the DCOM thread compares the table with the data, copies it to main
memory with the block copy engine (BCE) when they differ, and notifies the host when the copy is over. The engine's
interrupt can come between any two accesses of the thread to the update state, and runs the callback.
-/
import Occ.Lib.Transition
import Mathlib.Data.BitVec

namespace Occ.Proc

open Occ Transition

/-! ## Data -/

/-- `OPAL_TABLE_UPDATE_STATE` -/
inductive OpalUpdate
  | idle | dynamicCopy | notifyHost | bceFail | criticalError
deriving DecidableEq, Repr

/-- The dynamic entries of the table: `opal_dynamic_t`. -/
structure OpalDynamic where
  occState : BitVec 8
  dynamicMinorVersion : BitVec 8
  gpusPresent : BitVec 8
  procThrotStatus : BitVec 8
  memThrotStatus : BitVec 8
  quickPowerDrop : BitVec 8
  powerShiftRatio : BitVec 8
  powerCapType : BitVec 8
  minPowerCap : BitVec 16
  maxPowerCap : BitVec 16
  currentPowerCap : BitVec 16
  softMinPowerCap : BitVec 16
deriving DecidableEq, Repr

/-- What the thread finds in the data of the OCC. -/
structure OpalEnv where
  currentState : BitVec 8
  safeStateRequested : Bool
  gpuConfigDone : Bool
  firstProcGpuConfig : BitVec 32
  amecOpalProcThrotReason : BitVec 8
  amecOpalMemThrotReason : BitVec 8
  oversubscription : BitVec 8
  psr : BitVec 8
  pcapSource : BitVec 8
  hardMinPcap : BitVec 16
  maxPcap : BitVec 16
  activeNodePcap : BitVec 16
  softMinPcap : BitVec 16
deriving DecidableEq, Repr

def occReset : BitVec 8 := 0x05
def dynamicMinorVGpuPresence : BitVec 8 := 1
def opalDynamicUpdateBceRetries : Nat := 2

/-- `populate_opal_dynamic_data` -/
def populateOpalDynamicData (env : OpalEnv) : OpalDynamic where
  occState := env.currentState
  dynamicMinorVersion := if env.gpuConfigDone then dynamicMinorVGpuPresence else 0
  gpusPresent := if env.gpuConfigDone then env.firstProcGpuConfig.setWidth 8 else 0
  procThrotStatus := if env.safeStateRequested then occReset else env.amecOpalProcThrotReason
  memThrotStatus := env.amecOpalMemThrotReason
  quickPowerDrop := env.oversubscription
  powerShiftRatio := env.psr
  powerCapType := env.pcapSource
  minPowerCap := env.hardMinPcap
  maxPowerCap := env.maxPcap
  currentPowerCap := env.activeNodePcap
  softMinPowerCap := env.softMinPcap

/-- The comparisons of `check_for_opal_updates`: of all entries but the GPUs that are present. -/
def OpalDynamic.Changed (d : OpalDynamic) (env : OpalEnv) : Prop :=
  (if env.safeStateRequested then d.procThrotStatus ≠ occReset
    else d.procThrotStatus ≠ env.amecOpalProcThrotReason) ∨
  (d.memThrotStatus ≠ env.amecOpalMemThrotReason ∨ d.quickPowerDrop ≠ env.oversubscription) ∨
  d.occState ≠ env.currentState ∨
  (d.minPowerCap ≠ env.hardMinPcap ∨ d.maxPowerCap ≠ env.maxPcap ∨ d.softMinPowerCap ≠ env.softMinPcap ∨
    d.powerShiftRatio ≠ env.psr ∨ d.powerCapType ≠ env.pcapSource ∨ d.currentPowerCap ≠ env.activeNodePcap) ∨
  (d.dynamicMinorVersion ≠ dynamicMinorVGpuPresence ∧ env.gpuConfigDone = true)

instance (d : OpalDynamic) (env : OpalEnv) : Decidable (d.Changed env) := by
  unfold OpalDynamic.Changed
  infer_instance

/-- The logs of the two functions, by extended reason code. -/
inductive OpalErrl
  | bceRequestCreateFailure | bceRequestScheduleFailure | genericTimeout
deriving DecidableEq, Repr

/-- Whether the request for a copy can be created and scheduled. -/
inductive BceOutcome
  | ok | createFails | scheduleFails
deriving DecidableEq, Repr

/-! ## The thread -/

/-- Where the thread is: not in `check_for_opal_updates`, or before its next access. -/
inductive OpalPc
  | idle
  -- the tests of the update state, in their order, and the comparison with the data
  | testNotify | testCopy | testRequest | testFail | compare
  -- the host is notified
  | setIdle | notify
  -- a copy
  | setCopy | populate | schedule | scheduled | scheduleFail | scheduleLog | testIdle | setFail
  -- a critical error
  | setCritical | criticalLog
deriving DecidableEq, Repr

structure Opal where
  /-- `system_type.kvm` -/
  kvm : Bool
  /-- `G_opal_table_update_state` -/
  state : OpalUpdate
  /-- `G_opal_dynamic_table` -/
  table : OpalDynamic
  bceReqScheduled : Bool
  numBceChecks : Nat
  pc : OpalPc
  outcome : BceOutcome
  /-- the copy that the engine has not finished, by its number -/
  inFlight : Option Nat
  mainMemory : Option OpalDynamic
  -- history: the copies scheduled, those that ended before the thread gave up, the latest first, and for every
  -- notification of the host the latest of these; the logs; and whether a copy was scheduled under another
  started : Nat
  ended : List Nat
  notified : List Nat
  logs : List OpalErrl
  overlapped : Bool

namespace Opal

variable (s : Opal)

/-- `L_num_bce_checks` is at most the number of retries: count, else give up. -/
def retry (next : OpalPc) (count : Nat) : Opal :=
  if s.numBceChecks ≤ opalDynamicUpdateBceRetries then { s with numBceChecks := s.numBceChecks + count, pc := next }
  else { s with pc := .setCritical }

/-- One access of the thread. -/
def access (env : OpalEnv) (outcome : BceOutcome) : Opal :=
  match s.pc with
  | .idle => s
  | .testNotify => if s.state = .notifyHost then { s with pc := .setIdle } else { s with pc := .testCopy }
  | .setIdle => { s with pc := .notify, state := .idle }
  | .notify => { s with pc := .idle, notified := if s.kvm then s.ended.headD 0 :: s.notified else s.notified }
  | .testCopy => if s.state = .dynamicCopy then s.retry .idle 1 else { s with pc := .testRequest }
  | .testRequest => if s.bceReqScheduled ∧ s.inFlight.isSome then s.retry .idle 1 else { s with pc := .testFail }
  | .testFail => if s.state = .bceFail then s.retry .setCopy 0 else { s with pc := .compare }
  | .compare => if s.table.Changed env then { s with pc := .setCopy } else { s with pc := .idle }
  | .setCopy => { s with pc := .populate, state := .dynamicCopy }
  | .populate => { s with pc := .schedule, table := populateOpalDynamicData env }
  | .schedule =>
    match outcome with
    | .ok =>
      { s with
        pc := .scheduled
        outcome := .ok
        inFlight := some s.started
        started := s.started + 1
        overlapped := s.overlapped || s.inFlight.isSome }
    | .createFails => { s with pc := .scheduleFail, outcome := .createFails }
    | .scheduleFails => { s with pc := .scheduleFail, outcome := .scheduleFails }
  | .scheduled => { s with pc := .testIdle, bceReqScheduled := true }
  | .scheduleFail => { s with pc := .scheduleLog, state := if s.state = .dynamicCopy then .idle else s.state }
  | .scheduleLog =>
    let log := if s.outcome = .createFails then OpalErrl.bceRequestCreateFailure else .bceRequestScheduleFailure
    { s with pc := .testIdle, logs := if s.kvm then log :: s.logs else s.logs }
  | .testIdle => if s.state = .idle then { s with pc := .setFail } else { s with pc := .idle, numBceChecks := 0 }
  | .setFail => { s with pc := .idle, state := .bceFail, numBceChecks := s.numBceChecks + 1 }
  | .setCritical => { s with pc := .criticalLog, state := .criticalError }
  | .criticalLog => { s with pc := .idle, logs := if s.kvm then .genericTimeout :: s.logs else s.logs }

/-- The thread wakes up, and checks for updates unless it has given up. -/
def wake : Opal := if s.state ≠ .criticalError then { s with pc := .testNotify } else s

/-- `opal_table_bce_callback` -/
def bceCallback : Opal := if s.state = .dynamicCopy then { s with state := .notifyHost } else s

/-- The engine ends copy `n`, which reaches main memory when `ok`, and runs the callback. -/
def complete (n : Nat) (ok : Bool) : Opal :=
  bceCallback { s with
    inFlight := none
    mainMemory := if ok then some s.table else s.mainMemory
    ended := if s.state = .criticalError ∨ s.pc = .setCritical then s.ended else n :: s.ended }

end Opal

/-! ## Steps -/

inductive OpalEvent
  | wake
  | access (env : OpalEnv) (outcome : BceOutcome)
  | complete (ok : Bool)
deriving DecidableEq, Repr

/-- The state after an event, when it can happen. -/
def Opal.next (s : Opal) : OpalEvent → Option Opal
  | .wake => if s.pc = .idle then some s.wake else none
  | .access env outcome => if s.pc = .idle then none else some (s.access env outcome)
  | .complete ok =>
    match s.inFlight with
    | none => none
    | some n => some (s.complete n ok)

def Opal.boot (kvm : Bool) : Opal where
  kvm := kvm
  state := .idle
  table := ⟨0, 0, 0, 0, 0, 0, 0, 0, 0, 0, 0, 0⟩
  bceReqScheduled := false
  numBceChecks := 0
  pc := .idle
  outcome := .ok
  inFlight := none
  mainMemory := none
  started := 0
  ended := []
  notified := []
  logs := []
  overlapped := false

end Occ.Proc
