/-
The GPU operations (`gpu/gpu.c`): reading temperatures, checking the driver, reading and setting power limits. Each is a
state machine of its own, of which one stage is sent to the GPE at a time and looked at when the GPE is done with it.
Sensors, timing statistics and error logs are outside of the model.
-/
import Mathlib.Data.BitVec
import Mathlib.Data.Fintype.Basic
import Mathlib.Logic.Function.Basic
import Mathlib.Tactic.Common

namespace Occ.Gpu

-- `GPE_RC_...`
def gpeRcSuccess : Nat := 0x00
def gpeRcI2cError : Nat := 0x06
def gpeRcNotComplete : Nat := 0x08
def gpeRcNoGpuSupport : Nat := 0x80
def gpeRcGpuDriverChange : Nat := 0x81
def gpeRcGpuCmdNotSupported : Nat := 0x82
def gpeRcGpuBusy : Nat := 0x85

def gpuInitErrorCount : Nat := 300
def maxConsecutiveGpuResets : Nat := 5
def maxGpuResetStateRetry : Nat := 3
def maxGpuReadAttempt : Nat := 3
def gpuErrorsBeforeI2cReset : Nat := 5

/-- `GPU_CHECK_DRIVER_ERROR_COUNT`, `GPU_READ_MEM_CAP_ERROR_COUNT`, `GPU_READ_PWR_LIMIT_ERROR_COUNT` and
`GPU_SET_PWR_LIMIT_ERROR_COUNT` -/
def gpuErrorCount : Nat := 5

/-! ## A GPU -/

/-- `amec_gpu_t`: `gpuStatus_t` and `gpuPcap_t`. -/
structure AmecGpu where
  disabled : Bool
  readOnce : Bool
  checkDriverLoaded : Bool
  driverLoaded : Bool
  checkMemTempSupport : Bool
  memTempSupported : Bool
  notReset : Bool
  coreTempNotAvailable : Bool
  memTempNotAvailable : Bool
  coreTempFailure : Bool
  memTempFailure : Bool
  memErrorCount : BitVec 8
  errorCount : BitVec 8
  retryCount : BitVec 8
  checkPwrLimit : Bool
  pwrLimitsRead : Bool
  setFailed : Bool
  gpuMinPcapMw : BitVec 32
  gpuMaxPcapMw : BitVec 32
  gpuDesiredPcapMw : BitVec 32
  gpuRequestedPcapMw : BitVec 32
  gpuDefaultPcapMw : BitVec 32
deriving DecidableEq

/-- The data of a GPU that say what is known and what is to be done. -/
inductive Flag
  | disabled | readOnce | checkDriverLoaded | driverLoaded | checkMemTempSupport | memTempSupported
  | coreTempFailure | memTempFailure | checkPwrLimit | pwrLimitsRead | setFailed
deriving DecidableEq

instance : Fintype Flag where
  elems := ([.disabled, .readOnce, .checkDriverLoaded, .driverLoaded, .checkMemTempSupport, .memTempSupported,
    .coreTempFailure, .memTempFailure, .checkPwrLimit, .pwrLimitsRead, .setFailed] : List Flag).toFinset
  complete f := by cases f <;> decide

def AmecGpu.flag (g : AmecGpu) : Flag → Bool
  | .disabled => g.disabled
  | .readOnce => g.readOnce
  | .checkDriverLoaded => g.checkDriverLoaded
  | .driverLoaded => g.driverLoaded
  | .checkMemTempSupport => g.checkMemTempSupport
  | .memTempSupported => g.memTempSupported
  | .coreTempFailure => g.coreTempFailure
  | .memTempFailure => g.memTempFailure
  | .checkPwrLimit => g.checkPwrLimit
  | .pwrLimitsRead => g.pwrLimitsRead
  | .setFailed => g.setFailed

/-- The flags that a change of the reset status clears: out of reset, or into reset. -/
def Flag.clearedBy (notInReset : Bool) : Flag → Bool
  | .disabled => notInReset
  | .coreTempFailure | .memTempFailure => !notInReset
  | _ => true

/-- The data at the start. -/
def AmecGpu.zero : AmecGpu :=
  ⟨false, false, false, false, false, false, false, false, false, false, false, 0, 0, 0, false, false, false, 0, 0, 0, 0, 0⟩

namespace AmecGpu

variable (g : AmecGpu)

/-- `clear_gpu_driver_status` -/
def clearDriverStatus : AmecGpu :=
  { g with
    checkDriverLoaded := false, driverLoaded := false
    checkMemTempSupport := false, memTempSupported := false, memErrorCount := 0
    checkPwrLimit := false, pwrLimitsRead := false, setFailed := false
    gpuMinPcapMw := 0, gpuMaxPcapMw := 0, gpuRequestedPcapMw := 0, gpuDefaultPcapMw := 0, gpuDesiredPcapMw := 0 }

/-- `handle_driver_change` -/
def handleDriverChange : AmecGpu :=
  { g.clearDriverStatus with memTempFailure := false, memTempNotAvailable := true, checkDriverLoaded := true }

/-- `update_gpu_reset_status`, for one GPU. -/
def updateResetStatus (notInReset : Bool) : AmecGpu :=
  if notInReset ≠ g.notReset then
    let g := { g.clearDriverStatus with errorCount := 0, retryCount := 0, readOnce := false }
    let g := if notInReset then { g with disabled := false }
      else { g with coreTempFailure := false, coreTempNotAvailable := true, memTempFailure := false, memTempNotAvailable := true }
    { g with notReset := notInReset }
  else g

/-- `mark_gpu_failed`, up to the count for the I2C reset. -/
def countFailure : AmecGpu :=
  let g := { g with retryCount := g.retryCount + 1 }
  if g.notReset then
    let g := { g with errorCount := g.errorCount + 1 }
    if g.errorCount.toNat > gpuInitErrorCount then
      { g with memTempFailure := true, memTempNotAvailable := true, coreTempFailure := true, coreTempNotAvailable := true
               disabled := true }
    else g
  else g

end AmecGpu

/-! ## Operations -/

/-- The states of the task in which a GPU is talked to. -/
inductive Op
  | readTemp | readMemoryTemp | checkMemTempCapable | checkDriverLoaded | readPwrLimit | setPwrLimit
deriving DecidableEq, Repr

/-- How many stages are sent to the GPE. They are numbered from 1; the stage 0 is `..._NEW`, the one after the last is
`..._COMPLETE`. -/
def Op.requests : Op → Nat
  | .readTemp => 2
  | .readMemoryTemp | .checkMemTempCapable | .checkDriverLoaded => 4
  | .readPwrLimit => 19
  | .setPwrLimit => 15

/-- The static data of an operation's state machine. -/
structure Sm where
  stage : Nat
  scheduled : Bool
  /-- failures of the current stage -/
  failures : Nat
  attempts : Nat
  retryNecessary : Bool
  /-- failed operations on each GPU -/
  failureCount : Fin 3 → Nat

def Sm.new : Sm := ⟨0, false, 0, 0, false, fun _ => 0⟩

/-- `2_FINISH` of reading a limit and `4_FINISH` of setting one go back to the start of their step. -/
def Op.repeatsFrom : Op → Nat → Option Nat
  | .readPwrLimit, 7 => some 5
  | .setPwrLimit, 15 => some 13
  | _, _ => none

/-- `1_3` of reading a limit and `3_3` of setting one go on when the GPU is busy. -/
def Op.busyAt : Op → Nat → Option Nat
  | .readPwrLimit, 3 => some 4
  | .setPwrLimit, 11 => some 12
  | _, _ => none

/-- Where an operation that is to be retried lets the task move on. -/
def Op.movesOnAt : Op → Nat → Bool
  | .readPwrLimit, 4 => true
  | .setPwrLimit, 15 => true
  | _, _ => false

def Op.timed : Op → Bool
  | .readPwrLimit | .setPwrLimit => true
  | _ => false

/-- An operation is given up after repeated failures, and at once after some. -/
def Op.givesUp (op : Op) (gpuTimeout : Nat) (k : Sm) (rc : Nat) : Prop :=
  k.failures > maxGpuReadAttempt ∨ (op = .readTemp ∧ rc = gpeRcI2cError) ∨
    (op = .readMemoryTemp ∧ rc = gpeRcGpuCmdNotSupported) ∨ (op.timed = true ∧ k.attempts > gpuTimeout)

instance (op : Op) (gpuTimeout : Nat) (k : Sm) (rc : Nat) : Decidable (op.givesUp gpuTimeout k rc) :=
  inferInstanceAs (Decidable (_ ∨ _))

/-- How the look at the last stage ends. -/
inductive Advance
  | driverChange
  | giveUp
  | moveOn (k : Sm)
  /-- a stage is processed -/
  | go (k : Sm)

/-- The look at the last stage, when the GPE is idle. -/
def Op.advance (op : Op) (gpuTimeout : Nat) (k : Sm) (rc : Nat) : Advance :=
  if k.stage ≠ 0 ∧ (k.scheduled = false ∨ rc ≠ gpeRcSuccess) then
    match if rc = gpeRcNotComplete ∧ k.attempts ≤ gpuTimeout then op.repeatsFrom k.stage else none with
    | some stage => .go { k with stage := stage, failures := 0, attempts := k.attempts + 1 }
    | none =>
      match if rc = gpeRcGpuBusy then op.busyAt k.stage else none with
      | some stage => .go { k with stage := stage, retryNecessary := true }
      | none =>
        -- reading the core temperature does not look for a driver change
        if op ≠ .readTemp ∧ rc = gpeRcGpuDriverChange then .driverChange
        else if op.givesUp gpuTimeout k rc then .giveUp
        else .go { k with failures := k.failures + 1 }
  else if op.movesOnAt k.stage ∧ k.retryNecessary then
    .moveOn { k with failures := 0, stage := 0 }
  else
    .go { k with failures := 0, stage := k.stage + 1 }

/-! ## Results -/

/-- What is given up with the operation after too many failures. -/
def Op.abandon (op : Op) (g : AmecGpu) : AmecGpu :=
  match op with
  | .checkMemTempCapable => { g with checkMemTempSupport := false, memTempFailure := true, memTempNotAvailable := true }
  | .checkDriverLoaded => { g with checkDriverLoaded := false, memTempFailure := true, memTempNotAvailable := true }
  | .readPwrLimit => { g with checkPwrLimit := false }
  | .setPwrLimit => { g with setFailed := true }
  | _ => g

/-- An operation that counts its failures is given up: at once after a timeout, and after too many failures of a GPU that
is not in reset. The count comes with the GPU. -/
def Op.countedGiveUp (op : Op) (gpuTimeout : Nat) (attempts count : Nat) (g : AmecGpu) : AmecGpu × Nat :=
  let timedOut := op.timed ∧ attempts > gpuTimeout
  let g := if timedOut then op.abandon g else g
  let count := if timedOut then 0 else count
  if g.notReset then
    if count + 1 > gpuErrorCount then (op.abandon g, 0) else (g, count + 1)
  else (g, count)

/-- Reading the memory temperature is given up. -/
def memoryTempGiveUp (maxReadTimeout : BitVec 8) (rc : Nat) (g : AmecGpu) : AmecGpu :=
  if g.notReset = true ∨ rc = gpeRcGpuCmdNotSupported then
    let g := { g with memErrorCount := g.memErrorCount + 1 }
    if maxReadTimeout ≠ 0 ∧ maxReadTimeout ≠ 0xFF ∧ maxReadTimeout ≤ g.memErrorCount then
      { g with memTempSupported := false, memTempFailure := true, memTempNotAvailable := true }
    else if rc = gpeRcGpuCmdNotSupported then
      { g with checkMemTempSupport := true, memTempSupported := false }
    else g
  else g

/-- What a complete operation changes; `data` is what the GPE returned. -/
def Op.finish (op : Op) (data : Fin 3 → BitVec 64) (g : AmecGpu) : AmecGpu :=
  match op with
  | .readTemp =>
    let g := if g.readOnce = false ∧ data 0 ≠ 0 then { g with readOnce := true, checkDriverLoaded := true } else g
    { g with coreTempFailure := false, coreTempNotAvailable := false, errorCount := 0, retryCount := 0 }
  | .readMemoryTemp => { g with memTempFailure := false, memTempNotAvailable := false, memErrorCount := 0 }
  | .checkMemTempCapable => { g with memTempSupported := (data 0).getLsbD 0, checkMemTempSupport := !(data 0).getLsbD 0 }
  | .checkDriverLoaded =>
    let newDriverLoaded := (data 0).getLsbD 0
    if newDriverLoaded ≠ g.driverLoaded then
      if newDriverLoaded then
        { g with checkPwrLimit := true, checkMemTempSupport := true, checkDriverLoaded := false, driverLoaded := true }
      else
        { g.clearDriverStatus with memTempFailure := false, memTempNotAvailable := true, checkDriverLoaded := true
                                   driverLoaded := false }
    else g
  | .readPwrLimit =>
    { g with checkPwrLimit := false, pwrLimitsRead := true, gpuMinPcapMw := (data 0).setWidth 32
             gpuMaxPcapMw := (data 1).setWidth 32, gpuDefaultPcapMw := (data 2).setWidth 32 }
  | .setPwrLimit => { g with gpuRequestedPcapMw := (data 0).setWidth 32 }

end Occ.Gpu
