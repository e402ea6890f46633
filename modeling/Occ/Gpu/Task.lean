/-
The GPU task (`task_gpu_sm` of `gpu/gpu.c`): it owns the I2C engine's lock or waits for it, resets the bus, and picks one
GPU operation after the other. What the host, OPAL, the GPE and the configuration do between two ticks are events.
Beside the data of the code, a state remembers what the lock, the requests and the reset status have seen so far.
-/
import Occ.Gpu.Operation
import Occ.Lib.Transition
import Mathlib.Data.Fintype.Basic
import Mathlib.Data.Fintype.Pi
import Occ.Lib.Literals

namespace Occ.Gpu

open Function (update)

attribute [local instance] neZero_three

/-! ## State -/

/-- `gpuState_e` -/
inductive GpuState
  | reset
  | op (o : Op)
  | idle
  | noLock
deriving DecidableEq

-- `GPU_RESET_STATE_...`, numbered from `..._NEW`
def resetStateNew : Nat := 0
def resetStateInitBus : Nat := 1
def resetStateResetMaster : Nat := 2
def resetStateResetSlave : Nat := 3
def resetStateResetSlaveWait : Nat := 4
def resetStateResetSlaveComplete : Nat := 5
def resetStateResetFinish : Nat := 6

-- `GPU_RESET_REQ_...`
def gpuResetReqMaster : BitVec 64 := 1
def gpuResetReqSlv : BitVec 64 := 2
def gpuResetReqSlvComplete : BitVec 64 := 3

/-- The static data of `gpu_reset_sm`. -/
structure ResetSm where
  stage : Nat
  scheduled : Bool
  retryCount : Nat
  failureCount : Nat

/-- `gpu_sm_args_t`, of which the GPE writes `error.rc` and the data. -/
structure GpuSmArgs where
  rc : Nat
  data : Fin 3 → BitVec 64
  gpuId : Fin 3

/-- What a run does not change: the GPUs that are present, the thermal configuration, the kind of power reading and the
times that depend on the length of a tick. -/
structure Config where
  present : Fin 3 → Bool
  maxReadTimeout : BitVec 8
  pwrReadingNone : Bool
  gpuTimeout : Nat
  gpuTempRead1S : Nat

/-- A call of `schedule_gpu_req` that writes the arguments: was the lock held and the last request done with, and was the
new request scheduled? -/
structure Request where
  held : Bool
  idle : Bool
  taken : Bool
deriving DecidableEq

/-- What a run remembers beside the data of the code. -/
structure Watch where
  /-- The OCC holds the I2C lock: the last check said so, and it has not been released since. -/
  held : Bool
  requests : List Request
  /-- The reset status of the GPU has changed to this one since the operation began. -/
  changed : Fin 3 → Bool → Bool
  /-- An operation has set a flag that such a change had cleared. -/
  lateSet : Bool

/-- The globals and the static data of the task. A selection that starts over at its next call has no cursor. -/
structure GpuSm where
  gpu : Fin 3 → AmecGpu
  /-- GPU reset status of the OCC flags register -/
  occFlags : Fin 3 → Bool
  gpuState : GpuState
  monitoringAllowed : Bool
  i2cResetRequired : Bool
  currentGpuId : Fin 3
  requestIdle : Bool
  opReqArgs : GpuSmArgs
  newReqArgs : Fin 3 → BitVec 64
  reset : ResetSm
  sm : Op → Sm
  driverCheckCursor : Option (Fin 3)
  memCapCursor : Option (Fin 3)
  pwrLimitsCursor : Option (Fin 3)
  setPwrLimitCursor : Option (Fin 3)
  occOwnsLock : Bool
  gpuFirstRun : Bool
  numCallsForTempRead : Nat
  readTempStartNeeded : Bool
  memTempNeeded : Bool
  watch : Watch

/-- The start: only what OPAL has left in the register is open. -/
def GpuSm.boot (occFlags : Fin 3 → Bool) : GpuSm where
  gpu _ := AmecGpu.zero
  occFlags := occFlags
  gpuState := .idle
  monitoringAllowed := false
  i2cResetRequired := false
  currentGpuId := 0
  requestIdle := true
  opReqArgs := ⟨0, fun _ => 0, 0⟩
  newReqArgs _ := 0
  reset := ⟨resetStateNew, false, 0, 0⟩
  sm _ := Sm.new
  driverCheckCursor := some 0
  memCapCursor := some 0
  pwrLimitsCursor := some 0
  setPwrLimitCursor := some 0
  occOwnsLock := false
  gpuFirstRun := true
  numCallsForTempRead := 0
  readTempStartNeeded := false
  memTempNeeded := false
  watch := ⟨false, [], fun _ _ => false, false⟩

namespace GpuSm

variable (c : Config) (s : GpuSm)

/-! ## Which GPU is next -/

/-- A GPU that a temperature is read of: `get_first_gpu`. -/
def functional (g : Fin 3) : Bool := c.present g && !(s.gpu g).disabled

def memTempCapable (g : Fin 3) : Bool := !(s.gpu g).disabled && (s.gpu g).memTempSupported

def firstOf (ok : Fin 3 → Bool) : Option (Fin 3) := (List.finRange 3).find? ok

/-- The next one in the circle, or the same one again. -/
def nextOf (ok : Fin 3 → Bool) (g : Fin 3) : Fin 3 := ([g + 1, g + 2].find? ok).getD g

def getFirstGpu : Option (Fin 3) := firstOf (s.functional c)

def getNextGpu : Option (Fin 3) :=
  let next := nextOf (s.functional c) s.currentGpuId
  if s.getFirstGpu c = some next then none else some next

def getFirstMemTempCapableGpu : Option (Fin 3) := firstOf s.memTempCapable

def getNextMemTempCapableGpu : Option (Fin 3) :=
  let next := nextOf s.memTempCapable s.currentGpuId
  if s.getFirstMemTempCapableGpu = some next then none
  else if (s.gpu next).memTempSupported then some next
  else none

/-- The selections look from their cursor on, and not at all in the call after the last GPU was selected. The cursor of the
next call is returned too. -/
def select (needed : Fin 3 → Bool) (cursor : Option (Fin 3)) : Option (Fin 3) × Option (Fin 3) :=
  match cursor with
  | none => (none, some 0)
  | some first =>
    match (List.finRange 3).find? fun g => first ≤ g && needed g with
    | none => (none, some 0)
    | some g => (some g, if g = 2 then none else some (g + 1))

/-- `gpu_id_need_driver_check` -/
def gpuIdNeedDriverCheck : Option (Fin 3) × GpuSm :=
  let found := select (fun g => c.present g && !(s.gpu g).disabled && (s.gpu g).readOnce && (s.gpu g).checkDriverLoaded)
    s.driverCheckCursor
  (found.1, { s with driverCheckCursor := found.2 })

/-- `gpu_id_need_memory_temp_capability_check` -/
def gpuIdNeedMemoryTempCapabilityCheck : Option (Fin 3) × GpuSm :=
  let found := select (fun g => !(s.gpu g).disabled && (s.gpu g).driverLoaded && (s.gpu g).checkMemTempSupport) s.memCapCursor
  (found.1, { s with memCapCursor := found.2 })

/-- A GPU whose power limits are still to be read. -/
def needsPwrLimits (g : Fin 3) : Bool := (s.gpu g).driverLoaded && (s.gpu g).checkPwrLimit

/-- `gpu_id_need_power_limits`: without power capping, reading the limits is called off. -/
def gpuIdNeedPowerLimits : Option (Fin 3) × GpuSm :=
  match s.pwrLimitsCursor with
  | none => (none, { s with pwrLimitsCursor := some 0 })
  | some first =>
    if c.pwrReadingNone then
      (none, { s with
        pwrLimitsCursor := some 0
        gpu := fun g => if first ≤ g ∧ s.needsPwrLimits g then { s.gpu g with checkPwrLimit := false } else s.gpu g })
    else
      let found := select s.needsPwrLimits s.pwrLimitsCursor
      (found.1, { s with pwrLimitsCursor := found.2 })

/-- `gpu_id_need_set_power_limit` -/
def gpuIdNeedSetPowerLimit : Option (Fin 3) × GpuSm :=
  let found := select (fun g => (s.gpu g).driverLoaded && (s.gpu g).pwrLimitsRead && !(s.gpu g).setFailed &&
    (s.gpu g).gpuDesiredPcapMw != 0 && (s.gpu g).gpuDesiredPcapMw != (s.gpu g).gpuRequestedPcapMw) s.setPwrLimitCursor
  (found.1, { s with setPwrLimitCursor := found.2 })

/-! ## The reset status -/

/-- `update_gpu_reset_status` -/
def updateGpuResetStatus : GpuSm :=
  { s with
    gpu := fun g => (s.gpu g).updateResetStatus (s.occFlags g)
    watch := { s.watch with
      changed := fun g b => s.watch.changed g b || (b == s.occFlags g && s.occFlags g != (s.gpu g).notReset) } }

/-- A flag of a GPU that has been cleared by a change of its reset status since the operation began. -/
def cleared (g : Fin 3) (f : Flag) : Prop := ∃ b, s.watch.changed g b = true ∧ f.clearedBy b = true

instance (g : Fin 3) (f : Flag) : Decidable (s.cleared g f) := 
  inferInstanceAs (Decidable (∃ b, s.watch.changed g b = true ∧ f.clearedBy b = true))

/-- An operation begins. -/
def begins : GpuSm := { s with watch := { s.watch with changed := fun _ _ => false } }

/-- The state machine that `s` was in has led to `t`. -/
def looksBack (t : GpuSm) : GpuSm :=
  { t with watch := { t.watch with
      lateSet := t.watch.lateSet || decide (∃ g f, s.cleared g f ∧ (s.gpu g).flag f = false ∧ (t.gpu g).flag f = true) } }

/-! ## Requests -/

/-- `occ_i2c_lock_release` -/
def occI2cLockRelease : GpuSm := { s with watch := { s.watch with held := false } }

/-- The lock is released and monitoring stops. -/
def stopMonitoring : GpuSm := { s.occI2cLockRelease with monitoringAllowed := false }

/-- `disable_all_gpus` -/
def disableAllGpus : GpuSm := { s.stopMonitoring with gpu := fun g => { s.gpu g with disabled := true } }

/-- `schedule_gpu_req`, with `ok` the answer of `gpe_request_schedule`. Was the request scheduled? -/
def scheduleGpuReq (ok : Bool) : GpuSm × Bool :=
  if s.requestIdle then
    let t := { s with
      opReqArgs := ⟨gpeRcSuccess, s.newReqArgs, s.currentGpuId⟩
      watch := { s.watch with requests := ⟨s.watch.held, s.requestIdle, ok⟩ :: s.watch.requests } }
    if ok then ({ t with requestIdle := false }, true) else (t.stopMonitoring, false)
  else (s, false)

/-! ## The reset of the bus -/

def setReset (r : ResetSm) : GpuSm := { s with reset := r }

/-- The reset state `r.stage` is processed. -/
def processReset (ok : Bool) (r : ResetSm) : GpuSm × Bool :=
  let send := fun t : GpuSm =>
    let sent := t.scheduleGpuReq ok
    (sent.1.setReset { r with scheduled := sent.2 }, false)
  if r.stage = resetStateInitBus then send s
  else if r.stage = resetStateResetMaster then send { s with newReqArgs := update s.newReqArgs 0 gpuResetReqMaster }
  else if r.stage = resetStateResetSlave then send { s with newReqArgs := update s.newReqArgs 0 gpuResetReqSlv }
  else if r.stage = resetStateResetSlaveWait then (s.setReset { r with scheduled := false }, false)
  else if r.stage = resetStateResetSlaveComplete then
    send { s with newReqArgs := update s.newReqArgs 0 gpuResetReqSlvComplete }
  else if r.stage = resetStateResetFinish then
    (s.setReset { r with scheduled := false, failureCount := 0, stage := resetStateNew }, true)
  else (s.setReset { r with scheduled := false, stage := resetStateNew }, false)

/-- The last state was not scheduled, or the GPE reports an error. -/
def resetFailed : Prop :=
  s.reset.stage ≠ resetStateNew ∧ s.reset.stage ≠ resetStateResetSlaveWait ∧
    (s.reset.scheduled = false ∨ s.opReqArgs.rc ≠ gpeRcSuccess)

/-- No more reset is tried. -/
def resetGivesUp : Prop :=
  s.resetFailed ∧ (s.opReqArgs.rc = gpeRcNoGpuSupport ∨
    (maxGpuResetStateRetry ≤ s.reset.retryCount ∧ maxConsecutiveGpuResets < s.reset.failureCount))

instance : Decidable s.resetFailed := inferInstanceAs (Decidable (_ ∧ _))
instance : Decidable s.resetGivesUp := inferInstanceAs (Decidable (_ ∧ _))

/-- `gpu_reset_sm` -/
def gpuResetSm (ok : Bool) : GpuSm × Bool :=
  if s.requestIdle then
    let r := s.reset
    -- a new reset is the start of an operation
    let s := if r.stage = resetStateNew then s.begins else s
    if s.resetFailed then
      if s.opReqArgs.rc = gpeRcNoGpuSupport then (s.disableAllGpus.setReset { r with stage := resetStateNew }, false)
      else if r.retryCount < maxGpuResetStateRetry then s.processReset ok { r with retryCount := r.retryCount + 1 }
      else if r.failureCount > maxConsecutiveGpuResets then (s.disableAllGpus.setReset { r with stage := resetStateNew }, false)
      else s.processReset ok { r with failureCount := r.failureCount + 1, retryCount := 0, stage := resetStateInitBus }
    else s.processReset ok { r with retryCount := 0, stage := r.stage + 1 }
  else (s, false)

/-! ## An operation -/

def setSm (o : Op) (k : Sm) : GpuSm := { s with sm := update s.sm o k }

/-- The GPU of the operation gets new data. -/
def setCurrent (g : AmecGpu) : GpuSm := { s with gpu := update s.gpu s.currentGpuId g }

def current : AmecGpu := s.gpu s.currentGpuId

/-- `mark_gpu_failed` -/
def markGpuFailed : GpuSm :=
  let g := (s.gpu s.opReqArgs.gpuId).countFailure
  if g.retryCount.toNat > gpuErrorsBeforeI2cReset then
    { s with gpu := update s.gpu s.opReqArgs.gpuId { g with retryCount := 0 }, i2cResetRequired := true }
  else { s with gpu := update s.gpu s.opReqArgs.gpuId g }

/-- The operation is given up for this GPU. -/
def giveUp (o : Op) : GpuSm :=
  let k := { s.sm o with stage := 0, failures := 0, attempts := 0 }
  match o with
  | .readTemp => s.markGpuFailed.setSm o k
  | .readMemoryTemp => (s.setCurrent (memoryTempGiveUp c.maxReadTimeout s.opReqArgs.rc s.current)).setSm o k
  | _ =>
    let given := o.countedGiveUp c.gpuTimeout (s.sm o).attempts ((s.sm o).failureCount s.currentGpuId) s.current
    (s.setCurrent given.1).setSm o { k with failureCount := update k.failureCount s.currentGpuId given.2 }

/-- `handle_driver_change`, and the operation starts over. -/
def driverChange (o : Op) : GpuSm :=
  let k := s.sm o
  (s.setCurrent s.current.handleDriverChange).setSm o
    { k with stage := 0, failures := 0, attempts := 0, retryNecessary := false
             failureCount := update k.failureCount s.currentGpuId 0 }

/-- The data that a stage sends to the GPE. -/
def newData (o : Op) (stage : Nat) : Fin 3 → BitVec 64 :=
  match o, stage with
  | .readPwrLimit, 12 => update s.newReqArgs 0 (s.opReqArgs.data 0)
  | .readPwrLimit, 16 => update (update s.newReqArgs 0 (s.opReqArgs.data 0)) 1 (s.opReqArgs.data 1)
  | .setPwrLimit, 5 => update s.newReqArgs 1 (s.current.gpuDesiredPcapMw.setWidth 64)
  | _, _ => s.newReqArgs

end GpuSm

/-- The counts that a stage starts anew. -/
def Op.prepare (o : Op) (k : Sm) : Sm :=
  match o, k.stage with
  | .readPwrLimit, 1 | .setPwrLimit, 1 => { k with retryNecessary := false }
  | .readPwrLimit, 4 | .setPwrLimit, 12 => { k with attempts := 0 }
  | _, _ => k

namespace GpuSm

variable (c : Config) (s : GpuSm)

/-- The stage `k.stage` is processed: it is sent to the GPE, or the operation is complete. -/
def process (ok : Bool) (o : Op) (k : Sm) : GpuSm × Bool :=
  if k.stage = o.requests + 1 then
    ((s.setCurrent (o.finish s.opReqArgs.data s.current)).setSm o
      { k with scheduled := false, stage := 0, failureCount := update k.failureCount s.currentGpuId 0
               attempts := if o.timed then 0 else k.attempts }, true)
  else if 1 ≤ k.stage ∧ k.stage ≤ o.requests then
    let sent := { s with newReqArgs := s.newData o k.stage }.scheduleGpuReq ok
    (sent.1.setSm o { o.prepare k with scheduled := sent.2 }, false)
  else (s.setSm o { k with scheduled := false, stage := 0 }, true)

/-- The state machine of an operation: `gpu_read_temp_sm`, `gpu_read_memory_temp_sm`, `gpu_read_mem_temp_capability_sm`,
`gpu_check_driver_loaded_sm`, `gpu_read_pwr_limit_sm` and `gpu_set_pwr_limit_sm`. Is it done with the GPU? -/
def runOp (ok : Bool) (o : Op) : GpuSm × Bool :=
  if s.requestIdle then
    match o.advance c.gpuTimeout (s.sm o) s.opReqArgs.rc with
    | .driverChange => (s.driverChange o, true)
    | .giveUp => (s.giveUp c o, true)
    | .moveOn k => (s.setSm o k, true)
    | .go k => s.process ok o k
  else (s, false)

/-! ## The task -/

/-- An operation is chosen. Its first stage is sent in the same tick. -/
def choose (o : Op) (g : Fin 3) : GpuSm := { s.begins with gpuState := .op o, currentGpuId := g }

/-- `check_and_update_i2c_lock`, which says `owns`. -/
def checkAndUpdateI2cLock (owns : Bool) : GpuSm := { s with watch := { s.watch with held := owns } }

/-- A new round of temperature readings. -/
def startsReading : GpuSm := { s with numCallsForTempRead := 0, readTempStartNeeded := false, memTempNeeded := false }

/-- There is no GPU to talk to. -/
def noGpu : GpuSm := { s.stopMonitoring with gpuState := .noLock }

/-- `gpu_sm_handle_idle_state`, with `owns` the answer of the lock. Is there a new state? -/
def gpuSmHandleIdleState (owns : Bool) (readTempStart memTemp : Bool) : GpuSm × Bool :=
  match s.gpuIdNeedSetPowerLimit with
  | (some g, s) => (s.choose .setPwrLimit g, true)
  | (none, s) =>
    let s := s.checkAndUpdateI2cLock owns
    if owns = false then ({ s with gpuState := .noLock }, false)
    else if readTempStart then
      match s.getFirstGpu c with
      | some g => (s.choose .readTemp g, true)
      | none => (s.noGpu, false)
    else
      match s.gpuIdNeedDriverCheck c with
      | (some g, s) => (s.choose .checkDriverLoaded g, true)
      | (none, s) =>
        match s.gpuIdNeedPowerLimits c with
        | (some g, s) => (s.choose .readPwrLimit g, true)
        | (none, s) =>
          if memTemp then
            match s.gpuIdNeedMemoryTempCapabilityCheck with
            | (some g, s) => (s.choose .checkMemTempCapable g, true)
            | (none, s) =>
              match s.getFirstMemTempCapableGpu with
              | some g => (s.choose .readMemoryTemp g, true)
              | none => (s, false)
          else (s, false)

/-- The bus has been reset. -/
def afterReset : GpuSm × Bool :=
  let s := s.startsReading
  match s.getFirstGpu c with
  | some g => (s.choose .readTemp g, true)
  | none => ({ s.noGpu with occOwnsLock := false }, false)

/-- The operation is done with the GPU. -/
def afterOp (o : Op) : GpuSm :=
  match o with
  | .readTemp =>
    match s.getNextGpu c with
    | none => { s with memTempNeeded := true, gpuState := .idle }
    | some g => s.choose .readTemp g
  | .readMemoryTemp =>
    match s.getNextMemTempCapableGpu with
    | none => { s with gpuState := .idle }
    | some g => s.choose .readMemoryTemp g
  | _ => { s with gpuState := .idle }

/-- The state machine of the state. -/
def machine (ok : Bool) : GpuSm × Bool :=
  match s.gpuState with
  | .reset => s.gpuResetSm ok
  | .op o => s.runOp c ok o
  | _ => (s, false)

/-- The state machine of the state is called, and the next state follows when it is done. -/
def runState (ok : Bool) : GpuSm × Bool :=
  let ran := s.machine c ok
  let t := s.looksBack ran.1
  if ran.2 then
    match s.gpuState with
    | .reset => t.afterReset c
    | .op o => (t.afterOp c o, true)
    | _ => (t, false)
  else (t, false)

end GpuSm

/-- What one turn of the loop meets: the answers of `gpe_request_schedule` and of the lock. -/
structure PassInput where
  schedules : Bool
  lockIdle : Bool
  lockReset : Bool

namespace GpuSm

variable (c : Config) (s : GpuSm)

/-- Monitoring was stopped. -/
def checkMonitoring : GpuSm :=
  if s.monitoringAllowed then s else { s.occI2cLockRelease with occOwnsLock := false, gpuState := .noLock }

/-- The end of a turn: an I2C reset, or the choice of the next operation. Is there another turn? -/
def endPass (i : PassInput) (start : Bool) : GpuSm × Bool :=
  if s.i2cResetRequired then
    ({ s.checkAndUpdateI2cLock i.lockReset with
        i2cResetRequired := false, occOwnsLock := i.lockReset, gpuState := if i.lockReset then .reset else .noLock }, false)
  else if s.gpuState = .idle then
    match s.gpuSmHandleIdleState c i.lockIdle s.readTempStartNeeded s.memTempNeeded with
    | (s, true) =>
      if s.gpuState = .op .readTemp then (s.startsReading, true)
      else if s.gpuState = .op .readMemoryTemp then ({ s with memTempNeeded := false }, true)
      else (s, true)
    | (s, false) => (s, false)
  else (s, start)

/-- A turn of the loop. -/
def pass (i : PassInput) : GpuSm × Bool :=
  let ran := s.checkMonitoring.runState c i.schedules
  ran.1.endPass c i ran.2

end GpuSm

/-- What a call of the task meets: `gpu_ipc_init`, the lock and the two turns. -/
structure TickInput where
  ipcInit : Bool
  lockBegin : Bool
  pass1 : PassInput
  pass2 : PassInput

namespace GpuSm

variable (c : Config) (s : GpuSm)

/-- The requests are created in the first call. -/
def firstRun (ipcInit : Bool) : GpuSm :=
  if s.gpuFirstRun then { (if ipcInit then s else s.stopMonitoring) with gpuFirstRun := false } else s

/-- Is it time to read temperatures? -/
def countCall : GpuSm :=
  if s.readTempStartNeeded then s
  else if s.numCallsForTempRead + 1 ≥ c.gpuTempRead1S then
    { s with numCallsForTempRead := s.numCallsForTempRead + 1, readTempStartNeeded := true, memTempNeeded := false }
  else { s with numCallsForTempRead := s.numCallsForTempRead + 1 }

/-- The lock is asked for when it is not owned. -/
def askForLock (owns : Bool) : GpuSm :=
  if s.occOwnsLock = false ∨ s.gpuState = .noLock then
    { s.checkAndUpdateI2cLock owns with occOwnsLock := owns, gpuState := if owns then .reset else .noLock }
  else s

/-- The task up to its loop. -/
def beginTick (i : TickInput) : GpuSm :=
  ((s.updateGpuResetStatus.firstRun i.ipcInit).countCall c).askForLock i.lockBegin

/-- `task_gpu_sm` -/
def taskGpuSm (i : TickInput) : GpuSm :=
  if s.monitoringAllowed then
    let first := (s.beginTick c i).pass c i.pass1
    if first.2 then (first.1.pass c i.pass2).1 else first.1
  else s

end GpuSm

/-! ## Runs -/

inductive Event
  | tick (i : TickInput)
  /-- OPAL writes the reset status of a GPU. -/
  | opal (g : Fin 3) (notInReset : Bool)
  /-- The GPE is done with the request. -/
  | gpeDone (rc : Nat) (data : Fin 3 → BitVec 64)
  /-- AMEC asks for a power limit. -/
  | desired (g : Fin 3) (mw : BitVec 32)
  /-- GPUs are found present, by the APSS or a configuration packet. -/
  | allowMonitoring

def next (c : Config) (s : GpuSm) : Event → Option GpuSm
  | .tick i => some (s.taskGpuSm c i)
  | .opal g b => some { s with occFlags := update s.occFlags g b }
  | .gpeDone rc data =>
    if s.requestIdle then none
    else some { s with requestIdle := true, opReqArgs := { s.opReqArgs with rc := rc, data := data } }
  | .desired g mw => some { s with gpu := update s.gpu g { s.gpu g with gpuDesiredPcapMw := mw } }
  | .allowMonitoring => some { s with monitoringAllowed := true }

end Occ.Gpu
