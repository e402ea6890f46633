/-
The DIMM state machine (`dimm.c`), which reads the temperatures of a Nimbus processor's DIMMs over the
configured I2C engine, an operation each tick, and only while the OCC owns the engine's lock. What a temperature is used for is
outside of the model, and so is which DIMMs are there: that comes with the tick.
-/
import Occ.Dimm.I2cLock
import Mathlib

namespace Occ.Dimm

/-- `DIMM_STATE`. -/
inductive DimmState
  | init
  | writeMode
  | writeAddr
  | initiateRead
  | readTemp
  | resetMaster
  | resetSlaveP0
  | resetSlaveP0Wait
  | resetSlaveP0Complete
  | resetSlaveP1
  | resetSlaveP1Wait
  | resetSlaveP1Complete
deriving DecidableEq, Repr

/-- `GPE_RC_SUCCESS` and `GPE_RC_NOT_COMPLETE`. -/
def gpeRcSuccess : Nat := 0x00
def gpeRcNotComplete : Nat := 0x08

def maxTickCountWait : Nat := 2
def maxReadAttempt : Nat := 3
def numDimmsPerI2cPort : Nat := 8

/-- `dimm_sm_args_t`: the return code, and the arguments of an operation. -/
structure DimmArgs where
  rc : Nat
  /-- none before the first operation -/
  state : Option DimmState
  i2cEngine : Option I2cEngine
  i2cAddr : Nat
  i2cPort : Nat
  dimm : Nat
  maxPorts : Nat
deriving DecidableEq, Repr

def DimmArgs.zero : DimmArgs := ⟨0, none, none, 0, 0, 0, 0⟩

/-- What a tick finds around it: the tick's number, whether the engine's interrupt is up, whether the next
DIMM is there and not disabled, and whether the engine takes a request. -/
structure DimmTick where
  dimmTick : Nat
  intTriggered : Bool
  usable : Bool
  schedules : Bool
deriving DecidableEq, Repr

structure DimmSm where
  engine : I2cEngine
  memMonitoringAllowed : Bool
  state : DimmState
  i2cResetRequired : Bool
  maxDimmPort : Nat
  args : DimmArgs
  -- the request: scheduled and not finished, or finished
  running : Bool
  complete : Bool
  -- `task_dimm_sm`
  dimmIndex : Nat
  dimmPort : Nat
  notReadyCount : Nat
  readAttempt : Nat
  readIssued : Bool
  occOwnsLock : Bool
  newArgs : DimmArgs
  -- `dimm_reset_sm`
  resetArgs : DimmArgs
  /-- history: the operations that were started -/
  started : Nat
deriving DecidableEq, Repr

/-- Where `task_dimm_sm` calls `check_and_update_i2c_lock`: after a reset, while it has no lock, and after
a temperature was read. -/
inductive LockCaller
  | reset | claim | read
deriving DecidableEq, Repr

/-- How a part of the task ends: the task is done, it calls the lock's check, or it stops for good and
releases the lock. -/
inductive TaskExit
  | done
  | check (caller : LockCaller)
  | disable
deriving DecidableEq, Repr

namespace DimmSm

variable (d : DimmSm)

/-- `schedule_dimm_req`. -/
def scheduleDimmReq (i_state : DimmState) (i_new_args : DimmArgs) (env : DimmTick) : Bool × DimmSm :=
  if d.running then (false, d)
  else
    let d := { d with args := { i_new_args with rc := 0, state := some i_state } }
    if env.schedules then (true, { d with running := true, complete := false, started := d.started + 1 })
    else (false, d)

/-- `use_next_dimm`. -/
def useNextDimm : DimmSm :=
  if d.dimmIndex + 1 = numDimmsPerI2cPort then { d with dimmPort := 1 - d.dimmPort, dimmIndex := 0 }
  else { d with dimmIndex := d.dimmIndex + 1 }

/-- `mark_dimm_failed`. -/
def markDimmFailed : DimmSm := { d with i2cResetRequired := true, state := .resetMaster }

/-- `check_for_i2c_failure`. -/
def checkForI2cFailure : Bool × DimmSm :=
  if d.complete ∧ d.args.rc ≠ gpeRcSuccess ∧ d.args.rc ≠ gpeRcNotComplete then
    (true, if d.i2cResetRequired then d else d.markDimmFailed)
  else (false, d)

/-- A reset's operation, which leads to the next state when it is scheduled. -/
def resetOp (i_state next : DimmState) (env : DimmTick) : DimmState × DimmSm :=
  let r := d.scheduleDimmReq i_state d.resetArgs env
  (if r.1 then next else d.state, r.2)

/-- `dimm_reset_sm`. -/
def dimmResetSm (env : DimmTick) : DimmState × DimmSm :=
  match d.state with
  | .resetMaster =>
    if env.dimmTick = 0 then
      { d with resetArgs := { d.resetArgs with i2cEngine := some d.engine } }.resetOp .resetMaster .resetSlaveP0 env
    else (d.state, d)
  | .resetSlaveP0 =>
    { d with resetArgs := { d.resetArgs with i2cPort := 0 } }.resetOp .resetSlaveP0 .resetSlaveP0Wait env
  | .resetSlaveP0Wait => (.resetSlaveP0Complete, d)
  | .resetSlaveP0Complete =>
    d.resetOp .resetSlaveP0Complete (if d.maxDimmPort > 0 then .resetSlaveP1 else .init) env
  | .resetSlaveP1 =>
    { d with resetArgs := { d.resetArgs with i2cPort := 1 } }.resetOp .resetSlaveP1 .resetSlaveP1Wait env
  | .resetSlaveP1Wait => (.resetSlaveP1Complete, d)
  | .resetSlaveP1Complete => d.resetOp .resetSlaveP1Complete .init env
  | _ => (.resetMaster, d)

/-- The end of the task: the new state. -/
def update (nextState : DimmState) : DimmSm :=
  if nextState ≠ d.state then { d with state := nextState, notReadyCount := 0 } else d

/-- Whether the prior command has ended, or has been waited for long enough. -/
def ready (env : DimmTick) : Bool := env.intTriggered || decide (d.notReadyCount > maxTickCountWait)

/-- `get_dimm_addr`. -/
def getDimmAddr (i_dimm : Nat) : Nat := 0x30 ||| (i_dimm <<< 1)

/-- The new DIMM state, while the lock is owned and no reset is required. -/
def handleState (nextState : DimmState) (env : DimmTick) : DimmState × DimmSm :=
  match d.state with
  | .writeMode =>
    if env.dimmTick = 0 ∨ env.dimmTick = 8 then
      if env.usable then
        let d := { d with newArgs := { d.newArgs with i2cPort := d.dimmPort, dimm := d.dimmIndex } }
        let r := d.scheduleDimmReq .writeMode d.newArgs env
        (if r.1 then .writeAddr else nextState, r.2)
      else (nextState, d.useNextDimm)
    else (nextState, d)
  | .writeAddr =>
    if d.ready env then
      let d := { d with newArgs := { d.newArgs with dimm := d.dimmIndex, i2cAddr := getDimmAddr d.dimmIndex } }
      let r := d.scheduleDimmReq .writeAddr d.newArgs env
      if r.1 then (.initiateRead, { r.2 with readAttempt := 0, readIssued := false }) else (nextState, r.2)
    else (nextState, d)
  | .initiateRead =>
    if d.ready env then
      let d := { d with newArgs := { d.newArgs with dimm := d.dimmIndex } }
      let r := d.scheduleDimmReq .initiateRead d.newArgs env
      (if r.1 then .readTemp else nextState, r.2)
    else (nextState, d)
  | .readTemp =>
    if d.ready env then
      let r := d.scheduleDimmReq .readTemp d.newArgs env
      if r.1 then (.writeMode, { r.2 with readIssued := true }) else (nextState, r.2)
    else (nextState, d)
  | _ => (nextState, d)

/-- The rest of the task after the prior command was looked at. -/
def handle (nextState : DimmState) (env : DimmTick) : DimmSm :=
  if d.occOwnsLock then
    let r := if d.i2cResetRequired = false then d.handleState nextState env else d.dimmResetSm env
    r.2.update r.1
  else d.update d.state

/-- A read that did not start or end: it is tried again in its state, or the engine is reset. -/
def retry (i_state nextState : DimmState) : DimmState × DimmSm :=
  let d := { d with readAttempt := (d.readAttempt + 1) % 2 ^ 8 }
  if d.readAttempt < maxReadAttempt then (i_state, { d with state := i_state }) else (nextState, d.markDimmFailed)

/-- The prior command has ended: the part of the task up to its call of the lock's check, or the rest. -/
def priorComplete (nextState : DimmState) (env : DimmTick) : DimmSm × TaskExit :=
  if d.args.rc = gpeRcSuccess then
    match d.args.state with
    | some .init => ({ d with maxDimmPort := d.args.maxPorts }.handle nextState env, .done)
    | some .readTemp =>
      if d.readIssued then ({ d.useNextDimm with readIssued := false }, .check .read)
      else (d.handle nextState env, .done)
    | _ => (d.handle nextState env, .done)
  else
    match d.args.state with
    | some .initiateRead =>
      let r := d.retry .initiateRead nextState
      (r.2.handle r.1 env, .done)
    | some .readTemp =>
      if d.readIssued then
        let r := d.retry .readTemp nextState
        (r.2.handle r.1 env, .done)
      else (d.handle nextState env, .done)
    | _ => (d.handle nextState env, .done)

/-- The task when it owns the lock. -/
def operate (env : DimmTick) : DimmSm × TaskExit :=
  if d.occOwnsLock then
    let f := d.checkForI2cFailure
    let d := if f.1 then f.2.useNextDimm else f.2
    if d.state = .init then
      let d := { d with newArgs := { d.newArgs with i2cEngine := some d.engine } }
      let r := d.scheduleDimmReq .init d.newArgs env
      (r.2.update (if r.1 then .writeMode else d.state), .done)
    else
      let nextState := d.state
      let d := if env.intTriggered then d else { d with notReadyCount := (d.notReadyCount + 1) % 2 ^ 8 }
      if d.ready env ∧ d.complete then d.priorComplete nextState env else (d.handle nextState env, .done)
  else (d, .done)

/-- The task when no reset is required. -/
def claim (env : DimmTick) : DimmSm × TaskExit :=
  if d.occOwnsLock = false ∧ (env.dimmTick = 0 ∨ env.dimmTick = 8) then (d, .check .claim) else d.operate env

/-- `task_dimm_sm`, up to its first call of the lock's check. -/
def taskDimmSm (env : DimmTick) : DimmSm × TaskExit :=
  if d.memMonitoringAllowed then
    if d.i2cResetRequired then
      if d.state ≠ .resetMaster ∧ d.checkForI2cFailure.1 then
        ({ d with occOwnsLock := false, memMonitoringAllowed := false }, .disable)
      else if d.state = .init then ({ d with i2cResetRequired := false }, .check .reset)
      else
        let r := d.dimmResetSm env
        ({ r.2 with state := r.1 }, .done)
    else d.claim env
  else (d, .done)

/-- The task after the lock's check has returned. -/
def resume (caller : LockCaller) (owns : Bool) (env : DimmTick) : DimmSm × TaskExit :=
  let d := { d with occOwnsLock := owns }
  match caller with
  | .reset => d.claim env
  | .claim => { d with state := if owns then .init else d.state }.operate env
  | .read => (d.handle d.state env, .done)

end DimmSm

/-! ## Steps -/

/-- The locks, the state machine, and the access that the lock's code makes next. -/
structure DimmSys where
  lock : I2cLock
  dimm : DimmSm
  pc : Option (LockPc (LockCaller × DimmTick))
  /-- history: an operation was started while the host owned the configured engine -/
  conflict : Bool

inductive DimmEvent
  /-- the host asks for an engine's lock, or gives it back -/
  | hostWrite (e : I2cEngine) (b : Bool)
  | hostRead (e : I2cEngine)
  | hostClear
  /-- the OCC's bit of an engine that the DIMMs are not on, which the GPUs' tasks use -/
  | other (e : I2cEngine) (b : Bool)
  /-- the OCC notifies the host of something else -/
  | notify (i_reason : BitVec 8)
  | miscChecks
  | gpeDone (rc maxPorts : Nat)
  | tick (env : DimmTick)
  | access
  /-- `disable_all_dimms`, when the OCC goes to standby or to the safe state -/
  | disable
  /-- the memory's configuration is received -/
  | allow
deriving DecidableEq, Repr

namespace DimmSys

variable (k : DimmSys)

/-- The release in `disable_all_dimms`, of the last operation's engine. -/
def releasePc : Option (LockPc (LockCaller × DimmTick)) :=
  match k.dimm.args.i2cEngine with
  | some e => some (.release e none)
  | none => none

/-- The state after a part of the task. -/
def after (env : DimmTick) (r : DimmSm × TaskExit) : DimmSys where
  lock := k.lock
  dimm := r.1
  pc :=
    match r.2 with
    | .done => none
    | .check caller => some (.flags (caller, env) false true)
    | .disable => k.releasePc
  conflict := k.conflict || (decide (r.1.started ≠ k.dimm.started) && k.lock.hostOwns k.dimm.engine)

/-- One access of the lock's code, and the rest of the task when that returns. -/
def access (p : LockPc (LockCaller × DimmTick)) : DimmSys :=
  let r := k.lock.access k.dimm.engine p
  match r.2 with
  | .pc p => { k with lock := r.1, pc := some p }
  | .ret (caller, env) owns => { k with lock := r.1 }.after env (k.dimm.resume caller owns env)
  | .done => { k with lock := r.1, pc := none }

/-- The state after an event, when it can happen. -/
def next : DimmEvent → Option DimmSys
  | .hostWrite e b => some { k with lock := k.lock.hostWrite e b }
  | .hostRead e => some { k with lock := k.lock.hostRead e }
  | .hostClear => some { k with lock := { k.lock with intr := k.lock.intr.clear } }
  | .other e b => if e = k.dimm.engine then none else some { k with lock := k.lock.setOcc e b }
  | .notify i_reason =>
    if i_reason = htmgtServiceRequired ∨ i_reason = opalSharedMemChange then
      some { k with lock := { k.lock with intr := (k.lock.intr.notifyHost i_reason).2 } }
    else none
  | .miscChecks => some { k with lock := { k.lock with intr := k.lock.intr.taskMisc405Checks } }
  | .gpeDone rc maxPorts =>
    if k.dimm.running then
      some
        { k with
          dimm := { k.dimm with running := false, complete := true, args := { k.dimm.args with rc := rc, maxPorts := maxPorts } } }
    else none
  | .tick env => if k.pc.isNone then some (k.after env (k.dimm.taskDimmSm env)) else none
  | .access =>
    match k.pc with
    | some p => some (k.access p)
    | none => none
  | .disable =>
    if k.pc.isNone then some { k with dimm := { k.dimm with memMonitoringAllowed := false }, pc := k.releasePc } else none
  | .allow => some { k with dimm := { k.dimm with memMonitoringAllowed := true } }

/-- The OCC has started; the host and other tasks may have used the locks before. -/
def start (engine : I2cEngine) (flags : OccFlags) : DimmSys where
  lock :=
    { flags := flags
      intr := ⟨false, 0, 0, 0⟩
      hostOwns := fun _ => false
      released := 0
      writeFailure := false }
  dimm :=
    { engine := engine
      memMonitoringAllowed := false
      state := .init
      i2cResetRequired := false
      maxDimmPort := 1
      args := .zero
      running := false
      complete := false
      dimmIndex := 0
      dimmPort := 0
      notReadyCount := 0
      readAttempt := 0
      readIssued := false
      occOwnsLock := false
      newArgs := .zero
      resetArgs := .zero
      started := 0 }
  pc := none
  conflict := false

end DimmSys

end Occ.Dimm
