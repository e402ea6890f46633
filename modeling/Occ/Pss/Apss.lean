/-
The power measurements from the APSS (`apss.c`, `apss_read.c`, and the wait in `dcomMasterTx.c`): three tasks of a tick
schedule the programs that read the APSS, the callback of the last one puts the data together, and the task that sends
the inboxes waits for it in the same tick. The programs run on a GPE, one after another in the order they were scheduled
in, and end whenever they end; an error in the data has the APSS reset by a task of its own. Traces, time stamps and the
error logs about failed programs are left out.
-/
import Occ.Dcom.InboxTx
import Occ.Lib.Transition
import Mathlib.Logic.Function.Basic
import Occ.Lib.Literals

namespace Occ.Pss

open Dcom Transition
open Function (update)

attribute [local instance] neZero_four

/-! ## State -/

/-- The programs that are scheduled on `G_async_gpe_queue0` for the APSS. -/
inductive GpeFunc
  | startPwrMeas | continuePwrMeas | completePwrMeas | reset | initGpio | initMode
deriving DecidableEq, Repr

/-- A word of `meas_data`, with the tick of the request that read it, which nothing reads. -/
structure MeasWord where
  value : BitVec 64
  tick : Nat
deriving DecidableEq, Repr

/-- A `GpeRequest` with `error` of its arguments and with `L_scheduled_…` of the reset task. -/
structure GpeReq where
  idle : Bool
  error : BitVec 64
  scheduled : Bool
  -- history: the tick in which the request was scheduled last, and whether it has ended without error since
  tick : Option Nat
  good : Bool
deriving DecidableEq, Repr

/-- The tasks of a tick that matter here, in their order. -/
inductive Phase
  | apssReset | apssStart | apssCont | apssDone | txInbox
deriving DecidableEq, Repr

/-- A use of the measurement: the tick, whether the data is faked then, the ticks that the data is from, and the ticks of
the three requests if they ended without error. -/
structure ApssUse where
  tick : Nat
  faked : Bool
  adc : Fin 4 → Nat
  gpio : Nat
  tod : Nat
  requests : GpeFunc → Option Nat

structure Apss where
  currentTick : Nat
  phase : Phase
  role : OccRole
  standby : Bool
  pwrReadingTypeApss : Bool
  nvdimmEpow : BitVec 8
  injectedEpowAsserted : Bool
  -- `RTL_FLAG_RUN` of the three measurement tasks, and of the reset task
  measRun : Bool
  resetRun : Bool
  queue : List GpeFunc
  requests : GpeFunc → GpeReq
  continueData : Fin 4 → MeasWord
  completeData : Fin 4 → MeasWord
  mboxScratch7 : BitVec 32
  apssPwrMeas : ApssPwrMeas
  completed : Bool
  doneInvalid : Bool
  recoveryRequested : Bool
  backupFailCount : Nat
  apssResetCount : Nat
  apssResetState : Nat
  resetRequested : Bool
  -- history: the ticks that `G_apss_pwr_meas` is from, the last tick in which the start task ran, and the uses
  adcTick : Fin 4 → Nat
  gpioTick : Nat
  todTick : Nat
  startTick : Option Nat
  uses : List ApssUse

def maxBackupFailures : Nat := 8
def apssMaxNumResetRetries : Nat := 3
def apssResetStateWaitDone : Nat := 51
def apssResetStateReinit : Nat := 52
def apssResetStateComplete : Nat := 53
def syscfgInvalidPin : BitVec 8 := 0xFF
def epowCsave : BitVec 32 := 0xCAFEB0FF
def apssAdcSeqMask : BitVec 64 := 0xf000f000f000f000
def apssAdcSeqCheck : BitVec 64 := 0x0000100020003000

namespace Apss

variable (s : Apss)

/-! ## Requests -/

def setRequest (f : GpeFunc) (q : GpeReq) : Apss := { s with requests := update s.requests f q }

def clearError (f : GpeFunc) : Apss := s.setRequest f { s.requests f with error := 0 }

/-- `gpe_request_schedule`, which fails on a request that is not idle. -/
def schedule (f : GpeFunc) (failed : Bool) : Apss × Bool :=
  if failed || !(s.requests f).idle then (s, true)
  else
    ({ s.setRequest f { s.requests f with idle := false, tick := some s.currentTick, good := false } with
      queue := s.queue ++ [f] }, false)

/-- A measurement task: it schedules its program, and an error asks for a reset. -/
def measure (f : GpeFunc) (failed : Bool) : Apss :=
  let (s, rc) := (s.clearError f).schedule f failed
  if rc then { s with resetRequested := true } else s

/-! ## Tasks -/

/-- `do_apss_recovery`. -/
def doApssRecovery : Apss :=
  if s.role = .slave then
    if s.backupFailCount < maxBackupFailures then
      { s with backupFailCount := s.backupFailCount + 1, measRun := false, resetRun := true }
    else { s with measRun := false }
  else if s.apssResetCount < apssMaxNumResetRetries then
    { s with measRun := false, apssResetCount := s.apssResetCount + 1, resetRun := true }
  else { s with measRun := false, resetRequested := true }

/-- `task_apss_start_pwr_meas`: the flags are cleared in any case. -/
def taskApssStartPwrMeas (failed : Bool) : Apss :=
  let s :=
    if !(s.requests .startPwrMeas).idle then s
    else if s.recoveryRequested then s.doApssRecovery
    else s.measure .startPwrMeas failed
  { s with completed := false, doneInvalid := false, startTick := some s.currentTick }

/-- `task_apss_continue_pwr_meas`. -/
def taskApssContinuePwrMeas (failed : Bool) : Apss :=
  if !(s.requests .continuePwrMeas).idle then s
  else if s.recoveryRequested then s
  else s.measure .continuePwrMeas failed

/-- `task_apss_complete_pwr_meas`. -/
def taskApssCompletePwrMeas (failed : Bool) : Apss :=
  if !(s.requests .completePwrMeas).idle then s
  else if s.recoveryRequested then s
  else s.measure .completePwrMeas failed

def setScheduled (f : GpeFunc) (scheduled : Bool) : Apss := s.setRequest f { s.requests f with scheduled := scheduled }

/-- A request of the reset task was scheduled before and is not over. -/
def waitsFor (f : GpeFunc) : Bool := (s.requests f).scheduled && !(s.requests f).idle

/-- The part of the reset task after its waits: the next request, and whether it could not be scheduled. -/
def nextReset (failed : Bool) : Apss × Bool :=
  if s.apssResetState ≤ 1 then
    let (s, rc) := s.schedule .reset failed
    (s.setScheduled .reset true, rc)
  else if s.apssResetState = apssResetStateWaitDone then
    let (s, rc) := (s.clearError .initGpio).schedule .initGpio failed
    ((s.setScheduled .reset false).setScheduled .initGpio true, rc)
  else if s.apssResetState = apssResetStateReinit then
    let (s, rc) := (s.clearError .initMode).schedule .initMode failed
    ((s.setScheduled .initGpio false).setScheduled .initMode true, rc)
  else (s, false)

/-- `task_apss_reset`. -/
def taskApssReset (failed : Bool) : Apss :=
  if s.waitsFor .reset || s.waitsFor .initGpio || s.waitsFor .initMode then s
  else if s.apssResetState = apssResetStateComplete then
    { s.setScheduled .initMode false with
      apssResetState := 0, resetRun := false, measRun := true, recoveryRequested := false }
  else
    let (s, rc) := s.nextReset failed
    if rc then
      { ((s.setScheduled .reset false).setScheduled .initGpio false).setScheduled .initMode false with
        resetRequested := true }
    else { s with apssResetState := s.apssResetState + 1 }

/-! ## The data -/

/-- A halfword of a word, the first in its highest bits. -/
def halfword (w : MeasWord) (k : Nat) : BitVec 16 := w.value.extractLsb' (16 * (3 - k)) 16

/-- The pin of an EPOW reads as 0. -/
def clearEpowPin (gpio : Vector (BitVec 16) 2) : Vector (BitVec 16) 2 :=
  let port := s.nvdimmEpow.toNat / 8
  gpio.setIfInBounds port ((gpio[port]?).getD 0 &&& ~~~(1#16 <<< (s.nvdimmEpow.toNat % 8)))

/-- The measurements of both programs in `G_apss_pwr_meas`. -/
def copyMeas : Apss :=
  let gpio := #v[halfword (s.completeData 0) 0, halfword (s.completeData 0) 1]
  let epow := s.nvdimmEpow ≠ syscfgInvalidPin ∧ (s.injectedEpowAsserted = true ∨ s.mboxScratch7 = epowCsave)
  { s with
    apssPwrMeas :=
      { adc := .ofFn fun i => halfword (s.continueData ⟨i.1 / 4, by omega⟩) (i.1 % 4)
        gpio := if epow then s.clearEpowPin gpio else gpio
        tod := (s.completeData 3).value }
    adcTick := fun i => (s.continueData i).tick
    gpioTick := (s.completeData 0).tick
    todTick := (s.completeData 3).tick }

/-- The sequence nibbles of the first four channels, which are not all zero otherwise. -/
def seqOk : Bool :=
  (s.continueData 0).value &&& apssAdcSeqMask == apssAdcSeqCheck && (s.continueData 0).value &&& ~~~apssAdcSeqMask != 0

/-- `reformat_meas_data`, the callback of the last program. -/
def reformatMeasData : Apss :=
  if (s.requests .completePwrMeas).error ≠ 0 then { s with doneInvalid := true }
  else if !s.seqOk then { s with doneInvalid := true, recoveryRequested := true }
  else
    let s := { s with backupFailCount := s.backupFailCount - 1 }
    let s := if s.role = .master then s.copyMeas else s
    { s with completed := true }

/-! ## Programs -/

end Apss

/-- How a program ends: without error; with an error, after it has read some words; or without a proper response, and then
it may not have run at all. -/
inductive GpeResult
  | ok (words : Fin 4 → BitVec 64) (scratch7 : BitVec 32)
  | error (rc : BitVec 64) (words : List (BitVec 64)) (scratch7 : BitVec 32)
  | ipcFailed

/-- An error is not 0. -/
def GpeResult.proper : GpeResult → Bool
  | .error rc _ _ => rc != 0
  | _ => true

/-- Words are stored in the order in which a program reads them. -/
def storeWords (tick : Nat) : List (Fin 4) → List (BitVec 64) → (Fin 4 → MeasWord) → Fin 4 → MeasWord
  | i :: order, w :: words, data => storeWords tick order words (update data i ⟨w, tick⟩)
  | _, _, data => data

def continueOrder : List (Fin 4) := [0, 1, 2, 3]
def completeOrder : List (Fin 4) := [3, 0]

namespace Apss

variable (s : Apss)

/-- The words that a program stores. -/
def storeData (f : GpeFunc) (words : List (Fin 4) → List (BitVec 64)) (scratch7 : BitVec 32) : Apss :=
  let tick := ((s.requests f).tick).getD 0
  match f with
  | .continuePwrMeas => { s with continueData := storeWords tick continueOrder (words continueOrder) s.continueData }
  | .completePwrMeas =>
    { s with completeData := storeWords tick completeOrder (words completeOrder) s.completeData, mboxScratch7 := scratch7 }
  | _ => s

/-- What a program leaves behind. -/
def runProgram (f : GpeFunc) : GpeResult → Apss
  | .ok words scratch7 =>
    (s.storeData f (fun order => order.map words) scratch7).setRequest f { s.requests f with idle := true, good := true }
  | .error rc words scratch7 =>
    (s.storeData f (fun _ => words) scratch7).setRequest f { s.requests f with idle := true, error := rc }
  | .ipcFailed => s.setRequest f { s.requests f with idle := true }

/-- A program ends; the last one has its callback run. -/
def gpeEnd (f : GpeFunc) (rest : List GpeFunc) (r : GpeResult) : Apss :=
  let s := { s with queue := rest }.runProgram f r
  if f = .completePwrMeas then s.reformatMeasData else s

/-! ## The task that waits -/

/-- There is nothing to wait for: standby, no APSS, or its recovery. -/
def faked : Bool := s.standby || !s.pwrReadingTypeApss || s.recoveryRequested

/-- A turn of the wait of `task_dcom_tx_slv_inbox`, and how it ends; `late` is whether its time is over. -/
def poll (late : Bool) : Apss × Option ApssWait :=
  let s := if s.faked then { s with completed := true } else s
  if s.completed then (s, some .completed)
  else if s.doneInvalid then (s, some .doneInvalid)
  else if late then (s, some .timedOut)
  else (s, none)

/-- The measurement is used. -/
def use : Apss :=
  { s with uses := ⟨s.currentTick, s.faked, s.adcTick, s.gpioTick, s.todTick,
      fun f => if (s.requests f).good then (s.requests f).tick else none⟩ :: s.uses }

def nextTick : Apss := { s with currentTick := s.currentTick + 1, phase := .apssReset }

/-- The wait, to its end or for one turn more. -/
def txInbox (late : Bool) : Apss :=
  match s.poll late with
  | (s, some .completed) => s.use.nextTick
  | (s, some _) => s.nextTick
  | (s, none) => s

/-- The next task of the tick, if it may run; `failed` is what `gpe_request_schedule` says. -/
def task (run failed late : Bool) : Apss :=
  match s.phase with
  | .apssReset => { if run && s.resetRun then s.taskApssReset failed else s with phase := .apssStart }
  | .apssStart => { if run && s.measRun then s.taskApssStartPwrMeas failed else s with phase := .apssCont }
  | .apssCont => { if run && s.measRun then s.taskApssContinuePwrMeas failed else s with phase := .apssDone }
  | .apssDone => { if run && s.measRun then s.taskApssCompletePwrMeas failed else s with phase := .txInbox }
  | .txInbox => if run && s.role == .master then s.txInbox late else s.nextTick

end Apss

/-! ## Steps -/

/-- Between two ticks, commands may change the role, the state and the configuration; the next task runs, or is skipped;
the program at the head of the queue ends. -/
inductive ApssEvent
  | config (role : OccRole) (standby pwrReadingTypeApss : Bool) (nvdimmEpow : BitVec 8) (injectedEpowAsserted : Bool)
  | task (run failed late : Bool)
  | gpe (r : GpeResult)

def apssNext (s : Apss) : ApssEvent → Option Apss
  | .config role standby pwrReadingTypeApss nvdimmEpow injectedEpowAsserted =>
    if s.phase = .apssReset then
      some { s with
        role := role, standby := standby, pwrReadingTypeApss := pwrReadingTypeApss, nvdimmEpow := nvdimmEpow
        injectedEpowAsserted := injectedEpowAsserted }
    else none
  | .task run failed late => some (s.task run failed late)
  | .gpe r =>
    match s.queue with
    | f :: rest => if r.proper then some (s.gpeEnd f rest r) else none
    | [] => none

def Apss.boot : Apss :=
  { currentTick := 0, phase := .apssReset, role := .slave, standby := true, pwrReadingTypeApss := false
    nvdimmEpow := syscfgInvalidPin, injectedEpowAsserted := false, measRun := true, resetRun := false, queue := []
    requests := fun _ => ⟨true, 0, false, none, false⟩, continueData := fun _ => ⟨0, 0⟩, completeData := fun _ => ⟨0, 0⟩
    mboxScratch7 := 0, apssPwrMeas := .zero, completed := false, doneInvalid := false, recoveryRequested := false
    backupFailCount := 0, apssResetCount := 0, apssResetState := 0, resetRequested := false, adcTick := fun _ => 0
    gpioTick := 0, todTick := 0, startTick := none, uses := [] }

end Occ.Pss
