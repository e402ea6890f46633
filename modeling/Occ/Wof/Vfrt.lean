/-
The control of WOF on the 405 (`wof.c`): the reasons that disable it, and turning it on and off in the PGPE.

The VFRTs of WOF (`wof.c`): the address of a table in main memory, its copy to one of two buffers in SRAM, the IPC
request that has the PGPE use it, and the state machine that runs at every tick.
-/
import Mathlib.Data.BitVec
import Mathlib.Tactic.Common

namespace Occ.Wof

/-! ## State -/

/-- `wof_init_states` -/
inductive InitState
  | wofDisabled | initialVfrtSentWaiting | initialVfrtSuccess | wofControlOnSentWaiting | pgpeWofEnabledNoPrevData
  | wofEnabled
deriving DecidableEq, Repr

/-- `vfrt_send_states` -/
inductive VfrtState
  | standby | sendInit | needToSchedule | scheduled
deriving DecidableEq, Repr

/-- The two buffers in SRAM that the PGPE reads a VFRT from. -/
inductive VfrtBuffer
  | ping | pong
deriving DecidableEq, Repr

/-- `G_wof_vfrt_parms`, as far as the OCC writes it. -/
structure VfrtParms where
  homerVfrtPtr : Option VfrtBuffer
  activeQuads : BitVec 8
deriving DecidableEq, Repr

/-- `PGPE_ACTION_WOF_ON` and `PGPE_ACTION_WOF_OFF` -/
inductive ControlAction
  | on | off
deriving DecidableEq, Repr

/-- What scheduling a request to the PGPE does: without configured cores it is skipped. -/
inductive ScheduleResult
  | started | skipped | failed
deriving DecidableEq, Repr

/-- The WOF header in `g_amec`, for what the addresses of VFRTs are computed from. -/
structure WofHeader where
  activeQuadsSize : BitVec 8
  vdnStart : BitVec 16
  vdnStep : BitVec 16
  vdnSize : BitVec 16
  vddStart : BitVec 16
  vddStep : BitVec 16
  vddSize : BitVec 16
deriving DecidableEq, Repr

/-- A log of `set_clear_wof_disabled`. -/
structure WofErrl where
  wofDisabled : BitVec 32
  bitMask : BitVec 32
  requestsReset : Bool
deriving DecidableEq, Repr

/-- A call that sets a reason: what it finds, and whether it runs `disable_wof`. -/
structure SetCall where
  prev : BitVec 32
  bitMask : BitVec 32
  errorLogged : Bool
  ranDisable : Bool
deriving DecidableEq, Repr

/-- A block copy that is scheduled: the block copies and the IPC request that are still outstanding. -/
structure SendCall where
  copies : Nat
  vfrtBusy : Bool
deriving DecidableEq, Repr

/-- A VFRT that is copied to SRAM: its buffer, the buffer that the PGPE uses, and the parameters of the IPC request in
flight, as they were sent. -/
structure CopyCall where
  buffer : VfrtBuffer
  curr : Option VfrtBuffer
  inFlight : Option VfrtParms
deriving DecidableEq, Repr

/-- `g_wof`, the requests of WOF, and the static variables of its functions. -/
structure AmecWof where
  header : WofHeader
  vfrtTblsMainMemAddr : BitVec 32
  wofDisabled : BitVec 32
  wofInitState : InitState
  vfrtState : VfrtState
  currPingPongBuf : Option VfrtBuffer
  nextPingPongBuf : Option VfrtBuffer
  currVfrtMainMemAddr : BitVec 32
  nextVfrtMainMemAddr : BitVec 32
  vdnStepFromStart : BitVec 16
  vddStepFromStart : BitVec 16
  quadStepFromStart : BitVec 8
  reqActiveQuadUpdate : BitVec 8
  prevReqActiveQuads : BitVec 8
  numActiveQuads : BitVec 8
  vfrtParms : VfrtParms
  controlAction : ControlAction
  vfrtCallbackError : Bool
  wofVfrtReqRc : BitVec 8
  pgpeWofOff : Bool
  pgpeWofDisabled : Bool
  controlIpcRc : BitVec 32
  vfrtLastChance : BitVec 8
  controlLastChance : BitVec 8
  currentTimeoutRecorded : Bool
  pstateProtocolOff : Bool
  errorLogged : Bool
  /-- block copies scheduled whose callback has not run -/
  copies : Nat
  /-- `G_wof_vfrt_req` is not idle -/
  vfrtBusy : Bool
  /-- `G_wof_control_req` is not idle -/
  controlBusy : Bool
  -- history: the parameters that the last IPC request for a VFRT was sent with, how often `disable_wof` has run, logs
  -- and calls
  vfrtSent : VfrtParms
  disables : Nat
  logs : List WofErrl
  sets : List SetCall
  sends : List SendCall
  copied : List CopyCall
deriving DecidableEq, Repr

/-! ## Reasons -/

def wofRcPgpeWofDisabled : BitVec 32 := 0x00000010
def wofRcPstateProtocolOff : BitVec 32 := 0x00000020
def wofRcVfrtReqTimeout : BitVec 32 := 0x00000040
def wofRcControlReqTimeout : BitVec 32 := 0x00000080
def wofRcStateChange : BitVec 32 := 0x00000100
def wofRcModeChange : BitVec 32 := 0x00000200
def wofRcModeNoSupport : BitVec 32 := 0x00000400
def wofRcDivideByZeroVdd : BitVec 32 := 0x00000800
def wofRcVfrtReqFailure : BitVec 32 := 0x00001000
def wofRcControlReqFailure : BitVec 32 := 0x00002000
def wofRcVfrtAlignmentError : BitVec 32 := 0x00004000
def wofRcDriverWofDisabled : BitVec 32 := 0x00008000
def wofRcUturboIsZero : BitVec 32 := 0x00010000
def wofRcOccWofDisabled : BitVec 32 := 0x00020000
def wofRcOppbWofDisabled : BitVec 32 := 0x00040000
def wofRcSystemWofDisable : BitVec 32 := 0x00080000
def wofRcResetLimitReached : BitVec 32 := 0x00100000
def wofRcUnsupportedFrequencies : BitVec 32 := 0x00200000
def wofRcNoConfiguredCores : BitVec 32 := 0x00400000
def wofRcIpcFailure : BitVec 32 := 0x00800000
def wofRcUserDisabledWof : BitVec 32 := 0x01000000
def wofRcResetDebugCmd : BitVec 32 := 0x02000000
def wofRcDivideByZeroVdn : BitVec 32 := 0x04000000

/-- `ERRL_RETURN_CODES` -/
def errlReturnCodes : BitVec 32 :=
  ~~~(wofRcModeChange ||| wofRcStateChange ||| wofRcModeNoSupport ||| wofRcNoConfiguredCores ||| wofRcResetLimitReached |||
    wofRcUturboIsZero ||| wofRcPstateProtocolOff ||| wofRcUserDisabledWof)

/-- `IGNORE_WOF_RESET` -/
def ignoreWofReset : BitVec 32 := wofRcSystemWofDisable ||| wofRcUnsupportedFrequencies

/-- The reasons of a WOF that has not been enabled yet. -/
def notEnabledYet : BitVec 32 := wofRcOccWofDisabled ||| wofRcOppbWofDisabled

/-- `PGPE_RC_SUCCESS`, `PGPE_WOF_RC_NOT_ENABLED` and `PGPE_WOF_RC_VFRT_QUAD_MISMATCH` -/
def pgpeRcSuccess : BitVec 8 := 0x01
def pgpeWofRcNotEnabled : BitVec 8 := 0x10
def pgpeWofRcVfrtQuadMismatch : BitVec 8 := 0x20

namespace AmecWof

variable (w : AmecWof)

/-! ## `disable_wof` and `set_clear_wof_disabled` -/

/-- `disable_wof`, and what scheduling the WOF control request does. -/
def disableWof (off : ScheduleResult) : AmecWof :=
  let prev := w.wofInitState
  let w := { w with wofInitState := .wofDisabled, disables := w.disables + 1 }
  if InitState.wofControlOnSentWaiting.ctorIdx ≤ prev.ctorIdx then
    if w.controlBusy then w
    else if w.controlIpcRc ≠ 0 then { w with controlIpcRc := 0 }
    else { w with controlAction := .off, controlBusy := decide (off = .started) }
  else w

/-- The end of `set_clear_wof_disabled`, for a reason that logs an error. -/
def logError (bitMask : BitVec 32) : AmecWof :=
  if w.wofDisabled &&& ~~~errlReturnCodes ≠ 0 ∧ bitMask ≠ wofRcResetDebugCmd then w
  else { w with
    logs := ⟨w.wofDisabled, bitMask, decide (bitMask &&& ~~~ignoreWofReset ≠ 0)⟩ :: w.logs
    errorLogged := true }

/-- `set_clear_wof_disabled`, to set a reason. -/
def setReason (off : ScheduleResult) (bitMask : BitVec 32) : AmecWof :=
  let prev := w.wofDisabled
  let w := { w with vfrtState := .standby, wofDisabled := w.wofDisabled ||| bitMask }
  if w.wofDisabled ≠ 0 ∧ bitMask = wofRcResetDebugCmd then w.logError bitMask
  else if w.wofDisabled &&& wofRcOccWofDisabled ≠ 0 ∨ w.wofDisabled &&& wofRcOppbWofDisabled ≠ 0 then w
  else if w.errorLogged then w
  else if w.wofDisabled &&& wofRcDriverWofDisabled ≠ 0 then w
  else
    let logs := decide (w.wofDisabled &&& errlReturnCodes ≠ 0)
    let w := if prev = 0 then w.disableWof off else w
    if logs then w.logError bitMask else w

/-- `set_clear_wof_disabled`, to set a reason, in the history. -/
def setDisabled (off : ScheduleResult) (bitMask : BitVec 32) : AmecWof :=
  { w.setReason off bitMask with
    sets := ⟨w.wofDisabled, bitMask, w.errorLogged, decide (w.disables < (w.setReason off bitMask).disables)⟩ :: w.sets }

/-- `set_clear_wof_disabled`, to clear a reason. -/
def clearDisabled (bitMask : BitVec 32) : AmecWof :=
  let w := { w with wofDisabled := w.wofDisabled &&& ~~~bitMask }
  if bitMask = wofRcOccWofDisabled ∨ bitMask = wofRcOppbWofDisabled then
    if w.wofDisabled &&& notEnabledYet ≠ 0 then w
    else if w.wofDisabled &&& errlReturnCodes ≠ 0 then w.logError bitMask
    else w
  else w

/-! ## `enable_wof` and `wof_control_callback` -/

/-- `enable_wof`, with its result. -/
def enableWof (on off : ScheduleResult) : AmecWof × Bool :=
  if w.controlBusy then (w, false)
  else if w.controlIpcRc ≠ 0 then ({ w with controlIpcRc := 0 }.setDisabled off wofRcControlReqFailure, false)
  else
    let w := { w with controlAction := .on, wofInitState := .wofControlOnSentWaiting, controlBusy := decide (on = .started) }
    if on = .failed then (w.setDisabled off wofRcPgpeWofDisabled, false) else (w, true)

/-- `wof_control_callback` -/
def controlCallback (rc : BitVec 8) : AmecWof :=
  let w := { w with controlBusy := false }
  if rc = pgpeWofRcNotEnabled then { w with pgpeWofDisabled := true }
  else if rc = pgpeRcSuccess then
    match w.controlAction with
    | .on => { w with wofInitState := .pgpeWofEnabledNoPrevData }
    | .off => { w with pgpeWofOff := true }
  else { w with controlIpcRc := rc.setWidth 32 }

end AmecWof

end Occ.Wof

namespace Occ.Wof

/-! ## The address of a VFRT -/

/-- `WOF_HEADER_SIZE` -/
def wofHeaderSize : BitVec 32 := 128

/-- `g_wof->vfrt_block_size` -/
def vfrtBlockSize : BitVec 32 := 256

/-- `MAXIMUM_QUADS` -/
def maximumQuads : BitVec 8 := 6

/-- `calculate_step_from_start` -/
def calculateStepFromStart (ceffRatio stepSize minCeff maxStep : BitVec 16) : BitVec 16 :=
  if ceffRatio ≤ minCeff ∨ stepSize = 0 then 0
  else
    let step := (ceffRatio + stepSize - 1 - minCeff) / stepSize
    if maxStep ≤ step then maxStep - 1 else step

/-- `calc_quad_step_from_start` -/
def calcQuadStepFromStart (activeQuadsSize numActiveQuads : BitVec 8) : BitVec 8 :=
  if activeQuadsSize = 1 then 0 else numActiveQuads - 1

/-- `g_wof->vfrt_mm_offset` -/
def vfrtMmOffset (h : WofHeader) (vdnStep vddStep : BitVec 16) (quadStep : BitVec 8) : BitVec 32 :=
  vfrtBlockSize * (h.activeQuadsSize.setWidth 32 *
    (vdnStep.setWidth 32 * h.vddSize.setWidth 32 + vddStep.setWidth 32) + quadStep.setWidth 32)

/-- How many of the six quads of `req_active_quad_update` are on. -/
def countQuads (req : BitVec 8) : BitVec 8 :=
  .ofNat 8 ((List.range maximumQuads.toNat).countP fun i => req &&& (128 >>> i) ≠ 0)

/-! ## What a tick finds -/

structure TickEnv where
  pstatesEnabled : Bool
  /-- the OCC is active -/
  active : Bool
  ignorePgpeError : Bool
  maxVfrtChances : BitVec 8
  maxControlChances : BitVec 8
  /-- `INT_FLAG_ENABLE_WOF_CHAR_TEST` -/
  charTest : Bool
  /-- the PGPE has asked for a new VFRT -/
  activeQuadUpdate : Bool
  /-- the requested active quads in shared SRAM -/
  reqActiveQuads : BitVec 8
  ceffRatioVdd : BitVec 32
  ceffRatioVdn : BitVec 32
  divideByZeroVdd : Bool
  divideByZeroVdn : Bool
  bceCreated : Bool
  bceScheduled : Bool
  /-- what scheduling a request to turn WOF on or off does -/
  on : ScheduleResult
  off : ScheduleResult
deriving DecidableEq, Repr

namespace AmecWof

variable (w : AmecWof)

/-- `calc_vfrt_mainstore_addr` -/
def calcVfrtMainstoreAddr (charTest : Bool) : BitVec 32 :=
  let offset := if charTest then 0 else vfrtMmOffset w.header w.vdnStepFromStart w.vddStepFromStart w.quadStepFromStart
  w.vfrtTblsMainMemAddr + wofHeaderSize + offset

/-- `read_req_active_quads` -/
def readReqActiveQuads (req : BitVec 8) : AmecWof :=
  { w with reqActiveQuadUpdate := req, numActiveQuads := countQuads req }

/-! ## The copy and its IPC request -/

/-- `send_vfrt_to_pgpe` -/
def sendVfrtToPgpe (env : TickEnv) (addr : BitVec 32) : AmecWof :=
  if addr % 128 ≠ 0 then w.setDisabled env.off wofRcVfrtAlignmentError
  else if addr = w.currVfrtMainMemAddr ∧ w.reqActiveQuadUpdate = w.prevReqActiveQuads ∧ env.activeQuadUpdate = false then w
  else if env.bceCreated = false then w.setDisabled env.off wofRcIpcFailure
  else if w.vfrtState = .standby then
    let w := { w with vfrtState := .sendInit }
    if env.bceScheduled then { w with copies := w.copies + 1, sends := ⟨w.copies, w.vfrtBusy⟩ :: w.sends }
    else w.setDisabled env.off wofRcIpcFailure
  else w

/-- `send_initial_vfrt_to_pgpe` -/
def sendInitialVfrtToPgpe (env : TickEnv) : AmecWof :=
  let w := { w with
    vdnStepFromStart := w.header.vdnSize - 1
    vddStepFromStart := w.header.vddSize - 1
    quadStepFromStart := maximumQuads - 1 }
  let w := { w with nextVfrtMainMemAddr := w.calcVfrtMainstoreAddr env.charTest }
  let w := if w.wofInitState = .wofDisabled then { w with wofInitState := .initialVfrtSentWaiting } else w
  w.sendVfrtToPgpe env w.nextVfrtMainMemAddr

/-- The buffer that the PGPE does not use. -/
def otherBuffer : VfrtBuffer := if w.currPingPongBuf = some .ping then .pong else .ping

/-- `copy_vfrt_to_sram_callback` -/
def copyVfrtToSramCallback : AmecWof :=
  { w with
    nextPingPongBuf := some w.otherBuffer
    vfrtParms := ⟨some w.otherBuffer, w.reqActiveQuadUpdate⟩
    vfrtState := if w.vfrtState = .standby then .standby else .needToSchedule
    copies := w.copies - 1
    copied := ⟨w.otherBuffer, w.currPingPongBuf, if w.vfrtBusy then some w.vfrtSent else none⟩ :: w.copied }

/-- `schedule_vfrt_request` -/
def scheduleVfrtRequest (vfrt off : ScheduleResult) : AmecWof :=
  if w.vfrtState = .needToSchedule ∧ w.vfrtBusy = false then
    let w := { w with vfrtState := .scheduled }
    match vfrt with
    | .started => { w with vfrtBusy := true, vfrtSent := w.vfrtParms }
    | .skipped => w
    | .failed =>
      let w := if w.wofInitState = .initialVfrtSentWaiting then { w with wofInitState := .wofDisabled } else w
      w.setDisabled off wofRcIpcFailure
  else w

/-- `wof_vfrt_callback` -/
def wofVfrtCallback (rc reqActiveQuads : BitVec 8) : AmecWof :=
  let w := { w with vfrtBusy := false, vfrtState := .standby }
  if rc = pgpeWofRcVfrtQuadMismatch then w.readReqActiveQuads reqActiveQuads
  else if rc = pgpeRcSuccess then
    { w with
      currPingPongBuf := w.nextPingPongBuf
      prevReqActiveQuads := w.reqActiveQuadUpdate
      currVfrtMainMemAddr := w.nextVfrtMainMemAddr
      wofInitState := if w.wofInitState = .initialVfrtSentWaiting then .initialVfrtSuccess else w.wofInitState }
  else { w with vfrtCallbackError := true, wofVfrtReqRc := rc }

/-! ## `call_wof_main` -/

/-- The ratio and its division by zero. -/
def calculateCeffRatioVdd (env : TickEnv) : AmecWof :=
  if env.divideByZeroVdd then w.setDisabled env.off wofRcDivideByZeroVdd else w

def calculateCeffRatioVdn (env : TickEnv) : AmecWof :=
  if env.divideByZeroVdn then w.setDisabled env.off wofRcDivideByZeroVdn else w

/-- The steps from start of `wof_main`. -/
def calculateSteps (env : TickEnv) : AmecWof :=
  let ratioVdd := if env.divideByZeroVdd then 0 else env.ceffRatioVdd
  let ratioVdn := if env.divideByZeroVdn then 0 else env.ceffRatioVdn
  { w with
    vdnStepFromStart := calculateStepFromStart (ratioVdn.setWidth 16) w.header.vdnStep w.header.vdnStart w.header.vdnSize
    vddStepFromStart := calculateStepFromStart (ratioVdd.setWidth 16) w.header.vddStep w.header.vddStart w.header.vddSize
    quadStepFromStart := calcQuadStepFromStart w.header.activeQuadsSize w.numActiveQuads }

/-- `wof_main` -/
def wofMain (env : TickEnv) : AmecWof :=
  let w := w.readReqActiveQuads env.reqActiveQuads
  let w := ((w.calculateCeffRatioVdd env).calculateCeffRatioVdn env).calculateSteps env
  let w := { w with nextVfrtMainMemAddr := w.calcVfrtMainstoreAddr env.charTest }
  w.sendVfrtToPgpe env w.nextVfrtMainMemAddr

/-- A request is still not complete: the last chance, one chance less, or PGPE errors are ignored. -/
def vfrtNotComplete (env : TickEnv) : AmecWof :=
  if w.vfrtLastChance = 0 ∧ env.ignorePgpeError = false then w.setDisabled env.off wofRcVfrtReqTimeout
  else if w.vfrtLastChance ≠ 0 then { w with vfrtLastChance := w.vfrtLastChance - 1 }
  else { w with currentTimeoutRecorded := true }

def controlNotComplete (env : TickEnv) : AmecWof :=
  if w.controlLastChance = 0 ∧ env.ignorePgpeError = false then w.setDisabled env.off wofRcControlReqTimeout
  else if w.controlLastChance ≠ 0 then { w with controlLastChance := w.controlLastChance - 1 }
  else { w with currentTimeoutRecorded := true }

/-- The initial state machine. -/
def initTick (env : TickEnv) : AmecWof :=
  if w.wofDisabled = 0 then
    match w.wofInitState with
    | .wofDisabled =>
      { w with vfrtLastChance := env.maxVfrtChances, controlLastChance := env.maxControlChances }.sendInitialVfrtToPgpe env
    | .initialVfrtSentWaiting => if w.vfrtBusy ∨ w.vfrtState ≠ .standby then w.vfrtNotComplete env else w
    | .initialVfrtSuccess =>
      let r := { w with vfrtLastChance := env.maxVfrtChances }.enableWof env.on env.off
      if r.2 then { r.1 with controlLastChance := env.maxControlChances, currentTimeoutRecorded := false }
      else r.1.controlNotComplete env
    | .wofControlOnSentWaiting =>
      if w.controlBusy then w.controlNotComplete env else { w with currentTimeoutRecorded := false }
    | .pgpeWofEnabledNoPrevData | .wofEnabled => w
  else w

/-- The algorithm, once WOF is enabled in the PGPE. -/
def runTick (env : TickEnv) : AmecWof :=
  if InitState.pgpeWofEnabledNoPrevData.ctorIdx ≤ w.wofInitState.ctorIdx ∧ w.wofDisabled = 0 then
    if w.vfrtBusy ∨ w.vfrtState ≠ .standby then w.vfrtNotComplete env
    else
      let w := { w with currentTimeoutRecorded := false }.wofMain env
      { w with
        vfrtLastChance := env.maxVfrtChances
        wofInitState := if w.wofInitState = .pgpeWofEnabledNoPrevData then .wofEnabled else w.wofInitState }
  else w

/-- What the callbacks have left to the tick. -/
def beginTick (env : TickEnv) : AmecWof :=
  let w := if w.wofInitState = .pgpeWofEnabledNoPrevData then w.clearDisabled wofRcPgpeWofDisabled else w
  let w := if w.vfrtCallbackError then
      { w.setDisabled env.off wofRcVfrtReqFailure with vfrtCallbackError := false }
    else w
  if w.pgpeWofOff ∧ w.wofDisabled = wofRcPgpeWofDisabled then
    { w with pgpeWofOff := false }.clearDisabled wofRcPgpeWofDisabled
  else w

/-- `call_wof_main` -/
def callWofMain (env : TickEnv) : AmecWof :=
  let w := w.beginTick env
  if w.wofDisabled ≠ 0 then
    if w.pgpeWofDisabled then { w.setDisabled env.off wofRcPgpeWofDisabled with pgpeWofDisabled := false } else w
  else if env.pstatesEnabled = false then
    if w.pstateProtocolOff then w
    else { w.setDisabled env.off wofRcPstateProtocolOff with pstateProtocolOff := true }
  else
    let w := if w.pstateProtocolOff then { w.clearDisabled wofRcPstateProtocolOff with pstateProtocolOff := false } else w
    if env.active then (w.initTick env).runTick env else w

end AmecWof

/-! ## Events -/

inductive WofEvent
  | tick (env : TickEnv)
  | schedule (vfrt off : ScheduleResult)
  | copyDone
  | vfrtDone (rc reqActiveQuads : BitVec 8)
  | controlDone (rc : BitVec 8)
  | set (off : ScheduleResult) (bitMask : BitVec 32)
  | clear (bitMask : BitVec 32)
deriving DecidableEq, Repr

def AmecWof.next (w : AmecWof) : WofEvent → Option AmecWof
  | .tick env => some (w.callWofMain env)
  | .schedule vfrt off => some (w.scheduleVfrtRequest vfrt off)
  | .copyDone => if w.copies ≠ 0 then some w.copyVfrtToSramCallback else none
  | .vfrtDone rc reqActiveQuads => if w.vfrtBusy then some (w.wofVfrtCallback rc reqActiveQuads) else none
  | .controlDone rc => if w.controlBusy then some (w.controlCallback rc) else none
  | .set off bitMask => some (w.setDisabled off bitMask)
  | .clear bitMask => some (w.clearDisabled bitMask)

/-- `MAX_VFRT_CHANCES_EVERY_TICK` and `MAX_WOF_CONTROL_CHANCES_EVERY_TICK` -/
def maxChancesEveryTick : BitVec 8 := 16

/-- At boot WOF is disabled until the OCC is told to enable it. -/
def AmecWof.start (header : WofHeader) (vfrtTblsMainMemAddr : BitVec 32) : AmecWof :=
  { header := header
    vfrtTblsMainMemAddr := vfrtTblsMainMemAddr
    wofDisabled := wofRcOccWofDisabled
    wofInitState := .wofDisabled
    vfrtState := .standby
    currPingPongBuf := none
    nextPingPongBuf := none
    currVfrtMainMemAddr := 0
    nextVfrtMainMemAddr := 0
    vdnStepFromStart := 0
    vddStepFromStart := 0
    quadStepFromStart := 0
    reqActiveQuadUpdate := 0
    prevReqActiveQuads := 0
    numActiveQuads := 0
    vfrtParms := ⟨none, 0⟩
    controlAction := .off
    vfrtCallbackError := false
    wofVfrtReqRc := 0
    pgpeWofOff := false
    pgpeWofDisabled := false
    controlIpcRc := 0
    vfrtLastChance := maxChancesEveryTick
    controlLastChance := maxChancesEveryTick
    currentTimeoutRecorded := false
    pstateProtocolOff := false
    errorLogged := false
    copies := 0
    vfrtBusy := false
    controlBusy := false
    vfrtSent := ⟨none, 0⟩
    disables := 0
    logs := []
    sets := []
    sends := []
    copied := [] }

end Occ.Wof
