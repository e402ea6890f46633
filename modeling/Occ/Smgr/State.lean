/-
The OCC state manager (`state.c`): the state, the RTL run mask and the WOF disable word that the
transition handlers write, the environment one call reads (configuration data present, PGPE return
codes, the pstate status as it is polled), the nine specific transitions and the two from any state,
the transition table, and `SMGR_set_state`.
-/
import Occ.Lib.Mask
import Mathlib.Tactic

namespace Occ.Smgr

open Occ

/-! ## Data -/

/-- `OCC_STATE`; every other byte behaves as `invalid`. -/
inductive OccState
  | nochange | standby | observation | active | safe | characterization | all | invalid
deriving DecidableEq, Repr

/-- The value of a state on the wire. -/
def OccState.code : OccState → Int
  | .nochange => 0x00
  | .standby => 0x01
  | .observation => 0x02
  | .active => 0x03
  | .safe => 0x04
  | .characterization => 0x05
  | .all => 0xFE
  | .invalid => 0xFF

/-- `RTL_FLAG_*`. -/
abbrev RtlFlags := BitVec 32

namespace RtlFlags

def run : RtlFlags := 0x00000001
def obs : RtlFlags := 0x00000008
def active : RtlFlags := 0x00000010
def rstReq : RtlFlags := 0x00000020
def mstrReady : RtlFlags := 0x00000080
def standby : RtlFlags := 0x00000100
def apssNotInitd : RtlFlags := 0x00000200

/-- The flags that name an operating state. -/
def states : RtlFlags := standby ||| obs ||| active

/-- `GLOBAL_RUN_MASK`. -/
def globalRunMask : RtlFlags := run ||| standby ||| mstrReady ||| apssNotInitd

end RtlFlags

/-- `WOF_RC_STATE_CHANGE`. -/
def wofRcStateChange : BitVec 32 := 0x00000100

/-- `WOF_RC_OCC_WOF_DISABLED`. -/
def wofRcOccWofDisabled : BitVec 32 := 0x00020000

namespace DataMask

def freqPresent : BitVec 32 := 0x00000002
def setRole : BitVec 32 := 0x00000004
def apssConfig : BitVec 32 := 0x00000008
def pcapPresent : BitVec 32 := 0x00000010
def sysCnfg : BitVec 32 := 0x00000020
def avsbusConfig : BitVec 32 := 0x00000040
def thrmThresholds : BitVec 32 := 0x00000080
def memCfg : BitVec 32 := 0x00000200

/-- `SMGR_VALIDATE_DATA_OBSERVATION_MASK_HARDCODES`. -/
def observation : BitVec 32 :=
  sysCnfg ||| apssConfig ||| setRole ||| memCfg ||| thrmThresholds ||| avsbusConfig

/-- `SMGR_VALIDATE_DATA_ACTIVE_MASK_HARDCODES`. -/
def active : BitVec 32 := observation ||| freqPresent ||| pcapPresent

end DataMask

/-- `pstateStatus`. -/
inductive PstateStatus
  | inTransition | disabled | enabled | failed
deriving DecidableEq, Repr

/-- `PMCR_OWNER`. -/
inductive PmcrOwner
  | host | occ | char
deriving DecidableEq, Repr

/-- The requests the handlers make to the PGPE, with their arguments; a clip is given by the
frequency it is computed from, or is pstate 0. -/
inductive PgpeCall
  | setClipPstate0
  | setClipFreq (mhz : Nat)
  | setNominal
  | pstateStart (owner : PmcrOwner)
  | pstateStop (owner : PmcrOwner)
deriving DecidableEq, Repr

/-- The extended reason codes of the handlers' error logs. -/
inductive ExtRc
  | noExtendedRc | genericTimeout | runningSemPendingFailure | pgpeStartSuspendFailure
  | pgpeSetNominalFailure | pgpeClipFailure | pgpeActiveToObservationTimeout | pgpeTaskTimeout
  | smgrNoValidStateTransitionCall | stateFromObsToActFailure | stateFromActToChrFailure
  | stateFromChrToObsFailure | stateFromObsToChrFailure | stateFromStbToChrFailure
  | stateFromStbToObsFailure
deriving DecidableEq, Repr

/-- `INTERNAL_FAILURE`. -/
def internalFailure : Int := 0x00
/-- `SSX_GENERIC_FAILURE`. -/
def ssxGenericFailure : Int := 0x17
/-- `INTERNAL_FW_FAILURE`. -/
def internalFwFailure : Int := 0xA0
/-- `PGPE_FAILURE`. -/
def pgpeFailure : Int := 0xD3

/-- The part of an error log a handler fills in (its severity is informational or unrecoverable). -/
structure Errl where
  reasonCode : Int
  extRc : ExtRc
  informational : Bool
  userdata1 : Int
  userdata2 : Int
deriving DecidableEq, Repr

/-- The globals and function statics the state manager reads and writes. -/
structure Globals where
  /-- `G_occ_internal_state`, `CURRENT_STATE()` -/
  currentState : OccState
  /-- `G_occ_internal_req_state`, `REQUESTED_STATE()` -/
  requestedState : OccState
  externalReqState : OccState
  runMaskDeferred : RtlFlags
  wofDisabled : BitVec 32
  stateTransitionOccuring : Bool
  setPStates : Bool
  allowPstates : Bool
  mnfgQuadPstate : Nat → BitVec 8
  /-- `L_error_logged` of `SMGR_standby_to_observation` -/
  stbToObsLogged : Bool
  /-- `L_error_logged` of `SMGR_standby_to_characterization` -/
  stbToChrLogged : Bool
  /-- `L_error_logged` of `SMGR_observation_to_characterization` -/
  obsToChrLogged : Bool
  /-- `L_error_logged` of `SMGR_observation_to_active` -/
  obsToActLogged : Bool
  /-- posts of `G_dcomThreadWakeupSem` -/
  dcomWakeups : Nat
  pgpeCalls : List PgpeCall
  committed : List Errl

/-- What one call of `SMGR_set_state` reads from the rest of the firmware. The configuration data
and the pstate status are read several times, and other threads may change them in between. -/
structure Env where
  /-- return code of the pend on `G_smgrStateChangeSem` -/
  pendRc : Int
  presentCnfgdata : Nat → BitVec 32
  presentCores : BitVec 32
  kvm : Bool
  occMaster : Bool
  turboFreq : Nat
  nominalFreq : Nat
  procFmaxMhz : Nat
  pmcrOwner : PmcrOwner
  clipRc : Int
  nominalRc : Int
  startSuspendRc : Int
  pstateStatus : Nat → PstateStatus
  /-- polls of the pstate status that fit in the five seconds allowed -/
  pollsBeforeTimeout : Nat
  micsPerTick : Nat
  occflg : Int

/-- The globals as the image initialises them, with WOF disabled by `amec_init_gamec_struct`. -/
def Globals.boot : Globals where
  currentState := .standby
  requestedState := .nochange
  externalReqState := .nochange
  runMaskDeferred := RtlFlags.globalRunMask
  wofDisabled := wofRcOccWofDisabled
  stateTransitionOccuring := false
  setPStates := false
  allowPstates := false
  mnfgQuadPstate := fun _ => 0xFF
  stbToObsLogged := false
  stbToChrLogged := false
  obsToChrLogged := false
  obsToActLogged := false
  dcomWakeups := 0
  pgpeCalls := []
  committed := []

/-! ## The functions the handlers share -/

namespace Globals

variable (s : Globals)

/-- `rtl_set_run_mask_deferred`. -/
def rtlSetRunMaskDeferred (flags : RtlFlags) : Globals :=
  { s with runMaskDeferred := Mask.set s.runMaskDeferred flags }

/-- `rtl_clr_run_mask_deferred`: the run flag cannot be cleared. -/
def rtlClrRunMaskDeferred (flags : RtlFlags) : Globals :=
  { s with runMaskDeferred := Mask.clr s.runMaskDeferred (Mask.clr flags RtlFlags.run) }

/-- `set_clear_wof_disabled` with `SET`. -/
def setWofDisabled (bit : BitVec 32) : Globals := { s with wofDisabled := Mask.set s.wofDisabled bit }

/-- `set_clear_wof_disabled` with `CLEAR`. -/
def clearWofDisabled (bit : BitVec 32) : Globals := { s with wofDisabled := Mask.clr s.wofDisabled bit }

/-- `CURRENT_STATE() = state`. -/
def setCurrentState (state : OccState) : Globals := { s with currentState := state }

/-- Leave the operating state named by `old` for `state`, whose flag is `new`. -/
def moveTo (old new : RtlFlags) (state : OccState) : Globals :=
  ((s.rtlClrRunMaskDeferred old).rtlSetRunMaskDeferred new).setCurrentState state

def call (c : PgpeCall) : Globals := { s with pgpeCalls := s.pgpeCalls ++ [c] }

end Globals

namespace Env

variable (env : Env)

/-- `SMGR_MASK_OBSERVATION_READY` in the `r`-th `SMGR_validate_get_valid_states` of the call. -/
def observationReady (r : Nat) : Bool := env.presentCnfgdata r &&& DataMask.observation == DataMask.observation

/-- `SMGR_MASK_ACTIVE_READY` in the `r`-th `SMGR_validate_get_valid_states` of the call. -/
def activeReady (r : Nat) : Bool := env.presentCnfgdata r &&& DataMask.active == DataMask.active

/-- `proc_is_hwpstate_enabled` at the `i`-th read of the pstate status. -/
def hwpstateEnabled (i : Nat) : Bool := env.pstateStatus i == .enabled

/-- `WAIT_PGPE_TASK_TIMEOUT`. -/
def waitPgpeTaskTimeout : Nat := env.micsPerTick * 4

/-- Poll until the pstates are enabled, with `left` polls until the time is up. The result says
whether they were, and the number of reads made. -/
def waitHwpstateEnabled : Nat → Nat → Bool × Nat
  | 0, i => (env.hwpstateEnabled i, i + 1)
  | left + 1, i => if env.hwpstateEnabled i then (true, i + 1) else waitHwpstateEnabled left (i + 1)

/-- Sleep in steps of 10 µs while the pstate status is `busy` and the timeout is not reached: the
time waited and the number of reads made. -/
def waitWhile (busy : PstateStatus → Bool) : Nat → Nat → Nat → Nat × Nat
  | 0, i, waitTime => (waitTime, i)
  | fuel + 1, i, waitTime =>
    if busy (env.pstateStatus i) && waitTime < env.waitPgpeTaskTimeout then
      waitWhile busy fuel (i + 1) (waitTime + 10)
    else (waitTime, i + 1)

end Env

/-- The fuel of `waitWhile` is never what ends the wait: it stops on a status that is not busy, or
with the timeout reached. -/
theorem waitWhile_stops (env : Env) (busy : PstateStatus → Bool) :
    ∀ fuel i waitTime, env.waitPgpeTaskTimeout < fuel + waitTime →
      (∃ j, busy (env.pstateStatus j) = false) ∨
        env.waitPgpeTaskTimeout ≤ (env.waitWhile busy fuel i waitTime).1
  | 0, i, waitTime, h => .inr (by simp only [Env.waitWhile]; omega)
  | fuel + 1, i, waitTime, h => by
    unfold Env.waitWhile
    split
    · exact waitWhile_stops env busy fuel (i + 1) (waitTime + 10) (by omega)
    · rename_i hstop
      cases hb : busy (env.pstateStatus i) with
      | false => exact .inl ⟨i, hb⟩
      | true => exact .inr (by simpa [hb] using hstop)

/-! ## Transition handlers -/

section Handlers

variable (env : Env)

/-- An unrecoverable error log. -/
def createErrl (reasonCode : Int) (extRc : ExtRc) (userdata1 userdata2 : Int) : Errl :=
  ⟨reasonCode, extRc, false, userdata1, userdata2⟩

/-- `SMGR_standby_to_observation`; a second failure in a row is not logged and returns no error. -/
def smgrStandbyToObservation (s : Globals) : Globals × Option Errl :=
  if env.observationReady 0 then
    (({ s with stbToObsLogged := false }).moveTo RtlFlags.standby RtlFlags.obs .observation, none)
  else if s.stbToObsLogged then (s, none)
  else ({ s with stbToObsLogged := true }, some (createErrl internalFailure .stateFromStbToObsFailure 0 0))

/-- The PGPE part of the transitions into characterization: clips wide open, pstates started with
characterization as owner, and the change of owner awaited. The result is `rc`. -/
def pgpeStartChar (s : Globals) : Globals × Int :=
  if env.presentCores = 0 then (s, 0)
  else
    let s := s.call .setClipPstate0
    if env.clipRc ≠ 0 then (s, env.clipRc)
    else
      let s := s.call (.pstateStart .char)
      if env.startSuspendRc ≠ 0 then (s, env.startSuspendRc)
      else if (env.waitHwpstateEnabled env.pollsBeforeTimeout 0).1 then (s, 0)
      else (s, 1)

/-- `rc` of the transitions into characterization. The code stored for an OCC that is not active
ready is `INTERNAL_FAILURE`, which is 0, so the transition then goes through without the PGPE. -/
def charRc (s : Globals) : Globals × Int :=
  if env.activeReady 0 then pgpeStartChar env s else (s, internalFailure)

/-- An active ready OCC may log the next failure to reach characterization from standby. -/
def resetStbToChrLogged (s : Globals) : Globals :=
  if env.activeReady 0 then { s with stbToChrLogged := false } else s

/-- `SMGR_standby_to_characterization`. -/
def smgrStandbyToCharacterization (s : Globals) : Globals × Option Errl :=
  let r := charRc env (resetStbToChrLogged env s)
  if r.2 = 0 then (r.1.moveTo RtlFlags.standby RtlFlags.obs .characterization, none)
  else if r.1.stbToChrLogged then (r.1, none)
  else ({ r.1 with stbToChrLogged := true },
    some (createErrl internalFailure .stateFromStbToChrFailure r.2 0))

/-- `SMGR_all_to_standby`. The wait for a running start or suspend request only delays it. -/
def smgrAllToStandby (s : Globals) : Globals × Option Errl :=
  ((s.setWofDisabled wofRcStateChange).moveTo (RtlFlags.active ||| RtlFlags.obs) RtlFlags.standby .standby, none)

/-- The PGPE part of `SMGR_characterization_to_observation`: clips to turbo and pstates stopped. -/
def pgpeStopChar (s : Globals) : Globals × Int :=
  if env.presentCores = 0 then (s, 0)
  else
    let s := s.call (.setClipFreq env.turboFreq)
    if env.clipRc ≠ 0 then (s, env.clipRc)
    else (s.call (.pstateStop env.pmcrOwner), env.startSuspendRc)

/-- `SMGR_characterization_to_observation`: no change of the run mask. -/
def smgrCharacterizationToObservation (s : Globals) : Globals × Option Errl :=
  let r := pgpeStopChar env s
  if r.2 ≠ 0 then (r.1, some (createErrl internalFailure .stateFromChrToObsFailure r.2 0))
  else (r.1.setCurrentState .observation, none)

/-- `SMGR_observation_to_characterization`: no change of the run mask. -/
def smgrObservationToCharacterization (s : Globals) : Globals × Option Errl :=
  let r := charRc env s
  if r.2 = 0 then (r.1.setCurrentState .characterization, none)
  else if r.1.obsToChrLogged then (r.1, none)
  else ({ r.1 with obsToChrLogged := true },
    some (createErrl internalFailure .stateFromObsToChrFailure r.2 0))

/-- The state changes of `SMGR_observation_to_active` once pstates are enabled or not needed. -/
def enterActive (s : Globals) : Globals := s.moveTo RtlFlags.obs RtlFlags.active .active

/-- The failure of an observation to active transition: `l_rc`, `l_extRc` and `l_user_data`. -/
structure ActiveFailure where
  rc : Int
  extRc : ExtRc
  userData : Int

/-- Pstate ownership for the active state: the host's after the nominal pstate is requested for it,
or the OCC's. The result is the state and `l_rc`. -/
def startPstates (s : Globals) : Globals × Int :=
  if env.kvm then
    let s := s.call .setNominal
    -- a failure to set the nominal pstate is logged and does not stop the transition
    let s := if env.nominalRc ≠ 0 then
        { s with committed := s.committed ++ [⟨internalFwFailure, .pgpeSetNominalFailure, true, env.nominalRc, 0⟩] }
      else s
    (s.call (.pstateStart .host), env.startSuspendRc)
  else (s.call (.pstateStart .occ), env.startSuspendRc)

/-- The clip requested when going active: under KVM the larger of turbo and nominal, else the
maximum frequency. -/
def activeClipFreq : Nat :=
  if env.kvm then if env.nominalFreq < env.turboFreq then env.turboFreq else env.nominalFreq
  else env.procFmaxMhz

/-- The body of `SMGR_observation_to_active` for an active ready OCC with cores, after the WOF
disable bit is cleared. The pstate status is read once more after the wait, and the transition
completes when it is enabled then, also after a wait that timed out. -/
def observationToActiveCores (s : Globals) : Globals × Option ActiveFailure :=
  let s := s.call (.setClipFreq (activeClipFreq env))
  if env.clipRc ≠ 0 then (s, some ⟨env.clipRc, .pgpeClipFailure, env.occflg⟩)
  else
    let r := startPstates env s
    if r.2 ≠ 0 then (r.1, some ⟨r.2, .pgpeStartSuspendFailure, env.occflg⟩)
    else
      let w := env.waitHwpstateEnabled env.pollsBeforeTimeout 0
      let fail := if w.1 then none else some ⟨1, .genericTimeout, env.occflg⟩
      if env.hwpstateEnabled w.2 then
        let s := { r.1 with
          obsToActLogged := false
          setPStates := true
          allowPstates := if env.kvm then r.1.allowPstates else false }
        (enterActive s, fail)
      else (r.1, fail)

/-- The `do` block of `SMGR_observation_to_active`, whose readiness is the call's `r`-th read. -/
def observationToActiveBody (r : Nat) (s : Globals) : Globals × Option ActiveFailure :=
  if env.activeReady r then
    let s := s.clearWofDisabled wofRcStateChange
    if env.presentCores = 0 then (enterActive s, none) else observationToActiveCores env s
  else (s, some ⟨2, .stateFromObsToActFailure, 1⟩)

/-- The error log of a failed transition to active, created once until a transition succeeds. -/
def logActiveFailure (t : Globals × Option ActiveFailure) : Globals × Option Errl :=
  match t.2 with
  | none => (t.1, none)
  | some f =>
    if t.1.obsToActLogged then (t.1, none)
    else ({ t.1 with obsToActLogged := true }, some (createErrl internalFailure f.extRc f.userData f.rc))

/-- `SMGR_observation_to_active`; it first returns every quad to OCC control. -/
def smgrObservationToActive (r : Nat) (s : Globals) : Globals × Option Errl :=
  logActiveFailure (observationToActiveBody env r
    { s with mnfgQuadPstate := fun q => if q < 6 then 0xFF else s.mnfgQuadPstate q })

/-- `SMGR_characterization_to_active`. -/
def smgrCharacterizationToActive (s : Globals) : Globals × Option Errl := smgrObservationToActive env 0 s

/-- The PGPE part of `SMGR_active_to_observation`, with its error log. The first wait is checked
with `>` and the second with `>=`. -/
def pgpeStopActive (s : Globals) : Globals × Option Errl :=
  let fuel := env.waitPgpeTaskTimeout + 1
  if env.presentCores = 0 then (s, none)
  else
    let s := s.call (.setClipFreq env.turboFreq)
    if env.clipRc ≠ 0 then (s, some (createErrl env.clipRc .noExtendedRc 0 0))
    else
      let w := env.waitWhile (· == .inTransition) fuel 0 0
      if env.waitPgpeTaskTimeout < w.1 then (s, some (createErrl pgpeFailure .pgpeTaskTimeout w.1 0))
      else
        let s := s.call (.pstateStop env.pmcrOwner)
        if env.startSuspendRc ≠ 0 then
          (s, some (createErrl pgpeFailure .pgpeStartSuspendFailure w.1 0))
        else
          let v := env.waitWhile (· != .disabled) fuel w.2 0
          if env.waitPgpeTaskTimeout ≤ v.1 then
            (s, some (createErrl pgpeFailure .pgpeActiveToObservationTimeout v.1 0))
          else (s, none)

/-- `SMGR_active_to_observation`. -/
def smgrActiveToObservation (s : Globals) : Globals × Option Errl :=
  let r := pgpeStopActive env (s.setWofDisabled wofRcStateChange)
  match r.2 with
  | some e => (r.1, some e)
  | none => (r.1.moveTo RtlFlags.active RtlFlags.obs .observation, none)

/-- The PGPE part of `SMGR_active_to_characterization`. The result is `rc`. -/
def pgpeActiveToChar (s : Globals) : Globals × Int :=
  if env.presentCores = 0 then (s, 0)
  else
    let s := s.call .setClipPstate0
    if env.clipRc ≠ 0 then (s, env.clipRc)
    else
      let w := env.waitWhile (· == .inTransition) (env.waitPgpeTaskTimeout + 1) 0 0
      if env.waitPgpeTaskTimeout ≤ w.1 then (s, pgpeFailure)
      else
        let s := s.call (.pstateStart .char)
        if env.startSuspendRc ≠ 0 then (s, env.startSuspendRc)
        else if (env.waitHwpstateEnabled env.pollsBeforeTimeout w.2).1 then (s, 0)
        else (s, 1)

/-- `SMGR_active_to_characterization`. -/
def smgrActiveToCharacterization (s : Globals) : Globals × Option Errl :=
  let r := pgpeActiveToChar env (s.setWofDisabled wofRcStateChange)
  if r.2 ≠ 0 then (r.1, some (createErrl internalFailure .stateFromActToChrFailure r.2 0))
  else (r.1.moveTo RtlFlags.active RtlFlags.obs .characterization, none)

/-- `SMGR_standby_to_active`: through both halves, the second only when the first returned no
error. -/
def smgrStandbyToActive (s : Globals) : Globals × Option Errl :=
  let r := smgrStandbyToObservation env s
  match r.2 with
  | none => smgrObservationToActive env 1 r.1
  | some e => (r.1, some e)

/-- `SMGR_all_to_safe`. -/
def smgrAllToSafe (s : Globals) : Globals × Option Errl :=
  let s := if env.occMaster then { s with externalReqState := .safe } else s
  let s := s.setWofDisabled wofRcStateChange
  (s.moveTo (RtlFlags.active ||| RtlFlags.obs ||| RtlFlags.standby) RtlFlags.rstReq .safe, none)

end Handlers

/-! ## The transition table -/

/-- The transition functions the table points to. -/
inductive TransFunc
  | standbyToObservation | standbyToCharacterization | standbyToActive
  | observationToCharacterization | observationToActive
  | characterizationToObservation | characterizationToActive
  | activeToObservation | activeToCharacterization
  | allToStandby | allToSafe
deriving DecidableEq, Repr

/-- Run the transition function of a row. -/
def TransFunc.run (env : Env) : TransFunc → Globals → Globals × Option Errl
  | .standbyToObservation => smgrStandbyToObservation env
  | .standbyToCharacterization => smgrStandbyToCharacterization env
  | .standbyToActive => smgrStandbyToActive env
  | .observationToCharacterization => smgrObservationToCharacterization env
  | .observationToActive => smgrObservationToActive env 0
  | .characterizationToObservation => smgrCharacterizationToObservation env
  | .characterizationToActive => smgrCharacterizationToActive env
  | .activeToObservation => smgrActiveToObservation env
  | .activeToCharacterization => smgrActiveToCharacterization env
  | .allToStandby => smgrAllToStandby
  | .allToSafe => smgrAllToSafe env

/-- `smgr_state_trans_t`. -/
structure StateTrans where
  oldState : OccState
  newState : OccState
  transFunc : TransFunc
deriving DecidableEq, Repr

/-- `G_smgr_state_trans`: the specific rows, then the rows for any state. -/
def smgrStateTrans : List StateTrans :=
  [⟨.standby, .observation, .standbyToObservation⟩,
    ⟨.standby, .characterization, .standbyToCharacterization⟩,
    ⟨.standby, .active, .standbyToActive⟩,
    ⟨.observation, .characterization, .observationToCharacterization⟩,
    ⟨.observation, .active, .observationToActive⟩,
    ⟨.characterization, .observation, .characterizationToObservation⟩,
    ⟨.characterization, .active, .characterizationToActive⟩,
    ⟨.active, .observation, .activeToObservation⟩,
    ⟨.active, .characterization, .activeToCharacterization⟩,
    ⟨.all, .standby, .allToStandby⟩,
    ⟨.all, .safe, .allToSafe⟩]

/-- The first row for a transition. -/
def findTrans (current new : OccState) : Option StateTrans :=
  smgrStateTrans.find? fun row => (row.oldState == current || row.oldState == .all) && row.newState == new

/-- The bookkeeping after a transition function: the flag, the wakeup under KVM, and the state
requested from the host when it has been reached. -/
def finishTransition (env : Env) (s : Globals) : Globals :=
  let s := { s with
    stateTransitionOccuring := false
    dcomWakeups := if env.kvm then s.dcomWakeups + 1 else s.dcomWakeups }
  if s.currentState = s.requestedState then { s with requestedState := .nochange } else s

/-- `SMGR_set_state`. -/
def smgrSetState (env : Env) (new : OccState) (s : Globals) : Globals × Option Errl :=
  if env.pendRc ≠ 0 then (s, some (createErrl ssxGenericFailure .runningSemPendingFailure 0 0))
  else if new = .nochange then (s, none)
  else match findTrans s.currentState new with
    | none =>
      (s, some (createErrl internalFailure .smgrNoValidStateTransitionCall s.currentState.code new.code))
    | some row =>
      let r := row.transFunc.run env { s with stateTransitionOccuring := true }
      (finishTransition env r.1, r.2)

end Occ.Smgr
