/-
The health checks of temperatures (`amec_health.c`): DIMMs and memory buffers over their error temperature, or
without a reading for too long, and the processor over its error temperature, are called out once in error logs.
-/
import Mathlib.Logic.Function.Basic
import Occ.Errl.Log
import Occ.Lib.Mask

namespace Occ.Amec

open Occ.Mask Occ.Errl

/-! ## What a check finds -/

inductive MemType
  | nimbus | cumulus | ocm
deriving DecidableEq, Repr

/-- `NUM_DIMM_PORTS`, `MAX_NUM_OCMBS` or `MAX_NUM_CENTAURS` -/
def MemType.maxPort : MemType → Nat
  | nimbus => 2
  | ocm => 16
  | cumulus => 8

/-- `NUM_DIMMS_PER_I2CPORT`, `NUM_DIMMS_PER_OCMB` or `NUM_DIMMS_PER_CENTAUR` -/
def MemType.maxDimm : MemType → Nat
  | nimbus => 8
  | ocm => 2
  | cumulus => 8

/-- `MAX_NUM_CENTAURS` -/
def maxNumCentaurs : Nat := 8

/-- What `G_sysConfigData` says about parts. The HUIDs are those that the memory holds at an index. -/
structure SysConfig where
  memType : MemType
  centaurHuids : Nat → BitVec 32
  dimmHuids : Nat → Nat → BitVec 32
  procHuid : BitVec 32

/-- `temp_fru_type` -/
inductive FruType
  | dimm | memctrlDram | pmic | memctrlExt | other
deriving DecidableEq, Repr

/-- The error temperature and the timeout of a controller, and the maximum of its sensor. -/
structure Thermal where
  otError : BitVec 8
  tempTimeout : BitVec 8
  sampleMax : BitVec 16

/-- `dimm_sensor_flags_t`: a byte for each port, with its DIMMs from the top. -/
abbrev DimmFlags := Nat → BitVec 8

/-- The other users of error logs, while a check runs. -/
structure LogEnv where
  /-- `G_occErrSlotBits` at each creation of the check -/
  slotBits : Nat → BitVec 32
  /-- `L_log_commits_suspended_by_safe_mode` at each commit of the check -/
  suspended : Nat → Bool
  /-- a system checkstop at each commit of the check -/
  checkStop : Nat → Bool

/-- What a check finds. -/
structure Finds where
  config : SysConfig
  thermaldimm : Thermal
  thermalmcdimm : Thermal
  thermalpmic : Thermal
  thermalmcext : Thermal
  thermalcent : Thermal
  thermalproc : Thermal
  /-- the processor's hottest temperature -/
  procTemp : BitVec 16
  tempFruType : Nat → Nat → FruType
  dtsTypeMask : Nat → Nat → BitVec 8
  dimmOvertemp : DimmFlags
  dimmTempUpdated : DimmFlags
  dimmEnabled : DimmFlags
  centOvertemp : BitVec 16
  centTempUpdated : BitVec 16
  presentCentaurs : BitVec 32
  /-- the error history of `ERRH_GPE1_NOT_IDLE` -/
  gpe1NotIdle : BitVec 8
  logs : LogEnv

/-- `amec_mem_get_huid`, of a memory buffer. -/
def SysConfig.centHuid (c : SysConfig) (cent : Nat) : BitVec 64 := (c.centaurHuids cent).setWidth 64

/-- `amec_mem_get_huid`, of a DIMM: without a HUID it is its Centaur's. -/
def SysConfig.dimmHuid (c : SysConfig) (cent dimm : Nat) : BitVec 64 :=
  if c.dimmHuids cent dimm = 0 ∧ c.memType = .cumulus then c.centHuid cent
  else (c.dimmHuids cent dimm).setWidth 64

/-- `amec_mem_mark_logged`, of a DIMM. -/
def markDimm (flags : DimmFlags) (port dimm : Nat) : DimmFlags :=
  Function.update flags port (set (flags port) (flag 8 dimm))

/-- `amec_mem_mark_logged`, of a memory buffer. -/
def markCent (flags : BitVec 16) (cent : Nat) : BitVec 16 := set flags (flag 16 cent)

/-! ## A check's logs -/

/-- The log that a check has open, its count of callouts, how many logs it has created and committed, and those
that it has committed. -/
structure Logging where
  err : ErrlHndl
  calloutsCount : Nat
  creates : Nat
  commits : Nat
  committed : List ErrlEntry

def Logging.start : Logging :=
  { err := .null, calloutsCount := 0, creates := 0, commits := 0, committed := [] }

/-- A predictive log. -/
def Logging.create (env : LogEnv) (src : ErrlSource) (userData1 userData2 : BitVec 32) (l : Logging) : Logging :=
  { l with
    err := createErrl (env.slotBits l.creates) src .predictive userData1 userData2
    creates := l.creates + 1 }

def Logging.callout (c : ErrlCallout) (l : Logging) : Logging :=
  { l with err := addCalloutToErrl l.err c }

def Logging.commit (env : LogEnv) (l : Logging) : Logging :=
  let c := commitErrl (env.suspended l.commits) (env.checkStop l.commits) l.err
  { l with
    err := c.1
    commits := l.commits + 1
    committed := l.committed ++ c.2.2.toList }

/-- The "over temperature" procedure. -/
def overTemperatureCallout : ErrlCallout := ⟨.componentId, componentIdOverTemperature, .high⟩

/-- A part. -/
def huidCallout (huid : BitVec 64) : ErrlCallout := ⟨.huid, huid, .med⟩

/-- A log for parts over temperature, unless one is open. -/
def Logging.ensureTemp (env : LogEnv) (src : ErrlSource) (userData1 userData2 : BitVec 32) (l : Logging) : Logging :=
  if l.err = .null then
    { (l.create env src userData1 userData2).callout overTemperatureCallout with calloutsCount := 1 }
  else l

/-- A part in the open log, counted. -/
def Logging.calloutPart (huid : BitVec 64) (l : Logging) : Logging :=
  { l.callout (huidCallout huid) with calloutsCount := l.calloutsCount + 1 }

/-- The log that is still open when the loops end. -/
def Logging.finish (env : LogEnv) (l : Logging) : Logging :=
  if l.err = .null then l else l.commit env

/-! ## `amec_health_check_dimm_temp` -/

def dimmTempSource : ErrlSource := ⟨0x0C09, 0x30, 0⟩

/-- `l_ot_error` and `l_max_temp` of a sensor. -/
def Finds.dimmOtError (f : Finds) (port dimm : Nat) : BitVec 16 × BitVec 16 :=
  match f.tempFruType port dimm with
  | .dimm => (f.thermaldimm.otError.setWidth 16, f.thermaldimm.sampleMax)
  | .memctrlDram => (f.thermalmcdimm.otError.setWidth 16, f.thermalmcdimm.sampleMax)
  | .pmic => (f.thermalpmic.otError.setWidth 16, f.thermalpmic.sampleMax)
  | .memctrlExt => (f.thermalmcext.otError.setWidth 16, f.thermalmcext.sampleMax)
  | .other => (0xff, 0xff)

structure DimmTemp where
  logged : DimmFlags
  log : Logging

/-- A DIMM of a port with new callouts. -/
def dimmTempDimm (f : Finds) (port : Nat) (new : BitVec 8) (s : DimmTemp) (dimm : Nat) : DimmTemp :=
  if On new dimm then
    let ot := f.dimmOtError port dimm
    let s := { s with logged := markDimm s.logged port dimm }
    -- up to the maximum of callouts in the log of a port; the DIMM is marked either way
    if s.log.calloutsCount < maxCallouts then
      let log := s.log.ensureTemp f.logs dimmTempSource (ot.2.setWidth 32) (ot.1.setWidth 32)
      { s with log := log.calloutPart (f.config.dimmHuid port dimm) }
    else s
  else s

/-- The new callouts of a port. -/
def Finds.newDimms (f : Finds) (logged : DimmFlags) (port : Nat) : BitVec 8 := f.dimmOvertemp port ^^^ logged port

/-- A port: the log of the port before is committed. -/
def dimmTempPort (f : Finds) (s : DimmTemp) (port : Nat) : DimmTemp :=
  let new := f.newDimms s.logged port
  if new = 0 ∨ f.dimmOvertemp port = 0 then s
  else
    let s := if s.log.err = .null then s else { s with log := { s.log.commit f.logs with calloutsCount := 0 } }
    (List.range f.config.memType.maxDimm).foldl (dimmTempDimm f port new) s

/-- `amec_health_check_dimm_temp`: what it marks, and the logs that it commits. -/
def dimmTemp (f : Finds) (logged : DimmFlags) : DimmFlags × List ErrlEntry :=
  if ∀ port : Nat, port < 16 → f.dimmOvertemp port = logged port then (logged, [])
  else
    let s := (List.range f.config.memType.maxPort).foldl (dimmTempPort f) ⟨logged, .start⟩
    (s.logged, (s.log.finish f.logs).committed)

/-! ## `amec_health_check_dimm_timeout` -/

def dimmTimeoutSource : ErrlSource := ⟨0x0C11, 0x09, 0x0031⟩

/-- `l_temp_timeout` of a sensor. -/
def Finds.dimmTempTimeout (f : Finds) (port dimm : Nat) : BitVec 8 :=
  match f.tempFruType port dimm with
  | .dimm => f.thermaldimm.tempTimeout
  | .memctrlDram => f.thermalmcdimm.tempTimeout
  | .pmic => f.thermalpmic.tempTimeout
  | .memctrlExt => f.thermalmcext.tempTimeout
  | .other => 0xff

/-- `sample_age++`, which stays at its maximum. -/
def nextAge (age : BitVec 8) : BitVec 8 := if age + 1 = 0 then -1 else age + 1

structure DimmTimeout where
  age : Nat → Nat → BitVec 8
  expired : DimmFlags
  logged : DimmFlags
  logGpe1Error : Bool
  log : Logging

/-- A DIMM of a port with readings that did not come, and whether the loop is left. -/
def dimmTimeoutDimm (f : Finds) (needInc : BitVec 8) (port dimm : Nat) (s : DimmTimeout) : DimmTimeout × Bool :=
  if On needInc dimm then
    let age := nextAge (s.age port dimm)
    let s := { s with age := Function.update s.age port (Function.update (s.age port) dimm age) }
    let timeout := f.dimmTempTimeout port dimm
    if timeout = 0xff ∨ age < timeout then (s, false)
    else
      let s := { s with expired := markDimm s.expired port dimm }
      if On (s.logged port) dimm then (s, false)
      else if timeout < f.gpe1NotIdle then ({ s with logGpe1Error := true }, true)
      else
        let s := { s with logged := markDimm s.logged port dimm }
        -- one log with up to the maximum of callouts; the DIMM is marked either way
        if s.log.calloutsCount < maxCallouts then
          let log := if s.log.err = .null then s.log.create f.logs dimmTimeoutSource (timeout.setWidth 32) 0 else s.log
          ({ s with log := log.calloutPart (f.config.dimmHuid port dimm) }, false)
        else (s, false)
  else ({ s with expired := Function.update s.expired port (clr (s.expired port) (flag 8 dimm)) }, false)

/-- The DIMMs of a port. -/
def dimmTimeoutDimms (f : Finds) (needInc : BitVec 8) (port : Nat) : List Nat → DimmTimeout → DimmTimeout
  | [], s => s
  | dimm :: dimms, s =>
    let r := dimmTimeoutDimm f needInc port dimm s
    if r.2 then r.1 else dimmTimeoutDimms f needInc port dimms r.1

/-- The DIMMs whose reading did not come. -/
def Finds.dimmNeedInc (f : Finds) (port : Nat) : BitVec 8 := clr (f.dimmEnabled port) (f.dimmTempUpdated port)

/-- The ports. -/
def dimmTimeoutPorts (f : Finds) : List Nat → DimmTimeout → DimmTimeout
  | [], s => s
  | port :: ports, s =>
    if f.dimmNeedInc port = 0 then
      dimmTimeoutPorts f ports { s with expired := Function.update s.expired port 0 }
    else
      let s := dimmTimeoutDimms f (f.dimmNeedInc port) port (List.range f.config.memType.maxDimm) s
      if s.logGpe1Error then s else dimmTimeoutPorts f ports s

/-! ## `amec_health_check_cent_temp` -/

def centTempSource : ErrlSource := ⟨0x0C10, 0x40, 0⟩

structure CentTemp where
  logged : BitVec 16
  log : Logging

/-- A memory buffer: a log that is full is committed, and the next one gets a new log. -/
def centTempCent (f : Finds) (new : BitVec 16) (s : CentTemp) (cent : Nat) : CentTemp :=
  if On new cent then
    let log := s.log.ensureTemp f.logs centTempSource (f.thermalcent.sampleMax.setWidth 32)
      (f.thermalcent.otError.setWidth 32)
    let log := log.calloutPart (f.config.centHuid cent)
    { logged := markCent s.logged cent
      log := if log.calloutsCount = maxCallouts then log.commit f.logs else log }
  else s

/-- The memory buffers that `amec_health_check_cent_temp` looks at. -/
def MemType.maxMemBuf : MemType → Nat
  | ocm => 16
  | _ => maxNumCentaurs

/-- `amec_health_check_cent_temp`: what it marks, and the logs that it commits. -/
def centTemp (f : Finds) (logged : BitVec 16) : BitVec 16 × List ErrlEntry :=
  let new := f.centOvertemp ^^^ logged
  if new = 0 then (logged, [])
  else
    let s := (List.range f.config.memType.maxMemBuf).foldl (centTempCent f new) ⟨logged, .start⟩
    (s.logged, (s.log.finish f.logs).committed)

/-! ## `amec_health_check_cent_timeout` -/

def centTimeoutSource : ErrlSource := ⟨0x0C12, 0x09, 0x0032⟩

structure CentTimeout where
  age : Nat → BitVec 8
  expired : BitVec 16
  logged : BitVec 16
  logGpe1Error : Bool
  log : Logging

/-- A memory buffer, and whether the loop is left. -/
def centTimeoutCent (f : Finds) (needInc : BitVec 16) (cent : Nat) (s : CentTimeout) : CentTimeout × Bool :=
  if On needInc cent then
    let age := nextAge (s.age cent)
    let s := { s with age := Function.update s.age cent age }
    let timeout := f.thermalcent.tempTimeout
    if timeout = 0xff ∨ age < timeout then (s, false)
    else
      let s := { s with expired := markCent s.expired cent }
      if On s.logged cent then (s, false)
      else if timeout < f.gpe1NotIdle then ({ s with logGpe1Error := true }, true)
      else
        let log := if s.log.err = .null then
            { s.log.create f.logs centTimeoutSource (timeout.setWidth 32) 0 with calloutsCount := 0 }
          else s.log
        let log := log.calloutPart (f.config.centHuid cent)
        let log := if log.calloutsCount = maxCallouts then log.commit f.logs else log
        ({ s with log := log, logged := markCent s.logged cent }, false)
  else ({ s with expired := clr s.expired (flag 16 cent) }, false)

/-- The memory buffers. -/
def centTimeoutCents (f : Finds) (needInc : BitVec 16) : List Nat → CentTimeout → CentTimeout
  | [], s => s
  | cent :: cents, s =>
    let r := centTimeoutCent f needInc cent s
    if r.2 then r.1 else centTimeoutCents f needInc cents r.1

/-! ## The state of the checks -/

structure Health where
  dimmOvertempLogged : DimmFlags
  dimmTimeoutLogged : DimmFlags
  centOvertempLogged : BitVec 16
  centTimeoutLogged : BitVec 16
  procOtErrorLogged : Bool
  dimmTempExpired : DimmFlags
  dimmAge : Nat → Nat → BitVec 8
  /-- `L_temp_update_bitmap_prev` of the two checks for timeouts -/
  dimmUpdatedPrev : DimmFlags
  centUpdatedPrev : BitVec 16
  ocmDtsTypeExpired : BitVec 8
  centTempExpired : BitVec 16
  centAge : Nat → BitVec 8
  logGpe1Error : Bool
  procErrorCount : BitVec 32
  /-- the logs that the checks have committed, each with the configuration at the time -/
  committed : List (SysConfig × ErrlEntry)

def Health.start : Health :=
  { dimmOvertempLogged := fun _ => 0
    dimmTimeoutLogged := fun _ => 0
    centOvertempLogged := 0
    centTimeoutLogged := 0
    procOtErrorLogged := false
    dimmTempExpired := fun _ => 0
    dimmAge := fun _ _ => 0
    dimmUpdatedPrev := fun _ => 0
    centUpdatedPrev := 0
    ocmDtsTypeExpired := 0
    centTempExpired := 0
    centAge := fun _ => 0
    logGpe1Error := false
    procErrorCount := 0
    committed := [] }

/-- The logs of a check are committed. -/
def Health.withLogs (h : Health) (f : Finds) (logs : List ErrlEntry) : Health :=
  { h with committed := h.committed ++ logs.map (f.config, ·) }

def Health.dimmTemp (h : Health) (f : Finds) : Health :=
  let r := Amec.dimmTemp f h.dimmOvertempLogged
  { h with dimmOvertempLogged := r.1 }.withLogs f r.2

/-- The readings that have come back. -/
def Finds.dimmNeedClr (f : Finds) (h : Health) (port : Nat) : BitVec 8 :=
  clr (f.dimmTempUpdated port) (h.dimmUpdatedPrev port)

/-- Nothing to do. -/
def Finds.dimmIdle (f : Finds) (h : Health) : Prop := ∀ port : Nat, port < 16 → f.dimmNeedInc port = 0 ∧ f.dimmNeedClr h port = 0

instance (f : Finds) (h : Health) : Decidable (f.dimmIdle h) := by unfold Finds.dimmIdle; infer_instance

/-- What the loops find. -/
def Health.dimmTimeoutStart (h : Health) : DimmTimeout :=
  { age := h.dimmAge
    expired := h.dimmTempExpired
    logged := h.dimmTimeoutLogged
    logGpe1Error := h.logGpe1Error
    log := .start }

/-- The types of the sensors that have expired, of an OCM system. -/
def dtsTypeExpired (f : Finds) (maxPort : Nat) (expired : DimmFlags) : BitVec 8 :=
  (List.range maxPort).foldl (fun types port => (List.range f.config.memType.maxDimm).foldl (fun types dimm =>
    if On (expired port) dimm then types ||| f.dtsTypeMask port dimm else types) types) 0

/-- The body that the readings are counted in. -/
def Health.dimmTimeoutBody (h : Health) (f : Finds) : Health :=
  let s := dimmTimeoutPorts f (List.range f.config.memType.maxPort) h.dimmTimeoutStart
  let clears (port dimm : Nat) : Bool := decide (port < f.config.memType.maxPort) &&
    decide (dimm < f.config.memType.maxDimm) && On (f.dimmNeedClr h port) dimm
  { h with
    dimmAge := fun port dimm => if clears port dimm then 0 else s.age port dimm
    dimmTempExpired := s.expired
    dimmTimeoutLogged := s.logged
    logGpe1Error := s.logGpe1Error }.withLogs f (s.log.finish f.logs).committed

/-- `amec_health_check_dimm_timeout` -/
def Health.dimmTimeout (h : Health) (f : Finds) : Health :=
  let idle := f.dimmIdle h
  let t := if idle then h else h.dimmTimeoutBody f
  -- with nothing to do, `l_max_port` is still zero
  let maxPort := if idle then 0 else f.config.memType.maxPort
  { t with
    dimmUpdatedPrev := f.dimmTempUpdated
    ocmDtsTypeExpired :=
      if f.config.memType = .ocm then dtsTypeExpired f maxPort t.dimmTempExpired else t.ocmDtsTypeExpired }

def Health.centTemp (h : Health) (f : Finds) : Health :=
  let r := Amec.centTemp f h.centOvertempLogged
  { h with centOvertempLogged := r.1 }.withLogs f r.2

/-- What the loop finds. -/
def Health.centTimeoutStart (h : Health) : CentTimeout :=
  { age := h.centAge
    expired := h.centTempExpired
    logged := h.centTimeoutLogged
    logGpe1Error := h.logGpe1Error
    log := .start }

/-- The memory buffers whose reading did not come. -/
def Finds.centNeedInc (f : Finds) : BitVec 16 := clr (f.presentCentaurs.setWidth 16) f.centTempUpdated

/-- `amec_health_check_cent_timeout` -/
def Health.centTimeout (h : Health) (f : Finds) : Health :=
  let needClr := clr f.centTempUpdated h.centUpdatedPrev
  if f.centNeedInc = 0 ∧ needClr = 0 then h
  else
    let s := centTimeoutCents f f.centNeedInc (List.range maxNumCentaurs) h.centTimeoutStart
    { h with
      centUpdatedPrev := f.centTempUpdated
      centAge := fun cent => if cent < maxNumCentaurs ∧ On needClr cent then 0 else s.age cent
      centTempExpired := s.expired
      centTimeoutLogged := s.logged
      logGpe1Error := s.logGpe1Error }.withLogs f (s.log.finish f.logs).committed

/-! ## `amec_health_check_proc_temp` -/

def procTempSource : ErrlSource := ⟨0x0C08, 0x10, 0x002F⟩

/-- `AMEC_HEALTH_ERROR_TIMER` -/
def healthErrorTimer : BitVec 32 := 5

/-- The log of the processor. -/
def procTempLog (f : Finds) : Logging :=
  (((Logging.start.create f.logs procTempSource 0 (f.thermalproc.sampleMax.setWidth 32)).callout
    overTemperatureCallout).callout (huidCallout (f.config.procHuid.setWidth 64))).commit f.logs

/-- `amec_health_check_proc_temp` -/
def Health.procTemp (h : Health) (f : Finds) : Health :=
  if f.thermalproc.otError.setWidth 16 < f.procTemp then
    let h := { h with procErrorCount := h.procErrorCount + 1 }
    if h.procErrorCount = healthErrorTimer then
      if h.procOtErrorLogged then h
      else { h with procOtErrorLogged := true }.withLogs f (procTempLog f).committed
    else h
  else { h with procErrorCount := 0 }

/-! ## The checks over time -/

inductive Check
  | dimmTemp | dimmTimeout | centTemp | centTimeout | procTemp
deriving DecidableEq, Repr

/-- A check. -/
def Health.run (h : Health) (c : Check) (f : Finds) : Health :=
  match c with
  | .dimmTemp => h.dimmTemp f
  | .dimmTimeout => h.dimmTimeout f
  | .centTemp => h.centTemp f
  | .centTimeout => h.centTimeout f
  | .procTemp => h.procTemp f

/-- A check runs on what it finds. -/
def Health.step (h : Health) (e : Check × Finds) (h' : Health) : Prop := h' = h.run e.1 e.2

end Occ.Amec
