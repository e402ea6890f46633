/-
Dynamic power saving (`amec_dps.c`, `amec_perfcount.c`, `amec_part.c`): the cores of the core group count the readings in which
they are active and have slack, moving sums of the counts give the slack of the group, and the speed request follows it. There
is one core group with all cores, so that every core is found in it.
-/
import Occ.Dcom.Tunable
import Occ.Lib.MovingSum

namespace Occ.Amec.Dps

open Dcom

/-! ## Data -/

def maxUtilSlackAvgLen : Nat := 64
def twoToThePowerOfFifteen : BitVec 16 := 32768

abbrev DpsCore := Fin 24

/-- The counter, the moving sum and the buffer of `util_slack_…` and of `util_active_…`. -/
structure UtilWindow where
  accumulator : BitVec 32
  avgBuffer : Nat → BitVec 8
  coreCounter : BitVec 8

def UtilWindow.zero : UtilWindow := ⟨0, fun _ => 0, 0⟩

/-- What the DPS algorithm has of an `amec_core_perf_counter_t`. -/
structure CorePerf where
  slack : UtilWindow
  active : UtilWindow
  ptrPutUtilslack : BitVec 16

/-- `OCC_INTERNAL_MODE`, as far as a core group gets it. -/
inductive EsPolicy
  | nom | dps | dpsMp | maxNum | undefined
deriving DecidableEq, Repr

/-- `OCC_MODE_NOMINAL`, `OCC_MODE_DYN_POWER_SAVE`, `OCC_MODE_DYN_POWER_SAVE_FP` and the others. -/
inductive SysMode
  | nominal | dynPowerSave | dynPowerSaveFp | other
deriving DecidableEq, Repr

structure DpsState where
  cores : DpsCore → CorePerf
  dpsalg : DpsAlg
  esPolicy : EsPolicy
  /-- `slv_dps_param_overwrite` -/
  paramOverwrite : Bool
  /-- `fw.dps_no_update_flag` -/
  noUpdateFlag : Bool

def CorePerf.zero : CorePerf := ⟨.zero, .zero, 0⟩

/-- The settings of DPS-Favor Energy. -/
def favorEnergy (type : BitVec 8) : DpsAlg where
  stepUp := 8
  stepDown := 8
  tlutil := 9800
  sampleCountUtil := 16
  epsilonPerc := 1800
  alphaUp := 9800
  alphaDown := 9800
  type := type

/-- The settings of DPS-Favor Performance; on a system of several nodes they result in a static turbo frequency. -/
def favorPerformance (single : Bool) : DpsAlg where
  stepUp := 1000
  stepDown := 8
  tlutil := if single then 1000 else 0
  sampleCountUtil := 1
  epsilonPerc := 0
  alphaUp := 9990
  alphaDown := if single then 9990 else 0
  type := 41

/-- After `amec_part_init` and `amec_core_perf_counter_ctor`. -/
def DpsState.boot : DpsState where
  cores _ := .zero
  dpsalg := favorEnergy 0
  esPolicy := .maxNum
  paramOverwrite := false
  noUpdateFlag := false

/-! ## The windows -/

/-- The steps of `amec_dps_update_core_util` for one of the two sums, with the put pointer and the place of the oldest sample. -/
def UtilWindow.updateUtil (w : UtilWindow) (put oldest : Nat) : UtilWindow where
  accumulator := w.accumulator - (w.avgBuffer oldest).setWidth 32 + w.coreCounter.setWidth 32
  avgBuffer := Function.update w.avgBuffer put w.coreCounter
  coreCounter := 0

/-- The put pointer, moved down; it wraps as the buffer size is a power of two. -/
def CorePerf.nextPut (c : CorePerf) : BitVec 16 :=
  let ptr := c.ptrPutUtilslack - 1
  if twoToThePowerOfFifteen < ptr then ptr &&& 63 else ptr

/-- The place of the oldest sample of `sampleCount`. -/
def CorePerf.oldest (c : CorePerf) (sampleCount : BitVec 16) : Nat := ((c.nextPut + sampleCount) &&& 63).toNat

/-- A core in `amec_dps_update_core_util`. -/
def CorePerf.updateUtil (c : CorePerf) (sampleCount : BitVec 16) : CorePerf where
  slack := c.slack.updateUtil c.nextPut.toNat (c.oldest sampleCount)
  active := c.active.updateUtil c.nextPut.toNat (c.oldest sampleCount)
  ptrPutUtilslack := c.nextPut

/-- `amec_calc_dps_util_counters`: the thresholds are compared as integers. -/
def CorePerf.calcDpsUtilCounters (c : CorePerf) (alg : DpsAlg) (utilization : BitVec 16) : CorePerf :=
  if (alg.tlutil.toNat : Int) - alg.epsilonPerc.toNat < utilization.toNat then
    let c := { c with active := { c.active with coreCounter := c.active.coreCounter + 1 } }
    if utilization < alg.tlutil then { c with slack := { c.slack with coreCounter := c.slack.coreCounter + 1 } } else c
  else c

namespace DpsState

variable (s : DpsState)

/-- `amec_dps_update_core_util`; `enabled` are the cores that are present and not offline. -/
def amecDpsUpdateCoreUtil (enabled : DpsCore → Bool) : DpsState :=
  if s.noUpdateFlag then s
  else { s with cores := fun i => if enabled i then (s.cores i).updateUtil s.dpsalg.sampleCountUtil else s.cores i }

def amecCalcDpsUtilCounters (core : DpsCore) (utilization : BitVec 16) : DpsState :=
  { s with cores := Function.update s.cores core ((s.cores core).calcDpsUtilCounters s.dpsalg utilization) }

/-- The reset of the internal performance settings. -/
def resetPerf : DpsState := { s with cores := fun _ => .zero }

/-- `AMEC_part_overwrite_dps_parameters` -/
def amecPartOverwriteDpsParameters (p : TunableParams) : DpsState := { s with dpsalg := p.dpsalg }.resetPerf

/-- `amec_part_update_dps_parameters` -/
def amecPartUpdateDpsParameters (single : Bool) : DpsState :=
  if s.paramOverwrite then s
  else { s with dpsalg := if s.esPolicy = .dpsMp then favorPerformance single else favorEnergy 41 }

/-- `AMEC_part_update_sysmode_policy`, with `amec_part_update_perf_settings`. -/
def amecPartUpdateSysmodePolicy (mode : SysMode) (single : Bool) : DpsState :=
  let s := { s with
    esPolicy := match mode with
      | .nominal => .nom
      | .dynPowerSave => .dps
      | .dynPowerSaveFp => .dpsMp
      | .other => .undefined }
  if s.esPolicy = .dps ∨ s.esPolicy = .dpsMp then (s.amecPartUpdateDpsParameters single).resetPerf else s

end DpsState

/-! ## Runs -/

inductive DpsEvent
  /-- the utilization of a core is read -/
  | sensors (core : DpsCore) (utilization : BitVec 16)
  /-- a tick of the algorithm -/
  | update (enabled : DpsCore → Bool)
  /-- tunable parameters from the master, 1 for an overwrite and 2 for the defaults -/
  | overwrite (p : TunableParams) (request : BitVec 8)
  | policy (mode : SysMode) (single : Bool)

def DpsState.step (s : DpsState) : DpsEvent → DpsState
  | .sensors core utilization => s.amecCalcDpsUtilCounters core utilization
  | .update enabled => s.amecDpsUpdateCoreUtil enabled
  | .overwrite p request => { s.amecPartOverwriteDpsParameters p with paramOverwrite := request == 1 }
  | .policy mode single => s.amecPartUpdateSysmodePolicy mode single

end Occ.Amec.Dps
