/-
The power caps of a tick (`amec_pcap.c`): the node's active cap, from it the GPUs' caps, whether memory is
throttled, and the processor's cap. Watts are 16-bit words, milliwatts 32-bit words.
-/
import Occ.Lib.Transition
import Mathlib.Data.BitVec
import Mathlib.Logic.Function.Basic

namespace Occ.Amec.Pcap

open Occ Transition

/-! ## Data -/

/-- `MAX_NUM_GPU_PER_DOMAIN` GPUs. -/
abbrev GpuId := Fin 3

/-- A GPU: `GPU_PRESENT`, and the limits read from it. -/
structure GpuLimits where
  present : Bool
  pwrLimitsRead : Bool
  gpuMinPcapMw : BitVec 32
  gpuMaxPcapMw : BitVec 32
deriving DecidableEq, Repr

/-- What a tick finds in `G_sysConfigData`, in `g_amec` and in the sensors and does not change. -/
structure Env where
  oversub : Bool
  ovsNodePcap : BitVec 16
  normNodePcap : BitVec 16
  currentPcap : BitVec 16
  systemPcap : BitVec 16
  maxPcap : BitVec 16
  -- the samples of PWRSYS and PWRPROC
  pwrSys : BitVec 16
  pwrProc : BitVec 16
  -- whether the mode is nominal, and the memory power with the throttles of each
  modeNominal : Bool
  nominalMemPwr : BitVec 16
  turboMemPwr : BitVec 16
  pcap1MemPwr : BitVec 16
  ppbFmax : BitVec 16
  fmin : BitVec 16
  freqMinFrequency : BitVec 16
  freqNominal : BitVec 16
  -- `G_first_proc_gpu_config`, `G_first_num_gpus_sys`, and the data for the GPUs' caps
  firstProcGpuConfig : BitVec 32
  firstNumGpusSys : BitVec 32
  totalNonGpuMaxPwrWatts : BitVec 16
  totalProcMemPwrDropWatts : BitVec 16
  psr : BitVec 8
  gpu : GpuId → GpuLimits

/-- The static variables of `amec_gpu_pcap`, the caps wanted for the GPUs, and the logs of the first run. -/
structure GpuPcap where
  totalGpuPcap : BitVec 16
  nPlus1ModeGpuTotalPcap : BitVec 16
  nModeGpuTotalPcap : BitVec 16
  activePsrGpuTotalPcap : BitVec 16
  perGpuPcap : BitVec 16
  psr : BitVec 8
  firstRun : Bool
  gpuDesiredPcapMw : GpuId → BitVec 32
  nModeFailures : Nat
  nPlus1ModeFailures : Nat

/-- `g_amec->pcap`, the votes, the static variables of `amec_pcap_calc` and those of the GPUs. -/
structure State where
  activeNodePcap : BitVec 16
  activeProcPcap : BitVec 16
  activeMemLevel : BitVec 8
  pcapValid : Bool
  nomPcapFmin : BitVec 16
  prevNodePcap : BitVec 16
  ticksMemPwrAvailable : BitVec 32
  gpu : GpuPcap

def unthrottleMemoryDelay : BitVec 32 := 2

def GpuPcap.boot : GpuPcap := ⟨0, 0, 0, 0, 0, 100, true, fun _ => 0, 0, 0⟩

def State.boot : State := ⟨0, 0, 0, false, 0, 0, 0, .boot⟩

/-! ## The GPUs' caps -/

/-- What a cap leaves for all GPUs, when `drop` is given to them; nothing when the rest of the node needs it all. -/
def gpuTotal (pcap nonGpu drop : BitVec 16) : BitVec 16 := if nonGpu < pcap then pcap - nonGpu + drop else 0

namespace GpuPcap

variable (g : GpuPcap) (env : Env)

/-- The totals for the caps of the system are calculated by the first run. -/
def systemTotals : GpuPcap :=
  if g.firstRun then
    { g with
      nModeGpuTotalPcap := gpuTotal env.ovsNodePcap env.totalNonGpuMaxPwrWatts env.totalProcMemPwrDropWatts
      nModeFailures := if env.totalNonGpuMaxPwrWatts < env.ovsNodePcap then g.nModeFailures else g.nModeFailures + 1
      nPlus1ModeGpuTotalPcap :=
        gpuTotal env.systemPcap env.totalNonGpuMaxPwrWatts env.totalProcMemPwrDropWatts
      nPlus1ModeFailures :=
        if env.totalNonGpuMaxPwrWatts < env.systemPcap then g.nPlus1ModeFailures else g.nPlus1ModeFailures + 1 }
  else g

/-- `(L_psr / 100) * total_proc_mem_pwr_drop_watts` divides first. -/
def psrDrop : BitVec 16 := (env.psr / 100).setWidth 16 * env.totalProcMemPwrDropWatts

/-- The total for the active cap and the PSR, and each GPU's share of what is in effect. -/
def activeTotal (activeNodePcap : BitVec 16) : GpuPcap :=
  let active := gpuTotal activeNodePcap env.totalNonGpuMaxPwrWatts (psrDrop env)
  let system := if env.oversub then g.nModeGpuTotalPcap else g.nPlus1ModeGpuTotalPcap
  let total := if system < active then system else active
  { g with
    psr := env.psr
    activePsrGpuTotalPcap := active
    totalGpuPcap := total
    perGpuPcap := if env.firstNumGpusSys ≠ 0 then (total.setWidth 32 / env.firstNumGpusSys).setWidth 16 else 0 }

/-- A cap in milliwatts, clipped to the limits of a GPU. -/
def clip (l : GpuLimits) (mw : BitVec 32) : BitVec 32 :=
  if mw < l.gpuMinPcapMw then l.gpuMinPcapMw else if l.gpuMaxPcapMw < mw then l.gpuMaxPcapMw else mw

def amecGpuPcap (activeNodePcap : BitVec 16) (activePcapChanged : Bool) : GpuPcap :=
  let t := g.systemTotals env
  let t := if t.firstRun ∨ activePcapChanged ∨ t.psr ≠ env.psr then t.activeTotal env activeNodePcap else t
  { t with
    firstRun := false
    gpuDesiredPcapMw := fun i =>
      if (env.gpu i).present ∧ (env.gpu i).pwrLimitsRead then clip (env.gpu i) (t.perGpuPcap.setWidth 32 * 1000)
      else t.gpuDesiredPcapMw i }

end GpuPcap

/-! ## The caps of a tick -/

/-- The active cap: the one for oversubscription only when the user has not set a lower one. -/
def Env.activeNodePcap (env : Env) : BitVec 16 :=
  if env.oversub ∧ (env.currentPcap = 0 ∨ env.ovsNodePcap < env.currentPcap) then env.ovsNodePcap
  else env.normNodePcap

/-- `l_avail_power` -/
def Env.availPower (env : Env) : Int := env.activeNodePcap.toNat - env.pwrSys.toNat

/-- The memory power between the throttles of the mode and those of the cap. -/
def Env.memPwrDiff (env : Env) : BitVec 16 :=
  (if env.modeNominal then env.nominalMemPwr else env.turboMemPwr) - env.pcap1MemPwr

namespace State

variable (s : State) (env : Env)

/-- The active cap takes effect, and the GPUs' caps follow it. -/
def nodeCap : State :=
  let active := env.activeNodePcap
  let changed := s.prevNodePcap ≠ active
  { s with
    activeNodePcap := active
    prevNodePcap := active
    pcapValid := if changed then true else s.pcapValid
    gpu := if env.firstProcGpuConfig ≠ 0 then s.gpu.amecGpuPcap env active changed else s.gpu }

/-- The throttle level of memory, and the power that is left for the processor. -/
def memLevel : State × Int :=
  let avail := env.availPower
  if env.pwrSys = 0 then (s, avail)
  else if 0 < avail ∧ s.activeMemLevel ≠ 0 then
    if (env.memPwrDiff.toNat : Int) ≤ avail then
      if s.ticksMemPwrAvailable + 1 = unthrottleMemoryDelay then
        ({ s with activeMemLevel := 0, ticksMemPwrAvailable := 0 }, 0)
      else ({ s with ticksMemPwrAvailable := s.ticksMemPwrAvailable + 1 }, avail)
    else (s, avail)
  else if avail < 0 then
    ({ s with
      ticksMemPwrAvailable := 0
      activeMemLevel := if s.activeMemLevel = 0 ∧ env.ppbFmax = env.fmin then 1 else s.activeMemLevel }, avail)
  else (s, avail)

/-- The processor's cap, unless memory is throttled. -/
def procCap (avail : Int) : State :=
  if s.activeMemLevel = 0 then
    let fraction : BitVec 32 :=
      if env.pwrSys = 0 then 0 else (env.pwrProc.setWidth 32 <<< 16) / env.pwrSys.setWidth 32
    { s with
      activeProcPcap := (env.pwrProc.setWidth 32 + ((fraction * BitVec.ofInt 32 avail) >>> 16)).setWidth 16
      nomPcapFmin := if s.activeNodePcap < env.maxPcap then env.freqMinFrequency else env.freqNominal }
  else s

def amecPcapCalc : State :=
  let (t, avail) := (s.nodeCap env).memLevel env
  t.procCap env avail

end State

end Occ.Amec.Pcap
