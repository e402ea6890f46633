/-
The processor voting box of the AMEC slave (`amec_slv_proc_voting_box`): the chip-wide emergency
votes, the per-core votes with the soft frequency bounds, the overrides, and the bookkeeping after
the core loop. The result is the floor and ceiling law of `f_request`: never below the system
minimum, and never above the active emergency ceilings exactly when the soft minimum is not applied
over an emergency the code does not look at.
-/
import Occ.Lib.Ballot
import Mathlib.Data.List.Range
import Mathlib.Logic.Function.Basic
import Mathlib.Tactic

namespace Occ.Amec

open Occ.Ballot

/-! ## Votes and reasons -/

/-- `MAX_NUM_CORES`. -/
def maxNumCores : Nat := 24

/-- `AMEC_PART_MAX_PART`. -/
def amecPartMaxPart : Nat := 1

/-- `amec_freq_voting_reason_t`, the reasons the voting box writes or tests. -/
abbrev VotingReason := BitVec 32

namespace VotingReason

def init : VotingReason := 0x00000000
def softMin : VotingReason := 0x00000008
def softMax : VotingReason := 0x00000010
def procThrm : VotingReason := 0x00000040
def oversub : VotingReason := 0x00000100
def override : VotingReason := 0x00000400
def pwr : VotingReason := 0x00001000
def ppb : VotingReason := 0x00002000
def pmax : VotingReason := 0x00004000
def util : VotingReason := 0x00008000
def connOc : VotingReason := 0x00010000
def overrideCore : VotingReason := 0x00020000
def ips : VotingReason := 0x00040000
def apssPmax : VotingReason := 0x00080000
def vddThrm : VotingReason := 0x00100000
def vrmN : VotingReason := 0x00200000

/-- `NON_DPS_POWER_LIMITED`. -/
def nonDpsPowerLimited : VotingReason := pwr ||| ppb ||| pmax

/-- The chip reasons that keep the soft minimum from being enforced. -/
def softMinBlockers : VotingReason := procThrm ||| vddThrm ||| ppb ||| pmax ||| connOc

end VotingReason

/-- `amec_proc_voting_reason_t`, the throttle reason reported to OPAL. -/
inductive ThrotReason
  | noThrottle | powercap | cpuOvertemp | powerSupplyFailure | overcurrent | occReset
  | pcapExceedReport | procOvertempExceedReport | vddOvertemp | vddOvertempExceedReport
  | manufacturingOverride
deriving DecidableEq, Repr

/-- `OCC_INTERNAL_MODE`, the indices of `sys_mode_freq.table`. -/
inductive OccMode
  | nochange | nominal | oversub | turbo | safe | pwrsave | dynPowerSave | minFrequency
  | nomPerformance | maxPerformance | dynPowerSaveFp | ffo | fmf | uturbo | vrmN
deriving DecidableEq, Repr

/-- The part of `amec_part_t` the voting box reads. -/
structure AmecPart where
  valid : Bool
  softFmin : Nat
  softFmax : Nat
deriving DecidableEq, Repr

/-- What the voting box reads: `g_amec`, the system configuration and the inbox. -/
structure Inputs where
  fmax : Nat
  fmin : Nat
  table : OccMode → Nat
  currentMode : OccMode
  kvm : Bool
  reportDvfsNom : Bool
  nonRedundPs : Bool
  oversubPinLive : Bool
  emulateOversub : Bool
  vrmFaultStatus : Bool
  ppbFmax : Nat
  pmaxClipFreq : Nat
  apssPmaxClipFreq : Nat
  thermalprocFreqRequest : Nat
  thermalvddFreqRequest : Nat
  presentCores : BitVec 32
  coreOfflineMask : BitVec 32
  core2part : Nat → Nat
  partList : Nat → AmecPart
  dpsFreqRequest : Nat → Nat
  slvIpsFreqRequest : Nat
  foverrideEnable : Bool
  foverride : Nat
  pstateFoverrideEnable : Bool
  pstateFoverride : Nat
  parmFOverrideEnable : Bool
  parmFOverride : Nat → Nat

/-- What the voting box keeps and writes: the per-core requests, the chip summary, the throttle
reason with its reports, and the clip debug data (`L_last_reason` is a function static). -/
structure VotingState where
  allowPstates : Bool
  fRequest : Nat → Nat
  fReason : Nat → VotingReason
  parmFReason : Nat → VotingReason
  nonDpsPowerLimited : Bool
  coreMaxFreq : Nat
  chipFReason : VotingReason
  opalProcThrotReason : ThrotReason
  dcomWakeups : Nat
  procPwrThrot : Nat
  coreMinFreq : Nat
  currentClipCount : Nat
  chipFReasonHistory : VotingReason
  lastReason : VotingReason

/-- The globals as the image initialises them. -/
def VotingState.boot : VotingState where
  allowPstates := false
  fRequest := fun _ => 0
  fReason := fun _ => .init
  parmFReason := fun _ => .init
  nonDpsPowerLimited := false
  coreMaxFreq := 0
  chipFReason := .init
  opalProcThrotReason := .noThrottle
  dcomWakeups := 0
  procPwrThrot := 0
  coreMinFreq := 0
  currentClipCount := 0
  chipFReasonHistory := .init
  lastReason := .init

namespace Inputs

variable (g : Inputs)

/-- `AMEC_INTF_GET_OVERSUBSCRIPTION`. -/
def oversubscription : Bool := g.oversubPinLive || g.emulateOversub

/-- `CORE_PRESENT(k)`. -/
def corePresent (k : Nat) : Bool := (0x80000000#32 >>> k) &&& g.presentCores != 0

/-- `CORE_OFFLINE(k)`. -/
def coreOffline (k : Nat) : Bool := (0x80000000#32 >>> k) &&& g.coreOfflineMask != 0

/-- The cores the loop votes for. -/
def coreOnline (k : Nat) : Bool := g.corePresent k && !g.coreOffline k

/-- `amec_part_find_by_core`. -/
def amecPartFindByCore (k : Nat) : Option AmecPart :=
  if maxNumCores ≤ k then none
  else if amecPartMaxPart ≤ g.core2part k then none
  else if (g.partList (g.core2part k)).valid then some (g.partList (g.core2part k))
  else none

/-- The frequency from which throttling is reported, `l_report_throttle_freq`. -/
def reportThrottleFreq : Nat :=
  if g.reportDvfsNom then g.table .nominal else g.table .turbo

end Inputs

/-! ## The chip vote -/

/-- The tag of a chip vote: `l_chip_reason` and `l_kvm_throt_reason`. -/
structure ChipTag where
  reason : VotingReason
  throt : ThrotReason
deriving DecidableEq, Repr

/-- The chip reason keeps the soft minimum from being enforced. -/
def ChipTag.Blocks (t : ChipTag) : Prop := t.reason &&& VotingReason.softMinBlockers ≠ 0

instance (t : ChipTag) : Decidable t.Blocks := inferInstanceAs (Decidable (_ ≠ _))

/-- `l_chip_fmax` with the reasons it was last lowered for. -/
abbrev ChipVote := Vote Nat ChipTag

/-- One emergency vote: it counts while it is active and only when it lowers the chip maximum. -/
def castIf (active : Bool) (w v : ChipVote) : ChipVote :=
  if active && v.limit < w.limit then v else w

section Chip

variable (g : Inputs)

/-- Oversubscription holds the chip down only when it is enforced and has a frequency defined. -/
def oversubActive : Bool :=
  !g.nonRedundPs && g.oversubscription && g.table .oversub != 0

/-- A VRM fault holds the chip down only when it has a frequency defined. -/
def vrmNActive : Bool := g.vrmFaultStatus && g.table .vrmN != 0

/-- The reported reason of a limit: one code when it stays at or above the reporting threshold,
another below it. -/
def throtOf (limit : Nat) (exceed below : ThrotReason) : ThrotReason :=
  if g.reportThrottleFreq ≤ limit then exceed else below

def oversubVote (throt : ThrotReason) : ChipVote := ⟨g.table .oversub, .oversub, throt⟩

def vrmNVote (throt : ThrotReason) : ChipVote := ⟨g.table .vrmN, .vrmN, throt⟩

def ppbFmaxVote : ChipVote :=
  ⟨g.ppbFmax, .ppb, throtOf g g.ppbFmax .pcapExceedReport .powercap⟩

def pmaxClipFreqVote : ChipVote := ⟨g.pmaxClipFreq, .pmax, .powerSupplyFailure⟩

def apssPmaxClipFreqVote : ChipVote := ⟨g.apssPmaxClipFreq, .apssPmax, .powerSupplyFailure⟩

def thermalprocVote : ChipVote :=
  ⟨g.thermalprocFreqRequest, .procThrm,
    throtOf g g.thermalprocFreqRequest .procOvertempExceedReport .cpuOvertemp⟩

def thermalvddVote : ChipVote :=
  ⟨g.thermalvddFreqRequest, .vddThrm,
    throtOf g g.thermalvddFreqRequest .vddOvertempExceedReport .vddOvertemp⟩

/-- The chip vote after the emergency votes in the order the code takes them. -/
def chipVote : ChipVote :=
  let w : ChipVote := ⟨g.fmax, .init, .noThrottle⟩
  let w := castIf (oversubActive g) w (oversubVote g w.tag.throt)
  let w := castIf (vrmNActive g) w (vrmNVote g w.tag.throt)
  let w := castIf true w (ppbFmaxVote g)
  let w := castIf true w (pmaxClipFreqVote g)
  let w := castIf true w (apssPmaxClipFreqVote g)
  let w := castIf true w (thermalprocVote g)
  castIf true w (thermalvddVote g)

end Chip

/-! ## The vote of a core -/

/-- `l_core_freq` and `l_core_reason`. -/
structure CoreVote where
  freq : Nat
  reason : VotingReason
deriving DecidableEq, Repr

section Core

variable (g : Inputs) (k : Nat)

/-- The frequency request of the DPS algorithms. -/
def voteDps (c : CoreVote) : CoreVote :=
  if g.dpsFreqRequest k < c.freq then ⟨g.dpsFreqRequest k, .util⟩ else c

/-- The soft bounds of the core's partition; the chip reason decides whether the minimum is enforced. -/
def voteSoftBounds (chip : ChipTag) (part : Option AmecPart) (c : CoreVote) : CoreVote :=
  match part with
  | none => c
  | some p =>
    if c.freq < p.softFmin then
      if chip.Blocks then c else ⟨p.softFmin, .softMin⟩
    else if p.softFmax < c.freq then ⟨p.softFmax, .softMax⟩
    else c

/-- The IPS frequency request of the master. -/
def voteIps (c : CoreVote) : CoreVote :=
  if g.slvIpsFreqRequest ≠ 0 ∧ g.slvIpsFreqRequest < c.freq then ⟨g.slvIpsFreqRequest, .ips⟩ else c

/-- A non-zero request overrides the vote while its override is enabled. -/
def overrideIf (enable : Bool) (freq : Nat) (reason : VotingReason) (c : CoreVote) : CoreVote :=
  if enable && freq != 0 then ⟨freq, reason⟩ else c

/-- The system minimum; the reason is kept. -/
def clampSysFmin (c : CoreVote) : CoreVote :=
  if c.freq < g.fmin then ⟨g.fmin, c.reason⟩ else c

/-- The body of the core loop up to the stored frequency and reason. -/
def coreVote (w : ChipVote) : CoreVote :=
  let c : CoreVote := ⟨w.limit, w.tag.reason⟩
  let c := if g.kvm then c
    else voteSoftBounds w.tag (g.amecPartFindByCore k) (voteDps g k c)
  let c := voteIps g c
  let c := overrideIf g.foverrideEnable g.foverride .override c
  let c := overrideIf g.pstateFoverrideEnable g.pstateFoverride .override c
  let c := clampSysFmin g c
  overrideIf g.parmFOverrideEnable (g.parmFOverride k) .overrideCore c

end Core

/-! ## The core loop and the bookkeeping -/

/-- The locals the core loop carries. -/
structure Loop where
  state : VotingState
  coreFreqMax : Nat
  coreFreqMin : Nat
  currentReason : VotingReason
  kvmThrotReason : ThrotReason

/-- The modes in which a power limit is not reported as a non-DPS one. -/
def modeExcluded (m : OccMode) : Bool :=
  m == .dynPowerSave || m == .dynPowerSaveFp || m == .nomPerformance || m == .maxPerformance ||
    m == .fmf || m == .nochange

/-- One iteration of the core loop. -/
def voteCore (g : Inputs) (w : ChipVote) (l : Loop) (k : Nat) : Loop :=
  if g.coreOnline k then
    let c := coreVote g k w
    { state := { l.state with
        fRequest := Function.update l.state.fRequest k c.freq
        fReason := Function.update l.state.fReason k c.reason
        parmFReason := Function.update l.state.parmFReason k c.reason
        nonDpsPowerLimited :=
          !modeExcluded g.currentMode && c.reason &&& VotingReason.nonDpsPowerLimited != 0 }
      coreFreqMax := if l.coreFreqMax < c.freq then c.freq else l.coreFreqMax
      coreFreqMin := if c.freq < l.coreFreqMin then c.freq else l.coreFreqMin
      currentReason := if c.freq < l.coreFreqMin then c.reason else l.currentReason
      kvmThrotReason := if g.foverrideEnable then .manufacturingOverride else l.kvmThrotReason }
  else
    -- an offline core asks for nothing, so that the frequency state machine ignores it
    { l with state := { l.state with
        fRequest := Function.update l.state.fRequest k 0
        fReason := Function.update l.state.fReason k 0 } }

/-- The chip maximum and the overall reason, kept when every core is offline. -/
def updateCoreMax (l : Loop) (s : VotingState) : VotingState :=
  if l.coreFreqMax = 0 then s
  else { s with coreMaxFreq := l.coreFreqMax, chipFReason := l.currentReason }

/-- The throttle reason with its report to OPAL and the power throttle sensor. -/
def updateThrot (g : Inputs) (throt : ThrotReason) (s : VotingState) : VotingState :=
  let s := if throt = s.opalProcThrotReason then s
    else { s with
      opalProcThrotReason := throt
      dcomWakeups := if g.kvm then s.dcomWakeups + 1 else s.dcomWakeups }
  { s with procPwrThrot := if throt = .pcapExceedReport ∨ throt = .powercap then 1 else 0 }

/-- The clip counter, its history and the last clip reason. -/
def updateClip (g : Inputs) (l : Loop) (s : VotingState) : VotingState :=
  let s := { s with coreMinFreq := l.coreFreqMin }
  if l.coreFreqMin < g.fmax then
    if l.currentReason = s.lastReason then
      if s.currentClipCount = 0xFF then s else { s with currentClipCount := s.currentClipCount + 1 }
    else { s with
      lastReason := l.currentReason
      currentClipCount := 1
      chipFReasonHistory :=
        if s.chipFReasonHistory &&& l.currentReason = 0 then s.chipFReasonHistory ||| l.currentReason
        else s.chipFReasonHistory }
  else { s with lastReason := 0, currentClipCount := 0 }

/-- The loop over every core, from the state at entry. -/
def voteCores (g : Inputs) (s : VotingState) : Loop :=
  let w := chipVote g
  (List.range maxNumCores).foldl (voteCore g w) ⟨s, 0, g.fmax, 0, w.tag.throt⟩

/-- `amec_slv_proc_voting_box`. -/
def amecSlvProcVotingBox (g : Inputs) (s : VotingState) : VotingState :=
  let s := if !s.allowPstates && (g.currentMode != .nochange || g.kvm) then { s with allowPstates := true }
    else s
  let l := voteCores g s
  updateClip g l (updateThrot g l.kvmThrotReason (updateCoreMax l l.state))

end Occ.Amec
