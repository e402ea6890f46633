/-
The core data that GPE0 collects (`core_data.c`): the temperatures, the droop events of a quad and its cores, and the EMPATH
counters of a core.
-/
import Mathlib.Data.BitVec
import Mathlib.Logic.Function.Basic
import Mathlib.Tactic.Common

namespace Occ.Gpe0

/-! ## Model -/

/-- `MAX_NUM_CORES` and `MAX_NUM_QUADS` -/
abbrev Core := Fin 24

abbrev Quad := Fin 6

/-- `i_core / CORES_PER_QUAD` -/
def quadOf (c : Core) : Quad := ⟨c / 4, by omega⟩

/-- The cores of a quad. -/
def coreOf (q : Quad) (i : Fin 4) : Core := ⟨q * 4 + i, by omega⟩

/-- `CACHE_VDM_LARGE_DROOP` -/
def cacheVdmLargeDroop : BitVec 64 := 0x0000000004000000

/-- `CORE0_VDM_SMALL_DROOP` to `CORE3_VDM_SMALL_DROOP` -/
def coreVdmSmallDroop : Fin 4 → BitVec 64
  | 0 => 0x0000000000200000
  | 1 => 0x0000000000020000
  | 2 => 0x0000000000002000
  | 3 => 0x0000000000000200

/-- `SIBRC_ADDRESS_ERROR` -/
def sibrcAddressError : BitVec 32 := 4

/-- `CORE_RAW_CYCLES` and `SELECT_ODD_CORE` -/
def coreRawCycles : BitVec 64 := 0x200

def selectOddCore : BitVec 64 := 0x100

/-- `PC_OCC_SPRC` and `WORKAROUND_SCOM_ADDRESS` -/
def pcOccSprc : BitVec 32 := 0x00010A82

def workaroundScomAddress : BitVec 32 := 0x10800

inductive FusedCore
  | fusedUnknown | fusedFalse | fusedTrue
deriving DecidableEq, Repr

structure PerThread where
  runCycles : BitVec 32
  dispatch : BitVec 32
  completion : BitVec 32
  memC : BitVec 32
deriving DecidableEq, Repr

structure CoreData where
  tod2mhz : BitVec 32
  rawCycles : BitVec 32
  runCycles : BitVec 32
  freqSensBusy : BitVec 32
  freqSensFinish : BitVec 32
  memLatencyA : BitVec 32
  memLatencyB : BitVec 32
  memAccessC : BitVec 32
  ifuThrottle : BitVec 32
  ifuActive : BitVec 32
  vDroop : BitVec 32
  perThread : Fin 4 → PerThread
  dtsCore : Fin 2 → BitVec 16
  dtsCache : Fin 2 → BitVec 16
  stopStateHist : BitVec 64
  cacheLargeEvent : BitVec 32
  coreSmallEvent : BitVec 32
  empathValid : BitVec 32

/-- What the loop at the start makes of the data. -/
def CoreData.zero : CoreData :=
  ⟨0, 0, 0, 0, 0, 0, 0, 0, 0, 0, 0, fun _ => ⟨0, 0, 0, 0⟩, fun _ => 0, fun _ => 0, 0, 0, 0, 0⟩

/-- The return code of a SCOM read, and the value for 0. -/
structure ScomRead where
  rc : BitVec 32
  value : BitVec 64

/-- What the SCOMs of a call answer: `THERM_DTS_RESULT` of the quad and of the core, `CME_VDSR`, `CPPM_CPMMR`, the write of
`PC_OCC_SPRC`, the reads of `PC_OCC_SPRD` in order, `TOD_VALUE_REG` and `STOP_STATE_HIST_OCC_REG`. -/
structure CoreScoms where
  quadDts : ScomRead
  coreDts : ScomRead
  vdsr : ScomRead
  cpmmr : ScomRead
  sprc : BitVec 32
  sprd : Nat → ScomRead
  tod : ScomRead
  stopStateHist : ScomRead

/-- `g_vdm_cache_large_droop_count`, `g_vdm_core_small_droop_count` and `g_fused_core` -/
structure GpeState where
  largeDroopCount : Quad → BitVec 32
  smallDroopCount : Core → BitVec 32
  fusedCore : FusedCore

def GpeState.boot : GpeState := ⟨fun _ => 0, fun _ => 0, .fusedUnknown⟩

/-- A call: the return code, the data, the globals after it, and what is written to which SCOM address of the core. -/
structure Collected where
  rc : BitVec 32
  data : CoreData
  gpe : GpeState
  puts : List (BitVec 32 × BitVec 64)

/-! ## Droop events -/

/-- One more of a kind of event when its bit is 0. -/
def bump {ι : Type} [DecidableEq ι] (event : Bool) (count : ι → BitVec 32) (i : ι) : ι → BitVec 32 :=
  if event then Function.update count i (count i + 1) else count

/-- Update the droop event counts. -/
def countDroops (core : Core) (value : BitVec 64) (g : GpeState) : GpeState :=
  let q := quadOf core
  let small := fun (count : Core → BitVec 32) i => bump (value &&& coreVdmSmallDroop i = 0) count (coreOf q i)
  { g with
    largeDroopCount := bump (value &&& cacheVdmLargeDroop = 0) g.largeDroopCount q
    smallDroopCount := small (small (small (small g.smallDroopCount 0) 1) 2) 3 }

/-- The event of the quad, and its counter is cleared. -/
def returnLarge (core : Core) (d : CoreData) (g : GpeState) : CoreData × GpeState :=
  if g.largeDroopCount (quadOf core) ≠ 0 then
    ({ d with cacheLargeEvent := 1 }, { g with largeDroopCount := Function.update g.largeDroopCount (quadOf core) 0 })
  else (d, g)

/-- The event of the core, and its counter is cleared. -/
def returnSmall (core : Core) (d : CoreData) (g : GpeState) : CoreData × GpeState :=
  if g.smallDroopCount core ≠ 0 then
    ({ d with coreSmallEvent := 1 }, { g with smallDroopCount := Function.update g.smallDroopCount core 0 })
  else (d, g)

/-- Droop events are not critical: a register that cannot be read leaves everything as it is. -/
def droop (core : Core) (vdsr : ScomRead) (d : CoreData) (g : GpeState) : CoreData × GpeState :=
  if vdsr.rc ≠ 0 then (d, g)
  else
    let r := returnLarge core d (countDroops core vdsr.value g)
    returnSmall core r.1 r.2

/-! ## EMPATH -/

/-- Where the counters of a thread go, in the order in which they are read. -/
def threadSets (t : Fin 4) : List (CoreData → BitVec 32 → CoreData) :=
  [fun d v => { d with perThread := Function.update d.perThread t { d.perThread t with runCycles := v } },
    fun d v => { d with perThread := Function.update d.perThread t { d.perThread t with dispatch := v } },
    fun d v => { d with perThread := Function.update d.perThread t { d.perThread t with completion := v } },
    fun d v => { d with perThread := Function.update d.perThread t { d.perThread t with memC := v } }]

/-- Where the counters go, in the order in which they are read; the selected counter increments after each read. -/
def sprdSets : List (CoreData → BitVec 32 → CoreData) :=
  [fun d v => { d with rawCycles := v }, fun d v => { d with runCycles := v }, fun d v => { d with freqSensBusy := v },
    fun d v => { d with freqSensFinish := v }, fun d v => { d with memLatencyA := v }, fun d v => { d with memLatencyB := v },
    fun d v => { d with memAccessC := v }] ++
  threadSets 0 ++ threadSets 1 ++ threadSets 2 ++ threadSets 3 ++
  [fun d v => { d with ifuThrottle := v }, fun d v => { d with ifuActive := v }, fun d v => { d with vDroop := v }]

/-- Read the counters from the `i`th one on. -/
def readCounters (sprd : Nat → ScomRead) : List (CoreData → BitVec 32 → CoreData) → Nat → CoreData → BitVec 32 × CoreData
  | [], _, d => (0, d)
  | set :: sets, i, d =>
    if (sprd i).rc ≠ 0 then ((sprd i).rc, d) else readCounters sprd sets (i + 1) (set d ((sprd i).value.setWidth 32))

/-- Whether the cores are fused, which is read until it is known. -/
def readFused (cpmmr : ScomRead) (fused : FusedCore) : BitVec 32 × FusedCore :=
  if fused = .fusedUnknown then
    if cpmmr.rc ≠ 0 then (cpmmr.rc, fused) else (0, if cpmmr.value.getMsbD 9 then .fusedTrue else .fusedFalse)
  else (0, fused)

/-- The counter to start with. -/
def empathSelect (core : Core) (fused : FusedCore) : BitVec 64 :=
  if fused = .fusedTrue ∧ core.val % 2 ≠ 0 then coreRawCycles ||| selectOddCore else coreRawCycles

/-- The counters, the time of day and the history of stop states. -/
def empathReads (s : CoreScoms) (d : CoreData) : BitVec 32 × CoreData :=
  let r := readCounters s.sprd sprdSets 0 d
  if r.1 ≠ 0 then r
  else if s.tod.rc ≠ 0 then (s.tod.rc, r.2)
  else
    let d := { r.2 with tod2mhz := (s.tod.value >>> 8).setWidth 32 }
    if s.stopStateHist.rc ≠ 0 then (s.stopStateHist.rc, d)
    else (0, { d with stopStateHist := s.stopStateHist.value, empathValid := 1 })

/-- The EMPATH part. -/
def empath (core : Core) (s : CoreScoms) (d : CoreData) (g : GpeState) : Collected :=
  let f := readFused s.cpmmr g.fusedCore
  if f.1 ≠ 0 then ⟨f.1, d, g, []⟩
  else
    let g := { g with fusedCore := f.2 }
    let puts := [(pcOccSprc, empathSelect core f.2)]
    if s.sprc ≠ 0 then ⟨s.sprc, d, g, puts⟩
    else
      let r := empathReads s d
      ⟨r.1, r.2, g, puts⟩

/-! ## A call -/

/-- The two readings of a DTS result. -/
def dtsReadings (value : BitVec 64) : Fin 2 → BitVec 16
  | 0 => (value >>> 48).setWidth 16
  | 1 => (value >>> 32).setWidth 16

/-- An address error of EMPATH is worked around: the data has no valid EMPATH counters then, but the temperatures are good. -/
def workaround (r : Collected) : Collected :=
  if r.rc = sibrcAddressError then { r with rc := 0, puts := r.puts ++ [(workaroundScomAddress, 0)] } else r

/-- `get_core_data` -/
def getCoreData (core : Core) (s : CoreScoms) (g : GpeState) : Collected :=
  if s.quadDts.rc ≠ 0 then ⟨s.quadDts.rc, .zero, g, []⟩
  else
    let d := { CoreData.zero with dtsCache := dtsReadings s.quadDts.value }
    if s.coreDts.rc ≠ 0 then ⟨s.coreDts.rc, d, g, []⟩
    else
      let d := { d with dtsCore := dtsReadings s.coreDts.value }
      let r := droop core s.vdsr d g
      workaround (empath core s r.1 r.2)

/-! ## What EMPATH returns -/

/-- The return code of SCOMs that stop at the first failure. -/
def firstFailure : List (BitVec 32) → BitVec 32
  | [] => 0
  | rc :: rcs => if rc ≠ 0 then rc else firstFailure rcs

theorem firstFailure_cons_zero (rcs : List (BitVec 32)) : firstFailure (0 :: rcs) = firstFailure rcs := if_neg (not_not.2 rfl)

theorem firstFailure_cons {rc : BitVec 32} (h : rc ≠ 0) (rcs : List (BitVec 32)) : firstFailure (rc :: rcs) = rc := if_pos h

theorem firstFailure_append (rcs rcs' : List (BitVec 32)) :
    firstFailure (rcs ++ rcs') = if firstFailure rcs ≠ 0 then firstFailure rcs else firstFailure rcs' := by
  induction rcs with
  | nil => rfl
  | cons rc rcs ih =>
    by_cases hrc : rc = 0
    · rw [hrc, List.cons_append, firstFailure_cons_zero, firstFailure_cons_zero, ih]
    · rw [List.cons_append, firstFailure_cons hrc, firstFailure_cons hrc, if_pos hrc]

/-- The SCOMs of EMPATH in order. -/
def empathRcs (fused : FusedCore) (s : CoreScoms) : List (BitVec 32) :=
  (if fused = .fusedUnknown then [s.cpmmr.rc] else []) ++ s.sprc :: ((List.range' 0 sprdSets.length).map fun i => (s.sprd i).rc) ++
    [s.tod.rc, s.stopStateHist.rc]

section
variable (core : Core) (s : CoreScoms) (d : CoreData) (g : GpeState)

theorem rc_readCounters (sets : List (CoreData → BitVec 32 → CoreData)) (i : Nat) :
    (readCounters s.sprd sets i d).1 = firstFailure ((List.range' i sets.length).map fun i => (s.sprd i).rc) := by
  induction sets generalizing i d with
  | nil => rfl
  | cons set sets ih =>
    rw [List.length_cons, List.range'_succ, List.map_cons]
    unfold readCounters
    split_ifs with hrc
    · exact (firstFailure_cons hrc _).symm
    · rw [ih, not_not.1 hrc, firstFailure_cons_zero]

theorem rc_empathReads : (empathReads s d).1 =
    firstFailure (((List.range' 0 sprdSets.length).map fun i => (s.sprd i).rc) ++ [s.tod.rc, s.stopStateHist.rc]) := by
  have hcounters := rc_readCounters s d sprdSets 0
  rw [firstFailure_append, ← hcounters]
  unfold empathReads
  dsimp only
  split_ifs with hread htod hstop
  · rfl
  · exact (firstFailure_cons htod _).symm
  · rw [not_not.1 htod, firstFailure_cons_zero, firstFailure_cons hstop]
  · rw [not_not.1 htod, not_not.1 hstop]
    rfl

theorem rc_empath : (empath core s d g).rc = firstFailure (empathRcs g.fusedCore s) := by
  have hreads := rc_empathReads s d
  have hrest : firstFailure (s.sprc :: ((List.range' 0 sprdSets.length).map fun i => (s.sprd i).rc) ++
      [s.tod.rc, s.stopStateHist.rc]) = if s.sprc ≠ 0 then s.sprc else (empathReads s d).1 := by
    rw [hreads, List.cons_append]
    rfl
  unfold empathRcs empath readFused
  rw [List.append_assoc, firstFailure_append, hrest]
  by_cases hfused : g.fusedCore = .fusedUnknown
  · by_cases hcpmmr : s.cpmmr.rc = 0
    · simp only [hfused, hcpmmr, if_true, if_false, ne_eq, not_true_eq_false, firstFailure]
      split_ifs <;> rfl
    · simp only [hfused, hcpmmr, if_true, ne_eq, not_false_eq_true, firstFailure]
  · simp only [hfused, if_false, ne_eq, not_true_eq_false, firstFailure]
    split_ifs <;> rfl

/-- EMPATH leaves the droop events alone. -/
theorem empath_droop : (empath core s d g).data.cacheLargeEvent = d.cacheLargeEvent ∧
    (empath core s d g).data.coreSmallEvent = d.coreSmallEvent ∧
    (empath core s d g).gpe.largeDroopCount = g.largeDroopCount ∧ (empath core s d g).gpe.smallDroopCount = g.smallDroopCount := by
  have hcounters : ∀ (sets : List (CoreData → BitVec 32 → CoreData)) (i : Nat) (d : CoreData),
      (∀ set ∈ sets, ∀ d v, (set d v).cacheLargeEvent = d.cacheLargeEvent ∧ (set d v).coreSmallEvent = d.coreSmallEvent) →
        (readCounters s.sprd sets i d).2.cacheLargeEvent = d.cacheLargeEvent ∧
          (readCounters s.sprd sets i d).2.coreSmallEvent = d.coreSmallEvent := by
    intro sets
    induction sets with
    | nil => exact fun _ _ _ => ⟨rfl, rfl⟩
    | cons set sets ih =>
      intro i d hsets
      unfold readCounters
      split_ifs
      · exact ⟨rfl, rfl⟩
      · obtain ⟨hlarge, hsmall⟩ := ih (i + 1) (set d ((s.sprd i).value.setWidth 32)) fun f hf => hsets f (List.mem_cons_of_mem _ hf)
        obtain ⟨hlarge', hsmall'⟩ := hsets set List.mem_cons_self d ((s.sprd i).value.setWidth 32)
        exact ⟨hlarge.trans hlarge', hsmall.trans hsmall'⟩
  have hsets : ∀ set ∈ sprdSets, ∀ d v, (set d v).cacheLargeEvent = d.cacheLargeEvent ∧
      (set d v).coreSmallEvent = d.coreSmallEvent := by
    unfold sprdSets threadSets
    simp
  have hreads : (empathReads s d).2.cacheLargeEvent = d.cacheLargeEvent ∧ (empathReads s d).2.coreSmallEvent = d.coreSmallEvent := by
    have hread := hcounters sprdSets 0 d hsets
    unfold empathReads
    dsimp only
    split_ifs <;> exact hread
  unfold empath
  dsimp only
  split_ifs
  · exact ⟨rfl, rfl, rfl, rfl⟩
  · exact ⟨rfl, rfl, rfl, rfl⟩
  · exact ⟨hreads.1, hreads.2, rfl, rfl⟩

end

end Occ.Gpe0
