/-
What a packet of the GPUs leaves of an earlier one: nothing is reset, so that the data of a GPU that only the first packet
has stay, and once a GPU is monitored the GPUs are.
-/
import Occ.Cmdh.GpuConfig
import Occ.Lib.Literals

namespace Occ.Cmdh

open Writes (puts storeAll Covered)

attribute [local instance] neZero_three

/-! ## Writes -/

/-- What is written to each of the globals: the two numbers of GPUs in the system get the same, and so do the two masks of
the GPUs of this processor, and the two flags of the monitoring. -/
structure GpuWrites where
  gpuI2cEngine : List (Unit × BitVec 8) := []
  gpuI2cBusVoltage : List (Unit × BitVec 8) := []
  gpuI2cInfo : List (Fin 3 × GpuI2cInfo) := []
  gpuSensorIds : List (Fin 3 × BitVec 32) := []
  tempGpuSid : List (Fin 3 × BitVec 32) := []
  tempGpuMemSid : List (Fin 3 × BitVec 32) := []
  numGpusSys : List (Unit × BitVec 32) := []
  procGpuConfig : List (Unit × BitVec 32) := []
  gpuConfigDone : List (Unit × Bool) := []
  monitoring : List (Unit × Bool) := []

def GpuWrites.append (w v : GpuWrites) : GpuWrites where
  gpuI2cEngine := w.gpuI2cEngine ++ v.gpuI2cEngine
  gpuI2cBusVoltage := w.gpuI2cBusVoltage ++ v.gpuI2cBusVoltage
  gpuI2cInfo := w.gpuI2cInfo ++ v.gpuI2cInfo
  gpuSensorIds := w.gpuSensorIds ++ v.gpuSensorIds
  tempGpuSid := w.tempGpuSid ++ v.tempGpuSid
  tempGpuMemSid := w.tempGpuMemSid ++ v.tempGpuMemSid
  numGpusSys := w.numGpusSys ++ v.numGpusSys
  procGpuConfig := w.procGpuConfig ++ v.procGpuConfig
  gpuConfigDone := w.gpuConfigDone ++ v.gpuConfigDone
  monitoring := w.monitoring ++ v.monitoring

def Gpu.write (s : Gpu) (w : GpuWrites) : Gpu where
  totalNonGpuMaxPwrWatts := s.totalNonGpuMaxPwrWatts
  totalProcMemPwrDropWatts := s.totalProcMemPwrDropWatts
  gpuI2cEngine := puts w.gpuI2cEngine (fun _ => s.gpuI2cEngine) ()
  gpuI2cBusVoltage := puts w.gpuI2cBusVoltage (fun _ => s.gpuI2cBusVoltage) ()
  gpuI2cInfo := puts w.gpuI2cInfo s.gpuI2cInfo
  gpuSensorIds := puts w.gpuSensorIds s.gpuSensorIds
  tempGpuSid := puts w.tempGpuSid s.tempGpuSid
  tempGpuMemSid := puts w.tempGpuMemSid s.tempGpuMemSid
  firstNumGpusSys := puts w.numGpusSys (fun _ => s.firstNumGpusSys) ()
  currNumGpusSys := puts w.numGpusSys (fun _ => s.currNumGpusSys) ()
  firstProcGpuConfig := puts w.procGpuConfig (fun _ => s.firstProcGpuConfig) ()
  currProcGpuConfig := puts w.procGpuConfig (fun _ => s.currProcGpuConfig) ()
  gpuConfigDone := puts w.gpuConfigDone (fun _ => s.gpuConfigDone) ()
  gpuMonitoringAllowed := puts w.monitoring (fun _ => s.gpuMonitoringAllowed) ()
  gpuSmTask := puts w.monitoring (fun _ => s.gpuSmTask) ()

theorem Gpu.write_append (s : Gpu) (w v : GpuWrites) : (s.write w).write v = s.write (w.append v) := by
  simp only [write, GpuWrites.append, Writes.puts_append]

/-! ## Data sets -/

/-- The GPU of a data set is monitored: it has a port and an address. -/
def GpuSet.Monitored (set : GpuSet) : Prop := set.i2cPort ≠ 0xFF ∧ set.i2cAddr ≠ 0xFF

instance (set : GpuSet) : Decidable set.Monitored := by
  unfold GpuSet.Monitored
  infer_instance

def GpuSet.writes (set : GpuSet) : GpuWrites :=
  let gpu := Fin.ofNat 3 set.gpuNum.toNat
  { gpuI2cInfo := [(gpu, ⟨set.i2cPort, set.i2cAddr⟩)]
    gpuSensorIds := if set.Monitored then [(gpu, set.gpuSid)] else []
    tempGpuSid := if set.Monitored then [(gpu, set.gpuTempSid)] else []
    tempGpuMemSid := if set.Monitored then [(gpu, set.gpuMemTempSid)] else [] }

/-- The bit of a GPU that is present. -/
def GpuSet.bit (apss : Bool) (set : GpuSet) : BitVec 8 :=
  if set.Monitored then
    if apss then 0 else 1 <<< (Fin.ofNat 3 set.gpuNum.toNat : Nat)
  else 0

namespace Gpu

variable {apss : Bool} {s t : Gpu} {mask mask' : BitVec 8} {set : GpuSet}

theorem storeSet_ok (h : storeSet apss (s, mask) set = ((t, mask'), none)) :
    t = s.write set.writes ∧ mask' = mask ||| set.bit apss := by
  unfold storeSet at h
  rcases ite_eq_iff.1 h with ⟨-, h⟩ | ⟨-, h⟩
  · unfold GpuSet.writes GpuSet.bit
    rcases ite_eq_iff.1 h with ⟨hmon, h⟩ | ⟨hmon, h⟩
    · have hset : set.Monitored := hmon
      simp only [if_pos hset]
      cases h
      refine ⟨rfl, ?_⟩
      split
      · exact BitVec.or_zero.symm
      · rfl
    · have hset : ¬set.Monitored := hmon
      simp only [if_neg hset]
      cases h
      exact ⟨rfl, BitVec.or_zero.symm⟩
  · cases h

theorem storeSets_ok {sets : List GpuSet} (h : storeAll (storeSet apss) (s, mask) sets = ((t, mask'), none)) :
    t = s.write (sets.foldr (fun set w => set.writes.append w) {}) ∧
      mask' = sets.foldl (fun mask set => mask ||| set.bit apss) mask := by
  induction sets generalizing s mask with
  | nil =>
    cases h
    exact ⟨rfl, rfl⟩
  | cons set sets ih =>
    rcases hset : storeSet apss (s, mask) set with ⟨⟨u, umask⟩, _ | err⟩
    · rw [Writes.storeAll_cons_of_none hset] at h
      obtain ⟨rfl, rfl⟩ := storeSet_ok hset
      obtain ⟨rfl, rfl⟩ := ih h
      exact ⟨write_append _ _ _, rfl⟩
    · rw [Writes.storeAll_cons_of_some hset] at h
      cases h

theorem storeSets_err (r r' : Gpu × BitVec 8) (sets : List GpuSet) :
    (storeAll (storeSet apss) r sets).2 = (storeAll (storeSet apss) r' sets).2 := by
  apply And.right
  apply Writes.storeAll_agree (R := fun _ _ => True)
  · rintro r r' set -
    simp only [storeSet, apply_ite Prod.snd, and_self]
  · trivial

end Gpu

/-! ## Packets -/

namespace GpuConfig

variable (apss : Bool) (cmd : GpuConfig)

/-- A value for each of the three GPUs. -/
def everyGpu (ids : Fin 3 → BitVec 32) : List (Fin 3 × BitVec 32) := (List.finRange 3).map fun i => (i, ids i)

/-- The GPUs that a packet of version 2 marks as present. -/
def presentMask : BitVec 8 := cmd.gpuData.foldl (fun mask set => mask ||| set.bit apss) 0

/-- The presence of the GPUs, which an APSS tells. -/
def presenceWrites : GpuWrites :=
  if apss then {}
  else
    { numGpusSys := [((), cmd.totalNumGpusSystem.setWidth 32)]
      procGpuConfig := [((), (cmd.presentMask apss).setWidth 32)]
      gpuConfigDone := [((), true)]
      monitoring := if cmd.presentMask apss = 0 then [] else [((), true)] }

/-- What an accepted packet writes. -/
def writes : GpuWrites :=
  if cmd.version = 1 then
    { gpuSensorIds := everyGpu cmd.gpuSid
      tempGpuSid := everyGpu cmd.gpuTempSid
      tempGpuMemSid := everyGpu cmd.gpuMemTempSid }
  else
    GpuWrites.append { gpuI2cEngine := [((), cmd.gpuI2cEngine)], gpuI2cBusVoltage := [((), cmd.gpuI2cBusVoltage)] }
      ((cmd.gpuData.foldr (fun (set : GpuSet) w => set.writes.append w) {}).append (cmd.presenceWrites apss))

/-- The power, which every packet has. -/
def start (s : Gpu) : Gpu :=
  { s with
    totalNonGpuMaxPwrWatts := cmd.totalNonGpuMaxPwrWatts
    totalProcMemPwrDropWatts := cmd.totalProcMemPwrDropWatts }

theorem puts_everyGpu (ids m : Fin 3 → BitVec 32) : puts (everyGpu ids) m = ids := by
  funext i
  apply Writes.puts_apply_of_mem
  · exact List.mem_map.2 ⟨i, List.mem_finRange i, rfl⟩
  · intro id h
    obtain ⟨j, -, hj⟩ := List.mem_map.1 h
    cases hj
    rfl

end GpuConfig

namespace Gpu

variable {apss : Bool} {cmd : GpuConfig} {s t : Gpu}

theorem setPresence_eq (s : Gpu) (cmd : GpuConfig) :
    s.setPresence cmd.totalNumGpusSystem (cmd.presentMask false) = s.write (cmd.presenceWrites false) := by
  unfold GpuConfig.presenceWrites
  by_cases h : cmd.presentMask false = 0
  · rw [if_pos h, h]
    simp [setPresence, write, puts]
  · rw [if_neg h]
    have hmask : (cmd.presentMask false != 0) = true := bne_iff_ne.2 h
    rw [setPresence, hmask, Bool.or_true, Bool.or_true]
    rfl

theorem storeV1_ok (h : s.storeV1 cmd = (t, none)) (hver : cmd.version = 1) :
    t = (cmd.start s).write (cmd.writes apss) := by
  unfold storeV1 at h
  rcases ite_eq_iff.1 h with ⟨-, h⟩ | ⟨-, h⟩
  · cases h
    rw [GpuConfig.writes, if_pos hver, write]
    simp only [GpuConfig.puts_everyGpu]
    rfl
  · cases h

theorem storeV2_ok (h : s.storeV2 apss cmd = (t, none)) (hver : cmd.version ≠ 1) :
    t = (cmd.start s).write (cmd.writes apss) := by
  unfold storeV2 at h
  rcases ite_eq_iff.1 h with ⟨-, h⟩ | ⟨-, h⟩
  case inr => cases h
  rcases ite_eq_iff.1 h with ⟨-, h⟩ | ⟨-, h⟩
  case inr => cases h
  rw [GpuConfig.writes, if_neg hver, ← write_append, ← write_append]
  dsimp only at h
  split at h
  case h_1 u mask hsets =>
    obtain ⟨rfl, rfl⟩ := storeSets_ok hsets
    cases h
    cases apss
    case true => rfl
    case false => exact setPresence_eq _ cmd
  case h_2 => cases h

theorem storeV2_err (s s' : Gpu) (apss : Bool) (cmd : GpuConfig) : (s.storeV2 apss cmd).2 = (s'.storeV2 apss cmd).2 := by
  have hcases : ∀ r : Gpu, (s.storeV2 apss cmd).2 = (r.storeV2 apss cmd).2 := by
    intro r
    unfold storeV2
    split
    case isFalse => rfl
    split
    case isFalse => rfl
    dsimp only
    generalize hs : storeAll (storeSet apss) _ cmd.gpuData = x
    generalize hr : storeAll (storeSet apss) _ cmd.gpuData = y
    have herr : x.2 = y.2 := by
      rw [← hs, ← hr]
      exact storeSets_err _ _ _
    obtain ⟨⟨u, mask⟩, _ | err⟩ := x <;> obtain ⟨⟨u', mask'⟩, _ | err'⟩ := y
    · rfl
    · cases herr
    · cases herr
    · exact herr
  exact hcases s'

end Gpu

theorem dataStoreGpu_ok {pwrReadingType : BitVec 8} {s t : Gpu} {cmd : GpuConfig}
    (h : dataStoreGpu pwrReadingType s cmd = (t, none)) :
    t = (cmd.start s).write (cmd.writes (pwrReadingType == pwrReadingTypeApss)) := by
  unfold dataStoreGpu at h
  rcases ite_eq_iff.1 h with ⟨hver, h⟩ | ⟨hver, h⟩
  · exact Gpu.storeV1_ok h hver
  rcases ite_eq_iff.1 h with ⟨-, h⟩ | ⟨-, h⟩
  · exact Gpu.storeV2_ok h hver
  · cases h

theorem dataStoreGpu_err (pwrReadingType : BitVec 8) (s s' : Gpu) (cmd : GpuConfig) :
    (dataStoreGpu pwrReadingType s cmd).2 = (dataStoreGpu pwrReadingType s' cmd).2 := by
  simp only [dataStoreGpu, Gpu.storeV1, apply_ite Prod.snd, Gpu.storeV2_err s s']

/-! ## Residue -/

/-- Everything that only the first packet writes is as it was. -/
structure GpuCovered (s : Gpu) (w v : GpuWrites) : Prop where
  gpuI2cEngine : Covered w.gpuI2cEngine v.gpuI2cEngine fun _ => s.gpuI2cEngine
  gpuI2cBusVoltage : Covered w.gpuI2cBusVoltage v.gpuI2cBusVoltage fun _ => s.gpuI2cBusVoltage
  gpuI2cInfo : Covered w.gpuI2cInfo v.gpuI2cInfo s.gpuI2cInfo
  gpuSensorIds : Covered w.gpuSensorIds v.gpuSensorIds s.gpuSensorIds
  tempGpuSid : Covered w.tempGpuSid v.tempGpuSid s.tempGpuSid
  tempGpuMemSid : Covered w.tempGpuMemSid v.tempGpuMemSid s.tempGpuMemSid
  firstNumGpusSys : Covered w.numGpusSys v.numGpusSys fun _ => s.firstNumGpusSys
  currNumGpusSys : Covered w.numGpusSys v.numGpusSys fun _ => s.currNumGpusSys
  firstProcGpuConfig : Covered w.procGpuConfig v.procGpuConfig fun _ => s.firstProcGpuConfig
  currProcGpuConfig : Covered w.procGpuConfig v.procGpuConfig fun _ => s.currProcGpuConfig
  gpuConfigDone : Covered w.gpuConfigDone v.gpuConfigDone fun _ => s.gpuConfigDone
  gpuMonitoringAllowed : Covered w.monitoring v.monitoring fun _ => s.gpuMonitoringAllowed
  gpuSmTask : Covered w.monitoring v.monitoring fun _ => s.gpuSmTask

theorem gpu_eq_iff_covered {pwrReadingType : BitVec 8} {p q : GpuConfig} {s s' t : Gpu}
    (hp : dataStoreGpu pwrReadingType s p = (s', none)) (hq : dataStoreGpu pwrReadingType s' q = (t, none)) :
    ∃ u, dataStoreGpu pwrReadingType s q = (u, none) ∧
      (t = u ↔ GpuCovered s (p.writes (pwrReadingType == pwrReadingTypeApss))
        (q.writes (pwrReadingType == pwrReadingTypeApss))) := by
  have herr := dataStoreGpu_err pwrReadingType s' s q
  rw [hq] at herr
  obtain ⟨u, hu⟩ : ∃ u, dataStoreGpu pwrReadingType s q = (u, none) := ⟨_, Prod.ext rfl herr.symm⟩
  refine ⟨u, hu, ?_⟩
  rw [dataStoreGpu_ok hq, dataStoreGpu_ok hu, dataStoreGpu_ok hp]
  generalize p.writes (pwrReadingType == pwrReadingTypeApss) = w
  generalize q.writes (pwrReadingType == pwrReadingTypeApss) = v
  constructor
  · intro h
    constructor
    · exact Writes.puts_puts_unit_iff.1 (congrArg Gpu.gpuI2cEngine h)
    · exact Writes.puts_puts_unit_iff.1 (congrArg Gpu.gpuI2cBusVoltage h)
    · exact Writes.puts_puts_eq_iff.1 (congrArg Gpu.gpuI2cInfo h)
    · exact Writes.puts_puts_eq_iff.1 (congrArg Gpu.gpuSensorIds h)
    · exact Writes.puts_puts_eq_iff.1 (congrArg Gpu.tempGpuSid h)
    · exact Writes.puts_puts_eq_iff.1 (congrArg Gpu.tempGpuMemSid h)
    · exact Writes.puts_puts_unit_iff.1 (congrArg Gpu.firstNumGpusSys h)
    · exact Writes.puts_puts_unit_iff.1 (congrArg Gpu.currNumGpusSys h)
    · exact Writes.puts_puts_unit_iff.1 (congrArg Gpu.firstProcGpuConfig h)
    · exact Writes.puts_puts_unit_iff.1 (congrArg Gpu.currProcGpuConfig h)
    · exact Writes.puts_puts_unit_iff.1 (congrArg Gpu.gpuConfigDone h)
    · exact Writes.puts_puts_unit_iff.1 (congrArg Gpu.gpuMonitoringAllowed h)
    · exact Writes.puts_puts_unit_iff.1 (congrArg Gpu.gpuSmTask h)
  · intro h
    apply Gpu.ext
    case gpuI2cEngine => exact Writes.puts_puts_unit_iff.2 h.gpuI2cEngine
    case gpuI2cBusVoltage => exact Writes.puts_puts_unit_iff.2 h.gpuI2cBusVoltage
    case gpuI2cInfo => exact Writes.puts_puts_eq_iff.2 h.gpuI2cInfo
    case gpuSensorIds => exact Writes.puts_puts_eq_iff.2 h.gpuSensorIds
    case tempGpuSid => exact Writes.puts_puts_eq_iff.2 h.tempGpuSid
    case tempGpuMemSid => exact Writes.puts_puts_eq_iff.2 h.tempGpuMemSid
    case firstNumGpusSys => exact Writes.puts_puts_unit_iff.2 h.firstNumGpusSys
    case currNumGpusSys => exact Writes.puts_puts_unit_iff.2 h.currNumGpusSys
    case firstProcGpuConfig => exact Writes.puts_puts_unit_iff.2 h.firstProcGpuConfig
    case currProcGpuConfig => exact Writes.puts_puts_unit_iff.2 h.currProcGpuConfig
    case gpuConfigDone => exact Writes.puts_puts_unit_iff.2 h.gpuConfigDone
    case gpuMonitoringAllowed => exact Writes.puts_puts_unit_iff.2 h.gpuMonitoringAllowed
    case gpuSmTask => exact Writes.puts_puts_unit_iff.2 h.gpuSmTask
    -- the power is in every packet
    all_goals rfl

end Occ.Cmdh
