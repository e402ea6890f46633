/-
What a packet of the memory leaves of an earlier one: an accepted packet is a list of writes to each of the globals, which
the packet alone determines, and only some of the globals are reset before.
-/
import Occ.Cmdh.MemConfig
import Occ.Lib.Literals

namespace Occ.Cmdh

open Writes (puts storeAll Covered)

attribute [local instance] neZero_eight neZero_sixteen

/-! ## Writes -/

/-- What is written to each of the globals. -/
structure MemWrites where
  centaurHuids : List (Fin 8 × BitVec 32) := []
  dimmHuids : List ((Fin 8 × Fin 8) × BitVec 32) := []
  memType : List (Unit × BitVec 8) := []
  dimmI2cEngine : List (Unit × BitVec 8) := []
  dimmPresentSensors : List ((Fin 16 × Fin 8) × Bool) := []
  presentCentaurs : List (Fin 16 × Bool) := []
  centaurTempSid : List (Fin 16 × BitVec 32) := []
  dimmTempSid : List ((Fin 16 × Fin 8) × BitVec 32) := []
  centaurFruType : List (Fin 16 × BitVec 8) := []
  dimmFruType : List ((Fin 16 × Fin 8) × BitVec 8) := []
  dtsTypeMask : List ((Fin 16 × Fin 8) × BitVec 8) := []
  memMonitoringAllowed : List (Unit × Bool) := []
  memThrotRequired : List (Unit × Bool) := []

/-- One after the other. -/
def MemWrites.append (w v : MemWrites) : MemWrites where
  centaurHuids := w.centaurHuids ++ v.centaurHuids
  dimmHuids := w.dimmHuids ++ v.dimmHuids
  memType := w.memType ++ v.memType
  dimmI2cEngine := w.dimmI2cEngine ++ v.dimmI2cEngine
  dimmPresentSensors := w.dimmPresentSensors ++ v.dimmPresentSensors
  presentCentaurs := w.presentCentaurs ++ v.presentCentaurs
  centaurTempSid := w.centaurTempSid ++ v.centaurTempSid
  dimmTempSid := w.dimmTempSid ++ v.dimmTempSid
  centaurFruType := w.centaurFruType ++ v.centaurFruType
  dimmFruType := w.dimmFruType ++ v.dimmFruType
  dtsTypeMask := w.dtsTypeMask ++ v.dtsTypeMask
  memMonitoringAllowed := w.memMonitoringAllowed ++ v.memMonitoringAllowed
  memThrotRequired := w.memThrotRequired ++ v.memThrotRequired

def MemCfg.write (s : MemCfg) (w : MemWrites) : MemCfg where
  centaurHuids := puts w.centaurHuids s.centaurHuids
  dimmHuids := puts w.dimmHuids s.dimmHuids
  memType := puts w.memType (fun _ => s.memType) ()
  dimmI2cEngine := puts w.dimmI2cEngine (fun _ => s.dimmI2cEngine) ()
  ipsMemPwrCtl := s.ipsMemPwrCtl
  defaultMemPwrCtl := s.defaultMemPwrCtl
  dimmPresentSensors := puts w.dimmPresentSensors s.dimmPresentSensors
  presentCentaurs := puts w.presentCentaurs s.presentCentaurs
  centaurTempSid := puts w.centaurTempSid s.centaurTempSid
  dimmTempSid := puts w.dimmTempSid s.dimmTempSid
  centaurFruType := puts w.centaurFruType s.centaurFruType
  dimmFruType := puts w.dimmFruType s.dimmFruType
  dtsTypeMask := puts w.dtsTypeMask s.dtsTypeMask
  memMonitoringAllowed := puts w.memMonitoringAllowed (fun _ => s.memMonitoringAllowed) ()
  memThrotRequired := puts w.memThrotRequired (fun _ => s.memThrotRequired) ()

theorem MemCfg.write_append (s : MemCfg) (w v : MemWrites) : (s.write w).write v = s.write (w.append v) := by
  simp only [write, MemWrites.append, Writes.puts_append]

/-! ## Data sets -/

/-- What a data set writes that is stored. -/
def MemCfgDataSet.writes (memType : BitVec 8) (set : MemCfgDataSet) : MemWrites :=
  if memType = memTypeNimbus then
    let dimm := Fin.ofNat 8 ((set.dimmInfo3 &&& 0x0F) >>> 1).toNat
    { dimmHuids := [((Fin.ofNat 8 set.dimmInfo2.toNat, dimm), set.hwSensorId)]
      dimmPresentSensors := [((Fin.ofNat 16 set.dimmInfo2.toNat, dimm), true)]
      dimmTempSid := [((Fin.ofNat 16 set.dimmInfo2.toNat, dimm), set.tempSensorId)] }
  else
    let membuf := set.membufNum memType
    if set.dimmInfo1 = 0xFF then
      { centaurHuids := [(Fin.ofNat 8 membuf, set.hwSensorId)]
        centaurTempSid := [(Fin.ofNat 16 membuf, set.tempSensorId)]
        presentCentaurs := if memType = memTypeOcm then [(Fin.ofNat 16 membuf, true)] else []
        centaurFruType := [(Fin.ofNat 16 membuf,
          if memType = memTypeOcm then
            if set.dimmInfo2 = dataFruCentaur ∨ set.dimmInfo2 = dataFruNotUsed then set.dimmInfo2 else dataFruNotUsed
          else dataFruCentaur)] }
    else
      let dimm := Fin.ofNat 8 set.dimmInfo1.toNat
      { dimmHuids := [((Fin.ofNat 8 membuf, dimm), set.hwSensorId)]
        dimmTempSid := [((Fin.ofNat 16 membuf, dimm), set.tempSensorId)]
        dimmFruType := [((Fin.ofNat 16 membuf, dimm),
          if memType = memTypeOcm then ocmDimmFruType set.dimmInfo2 else dataFruDimm)]
        dtsTypeMask := if memType = memTypeOcm then [((Fin.ofNat 16 membuf, dimm), ocmDtsTypeMask set.dimmInfo2)] else [] }

namespace MemCfg

variable {s t : MemCfg} {set : MemCfgDataSet}

theorem storeNimbus_ok (h : s.storeNimbus set = (t, none)) (hmem : s.memType = memTypeNimbus) :
    t = s.write (set.writes s.memType) := by
  unfold storeNimbus at h
  rcases ite_eq_iff.1 h with ⟨-, h⟩ | ⟨-, h⟩
  · cases h
  rcases ite_eq_iff.1 h with ⟨-, h⟩ | ⟨-, h⟩
  · cases h
  rcases ite_eq_iff.1 h with ⟨-, h⟩ | ⟨-, h⟩
  · cases h
  rcases ite_eq_iff.1 h with ⟨-, h⟩ | ⟨-, h⟩
  · cases h
  cases h
  rw [MemCfgDataSet.writes, if_pos hmem]
  rfl

theorem storeMembufSensor_ok (h : s.storeMembufSensor (set.membufNum s.memType) set = (t, none))
    (hmem : s.memType ≠ memTypeNimbus) (hinfo : set.dimmInfo1 = 0xFF) : t = s.write (set.writes s.memType) := by
  unfold storeMembufSensor at h
  rw [MemCfgDataSet.writes, if_neg hmem]
  dsimp only
  rw [if_pos hinfo]
  split at h
  · dsimp only at h
    by_cases hocm : s.memType = memTypeOcm
    · rw [if_pos hocm] at h
      cases h
      simp only [if_pos hocm]
      rfl
    · rw [if_neg hocm] at h
      cases h
      simp only [if_neg hocm]
      rfl
  · cases h

theorem storeDimmSensor_ok (h : s.storeDimmSensor (set.membufNum s.memType) set = (t, none))
    (hmem : s.memType ≠ memTypeNimbus) (hinfo : set.dimmInfo1 ≠ 0xFF) : t = s.write (set.writes s.memType) := by
  unfold storeDimmSensor at h
  rw [MemCfgDataSet.writes, if_neg hmem]
  dsimp only
  rw [if_neg hinfo]
  split at h
  · dsimp only at h
    by_cases hocm : s.memType = memTypeOcm
    · rw [if_pos hocm] at h
      cases h
      simp only [if_pos hocm]
      rfl
    · rw [if_neg hocm] at h
      cases h
      simp only [if_neg hocm]
      rfl
  · cases h

theorem storeDataSet_ok (h : s.storeDataSet set = (t, none)) : t = s.write (set.writes s.memType) := by
  unfold storeDataSet at h
  split at h
  case isTrue hnimbus => exact storeNimbus_ok h hnimbus.1
  case isFalse =>
    split at h
    case isTrue hmembuf =>
      have hmem : s.memType ≠ memTypeNimbus := by
        rcases hmembuf with h | h <;> rw [h] <;> decide
      unfold storeMembuf at h
      rcases ite_eq_iff.1 h with ⟨-, h⟩ | ⟨-, h⟩
      · cases h
      · rcases ite_eq_iff.1 h with ⟨hinfo, h⟩ | ⟨hinfo, h⟩
        · exact storeMembufSensor_ok h hmem hinfo
        · exact storeDimmSensor_ok h hmem hinfo
    case isFalse => cases h

/-- The memory type, and for Nimbus the I2C engine, are the same: which data sets are stored depends on no more. -/
structure SameType (s s' : MemCfg) : Prop where
  memType : s.memType = s'.memType
  engine : s.memType = memTypeNimbus → s.dimmI2cEngine = s'.dimmI2cEngine

theorem storeDataSet_kept (s : MemCfg) (set : MemCfgDataSet) :
    (s.storeDataSet set).1.memType = s.memType ∧ (s.storeDataSet set).1.dimmI2cEngine = s.dimmI2cEngine := by
  simp only [storeDataSet, storeNimbus, storeMembuf, storeMembufSensor, storeDimmSensor, apply_ite Prod.fst,
    apply_ite memType, apply_ite dimmI2cEngine, ite_self, and_self]

theorem storeDataSet_err {s s' : MemCfg} (h : SameType s s') (set : MemCfgDataSet) :
    (s.storeDataSet set).2 = (s'.storeDataSet set).2 := by
  have hmembuf : (s.storeMembuf set).2 = (s'.storeMembuf set).2 := by
    simp only [storeMembuf, storeMembufSensor, storeDimmSensor, apply_ite Prod.snd, h.memType]
  have hnimbus : s.memType = memTypeNimbus → (s.storeNimbus set).2 = (s'.storeNimbus set).2 := by
    intro hmem
    simp only [storeNimbus, apply_ite Prod.snd, h.engine hmem]
  simp only [storeDataSet, apply_ite Prod.snd, hmembuf, h.memType]
  by_cases hset : s'.memType = memTypeNimbus ∧ set.memoryType = memTypeNimbus
  · rw [if_pos hset, if_pos hset, hnimbus (h.memType.trans hset.1)]
  · rw [if_neg hset, if_neg hset]

theorem SameType.storeDataSet {s s' : MemCfg} (h : SameType s s') (set : MemCfgDataSet) :
    SameType (s.storeDataSet set).1 (s'.storeDataSet set).1 ∧ (s.storeDataSet set).2 = (s'.storeDataSet set).2 := by
  obtain ⟨htype, hengine⟩ := storeDataSet_kept s set
  obtain ⟨htype', hengine'⟩ := storeDataSet_kept s' set
  refine ⟨⟨?_, ?_⟩, storeDataSet_err h set⟩
  · rw [htype, htype', h.memType]
  · rw [htype, hengine, hengine']
    exact h.engine

theorem SameType.storeMemType (s s' : MemCfg) (set : MemCfgDataSet) :
    SameType (s.storeMemType set) (s'.storeMemType set) := by
  unfold MemCfg.storeMemType
  split
  · exact ⟨rfl, fun _ => rfl⟩
  split
  · refine ⟨rfl, fun h => ?_⟩
    cases h
  · refine ⟨rfl, fun h => ?_⟩
    cases h

theorem storeAll_ok {sets : List MemCfgDataSet} (h : storeAll storeDataSet s sets = (t, none)) :
    t = s.write (sets.foldr (fun set w => (set.writes s.memType).append w) {}) := by
  induction sets generalizing s with
  | nil =>
    cases h
    rfl
  | cons set sets ih =>
    rcases hset : s.storeDataSet set with ⟨u, _ | stop⟩
    · rw [Writes.storeAll_cons_of_none hset] at h
      have htype : u.memType = s.memType := by
        have := (storeDataSet_kept s set).1
        rwa [hset] at this
      rw [ih h, htype, storeDataSet_ok hset, write_append]
      rfl
    · rw [Writes.storeAll_cons_of_some hset] at h
      cases h

end MemCfg

/-! ## Packets -/

/-- The memory type that a data set stands for, and what it writes as the first one. -/
def MemCfgDataSet.type (set : MemCfgDataSet) : BitVec 8 :=
  if set.memoryType = memTypeNimbus then memTypeNimbus
  else if isOcmMemType set.memoryType then memTypeOcm
  else memTypeCumulus

def MemCfgDataSet.typeWrites (set : MemCfgDataSet) : MemWrites :=
  { memType := [((), set.type)]
    dimmI2cEngine := if set.memoryType = memTypeNimbus then [((), set.dimmInfo1)] else [] }

/-- What the data sets of an accepted packet write. -/
def memWrites : List MemCfgDataSet → MemWrites
  | [] => {}
  | set :: sets =>
    (set.typeWrites.append ((set :: sets).foldr (fun s w => (s.writes set.type).append w) {})).append
      { memMonitoringAllowed := [((), true)], memThrotRequired := [((), true)] }

namespace MemCfg

variable {s t : MemCfg}

theorem storeMemType_eq (s : MemCfg) (set : MemCfgDataSet) : s.storeMemType set = s.write set.typeWrites := by
  unfold storeMemType MemCfgDataSet.typeWrites MemCfgDataSet.type
  split
  · rfl
  split
  · rfl
  · rfl

theorem storeDataSets_ok {sets : List MemCfgDataSet} (h : s.storeDataSets sets = (t, none)) :
    t = s.write (memWrites sets) := by
  rcases sets with _ | ⟨set, sets⟩
  · cases h
    rfl
  · rw [storeDataSets, storeMemType_eq] at h
    rcases hsets : storeAll storeDataSet (s.write set.typeWrites) (set :: sets) with ⟨u, _ | stop⟩
    · rw [hsets] at h
      cases h
      rw [memWrites, ← write_append, ← write_append, storeAll_ok hsets]
      rfl
    · rw [hsets] at h
      cases h

theorem storeDataSets_cons_err (s : MemCfg) (set : MemCfgDataSet) (sets : List MemCfgDataSet) :
    (s.storeDataSets (set :: sets)).2 = (storeAll storeDataSet (s.storeMemType set) (set :: sets)).2 := by
  rw [storeDataSets]
  rcases storeAll storeDataSet (s.storeMemType set) (set :: sets) with ⟨u, _ | stop⟩
  · rfl
  · rfl

theorem storeDataSets_err (s s' : MemCfg) (sets : List MemCfgDataSet) :
    (s.storeDataSets sets).2 = (s'.storeDataSets sets).2 := by
  rcases sets with _ | ⟨set, sets⟩
  · rfl
  · rw [storeDataSets_cons_err, storeDataSets_cons_err]
    apply And.right
    apply Writes.storeAll_agree (R := SameType)
    · intro s s' set h
      exact h.storeDataSet set
    · exact SameType.storeMemType s s' set

end MemCfg

/-- The state in which the data sets of a packet are stored. -/
def MemConfig.start (cmd : MemConfig) (s : MemCfg) : MemCfg := s.clearSensorIds.storePwrCtl cmd

theorem dataStoreMemCfg_ok {s t : MemCfg} {cmd : MemConfig} (h : dataStoreMemCfg s cmd = (t, none)) :
    t = (cmd.start s).write (memWrites cmd.dataSets) := by
  unfold dataStoreMemCfg at h
  rcases ite_eq_iff.1 h with ⟨-, h⟩ | ⟨-, h⟩
  · rcases ite_eq_iff.1 h with ⟨-, h⟩ | ⟨-, h⟩
    · cases h
    · exact MemCfg.storeDataSets_ok h
  · cases h

theorem dataStoreMemCfg_err (s s' : MemCfg) (cmd : MemConfig) :
    (dataStoreMemCfg s cmd).2 = (dataStoreMemCfg s' cmd).2 := by
  simp only [dataStoreMemCfg, apply_ite Prod.snd, MemCfg.storeDataSets_err _ (s'.clearSensorIds.storePwrCtl cmd)]

/-! ## Residue -/

/-- Everything that only the first packet writes is as it was: the IDs of the memory buffers, the FRU types and masks, the
presence bits, and the memory type and the monitoring when the second packet has no data sets. -/
structure MemCovered (s : MemCfg) (w v : MemWrites) : Prop where
  centaurHuids : Covered w.centaurHuids v.centaurHuids s.centaurHuids
  memType : Covered w.memType v.memType fun _ => s.memType
  dimmI2cEngine : Covered w.dimmI2cEngine v.dimmI2cEngine fun _ => s.dimmI2cEngine
  dimmPresentSensors : Covered w.dimmPresentSensors v.dimmPresentSensors s.dimmPresentSensors
  presentCentaurs : Covered w.presentCentaurs v.presentCentaurs s.presentCentaurs
  centaurFruType : Covered w.centaurFruType v.centaurFruType s.centaurFruType
  dimmFruType : Covered w.dimmFruType v.dimmFruType s.dimmFruType
  dtsTypeMask : Covered w.dtsTypeMask v.dtsTypeMask s.dtsTypeMask
  memMonitoringAllowed : Covered w.memMonitoringAllowed v.memMonitoringAllowed fun _ => s.memMonitoringAllowed
  memThrotRequired : Covered w.memThrotRequired v.memThrotRequired fun _ => s.memThrotRequired

theorem MemConfig.start_eq (cmd : MemConfig) (s : MemCfg) :
    cmd.start s = { s with
      dimmHuids := fun _ => 0
      centaurTempSid := fun _ => 0
      dimmTempSid := fun _ => 0
      ipsMemPwrCtl := if cmd.version = dataMemCfgVersion21 then cmd.ipsMemPwrCtl else memPwrCtlNoSupport
      defaultMemPwrCtl := if cmd.version = dataMemCfgVersion21 then cmd.defaultMemPwrCtl else memPwrCtlNoSupport } := by
  unfold MemConfig.start MemCfg.storePwrCtl
  split <;> rfl

theorem mem_eq_iff_covered {p q : MemConfig} {s s' t : MemCfg} (hp : dataStoreMemCfg s p = (s', none))
    (hq : dataStoreMemCfg s' q = (t, none)) :
    ∃ u, dataStoreMemCfg s q = (u, none) ∧ (t = u ↔ MemCovered s (memWrites p.dataSets) (memWrites q.dataSets)) := by
  have herr := dataStoreMemCfg_err s' s q
  rw [hq] at herr
  obtain ⟨u, hu⟩ : ∃ u, dataStoreMemCfg s q = (u, none) := ⟨_, Prod.ext rfl herr.symm⟩
  refine ⟨u, hu, ?_⟩
  rw [dataStoreMemCfg_ok hq, dataStoreMemCfg_ok hu, dataStoreMemCfg_ok hp, p.start_eq, q.start_eq, q.start_eq]
  generalize memWrites p.dataSets = w
  generalize memWrites q.dataSets = v
  constructor
  · intro h
    constructor
    · exact Writes.puts_puts_eq_iff.1 (congrArg MemCfg.centaurHuids h)
    · exact Writes.puts_puts_unit_iff.1 (congrArg MemCfg.memType h)
    · exact Writes.puts_puts_unit_iff.1 (congrArg MemCfg.dimmI2cEngine h)
    · exact Writes.puts_puts_eq_iff.1 (congrArg MemCfg.dimmPresentSensors h)
    · exact Writes.puts_puts_eq_iff.1 (congrArg MemCfg.presentCentaurs h)
    · exact Writes.puts_puts_eq_iff.1 (congrArg MemCfg.centaurFruType h)
    · exact Writes.puts_puts_eq_iff.1 (congrArg MemCfg.dimmFruType h)
    · exact Writes.puts_puts_eq_iff.1 (congrArg MemCfg.dtsTypeMask h)
    · exact Writes.puts_puts_unit_iff.1 (congrArg MemCfg.memMonitoringAllowed h)
    · exact Writes.puts_puts_unit_iff.1 (congrArg MemCfg.memThrotRequired h)
  · intro h
    apply MemCfg.ext
    case centaurHuids => exact Writes.puts_puts_eq_iff.2 h.centaurHuids
    case memType => exact Writes.puts_puts_unit_iff.2 h.memType
    case dimmI2cEngine => exact Writes.puts_puts_unit_iff.2 h.dimmI2cEngine
    case dimmPresentSensors => exact Writes.puts_puts_eq_iff.2 h.dimmPresentSensors
    case presentCentaurs => exact Writes.puts_puts_eq_iff.2 h.presentCentaurs
    case centaurFruType => exact Writes.puts_puts_eq_iff.2 h.centaurFruType
    case dimmFruType => exact Writes.puts_puts_eq_iff.2 h.dimmFruType
    case dtsTypeMask => exact Writes.puts_puts_eq_iff.2 h.dtsTypeMask
    case memMonitoringAllowed => exact Writes.puts_puts_unit_iff.2 h.memMonitoringAllowed
    case memThrotRequired => exact Writes.puts_puts_unit_iff.2 h.memThrotRequired
    -- the others are reset by every packet
    all_goals rfl

end Occ.Cmdh
