/-
The configuration of the memory (`data_store_mem_cfg`): the sensors of the memory buffers and of the DIMMs. The sensor
IDs are cleared, then the data sets of the packet are checked and stored one after another.
-/
import Occ.Cmdh.ApssConfig
import Occ.Lib.Literals

namespace Occ.Cmdh

open Function (update)
open Writes (storeAll)

attribute [local instance] neZero_eight neZero_sixteen lawfulBEq_byte

/-! ## Packets and state -/

def memTypeUnknown : BitVec 8 := 0x00
def memTypeCumulus : BitVec 8 := 0xCC
def memTypeOcm : BitVec 8 := 0xA0
def memTypeNimbus : BitVec 8 := 0xFF
def memPwrCtlOff : BitVec 8 := 0x00
def memPwrCtlNoSupport : BitVec 8 := 0xFF
def dataMemCfgVersion20 : BitVec 8 := 0x20
def dataMemCfgVersion21 : BitVec 8 := 0x21

def dataFruCentaur : BitVec 8 := 0x01
def dataFruDimm : BitVec 8 := 0x02
def dataFruMemctrlDram : BitVec 8 := 0x03
def dataFruPmic : BitVec 8 := 0x07
def dataFruMemctrlExt : BitVec 8 := 0x08
def dataFruNotUsed : BitVec 8 := 0xFF

/-- `PIB_I2C_ENGINE_C`, `_D` and `_E` -/
def pibI2cEngines : List (BitVec 8) := [0x01, 0x02, 0x03]

/-- `cmdh_mem_cfg_data_set_t` -/
structure MemCfgDataSet where
  hwSensorId : BitVec 32
  tempSensorId : BitVec 32
  memoryType : BitVec 8
  dimmInfo1 : BitVec 8
  dimmInfo2 : BitVec 8
  dimmInfo3 : BitVec 8
deriving DecidableEq, Repr

/-- `cmdh_mem_cfg_v21_t`, or `cmdh_mem_cfg_v20_t` by its version, which has no power controls; with the data sets that
the header declares. -/
structure MemConfig where
  dataLength : BitVec 16
  version : BitVec 8
  defaultMemPwrCtl : BitVec 8
  ipsMemPwrCtl : BitVec 8
  numDataSets : BitVec 8
  dataSets : List MemCfgDataSet
  len : dataSets.length = numDataSets.toNat

/-- What the packets of the memory are stored in. A bit of `G_dimm_present_sensors` and of `G_present_centaurs` has the
number of its DIMM or memory buffer. -/
@[ext]
structure MemCfg where
  centaurHuids : Fin 8 → BitVec 32
  dimmHuids : Fin 8 × Fin 8 → BitVec 32
  memType : BitVec 8
  dimmI2cEngine : BitVec 8
  ipsMemPwrCtl : BitVec 8
  defaultMemPwrCtl : BitVec 8
  dimmPresentSensors : Fin 16 × Fin 8 → Bool
  presentCentaurs : Fin 16 → Bool
  -- of the 16 memory controllers of `g_amec`: the sensor IDs and FRU types of the memory buffer and of its DIMMs
  centaurTempSid : Fin 16 → BitVec 32
  dimmTempSid : Fin 16 × Fin 8 → BitVec 32
  centaurFruType : Fin 16 → BitVec 8
  dimmFruType : Fin 16 × Fin 8 → BitVec 8
  dtsTypeMask : Fin 16 × Fin 8 → BitVec 8
  memMonitoringAllowed : Bool
  /-- `DATA_MASK_MEM_THROT` in `SMGR_VALIDATE_DATA_ACTIVE_MASK` -/
  memThrotRequired : Bool

/-- Why the loop over the data sets stops: an error, or a write behind the end of `centaur_huids` or `dimm_huids`, which
have 8 memory buffers while OCM memory may have 16. The language does not say what comes of such a write. -/
inductive MemStop
  | errl (err : DataErrl) | outOfBounds
deriving DecidableEq, Repr

/-- `IS_OCM_MEM_TYPE` -/
def isOcmMemType (type : BitVec 8) : Prop := type &&& 0xF0 = memTypeOcm

instance (type : BitVec 8) : Decidable (isOcmMemType type) := by
  unfold isOcmMemType
  infer_instance

/-- The memory buffer of a data set: its type, or the location in the type of OCM memory. -/
def MemCfgDataSet.membufNum (set : MemCfgDataSet) (memType : BitVec 8) : Nat :=
  if isOcmMemType set.memoryType ∧ memType = memTypeOcm then (set.memoryType &&& 0x0F).toNat
  else set.memoryType.toNat

/-- The FRU type and the mask of an OCM temperature sensor: those that are not valid are not used. -/
def ocmDimmFruType (info : BitVec 8) : BitVec 8 :=
  if info = dataFruDimm ∨ info = dataFruMemctrlDram ∨ info = dataFruPmic ∨ info = dataFruMemctrlExt then info
  else dataFruNotUsed

def ocmDtsTypeMask (info : BitVec 8) : BitVec 8 :=
  if info = dataFruDimm then 0x01
  else if info = dataFruMemctrlDram then 0x02
  else if info = dataFruPmic then 0x04
  else if info = dataFruMemctrlExt then 0x08
  else 0

namespace MemCfg

variable (s : MemCfg)

/-! ## Data sets -/

/-- A data set of a Nimbus system: `dimm_info1` to `3` are the I2C engine, port and address. -/
def storeNimbus (set : MemCfgDataSet) : MemCfg × Option MemStop :=
  if set.dimmInfo1 ∉ pibI2cEngines then (s, some (.errl .invalidData))
  else if set.dimmInfo1 ≠ s.dimmI2cEngine then (s, some (.errl .invalidData))
  else if set.dimmInfo2 ≠ 0 ∧ set.dimmInfo2 ≠ 1 then (s, some (.errl .invalidData))
  else if set.dimmInfo3 &&& 0xF0 ≠ 0x30 ∨ set.dimmInfo3 &&& 0x01 ≠ 0 then (s, some (.errl .invalidData))
  else
    let port := set.dimmInfo2.toNat
    let dimm := Fin.ofNat 8 ((set.dimmInfo3 &&& 0x0F) >>> 1).toNat
    ({ s with
      dimmHuids := update s.dimmHuids (Fin.ofNat 8 port, dimm) set.hwSensorId
      dimmPresentSensors := update s.dimmPresentSensors (Fin.ofNat 16 port, dimm) true
      dimmTempSid := update s.dimmTempSid (Fin.ofNat 16 port, dimm) set.tempSensorId }, none)

/-- The sensors of a memory buffer itself. -/
def storeMembufSensor (membuf : Nat) (set : MemCfgDataSet) : MemCfg × Option MemStop :=
  if membuf < 8 then
    let s := { s with
      centaurHuids := update s.centaurHuids (Fin.ofNat 8 membuf) set.hwSensorId
      centaurTempSid := update s.centaurTempSid (Fin.ofNat 16 membuf) set.tempSensorId }
    if s.memType = memTypeOcm then
      ({ s with
        presentCentaurs := update s.presentCentaurs (Fin.ofNat 16 membuf) true
        centaurFruType := update s.centaurFruType (Fin.ofNat 16 membuf)
          (if set.dimmInfo2 = dataFruCentaur ∨ set.dimmInfo2 = dataFruNotUsed then set.dimmInfo2 else dataFruNotUsed) },
        none)
    else ({ s with centaurFruType := update s.centaurFruType (Fin.ofNat 16 membuf) dataFruCentaur }, none)
  else (s, some .outOfBounds)

/-- The sensors of a DIMM behind a memory buffer. -/
def storeDimmSensor (membuf : Nat) (set : MemCfgDataSet) : MemCfg × Option MemStop :=
  if membuf < 8 then
    let dimm := Fin.ofNat 8 set.dimmInfo1.toNat
    let s := { s with
      dimmHuids := update s.dimmHuids (Fin.ofNat 8 membuf, dimm) set.hwSensorId
      dimmTempSid := update s.dimmTempSid (Fin.ofNat 16 membuf, dimm) set.tempSensorId }
    if s.memType = memTypeOcm then
      ({ s with
        dimmFruType := update s.dimmFruType (Fin.ofNat 16 membuf, dimm) (ocmDimmFruType set.dimmInfo2)
        dtsTypeMask := update s.dtsTypeMask (Fin.ofNat 16 membuf, dimm) (ocmDtsTypeMask set.dimmInfo2) }, none)
    else ({ s with dimmFruType := update s.dimmFruType (Fin.ofNat 16 membuf, dimm) dataFruDimm }, none)
  else (s, some .outOfBounds)

/-- A data set of a system with memory buffers, Centaur or OCM. -/
def storeMembuf (set : MemCfgDataSet) : MemCfg × Option MemStop :=
  let typeMismatch := if isOcmMemType set.memoryType then s.memType ≠ memTypeOcm else s.memType ≠ memTypeCumulus
  let maxMembuf := if s.memType = memTypeOcm then 16 else 8
  let maxDimmsPerMembuf := if s.memType = memTypeOcm then 2 else 8
  if typeMismatch ∨ maxMembuf ≤ set.membufNum s.memType ∨
      (set.dimmInfo1 ≠ 0xFF ∧ maxDimmsPerMembuf ≤ set.dimmInfo1.toNat) then
    (s, some (.errl .invalidData))
  else if set.dimmInfo1 = 0xFF then s.storeMembufSensor (set.membufNum s.memType) set
  else s.storeDimmSensor (set.membufNum s.memType) set

def storeDataSet (set : MemCfgDataSet) : MemCfg × Option MemStop :=
  if s.memType = memTypeNimbus ∧ set.memoryType = memTypeNimbus then s.storeNimbus set
  else if s.memType = memTypeOcm ∨ s.memType = memTypeCumulus then s.storeMembuf set
  else (s, some (.errl .invalidData))

/-- The memory type of the first data set, which the others must have too. -/
def storeMemType (set : MemCfgDataSet) : MemCfg :=
  if set.memoryType = memTypeNimbus then { s with memType := memTypeNimbus, dimmI2cEngine := set.dimmInfo1 }
  else if isOcmMemType set.memoryType then { s with memType := memTypeOcm }
  else { s with memType := memTypeCumulus }

/-! ## Packets -/

/-- All sensor IDs are cleared, but those of `centaur_huids`. -/
def clearSensorIds : MemCfg :=
  { s with
    dimmHuids := fun _ => 0
    centaurTempSid := fun _ => 0
    dimmTempSid := fun _ => 0 }

/-- The power controls, which a packet of version 20 has not. -/
def storePwrCtl (cmd : MemConfig) : MemCfg :=
  if cmd.version = dataMemCfgVersion21 then
    { s with ipsMemPwrCtl := cmd.ipsMemPwrCtl, defaultMemPwrCtl := cmd.defaultMemPwrCtl }
  else { s with ipsMemPwrCtl := memPwrCtlNoSupport, defaultMemPwrCtl := memPwrCtlNoSupport }

/-- The data sets of a packet: without any the monitoring of the memory stays as it is. -/
def storeDataSets : List MemCfgDataSet → MemCfg × Option MemStop
  | [] => (s, none)
  | set :: sets =>
    match storeAll storeDataSet (s.storeMemType set) (set :: sets) with
    | (s, some stop) => (s, some stop)
    | (s, none) => ({ s with memMonitoringAllowed := true, memThrotRequired := true }, none)

end MemCfg

/-- The size of the header of a version without the header of the command. -/
def memCfgHeaderSize (version : BitVec 8) : Nat := if version = dataMemCfgVersion21 then 5 else 3

/-- `data_store_mem_cfg` -/
def dataStoreMemCfg (s : MemCfg) (cmd : MemConfig) : MemCfg × Option MemStop :=
  let s := s.clearSensorIds
  if cmd.version = dataMemCfgVersion20 ∨ cmd.version = dataMemCfgVersion21 then
    let s := s.storePwrCtl cmd
    if cmd.dataLength.toNat ≠ memCfgHeaderSize cmd.version + cmd.numDataSets.toNat * 12 then
      (s, some (.errl .invalidData))
    else s.storeDataSets cmd.dataSets
  else (s, some (.errl .invalidData))

/-- The initial values of `occ_sys_config.c` and of the globals. -/
def MemCfg.boot : MemCfg where
  centaurHuids := fun _ => 0
  dimmHuids := fun _ => 0
  memType := memTypeUnknown
  dimmI2cEngine := 0x03
  ipsMemPwrCtl := memPwrCtlOff
  defaultMemPwrCtl := memPwrCtlOff
  dimmPresentSensors := fun _ => false
  presentCentaurs := fun _ => false
  centaurTempSid := fun _ => 0
  dimmTempSid := fun _ => 0
  centaurFruType := fun _ => 0
  dimmFruType := fun _ => 0
  dtsTypeMask := fun _ => 0
  memMonitoringAllowed := false
  memThrotRequired := false

end Occ.Cmdh
