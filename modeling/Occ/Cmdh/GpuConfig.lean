/-
The configuration of the GPUs (`data_store_gpu`): their power, their I2C places and their sensors. Where there is no APSS
the packet also says which GPUs are present.
-/
import Occ.Cmdh.ApssConfig
import Occ.Lib.Literals

namespace Occ.Cmdh

open Function (update)
open Writes (storeAll)

attribute [local instance] neZero_three

/-- `cmdh_gpu_set_v2_t` -/
structure GpuSet where
  gpuNum : BitVec 8
  i2cPort : BitVec 8
  i2cAddr : BitVec 8
  gpuTempSid : BitVec 32
  gpuMemTempSid : BitVec 32
  gpuSid : BitVec 32
deriving DecidableEq, Repr

/-- `cmdh_gpu_config_t` of version 1, with the sensor IDs of three GPUs, or `cmdh_gpu_config_v2_t` of version 2, with the
data sets that the header declares. -/
structure GpuConfig where
  dataLength : BitVec 16
  version : BitVec 8
  totalNonGpuMaxPwrWatts : BitVec 16
  totalProcMemPwrDropWatts : BitVec 16
  gpuTempSid : Fin 3 → BitVec 32
  gpuMemTempSid : Fin 3 → BitVec 32
  gpuSid : Fin 3 → BitVec 32
  totalNumGpusSystem : BitVec 8
  gpuI2cEngine : BitVec 8
  gpuI2cBusVoltage : BitVec 8
  numDataSets : BitVec 8
  gpuData : List GpuSet
  len : gpuData.length = numDataSets.toNat

/-- `gpuI2CInfo_t` -/
structure GpuI2cInfo where
  port : BitVec 8
  address : BitVec 8
deriving DecidableEq, Repr

/-- What the packets of the GPUs are stored in. -/
@[ext]
structure Gpu where
  totalNonGpuMaxPwrWatts : BitVec 16
  totalProcMemPwrDropWatts : BitVec 16
  gpuI2cEngine : BitVec 8
  gpuI2cBusVoltage : BitVec 8
  gpuI2cInfo : Fin 3 → GpuI2cInfo
  gpuSensorIds : Fin 3 → BitVec 32
  -- the `ipmi_sid` of the sensors `TEMPGPU0` and `TEMPGPU0MEM` on
  tempGpuSid : Fin 3 → BitVec 32
  tempGpuMemSid : Fin 3 → BitVec 32
  firstNumGpusSys : BitVec 32
  currNumGpusSys : BitVec 32
  firstProcGpuConfig : BitVec 32
  currProcGpuConfig : BitVec 32
  gpuConfigDone : Bool
  gpuMonitoringAllowed : Bool
  /-- the task of the GPU state machine has `GPU_RTL_FLAGS` -/
  gpuSmTask : Bool

def pibI2cEngineC : BitVec 8 := 0x01

/-- `sizeof(cmdh_gpu_config_t)` and `sizeof(cmdh_gpu_cfg_header_v2_t)` without the header of the command, and the size of a
data set. -/
def gpuConfigV1Size : Nat := 44
def gpuCfgHeaderV2Size : Nat := 10
def gpuSetV2Size : Nat := 16

namespace Gpu

/-- Port and address of a GPU, and its sensors when it is monitored: the GPU is marked as present in the mask where there
is no APSS. -/
def storeSet (apss : Bool) (s : Gpu × BitVec 8) (set : GpuSet) : (Gpu × BitVec 8) × Option DataErrl :=
  let (s, mask) := s
  if set.gpuNum.toNat < 3 then
    let gpu := Fin.ofNat 3 set.gpuNum.toNat
    let s := { s with gpuI2cInfo := update s.gpuI2cInfo gpu ⟨set.i2cPort, set.i2cAddr⟩ }
    if set.i2cPort ≠ 0xFF ∧ set.i2cAddr ≠ 0xFF then
      (({ s with
        tempGpuSid := update s.tempGpuSid gpu set.gpuTempSid
        tempGpuMemSid := update s.tempGpuMemSid gpu set.gpuMemTempSid
        gpuSensorIds := update s.gpuSensorIds gpu set.gpuSid },
        if apss then mask else mask ||| 1 <<< (gpu : Nat)), none)
    else ((s, mask), none)
  else ((s, mask), some .invalidData)

/-- The presence of the GPUs, from the mask of those that are present. -/
def setPresence (s : Gpu) (totalNumGpusSystem : BitVec 8) (mask : BitVec 8) : Gpu :=
  { s with
    firstNumGpusSys := totalNumGpusSystem.setWidth 32
    currNumGpusSys := totalNumGpusSystem.setWidth 32
    firstProcGpuConfig := mask.setWidth 32
    currProcGpuConfig := mask.setWidth 32
    gpuConfigDone := true
    gpuMonitoringAllowed := s.gpuMonitoringAllowed || mask != 0
    gpuSmTask := s.gpuSmTask || mask != 0 }

def clearPresence (s : Gpu) : Gpu :=
  { s with
    firstNumGpusSys := 0
    currNumGpusSys := 0
    firstProcGpuConfig := 0
    currProcGpuConfig := 0
    gpuConfigDone := false }

/-- A packet of version 1. -/
def storeV1 (s : Gpu) (cmd : GpuConfig) : Gpu × Option DataErrl :=
  if cmd.dataLength.toNat = gpuConfigV1Size then
    ({ s with
      totalNonGpuMaxPwrWatts := cmd.totalNonGpuMaxPwrWatts
      totalProcMemPwrDropWatts := cmd.totalProcMemPwrDropWatts
      tempGpuSid := cmd.gpuTempSid
      tempGpuMemSid := cmd.gpuMemTempSid
      gpuSensorIds := cmd.gpuSid }, none)
  else (s, some .invalidCmdLen)

/-- A packet of version 2. -/
def storeV2 (apss : Bool) (s : Gpu) (cmd : GpuConfig) : Gpu × Option DataErrl :=
  if cmd.dataLength.toNat = gpuCfgHeaderV2Size + cmd.numDataSets.toNat * gpuSetV2Size then
    if cmd.gpuI2cEngine = pibI2cEngineC ∧ (cmd.gpuI2cBusVoltage = 0 ∨ cmd.gpuI2cBusVoltage = 18) then
      let s := { s with
        gpuI2cEngine := cmd.gpuI2cEngine
        gpuI2cBusVoltage := cmd.gpuI2cBusVoltage
        totalNonGpuMaxPwrWatts := cmd.totalNonGpuMaxPwrWatts
        totalProcMemPwrDropWatts := cmd.totalProcMemPwrDropWatts }
      match storeAll (storeSet apss) (s, 0) cmd.gpuData with
      | ((s, mask), none) => (if apss then s else s.setPresence cmd.totalNumGpusSystem mask, none)
      | ((s, _), some err) => (if apss then s else s.clearPresence, some err)
    else (s, some .invalidData)
  else (s, some .invalidCmdLen)

/-- The initial values of `occ_sys_config.c` and of the globals. -/
def boot : Gpu where
  totalNonGpuMaxPwrWatts := 0
  totalProcMemPwrDropWatts := 0
  gpuI2cEngine := pibI2cEngineC
  gpuI2cBusVoltage := 18
  gpuI2cInfo i := ⟨4, 0x98 + BitVec.ofNat 8 (2 * i)⟩
  gpuSensorIds := fun _ => 0
  tempGpuSid := fun _ => 0
  tempGpuMemSid := fun _ => 0
  firstNumGpusSys := 0
  currNumGpusSys := 0
  firstProcGpuConfig := 0
  currProcGpuConfig := 0
  gpuConfigDone := false
  gpuMonitoringAllowed := false
  gpuSmTask := false

end Gpu

/-- `data_store_gpu`, with the type of the power readings that the APSS packets have left. -/
def dataStoreGpu (pwrReadingType : BitVec 8) (s : Gpu) (cmd : GpuConfig) : Gpu × Option DataErrl :=
  if cmd.version = 1 then s.storeV1 cmd
  else if cmd.version = 2 then s.storeV2 (pwrReadingType == pwrReadingTypeApss) cmd
  else (s, some .invalidData)

end Occ.Cmdh
