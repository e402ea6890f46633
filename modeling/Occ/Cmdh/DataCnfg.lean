/-
The command that sets configuration data (`DATA_store_cnfgdata`): each format has its packet, its function and its bit
in the mask of the data that have been received.
-/
import Occ.Cmdh.DataFormats
import Occ.Cmdh.GpuConfig

namespace Occ.Cmdh

/-- `cmdh_set_role_t` -/
structure SetRole where
  role : BitVec 8
deriving DecidableEq, Repr

/-- A packet, by its format; `unknown` is a format that has none. -/
inductive CnfgPacket
  | freq (cmd : FreqConfig) | setRole (cmd : SetRole) | apssConfig (cmd : ApssConfig) | memCfg (cmd : MemConfig)
  | powerCap (cmd : PcapConfig) | sysCnfg (cmd : SysConfig) | ipsCnfg (cmd : IpsConfig) | memThrot (cmd : MemThrotConfig)
  | thrmThresholds (cmd : ThrmConfig) | avsbusConfig (cmd : AvsbusConfig) | gpu (cmd : GpuConfig)
  | vrmFault (cmd : VrmFaultConfig) | unknown

/-- Which tasks the RTL runs, by the flags that a change of the role sets and clears. -/
structure RtlRunMask where
  mstr : Bool
  notMstr : Bool
  apssNotInitd : Bool
deriving DecidableEq, Repr

/-- All configuration data. -/
structure DataCnfg where
  /-- `G_data_cnfg->data_mask` -/
  dataMask : BitVec 32
  occRole : BitVec 8
  rtl : RtlRunMask
  freq : Freq
  apss : Apss
  mem : MemCfg
  masterPcap : MasterPcap
  sys : Sys
  ips : IpsConfigData
  memThrot : MemThrot
  thrm : Thrm
  avsbus : Avsbus
  gpu : Gpu
  vrmFaultStatus : BitVec 8

/-- The initial values of `occ_sys_config.c` and of the globals, when the role has been initialized. -/
def DataCnfg.boot (env : CnfgEnv) : DataCnfg where
  dataMask := 0
  occRole := occSlave
  rtl := ⟨false, true, true⟩
  freq :=
    { table
        | .nominal => 3500
        | .turbo => 3700
        | .pwrsave => 3000
        | .minFrequency => 2575
        | _ => 0
      updateCount := 0
      procFmaxMhz := (env.oppbFrequencyMaxKhz / 1000).setWidth 16
      wofDisabled := wofRcOccWofDisabled }
  apss := .boot
  mem := .boot
  masterPcap := ⟨0, 0, 0, 0, 0, 0⟩
  sys := ⟨0, 0, 0, 0, 0, fun _ => 0, fun _ => 0, 0⟩
  ips := ⟨0, 0, 0, 0, 0⟩
  memThrot := ⟨fun _ => ⟨fun _ => 0, fun _ => 0⟩, 0, 0, 0, 0⟩
  thrm := ⟨0, 0, 0, 0, fun _ => ⟨0, 0, 0, 0, 0, 0⟩⟩
  avsbus := ⟨⟨false, 0, 0⟩, ⟨false, 0, 0⟩, 0, 0xFFFF, 0xFFFF⟩
  gpu := .boot
  vrmFaultStatus := 0

def dataMaskFreqPresent : BitVec 32 := 0x00000002
def dataMaskSetRole : BitVec 32 := 0x00000004
def dataMaskApssConfig : BitVec 32 := 0x00000008
def dataMaskPcapPresent : BitVec 32 := 0x00000010
def dataMaskSysCnfg : BitVec 32 := 0x00000020
def dataMaskAvsbusConfig : BitVec 32 := 0x00000040
def dataMaskThrmThresholds : BitVec 32 := 0x00000080
def dataMaskIpsCnfg : BitVec 32 := 0x00000100
def dataMaskMemCfg : BitVec 32 := 0x00000200
def dataMaskMemThrot : BitVec 32 := 0x00000400
def dataMaskGpu : BitVec 32 := 0x00000800
def dataMaskVrmFault : BitVec 32 := 0x00001000

namespace DataCnfg

variable (s : DataCnfg)

/-- What a function for a format returns: the mask gets its bit when there is no error. -/
def stored (mask : BitVec 32) (err : Option DataErrl) : DataCnfg × Option DataErrl :=
  match err with
  | none => ({ s with dataMask := s.dataMask ||| mask }, none)
  | some err => (s, some err)

/-- `data_store_role`. Where `initialize_apss` fails for a backup master its log is committed, and no error returned. -/
def dataStoreRole (env : CnfgEnv) (cmd : SetRole) : DataCnfg × Option DataErrl :=
  let rtl := if s.apss.pwrReadingType = pwrReadingTypeApss then { s.rtl with apssNotInitd := false } else s.rtl
  if env.standby then
    if cmd.role = occMaster then
      ({ s with
        occRole := occMaster
        rtl := { rtl with notMstr := false, mstr := true }
        dataMask := s.dataMask ||| dataMaskSetRole }, none)
    else if cmd.role = occSlave ∨ cmd.role = occBackupMaster then
      let rtl := if cmd.role = occBackupMaster then rtl else s.rtl
      ({ s with
        occRole := if s.occRole = occMaster then occSlave else s.occRole
        rtl := if s.occRole = occMaster then { rtl with mstr := false, notMstr := true } else rtl
        dataMask := s.dataMask ||| dataMaskSetRole }, none)
    else (s, some (.roleInvalid cmd.role))
  else (s, some .roleNotStandby)

/-- `AMEC_data_change`: the data that AMEC reads must have been received. -/
def amecDataChange (newData : BitVec 32) : Option DataErrl :=
  if newData = dataMaskThrmThresholds ∧ s.dataMask &&& dataMaskThrmThresholds = 0 then some (.thrmDataMissing s.dataMask)
  else if newData = dataMaskIpsCnfg ∧ s.dataMask &&& dataMaskIpsCnfg = 0 then some (.ipsDataMissing s.dataMask)
  else none

end DataCnfg

/-- AMEC is told of new data when the function for their format has returned no error. -/
def notifyAmec (newData : BitVec 32) (r : DataCnfg × Option DataErrl) : DataCnfg × Option MemStop :=
  match r with
  | (s, none) => (s, (s.amecDataChange newData).map .errl)
  | (s, some err) => (s, some (.errl err))

/-- `DATA_store_cnfgdata`: no error, or the one that the packet is rejected with. -/
def dataStoreCnfgdata (env : CnfgEnv) (s : DataCnfg) : CnfgPacket → DataCnfg × Option MemStop
  | .freq cmd =>
    let (freq, err) := dataStoreFreqData env s.occRole s.freq cmd
    notifyAmec dataMaskFreqPresent
      ({ s with freq := freq }.stored (if s.occRole = occMaster then dataMaskFreqPresent else 0) err)
  | .setRole cmd => notifyAmec dataMaskSetRole (s.dataStoreRole env cmd)
  | .apssConfig cmd =>
    let (apss, err) := dataStoreApssConfig env.chipId s.apss cmd
    notifyAmec dataMaskApssConfig ({ s with apss := apss }.stored dataMaskApssConfig err)
  | .avsbusConfig cmd =>
    let ((avsbus, wofDisabled), err) := dataStoreAvsbusConfig env.pgpeSharedSramReadings s.avsbus s.freq.wofDisabled cmd
    notifyAmec dataMaskAvsbusConfig
      ({ s with avsbus := avsbus, freq.wofDisabled := wofDisabled }.stored dataMaskAvsbusConfig err)
  | .gpu cmd =>
    let (gpu, err) := dataStoreGpu s.apss.pwrReadingType s.gpu cmd
    notifyAmec dataMaskGpu ({ s with gpu := gpu }.stored dataMaskGpu err)
  | .powerCap cmd =>
    -- the mask gets its bit when the slave code acquires the data
    let (masterPcap, err) := dataStorePowerCap s.occRole s.masterPcap cmd
    notifyAmec dataMaskPcapPresent ({ s with masterPcap := masterPcap }, err)
  | .sysCnfg cmd =>
    let ((sys, wofDisabled), err) := dataStoreSysConfig env s.sys s.freq.wofDisabled cmd
    notifyAmec dataMaskSysCnfg ({ s with sys := sys, freq.wofDisabled := wofDisabled }.stored dataMaskSysCnfg err)
  | .ipsCnfg cmd =>
    let (ips, err) := dataStoreIpsConfig s.occRole s.ips cmd
    notifyAmec dataMaskIpsCnfg ({ s with ips := ips }.stored dataMaskIpsCnfg err)
  | .thrmThresholds cmd =>
    let (thrm, err) := dataStoreThrmThresholds s.thrm cmd
    notifyAmec dataMaskThrmThresholds ({ s with thrm := thrm }.stored dataMaskThrmThresholds err)
  | .memCfg cmd =>
    match dataStoreMemCfg s.mem cmd with
    | (mem, none) => notifyAmec dataMaskMemCfg ({ s with mem := mem }.stored dataMaskMemCfg none)
    | (mem, some stop) => ({ s with mem := mem }, some stop)
  | .memThrot cmd =>
    let (memThrot, err) := dataStoreMemThrot s.mem.memType s.memThrot cmd
    notifyAmec dataMaskMemThrot ({ s with memThrot := memThrot }.stored dataMaskMemThrot err)
  | .vrmFault cmd =>
    let (vrmFaultStatus, err) := dataStoreVrmFault s.vrmFaultStatus cmd
    notifyAmec dataMaskVrmFault ({ s with vrmFaultStatus := vrmFaultStatus }.stored dataMaskVrmFault err)
  | .unknown => (s, some (.errl .invalidData))

end Occ.Cmdh
