/-
The formats of configuration data without places to assign (`cmdh_fsp_cmds_datacnfg.c`): frequencies, AVS bus, power cap,
system, idle power save, thermal thresholds, memory throttling and VRM faults. Each is a group of globals and the function
that stores a packet in it.
-/
import Occ.Cmdh.MemConfig
import Occ.Lib.Literals

namespace Occ.Cmdh

open Function (update)
open Writes (storeAll)

attribute [local instance] neZero_four neZero_eight neZero_sixteen

/-- What the functions read of the OCC: `CURRENT_STATE` is standby, `CURRENT_MODE` is `OCC_MODE_NOCHANGE`, the chip ID,
whether the PGPE shares its voltages and currents, and the frequencies of its parameter block. -/
structure CnfgEnv where
  standby : Bool
  modeNoChange : Bool
  chipId : BitVec 8
  pgpeSharedSramReadings : Bool
  oppbFrequencyMaxKhz : BitVec 32
  oppbFrequencyMinKhz : BitVec 32
deriving DecidableEq, Repr

def occSlave : BitVec 8 := 0
def occMaster : BitVec 8 := 1
def occBackupMaster : BitVec 8 := 2

/-! ## Frequencies -/

/-- `OCC_MODE`, for the modes that have a frequency in the table; the others have 0. -/
inductive OccMode
  | nominal | oversub | turbo | pwrsave | dynPowerSave | minFrequency | dynPowerSaveFp | ffo | uturbo | vrmN
deriving DecidableEq, Repr

/-- `cmdh_store_mode_freqs_t` and the frequencies behind it. -/
structure FreqConfig where
  dataLength : BitVec 16
  version : BitVec 8
  freq : Fin 8 → BitVec 16

/-- The frequencies, and the reasons that disable WOF as far as the configuration data have to do with them. -/
structure Freq where
  table : OccMode → BitVec 16
  updateCount : BitVec 8
  procFmaxMhz : BitVec 16
  wofDisabled : BitVec 32

def wofRcInvalidVddVdn : BitVec 32 := 0x00000004
def wofRcModeNoSupportMask : BitVec 32 := 0x00000400
def wofRcUturboIsZero : BitVec 32 := 0x00010000
def wofRcOccWofDisabled : BitVec 32 := 0x00020000
def wofRcSystemWofDisable : BitVec 32 := 0x00080000
def wofRcResetLimitReached : BitVec 32 := 0x00100000
def wofRcUnsupportedFrequencies : BitVec 32 := 0x00200000

/-- The reasons that the ultra turbo frequency stands for when it is one of `WOF_MISSING_ULTRA_TURBO` and so on. -/
def uturboReason (freq : BitVec 16) : Option (BitVec 32) :=
  [wofRcUturboIsZero, wofRcSystemWofDisable, wofRcResetLimitReached, wofRcUnsupportedFrequencies][freq.toNat]?

/-- `set_clear_wof_disabled` for the ultra turbo frequency. -/
def uturboWofDisabled (wofDisabled : BitVec 32) (freq : BitVec 16) : BitVec 32 :=
  match uturboReason freq with
  | some reason => wofDisabled ||| reason
  | none =>
    wofDisabled &&& ~~~(wofRcUturboIsZero ||| wofRcSystemWofDisable ||| wofRcResetLimitReached |||
      wofRcUnsupportedFrequencies ||| wofRcOccWofDisabled)

/-- The table for the frequencies of a packet, and `G_proc_fmax_mhz`. -/
def FreqConfig.points (cmd : FreqConfig) (env : CnfgEnv) : (OccMode → BitVec 16) × BitVec 16 :=
  let max := (env.oppbFrequencyMaxKhz / 1000).setWidth 16
  let clip := fun freq : BitVec 16 => if max < freq then max else freq
  let nominal := clip (cmd.freq 0)
  let turbo := if cmd.freq 1 = 0 then nominal else clip (cmd.freq 1)
  let min :=
    if (cmd.freq 2).setWidth 32 * 1000 < env.oppbFrequencyMinKhz then (env.oppbFrequencyMinKhz / 1000).setWidth 16
    else cmd.freq 2
  let uturbo := if (uturboReason (clip (cmd.freq 3))).isSome then 0 else clip (cmd.freq 3)
  let fmax := if turbo < uturbo then uturbo else turbo
  let pwrsave := if cmd.freq 4 < min then min else cmd.freq 4
  let ffo := if cmd.freq 5 = 0 then 0 else if cmd.freq 5 < min then min else if fmax < cmd.freq 5 then fmax else cmd.freq 5
  (fun
    | .nominal => nominal
    | .turbo => turbo
    | .minFrequency => min
    | .uturbo => uturbo
    | .dynPowerSave | .dynPowerSaveFp => fmax
    | .pwrsave => pwrsave
    | .ffo => ffo
    | .oversub => if cmd.version = 0x21 then cmd.freq 6 else turbo
    | .vrmN => if cmd.version = 0x21 then cmd.freq 7 else turbo, fmax)

/-- `data_store_freq_data`: a slave ignores the packet. -/
def dataStoreFreqData (env : CnfgEnv) (role : BitVec 8) (s : Freq) (cmd : FreqConfig) : Freq × Option DataErrl :=
  let modeDataSize := cmd.dataLength.toNat - 2
  if cmd.dataLength.toNat < 2 ∨ (cmd.version = 0x20 ∧ modeDataSize ≠ 6 * 2) ∨ (cmd.version = 0x21 ∧ modeDataSize ≠ 8 * 2) then
    (s, some .invalidData)
  else if role ≠ occMaster then (s, none)
  else if cmd.freq 0 = 0 then (s, some .invalidData)
  else
    let max := (env.oppbFrequencyMaxKhz / 1000).setWidth 16
    let (table, fmax) := cmd.points env
    ({ s with
      table := table
      updateCount := s.updateCount + 1
      procFmaxMhz := fmax
      wofDisabled := uturboWofDisabled s.wofDisabled (if max < cmd.freq 3 then max else cmd.freq 3) }, none)

/-! ## AVS bus -/

/-- `cmdh_avsbus_config_t`, and `cmdh_avsbus_v2_config_t` with the last two fields. -/
structure AvsbusConfig where
  dataLength : BitVec 16
  version : BitVec 8
  vddBus : BitVec 8
  vddRail : BitVec 8
  vdnBus : BitVec 8
  vdnRail : BitVec 8
  procPowerAdder : BitVec 16
  vddCurrentRollover : BitVec 16
  vddMaxCurrent : BitVec 16
deriving DecidableEq, Repr

/-- Bus and rail of a voltage, and whether it is monitored. -/
structure AvsbusVoltage where
  monitoring : Bool
  bus : BitVec 8
  rail : BitVec 8
deriving DecidableEq, Repr

structure Avsbus where
  vdd : AvsbusVoltage
  vdn : AvsbusVoltage
  procPowerAdder : BitVec 16
  vddCurrentRollover10mA : BitVec 32
  vddMaxCurrent10mA : BitVec 32
deriving DecidableEq, Repr

/-- Bus and rail of Vdd, which are invalid unless the bus is 0xFF when they cannot be used. -/
def storeVdd (s : Avsbus) (cmd : AvsbusConfig) : Avsbus × Bool :=
  if cmd.vddBus = 0 ∨ cmd.vddBus = 1 then
    if cmd.vddRail ≤ 15 then ({ s with vdd := ⟨true, cmd.vddBus, cmd.vddRail⟩ }, false) else (s, true)
  else if cmd.vddBus ≠ 0xFF then (s, true)
  else ({ s with vdd.monitoring := false }, false)

/-- Bus and rail of Vdn, which is not read from the bus when the PGPE shares it, and else needs a bus of its own. -/
def storeVdn (shared : Bool) (s : Avsbus) (cmd : AvsbusConfig) : Avsbus × Bool :=
  if cmd.vdnBus = 0 ∨ cmd.vdnBus = 1 then
    if cmd.vdnRail ≤ 15 then
      if shared then ({ s with vdn.monitoring := false }, false)
      else ({ s with vdn := ⟨true, cmd.vdnBus, cmd.vdnRail⟩ }, s.vdd.monitoring && s.vdd.bus == cmd.vdnBus)
    else (s, true)
  else if cmd.vdnBus ≠ 0xFF then (s, true)
  else ({ s with vdn.monitoring := false }, false)

/-- `data_store_avsbus_config`, with the reasons that disable WOF. -/
def dataStoreAvsbusConfig (shared : Bool) (s : Avsbus) (wofDisabled : BitVec 32) (cmd : AvsbusConfig) :
    (Avsbus × BitVec 32) × Option DataErrl :=
  let (s, invalid) :=
    if (cmd.version = 0x01 ∧ cmd.dataLength.toNat = 10) ∨ (cmd.version = 0x02 ∧ cmd.dataLength.toNat = 14) then
      let (s, invalidVdd) := storeVdd s cmd
      let (s, invalidVdn) := storeVdn shared s cmd
      (s, invalidVdd || invalidVdn)
    else (s, true)
  if invalid ∨ (¬shared ∧ (¬s.vdd.monitoring ∨ ¬s.vdn.monitoring)) then
    (({ s with vdd.monitoring := false, vdn.monitoring := false }, wofDisabled ||| wofRcInvalidVddVdn), some .invalidData)
  else
    (({ s with
      procPowerAdder := cmd.procPowerAdder
      vddCurrentRollover10mA := if cmd.version = 0x02 then cmd.vddCurrentRollover.setWidth 32 else 0xFFFF
      vddMaxCurrent10mA := if cmd.version = 0x02 then cmd.vddMaxCurrent.setWidth 32 else 0xFFFF },
      wofDisabled &&& ~~~wofRcInvalidVddVdn), none)

/-! ## Power cap -/

/-- `cmdh_pcap_config_t` -/
structure PcapConfig where
  dataLength : BitVec 16
  version : BitVec 8
  softMinPcap : BitVec 16
  hardMinPcap : BitVec 16
  sysMaxPcap : BitVec 16
  qpdPcap : BitVec 16
deriving DecidableEq, Repr

/-- `G_master_pcap_data`, without the power cap of the customer. -/
structure MasterPcap where
  softMinPcap : BitVec 16
  hardMinPcap : BitVec 16
  maxPcap : BitVec 16
  oversubPcap : BitVec 16
  systemPcap : BitVec 16
  pcapDataCount : BitVec 8
deriving DecidableEq, Repr

/-- `data_store_power_cap` -/
def dataStorePowerCap (role : BitVec 8) (s : MasterPcap) (cmd : PcapConfig) : MasterPcap × Option DataErrl :=
  if role ≠ occMaster ∨ ¬(cmd.version = 0x20 ∧ cmd.dataLength.toNat = 10) then
    (s, some (.powerCapInvalid cmd.dataLength cmd.version role))
  else
    ({ softMinPcap := cmd.softMinPcap
       hardMinPcap := cmd.hardMinPcap
       maxPcap := cmd.sysMaxPcap
       oversubPcap := cmd.qpdPcap
       systemPcap := cmd.sysMaxPcap
       pcapDataCount := s.pcapDataCount + 1 }, none)

/-! ## System -/

/-- `cmdh_sys_config_v21_t`, of which version 20 has not the last two fields. -/
structure SysConfig where
  dataLength : BitVec 16
  version : BitVec 8
  systemType : BitVec 8
  procSid : BitVec 32
  coreTempSid : Fin 24 → BitVec 32
  coreFreqSid : Fin 24 → BitVec 32
  backplaneSid : BitVec 32
  apssSid : BitVec 32
  vrmVddSid : BitVec 32
  vrmVddTempSid : BitVec 32

structure Sys where
  systemType : BitVec 8
  backplaneHuid : BitVec 32
  apssHuid : BitVec 32
  procHuid : BitVec 32
  vrmVddHuid : BitVec 32
  -- the `ipmi_sid` of the sensors `TEMPPROCTHRMC0` and `FREQAC0` on and of `TEMPVDD`
  tempProcThrmSid : Fin 24 → BitVec 32
  freqSid : Fin 24 → BitVec 32
  tempVddSid : BitVec 32

/-- The size of a packet of a version. -/
def sysConfigSize (version : BitVec 8) : Option Nat :=
  if version = 0x20 then some 207 else if version = 0x21 then some 215 else none

/-- `data_store_sys_config`, with the reasons that disable WOF: the first bit of the system type is `kvm`. -/
def dataStoreSysConfig (env : CnfgEnv) (s : Sys) (wofDisabled : BitVec 32) (cmd : SysConfig) :
    (Sys × BitVec 32) × Option DataErrl :=
  if sysConfigSize cmd.version ≠ some cmd.dataLength.toNat then
    ((s, wofDisabled), some (.sysInvalid cmd.dataLength cmd.version))
  else
    (({ systemType := cmd.systemType
        backplaneHuid := cmd.backplaneSid
        apssHuid := cmd.apssSid
        procHuid := cmd.procSid
        vrmVddHuid := if cmd.version = 0x21 then cmd.vrmVddSid else s.vrmVddHuid
        tempProcThrmSid := cmd.coreTempSid
        freqSid := cmd.coreFreqSid
        tempVddSid := if cmd.version = 0x21 then cmd.vrmVddTempSid else s.tempVddSid },
      if ¬cmd.systemType.msb ∧ env.modeNoChange then wofDisabled ||| wofRcModeNoSupportMask else wofDisabled), none)

/-! ## Idle power save -/

/-- `cmdh_ips_config_data_t` -/
structure IpsConfigData where
  ipsEnabled : BitVec 8
  delayTimeforEntry : BitVec 16
  utilizationForEntry : BitVec 8
  delayTimeforExit : BitVec 16
  utilizationForExit : BitVec 8
deriving DecidableEq, Repr

/-- `cmdh_ips_config_t` -/
structure IpsConfig where
  dataLength : BitVec 16
  version : BitVec 8
  ipsConfig : IpsConfigData
deriving DecidableEq, Repr

/-- `data_store_ips_config` -/
def dataStoreIpsConfig (role : BitVec 8) (s : IpsConfigData) (cmd : IpsConfig) : IpsConfigData × Option DataErrl :=
  if role ≠ occMaster ∨ cmd.version ≠ 0 ∨ cmd.dataLength.toNat ≠ 9 then
    (s, some (.ipsInvalid cmd.dataLength cmd.version))
  else (cmd.ipsConfig, none)

/-! ## Thermal thresholds -/

/-- `cmdh_thrm_thresholds_set_v20_t`; the table that it is stored in has an error count, too, which nothing writes. -/
structure ThrmSet where
  fruType : BitVec 8
  dvfs : BitVec 8
  error : BitVec 8
  pmDvfs : BitVec 8
  pmError : BitVec 8
  maxReadTimeout : BitVec 8
deriving DecidableEq, Repr

/-- `cmdh_thrm_thresholds_v20_t`, with the data sets that it declares. -/
structure ThrmConfig where
  dataLength : BitVec 16
  version : BitVec 8
  procCoreWeight : BitVec 8
  procQuadWeight : BitVec 8
  numDataSets : BitVec 8
  dataSets : List ThrmSet
  len : dataSets.length = numDataSets.toNat

/-- `G_data_cnfg->thrm_thresh` -/
structure Thrm where
  version : BitVec 8
  procCoreWeight : BitVec 8
  procQuadWeight : BitVec 8
  numDataSets : BitVec 8
  data : Fin 9 → ThrmSet

/-- The thresholds of a FRU type, when there is such a type. -/
def Thrm.storeSet (s : Thrm) (set : ThrmSet) : Thrm × Option DataErrl :=
  if set.fruType.toNat < 9 then ({ s with data := update s.data (Fin.ofNat 9 set.fruType.toNat) set }, none)
  else (s, some .invalidData)

/-- The header of the packet is valid. -/
def ThrmConfig.Valid (cmd : ThrmConfig) : Prop :=
  cmd.version = 0x20 ∧ 5 + cmd.numDataSets.toNat * 6 = cmd.dataLength.toNat ∧ 5 ≤ cmd.dataLength.toNat ∧
    (cmd.procCoreWeight ≠ 0 ∨ cmd.procQuadWeight ≠ 0)

instance (cmd : ThrmConfig) : Decidable cmd.Valid := by
  unfold ThrmConfig.Valid
  infer_instance

/-- `data_store_thrm_thresholds` -/
def dataStoreThrmThresholds (s : Thrm) (cmd : ThrmConfig) : Thrm × Option DataErrl :=
  if cmd.Valid then
    storeAll Thrm.storeSet
      { version := cmd.version
        procCoreWeight := cmd.procCoreWeight
        procQuadWeight := cmd.procQuadWeight
        numDataSets := cmd.numDataSets
        data i := ⟨BitVec.ofNat 8 i, 0xFF, 0xFF, 0xFF, 0xFF, 0xFF⟩ } cmd.dataSets
  else (s, some .invalidData)

/-! ## Memory throttling -/

/-- `mem_throt_config_data_t`: the eleven values, and three that are reserved. -/
structure MemThrotConfigData where
  values : Fin 11 → BitVec 16
  reserved : Fin 3 → BitVec 16
deriving DecidableEq

/-- The indices of the power values at turbo, at the power cap and at nominal among the eleven. -/
def turboMemPower : Fin 11 := 4
def pcapMemPower : Fin 11 := 7
def nomMemPower : Fin 11 := 10

/-- `cmdh_mem_throt_data_set_t`: memory controller and port of a Nimbus system, else memory buffer and MBA. -/
structure MemThrotSet where
  info1 : BitVec 8
  info2 : BitVec 8
  config : MemThrotConfigData

/-- `cmdh_mem_throt_t`, with the data sets that it declares. -/
structure MemThrotConfig where
  dataLength : BitVec 16
  version : BitVec 8
  numDataSets : BitVec 8
  dataSets : List MemThrotSet
  len : dataSets.length = numDataSets.toNat

structure MemThrot where
  memThrotLimits : Fin 16 × Fin 4 → MemThrotConfigData
  configuredMbas : BitVec 16
  nominalMemPwr : BitVec 16
  turboMemPwr : BitVec 16
  pcap1MemPwr : BitVec 16

/-- The sums of the loop over the data sets. -/
structure MemThrotSums where
  configuredMbas : BitVec 16
  turbo : BitVec 32
  nominal : BitVec 32
  pcap : BitVec 32
deriving DecidableEq, Repr

/-- The numbers of controllers or buffers, and of ports or MBAs, that a memory type has. -/
def memThrotBounds (memType : BitVec 8) : Option (Nat × Nat) :=
  if memType = memTypeNimbus then some (2, 4)
  else if memType = memTypeCumulus then some (8, 2)
  else if memType = memTypeOcm then some (16, 1)
  else none

/-- The bit of a controller and port, or of a buffer and MBA. -/
def mbaBit (memType : BitVec 8) (set : MemThrotSet) : BitVec 16 :=
  if memType = memTypeNimbus then 0x8000 >>> (set.info2.toNat + set.info1.toNat * 4)
  else 1 <<< (set.info1.toNat * (if memType = memTypeOcm then 1 else 2) + set.info2.toNat)

/-- A data set can be stored: its place is one of the memory type, and none of the eleven values is 0. -/
def MemThrotSet.Valid (set : MemThrotSet) (memType : BitVec 8) : Prop :=
  (∀ bounds ∈ memThrotBounds memType, set.info1.toNat < bounds.1 ∧ set.info2.toNat < bounds.2) ∧
    ∀ i, set.config.values i ≠ 0

instance (set : MemThrotSet) (memType : BitVec 8) : Decidable (set.Valid memType) := by
  unfold MemThrotSet.Valid
  infer_instance

/-- A data set, whose limits are stored unless the memory type is unknown. -/
def MemThrot.storeSet (memType : BitVec 8) (s : MemThrot × MemThrotSums) (set : MemThrotSet) :
    (MemThrot × MemThrotSums) × Option DataErrl :=
  let (s, sums) := s
  if set.Valid memType then
    let known := (memThrotBounds memType).isSome
    (({ s with
      memThrotLimits :=
        if known then update s.memThrotLimits (Fin.ofNat 16 set.info1.toNat, Fin.ofNat 4 set.info2.toNat) set.config
        else s.memThrotLimits },
      { configuredMbas := if known then sums.configuredMbas ||| mbaBit memType set else sums.configuredMbas
        turbo := sums.turbo + (set.config.values turboMemPower).setWidth 32
        nominal := sums.nominal + (set.config.values nomMemPower).setWidth 32
        pcap := sums.pcap + (set.config.values pcapMemPower).setWidth 32 }), none)
  else ((s, sums), some .invalidData)

/-- The header of the packet is valid. -/
def MemThrotConfig.Valid (cmd : MemThrotConfig) : Prop :=
  cmd.version = 0x20 ∧ 3 + cmd.numDataSets.toNat * 30 = cmd.dataLength.toNat

instance (cmd : MemThrotConfig) : Decidable cmd.Valid := by
  unfold MemThrotConfig.Valid
  infer_instance

/-- `data_store_mem_throt`, with the memory type that the memory packets have left. -/
def dataStoreMemThrot (memType : BitVec 8) (s : MemThrot) (cmd : MemThrotConfig) : MemThrot × Option DataErrl :=
  if cmd.Valid then
    match storeAll (MemThrot.storeSet memType) (s, ⟨0, 0, 0, 0⟩) cmd.dataSets with
    | ((s, sums), none) =>
      ({ s with
        configuredMbas := sums.configuredMbas
        nominalMemPwr := (sums.nominal / 100).setWidth 16
        turboMemPwr := (sums.turbo / 100).setWidth 16
        pcap1MemPwr := (sums.pcap / 100).setWidth 16 }, none)
    | ((s, _), some err) => (s, some err)
  else (s, some .invalidData)

/-! ## VRM faults -/

/-- `cmdh_vrm_fault_t` -/
structure VrmFaultConfig where
  dataLength : BitVec 16
  version : BitVec 8
  vrmFaultStatus : BitVec 8
deriving DecidableEq, Repr

/-- `data_store_vrm_fault` -/
def dataStoreVrmFault (s : BitVec 8) (cmd : VrmFaultConfig) : BitVec 8 × Option DataErrl :=
  if cmd.version ≠ 0x01 ∨ cmd.dataLength.toNat ≠ 4 then (s, some (.vrmFaultInvalid cmd.dataLength cmd.version))
  else (cmd.vrmFaultStatus, none)

end Occ.Cmdh
