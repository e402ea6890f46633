/-
The configuration of the APSS (`cmdh_fsp_cmds_datacnfg.c`): a packet assigns functions to the ADC channels and to the
GPIO pins of the APSS. The map from the functions to the channels is reset and written again, one channel after another;
the map from the channels to the functions is written along with it.
-/
import Occ.Lib.Writes
import Mathlib.Data.BitVec
import Mathlib.Data.List.FinRange
import Occ.Lib.Literals

namespace Occ.Cmdh

open Function (update)
open Writes (storeAll)

attribute [local instance] neZero_three neZero_four

/-! ## Functions of the channels and pins -/

/-- The ADC channels of the APSS, and the pins of its GPIO ports. -/
abbrev AdcChannel := Fin 16
abbrev GpioPin := Fin 16

/-- `apssAdcChannelData_t`: the places of the map from the functions to the ADC channels. -/
inductive AdcPlace
  | memory (proc cent : Fin 4) | vdd (proc : Fin 4) | io (i : Fin 3) | fans (i : Fin 2) | storageMedia (i : Fin 2)
  | totalCurrent12v | vcsVioVpcie (proc : Fin 4) | sense12v | remoteGnd | memCache | current12vStby
  | gpu (proc : Fin 2) (i : Fin 3) | senseVolt2 | totalCurrentVolt2
deriving DecidableEq, Repr

/-- `eApssAdcChannelAssignments` -/
inductive AdcFunction
  | reserved | memoryProc (proc : Fin 4) | vddProc (proc : Fin 4) | vcsVioVpcieProc (proc : Fin 4) | io (i : Fin 3)
  | fans (i : Fin 2) | storage (i : Fin 2) | sense12v | gndRemoteSense | totalSysCurrent | memCache
  | gpu (proc : Fin 2) (i : Fin 3) | memoryProc0 (i : Fin 3) | standbyCurrent12v | gpuVolt2 (proc i : Fin 2)
  | voltSense2 | totalSysCurrent2
deriving DecidableEq, Repr

/-- The functions by their IDs. -/
def adcFunctions : List AdcFunction :=
  [.reserved, .memoryProc 0, .memoryProc 1, .memoryProc 2, .memoryProc 3, .vddProc 0, .vddProc 1, .vddProc 2, .vddProc 3,
    .vcsVioVpcieProc 0, .vcsVioVpcieProc 1, .vcsVioVpcieProc 2, .vcsVioVpcieProc 3, .io 0, .io 1, .io 2,
    .fans 0, .fans 1, .storage 0, .storage 1, .sense12v, .gndRemoteSense, .totalSysCurrent, .memCache,
    .gpu 0 0, .memoryProc0 0, .memoryProc0 1, .memoryProc0 2, .standbyCurrent12v, .gpu 0 1, .gpu 0 2, .gpu 1 0,
    .gpu 1 1, .gpu 1 2, .gpuVolt2 0 0, .gpuVolt2 0 1, .gpuVolt2 1 0, .gpuVolt2 1 1, .voltSense2, .totalSysCurrent2]

/-- The function with an ID, when it is below `NUM_ADC_ASSIGNMENT_TYPES`. -/
def AdcFunction.ofId (id : BitVec 8) : Option AdcFunction := adcFunctions[id.toNat]?

/-- The place of the map where the channel of a function is stored. -/
def AdcFunction.place : AdcFunction → Option AdcPlace
  | .reserved => none
  | .memoryProc proc => some (.memory proc 0)
  | .memoryProc0 i => some (.memory 0 i.succ)
  | .vddProc proc => some (.vdd proc)
  | .vcsVioVpcieProc proc => some (.vcsVioVpcie proc)
  | .io i => some (.io i)
  | .fans i => some (.fans i)
  | .storage i => some (.storageMedia i)
  | .sense12v => some .sense12v
  | .voltSense2 => some .senseVolt2
  | .gndRemoteSense => some .remoteGnd
  | .totalSysCurrent => some .totalCurrent12v
  | .totalSysCurrent2 => some .totalCurrentVolt2
  | .memCache => some .memCache
  | .standbyCurrent12v => some .current12vStby
  | .gpu proc i => some (.gpu proc i)
  | .gpuVolt2 proc i => some (.gpu proc i.castSucc)

/-- The function reports power, and the sensor of its channel has an ID. -/
def AdcFunction.ReportsPower (f : AdcFunction) : Prop :=
  f ≠ .reserved ∧ f ≠ .sense12v ∧ f ≠ .gndRemoteSense ∧ f ≠ .standbyCurrent12v ∧ f ≠ .voltSense2

instance (f : AdcFunction) : Decidable f.ReportsPower := by
  unfold AdcFunction.ReportsPower
  infer_instance

/-- The function is about the memory, or a GPU, of the processor. -/
def AdcFunction.MemoryOf (f : AdcFunction) (chipId : BitVec 8) : Prop :=
  match f with
  | .memoryProc proc => chipId.toNat = proc
  | _ => False

def AdcFunction.GpuOf (f : AdcFunction) (chipId : BitVec 8) : Prop :=
  match f with
  | .gpu proc _ | .gpuVolt2 proc _ => chipId.toNat = proc
  | _ => False

instance (f : AdcFunction) (chipId : BitVec 8) : Decidable (f.MemoryOf chipId) := by
  unfold AdcFunction.MemoryOf
  split <;> infer_instance

instance (f : AdcFunction) (chipId : BitVec 8) : Decidable (f.GpuOf chipId) := by
  unfold AdcFunction.GpuOf
  split <;> infer_instance

/-- Which voltage a GPU uses: the values 0, 1 and 2 of `G_gpu_volt_type`. -/
inductive GpuVolt
  | none | volt12 | volt2
deriving DecidableEq, Repr

/-- The voltage that a function is about, and of which GPU. -/
def AdcFunction.volt : AdcFunction → Option ((Fin 2 × Fin 3) × GpuVolt)
  | .gpu proc 0 => some ((proc, 0), .volt12)
  | .gpu proc 1 => some ((proc, 1), .volt12)
  | .gpuVolt2 proc i => some ((proc, i.castSucc), .volt2)
  | _ => none

/-- `apssGpioPinData_t`: the places of the map from the functions to the GPIO pins. -/
inductive GpioPlace
  | domOcLatch (i : Fin 4) | gndOcN | cmeThrottleN | centEnVcache (i : Fin 4) | vrFan (i : Fin 4) | fansWatchdogError
  | fansFullSpeed | fansError | fansReserved | psuFanDisable | gpu (i : Fin 6) | nvdimmEpow
deriving DecidableEq, Repr

/-- The place of every GPIO function, by its ID: `eApssGpioAssignments`, of which the first has none. -/
def gpioPlaces : List (Option GpioPlace) :=
  [none, some .fansWatchdogError, some .fansFullSpeed, some .fansError, some .fansReserved, some (.vrFan 0),
    some (.vrFan 1), some (.vrFan 2), some (.vrFan 3), some (.centEnVcache 0), some (.centEnVcache 1),
    some (.centEnVcache 2), some (.centEnVcache 3), some .cmeThrottleN, some .gndOcN, some (.domOcLatch 0),
    some (.domOcLatch 1), some (.domOcLatch 2), some (.domOcLatch 3), some .psuFanDisable, some (.gpu 0), some (.gpu 1),
    some (.gpu 2), some (.gpu 3), some (.gpu 4), some (.gpu 5), some .nvdimmEpow]

/-! ## Packets and state -/

/-- The logs of rejected configuration data, with their userdata. -/
inductive DataErrl
  -- the responses of `cmdh_build_errl_rsp`
  | invalidData | invalidCmdLen
  | apssAdcOutOfRange (funcId : BitVec 8) (channel : AdcChannel)
  | apssAdcDuplicated (funcId : BitVec 8) (channel : AdcChannel)
  | apssGpuVoltageConflict (funcId : BitVec 8) (channel : AdcChannel)
  | apssMissingAdcVoltSense2
  | apssGpioOutOfRange (funcId : BitVec 8) (pin : GpioPin)
  | apssGpioDuplicated (funcId : BitVec 8) (pin : GpioPin)
  | roleNotStandby | roleInvalid (role : BitVec 8)
  | powerCapInvalid (dataLength : BitVec 16) (version role : BitVec 8)
  | sysInvalid (dataLength : BitVec 16) (version : BitVec 8)
  | ipsInvalid (dataLength : BitVec 16) (version : BitVec 8)
  | vrmFaultInvalid (dataLength : BitVec 16) (version : BitVec 8)
  | thrmDataMissing (dataMask : BitVec 32) | ipsDataMissing (dataMask : BitVec 32)
deriving DecidableEq, Repr

/-- `apss_cfg_adc_v20_t` -/
structure ApssCfgAdc where
  assignment : BitVec 8
  ipmisensorId : BitVec 32
  gndSelect : BitVec 8
  gain : BitVec 32
  offset : BitVec 32
deriving DecidableEq, Repr

/-- `apss_cfg_gpio_t` -/
structure ApssCfgGpio where
  mode : BitVec 8
  assignment : Fin 8 → BitVec 8

/-- `cmdh_apss_config_v20_t`: what the buffer of the command holds, of which the packet sent has `dataLength` bytes. -/
structure ApssConfig where
  dataLength : BitVec 16
  version : BitVec 8
  type : BitVec 8
  adc : AdcChannel → ApssCfgAdc
  gpio : Fin 2 → ApssCfgGpio

/-- `apssCalibrationData_t` -/
structure ApssCal where
  gain : BitVec 32
  offset : BitVec 32
  gndSelect : BitVec 8
deriving DecidableEq, Repr

/-- The calibration data of a channel. -/
def ApssCfgAdc.cal (adc : ApssCfgAdc) : ApssCal := ⟨adc.gain, adc.offset, adc.gndSelect⟩

/-- What the packets of the APSS are stored in. -/
@[ext]
structure Apss where
  adcMap : AdcPlace → BitVec 8
  gpioMap : GpioPlace → BitVec 8
  /-- `G_gpu_volt_type` -/
  gpuVoltType : Fin 2 × Fin 3 → GpuVolt
  foundVolt2 : Bool
  /-- `G_pwr_reading_type` -/
  pwrReadingType : BitVec 8
  /-- `G_apss_ch_to_function` -/
  chToFunction : AdcChannel → AdcFunction
  cal : AdcChannel → ApssCal
  gpioPortsMode : Fin 2 → BitVec 8
  -- the `ipmi_sid` of the sensors `PWRMEM`, `PWRGPU` and `PWRAPSSCH0` on
  pwrMemSid : BitVec 32
  pwrGpuSid : BitVec 32
  pwrApssChSid : AdcChannel → BitVec 32

def sysCfgInvalidAdcChan : BitVec 8 := 0xff
def sysCfgInvalidPin : BitVec 8 := 0xff
def pwrReadingTypeApss : BitVec 8 := 0x00
def pwrReadingType2Channel : BitVec 8 := 0x02
def pwrReadingTypeNone : BitVec 8 := 0xFF
def dataApssVersion20 : BitVec 8 := 0x20

/-- `sizeof(cmdh_apss_config_v20_t)` without the header of the command. -/
def apssV20DataSize : Nat := 4 + 16 * 14 + 2 * 10

namespace Apss

/-! ## ADC channels -/

variable (s : Apss)

/-- The GPU of the function is known to use the other voltage. -/
def VoltConflict (f : AdcFunction) : Prop :=
  match f.volt with
  | some (gpu, volt) => s.gpuVoltType gpu ≠ .none ∧ s.gpuVoltType gpu ≠ volt
  | none => False

instance (f : AdcFunction) : Decidable (s.VoltConflict f) := by
  unfold VoltConflict
  split <;> infer_instance

/-- The voltage that the GPU of the function uses is noted. -/
def setVolt (f : AdcFunction) : Apss :=
  match f.volt with
  | some (gpu, volt) =>
    { s with gpuVoltType := update s.gpuVoltType gpu volt, foundVolt2 := s.foundVolt2 || volt == .volt2 }
  | none => s

/-- `apss_store_adc_channel`, whose callers count the channels. -/
def storeAdcChannel (funcId : BitVec 8) (channel : AdcChannel) : Apss × Option DataErrl :=
  match AdcFunction.ofId funcId with
  | none => (s, some (.apssAdcOutOfRange funcId channel))
  | some f =>
    if s.VoltConflict f then (s, some (.apssGpuVoltageConflict funcId channel))
    else
      let s := s.setVolt f
      match f.place with
      | none => (s, none)
      | some place =>
        if s.adcMap place = sysCfgInvalidAdcChan then
          ({ s with
            adcMap := update s.adcMap place (BitVec.ofNat 8 channel)
            chToFunction := update s.chToFunction channel f }, none)
        else (s, some (.apssAdcDuplicated funcId channel))

/-! ## Sensor IDs -/

/-- `apss_store_ipmi_sensor_id` for a function: the ID goes to the memory or GPU power sensor, when the function is about
the memory or the GPUs of this processor, and to the sensor of the channel. -/
def storeIpmiSensorId (chipId : BitVec 8) (channel : AdcChannel) (f : AdcFunction) (ipmisensorId : BitVec 32) : Apss :=
  { s with
    pwrMemSid := if f.MemoryOf chipId then ipmisensorId else s.pwrMemSid
    pwrGpuSid := if ipmisensorId ≠ 0 ∧ f.GpuOf chipId then ipmisensorId else s.pwrGpuSid
    pwrApssChSid := if f.ReportsPower then update s.pwrApssChSid channel ipmisensorId else s.pwrApssChSid }

/-! ## GPIO pins -/

/-- `apss_store_gpio_pin` -/
def storeGpioPin (funcId : BitVec 8) (pin : GpioPin) : Apss × Option DataErrl :=
  match gpioPlaces[funcId.toNat]? with
  | none => (s, some (.apssGpioOutOfRange funcId pin))
  | some none => (s, none)
  | some (some place) =>
    if s.gpioMap place = sysCfgInvalidPin then
      ({ s with gpioMap := update s.gpioMap place (BitVec.ofNat 8 pin) }, none)
    else (s, some (.apssGpioDuplicated funcId pin))

/-- The number of a pin of a port. -/
def pinOf (port : Fin 2) (pin : Fin 8) : GpioPin := ⟨port * 8 + pin, by omega⟩

/-- The mode and the pins of a port. -/
def storeGpioPort (cmd : ApssConfig) (s : Apss) (port : Fin 2) : Apss × Option DataErrl :=
  storeAll (fun s pin => s.storeGpioPin ((cmd.gpio port).assignment pin) (pinOf port pin))
    { s with gpioPortsMode := update s.gpioPortsMode port (cmd.gpio port).mode } (List.finRange 8)

/-! ## Packets -/

/-- A channel of the packet. -/
def storeChannel (chipId : BitVec 8) (cmd : ApssConfig) (s : Apss) (channel : AdcChannel) : Apss × Option DataErrl :=
  let adc := cmd.adc channel
  let s := { s with cal := update s.cal channel adc.cal }
  match s.storeAdcChannel adc.assignment channel with
  | (s, some err) => (s, some err)
  | (s, none) =>
    let s := s.storeIpmiSensorId chipId channel (AdcFunction.ofId adc.assignment |>.getD .reserved) adc.ipmisensorId
    (if adc.assignment ≠ 0 ∧ s.pwrReadingType = pwrReadingTypeNone then { s with pwrReadingType := pwrReadingTypeApss }
      else s, none)

end Apss

/-- The channels that a packet of a type has: all of them, or two. -/
def channelsOf (type : BitVec 8) : List AdcChannel :=
  (List.finRange 16).take (if type = pwrReadingType2Channel then 2 else 16)

/-- `data_store_apss_config_v20` -/
def dataStoreApssConfigV20 (chipId : BitVec 8) (s : Apss) (cmd : ApssConfig) : Apss × Option DataErrl :=
  let channels := channelsOf s.pwrReadingType
  let s := if s.pwrReadingType = pwrReadingType2Channel then s else { s with pwrReadingType := pwrReadingTypeNone }
  match storeAll (Apss.storeChannel chipId cmd) s channels with
  | (s, some err) => (s, some err)
  | (s, none) =>
    let foundVolt2Sense := channels.any fun channel => AdcFunction.ofId (cmd.adc channel).assignment == some .voltSense2
    if s.foundVolt2 ∧ ¬foundVolt2Sense then (s, some .apssMissingAdcVoltSense2)
    else if s.pwrReadingType = pwrReadingTypeApss then storeAll (Apss.storeGpioPort cmd) s (List.finRange 2)
    else (s, none)

/-- The default values that come before every packet. -/
def Apss.reset (s : Apss) : Apss :=
  { s with
    adcMap := fun _ => sysCfgInvalidAdcChan
    gpioMap := fun _ => sysCfgInvalidPin
    gpuVoltType := fun _ => .none
    foundVolt2 := false }

/-- `data_store_apss_config` -/
def dataStoreApssConfig (chipId : BitVec 8) (s : Apss) (cmd : ApssConfig) : Apss × Option DataErrl :=
  let s := s.reset
  if cmd.version ≠ dataApssVersion20 ∨ cmd.dataLength.toNat < 4 then
    ({ s with pwrReadingType := pwrReadingTypeNone }, some .invalidData)
  else
    let s := { s with pwrReadingType := cmd.type }
    if (cmd.type = pwrReadingType2Channel ∧ cmd.dataLength.toNat = 0x20) ∨
        (cmd.type = pwrReadingTypeApss ∧ cmd.dataLength.toNat = apssV20DataSize) then
      dataStoreApssConfigV20 chipId s cmd
    else if cmd.type ≠ pwrReadingTypeNone ∨ cmd.dataLength.toNat ≠ 4 then
      ({ s with pwrReadingType := pwrReadingTypeNone }, some .invalidData)
    else (s, none)

/-- The initial values of `occ_sys_config.c` and of the globals. -/
def Apss.boot : Apss where
  adcMap := fun _ => sysCfgInvalidAdcChan
  gpioMap
    | .psuFanDisable | .gpu _ | .nvdimmEpow => 0
    | _ => sysCfgInvalidPin
  gpuVoltType := fun _ => .none
  foundVolt2 := false
  pwrReadingType := pwrReadingTypeNone
  chToFunction := fun _ => .reserved
  cal := fun _ => ⟨1000, 0, 0⟩
  gpioPortsMode := fun _ => 0
  pwrMemSid := 0
  pwrGpuSid := 0
  pwrApssChSid := fun _ => 0

end Occ.Cmdh
