/-
The power sensors of the APSS (`amec_sensors_power.c`): the calibrated values of the ADC channels, and the power of the channels, the
processor, its memory and GPUs, and the system. The GPIO ports, the trace of the time under oversubscription and the statistics over 30
seconds are left out.
-/
import Occ.Cmdh.ApssConfig
import Occ.Sensor.Sensor
import Occ.Lib.Literals

namespace Occ.Amec.Power

open Cmdh (AdcChannel AdcPlace Apss)
open Sensor (SensorState)

theorem neZero_two : @NeZero Nat Zero.ofOfNat0 2 := ⟨by decide⟩

attribute [local instance] neZero_two neZero_three neZero_four

/-! ## Data -/

/-- What the functions below write: `G_lastValidAdcValue`, the sensors, and the power of all modules and all memory. -/
structure PowerSensors where
  lastValidAdcValue : AdcChannel → BitVec 32
  pwrApssCh : AdcChannel → SensorState
  cur12vStby : SensorState
  pwrProc : SensorState
  pwrMem : SensorState
  pwrGpu : SensorState
  pwrSys : SensorState
  procSnrPwr : Fin 4 → BitVec 16
  memSnrPwr : Fin 4 → BitVec 16
  slvInboxReceived : Bool

/-- What a call reads: the slave inbox and its doorbell, the GPIO EPOW, the role, the interrupt type, the number of the processor, one of
those that the map has places for, and `G_tod`. -/
structure ApssCall where
  adc : AdcChannel → BitVec 16
  recoveryInProgress : BitVec 8
  gpioEpow : Bool
  master : Bool
  fspSupported : Bool
  proc : Fin 4
  tod : BitVec 64

/-! ## Channels -/

variable (apss : Apss)

/-- `amec_value_from_apss_adc` -/
def amecValueFromApssAdc (adc : AdcChannel → BitVec 16) (chan : AdcChannel) : BitVec 32 :=
  let gain := (apss.cal chan).gain
  let offset := (apss.cal chan).offset
  let raw : BitVec 16 := (adc chan &&& 0x0fff) / 2
  let raw : BitVec 16 :=
    if raw ≠ 0 then
      if offset &&& 0x80000000 ≠ 0 then raw - (~~~offset + 1).setWidth 16 else raw + offset.setWidth 16
    else raw
  -- a negative value counts as 0
  let raw : BitVec 16 := if raw &&& 0x8000 ≠ 0 then 0 else raw
  raw.setWidth 32 * gain / 1000

/-- `ROUND_POWER`: from millivolts times milliamperes to watts -/
def roundPower (value : BitVec 64) : BitVec 64 := (value + 500000) / 1000000

/-- `ADC_CONVERTED_VALUE` -/
def adcConvertedValue (values : AdcChannel → BitVec 32) (chan : BitVec 8) : BitVec 32 :=
  if h : chan.toNat < 16 then values ⟨chan.toNat, h⟩ else 0

section
variable (values : AdcChannel → BitVec 32)

/-- The value of the channel in a place of the map. -/
def valueAt (place : AdcPlace) : BitVec 32 := adcConvertedValue values (apss.adcMap place)

/-- A channel is in a place of the map. -/
def isAt (place : AdcPlace) (chan : AdcChannel) : Bool := BitVec.ofNat 8 chan == apss.adcMap place

/-- `l_bulk_voltage` and `l_bulk_voltage_2` -/
def bulkVoltage : BitVec 64 := (valueAt apss values .sense12v).setWidth 64

def bulkVoltage2 : BitVec 64 := (valueAt apss values .senseVolt2).setWidth 64

/-- One of the macros `GPU0_USING_VOLT2` and `GPU1_USING_VOLT2` for one of the processors. -/
def gpuUsingVolt2 (chan : AdcChannel) : Bool :=
  (isAt apss (.gpu 0 0) chan && apss.gpuVoltType (0, 0) == .volt2) || (isAt apss (.gpu 0 1) chan && apss.gpuVoltType (0, 1) == .volt2) ||
    (isAt apss (.gpu 1 0) chan && apss.gpuVoltType (1, 0) == .volt2) || (isAt apss (.gpu 1 1) chan && apss.gpuVoltType (1, 1) == .volt2)

/-- The voltage of a channel. -/
def channelVoltage (chan : AdcChannel) : BitVec 64 :=
  if gpuUsingVolt2 apss chan || isAt apss .totalCurrentVolt2 chan then bulkVoltage2 apss values else bulkVoltage apss values

/-! ## Sums -/

/-- The sum of the channels of the processor and of its other rails, as watts. -/
def procPower (proc : Fin 4) : BitVec 64 :=
  roundPower ((valueAt apss values (.vcsVioVpcie proc) + valueAt apss values (.vdd proc)).setWidth 64 * bulkVoltage apss values)

/-- The currents of the memory of a processor. -/
def memCurrent (proc : Fin 4) : BitVec 32 :=
  valueAt apss values (.memory proc 0) + valueAt apss values (.memory proc 1) + valueAt apss values (.memory proc 2) +
    valueAt apss values (.memory proc 3)

def memPower (current : BitVec 32) : BitVec 64 := roundPower (current.setWidth 64 * bulkVoltage apss values)

/-- `temp32 += voltage * current`: 64 bits go to 32. -/
def addPower (sum : BitVec 32) (voltage : BitVec 64) (current : BitVec 32) : BitVec 32 :=
  (sum.setWidth 64 + voltage * current.setWidth 64).setWidth 32

/-- The voltage of one of the first two GPUs of a processor. -/
def gpuVoltage (proc : Fin 2) (i : Fin 2) : BitVec 64 :=
  if apss.gpuVoltType (proc, i.castSucc) = .volt2 then bulkVoltage2 apss values else bulkVoltage apss values

def gpuPower (proc : Fin 2) : BitVec 32 :=
  let temp := addPower 0 (gpuVoltage apss values proc 0) (valueAt apss values (.gpu proc 0))
  let temp := addPower temp (gpuVoltage apss values proc 1) (valueAt apss values (.gpu proc 1))
  addPower temp (bulkVoltage apss values) (valueAt apss values (.gpu proc 2))

/-- `syspwr_volt1` and `syspwr_volt2` -/
def sysPwrVolt1 : BitVec 32 := addPower 0 (bulkVoltage apss values) (valueAt apss values .totalCurrent12v)

def sysPwrVolt2 : BitVec 32 := addPower 0 (bulkVoltage2 apss values) (valueAt apss values .totalCurrentVolt2)

/-- The sum of the channels that meet a test, each at its voltage. -/
def sumChannels (test : AdcChannel → Bool) (voltage : AdcChannel → BitVec 64) (start : BitVec 32) : BitVec 32 :=
  (List.finRange 16).foldl (fun temp chan => if test chan then addPower temp (voltage chan) (values chan) else temp) start

/-- No voltage, ground or standby current. -/
def isLoad (chan : AdcChannel) : Bool :=
  !isAt apss .sense12v chan && !isAt apss .remoteGnd chan && !isAt apss .current12vStby chan && !isAt apss .senseVolt2 chan

/-- The total system power: as provided, or as the sum of the channels. -/
def sysPower : BitVec 32 :=
  let volt1 := sysPwrVolt1 apss values
  let volt2 := sysPwrVolt2 apss values
  if 0 ≠ volt1 then
    if 0 ≠ volt2 then volt1 + volt2
    else sumChannels values (gpuUsingVolt2 apss) (fun _ => bulkVoltage2 apss values) volt1
  else
    sumChannels values (fun chan => !(decide (0 ≠ volt2) && gpuUsingVolt2 apss chan) && isLoad apss chan) (channelVoltage apss values) 0

end

/-! ## Sensors -/

namespace PowerSensors

variable (p : PowerSensors) (call : ApssCall)

/-- What the master updates: the sensors of all channels but voltages and ground, and the standby current. -/
def updateChannels (values : AdcChannel → BitVec 32) : PowerSensors :=
  { p with
    pwrApssCh := fun chan =>
      if isAt apss .current12vStby chan then p.pwrApssCh chan
      else if !isAt apss .sense12v chan && !isAt apss .senseVolt2 chan && !isAt apss .remoteGnd chan then
        (p.pwrApssCh chan).update call.tod
          ((roundPower ((values chan).setWidth 64 * channelVoltage apss values chan)).setWidth 16)
      else p.pwrApssCh chan
    cur12vStby :=
      if (List.finRange 16).any (isAt apss .current12vStby) then
        p.cur12vStby.update call.tod ((valueAt apss values .current12vStby / 100).setWidth 16)
      else p.cur12vStby }

/-- The processor has a channel; else its power comes from the AVS bus. -/
def hasProcChannel (proc : Fin 4) : Bool :=
  apss.adcMap (.vdd proc) != Cmdh.sysCfgInvalidAdcChan || apss.adcMap (.vcsVioVpcie proc) != Cmdh.sysCfgInvalidAdcChan

/-- `amec_update_apss_sensors`, with FALSE when the GPIO EPOW was asserted. -/
def amecUpdateApssSensors : PowerSensors × Bool :=
  if p.slvInboxReceived && (apss.pwrReadingType == Cmdh.pwrReadingTypeApss && call.recoveryInProgress == 0) then
    if call.gpioEpow then (p, false)
    else
      let values := amecValueFromApssAdc apss call.adc
      let p := { p with lastValidAdcValue := values }
      let p := if call.master then p.updateChannels apss call values else p
      let memory := memCurrent apss values call.proc
      let memory := if call.fspSupported then memory else memory + valueAt apss values .memCache
      ({ p with
        pwrProc :=
          if hasProcChannel apss call.proc then p.pwrProc.update call.tod ((procPower apss values call.proc).setWidth 16)
          else p.pwrProc
        procSnrPwr := fun proc => (procPower apss values proc).setWidth 16
        pwrMem := p.pwrMem.update call.tod ((memPower apss values memory).setWidth 16)
        memSnrPwr := fun proc => (memPower apss values (memCurrent apss values proc)).setWidth 16
        pwrGpu :=
          if h : call.proc.val < 2 then
            p.pwrGpu.update call.tod ((roundPower ((gpuPower apss values ⟨call.proc.val, h⟩).setWidth 64)).setWidth 16)
          else p.pwrGpu
        pwrSys := p.pwrSys.update call.tod ((roundPower ((sysPower apss values).setWidth 64)).setWidth 16)
        slvInboxReceived := false }, true)
  else (p, true)

end PowerSensors

end Occ.Amec.Power
