/-
The activity sensors of a core (`amec_sensors_core.c`): its frequency, utilization, normalized utilization and instructions per
second, the utilization of its threads, and the rolling averages, from the counters that the GPE collects. What is computed and
never read again (`ipc`, `dpc`, `dps`) is left out, as are temperatures, stalls, stop states, droops and the counters of DPS.
-/
import Occ.Gpe0.CoreData
import Occ.Sensor.Sensor
import Occ.Lib.Literals

namespace Occ.Amec.Core

open Gpe0 (CoreData)
open Sensor (SensorState)

attribute [local instance] neZero_four

/-! ## Data -/

/-- `G_mics_per_tick`: on hardware and in a simulation -/
inductive TickRate
  | hw | simics
deriving DecidableEq

def TickRate.micsPerTick : TickRate → Nat
  | hw => 500
  | simics => 20000

/-- `AMEC_DPS_SAMPLING_RATE * AMEC_IPS_AVRG_INTERVAL`, with 16 ticks for all cores -/
def TickRate.interval (t : TickRate) : BitVec 16 := BitVec.ofNat 16 (1000000 / (t.micsPerTick * 16) * 3)

/-- What the functions below use of an `amec_core_t`. -/
structure AmecCore where
  freqa : SensorState
  util : SensorState
  nutil3s : SensorState
  ips4ms : SensorState
  prevRawCycles : BitVec 32
  prevRunCycles : BitVec 32
  prevTod2mhz : BitVec 32
  prevRawThCycles : BitVec 32
  prevRunThCycles : Fin 4 → BitVec 32
  prevCompleted : BitVec 32
  util4msThread : Fin 4 → BitVec 16
  sampleCount : BitVec 16
  avgUtil : BitVec 32
  avgFreq : BitVec 32

/-- A core after the initialization. -/
def AmecCore.init : AmecCore :=
  let sensor := Sensor.sensorInit 0 none
  ⟨sensor, sensor, sensor, sensor, 0, 0, 0, 0, fun _ => 0, 0, fun _ => 0, 0, 0, 0⟩

/-- A call: `CORE_PRESENT`, `CORE_UPDATED`, `CORE_EMPATH_ERROR` and `CORE_OFFLINE`, the data of the core, and `G_tod`. -/
structure CoreCall where
  present : Bool
  updated : Bool
  empathError : Bool
  offline : Bool
  data : CoreData
  tod : BitVec 64

/-- A division of the code that no test precedes; there is no result for 0. -/
def divide (a b : BitVec 32) : Option (BitVec 32) := if b = 0 then none else some (a / b)

/-! ## Averages -/

/-- `sample_count` after one more sample -/
def AmecCore.countSample (c : AmecCore) : BitVec 16 := if c.sampleCount < 0xFFFF then c.sampleCount + 1 else c.sampleCount

/-- An average, first from the accumulator of its sensor and then rolling, with two more decimal places than the sensor. -/
def rollAverage (interval count : BitVec 16) (sensor : SensorState) (avg : BitVec 32) (sample : BitVec 16) :
    Option (BitVec 32) :=
  if count = interval then divide (sensor.accumulator.setWidth 32 * 100) (count.setWidth 32)
  else if interval < count then divide (avg * (interval.setWidth 32 - 1) + sample.setWidth 32 * 100) (interval.setWidth 32)
  else some avg

/-- The normalized utilization: both averages go back to the resolution of the sensors before they are divided. -/
def normalized (fnom : BitVec 16) (avgUtil avgFreq : BitVec 32) : Option (BitVec 32) :=
  (divide (avgUtil / 100 * 100000) (avgFreq / 100)).map fun ratio => ratio * fnom.setWidth 32 / 100000

/-! ## Frequency and utilization -/

/-- `l_core_sleep_winkle` -/
def gated (d : CoreData) : Bool := (d.stopStateHist >>> 32).setWidth 32 &&& 0x80000000 ≠ (0 : BitVec 32)

/-- `(2 * cycles) / ticks`, with 0 for no ticks -/
def cyclesPerTick (cycles ticks : BitVec 32) : BitVec 32 := if 0 = ticks then 0 else 2 * cycles / ticks

/-- Utilization in 0.01 %: non-significant bits are dropped, and 0 stands for no raw cycles. -/
def utilization (run raw : BitVec 32) : BitVec 32 := if 0 = raw >>> 8 then 0 else (run >>> 8) * 10000 / (raw >>> 8)

namespace AmecCore

variable (c : AmecCore) (d : CoreData)

/-- `l_core_freq` and the frequency sensor: a value that is out of range is not stored. -/
def freqSample (tod : BitVec 64) : BitVec 16 × SensorState :=
  let freq := cyclesPerTick (d.rawCycles - c.prevRawCycles) (d.tod2mhz - c.prevTod2mhz)
  if freq < 6000 then
    let coreFreq := if gated d then 0 else freq.setWidth 16
    (coreFreq, c.freqa.update tod coreFreq)
  else (0, c.freqa)

/-- `l_core_util` -/
def utilSample : BitVec 16 :=
  if gated d then 0 else (utilization (d.runCycles - c.prevRunCycles) (d.rawCycles - c.prevRawCycles)).setWidth 16

/-- `util4ms_thread` -/
def threadSample (i : Fin 4) : BitVec 16 :=
  if gated d then 0
  else (utilization ((d.perThread i).runCycles - c.prevRunThCycles i) (d.rawCycles - c.prevRawThCycles)).setWidth 16

/-- `amec_calc_freq_and_util_sensors` -/
def calcFreqAndUtilSensors (interval fnom : BitVec 16) (tod : BitVec 64) : Option AmecCore := do
  let freq := c.freqSample d tod
  let coreUtil := c.utilSample d
  let util := c.util.update tod coreUtil
  let count := c.countSample
  let avgUtil ← rollAverage interval count util c.avgUtil coreUtil
  let avgFreq ← rollAverage interval count freq.2 c.avgFreq freq.1
  let nutil ←
    if avgFreq ≠ 0 then
      (normalized fnom avgUtil avgFreq).map fun n => c.nutil3s.update tod (if gated d then 0 else n.setWidth 16)
    else some c.nutil3s
  some { c with freqa := freq.2, util, nutil3s := nutil, util4msThread := c.threadSample d, sampleCount := count, avgUtil, avgFreq }

/-- The completed instructions of all threads. -/
def completed (d : CoreData) : BitVec 32 :=
  (d.perThread 0).completion + (d.perThread 1).completion + (d.perThread 2).completion + (d.perThread 3).completion

/-- `amec_calc_ips_sensors` -/
def calcIpsSensors (tod : BitVec 64) : AmecCore :=
  let ticks := d.tod2mhz - c.prevTod2mhz
  let ips : BitVec 32 := if 0 = ticks then 0 else ((completed d - c.prevCompleted) <<< 1) / ticks
  { c with ips4ms := c.ips4ms.update tod (if gated d then 0 else ips.setWidth 16) }

/-- The counters for the next call: those of the core only if there was no error. -/
def savePrevious (empathError : Bool) : AmecCore :=
  { c with
    prevRawThCycles := d.rawCycles
    prevRawCycles := if empathError then c.prevRawCycles else d.rawCycles
    prevRunCycles := if empathError then c.prevRunCycles else d.runCycles
    prevTod2mhz := if empathError then c.prevTod2mhz else d.tod2mhz
    prevCompleted := completed d
    prevRunThCycles := fun i => (d.perThread i).runCycles }

/-- A core that is offline is idle at no frequency. -/
def updateOffline (interval : BitVec 16) (tod : BitVec 64) : Option AmecCore := do
  let util := c.util.update tod 0
  let freqa := c.freqa.update tod 0
  let count := c.countSample
  let avgUtil ← rollAverage interval count util c.avgUtil 0
  let avgFreq ← rollAverage interval count freqa c.avgFreq 0
  some { c with
    freqa, util, avgUtil, avgFreq
    nutil3s := c.nutil3s.update tod 0
    ips4ms := c.ips4ms.update tod 0
    util4msThread := fun _ => 0
    sampleCount := count }

/-- `amec_update_proc_core_sensors` -/
def updateProcCoreSensors (interval fnom : BitVec 16) (e : CoreCall) : Option AmecCore :=
  if e.present && e.updated then
    if !e.empathError && !e.offline then do
      let c ← c.calcFreqAndUtilSensors e.data interval fnom e.tod
      some ((c.calcIpsSensors e.data e.tod).savePrevious e.data e.empathError)
    else some (c.savePrevious e.data e.empathError)
  else if e.offline then c.updateOffline interval e.tod
  else some c

end AmecCore

end Occ.Amec.Core
