/-
The AVS bus (`avsbus.c`) and the task that reads it every tick (`amec_update_avsbus_sensors` in `amec_sensors_power.c`): the check code of
the commands, the reads of the voltages, the currents, the temperature and the status, and what becomes of them. The traces, the error
histories, the registers that set the bus up and the polls for an end of an operation, whose result nothing uses, are left out, and so are
the sensors that are calculated from the readings or read from the PGPE.
-/
import Occ.Cmdh.DataFormats

namespace Occ.Pss

open Cmdh (Avsbus AvsbusVoltage AvsbusConfig dataStoreAvsbusConfig)

/-! ## Check code -/

/-- `AVS_CRC_MASK` -/
def avsCrcMask : BitVec 32 := 0x00000007
/-- `AVS_CRC_DATA_MASK` -/
def avsCrcDataMask : BitVec 32 := 0xFFFFFFF8

/-- The loop of `avs_crc_calculate` with `o_crc_value`, `l_polynomial` and `l_msb`: what it ends with after at most so many passes. -/
def avsCrcLoop : Nat → BitVec 32 → BitVec 32 → BitVec 32 → Option (BitVec 32)
  | 0, crc, _, _ => if crc &&& avsCrcDataMask ≠ 0 then none else some crc
  | passes + 1, crc, polynomial, msb =>
    if crc &&& avsCrcDataMask ≠ 0 then
      avsCrcLoop passes (if crc &&& msb ≠ 0 then crc ^^^ polynomial else crc) (polynomial >>> 1) (msb >>> 1)
    else some crc

/-- `avs_crc_calculate`, whose loop ends after 29 passes at the latest. -/
def avsCrcCalculate (cmd : BitVec 32) : BitVec 32 :=
  (avsCrcLoop 29 (cmd &&& avsCrcDataMask) 0xB0000000 0x80000000).getD 0

/-! ## Data -/

/-- `avsbus_type_e` -/
inductive Rail
  | vdd | vdn
deriving DecidableEq, Repr

/-- `avsbus_cmdtype_e`, of which the status has functions of its own. -/
inductive Quantity
  | voltage | current | temperature
deriving DecidableEq, Repr

def Rail.code : Rail → BitVec 32
  | vdd => 0x00
  | vdn => 0x01

/-- CmdDataType -/
def Quantity.code : Quantity → BitVec 32
  | voltage => 0x00
  | current => 0x02
  | temperature => 0x03

/-- `MAX_READ_ATTEMPTS` -/
def maxReadAttempts : BitVec 32 := 3
/-- `AVSBUS_STATUS_READ_ERROR` -/
def avsbusStatusReadError : BitVec 16 := 0xFFFF
/-- `AVSBUS_STATUS_OVER_CURRENT_MASK` -/
def avsbusStatusOverCurrentMask : BitVec 32 := 0x4000
/-- `AVSBUS_STATUS_ONGOING` -/
def avsbusStatusOngoing : BitVec 32 := 0x80000000
/-- `AVSBUS_STATUS_ERRORS` -/
def avsbusStatusErrors : BitVec 32 := 0x05000000
/-- `INT_FLAG_ENABLE_VDD_CURRENT_READ` -/
def intFlagEnableVddCurrentRead : BitVec 32 := 0x00000008

/-- What `OCB_O2SSTxB` and `OCB_O2SRDxB` of a bus read. -/
structure BusWords where
  status : BitVec 32
  value : BitVec 32
deriving DecidableEq, Repr

/-- The reason codes of a read that failed: `AVSBUS_ERROR`, `AVSBUS_TIMEOUT` and `AVSBUS_CRC_ERROR`. -/
inductive ReadFailure
  | error | timeout | crcError
deriving DecidableEq, Repr

/-- The extended reason codes `ERC_AVSBUS_…_FAILURE`. -/
inductive ReadErc
  | vddVoltage | vddCurrent | vddTemperature | vdnVoltage | vdnCurrent
deriving DecidableEq, Repr

/-- The log of `avsbus_read`. -/
structure AvsbusErrl where
  reason : Option ReadFailure
  erc : ReadErc
  userdata1 : BitVec 32
  userdata2 : BitVec 32
deriving DecidableEq, Repr

/-- A word written to `OCB_O2SWDxB` of a bus, and the rail it is written for. -/
structure BusWrite where
  rail : Rail
  bus : BitVec 8
  word : BitVec 32
deriving DecidableEq, Repr

/-- `L_avsbus_state` -/
inductive AvsbusState
  | disabled | initiateRead | processTemperature | processVoltage | processCurrent | processStatus
deriving DecidableEq, Repr

/-- The sensors that a reading goes to. -/
inductive AvsSensor
  | tempvdd | voltvdd | voltvdn | curvdd | curvdn
deriving DecidableEq, Repr

/-- The configuration, the statics of the functions below, the reset state, and with the last one first the committed logs, the words
written to the buses and the updates of the sensors. -/
structure Avs where
  config : Avsbus
  wofDisabled : BitVec 32
  errorCount : Rail → Quantity → BitVec 32
  statusErrorCount : Rail → BitVec 32
  checkVddCurrent10mAForRollover : BitVec 32
  ocFound : Rail → Bool
  avsbusState : AvsbusState
  safeStateRequested : Bool
  errls : List AvsbusErrl
  written : List BusWrite
  updates : List (AvsSensor × BitVec 16)

/-- Nothing is configured, read or written yet. -/
def Avs.init (wofDisabled : BitVec 32) : Avs where
  config := ⟨⟨false, 0, 0⟩, ⟨false, 0, 0⟩, 0, 0xFFFF, 0xFFFF⟩
  wofDisabled := wofDisabled
  errorCount _ _ := 0
  statusErrorCount _ := 0
  checkVddCurrent10mAForRollover := 0
  ocFound _ := false
  avsbusState := .initiateRead
  safeStateRequested := false
  errls := []
  written := []
  updates := []

/-- `avsbusData_t` of a rail, with `G_avsbus_vdd_monitoring` or `G_avsbus_vdn_monitoring`. -/
def Avs.data (s : Avs) : Rail → AvsbusVoltage
  | .vdd => s.config.vdd
  | .vdn => s.config.vdn

/-- Both rails are no longer monitored. -/
def Avs.stopMonitoring (s : Avs) : Avs := { s with config.vdd.monitoring := false, config.vdn.monitoring := false }

def Avs.sensorUpdate (s : Avs) (sensor : AvsSensor) (sample : BitVec 16) : Avs := { s with updates := (sensor, sample) :: s.updates }

/-! ## Commands -/

/-- A word is written to the bus for a rail. -/
def Avs.out (s : Avs) (rail : Rail) (bus : BitVec 8) (word : BitVec 32) : Avs := { s with written := ⟨rail, bus, word⟩ :: s.written }

def withCrc (value : BitVec 32) : BitVec 32 := value ||| avsCrcCalculate value

def readCommand (rail : BitVec 8) (cmdtype : Quantity) : BitVec 32 :=
  withCrc (0x7007FFF8 ||| cmdtype.code <<< 23 ||| rail.setWidth 32 <<< 19)

def readStatusCommand : BitVec 32 := withCrc 0x777FFFF8

def clearCommand (statusMask : BitVec 32) : BitVec 32 := withCrc (0x47780000 ||| statusMask <<< 3)

def idleFrame : BitVec 32 := 0xFFFFFFFF

/-- `clear_status_errors`, for a rail -/
def clearStatusErrors (rail : Rail) (bus : BitVec 8) (statusMask : BitVec 32) (s : Avs) : Avs := s.out rail bus (clearCommand statusMask)

/-- `avsbus_resync`, for a rail -/
def avsbusResync (rail : Rail) (bus : BitVec 8) (s : Avs) : Avs := s.out rail bus idleFrame

/-- The commands of `avsbus_init` on one bus, which is set up when a monitored rail is on it. -/
def avsbusInitBus (bus : BitVec 8) (s : Avs) : Avs :=
  let onBus (rail : Rail) : Bool := (s.data rail).monitoring && ((s.data rail).bus == 0) == (bus == 0)
  if onBus .vdd then clearStatusErrors .vdd bus avsbusStatusOverCurrentMask (avsbusResync .vdd bus s)
  else if onBus .vdn then clearStatusErrors .vdn bus avsbusStatusOverCurrentMask (avsbusResync .vdn bus s)
  else s

/-- `avsbus_init` -/
def avsbusInit (s : Avs) : Avs := avsbusInitBus 1 (avsbusInitBus 0 s)

/-- `avsbus_read_start` -/
def avsbusReadStart (type : Rail) (cmdtype : Quantity) (s : Avs) : Avs :=
  if s.safeStateRequested then s
  else s.out type (s.data type).bus (readCommand (s.data type).rail cmdtype)

/-- `initiate_avsbus_reads` -/
def initiateAvsbusReads (cmdtype : Quantity) (s : Avs) : Avs :=
  let s := if s.config.vdd.monitoring then avsbusReadStart .vdd cmdtype s else s
  if s.config.vdn.monitoring then avsbusReadStart .vdn cmdtype s else s

/-- `initiate_avsbus_read_status` -/
def initiateAvsbusReadStatus (s : Avs) : Avs :=
  if s.safeStateRequested then s
  else
    let s := if s.config.vdd.monitoring ∧ s.config.vdd.bus ≠ 0xFF then s.out .vdd s.config.vdd.bus readStatusCommand else s
    if s.config.vdn.monitoring ∧ s.config.vdn.bus ≠ 0xFF then s.out .vdn s.config.vdn.bus readStatusCommand else s

/-! ## Responses -/

/-- What `avsbus_read` and `avsbus_read_status` make of the words: the data, or why there is none. -/
def checkResponse (w : BusWords) : Except ReadFailure (BitVec 16) :=
  if w.status &&& avsbusStatusErrors ≠ 0 then .error .error
  else if w.status &&& avsbusStatusOngoing ≠ 0 then .error .timeout
  else if avsCrcCalculate w.value ≠ w.value &&& avsCrcMask then .error .crcError
  else if w.value &&& 0xC0000000 = 0 then .ok ((w.value >>> 8).setWidth 16)
  else .error .error

/-- `exrc` of `avsbus_read` -/
def readErc : Rail → Quantity → ReadErc
  | .vdd, .current => .vddCurrent
  | .vdd, .voltage => .vddVoltage
  | .vdd, .temperature => .vddTemperature
  | .vdn, .current => .vdnCurrent
  | .vdn, .voltage => .vdnVoltage
  | .vdn, .temperature => .vddVoltage

def Avs.countError (s : Avs) (type : Rail) (cmdtype : Quantity) (count : BitVec 32) : Avs :=
  { s with errorCount := Function.update s.errorCount type (Function.update (s.errorCount type) cmdtype count) }

/-- `avsbus_read` of the bus with these words -/
def avsbusRead (type : Rail) (cmdtype : Quantity) (w : BusWords) (s : Avs) : Avs × BitVec 16 :=
  if s.safeStateRequested then (s, 0)
  else
    match checkResponse w with
    | .ok reading =>
      let s := if cmdtype = .temperature then s.sensorUpdate .tempvdd (reading / 10) else s
      (s.countError type cmdtype 0, reading)
    | .error failure =>
      let count := s.errorCount type cmdtype + 1
      let rc := if count = 1 ∨ count = maxReadAttempts then some failure else none
      let s := s.countError type cmdtype count
      if count = maxReadAttempts then
        let userdata1 := type.code <<< 16 ||| (s.data type).bus.setWidth 32 <<< 8 ||| (s.data type).rail.setWidth 32
        ({ s.stopMonitoring with
          errls := ⟨rc, readErc type cmdtype, userdata1, w.status⟩ :: s.errls
          safeStateRequested := true }, 0)
      else (avsbusResync type (s.data type).bus s, 0)

/-- `avsbus_read_status` of the bus with these words -/
def avsbusReadStatus (type : Rail) (w : BusWords) (s : Avs) : Avs × BitVec 16 :=
  if s.safeStateRequested then (s, 0)
  else
    match checkResponse w with
    | .ok reading => ({ s with statusErrorCount := Function.update s.statusErrorCount type 0 }, reading)
    | .error _ =>
      let s := { s with statusErrorCount := Function.update s.statusErrorCount type (s.statusErrorCount type + 1) }
      (avsbusResync type (s.data type).bus s, avsbusStatusReadError)

/-- What `process_avsbus_status` does with a good Vdd status. -/
def processVddStatus (status : BitVec 16) (s : Avs) : Avs :=
  let oc : Bool := status.setWidth 32 &&& avsbusStatusOverCurrentMask ≠ 0
  let s := { s with ocFound := Function.update s.ocFound .vdd oc }
  let check := s.checkVddCurrent10mAForRollover
  if check ≠ 0 then
    let current :=
      if oc then
        let rolled := check + s.config.vddCurrentRollover10mA
        -- a reading over the maximum cannot have rolled over
        if s.config.vddMaxCurrent10mA < rolled then check else rolled
      else check
    { s.sensorUpdate .curvdd (current.setWidth 16) with checkVddCurrent10mAForRollover := 0 }
  else s

/-- What `process_avsbus_status` does with a good Vdn status. -/
def processVdnStatus (status : BitVec 16) (s : Avs) : Avs :=
  let oc : Bool := status.setWidth 32 &&& avsbusStatusOverCurrentMask ≠ 0
  let s := { s with ocFound := Function.update s.ocFound .vdn oc }
  if oc then clearStatusErrors .vdn s.config.vdn.bus avsbusStatusOverCurrentMask s else s

/-- `process_avsbus_status` -/
def processAvsbusStatus (words : Rail → BusWords) (s : Avs) : Avs :=
  let s :=
    if s.config.vdd.monitoring then
      let (s, status) := avsbusReadStatus .vdd (words .vdd) s
      if status ≠ avsbusStatusReadError then processVddStatus status s else s
    else s
  if s.config.vdn.monitoring then
    let (s, status) := avsbusReadStatus .vdn (words .vdn) s
    if status ≠ avsbusStatusReadError then processVdnStatus status s else s
  else s

/-- What `process_avsbus_current` does with a Vdd current. -/
def processVddCurrent (current : BitVec 16) (s : Avs) : Avs :=
  if current ≠ 0 then
    if s.config.vddCurrentRollover10mA ≠ 0xFFFF then { s with checkVddCurrent10mAForRollover := current.setWidth 32 }
    else { s with checkVddCurrent10mAForRollover := 0 }.sensorUpdate .curvdd current
  else s

/-- `process_avsbus_current` -/
def processAvsbusCurrent (words : Rail → BusWords) (s : Avs) : Avs :=
  let s :=
    if s.config.vdd.monitoring then
      let (s, current) := avsbusRead .vdd .current (words .vdd) s
      processVddCurrent current s
    else s
  if s.config.vdn.monitoring then
    let (s, current) := avsbusRead .vdn .current (words .vdn) s
    if current ≠ 0 then s.sensorUpdate .curvdn current else s
  else s

/-- `process_avsbus_voltage` -/
def processAvsbusVoltage (words : Rail → BusWords) (s : Avs) : Avs :=
  let s :=
    if s.config.vdd.monitoring then
      let (s, voltage) := avsbusRead .vdd .voltage (words .vdd) s
      if voltage ≠ 0 then s.sensorUpdate .voltvdd (voltage * 10) else s
    else s
  if s.config.vdn.monitoring then
    let (s, voltage) := avsbusRead .vdn .voltage (words .vdn) s
    if voltage ≠ 0 then s.sensorUpdate .voltvdn (voltage * 10) else s
  else s

/-! ## Task -/

/-- What a tick reads: the AMEC slave state, `G_internal_flags` and the words of the bus of each rail. -/
structure AvsTick where
  slvState : BitVec 8
  internalFlags : BitVec 32
  words : Rail → BusWords

/-- The Vdd over-current warning is cleared when it tells rollovers. -/
def clearForRollover (s : Avs) : Avs :=
  if s.config.vddCurrentRollover10mA ≠ 0xFFFF then clearStatusErrors .vdd s.config.vdd.bus avsbusStatusOverCurrentMask s else s

def Avs.goto (s : Avs) (avsbusState : AvsbusState) : Avs := { s with avsbusState := avsbusState }

def startTemperature (s : Avs) : Avs := (avsbusReadStart .vdd .temperature s).goto .processTemperature

def startVoltages (s : Avs) : Avs := (initiateAvsbusReads .voltage s).goto .processVoltage

def startCurrents (s : Avs) : Avs := (initiateAvsbusReads .current (clearForRollover s)).goto .processCurrent

def startStatus (s : Avs) : Avs := (initiateAvsbusReadStatus s).goto .processStatus

/-- `amec_update_avsbus_sensors`, where the PGPE shares the voltages and currents or not -/
def amecUpdateAvsbusSensors (shared : Bool) (t : AvsTick) (s : Avs) : Avs :=
  let s := if s.safeStateRequested then s.stopMonitoring.goto .disabled else s
  match s.avsbusState with
  | .initiateRead =>
    if ¬shared then
      if t.slvState = 0 ∨ t.slvState = 4 then startTemperature s
      else if t.slvState = 1 ∨ t.slvState = 5 then startVoltages s
      else if t.slvState = 2 ∨ t.slvState = 3 ∨ t.slvState = 6 ∨ t.slvState = 7 then s
      else startTemperature s
    else if t.internalFlags &&& intFlagEnableVddCurrentRead ≠ 0 then startCurrents s
    else startTemperature s
  | .processTemperature =>
    let s := (avsbusRead .vdd .temperature (t.words .vdd) s).1
    if ¬shared then startVoltages s
    else if t.internalFlags &&& intFlagEnableVddCurrentRead ≠ 0 then startCurrents s
    else startStatus s
  | .processVoltage => startCurrents (processAvsbusVoltage t.words s)
  | .processCurrent => startStatus (processAvsbusCurrent t.words s)
  | .processStatus => startTemperature (processAvsbusStatus t.words s)
  | .disabled => s

/-- `data_store_avsbus_config`, with the set-up of the buses when the packet is accepted -/
def storeAvsbusConfig (shared : Bool) (cmd : AvsbusConfig) (s : Avs) : Avs :=
  let ((config, wofDisabled), err) := dataStoreAvsbusConfig shared s.config s.wofDisabled cmd
  let s := { s with config := config, wofDisabled := wofDisabled }
  match err with
  | none => avsbusInit s
  | some _ => s

end Occ.Pss
