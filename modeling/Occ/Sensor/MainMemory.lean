/-
Main memory sensors (`sensor_main_memory.c`): the sensor data header, the names block and the two
readings buffers that the OCC keeps in main memory with the block copy engine (BCE). A copy runs line by
line beside the code, and reads the BCE buffer as it is then. Addresses and sizes are natural numbers, as
the blocks of all chips end below 2 ^ 32 and an offset in the BCE buffer never passes its size.
-/
import Occ.Lib.Staged
import Mathlib

namespace Occ.Sensor

open Occ Staged

/-! ## Data -/

/-- `MM_SENSOR_NAMES_STRUCT_VERSION_VALUES`. -/
inductive StructVersion
  | full | counter
deriving DecidableEq, Repr

inductive OccRole
  | master | slave
deriving DecidableEq, Repr

/-- `main_mem_sensor_t`. -/
structure MmSensor where
  gsid : BitVec 16
  smfMode : Bool
  masterOnly : Bool
  valid : Bool
  enabled : Bool
  structVer : StructVersion
deriving DecidableEq, Repr

/-- `sensor_info_t`. -/
structure SensorInfo where
  name : Vector Byte 16
  units : Vector Byte 4
  type : BitVec 16
  location : BitVec 16
  freq : BitVec 32
  scalefactor : BitVec 32

/-- The fields of a `sensor_t` that are copied to main memory. -/
structure SensorT where
  timestamp : BitVec 64
  sample : BitVec 16
  sampleMin : BitVec 16
  sampleMax : BitVec 16
  csmSampleMin : BitVec 16
  csmSampleMax : BitVec 16
  profilerSampleMin : BitVec 16
  profilerSampleMax : BitVec 16
  jobSSampleMin : BitVec 16
  jobSSampleMax : BitVec 16
  accumulator : BitVec 64
  updateTag : BitVec 32

/-- What the functions read and do not change: `G_pbax_id.chip_id`, `G_sensor_info`,
`G_apss_ch_to_function`, whether the memory is of type Cumulus, and the bounds of three ranges of global
sensor ids. -/
structure Platform where
  chipId : Nat
  sensorInfo : BitVec 16 → SensorInfo
  apssChToFunction : Nat → Byte
  cumulus : Bool
  pwrapssch0 : BitVec 16
  pwrapssch15 : BitVec 16
  mrdm0 : BitVec 16
  mrdm11 : BitVec 16
  mwrm0 : BitVec 16
  mwrm11 : BitVec 16

/-! ## Layout -/

/-- `SENSOR_DATA_COMMON_ADDRESS`. -/
def sensorDataCommonAddress : Nat := 0xA0580000

def dataBlockSize : Nat := 0x25800

def namesOffset : Nat := 0x400
def namesSize : Nat := 0xC800
def pingOffset : Nat := 0xDC00
def pongOffset : Nat := 0x18C00
def readingsSize : Nat := 0xA000

/-- `sizeof` of the header block, of a names entry, of a readings buffer header, and of the two readings. -/
def headerBlockSize : Nat := 1024
def namesEntrySize : Nat := 48
def readingsHeaderSize : Nat := 8

/-- `MM_SENSOR_READINGS_STRUCT_SIZE`. -/
def readingsStructSize : StructVersion → Nat
  | .full => 48
  | .counter => 24

def bceBufSize : Nat := 4096
def minWriteSize : Nat := 128

/-- `MM_SENSORS_ALIGN_128_UP`. -/
def align128Up (n : Nat) : Nat := if n % 128 = 0 then n else n + (128 - n % 128)

/-- `MM_SENSORS_ALIGN_128_DOWN`. -/
def align128Down (n : Nat) : Nat := if n % 128 = 0 then n else n - n % 128

namespace Platform

variable (p : Platform)

/-- `MM_SENSOR_DATA_BLOCK_ADDRESS`, which is also the address of the header block. -/
def dataBlock : Nat := sensorDataCommonAddress + p.chipId * dataBlockSize

def names : Nat := p.dataBlock + namesOffset
def ping : Nat := p.dataBlock + pingOffset
def pong : Nat := p.dataBlock + pongOffset

end Platform

/-! ## Bytes -/

/-- The bytes of a number, the most significant first. -/
def be (n : Nat) (v : BitVec (8 * n)) : List Byte :=
  (List.range n).map fun i => v.extractLsb' (8 * (n - 1 - i)) 8

def StructVersion.byte : StructVersion → Byte
  | .full => 1
  | .counter => 2

/-- `mm_sensors_init_data_header`. -/
def initDataHeader (sensors : List MmSensor) : List Byte :=
  [0, 1] ++ be 2 (BitVec.ofNat 16 (sensors.countP (·.valid))) ++ [1] ++ List.replicate 3 0 ++
    be 4 (BitVec.ofNat 32 namesOffset) ++ [1, BitVec.ofNat 8 namesEntrySize] ++ List.replicate 2 0 ++
    be 4 (BitVec.ofNat 32 pingOffset) ++ be 4 (BitVec.ofNat 32 pongOffset) ++ List.replicate 1000 0

/-- `mm_sensors_init_names_entry`. -/
def initNamesEntry (p : Platform) (s : MmSensor) (readingsOffset : Nat) : List Byte :=
  let info1 : Byte :=
    if p.pwrapssch0 ≤ s.gsid ∧ s.gsid ≤ p.pwrapssch15 then
      p.apssChToFunction ((s.gsid - p.pwrapssch0).toNat % 2 ^ 8)
    else 0
  let info := p.sensorInfo s.gsid
  let scaleFactor : BitVec 32 :=
    if p.cumulus = false ∧ (p.mrdm0 ≤ s.gsid ∧ s.gsid ≤ p.mrdm11 ∨ p.mwrm0 ≤ s.gsid ∧ s.gsid ≤ p.mwrm11) then
      -- AMEFP(64, -5)
      0x40FB#32
    else info.scalefactor
  info.name.toList ++ info.units.toList ++ be 2 s.gsid ++ be 4 info.freq ++ be 4 scaleFactor ++
    be 2 info.type ++ be 2 info.location ++ [s.structVer.byte] ++ be 4 (BitVec.ofNat 32 readingsOffset) ++
    [info1] ++ List.replicate 8 0

/-- `mm_sensors_init_readings_full` and `mm_sensors_init_readings_counter`. -/
def initReadings (s : MmSensor) (r : SensorT) : List Byte :=
  match s.structVer with
  | .full =>
    be 2 s.gsid ++ be 8 r.timestamp ++ be 2 r.sample ++ be 2 r.sampleMin ++ be 2 r.sampleMax ++
      be 2 r.csmSampleMin ++ be 2 r.csmSampleMax ++ be 2 r.profilerSampleMin ++ be 2 r.profilerSampleMax ++
      be 2 r.jobSSampleMin ++ be 2 r.jobSSampleMax ++ be 8 r.accumulator ++ be 4 r.updateTag ++
      List.replicate 8 0
  | .counter =>
    be 2 s.gsid ++ be 8 r.timestamp ++ be 8 r.accumulator ++ [if 0 < r.sample then 1 else 0] ++
      List.replicate 5 0

/-! ## State -/

/-- `MM_SENSORS_STATE`. -/
inductive MmState
  | writeDataHeader
  | writeSensorNames
  | validateDataHeader
  | writeSensorReadings
  | validateSensorReadings
deriving DecidableEq, Repr

/-- A block copy: its main memory address, its size, and how much of it the engine has copied. -/
structure BceRequest where
  addr : Nat
  count : Nat
  copied : Nat
deriving DecidableEq, Repr

/-- The readings taken in a cycle, by the sensor's index, and whether it has passed all sensors. -/
structure Cycle where
  taken : List Item
  complete : Bool

structure Mm where
  sensors : List MmSensor
  -- `L_initialized_internals`
  internals : Bool
  initialized : Bool
  state : MmState
  readingsBufAddr : Nat
  bceBuffer : Memory
  scheduled : Bool
  /-- the request that the engine has not finished -/
  request : Option BceRequest
  saveBuffer : Memory
  lastWriteBuf : Memory
  lastWriteBufAddr : Nat
  -- the static variables of `mm_sensors_write_sensor_names`
  namesIndex : Nat
  entryOffset : Nat
  namesReadingsOffset : Nat
  -- the static variables of `mm_sensors_write_sensor_readings`
  readingsIndex : Nat
  readingsOffset : Nat
  mem : Memory
  -- history: the addresses and sizes given to `mm_sensors_bce_copy`, the cycle last begun in each
  -- readings buffer, the cycle whose header was last written as valid, and the same for the data header
  copies : List (Nat × Nat)
  cycle : Nat → Cycle
  validated : Nat → Option Cycle
  namesValidated : Bool

namespace Mm

variable (p : Platform) (k : Mm)

/-! ## Block copies -/

/-- `mm_sensors_is_bce_req_idle`. -/
def isBceReqIdle : Mm × Bool :=
  if !k.scheduled then (k, true)
  else if k.request = none then ({ k with scheduled := false }, true)
  else (k, false)

/-- `mm_sensors_bce_copy`; `ok` says whether the request can be created and scheduled. -/
def bceCopy (addr count : Nat) (ok : Bool) : Mm × Bool :=
  let k := { k with copies := (addr, count) :: k.copies }
  if addr % 128 ≠ 0 ∨ count % 128 ≠ 0 ∨ bceBufSize < count then (k, false)
  else if k.scheduled then (k, false)
  else if count = 0 then (k, true)
  else if ok then ({ k with request := some ⟨addr, count, 0⟩, scheduled := true }, true)
  else (k, false)

/-- `mm_sensors_save_last_write`. -/
def saveLastWrite (addr count : Nat) : Mm :=
  if minWriteSize ≤ count then
    { k with
      lastWriteBuf := fun i => k.bceBuffer (count - minWriteSize + i)
      lastWriteBufAddr := addr + (count - minWriteSize) }
  else k

/-- The kept line at the start of an empty buffer, when it is the line of the address. -/
def loadLastWrite (addr : Nat) : Memory :=
  if k.lastWriteBufAddr = addr then transfer zeros k.lastWriteBuf 0 0 minWriteSize else zeros

/-! ## Static data -/

/-- `mm_sensors_write_data_header`. -/
def writeDataHeader (ok : Bool) : Mm :=
  let buffer := Staged.write zeros 0 (initDataHeader k.sensors)
  let k := { k with bceBuffer := buffer, saveBuffer := transfer k.saveBuffer buffer 0 0 minWriteSize }
  let copy := k.bceCopy p.dataBlock (align128Up headerBlockSize) ok
  if copy.2 then { copy.1 with state := .writeSensorNames } else copy.1

/-- `mm_sensors_validate_data_header`. -/
def validateDataHeader (ok : Bool) : Mm :=
  let buffer := transfer zeros k.saveBuffer 0 0 minWriteSize
  let k := { k with bceBuffer := Staged.write buffer 0 [1] }
  let copy := k.bceCopy p.dataBlock minWriteSize ok
  if copy.2 then { copy.1 with initialized := true, state := .writeSensorReadings } else copy.1

/-- The local variables of `mm_sensors_write_sensor_names`, and the buffer. -/
structure NamesCursor where
  index : Nat
  entryOffset : Nat
  readingsOffset : Nat
  bufOffset : Nat
  buffer : Memory

/-- The loop of `mm_sensors_write_sensor_names`. -/
def namesLoop : List MmSensor → NamesCursor → NamesCursor
  | [], c => c
  | s :: sensors, c =>
    if bceBufSize < c.bufOffset + namesEntrySize then c
    else if !s.valid then namesLoop sensors { c with index := c.index + 1 }
    else namesLoop sensors
      { index := c.index + 1
        entryOffset := c.entryOffset + namesEntrySize
        readingsOffset := c.readingsOffset + readingsStructSize s.structVer
        bufOffset := c.bufOffset + namesEntrySize
        buffer := Staged.write c.buffer c.bufOffset (initNamesEntry p s c.readingsOffset) }

/-- `mm_sensors_write_sensor_names` after its copy of `count` bytes was scheduled. -/
def namesCopied (c : NamesCursor) (writeAddr count : Nat) : Mm :=
  let k := { k with namesIndex := c.index, entryOffset := c.entryOffset, namesReadingsOffset := c.readingsOffset }
  let k := k.saveLastWrite writeAddr count
  if k.sensors.length ≤ c.index then { k with state := .validateDataHeader } else k

/-- `mm_sensors_write_sensor_names`. -/
def writeSensorNames (ok : Bool) : Mm :=
  let entryAddr := p.names + k.entryOffset
  let writeAddr := align128Down entryAddr
  let c := namesLoop p (k.sensors.drop k.namesIndex)
    ⟨k.namesIndex, k.entryOffset, k.namesReadingsOffset, entryAddr - writeAddr, k.loadLastWrite writeAddr⟩
  let count := align128Up c.bufOffset
  let copy := { k with bceBuffer := c.buffer }.bceCopy writeAddr count ok
  if copy.2 then copy.1.namesCopied c writeAddr count else copy.1

/-! ## Readings -/

/-- The local variables of `mm_sensors_write_sensor_readings`, the buffer, and the readings taken. -/
structure ReadingsCursor where
  index : Nat
  readingsOffset : Nat
  writeAddr : Nat
  byteCount : Nat
  buffer : Memory
  taken : List Item

/-- `mm_sensors_skip_readings`. -/
def skipReadings (bufAddr : Nat) (s : MmSensor) (c : ReadingsCursor) : ReadingsCursor :=
  if !s.valid then c
  else
    let c := { c with readingsOffset := c.readingsOffset + readingsStructSize s.structVer }
    if c.byteCount = 0 then
      let newAddr := align128Down (bufAddr + c.readingsOffset)
      if newAddr ≠ c.writeAddr then
        { c with writeAddr := newAddr, buffer := transfer c.buffer zeros 0 0 minWriteSize }
      else c
    else c

/-- `mm_sensors_store_readings`. -/
def storeReadings (s : MmSensor) (r : SensorT) (bufOffset : Nat) (c : ReadingsCursor) : ReadingsCursor :=
  let bytes := initReadings s r
  { c with
    buffer := Staged.write c.buffer bufOffset bytes
    readingsOffset := c.readingsOffset + bytes.length
    byteCount := bufOffset + bytes.length
    taken := c.taken ++ [(c.index, bytes)] }

/-- The loop of `mm_sensors_write_sensor_readings`. -/
def readingsLoop (bufAddr : Nat) (list : BitVec 16 → SensorT) : List MmSensor → ReadingsCursor → ReadingsCursor
  | [], c => c
  | s :: sensors, c =>
    let bufOffset := bufAddr + c.readingsOffset - c.writeAddr
    if bceBufSize < bufOffset + readingsStructSize s.structVer then c
    else if !s.valid || !s.enabled then
      let c := skipReadings bufAddr s c
      readingsLoop bufAddr list sensors { c with index := c.index + 1 }
    else
      let c := storeReadings s (list s.gsid) bufOffset c
      readingsLoop bufAddr list sensors { c with index := c.index + 1 }

/-- Where `mm_sensors_write_sensor_readings` begins: at the header of the buffer, or where it was. -/
def readingsStart : ReadingsCursor :=
  if k.readingsIndex = 0 then
    { index := 0
      readingsOffset := k.readingsOffset
      writeAddr := k.readingsBufAddr
      byteCount := readingsHeaderSize
      buffer := Staged.write zeros 0 (List.replicate readingsHeaderSize 0)
      taken := [] }
  else
    let writeAddr := align128Down (k.readingsBufAddr + k.readingsOffset)
    { index := k.readingsIndex
      readingsOffset := k.readingsOffset
      writeAddr := writeAddr
      byteCount := 0
      buffer := k.loadLastWrite writeAddr
      taken := (k.cycle k.readingsBufAddr).taken }

/-- `mm_sensors_write_sensor_readings` after its copy of `count` bytes was scheduled. -/
def readingsCopied (c : ReadingsCursor) (count : Nat) : Mm :=
  let complete : Bool := k.sensors.length ≤ c.index
  let k := { k with
    readingsIndex := c.index
    readingsOffset := c.readingsOffset
    cycle := Function.update k.cycle k.readingsBufAddr ⟨c.taken, complete⟩ }
  let k := k.saveLastWrite c.writeAddr count
  if complete then
    { k with readingsIndex := 0, readingsOffset := readingsHeaderSize, state := .validateSensorReadings }
  else k

/-- `mm_sensors_write_sensor_readings`; `list` are the sensors of `G_amec_sensor_list` by then. -/
def writeSensorReadings (list : BitVec 16 → SensorT) (ok : Bool) : Mm :=
  if k.readingsIndex = 0 ∧ k.sensors.countP (fun s => s.valid && s.enabled) = 0 then k
  else
    let c := readingsLoop k.readingsBufAddr list (k.sensors.drop k.readingsIndex) k.readingsStart
    let k := { k with
      bceBuffer := c.buffer
      saveBuffer := if k.readingsIndex = 0 then transfer k.saveBuffer c.buffer 0 0 minWriteSize else k.saveBuffer }
    let count := align128Up c.byteCount
    let copy := k.bceCopy c.writeAddr count ok
    if copy.2 then copy.1.readingsCopied c count else copy.1

/-- `mm_sensors_validate_sensor_readings`. -/
def validateSensorReadings (ok : Bool) : Mm :=
  let buffer := transfer zeros k.saveBuffer 0 0 minWriteSize
  let k := { k with bceBuffer := Staged.write buffer 0 [1] }
  let copy := k.bceCopy k.readingsBufAddr minWriteSize ok
  if copy.2 then
    { copy.1 with
      readingsBufAddr := if k.readingsBufAddr = p.ping then p.pong else p.ping
      state := .writeSensorReadings }
  else copy.1

/-! ## Entry points -/

/-- The loop body of `mm_sensors_init_internals`. -/
def initSensor (smf : Bool) (role : OccRole) (s : MmSensor) : MmSensor :=
  { s with
    valid :=
      if smf && !s.smfMode then false
      else if decide (role = .slave) && s.masterOnly then false
      else true
    structVer :=
      if (p.sensorInfo s.gsid).units[0] = BitVec.ofNat 8 '#'.toNat ∧ (p.sensorInfo s.gsid).units[1] = 0 then .counter
      else .full }

/-- `mm_sensors_init_internals`. -/
def initInternals (smf : Bool) (role : OccRole) : Mm :=
  { k with readingsBufAddr := p.ping, sensors := k.sensors.map (initSensor p smf role) }

/-- `main_mem_sensors_init`; `smf` is `G_smf_mode` and `role` is `G_occ_role`. -/
def init (smf : Bool) (role : OccRole) (ok : Bool) : Mm :=
  let k := if k.internals then k else { k.initInternals p smf role with internals := true }
  if k.initialized then k
  else
    let idle := k.isBceReqIdle
    if !idle.2 then idle.1
    else
      match idle.1.state with
      | .writeDataHeader => idle.1.writeDataHeader p ok
      | .writeSensorNames => idle.1.writeSensorNames p ok
      | .validateDataHeader => idle.1.validateDataHeader p ok
      | _ => idle.1

/-- `main_mem_sensors_update`. -/
def update (list : BitVec 16 → SensorT) (ok : Bool) : Mm :=
  if !k.initialized then k
  else
    let idle := k.isBceReqIdle
    if !idle.2 then idle.1
    else
      match idle.1.state with
      | .writeSensorReadings => idle.1.writeSensorReadings list ok
      | .validateSensorReadings => idle.1.validateSensorReadings p ok
      | _ => idle.1

/-- `main_mem_sensors_set_enabled`. -/
def setEnabled (type : BitVec 16) (enabled : Bool) : Mm :=
  { k with
    sensors := k.sensors.map fun s =>
      if type &&& (p.sensorInfo s.gsid).type ≠ 0 then { s with enabled := enabled } else s }

/-! ## The engine -/

/-- The engine copies the next line of the request. -/
def copyLine (r : BceRequest) : Mm :=
  { k with
    mem := transfer k.mem k.bceBuffer r.addr r.copied (r.copied + 128)
    request := some { r with copied := r.copied + 128 }
    validated :=
      if r.addr + r.copied = p.ping ∨ r.addr + r.copied = p.pong then
        Function.update k.validated (r.addr + r.copied)
          (if k.bceBuffer r.copied = 1 then some (k.cycle (r.addr + r.copied)) else none)
      else k.validated
    namesValidated :=
      if r.addr + r.copied = p.dataBlock then decide (k.bceBuffer r.copied = 1) else k.namesValidated }

end Mm

/-! ## Steps -/

inductive MmEvent
  | init (smf : Bool) (role : OccRole) (ok : Bool)
  | update (list : BitVec 16 → SensorT) (ok : Bool)
  | setEnabled (type : BitVec 16) (enabled : Bool)
  | line
  | done
  | fail

/-- The state after an event, when it can happen: the engine copies a line, is done with a request, or
ends one with an error. -/
def Mm.next (p : Platform) (k : Mm) : MmEvent → Option Mm
  | .init smf role ok => some (k.init p smf role ok)
  | .update list ok => some (k.update p list ok)
  | .setEnabled type enabled => some (k.setEnabled p type enabled)
  | .line =>
    match k.request with
    | some r => if r.copied < r.count then some (k.copyLine p r) else none
    | none => none
  | .done =>
    match k.request with
    | some r => if r.copied = r.count then some { k with request := none } else none
    | none => none
  | .fail => if k.request = none then none else some { k with request := none }

/-- The firmware's start, with any table of sensors and whatever is in main memory. -/
def Mm.start (sensors : List MmSensor) (mem : Memory) : Mm where
  sensors := sensors
  internals := false
  initialized := false
  state := .writeDataHeader
  readingsBufAddr := 0
  bceBuffer := zeros
  scheduled := false
  request := none
  saveBuffer := zeros
  lastWriteBuf := zeros
  lastWriteBufAddr := 0
  namesIndex := 0
  entryOffset := 0
  namesReadingsOffset := readingsHeaderSize
  readingsIndex := 0
  readingsOffset := readingsHeaderSize
  mem := mem
  copies := []
  cycle := fun _ => ⟨[], false⟩
  validated := fun _ => none
  namesValidated := false

/-- The sensors fit in the names block and in a readings buffer, as two static assertions say. -/
def TableFits (sensors : List MmSensor) : Prop :=
  sensors.length * namesEntrySize ≤ namesSize ∧ readingsHeaderSize + sensors.length * 48 ≤ readingsSize

end Occ.Sensor
