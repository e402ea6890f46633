/-
A sensor (`sensor.c`): its sample, its accumulator and update tag, and a minimum and a maximum for each of
the clients that clear them on their own.
-/
import Occ.Sensor.MainMemory

namespace Occ.Sensor

/-! ## Data -/

/-- `VECTOR_SENSOR_OP`. -/
inductive VectorOp
  | none | max | min | avg
deriving DecidableEq, Repr

/-- What the functions below write of a `vectorSensor_t`. -/
structure VectorSensor where
  operation : VectorOp
  minPos : BitVec 8
  maxPos : BitVec 8
deriving DecidableEq, Repr

/-- `sensor_t`: with the fields that are copied to main memory, its vector and the entry of the mini-sensor
table, where it has them, and `status.reset`. -/
structure SensorState extends SensorT where
  gsid : BitVec 16
  vector : Option VectorSensor
  miniSensor : Option (BitVec 16)
  resetPending : Bool

/-! ## Functions -/

def clearSampleMinmax : BitVec 32 := 0x01
def clearCsmSampleMinmax : BitVec 32 := 0x10
def clearProfilerSampleMinmax : BitVec 32 := 0x20
def clearJobSSampleMinmax : BitVec 32 := 0x40
def clearAllMinmax : BitVec 32 := 0xff

def uint16Max : BitVec 16 := 0xFFFF
def uint16Min : BitVec 16 := 0
def vectorSensorDefaultVal : BitVec 8 := 0xFF

/-- The sensor is zeroed with its reset pending; its entry of the mini-sensor table stays as it is. -/
def sensorInit (gsid : BitVec 16) (miniSensor : Option (BitVec 16)) : SensorState where
  timestamp := 0
  sample := 0
  sampleMin := 0
  sampleMax := 0
  csmSampleMin := 0
  csmSampleMax := 0
  profilerSampleMin := 0
  profilerSampleMax := 0
  jobSSampleMin := 0
  jobSSampleMax := 0
  accumulator := 0
  updateTag := 0
  gsid := gsid
  vector := none
  miniSensor := miniSensor
  resetPending := true

namespace SensorState

variable (s : SensorState)

def clearSample (clearType : BitVec 32) : SensorState :=
  if clearType &&& clearSampleMinmax ≠ 0 then
    { s with
      sampleMin := uint16Max
      sampleMax := uint16Min
      vector := s.vector.map fun v =>
        { v with minPos := vectorSensorDefaultVal, maxPos := vectorSensorDefaultVal } }
  else s

def clearCsm (clearType : BitVec 32) : SensorState :=
  if clearType &&& clearCsmSampleMinmax ≠ 0 then
    { s with csmSampleMin := uint16Max, csmSampleMax := uint16Min }
  else s

def clearProfiler (clearType : BitVec 32) : SensorState :=
  if clearType &&& clearProfilerSampleMinmax ≠ 0 then
    { s with profilerSampleMin := uint16Max, profilerSampleMax := uint16Min }
  else s

def clearJobS (clearType : BitVec 32) : SensorState :=
  if clearType &&& clearJobSSampleMinmax ≠ 0 then
    { s with jobSSampleMin := uint16Max, jobSSampleMax := uint16Min }
  else s

def clearMinmax (clearType : BitVec 32) : SensorState :=
  (((s.clearSample clearType).clearCsm clearType).clearProfiler clearType).clearJobS clearType

def reset : SensorState :=
  let s := { s with timestamp := 0, accumulator := 0, sample := 0, miniSensor := s.miniSensor.map fun _ => 0 }
  { s.clearMinmax clearAllMinmax with resetPending := false }

def vectorize (op : VectorOp) : SensorState := { s with vector := some ⟨op, 0, 0⟩ }

/-- The eight comparisons each move one field. -/
def updateMinmax (value : BitVec 16) : SensorState :=
  { s with
    sampleMin := if value < s.sampleMin then value else s.sampleMin
    sampleMax := if s.sampleMax < value then value else s.sampleMax
    csmSampleMin := if value < s.csmSampleMin then value else s.csmSampleMin
    csmSampleMax := if s.csmSampleMax < value then value else s.csmSampleMax
    profilerSampleMin := if value < s.profilerSampleMin then value else s.profilerSampleMin
    profilerSampleMax := if s.profilerSampleMax < value then value else s.profilerSampleMax
    jobSSampleMin := if value < s.jobSSampleMin then value else s.jobSSampleMin
    jobSSampleMax := if s.jobSSampleMax < value then value else s.jobSSampleMax }

/-- `tod` is `G_tod`. -/
def update (tod : BitVec 64) (value : BitVec 16) : SensorState :=
  let s := if s.resetPending then s.reset else s
  let s := ({ s with timestamp := tod, sample := value } : SensorState).updateMinmax value
  { s with
    miniSensor := s.miniSensor.map fun _ => value
    accumulator := s.accumulator + value.setWidth 64
    updateTag := s.updateTag + 1 }

end SensorState

/-! ## Runs -/

inductive SensorOp
  | update (tod : BitVec 64) (value : BitVec 16)
  | clearMinmax (clearType : BitVec 32)
  | reset
  | vectorize (op : VectorOp)

def SensorState.step (s : SensorState) : SensorOp → SensorState
  | .update tod value => s.update tod value
  | .clearMinmax clearType => s.clearMinmax clearType
  | .reset => s.reset
  | .vectorize op => s.vectorize op

/-- A sensor after a sequence of calls. -/
def SensorState.run (s : SensorState) (ops : List SensorOp) : SensorState := ops.foldl SensorState.step s

@[simp] theorem SensorState.run_concat (s : SensorState) (ops : List SensorOp) (op : SensorOp) :
    s.run (ops ++ [op]) = (s.run ops).step op := by
  rw [run, List.foldl_append]
  rfl

end Occ.Sensor
