/-
Snapshots of the node power (`cmdh_snapshot.c`, the 250 us data of `amec_sensors_power.c`): a timer callback records the power
and frequency of the interval since the last one and stores a snapshot of the last intervals in a ring, and commands read a
snapshot by its id or start the history over.
-/
import Occ.Sensor.Sensor
import Occ.Smgr.State
import Occ.Lib.Transition

namespace Occ.Cmdh

open Sensor Smgr Transition

/-! ## Data -/

def cmdhSnapshotMax : Nat := 6
def cmdhSnapshotMaxIndex : Nat := cmdhSnapshotMax - 1
def cmdhCimpMax : Nat := 20
def cmdhSnapshotDefaultCurIndex : BitVec 8 := 0xFF
def cmdhSnapshotSyncDataSize : BitVec 8 := 1
def cmdhSnapshotSyncVersion : BitVec 8 := 0
def cmdhGetSnapshotQueryDatalen : BitVec 16 := 4
def cmdhGetSnapshotNoniteVersion : BitVec 8 := 0

/-- `cmdh_snapshot_cimp_entry_t` -/
structure CimpEntry where
  seqNumber : BitVec 8
  avgDc : BitVec 32
  maxDc : BitVec 32
  minDc : BitVec 32
  avgCpuFreq : BitVec 16
  reserved : BitVec 8
deriving DecidableEq, Repr

def CimpEntry.zero : CimpEntry := ⟨0, 0, 0, 0, 0, 0⟩

/-- `cmdh_snapshot_buffer_t` -/
structure SnapshotBuffer where
  currentId : BitVec 8
  cim : Fin cmdhCimpMax → CimpEntry
deriving DecidableEq

def SnapshotBuffer.zero : SnapshotBuffer := ⟨0, fun _ => .zero⟩

/-- `pwr250us_over30sec_t` -/
structure Over30sec where
  count : BitVec 32
  max : BitVec 16
  min : BitVec 16
  freqaAccum : BitVec 32
deriving DecidableEq, Repr

/-- The globals and function statics, with the system power sensor. The two arrays go on with the memory behind them. -/
structure Snapshots where
  /-- `g_cmdh_snapshot_array` -/
  array : Nat → SnapshotBuffer
  curId : BitVec 8
  curIndex : BitVec 8
  reset : Bool
  /-- `g_pwr250us_over30sec` -/
  over30sec : Over30sec
  /-- `L_cim_buf` -/
  cimBuf : Nat → CimpEntry
  cimSeqNumber : BitVec 8
  prevPwrAccum : BitVec 32
  prevPwrUpdateTag : BitVec 32
  /-- the sensor `PWRSYS` -/
  pwrsys : SensorState

/-- `ERRL_RC` -/
inductive SnapshotRc
  | invalidCmd | invalidCmdLen | invalidData
  /-- the return code of `ssx_timer_schedule` -/
  | schedule (rc : Int)
deriving DecidableEq, Repr

/-- The answer to a request for a snapshot; `empty` is a success without data. -/
inductive SnapshotRsp
  | error (rc : SnapshotRc)
  | empty
  | snapshot (oldestId newestId : BitVec 8) (snapshot : SnapshotBuffer)
deriving DecidableEq

/-- As the image starts, with the memory behind the arrays. -/
def Snapshots.boot (array : Nat → SnapshotBuffer) (cimBuf : Nat → CimpEntry) (gsid : BitVec 16)
    (mini : Option (BitVec 16)) : Snapshots where
  array i := if i < cmdhSnapshotMax then .zero else array i
  curId := 0
  curIndex := cmdhSnapshotDefaultCurIndex
  reset := true
  over30sec := ⟨0, 0, 0, 0⟩
  cimBuf j := if j < cmdhCimpMax then .zero else cimBuf j
  cimSeqNumber := 0
  prevPwrAccum := 0
  prevPwrUpdateTag := 0
  pwrsys := sensorInit gsid mini

/-- The 250 us data with one more sample (`amec_update_apss_sensors`). -/
def Over30sec.sample (d : Over30sec) (power freq : BitVec 32) : Over30sec :=
  let d :=
    if d.count = 0 then { d with max := power.setWidth 16, min := power.setWidth 16, freqaAccum := freq }
    else
      { d with
        max := if d.max.setWidth 32 < power then power.setWidth 16 else d.max
        min := if power < d.min.setWidth 32 then power.setWidth 16 else d.min
        freqaAccum := d.freqaAccum + freq }
  { d with count := d.count + 1 }

/-- The difference of a counter to its previous value, as the callback takes it. -/
def counterDiff (now prev : BitVec 32) : BitVec 32 :=
  if prev ≤ now then now - prev else now + ~~~prev

namespace Snapshots

variable (s : Snapshots)

/-! ## Reading -/

/-- `cmdh_snapshot_find_oldest_newest`: the indices of the two. -/
def cmdhSnapshotFindOldestNewest : Nat × Nat :=
  if s.curIndex = 0 ∧ (s.array 0).currentId = 0 ∧ (s.array cmdhSnapshotMaxIndex).currentId = 0 then (0, 0)
  else
    let index := s.curIndex.toNat + 1
    let oldest :=
      if cmdhSnapshotMaxIndex < index then 0
      else if (s.array index).currentId = 0 ∧ (s.array cmdhSnapshotMaxIndex).currentId = 0 then 0
      else index
    (oldest, s.curIndex.toNat)

/-- `cmdh_snapshot_buffer_nonite` -/
def cmdhSnapshotBufferNonite (requestedId getnewest : BitVec 8) : SnapshotRsp :=
  if s.curIndex = cmdhSnapshotDefaultCurIndex then .empty
  else
    let (oldest, newest) := s.cmdhSnapshotFindOldestNewest
    let reqIdx :=
      if getnewest ≠ 0 then newest
      -- the requested snapshot, or if not available the latest
      else ((List.range cmdhSnapshotMax).find? fun i => (s.array i).currentId == requestedId).getD newest
    .snapshot (s.array oldest).currentId (s.array newest).currentId (s.array reqIdx)

/-- `cmdh_get_snapshot_buffer` -/
def cmdhGetSnapshotBuffer (slave : Bool) (dataLength : BitVec 16) (version requestedId getnewest : BitVec 8) :
    SnapshotRsp :=
  if slave then .error .invalidCmd
  else if dataLength ≠ cmdhGetSnapshotQueryDatalen then .error .invalidCmdLen
  else if version = cmdhGetSnapshotNoniteVersion then s.cmdhSnapshotBufferNonite requestedId getnewest
  else .error .invalidData

/-! ## Writing -/

/-- `cmdh_snapshot_sync`; the length is cut to a byte. The callback that it schedules clears the history. -/
def cmdhSnapshotSync (dataLength : BitVec 16) (version : BitVec 8) (scheduleRc : Int) : Snapshots × Option SnapshotRc :=
  if dataLength.setWidth 8 ≠ cmdhSnapshotSyncDataSize then (s, some .invalidCmdLen)
  else if version ≠ cmdhSnapshotSyncVersion then (s, some .invalidData)
  else
    let s := { s with reset := true, curIndex := cmdhSnapshotDefaultCurIndex }
    if scheduleRc ≠ 0 then (s, some (.schedule scheduleRc)) else (s, none)

/-- `l_pwr_accum` -/
def pwrAccum : BitVec 32 := s.pwrsys.accumulator.setWidth 32

/-- `l_avg_pwr` -/
def avgPwr : BitVec 32 :=
  let accumDiff := counterDiff s.pwrAccum s.prevPwrAccum
  let uptagDiff := counterDiff s.pwrsys.updateTag s.prevPwrUpdateTag
  if uptagDiff = 0 then 0 else accumDiff / uptagDiff

/-- `l_avg_freq` -/
def avgFreq : BitVec 16 :=
  if s.over30sec.count = 0 then 0 else (s.over30sec.freqaAccum / s.over30sec.count).setWidth 16

/-- The entry of the interval that ends now; its reserved byte is that of the entry before. -/
def newEntry : CimpEntry :=
  { s.cimBuf 0 with
    seqNumber := s.cimSeqNumber
    avgDc := s.avgPwr
    minDc := s.over30sec.min.setWidth 32
    maxDc := s.over30sec.max.setWidth 32
    avgCpuFreq := s.avgFreq }

/-- The reset in the callback. The entries are cleared in the size of a snapshot, which is one byte more than theirs. -/
def clear : Snapshots :=
  { s with
    array := fun i => if i < cmdhSnapshotMax then .zero else s.array i
    curId := 0
    cimBuf := fun j =>
      if j < cmdhCimpMax then .zero
      else if j = cmdhCimpMax then { s.cimBuf j with seqNumber := 0 }
      else s.cimBuf j
    cimSeqNumber := 0
    prevPwrAccum := s.pwrAccum
    prevPwrUpdateTag := s.pwrsys.updateTag
    reset := false
    curIndex := cmdhSnapshotDefaultCurIndex }

/-- A new snapshot: the entry goes to the front of the others, and all are copied to the next place. -/
def record : Snapshots :=
  let cimBuf := fun j => if j = 0 then s.newEntry else if j < cmdhCimpMax then s.cimBuf (j - 1) else s.cimBuf j
  let index := if cmdhSnapshotMaxIndex < (s.curIndex + 1).toNat then 0 else s.curIndex + 1
  { s with
    prevPwrAccum := s.pwrAccum
    prevPwrUpdateTag := s.pwrsys.updateTag
    cimBuf := cimBuf
    curIndex := index
    array := Function.update s.array index.toNat ⟨s.curId, fun j => cimBuf j⟩
    curId := s.curId + 1
    cimSeqNumber := s.cimSeqNumber + 1 }

/-- `IS_OCC_STATE_OBSERVATION() || IS_OCC_STATE_ACTIVE() || IS_OCC_STATE_CHARACTERIZATION()` -/
def operating (state : OccState) : Bool :=
  state == .observation || state == .active || state == .characterization

/-- `cmdh_snapshot_callback`; the 250 us data start over in any case. -/
def cmdhSnapshotCallback (state : OccState) : Snapshots :=
  { (if s.reset then s.clear else if operating state then s.record else s) with over30sec := ⟨0, 0, 0, 0⟩ }

/-! ## Runs -/

end Snapshots

inductive SnapshotEvent
  /-- the power of 250 us, with the time and the average frequency of all OCCs -/
  | sample (tod : BitVec 64) (power freq : BitVec 32)
  /-- any other use of the sensor -/
  | sensor (op : SensorOp)
  | callback (state : OccState)
  | sync (dataLength : BitVec 16) (version : BitVec 8) (scheduleRc : Int)

namespace Snapshots

variable (s : Snapshots)

def step : SnapshotEvent → Snapshots
  | .sample tod power freq =>
    { s with pwrsys := s.pwrsys.update tod (power.setWidth 16), over30sec := s.over30sec.sample power freq }
  | .sensor op => { s with pwrsys := s.pwrsys.step op }
  | .callback state => s.cmdhSnapshotCallback state
  | .sync dataLength version scheduleRc => (s.cmdhSnapshotSync dataLength version scheduleRc).1

/-- A sync command that is accepted; its timer may fail. -/
def Syncs (dataLength : BitVec 16) (version : BitVec 8) : Prop :=
  dataLength.setWidth 8 = cmdhSnapshotSyncDataSize ∧ version = cmdhSnapshotSyncVersion

instance (dataLength : BitVec 16) (version : BitVec 8) : Decidable (Syncs dataLength version) :=
  inferInstanceAs (Decidable (_ ∧ _))

/-- What has been recorded since the history last started over, the oldest interval first. -/
def historyStep (h : List CimpEntry) : SnapshotEvent → List CimpEntry
  | .sample .. | .sensor _ => h
  | .callback state => if s.reset then [] else if operating state then h ++ [s.newEntry] else h
  | .sync dataLength version _ => if Syncs dataLength version then [] else h

end Snapshots

/-- A step of the snapshots with their history. -/
def snapshotStep (t : Snapshots × List CimpEntry) (e : SnapshotEvent) : Option (Snapshots × List CimpEntry) :=
  some (t.1.step e, t.1.historyStep t.2 e)

end Occ.Cmdh
