/-
The trace buffers of AMESTER (`amec_amester.c`): the commands that set a trace up, start and stop the recording and read
it, and the recorder, which the control ticks call in interrupts. A set-config command writes the live trace one field
after another, so that a tick can come between any two of its stores; the flag the recorder looks at goes from the master
to every slave by way of the inboxes, and may be an old one. The name and the frequency of a trace and the command that
reads them are left out.
-/
import Occ.Lib.Bytes
import Occ.Lib.Transition
import Mathlib.Logic.Function.Basic

namespace Occ.Amec.Tb

open Transition Bytes
open Function (update)

/-! ## Data -/

/-- A trace of `AMEC_TB_ENUM`. -/
inductive Guid
  | every8thTick | everyTick
deriving DecidableEq, Repr

def Guid.index : Guid → Nat
  | .every8thTick => 0
  | .everyTick => 1

def numberOfTraces : Nat := 2
def sensorsMax : Nat := 40
def parmMax : Nat := 40
def ocaMaxEntries : Nat := 0
def maxNumChips : Nat := 4
def sizeBytes2ms : Nat := 8192
def sizeBytes250us : Nat := 8192

/-- `length` and `vector_length` of the parameters in `g_amec_parm_list`. -/
def amecParmList : List (Nat × Nat) := [
  (2, 1), (2, 1), (4, 1), (4, 24), (2, 24), (1, 1), (2, 1), (2, 1), (2, 1), (2, 1), (2, 1), (2, 1),
  (2, 1), (8, 1), (1, 1), (2, 1), (2, 1), (2, 1), (1, 1), (1, 1), (2, 1), (2, 1), (2, 1), (2, 1),
  (2, 1), (2, 1), (2, 1), (2, 1), (2, 1), (2, 1), (2, 1), (2, 1), (2, 8), (2, 1), (2, 1), (2, 1),
  (2, 1), (8, 1), (8, 1), (8, 1), (2, 1), (2, 1), (1, 1), (4, 6), (4, 1), (1, 6), (4, 1), (4, 1),
  (2, 24), (2, 1), (2, 6), (2, 1), (2, 1), (2, 1), (1, 6), (1, 6), (1, 1), (4, 1), (4, 1), (4, 1),
  (4, 1), (4, 1), (4, 1), (2, 1), (2, 1), (2, 1), (1, 1), (4, 1), (4, 1), (4, 1), (4, 1), (4, 1),
  (4, 1), (4, 1), (1, 1), (4, 1), (4, 1), (4, 1), (4, 6), (2, 6), (2, 6), (1, 1), (1, 1), (1, 1),
  (4, 1), (4, 1), (4, 1), (4, 1), (4, 1), (4, 1), (1, 1), (4, 1), (4, 1), (4, 1), (4, 1), (2, 1),
  (4, 1), (4, 1), (4, 1), (1, 1), (1, 1), (4, 1), (1, 1), (4, 1), (4, 1), (4, 1), (4, 1), (1, 1),
  (4, 1), (1, 1), (1, 1), (1, 1), (1, 6), (1, 6), (2, 6), (2, 6), (2, 6), (2, 6), (2, 6), (2, 6),
  (2, 6), (2, 6), (2, 6), (2, 6), (1, 6), (1, 6), (1, 6), (1, 6), (1, 6), (1, 6), (1, 6), (1, 6),
  (1, 6), (1, 6), (4, 1), (8, 1), (8, 1), (8, 1), (8, 1), (1, 1), (2, 1), (2, 1), (2, 1), (4, 1),
  (4, 1), (4, 1), (4, 1), (4, 1)]

def numberOfParameters : Nat := 148

/-- The bytes of a parameter, for one that is in the list. -/
def parmSize (p : Nat) : Nat := (amecParmList.getD p (0, 0)).1 * (amecParmList.getD p (0, 0)).2

/-- The bytes of a field of a sensor. -/
def fieldSize : Nat → Nat
  | 0 | 1 | 2 => 2
  | 3 => 8
  | 4 => 4
  | 5 => 2
  | 6 => 4
  | _ => 0

/-- `amec_tb_t`. `bytes` is an offset in `g_amec_tb_bytes`. -/
structure Trace where
  bytes : Nat
  size : Nat
  entrySize : Nat
  entryN : Nat
  write : Nat
  read : Nat
  sensorsN : Nat
  parmN : Nat
  sensorsField : Nat → Nat
  sensorsNum : Nat → Nat
  parmNum : Nat → Nat

/-- The command data, and whatever is behind it in its buffer. -/
abbrev Cmd := Nat → BitVec 8

inductive CompCode
  | normal | paramOutOfRange
deriving DecidableEq, Repr

/-- What the commands depend on and do not change: `G_amec_sensor_count`, the address of `g_amec_tb_bytes`,
`G_amester_max_data_length`, and what the processor leaves of a division by zero. -/
structure Chip where
  sensorCount : Nat
  tbBytesAddr : BitVec 32
  maxDataLength : Nat
  undefinedQuotient : Nat

/-! ## Recorded entries -/

/-- What a tick finds in the sensors and in the parameters; `beyond` is what the parameter list seems to hold behind its
end. -/
structure Inputs where
  sample : Nat → BitVec 16
  sampleMin : Nat → BitVec 16
  sampleMax : Nat → BitVec 16
  accumulator : Nat → BitVec 64
  updateTag : Nat → BitVec 32
  rCnt : BitVec 32
  parm : Nat → Nat → BitVec 8
  beyond : Nat → List (BitVec 8)

namespace Inputs

variable (x : Inputs)

def fieldBytes (num : Nat) : Nat → List (BitVec 8)
  | 0 => ofWord 2 (x.sample num)
  | 1 => ofWord 2 (x.sampleMin num)
  | 2 => ofWord 2 (x.sampleMax num)
  | 3 => ofWord 8 (x.accumulator num)
  | 4 => ofWord 4 (x.updateTag num)
  | 5 => [0, 0]
  | 6 => ofWord 4 x.rCnt
  | _ => []

def parmBytes (p : Nat) : List (BitVec 8) :=
  if p < numberOfParameters then (List.range (parmSize p)).map (x.parm p) else x.beyond p

/-- The bytes that the recorder writes for one entry. -/
def entryBytes (t : Trace) : List (BitVec 8) :=
  ((List.range t.sensorsN).flatMap fun i => x.fieldBytes (t.sensorsNum i) (t.sensorsField i)) ++
    (List.range t.parmN).flatMap fun i => x.parmBytes (t.parmNum i)

end Inputs

/-! ## Set-config commands -/

namespace Cmd

variable (cmd : Cmd)

/-- `CONVERT_UINT8_ARRAY_UINT16` of two bytes of the command. -/
def uint16 (i : Nat) : Nat := (cmd i).toNat * 256 + (cmd (i + 1)).toNat

/-- `CONVERT_UINT8_ARRAY_UINT32` of four bytes of the command. -/
def uint32 (i : Nat) : Nat := cmd.uint16 i * 65536 + cmd.uint16 (i + 2)

def guid : Nat := (cmd 1).toNat
def sensorsN : Nat := cmd.uint16 2
def parmN : Nat := cmd.uint16 4
def ocaN : Nat := cmd.uint16 6

def numIndex (i : Nat) : Nat := 12 + 2 * i
def fieldIndex (i : Nat) : Nat := 12 + 2 * cmd.sensorsN + i
def parmIndex (i : Nat) : Nat := 12 + 2 * cmd.sensorsN + cmd.sensorsN + 2 * i

def sensorNum (i : Nat) : Nat := cmd.uint16 (numIndex i)
def sensorField (i : Nat) : Nat := (cmd (cmd.fieldIndex i)).toNat
def parm (i : Nat) : Nat := cmd.uint16 (cmd.parmIndex i)

/-- The checks before the trace is touched: the byte that is bad. -/
def refusal : Option Nat :=
  if sensorsMax < cmd.sensorsN then some 2 else if ocaMaxEntries < cmd.ocaN then some 6 else none

end Cmd

/-- A store of `amec_tb_cmd_set_config` to the trace. -/
inductive Store
  | clearEntrySize
  | addEntrySize (n : Nat)
  | sensorsNum (i v : Nat)
  | sensorsField (i v : Nat)
  | sensorsN (n : Nat)
  | parmNum (i v : Nat)
  | parmN (n : Nat)
  | entryN
  | clearRead
  | clearWrite
deriving DecidableEq, Repr

def Store.apply (c : Chip) : Store → Trace → Trace
  | .clearEntrySize, t => { t with entrySize := 0 }
  | .addEntrySize n, t => { t with entrySize := t.entrySize + n }
  | .sensorsNum i v, t => { t with sensorsNum := update t.sensorsNum i v }
  | .sensorsField i v, t => { t with sensorsField := update t.sensorsField i v }
  | .sensorsN n, t => { t with sensorsN := n }
  | .parmNum i v, t => { t with parmNum := update t.parmNum i v }
  | .parmN n, t => { t with parmN := n }
  | .entryN, t => { t with entryN := if t.entrySize = 0 then c.undefinedQuotient else t.size / t.entrySize }
  | .clearRead, t => { t with read := 0 }
  | .clearWrite, t => { t with write := 0 }

/-- The loop over the sensors from `i` on: its stores, and the bad byte it ends at. The checks are on what was just
stored, and the first of them leaves the loop only. -/
def sensorLoop (c : Chip) (cmd : Cmd) : Nat → Nat → List Store × Option Nat
  | 0, _ => ([], none)
  | k + 1, i =>
    let stored := [Store.sensorsNum i (cmd.sensorNum i), .sensorsField i (cmd.sensorField i)]
    if c.sensorCount ≤ cmd.sensorNum i then (stored, some (Cmd.numIndex i))
    else if 6 < cmd.sensorField i then (stored, some (cmd.fieldIndex i))
    else
      let (stores, bad) := sensorLoop c cmd k (i + 1)
      (stored ++ .addEntrySize (fieldSize (cmd.sensorField i)) :: stores, bad)

/-- The loop over the parameters. -/
def parmLoop (cmd : Cmd) : Nat → Nat → List Store × Option Nat
  | 0, _ => ([], none)
  | k + 1, i =>
    if numberOfParameters ≤ cmd.parm i then ([.parmNum i (cmd.parm i)], some (cmd.parmIndex i))
    else
      let (stores, bad) := parmLoop cmd k (i + 1)
      (.parmNum i (cmd.parm i) :: .addEntrySize (parmSize (cmd.parm i)) :: stores, bad)

/-- The stores to the trace in their order, with the bad byte of a command that is rejected after them. Too many
parameters are noticed first and reported only after the sensors. -/
def setConfigStores (c : Chip) (cmd : Cmd) : List Store × Option Nat :=
  let (sensors, bad) := sensorLoop c cmd cmd.sensorsN 0
  if bad ≠ none then (.clearEntrySize :: sensors, bad)
  else if parmMax < cmd.parmN then (.clearEntrySize :: sensors, some 4)
  else
    let (parms, bad) := parmLoop cmd cmd.parmN 0
    let stores := .clearEntrySize :: sensors ++ .sensorsN cmd.sensorsN :: parms
    if bad ≠ none then (stores, bad)
    else (stores ++ [.parmN cmd.parmN, .entryN, .clearRead, .clearWrite], none)

/-! ## State -/

/-- A set-config command under way: its trace, where NULL is none, and the stores that are still to come. -/
structure SetConfig where
  trace : Option Nat
  todo : List Store
  bad : Option Nat
  -- history: the trace at its begin
  before : Trace

/-- An entry that was recorded, with the fields of its trace in the same call. -/
structure Entry where
  guid : Guid
  entrySize : Nat
  entryN : Nat
  start : Nat
  length : Nat
deriving DecidableEq, Repr

structure History where
  entries : List Entry
  indices : List Nat
  nullUsed : Bool
  dividedByZero : Bool
  -- the trace before and after a command that was rejected
  rejected : List (Trace × Trace)

structure State where
  -- `g_amec_tb_list` and `g_amec_tb_bytes`, and whatever is behind them
  list : Nat → Trace
  tbBytes : Nat → BitVec 8
  record : Bool
  continuous : Bool
  -- `G_dcom_slv_inbox_rx.tb_record`
  slvRecord : Bool
  setConfig : Option SetConfig
  retval : CompCode
  resp : List (BitVec 8)
  hist : History

inductive Event
  | setConfig (cmd : Cmd)
  | store
  | startRecording
  | stopRecording
  | read (cmd : Cmd)
  | getConfig (cmd : Cmd)
  | slaveInbox (tbRecord : Bool)
  | tick (guid : Guid) (x : Inputs)

/-- `AMEC_tb_get_by_guid`, which lets one index too many pass. -/
def tbGetByGuid (guid : Nat) : Option Nat := if numberOfTraces < guid then none else some guid

namespace State

variable (c : Chip) (s : State)

/-! ## The recorder -/

def setTrace (i : Nat) (t : Trace) : State := { s with list := update s.list i t }

/-- The entry in the trace buffer, and in the history. -/
def putEntry (guid : Guid) (t : Trace) (entry : List (BitVec 8)) : State :=
  let start := t.bytes + t.write * t.entrySize
  { s with
    tbBytes := fun a => if start ≤ a ∧ a < start + entry.length then entry.getD (a - start) 0 else s.tbBytes a
    hist.entries := ⟨guid, t.entrySize, t.entryN, start, entry.length⟩ :: s.hist.entries }

/-- The next entry, or the end of the recording. -/
def advance (i : Nat) (t : Trace) : State :=
  if t.write + 1 < t.entryN then s.setTrace i { t with write := t.write + 1 }
  else if s.continuous then s.setTrace i { t with write := 0 }
  else { s.setTrace i { t with write := t.write + 1 } with record := if t.entryN ≠ 0 then false else s.record }

/-- The tick will record an entry. -/
def records (i : Nat) : Bool := s.slvRecord && decide ((s.list i).write < (s.list i).entryN)

/-- `amec_tb_record`. -/
def tbRecord (guid : Guid) (x : Inputs) : State :=
  if s.records guid.index then
    let t := s.list guid.index
    (s.putEntry guid t (x.entryBytes t)).advance guid.index t
  else s

/-! ## Commands -/

def reply (retval : CompCode) (resp : List (BitVec 8)) : State := { s with retval := retval, resp := resp }

/-- The reply to a set-config command: the byte that is bad, or nothing. -/
def replySetConfig (bad : Option Nat) : State :=
  match bad with
  | some i => s.reply .paramOutOfRange (ofWord 2 (BitVec.ofNat 16 i))
  | none => s.reply .normal []

def useTrace (i : Nat) : State := { s with hist.indices := i :: s.hist.indices }

def logRejected (before after : Trace) : State :=
  { s with hist.rejected := (before, after) :: s.hist.rejected }

/-- The begin of `amec_tb_cmd_set_config`, up to its first store to the trace. -/
def cmdSetConfig (cmd : Cmd) : State :=
  let s := { s with record := false }
  let trace := tbGetByGuid cmd.guid
  let before := s.list (trace.getD 0)
  if cmd.refusal ≠ none then
    ((if trace = none then s else s.logRejected before before)).replySetConfig cmd.refusal
  else
    let (stores, bad) := setConfigStores c cmd
    { s with setConfig := some { trace := trace, todo := stores, bad := bad, before := before } }

/-- One store through the pointer to the trace. -/
def doStore (cf : SetConfig) (st : Store) (todo : List Store) : State :=
  let s := { s with setConfig := some { cf with todo := todo } }
  match cf.trace with
  | none => { s with hist.nullUsed := true }
  | some i =>
    { (s.useTrace i).setTrace i (st.apply c (s.list i)) with
      hist.dividedByZero := s.hist.dividedByZero || (decide (st = .entryN) && decide ((s.list i).entrySize = 0)) }

/-- The end of `amec_tb_cmd_set_config`. -/
def endSetConfig (cf : SetConfig) : State :=
  let s := { s with setConfig := none }
  (if cf.bad = none then s else
    match cf.trace with
    | none => s
    | some i => s.logRejected cf.before (s.list i)).replySetConfig cf.bad

/-- The bytes of a trace from `j` on, round its end. -/
def readBytes (t : Trace) (tbBytes : Nat → BitVec 8) : Nat → Nat → List (BitVec 8)
  | 0, _ => []
  | n + 1, j =>
    let j := if t.size ≤ j then 0 else j
    tbBytes (t.bytes + j) :: readBytes t tbBytes n (j + 1)

/-- `amec_tb_cmd_read`. -/
def cmdRead (cmd : Cmd) : State :=
  match tbGetByGuid cmd.guid with
  | none => s.reply .paramOutOfRange []
  | some i => (s.useTrace i).reply .normal (readBytes (s.list i) s.tbBytes (c.maxDataLength - 1) (cmd.uint32 2))

def bytes32 (n : Nat) : List (BitVec 8) := ofWord 4 (BitVec.ofNat 32 n)
def byte (n : Nat) : BitVec 8 := BitVec.ofNat 8 n

/-- The response of `amec_tb_cmd_get_config`. -/
def configBytes (t : Trace) : List (BitVec 8) :=
  ofWord 4 (c.tbBytesAddr + BitVec.ofNat 32 t.bytes) ++ bytes32 t.size ++ bytes32 t.entrySize ++ bytes32 t.entryN ++
    bytes32 0 ++ bytes32 t.write ++ bytes32 0 ++ bytes32 t.read ++
    [byte t.sensorsN, byte t.parmN, 0, byte s.record.toNat, byte s.continuous.toNat, byte sensorsMax, byte ocaMaxEntries,
      byte maxNumChips, byte parmMax]

/-- `amec_tb_cmd_get_config`. -/
def cmdGetConfig (cmd : Cmd) : State :=
  match tbGetByGuid cmd.guid with
  | none => s.reply .paramOutOfRange []
  | some i => (s.useTrace i).reply .normal (s.configBytes c (s.list i))

/-! ## Steps -/

/-- One step. The commands run one after another in a thread; a tick or an inbox comes at any time. -/
def next (c : Chip) (s : State) : Event → Option State
  | .slaveInbox tbRecord => some { s with slvRecord := tbRecord }
  | .tick guid x => some (s.tbRecord guid x)
  | .store =>
    match s.setConfig with
    | none => none
    | some cf =>
      match cf.todo with
      | [] => some (s.endSetConfig cf)
      | st :: todo => some (s.doStore c cf st todo)
  | .setConfig cmd => if s.setConfig.isSome then none else some (s.cmdSetConfig c cmd)
  | .startRecording => if s.setConfig.isSome then none else some ({ s with record := true }.reply .normal [])
  | .stopRecording => if s.setConfig.isSome then none else some ({ s with record := false }.reply .normal [])
  | .read cmd => if s.setConfig.isSome then none else some (s.cmdRead c cmd)
  | .getConfig cmd => if s.setConfig.isSome then none else some (s.cmdGetConfig c cmd)

end State

/-! ## The start -/

def freshTrace (bytes size : Nat) : Trace where
  bytes := bytes
  size := size
  entrySize := 0
  entryN := 0
  write := 0
  read := 0
  sensorsN := 0
  parmN := 0
  sensorsField _ := 0
  sensorsNum _ := 0
  parmNum _ := 0

/-- Where the traces have their bytes. -/
def Guid.base : Guid → Nat
  | .every8thTick => 0
  | .everyTick => sizeBytes2ms

def Guid.size : Guid → Nat
  | .every8thTick => sizeBytes2ms
  | .everyTick => sizeBytes250us

/-- The state that the firmware is loaded with. -/
structure Boot (s : State) : Prop where
  list : ∀ g : Guid, s.list g.index = freshTrace g.base g.size
  record : s.record = false
  continuous : s.continuous = false
  setConfig : s.setConfig = none
  hist : s.hist = ⟨[], [], false, false, []⟩

end Occ.Amec.Tb
