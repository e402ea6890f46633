/-
Error log slots (`errl.c`), byte by byte: the log of a slot is an `ErrlEntry_t`, packed and with the higher byte first, and
the sections of user details behind it.

  iv_checkSum 0 (2)  iv_version 2  iv_entryId 3  iv_reasonCode 4  iv_severity 5  iv_actions 6  iv_maxSize 7 (2)
  iv_extendedRC 9 (2)  iv_numCallouts 11  iv_callouts 12 (6 of 12)
  iv_userDetails: iv_version 84  iv_modId 86 (2)  iv_fclipHistory 88 (4)  iv_timeStamp 92 (8)  iv_occId 100  iv_occRole 101
    iv_operatingState 102  iv_committed 103 (its first bit)  iv_userData1 104 (4)  iv_userData2 108 (4)  iv_userData3 112 (4)
    iv_entrySize 116 (2)  iv_userDetailEntrySize 118 (2)

Calls with `NULL`, `INVALID_ERR_HNDL` or a pointer to no trace descriptor do nothing, and are left out.
-/
import Occ.Errl.Log
import Occ.Lib.Marked
import Occ.Trac.Copy

namespace Occ.Errl

open Occ.Staged (Byte Memory)
open Occ.Trac (TraceComp TraceCall TraceCopy traceBufHeadSize tracGetBufferPartial tracedBuf)

/-- A slot, and which of its bytes have been written since its log was created. -/
abbrev Slot := Marked

/-- `sizeof(ErrlEntry_t)` -/
def sizeofErrlEntry : Nat := 120

/-- `sizeof(ErrlUserDetailsEntry_t)` -/
def sizeofUsrDtlsEntry : BitVec 16 := 4

/-- `MAX_ERRL_ENTRY_SZ` -/
def maxErrlEntrySz : BitVec 16 := 0x850

/-- `MAX_ERRL_PGPE_ENTRY_SZ` -/
def maxErrlPgpeEntrySz : BitVec 16 := 0xE20

/-- `MAX_ERRL_CALL_HOME_SZ` -/
def maxErrlCallHomeSz : BitVec 16 := 0xC00

/-- `G_error_history` -/
structure ErrorHistory where
  bytes : List Byte
  length_eq : bytes.length = 48

/-- What the trace buffers hold, and whether `TRAC_get_buffer_partial` gets their locks. -/
structure TraceEnv where
  locked : TraceComp → Bool
  calls : TraceComp → List (TraceCall × Bool)

def TraceEnv.copy (env : TraceEnv) (comp : TraceComp) (ioSize : Nat) : TraceCopy :=
  tracGetBufferPartial (env.locked comp) (tracedBuf comp (env.calls comp)) ioSize

/-- The fields of a new log that say where the OCC is. -/
structure OccFields where
  timeStamp : BitVec 64
  fclipHistory : BitVec 32
  occId : BitVec 8
  occRole : BitVec 8
  operatingState : BitVec 8

/-- What a new log is about. -/
structure ErrlArgs where
  src : ErrlSource
  severity : ErrlSeverity
  userData1 : BitVec 32
  userData2 : BitVec 32

/-- `ERRL_SEVERITY` -/
def ErrlSeverity.byte : ErrlSeverity → Byte
  | .informational => 0x00
  | .predictive => 0x01
  | .unrecoverable => 0x02
  | .callhomeData => 0x03
  | .pgpeError => 0x04

namespace Slot

variable (s : Slot)

/-! ## Fields -/

def checkSum : BitVec 16 := half s.mem 0

def entryId : Byte := s.mem 3

def severity : Byte := s.mem 5

def actions : Byte := s.mem 6

def maxSize : BitVec 16 := half s.mem 7

def numCallouts : Byte := s.mem 11

def committed : Bool := (s.mem 103).getMsbD 0

def entrySize : BitVec 16 := half s.mem 116

def userDetailEntrySize : BitVec 16 := half s.mem 118

/-! ## Sections of user details -/

/-- `ErrlUserDetailsEntry_t` -/
def usrDtlsEntry (version type : Byte) (size : BitVec 16) : List Byte := [version, type] ++ Bytes.ofWord 2 size

/-- A section has been added. -/
def addSizes (size : BitVec 16) : Slot :=
  s.puts 0 [(118, Bytes.ofWord 2 (userDetailEntrySize s + size)), (116, Bytes.ofWord 2 (entrySize s + size))]

/-- What is left behind the header of another section, modulo `2 ^ 16`. -/
def availableSize : BitVec 16 := maxSize s - (entrySize s + sizeofUsrDtlsEntry)

/-- `addErrHistory` -/
def addErrHistory (history : ErrorHistory) : Slot :=
  if committed s = false ∧ (entrySize s).toNat + sizeofUsrDtlsEntry.toNat + 48 < (maxSize s).toNat then
    let offset := (entrySize s).toNat
    addSizes (s.puts offset [(4, history.bytes), (0, usrDtlsEntry 1 0x04 48)]) (sizeofUsrDtlsEntry + 48)
  else s

/-- `addUsrDtlsToErrl`; the data are behind a pointer, which may be null. -/
def addUsrDtlsToErrl (data : Option Memory) (size : BitVec 16) (version type : Byte) : Slot :=
  match data with
  | some data =>
    if committed s = false ∧ size ≠ 0 ∧ (entrySize s).toNat < (maxSize s).toNat then
      let size := if size < availableSize s then size else availableSize s
      let offset := (entrySize s).toNat
      addSizes (s.puts offset [(0, usrDtlsEntry version type size), (4, (List.range size.toNat).map data)])
        (sizeofUsrDtlsEntry + size)
    else s
  | none => s

/-- The data of a trace section, from `addr` on, and their size. -/
def traceData (addr : Nat) (trace : Option TraceComp) (size : BitVec 16) (env : TraceEnv) : Slot × BitVec 16 :=
  match trace with
  | some comp =>
    if traceBufHeadSize ≤ size.toNat then
      let copy := env.copy comp size.toNat
      (s.puts addr copy.writes, .ofNat 16 copy.size)
    else (s, 0)
  | none =>
    -- a part of each of the three, and when there is no room for that, of the errors alone
    let expectLen := size.toNat / 3
    if traceBufHeadSize ≤ expectLen then
      let err := env.copy .err expectLen
      let imp := env.copy .imp ((size.toNat - err.size) / 2)
      let inf := env.copy .inf (size.toNat - err.size - imp.size)
      (((s.puts addr err.writes).puts (addr + err.size) imp.writes).puts (addr + err.size + imp.size) inf.writes,
        .ofNat 16 (err.size + imp.size + inf.size))
    else if traceBufHeadSize < size.toNat then
      let copy := env.copy .err size.toNat
      (s.puts addr copy.writes, .ofNat 16 copy.size)
    else (s, 0)

/-- `addTraceToErrl` -/
def addTraceToErrl (trace : Option TraceComp) (traceSz : BitVec 16) (env : TraceEnv) : Slot :=
  if committed s = false ∧ traceSz ≠ 0 ∧ (entrySize s).toNat + sizeofUsrDtlsEntry.toNat < (maxSize s).toNat then
    let offset := (entrySize s).toNat
    let size := if traceSz < availableSize s then traceSz else availableSize s
    let (s, size) := traceData s (offset + 4) trace size env
    if size ≠ 0 then addSizes (s.puts offset [(0, usrDtlsEntry 0x00 0x01 size)]) (size + sizeofUsrDtlsEntry)
    else addSizes s 0
  else s

/-! ## Fields that are changed -/

/-- `addCalloutToErrl` -/
def addCalloutToErrl (type : Byte) (calloutValue : BitVec 64) (priority : Byte) : Slot :=
  if committed s = false ∧ (actions s &&& actionsManufacturingError ≠ 0 ∨ severity s ≠ 0x00) ∧
      (numCallouts s).toNat < maxCallouts then
    s.puts 0 [(12 + 12 * (numCallouts s).toNat, [type]), (12 + 12 * (numCallouts s).toNat + 1, Bytes.ofWord 8 calloutValue),
      (12 + 12 * (numCallouts s).toNat + 9, [priority]), (11, [numCallouts s + 1])]
  else s

/-- `setErrlSevToInfo` -/
def setErrlSevToInfo : Slot :=
  if committed s = false then
    s.puts 0 [(5, [0x00]), (12, List.replicate (12 * (numCallouts s).toNat) 0), (11, [0])]
  else s

/-- `setErrlActions` -/
def setErrlActions (mask : Byte) : Slot :=
  if committed s = false then s.puts 0 [(6, [actions s ||| mask])] else s

/-! ## Creation -/

/-- The fields of a new log, in the order they are set. -/
def newFields (id : Byte) (severity : Byte) (args : ErrlArgs) (occ : OccFields) : List (Nat × List Byte) :=
  [(3, [id]), (2, [0x01]), (92, Bytes.ofWord 8 occ.timeStamp), (5, [severity]), (9, Bytes.ofWord 2 args.src.extReasonCode),
    (84, [0x01]), (86, Bytes.ofWord 2 args.src.modId), (4, [args.src.reasonCode]), (104, Bytes.ofWord 4 args.userData1),
    (108, Bytes.ofWord 4 args.userData2), (11, [0]), (88, Bytes.ofWord 4 occ.fclipHistory), (100, [occ.occId]),
    (101, [occ.occRole]), (102, [occ.operatingState])]

/-- A log is begun: its maximum size, its size and the error history. -/
def begin (maxSize : BitVec 16) (history : ErrorHistory) : Slot :=
  addErrHistory (s.unmark.puts 0 [(7, Bytes.ofWord 2 maxSize), (116, Bytes.ofWord 2 (BitVec.ofNat 16 sizeofErrlEntry))]) history

/-- `createErrl`, once it has a slot. -/
def createErrl (maxSize : BitVec 16) (id : Byte) (args : ErrlArgs) (trace : Option TraceComp) (traceSz : BitVec 16)
    (history : ErrorHistory) (env : TraceEnv) (occ : OccFields) : Slot :=
  let severity := if args.severity = .callhomeData then ErrlSeverity.informational.byte else args.severity.byte
  (addTraceToErrl (begin s maxSize history) trace traceSz env).puts 0 (newFields id severity args occ)

/-- What `createPgpeErrl` finds in the SRAM and in `g_amec_sys`. -/
structure PgpeData where
  fspSupported : Bool
  wof : Memory
  traceAddr : BitVec 32
  traceSize : BitVec 32
  trace : Memory

/-- `WOF_DISABLED_RC` -/
def wofDisabledRc : BitVec 8 := 0xDA

/-- `sizeof(amec_wof_t)` -/
def sizeofAmecWof : BitVec 16 := 676

/-- `ERRL_ACTIONS_FORCE_SEND` -/
def actionsForceSend : Byte := 0x10

/-- The size of the PGPE trace, clipped to `MAX_PGPE_DBUG_DATA` or `MAX_PGPE_DBUG_DATA_NO_SLOT`. -/
def pgpeDataLength (pgpe : PgpeData) : BitVec 32 :=
  if maxSize s ≠ maxErrlPgpeEntrySz then 0x300
  else if 0x860 < pgpe.traceSize then 0x860
  else pgpe.traceSize

/-- `addPgpeDataToErrl` -/
def addPgpeDataToErrl (pgpe : PgpeData) : Slot :=
  if pgpe.traceAddr &&& 0xF7FFFFFF ≠ 0 ∧ pgpeDataLength s pgpe ≠ 0 then
    setErrlActions (addUsrDtlsToErrl s (some pgpe.trace) ((pgpeDataLength s pgpe).setWidth 16) 0x01 0x06) actionsForceSend
  else s

/-- `DEFAULT_TRACE_SIZE` -/
def defaultTraceSize : BitVec 16 := 1536

/-- `createPgpeErrl`, once it has a slot. -/
def createPgpeErrl (maxSize : BitVec 16) (id : Byte) (args : ErrlArgs) (pgpe : PgpeData) (history : ErrorHistory)
    (env : TraceEnv) (occ : OccFields) : Slot :=
  let s := begin s maxSize history
  let s := if args.src.reasonCode = wofDisabledRc ∧ pgpe.fspSupported then
      addUsrDtlsToErrl s (some pgpe.wof) sizeofAmecWof 0x01 0x05
    else s
  (addTraceToErrl (addPgpeDataToErrl s pgpe) none defaultTraceSize env).puts 0 (newFields id args.severity.byte args occ)

/-! ## Commit and deletion -/

/-- A system checkstop takes the callouts of the log. -/
def checkStopped : Slot := s.puts 0 [(6, [actionsSafeModeRequired]), (5, [0x00]), (11, [0])]

/-- A log that requests a reset is unrecoverable and has a callout. -/
def resetRequired : Slot :=
  let s := s.puts 0 [(5, [0x02])]
  if numCallouts s = 0 then addCalloutToErrl s 0x02 componentIdFirmware 0x03 else s

/-- The callouts are closed, and the log is committed. -/
def close : Slot :=
  let s := if (numCallouts s).toNat < maxCallouts then
      s.puts 0 [(12 + 12 * (numCallouts s).toNat, List.replicate 12 0)]
    else s
  s.puts 0 [(11, [BitVec.ofNat 8 maxCallouts]), (103, [s.mem 103 ||| 0x80])]

/-- The sum of the bytes behind the checksum. -/
def sumBytes : BitVec 32 :=
  (List.range' 2 ((entrySize s).toNat - 2)).foldl (fun sum i => sum + (s.mem i).setWidth 32) 0

/-- What `commitErrl` does to a log. -/
def commitErrl (checkStop : Bool) : Slot :=
  let s := if checkStop then checkStopped s else s
  let s := if actions s &&& actionsResetRequired ≠ 0 then resetRequired s else s
  let s := close s
  s.puts 0 [(0, Bytes.ofWord 2 ((sumBytes s).setWidth 16))]

/-- What `deleteErrl` does to a slot. -/
def deleteErrl : Slot := s.puts 0 [(0, List.replicate (entrySize s).toNat 0)]

end Slot

end Occ.Errl
