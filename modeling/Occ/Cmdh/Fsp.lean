/-
The command handler of the FSP, of the BMC and of the host (`cmdh_fsp.c`): the attention is checked, the command's checksum
is verified, the command goes to its handler, and the response gets its checksum and last of all its return status. The
commands of the host come from main memory through the block copy engine, and their responses go back the same way. The
handlers are parameters: what they leave is the data of the response, the number of its bytes and `G_rsp_status`. Traces,
and the error logs about bad attentions and failed copies, are left out.
-/
import Occ.Lib.Checksum
import Mathlib.Data.List.Basic
import Occ.Lib.Literals

namespace Occ.Cmdh

open Function (update)

attribute [local instance] lawfulBEq_byte

/-! ## Buffers -/

/-- A buffer, and whatever is behind it in the memory. -/
abbrev Buf := Nat → BitVec 8

def cmdhFspCmdSize : Nat := 4096
def cmdhFspRspSize : Nat := 4096
def cmdhFspDatalenSize : Nat := 2
def cmdhFspChecksumSize : Nat := 2
def cmdhFspSeqCmdSize : Nat := 2
def cmdhFspSeqCmdRcSize : Nat := 3

def attnSenderIdFsp : BitVec 8 := 0x01
def attnSenderIdHtmgt : BitVec 8 := 0x10
def attnSenderIdBmc : BitVec 8 := 0x20
def attnTypeCmdWrite : BitVec 8 := 0x01

def errlRcSuccess : BitVec 8 := 0x00
def errlRcConditionalSuccess : BitVec 8 := 0x01
def errlRcInvalidCmd : BitVec 8 := 0x11
def errlRcChecksumFail : BitVec 8 := 0x14
def errlRcInternalFail : BitVec 8 := 0x15
def errlRcCmdInProgress : BitVec 8 := 0xFF

/-- `CONVERT_UINT8_ARRAY_UINT16` of two bytes of a buffer. -/
def word (m : Buf) (i : Nat) : BitVec 16 := m i ++ m (i + 1)

/-- A word in two bytes of a buffer, the high one first. -/
def putWord (m : Buf) (i : Nat) (x : BitVec 16) : Buf := update (update m i (x.extractLsb' 8 8)) (i + 1) (x.extractLsb' 0 8)

/-- `checksum16`. -/
def checksum16 (m : Buf) (len : Nat) : BitVec 16 := Checksum.sum 16 m len

/-- The 16-bit length of a command or response: its data, the rest of its header and the length field. -/
def lengthWith (dataLen : BitVec 16) (header : Nat) : BitVec 16 :=
  dataLen + BitVec.ofNat 16 header + BitVec.ofNat 16 cmdhFspDatalenSize

namespace Cmd

variable (cmd : Buf)

def seq : BitVec 8 := cmd 0
def cmdType : BitVec 8 := cmd 1
def dataLen : BitVec 16 := word cmd 2

/-- `l_cmd_len`, which is not more than the buffer. -/
def cmdLen : Nat :=
  let len := (lengthWith (dataLen cmd) cmdhFspSeqCmdSize).toNat
  if cmdhFspCmdSize < len then cmdhFspCmdSize else len

/-- The checksum of the command is right. -/
def verified : Bool := decide (checksum16 cmd (cmdLen cmd) = word cmd (cmdLen cmd))

/-- The bytes that are read of the command: its header, the bytes of the checksum, and the checksum received. -/
def reads : List Nat := [0, 1, 2, 3] ++ List.range (cmdLen cmd) ++ [cmdLen cmd, cmdLen cmd + 1]

end Cmd

/-! ## Handlers -/

/-- The room for data in front of the checksum. -/
def rspDataMax : Nat := cmdhFspRspSize - cmdhFspSeqCmdRcSize - cmdhFspDatalenSize - cmdhFspChecksumSize

/-- What a handler leaves: the data of the response, the number of its bytes and `G_rsp_status`. No handler has more data
than there is room for: most have a fixed size, the others stop at `CMDH_FSP_RSP_DATA_SIZE`, and those of AMESTER one byte
below `G_amester_max_data_length`, which is 4090 at most. -/
structure HandlerRsp where
  dataLength : Nat
  data : Buf
  status : BitVec 8
  fits : dataLength ≤ rspDataMax

/-- The commands that have a handler. -/
def commands : List (BitVec 8) := [0x00, 0x12, 0x20, 0x21, 0x22, 0x25, 0x26, 0x35, 0x40, 0x41, 0x42, 0x53, 0x60]

/-- The handlers of the commands. -/
abbrev Handlers := BitVec 8 → Buf → HandlerRsp

def setDataLength (rsp : Buf) (n : BitVec 16) : Buf := putWord rsp 3 n

/-- The data of a response, within its buffer. -/
def putData (rsp : Buf) (data : Buf) : Buf := fun a => if 5 ≤ a ∧ a < cmdhFspRspSize then data (a - 5) else rsp a

/-- `cmdh_build_errl_rsp` with the status so far, the return code and the pointer to the log, if there is one, which may
point to a log: the response, the status and the id of the log. -/
def buildErrlRsp (rsp : Buf) (status rc : BitVec 8) (errl : Option (Option (BitVec 8))) (newLogId : BitVec 8) :
    Buf × BitVec 8 × BitVec 8 :=
  match errl with
  | some log =>
    let status :=
      if status = errlRcSuccess ∨ log = none then
        if rc = errlRcSuccess ∨ rc = errlRcConditionalSuccess then errlRcInternalFail else rc
      else status
    let logId := log.getD newLogId
    (setDataLength (update rsp 5 logId) 1, status, logId)
  | none => (setDataLength (update rsp 5 0) 1, errlRcInternalFail, 0)

/-- `cmdh_processTmgtRequest`: the response and `G_rsp_status`. -/
def processTmgtRequest (handlers : Handlers) (newLogId : BitVec 8) (cmd rsp : Buf) : Buf × BitVec 8 :=
  let rsp := setDataLength rsp 0
  if Cmd.cmdType cmd ∈ commands then
    let h := handlers (Cmd.cmdType cmd) cmd
    (setDataLength (putData rsp h.data) (BitVec.ofNat 16 h.dataLength), h.status)
  else
    let (rsp, status, _) := buildErrlRsp rsp errlRcSuccess errlRcInvalidCmd (some none) newLogId
    (rsp, status)

/-! ## The command handler -/

/-- A response that is in progress: zeroes, the sequence number and the type of the command, one byte of data. -/
def startRsp (cmd rsp : Buf) : Buf := fun a =>
  if a < cmdhFspRspSize then
    if a = 0 then Cmd.seq cmd else if a = 1 then Cmd.cmdType cmd else if a = 2 then errlRcCmdInProgress
    else if a = 4 then 1 else 0
  else rsp a

/-- The command is verified and handled. -/
def runCmd (handlers : Handlers) (newLogId : BitVec 8) (cmd rsp : Buf) : Buf × BitVec 8 :=
  if Cmd.verified cmd then processTmgtRequest handlers newLogId cmd rsp
  else (update (setDataLength rsp 1) 5 0, errlRcChecksumFail)

/-- The checksum, with the final status in place of the one in the buffer, and then the status. -/
def finishRsp (rsp : Buf) (status : BitVec 8) : Buf :=
  let len := (lengthWith (word rsp 3) cmdhFspSeqCmdRcSize).toNat
  let cksm := checksum16 rsp len + (status.setWidth 16 - errlRcCmdInProgress.setWidth 16)
  update (putWord rsp len cksm) 2 status

/-- The attention, the command in the linear window and the one in main memory, which of the six calls of the block copy
engine succeed, and the id of a log that is created. -/
structure Inputs where
  senderId : BitVec 8
  attnType : BitVec 8
  fspCmd : Buf
  homerCmd : Buf
  bceOk : Nat → Bool
  newLogId : BitVec 8

structure State where
  htmgtCmd : Buf
  fspRsp : Buf
  htmgtRsp : Buf
  homerRsp : Buf
  rspStatus : BitVec 8

/-- The state after a command, the bytes of the command buffer that were read, whether the command went to its handler, and
the final response, if there is one. -/
structure Result where
  state : State
  reads : List Nat
  dispatched : Bool
  handed : Option Buf

/-- The block copy engine copies a whole buffer. -/
def copyBuf (src dst : Buf) : Buf := fun a => if a < cmdhFspCmdSize then src a else dst a

variable (handlers : Handlers) (x : Inputs) (s : State)

/-- The sender of the attention and its type are known. -/
def Inputs.valid : Bool :=
  (decide (x.senderId = attnSenderIdFsp) || decide (x.senderId = attnSenderIdHtmgt) ||
    decide (x.senderId = attnSenderIdBmc)) && decide (x.attnType = attnTypeCmdWrite)

/-- A command from the host. -/
def htmgtCmdHndler : Result :=
  if !(x.bceOk 1 && x.bceOk 2) then ⟨s, [], false, none⟩
  else
    let cmd := copyBuf x.homerCmd s.htmgtCmd
    let rsp := startRsp cmd s.htmgtRsp
    let s := { s with htmgtCmd := cmd, htmgtRsp := rsp }
    if !(x.bceOk 3 && x.bceOk 4) then ⟨s, [0, 1], false, none⟩
    else
      let s := { s with homerRsp := copyBuf rsp s.homerRsp }
      let (rsp, status) := runCmd handlers x.newLogId cmd rsp
      let rsp := finishRsp rsp status
      let s := { s with htmgtRsp := rsp, rspStatus := status }
      if !(x.bceOk 5 && x.bceOk 6) then ⟨s, Cmd.reads cmd, Cmd.verified cmd, none⟩
      else
        let homerRsp := copyBuf rsp s.homerRsp
        ⟨{ s with homerRsp := homerRsp }, Cmd.reads cmd, Cmd.verified cmd, some homerRsp⟩

/-- A command from the FSP or the BMC. -/
def tmgtCmdHndler : Result :=
  let (rsp, status) := runCmd handlers x.newLogId x.fspCmd (startRsp x.fspCmd s.fspRsp)
  let rsp := finishRsp rsp status
  ⟨{ s with fspRsp := rsp, rspStatus := status }, Cmd.reads x.fspCmd, Cmd.verified x.fspCmd, some rsp⟩

/-- `cmdh_fsp_cmd_hndler`. -/
def cmdhFspCmdHndler : Result :=
  if !x.valid then ⟨s, [], false, none⟩
  else if x.senderId = attnSenderIdHtmgt then htmgtCmdHndler handlers x s
  else tmgtCmdHndler handlers x s

/-- The command buffer that is read. -/
def Inputs.cmd : Buf := if x.senderId = attnSenderIdHtmgt then copyBuf x.homerCmd s.htmgtCmd else x.fspCmd

end Occ.Cmdh
