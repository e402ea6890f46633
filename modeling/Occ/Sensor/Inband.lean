/-
In-band commands (`sensor_inband_cmd.c`): the check for a command and the handler run in the tick, one
after the other; the block copy engine's interrupt can come between any two of their accesses to the
state, and runs the callback as it ends a request. The functions that execute a command are outside of
the model: what they return comes with the step.
-/
import Occ.Lib.Literals
import Mathlib

namespace Occ.Sensor

attribute [local instance] lawfulBEq_byte

/-! ## Data -/

/-- `INBAND_OCC_CMD_STATE`. -/
inductive CmdState
  | none
  | checkForCmd
  | start
  | rspReady
  | rspInt
  | invalidBceCallback
deriving DecidableEq, Repr

/-- A command buffer: the header, whose data length is two bytes long, and the data. -/
structure Command where
  flags : BitVec 8
  seq : BitVec 8
  cmdType : BitVec 8
  dataLength : Nat
  data : List (BitVec 8)
deriving DecidableEq, Repr

/-- The header of a response, and its data. -/
structure Response where
  flags : BitVec 8
  seq : BitVec 8
  cmdType : BitVec 8
  rc : Nat
  data : List (BitVec 8)
deriving DecidableEq, Repr

/-- A block copy: the response up to main memory, or the command down. -/
inductive BceCopy
  | rsp | cmd
deriving DecidableEq, Repr

/-- A buffer after `memset`. -/
def zeroCommand : Command := ⟨0, 0, 0, 0, []⟩

def cmdReadyMask : BitVec 8 := 0x80
def rspReadyMask : BitVec 8 := 0x01
def maxTicsWait : Nat := 3

/-- `sizeof(inband_occ_cmd_header_t)`. -/
def cmdHeaderSize : Nat := 6
def minBceBufSize : Nat := 128
def maxBceBufSize : Nat := 4096

/-- `ERRL_RC_INVALID_CMD` and `ERRL_RC_INVALID_CMD_LEN`. -/
def rcInvalidCmd : Nat := 0x11
def rcInvalidCmdLen : Nat := 0x12

/-- `CMDH_CLEAR_SENSOR_DATA`, `CMDH_SET_PCAP_INBAND`, `CMDH_WRITE_PSR` and `CMDH_SELECT_SENSOR_GROUPS`. -/
def inbandCmds : List (BitVec 8) := [0xD0, 0xD1, 0xD2, 0xD3]

/-- Where the tick is: in none of the functions, or before the next access of one. -/
inductive InbandPc
  | idle
  -- `inband_command_check`
  | checkState | checkClear | checkSet | checkIdle | checkSchedule | checkScheduled | checkFail
  -- the tests of `inband_command_handler`, in their order
  | testStart | testInt | testCheck | testReady | testInvalid
  -- a command is executed and its response copied
  | execute | rspSet | rspIdle | rspSchedule | rspScheduled | rspFail
  -- the host is notified
  | notify | notified
  -- waiting for the callback
  | wait | timeout
  -- an invalid state
  | reset
deriving DecidableEq, Repr

structure Inband where
  state : CmdState
  savedState : CmdState
  /-- `G_bce_callback_wait` -/
  wait : Nat
  reqScheduled : Bool
  minBuf : Command
  maxBuf : Response
  processedOne : Bool
  lastSeq : BitVec 8
  pc : InbandPc
  /-- the requests that the engine has not finished -/
  inFlight : List BceCopy
  -- main memory
  cmdMem : Command
  rspMem : Response
  -- history: whether the minimum buffer is as a copy left it; the sequence numbers that were accepted and
  -- those that were executed, the latest first, the latter with whether the buffer was; the response copies
  -- that ended, those that ended while the handler waits for them, and the host interrupts
  copied : Bool
  accepted : List (BitVec 8)
  executed : List (BitVec 8 × Bool)
  rspEnded : Nat
  rspAwaited : Nat
  interrupts : Nat

namespace Inband

variable (k : Inband)

/-! ## The callback -/

/-- `inband_cmd_bce_callback`. -/
def bceCallback : Inband :=
  match k.state with
  | .checkForCmd =>
    if (¬k.processedOne ∨ k.processedOne ∧ k.minBuf.seq ≠ k.lastSeq) ∧ k.minBuf.flags &&& cmdReadyMask = cmdReadyMask then
      { k with
        state := .start
        processedOne := true
        lastSeq := k.minBuf.seq
        accepted := k.minBuf.seq :: k.accepted }
    else { k with state := .none }
  | .rspReady => { k with state := .rspInt }
  | _ => { k with savedState := k.state, state := .invalidBceCallback }

/-- The engine's copy of a request's bytes, which has an error when not `ok`. -/
def copy (c : BceCopy) (ok : Bool) : Inband :=
  match c with
  | .cmd => if ok then { k with minBuf := k.cmdMem, copied := true } else k
  | .rsp =>
    { k with
      rspMem := if ok then k.maxBuf else k.rspMem
      rspEnded := k.rspEnded + 1
      rspAwaited := if k.state = .rspReady then k.rspAwaited + 1 else k.rspAwaited }

/-- The engine ends a request and runs the callback. -/
def complete (c : BceCopy) (rest : List BceCopy) (ok : Bool) : Inband :=
  ({ k with inFlight := rest }.copy c ok).bceCallback

/-! ## The tick -/

/-- The return code and the response of a command; `result` are those of the function for its type. -/
def processCmd (cmd : Command) (result : Nat × List (BitVec 8)) : Nat × List (BitVec 8) :=
  if minBceBufSize - cmdHeaderSize < cmd.dataLength then (rcInvalidCmdLen, [])
  else if cmd.cmdType ∈ inbandCmds then result
  else (rcInvalidCmd, [])

/-- The size of a response's copy, rounded up to lines. -/
def rspCopySize (length : Nat) : Nat :=
  let size := cmdHeaderSize + length
  if size % 128 = 0 then size else size + (128 - size % 128)

/-- `inband_cmd_is_bce_req_idle`. -/
def isBceReqIdle : Bool := !k.reqScheduled || k.inFlight.isEmpty

/-- One access of the function that runs; `ok` says whether a request can be created and scheduled, `result`
is what the command's function returns. -/
def tick (ok : Bool) (result : Nat × List (BitVec 8)) : Inband :=
  match k.pc with
  | .idle => k
  | .checkState => if k.state = .none then { k with pc := .checkClear } else { k with pc := .idle }
  | .checkClear => { k with pc := .checkSet, minBuf := zeroCommand, copied := false }
  | .checkSet => { k with pc := .checkIdle, state := .checkForCmd, wait := 0 }
  | .checkIdle =>
    if k.isBceReqIdle then { k with pc := .checkSchedule, reqScheduled := false } else { k with pc := .checkFail }
  | .checkSchedule =>
    if ok then { k with pc := .checkScheduled, inFlight := .cmd :: k.inFlight } else { k with pc := .checkFail }
  | .checkScheduled => { k with pc := .idle, reqScheduled := true }
  | .checkFail => { k with pc := .idle, state := .none }
  | .testStart => if k.state = .start then { k with pc := .execute } else { k with pc := .testInt }
  | .testInt => if k.state = .rspInt then { k with pc := .notify } else { k with pc := .testCheck }
  | .testCheck => if k.state = .checkForCmd then { k with pc := .wait } else { k with pc := .testReady }
  | .testReady => if k.state = .rspReady then { k with pc := .wait } else { k with pc := .testInvalid }
  | .testInvalid =>
    if k.state = .invalidBceCallback then { k with pc := .idle, state := .none, savedState := .none }
    else { k with pc := .reset }
  | .execute =>
    let r := processCmd k.minBuf result
    { k with
      pc := .rspSet
      maxBuf := ⟨rspReadyMask, k.minBuf.seq, k.minBuf.cmdType, r.1, r.2⟩
      executed := (k.minBuf.seq, k.copied && k.inFlight.isEmpty) :: k.executed }
  | .rspSet => { k with pc := .rspIdle, wait := 0, state := .rspReady }
  | .rspIdle =>
    if maxBceBufSize < rspCopySize k.maxBuf.data.length then { k with pc := .rspFail }
    else if k.isBceReqIdle then { k with pc := .rspSchedule, reqScheduled := false }
    else { k with pc := .rspFail }
  | .rspSchedule =>
    if ok then { k with pc := .rspScheduled, inFlight := .rsp :: k.inFlight } else { k with pc := .rspFail }
  | .rspScheduled => { k with pc := .idle, reqScheduled := true }
  | .rspFail => { k with pc := .idle, state := .none }
  | .notify => { k with pc := .notified, interrupts := k.interrupts + 1 }
  | .notified => { k with pc := .idle, state := .none }
  | .wait =>
    let wait := (k.wait + 1) % 2 ^ 8
    { k with wait := wait, pc := if wait = maxTicsWait then .timeout else .idle }
  | .timeout => { k with pc := .idle, state := .none }
  | .reset => { k with pc := .idle, state := .none }

end Inband

/-! ## Steps -/

inductive InbandEvent
  /-- the host writes its command buffer -/
  | post (cmd : Command)
  | check
  /-- the handler, which is called when there is something to handle -/
  | handler
  | tick (ok : Bool) (result : Nat × List (BitVec 8))
  | complete (ok : Bool)
deriving DecidableEq, Repr

/-- The state after an event, when it can happen. -/
def Inband.next (k : Inband) : InbandEvent → Option Inband
  | .post cmd => some { k with cmdMem := cmd }
  | .check => if k.pc = .idle then some { k with pc := .checkState } else none
  | .handler => if k.pc = .idle ∧ k.state ≠ .none then some { k with pc := .testStart } else none
  | .tick ok result => if k.pc = .idle then none else some (k.tick ok result)
  | .complete ok =>
    match k.inFlight with
    | [] => none
    | c :: rest => some (k.complete c rest ok)

def Inband.start (cmdMem : Command) (rspMem : Response) : Inband where
  state := .none
  savedState := .none
  wait := 0
  reqScheduled := false
  minBuf := zeroCommand
  maxBuf := ⟨0, 0, 0, 0, []⟩
  processedOne := false
  lastSeq := 0
  pc := .idle
  inFlight := []
  cmdMem := cmdMem
  rspMem := rspMem
  copied := false
  accepted := []
  executed := []
  rspEnded := 0
  rspAwaited := 0
  interrupts := 0

end Occ.Sensor
