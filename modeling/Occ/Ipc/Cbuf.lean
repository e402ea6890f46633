/-
The circular buffers of one IPC target (`ipc_core.c`): the senders' side of `ipc_send_msg`, the
target's interrupt handler, and enabling and disabling the target. Senders and the target run on
processors of their own; a step is one access to the shared counters or slots, or one to the interrupt
controller, where `counts64` is accessed as a whole. Flags in the messages, and what the message
handlers do, are left out.
-/
import Mathlib.Logic.Function.Basic

namespace Occ.Ipc

/-- `IPC_CBUF_SIZE`. -/
def ipcCbufSize : Nat := 8

/-- `OCCHW_INST_ID_MAX`. -/
def instIdMax : Nat := 4

/-- The return codes of `ipc_send_msg` for a valid target. -/
inductive IpcRc
  | success | bufferFull | targetBlocked
deriving DecidableEq, Repr

/-- Where a sender is in `ipc_send_msg`: the buffer was found not full, the message is in its slot, the
write count is incremented and the interrupt not raised. -/
inductive SendPc (M : Type)
  | idle
  | checked (msg : M)
  | stored (msg : M)
  | written
deriving DecidableEq, Repr

/-- The buffer of one sender, and where the sender is. -/
structure Cbuf (M : Type) where
  read : BitVec 8
  write : BitVec 8
  msgs : Nat → M
  send : SendPc M
  rc : IpcRc
  -- history: the messages put into the buffer, and those taken out, with whether they were processed or
  -- dropped
  sent : List M
  consumed : List (M × Bool)

namespace Cbuf

variable {M : Type} (b : Cbuf M)

def numEntries : Nat := (b.write - b.read).toNat

/-- `ipc_send_msg` up to the check of the counts. -/
def sendMsg (msg : M) : Cbuf M :=
  if b.numEntries < ipcCbufSize then { b with send := .checked msg }
  else if b.numEntries = ipcCbufSize then { b with rc := .bufferFull }
  else { b with rc := .targetBlocked }

def store (msg : M) : Cbuf M :=
  { b with msgs := Function.update b.msgs (b.write.toNat % ipcCbufSize) msg, send := .stored msg }

def publish (msg : M) : Cbuf M := { b with write := b.write + 1#8, sent := b.sent ++ [msg], send := .written }

/-- The message next in turn is handed to `ipc_process_msg`. -/
def process (msg : M) : Cbuf M := { b with read := b.read + 1#8, consumed := b.consumed ++ [(msg, true)] }

/-- What is consumed when everything written up to a write count is given up. -/
def dropUpTo (write : BitVec 8) : List (M × Bool) :=
  b.consumed ++ ((b.sent.take (b.sent.length - (b.write - write).toNat)).drop b.consumed.length).map fun m => (m, false)

/-- The read count that `ipc_enable` writes. -/
def enable (write : BitVec 8) : Cbuf M := { b with read := write, consumed := b.dropUpTo write }

/-- The read count that `ipc_disable` writes: more than full. -/
def disable (write : BitVec 8) : Cbuf M :=
  { b with read := write - BitVec.ofNat 8 (ipcCbufSize * 2), consumed := b.dropUpTo write }

end Cbuf

/-- Where the target is: in `ipc_irq_handler`, with the buffers it has yet to look at; in
`ipc_process_cbuf`, before its test, before and after it reads the slot, and in a message handler; in `ipc_enable` or `ipc_disable`, with the write
counts it has read, and where `ipc_disable` returns. -/
inductive TargetPc (M : Type)
  | idle
  | entered
  | cleared
  | scan (xored : Nat → BitVec 8)
  | cbuf (sender : Nat) (xored : Nat → BitVec 8)
  | found (sender : Nat) (xored : Nat → BitVec 8)
  | extracted (sender : Nat) (msg : M) (xored : Nat → BitVec 8)
  | processing (sender : Nat) (xored : Nat → BitVec 8)
  | enabling (writes : Option (Nat → BitVec 8))
  | disabling (i : Nat) (write : Option (BitVec 8)) (ret : TargetPc M)
  | halted

structure Target (M : Type) where
  cbuf : Nat → Cbuf M
  irqStatus : Bool
  irqMasked : Bool
  pc : TargetPc M
  /-- history: `ipc_disable` has been called -/
  disabled : Bool

/-- The first buffer whose counts differ, by counting leading zeros. -/
def firstNonempty (xored : Nat → BitVec 8) : Option Nat :=
  (List.range (instIdMax + 1)).find? fun s => xored s != 0#8

namespace Target

variable {M : Type} (k : Target M)

def modCbuf (s : Nat) (f : Cbuf M → Cbuf M) : Target M :=
  { k with cbuf := Function.update k.cbuf s (f (k.cbuf s)) }

/-- The rest of `ipc_send_msg`. -/
def sendStep (s : Nat) : Option (Target M) :=
  match (k.cbuf s).send with
  | .idle => none
  | .checked msg => some (k.modCbuf s (·.store msg))
  | .stored msg => some (k.modCbuf s (·.publish msg))
  | .written => some { k.modCbuf s fun b => { b with send := .idle, rc := .success } with irqStatus := true }

def receiverStep : Option (Target M) :=
  match k.pc with
  | .idle | .halted => none
  | .entered => some { k with irqStatus := false, pc := .cleared }
  | .cleared => some { k with pc := .scan fun s => (k.cbuf s).read ^^^ (k.cbuf s).write }
  | .scan xored =>
    match firstNonempty xored with
    | none => some { k with irqMasked := false, pc := .idle }
    | some s => some { k with pc := .cbuf s (Function.update xored s 0#8) }
  | .cbuf s xored =>
    if (k.cbuf s).read ≠ (k.cbuf s).write then some { k with pc := .found s xored }
    else some { k with pc := .scan xored }
  | .found s xored => some { k with pc := .extracted s ((k.cbuf s).msgs ((k.cbuf s).read.toNat % ipcCbufSize)) xored }
  | .extracted s msg xored => some { k.modCbuf s (·.process msg) with pc := .processing s xored }
  | .processing s xored => some { k with pc := .cbuf s xored }
  | .enabling none => some { k with pc := .enabling (some fun s => (k.cbuf s).write) }
  | .enabling (some writes) =>
    some { k with cbuf := fun s => (k.cbuf s).enable (writes s), irqMasked := false, pc := .idle }
  | .disabling i none ret =>
    if i ≤ instIdMax then some { k with pc := .disabling i (some (k.cbuf i).write) ret } else some { k with pc := ret }
  | .disabling i (some write) ret => some { k.modCbuf i (·.disable write) with pc := .disabling (i + 1) none ret }

/-- `ipc_disable` up to its loop. -/
def ipcDisable (ret : TargetPc M) : Target M :=
  { k with irqMasked := true, disabled := true, pc := .disabling 0 none ret }

end Target

/-! ## Steps -/

inductive IpcEvent (M : Type)
  | send (s : Nat) (msg : M)
  | sender (s : Nat)
  | interrupt
  | receiver
  | disable
  | enable
  | halt
  | boot

/-- The state after an event, when it can happen. A target is disabled by itself or, when it has halted,
by another one; it is enabled only after it was disabled; it boots with `ipc_init`. -/
def Target.next {M : Type} (k : Target M) : IpcEvent M → Option (Target M)
  | .send s msg =>
    match (k.cbuf s).send with
    | .idle => if s ≤ instIdMax then some (k.modCbuf s (·.sendMsg msg)) else none
    | _ => none
  | .sender s => if s ≤ instIdMax then k.sendStep s else none
  | .interrupt =>
    match k.pc with
    | .idle => if k.irqStatus && !k.irqMasked then some { k with irqMasked := true, pc := .entered } else none
    | _ => none
  | .receiver => k.receiverStep
  | .disable =>
    match k.pc with
    | .idle | .halted | .processing _ _ => some (k.ipcDisable k.pc)
    | _ => none
  | .enable =>
    match k.pc with
    | .idle => if k.irqMasked then some { k with irqStatus := false, pc := .enabling none } else none
    | _ => none
  | .halt => some { k with pc := .halted }
  | .boot =>
    match k.pc with
    | .halted => some (k.ipcDisable .idle)
    | _ => none

/-- A target as its first `ipc_init` leaves it, whatever was in its memory. -/
def Target.ipcInit {M : Type} (writes : Nat → BitVec 8) (msgs : Nat → Nat → M) : Target M where
  cbuf s :=
    { read := writes s - BitVec.ofNat 8 (ipcCbufSize * 2), write := writes s, msgs := msgs s
      send := .idle, rc := .success, sent := [], consumed := [] }
  irqStatus := false
  irqMasked := true
  pc := .idle
  disabled := false

end Occ.Ipc
