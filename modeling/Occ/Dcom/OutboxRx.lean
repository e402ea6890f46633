/-
The reception of the slaves' outboxes on the master (`dcomMasterRx.c`): the doorbells of a tick are read, each of
them has an outbox copied from main memory by a request of its own, and the masks of the OCCs that respond are
updated. The doorbells come from other chips, so what is in them is part of the input, as is the address of the
local variable that the requests hand to their callback. Traces, time statistics and error history counts are left
out.
-/
import Occ.Dcom.CopyRequest
import Occ.Lib.Transition
import Mathlib.Logic.Function.Basic

namespace Occ.Dcom

open Ssx Transition
open Function (update)

/-! ## State -/

def maxNumOcc : Nat := 4
def maxWaitForSlaves : Nat := 400
def dcom4MsGap : BitVec 16 := 8
def dcom1SGap : BitVec 16 := 4000

/-- A doorbell in the queue, with the OCC that sent it, which nothing reads. -/
structure ReceivedDoorbell where
  doorbell : SlvOutboxDoorbell
  sender : Nat
deriving DecidableEq, Repr

/-- `INTERNAL_FAILURE` with `ERC_GENERIC_TIMEOUT`; `SSX_GENERIC_FAILURE` with `ERC_BCE_REQUEST_CREATE_FAILURE` or
`ERC_BCE_REQUEST_SCHEDULE_FAILURE`; `INTERNAL_INVALID_INPUT_DATA` for an address. -/
inductive RxOutboxError
  | genericTimeout | bceRequestCreateFailure | bceRequestScheduleFailure | invalidInputData
deriving DecidableEq, Repr

/-- `slave_pcap_info_t`. -/
structure SlavePcapInfo where
  activePcap : BitVec 16
  pcapValid : BitVec 8
deriving DecidableEq, Repr

/-- A request of `G_slv_outbox_rx_pba_request` (no state before it was created) with its
`L_bce_slv_outbox_rx_request_created_once`. -/
structure RxRequest where
  state : Option RequestState
  createdOnce : Bool
  addr : BitVec 32
  arg : BitVec 32
deriving DecidableEq, Repr

/-- A copy that was scheduled: where to, where from, and the OCC whose doorbell asked for it. -/
structure OutboxCopy where
  slot : Nat
  addr : BitVec 32
  sender : Nat
deriving DecidableEq, Repr

/-- The arrays by OCC are functions, as an index may lie behind them. -/
structure OutboxRx where
  activePcaps : Nat → SlavePcapInfo
  requests : Nat → RxRequest
  wait4slaves : BitVec 32
  slvOutboxComplete : BitVec 8
  isOccPresent : BitVec 8
  occNumPresent : BitVec 8
  sysNumProcPresent : BitVec 8
  alive : BitVec 8
  zombie : BitVec 8
  dead : BitVec 8
  failCount : BitVec 16
  logs : List RxOutboxError
  resetRequested : Bool
  -- history: the indices of the arrays by OCC, the copies scheduled, the OCCs of which a copy was completed, how
  -- often the task has run, in how many ticks on end doorbells are missing, and whether the timeout was raised since
  indexes : List Nat
  copies : List OutboxCopy
  completed : Nat → Bool
  ticks : Nat
  missing : Nat
  timedOut : Bool

/-! ## Code -/

/-- `dcom_calc_slv_outbox_addr`, with the OCC. -/
def dcomCalcSlvOutboxAddr (d : SlvOutboxDoorbell) : BitVec 32 × BitVec 8 := (d.addrSlvOutboxBuffer, d.chipId)

/-- The address lies inside the outboxes. -/
def outboxAddrValid (addr : BitVec 32) : Bool :=
  slaveOutboxPingCommonAddress ≤ addr &&
    addr < slaveOutboxPongCommonAddress + BitVec.ofNat 32 (sizeofSlvOutbox * maxOccs)

namespace RxRequest

variable (q : RxRequest)

/-- `async_request_is_idle`, `async_request_completed`. -/
def reqIdle : Bool := q.state.any RequestState.isIdle
def reqComplete : Bool := q.state == some .complete

/-- Whether the task goes on to create and schedule the request. -/
def proceed : Bool :=
  if !q.createdOnce then true
  else if q.reqIdle && q.reqComplete then true
  else if q.reqIdle && !q.reqComplete then true
  else false

end RxRequest

namespace OutboxRx

variable (s : OutboxRx)

/-- The caps of the doorbell are stored for its OCC. -/
def storePcap (slv : Nat) (d : SlvOutboxDoorbell) : OutboxRx :=
  { s with activePcaps := update s.activePcaps slv ⟨d.activeNodePcap, d.pcapValid⟩ }

def access (indices : List Nat) : OutboxRx := { s with indexes := indices ++ s.indexes }

/-- `bce_request_create`, and the flag that it was. -/
def createRequest (slv : Nat) (addr arg : BitVec 32) : OutboxRx :=
  { s with requests := update s.requests slv ⟨some .initialized, true, addr, arg⟩ }

/-- `bce_request_schedule` on a request that was created. -/
def scheduleRequest (slv : Nat) (addr arg : BitVec 32) (state : RequestState) (sender : Nat) : OutboxRx :=
  { s with
    requests := update s.requests slv ⟨some state, true, addr, arg⟩
    copies := ⟨slv, addr, sender⟩ :: s.copies }

/-- A turn of the loop over the doorbells, on the one with index `i`; `slvAddr` is the address of `l_slv`. -/
def rxDoorbell (slvAddr : BitVec 32) (i : Nat) (r : ReceivedDoorbell) (o : Scheduling) : OutboxRx × Option RxOutboxError :=
  let (addr, slv) := dcomCalcSlvOutboxAddr r.doorbell
  let slv := slv.toNat
  let s := (s.storePcap slv r.doorbell).access [i, slv]
  if outboxAddrValid addr then
    if (s.requests slv).proceed then
      match o with
      | .createFailed => (s, some .bceRequestCreateFailure)
      | .scheduleFailed => (s.createRequest slv addr slvAddr, some .bceRequestScheduleFailure)
      | .queued => (s.scheduleRequest slv addr slvAddr .queued r.sender, none)
      | .started => (s.scheduleRequest slv addr slvAddr .running r.sender, none)
    else (s, none)
  else (s, some .invalidInputData)

end OutboxRx

/-- The loop over the doorbells, with `l_slv_response_mask`; an error ends it. -/
def rxDoorbells (slvAddr : BitVec 32) :
    Nat → List (ReceivedDoorbell × Scheduling) → OutboxRx → BitVec 8 → OutboxRx × BitVec 8 × Option RxOutboxError
  | _, [], s, mask => (s, mask, none)
  | i, (r, o) :: rs, s, mask =>
    let mask := mask ||| (1#8 <<< r.doorbell.chipId.toNat)
    match s.rxDoorbell slvAddr i r o with
    | (s, none) => rxDoorbells slvAddr (i + 1) rs s mask
    | (s, some e) => (s, mask, some e)

/-- `dcom_rx_slv_outbox_doorbell`: as many doorbells as the array can hold. -/
def dcomRxSlvOutboxDoorbell (queue : List (ReceivedDoorbell × Scheduling)) : List (ReceivedDoorbell × Scheduling) :=
  queue.take maxOccs

/-- `__builtin_popcount` on a mask. -/
def popcount (mask : BitVec 8) : Nat := (List.range 8).countP mask.getLsbD

namespace OutboxRx

variable (s : OutboxRx)

/-- The number of OCCs is updated only if there is a new one. -/
def updatePresent (mask : BitVec 8) : OutboxRx :=
  if s.isOccPresent ||| mask ≠ s.isOccPresent then
    { s with
      isOccPresent := s.isOccPresent ||| mask
      occNumPresent := BitVec.ofNat 8 (popcount (s.isOccPresent ||| mask))
      sysNumProcPresent := BitVec.ofNat 8 (popcount (s.isOccPresent ||| mask)) }
  else s

def updateStatusMask (mask : BitVec 8) : OutboxRx :=
  { s with alive := mask, zombie := s.isOccPresent &&& ~~~mask, dead := ~~~s.isOccPresent }

/-- `dcom_error_check` and `dcom_error_check_reset` for the outboxes. -/
def dcomErrorCheck : Option RxOutboxError → OutboxRx
  | none => { s with failCount := 0 }
  | some e =>
    let count := s.failCount + 1
    if count = dcom4MsGap then { s with failCount := count, logs := e :: s.logs }
    else if count = dcom1SGap then { s with failCount := count, logs := e :: s.logs, resetRequested := true }
    else { s with failCount := count }

/-- Fewer doorbells than OCCs. -/
def tooFew (queue : List (ReceivedDoorbell × Scheduling)) : Bool :=
  (dcomRxSlvOutboxDoorbell queue).length < s.occNumPresent.toNat

/-- The part of the task up to the update of the masks. -/
def receive (slvAddr : BitVec 32) (queue : List (ReceivedDoorbell × Scheduling)) :
    OutboxRx × BitVec 8 × Option RxOutboxError :=
  if s.tooFew queue && maxWaitForSlaves < s.wait4slaves.toNat then (s, 0, some .genericTimeout)
  else
    let s := if s.tooFew queue then { s with wait4slaves := s.wait4slaves + 1 } else s
    let (s, mask, err) := rxDoorbells slvAddr 0 (dcomRxSlvOutboxDoorbell queue) s 0
    ({ s with wait4slaves := 0 }, mask, err)

/-- What the task adds to the history. -/
def record (few : Bool) (err : Option RxOutboxError) : OutboxRx :=
  { s with
    ticks := s.ticks + 1
    missing := if few then s.missing + 1 else 0
    timedOut := err == some .genericTimeout || (few && s.timedOut) }

end OutboxRx

/-- `task_dcom_rx_slv_outboxes`. -/
def taskDcomRxSlvOutboxes (slvAddr : BitVec 32) (queue : List (ReceivedDoorbell × Scheduling)) (s : OutboxRx) : OutboxRx :=
  let few := s.tooFew queue
  let (s, mask, err) := s.receive slvAddr queue
  (((s.updatePresent mask).updateStatusMask mask).dcomErrorCheck err).record few err

/-- `setbit_slvoutbox_complete`. -/
def setbitSlvoutboxComplete (bit : BitVec 8) (complete : BitVec 8) : BitVec 8 :=
  if bit.toNat < maxNumOcc then complete ||| (1#8 <<< bit.toNat) else complete

/-! ## Steps -/

/-- The task, with the address of its local variable and the queue with what becomes of each request; the copy engine
starts the request of an OCC, or ends it. -/
inductive OutboxRxEvent
  | tick (slvAddr : BitVec 32) (queue : List (ReceivedDoorbell × Scheduling))
  | start (slv : Nat)
  | finish (slv : Nat) (failed : Bool)
deriving DecidableEq, Repr

/-- The request is over. The callback has a byte as its parameter and gets the request's argument, which is an address,
so that it takes the lowest byte of it. -/
def OutboxRx.finish (s : OutboxRx) (slv : Nat) (failed : Bool) : OutboxRx :=
  let q := s.requests slv
  { s with
    requests := update s.requests slv { q with state := some (if failed then .failed else .complete) }
    slvOutboxComplete := setbitSlvoutboxComplete (q.arg.setWidth 8) s.slvOutboxComplete
    completed := update s.completed slv true }

def outboxRxNext (s : OutboxRx) : OutboxRxEvent → Option OutboxRx
  | .tick slvAddr queue => some (taskDcomRxSlvOutboxes slvAddr queue s)
  | .start slv =>
    if (s.requests slv).state = some .queued then
      some { s with requests := update s.requests slv { s.requests slv with state := some .running } }
    else none
  | .finish slv failed => if (s.requests slv).state = some .running then some (s.finish slv failed) else none

end Occ.Dcom
