/-
SCOM access through the SBE FIFO (`firdata/sbe_fifo.c`): a request is written word by word into the upstream FIFO, and the
response is read word by word from the downstream FIFO, up to the end of the transfer.
-/
import Mathlib.Data.BitVec

namespace Occ.Firdata.SbeFifo

/-! ## Access to the registers of the FIFO -/

/-- `SUCCESS` -/
def success : BitVec 32 := 0

-- the return codes of `sbe_fifo.c`
def rcRespDataOverflow : BitVec 32 := 1001
def rcRespMinSizeInvalid : BitVec 32 := 1002
def rcRespDistanceInvalid : BitVec 32 := 1003
def rcRespMagicWordInvalid : BitVec 32 := 1004
def rcRespUnexpectedCmd : BitVec 32 := 1005
def rcRespUnexpectedDataSize : BitVec 32 := 1006
def rcRespDnFifoReadyTimedout : BitVec 32 := 1007
def rcRespScomError : BitVec 32 := 1010
def rcFifoTimeoutUp : BitVec 32 := 1021
def rcFifoTimeoutDn : BitVec 32 := 1022
def rcFifoTimeoutReset : BitVec 32 := 1023

-- `SBE_FIFO_...`, the addresses of the registers
def upfifoDataIn : BitVec 32 := 0x2400
def upfifoStatus : BitVec 32 := 0x2404
def upfifoSigEot : BitVec 32 := 0x2408
def upfifoReqReset : BitVec 32 := 0x240C
def dnfifoDataOut : BitVec 32 := 0x2440
def dnfifoStatus : BitVec 32 := 0x2444
def dnfifoAckEot : BitVec 32 := 0x2454
def dnfifoMaxTsfr : BitVec 32 := 0x2458

/-- `FSB_UPFIFO_SIG_EOT` -/
def fsbUpfifoSigEot : BitVec 32 := 0x80000000

-- bits of the status registers
def upfifoStatusFifoFull : BitVec 32 := 0x00200000
def upfifoStatusFifoNotready : BitVec 32 := 0x02000000
def dnfifoStatusFifoEmpty : BitVec 32 := 0x00100000
def dnfifoStatusDequeuedEotFlag : BitVec 32 := 0x00800000

/-- `READ_BUFFER_SIZE` -/
def readBufferSize : Nat := 8

/-- An access, with what came back. -/
inductive FsiAccess
  | get (addr rc data : BitVec 32)
  | put (addr data rc : BitVec 32)
deriving DecidableEq, Repr

/-- What `getfsi` and `putfsi` answer after what was accessed before, and what `readBuffer` holds before it is written. -/
structure Fsi where
  get : List FsiAccess → BitVec 32 → BitVec 32 × BitVec 32
  put : List FsiAccess → BitVec 32 → BitVec 32 → BitVec 32
  stack : List FsiAccess → Vector (BitVec 32) readBufferSize

/-- A return code and the accesses so far. -/
structure Reply where
  rc : BitVec 32
  log : List FsiAccess
deriving DecidableEq, Repr

/-- A reply with a word. -/
structure WordReply extends Reply where
  data : BitVec 32
deriving DecidableEq, Repr

/-- A reply with the data of a register, `o_responseData`. -/
structure DataReply extends Reply where
  data : BitVec 64
deriving DecidableEq, Repr

/-- What the code must not do. -/
inductive Fault
  | outOfBuffer
  | endless
deriving DecidableEq, Repr

section
variable (f : Fsi)

def getfsi (addr : BitVec 32) (log : List FsiAccess) : WordReply where
  rc := (f.get log addr).1
  log := log ++ [.get addr (f.get log addr).1 (f.get log addr).2]
  data := (f.get log addr).2

def putfsi (addr data : BitVec 32) (log : List FsiAccess) : Reply where
  rc := f.put log addr data
  log := log ++ [.put addr data (f.put log addr data)]

/-! ## Waiting -/

/-- The loops that read a status until it is as wanted, or `MAX_UP_FIFO_TIMEOUT_NS` have passed. -/
def poll (addr : BitVec 32) (ready : BitVec 32 → Bool) (timeout : BitVec 32) : Nat → List FsiAccess → WordReply
  | 0, log =>
    let r := getfsi f addr log
    if r.rc ≠ success ∨ ready r.data then r else { r with rc := timeout }
  | waits + 1, log =>
    let r := getfsi f addr log
    if r.rc ≠ success ∨ ready r.data then r else poll addr ready timeout waits r.log

/-- `MAX_UP_FIFO_TIMEOUT_NS`, in waits of 10,000 ns -/
def maxWaits : Nat := 10 * 1000000 / 10000

def waitUpFifoReady (log : List FsiAccess) : WordReply :=
  poll f upfifoStatus (fun data => data &&& upfifoStatusFifoFull == 0) rcFifoTimeoutUp maxWaits log

def waitDnFifoReady (log : List FsiAccess) : WordReply :=
  poll f dnfifoStatus (fun data => data &&& dnfifoStatusFifoEmpty == 0 || data &&& dnfifoStatusDequeuedEotFlag != 0)
    rcFifoTimeoutDn maxWaits log

def upFifoReset (log : List FsiAccess) : Reply :=
  let p := putfsi f upfifoReqReset 0xDEAD log
  if p.rc ≠ success then p
  else (poll f upfifoStatus (fun data => data &&& upfifoStatusFifoNotready == 0) rcFifoTimeoutReset maxWaits p.log).toReply

/-! ## Requests -/

/-- The words of the request from the `i`-th on, `n` of them. -/
def sendWords (request : List (BitVec 32)) : Nat → Nat → List FsiAccess → Except Fault Reply
  | 0, _, log => .ok ⟨success, log⟩
  | n + 1, i, log =>
    let w := waitUpFifoReady f log
    if w.rc ≠ success then .ok w.toReply
    else match request[i]? with
      | none => .error .outOfBuffer
      | some word =>
        let p := putfsi f upfifoDataIn word w.log
        if p.rc ≠ success then .ok p else sendWords request n (i + 1) p.log

/-- `writeRequest`; the first word says how many there are. -/
def writeRequest (request : List (BitVec 32)) (log : List FsiAccess) : Except Fault Reply :=
  let p := putfsi f dnfifoMaxTsfr 0 log
  if p.rc ≠ success then .ok p
  else match request[0]? with
    | none => .error .outOfBuffer
    | some count => do
      let s ← sendWords f request count.toNat 0 p.log
      if s.rc ≠ success then return s
      let w := waitUpFifoReady f s.log
      if w.rc ≠ success then return w.toReply
      return putfsi f upfifoSigEot fsbUpfifoSigEot w.log

/-! ## Responses -/

/-- `TimeoutForStartOfTrx` -/
def timeoutForStartOfTrx : Nat := 0x1000

/-- The loop that waits for the start of the transfer. -/
def awaitTransfer : Nat → List FsiAccess → Reply
  | 0, log => ⟨rcRespDnFifoReadyTimedout, log⟩
  | ticks + 1, log =>
    let s := waitDnFifoReady f log
    if s.rc ≠ success then s.toReply
    else if s.data &&& dnfifoStatusFifoEmpty ≠ 0 then awaitTransfer ticks s.log
    else ⟨success, s.log⟩

/-- What has been read: `readBuffer` and `wordsReceived`. -/
structure Received extends Reply where
  readBuffer : Vector (BitVec 32) readBufferSize
  wordsReceived : BitVec 32

/-- The loop that reads the words, which `fuel` bounds. -/
def readWords : Nat → Vector (BitVec 32) readBufferSize → BitVec 32 → List FsiAccess → Except Fault Received
  | 0, _, _, _ => .error .endless
  | fuel + 1, readBuffer, wordsReceived, log =>
    let s := waitDnFifoReady f log
    if s.rc ≠ success then .ok ⟨s.toReply, readBuffer, wordsReceived⟩
    -- the last word is a dummy for the end of the transfer
    else if s.data &&& dnfifoStatusDequeuedEotFlag ≠ 0 then
      .ok ⟨⟨success, s.log⟩, readBuffer, if 0 < wordsReceived then wordsReceived - 1 else wordsReceived⟩
    else if readBufferSize ≤ wordsReceived.toNat then .ok ⟨⟨rcRespDataOverflow, s.log⟩, readBuffer, wordsReceived⟩
    else if hroom : wordsReceived.toNat < readBufferSize then
      let g := getfsi f dnfifoDataOut s.log
      let readBuffer := readBuffer.set wordsReceived.toNat g.data hroom
      if g.rc ≠ success then .ok ⟨g.toReply, readBuffer, wordsReceived⟩
      else readWords fuel readBuffer (wordsReceived + 1) g.log
    else .error .outOfBuffer

/-- A word of `readBuffer`. -/
def loadWord (readBuffer : Vector (BitVec 32) readBufferSize) (i : BitVec 32) : Except Fault (BitVec 32) :=
  match readBuffer[i.toNat]? with
  | some word => .ok word
  | none => .error .outOfBuffer

/-- `sizeof(FifoRespStatus_t)` and the distance, in words -/
def minWords : BitVec 32 := 3

/-- `FIFO_STATUS_MAGIC` -/
def fifoStatusMagic : BitVec 16 := 0xC0DE

/-- `command.s.type` of a `FifoCmd_t` -/
def cmdType (cmd : BitVec 16) : BitVec 8 := cmd.setWidth 8

/-- `SBE_FIFO_CMD_GET_SCOM` -/
def sbeFifoCmdGetScom : BitVec 8 := 0x01

/-- `expDataWords` -/
def expDataWords (cmd : BitVec 16) : BitVec 32 := if cmdType cmd = sbeFifoCmdGetScom then 2 else 0

/-- The checks of the status and the data of a response. -/
def checkStatus (cmd : BitVec 16) (status numDataWords : BitVec 32) (data : BitVec 64) : BitVec 32 × BitVec 64 :=
  -- `primaryStatus` and `secondaryStatus`
  if status.extractLsb' 16 16 ≠ 0 ∨ status.extractLsb' 0 16 ≠ 0 then (rcRespScomError, data)
  else if expDataWords cmd ≠ numDataWords then (rcRespUnexpectedDataSize, data)
  else (success, data)

/-- The checks of a response that has been read. -/
def checkResponse (cmd : BitVec 16) (readBuffer : Vector (BitVec 32) readBufferSize) (wordsReceived : BitVec 32) :
    Except Fault (BitVec 32 × BitVec 64) :=
  if wordsReceived < minWords then .ok (rcRespMinSizeInvalid, 0)
  else do
    let distance ← loadWord readBuffer (wordsReceived - 1)
    if distance < minWords ∨ wordsReceived < distance then return (rcRespDistanceInvalid, 0)
    let numDataWords := wordsReceived - distance
    let header ← loadWord readBuffer numDataWords
    if header.extractLsb' 16 16 ≠ fifoStatusMagic then return (rcRespMagicWordInvalid, 0)
    if header.extractLsb' 0 16 ≠ cmd then return (rcRespUnexpectedCmd, 0)
    let data ← if cmdType cmd = sbeFifoCmdGetScom ∧ expDataWords cmd = numDataWords then do
        let high ← loadWord readBuffer 0
        let low ← loadWord readBuffer 1
        pure (high ++ low)
      else pure 0
    let status ← loadWord readBuffer (numDataWords + 1)
    return checkStatus cmd status numDataWords data

def readResponse (cmd : BitVec 16) (log : List FsiAccess) : Except Fault DataReply :=
  let t := awaitTransfer f timeoutForStartOfTrx log
  if t.rc ≠ success then .ok ⟨t, 0⟩
  else do
    let r ← readWords f (readBufferSize + 1) (f.stack log) 0 t.log
    if r.rc ≠ success then return ⟨r.toReply, 0⟩
    let p := putfsi f dnfifoAckEot fsbUpfifoSigEot r.log
    if p.rc ≠ success then return ⟨p, 0⟩
    let c ← checkResponse cmd r.readBuffer r.wordsReceived
    return ⟨⟨c.1, p.log⟩, c.2⟩

/-! ## SCOM operations -/

/-- The class of all commands here is `SBE_FIFO_CLASS_SCOM_ACCESS`. -/
def putScomCmd : BitVec 16 := 0xA202

def getScomCmd : BitVec 16 := 0xA201

/-- `fifoPutScomRequest` -/
def putScomRequest (addr data : BitVec 64) : List (BitVec 32) :=
  [6, (0 : BitVec 16) ++ putScomCmd, addr.extractLsb' 32 32, addr.extractLsb' 0 32, data.extractLsb' 32 32,
    data.extractLsb' 0 32]

/-- `fifoGetScomRequest` -/
def getScomRequest (addr : BitVec 64) : List (BitVec 32) :=
  [4, (0 : BitVec 16) ++ getScomCmd, addr.extractLsb' 32 32, addr.extractLsb' 0 32]

def putFifoScom (addr data : BitVec 64) (log : List FsiAccess) : Except Fault Reply := do
  let w ← writeRequest f (putScomRequest addr data) log
  let r ← if w.rc = success then DataReply.toReply <$> readResponse f putScomCmd w.log else pure w
  if r.rc ≠ success then return { r with log := (upFifoReset f r.log).log } else return r

/-- The return codes for which `getFifoScom` tries again. -/
def retried (rc : BitVec 32) : Bool :=
  rc == rcFifoTimeoutDn || rc == rcRespDataOverflow || rc == rcRespMinSizeInvalid || rc == rcRespDistanceInvalid ||
    rc == rcRespMagicWordInvalid || rc == rcRespUnexpectedCmd || rc == rcRespUnexpectedDataSize

/-- The loop of `getFifoScom`, which `fuel` bounds; `data` is what the caller's variable holds. -/
def getFifoScomLoop (addr : BitVec 64) : Nat → Nat → BitVec 64 → List FsiAccess → Except Fault DataReply
  | 0, _, _, _ => .error .endless
  | fuel + 1, attempts, data, log => do
    let w ← writeRequest f (getScomRequest addr) log
    if w.rc ≠ success then return ⟨w, data⟩
    let r ← readResponse f getScomCmd w.log
    if ¬retried r.rc then return r
    let attempts := attempts + 1
    let reset := upFifoReset f r.log
    if reset.rc = rcFifoTimeoutReset then return { r with log := reset.log }
    if 2 ≤ attempts then return { r with rc := rcFifoTimeoutDn, log := reset.log }
    getFifoScomLoop addr fuel attempts r.data reset.log

def getFifoScom (addr data : BitVec 64) (log : List FsiAccess) : Except Fault DataReply :=
  getFifoScomLoop f addr 3 0 data log

end

end Occ.Firdata.SbeFifo
