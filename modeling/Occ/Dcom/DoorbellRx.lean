/-
The reception of the master's doorbell on a slave (`dcomSlaveRx.c`): the doorbell is read packet by packet into the
receive buffer, a frame is recognised by the magic numbers at its start and its end, and the task uses the doorbell
once it was read in full. What the power bus queue gives to each read is part of the input, and so is what the clock
says. Traces, time statistics and error counts are left out.
-/
import Occ.Dcom.Pcap

namespace Occ.Dcom

/-! ## Reading -/

/-- A packet in the queue, with the doorbell that it belongs to and its place there, which nothing reads. -/
structure QueuedPacket where
  word : Packet
  doorbell : Nat
  index : Nat
deriving DecidableEq, Repr

/-- What a call of `pbax_read` gives: a packet; nothing, and whether the time for the end of a message has passed; or an
error, after which a packet may be in the buffer all the same. -/
inductive PbaxRead
  | packet (p : QueuedPacket)
  | empty (late : Bool)
  | error (p : Option QueuedPacket)
deriving DecidableEq, Repr

/-- `G_dcom_slv_inbox_doorbell_rx` with what lies behind it, by words, and `G_dcomTime.slave`. -/
structure DoorbellBuffer where
  words : Nat → QueuedPacket
  doorbellErrorFlags : BitVec 8
  doorbellSeq : BitVec 8

def sizeofDoorbell : Nat := 128

def dcomDoorbellTimeoutErr : BitVec 8 := 0x80
def dcomDoorbellIncompleteErr : BitVec 8 := 0x40
def dcomDoorbellBadSeqErr : BitVec 8 := 0x20
def dcomDoorbellBadMagicNumErr : BitVec 8 := 0x10
def dcomDoorbellPacketDropErr : BitVec 8 := 0x08
def dcomDoorbellHwErr : BitVec 8 := 0x04

/-- The members `magic1`, `magic2` and `magic_counter` by the packets they lie in. -/
def Packet.magic1 (w : Packet) : BitVec 32 := w.extractLsb' 32 32
def Packet.magic2 (w : Packet) : BitVec 32 := w.extractLsb' 0 32
def Packet.magicCounter (w : Packet) : BitVec 8 := w.extractLsb' 32 8

namespace DoorbellBuffer

variable (s : DoorbellBuffer)

def flag (bits : BitVec 8) : DoorbellBuffer := { s with doorbellErrorFlags := s.doorbellErrorFlags ||| bits }

/-- A packet is stored where the next bytes belong. -/
def write (bytes : Nat) (p : QueuedPacket) : DoorbellBuffer :=
  { s with words := Function.update s.words (bytes / 8) p }

/-- A doorbell was read in full. -/
def sequence : DoorbellBuffer :=
  let counter := Packet.magicCounter (s.words 15).word
  let s := if counter.toNat ≠ s.doorbellSeq.toNat + 1 then s.flag dcomDoorbellBadSeqErr else s
  { s with doorbellSeq := counter }

/-- The wait for the next packet is over. -/
def timeout (bytes : Nat) : DoorbellBuffer :=
  s.flag (if bytes ≠ 0 then dcomDoorbellIncompleteErr else dcomDoorbellTimeoutErr)

end DoorbellBuffer

/-- The loop of `dcom_rx_slv_inbox_doorbell` goes on, or the function returns, with so many bytes. -/
inductive RxStep
  | more (bytes : Nat) (s : DoorbellBuffer)
  | done (bytes : Nat) (s : DoorbellBuffer)

/-- The magic numbers, after a read without error. -/
def rxCheck (bytes : Nat) (s : DoorbellBuffer) : RxStep :=
  if bytes = 8 then
    if Packet.magic1 (s.words 0).word ≠ pbaxMagicNumber2 then .more 0 (s.flag dcomDoorbellPacketDropErr)
    else .more bytes s
  else if bytes = sizeofDoorbell then
    if Packet.magic2 (s.words 15).word ≠ pbaxMagicNumber then
      .done (sizeofDoorbell - 1) (s.flag dcomDoorbellBadMagicNumErr)
    else .done bytes s.sequence
  else .more bytes s

/-- A turn of the loop. -/
def rxStep (bytes : Nat) (s : DoorbellBuffer) : PbaxRead → RxStep
  | .error p => .done bytes ((p.elim s (s.write bytes)).flag dcomDoorbellHwErr)
  | .empty true => .done bytes (s.timeout bytes)
  | .empty false => rxCheck bytes s
  | .packet p => rxCheck (bytes + 8) (s.write bytes p)

/-- `dcom_rx_slv_inbox_doorbell` from a turn of its loop on: what it returns, the buffer, and what is still in the queue.
When nothing comes any more, the time for the end of a message passes. -/
def rxLoop (bytes : Nat) (s : DoorbellBuffer) : List PbaxRead → Nat × DoorbellBuffer × List PbaxRead
  | [] => (bytes, s.timeout bytes, [])
  | r :: reads =>
    match rxStep bytes s r with
    | .more bytes s => rxLoop bytes s reads
    | .done bytes s => (bytes, s, reads)

def dcomRxSlvInboxDoorbell (s : DoorbellBuffer) (reads : List PbaxRead) : Nat × DoorbellBuffer × List PbaxRead :=
  rxLoop 0 s reads

/-- What the calls on a whole stream return, one after another, when the first is in a turn of its loop. -/
def rxAll (bytes : Nat) (s : DoorbellBuffer) : List PbaxRead → List (Nat × DoorbellBuffer)
  | [] => []
  | r :: reads =>
    match rxStep bytes s r with
    | .more bytes s => rxAll bytes s reads
    | .done bytes s => (bytes, s) :: rxAll 0 s reads

/-! ## The task -/

/-- The members of a doorbell, of the words that it is sent in. -/
def SlvInboxDoorbell.ofWords (w : Nat → Packet) : SlvInboxDoorbell :=
  let half (i : Nat) (k : Nat) : BitVec 16 := (w i).extractLsb' (16 * (3 - k)) 16
  { magic1 := (w 0).extractLsb' 32 32
    pobId := ⟨(w 0).extractLsb' 24 8, (w 0).extractLsb' 16 8⟩
    ppbFmax := half 0 3
    addrSlvInboxBuffer0 := (w 1).extractLsb' 32 32
    pcap :=
      { currentPcap := half 1 2, softMinPcap := half 1 3, hardMinPcap := half 2 0, maxPcap := half 2 1
        oversubPcap := half 2 2, systemPcap := half 2 3
        pcapDataCount := (w 3).extractLsb' 56 8, source := (w 3).extractLsb' 48 8 }
    gpio := #v[half 3 2, half 3 3]
    adc := #v[half 4 0, half 4 1, half 4 2, half 4 3, half 5 0, half 5 1, half 5 2, half 5 3,
      half 6 0, half 6 1, half 6 2, half 6 3, half 7 0, half 7 1, half 7 2, half 7 3]
    tod := w 8
    apssRecoveryInProgress := (w 9).extractLsb' 56 8
    magicCounter := (w 15).extractLsb' 32 8
    magic2 := (w 15).extractLsb' 0 32 }

/-- A slave: the receive buffer, the caps and the frequency limit that it has taken, and the main memory addresses that it
has copied inboxes from, latest first. -/
structure SlaveRx where
  buffer : DoorbellBuffer
  pcap : PcapSlave
  copies : List (BitVec 32)
  -- `RTL_FLAG_MSTR_READY` is to be cleared
  lostConnection : Bool

def DoorbellBuffer.doorbell (s : DoorbellBuffer) : SlvInboxDoorbell := .ofWords fun i => (s.words i).word

/-- `dcom_calc_slv_inbox_addr`. -/
def dcomCalcSlvInboxAddr (d : SlvInboxDoorbell) (chipId : BitVec 8) : BitVec 32 :=
  d.addrSlvInboxBuffer0 + chipId.setWidth 32 * BitVec.ofNat 32 sizeofSlvInbox

/-- The address lies inside the inboxes. -/
def inboxAddrValid (addr : BitVec 32) : Bool :=
  slaveInboxPingCommonAddress ≤ addr &&
    addr < slaveInboxPongCommonAddress + BitVec.ofNat 32 (sizeofSlvInbox * maxOccs)

/-- What the task does with a doorbell; `ready` is whether its copy request can be created and scheduled. -/
def SlaveRx.useDoorbell (s : SlaveRx) (chipId : BitVec 8) (kvm ready : Bool) : SlaveRx :=
  let d := s.buffer.doorbell
  let addr := dcomCalcSlvInboxAddr d chipId
  { s with
    pcap := amecDataWritePcap kvm d s.pcap
    copies := if inboxAddrValid addr && ready then addr :: s.copies else s.copies }

/-- `task_dcom_rx_slv_inbox`; its time is over after so many more calls that have not read a whole doorbell. -/
def taskDcomRxSlvInbox (chipId : BitVec 8) (kvm ready : Bool) : Nat → SlaveRx → List PbaxRead → SlaveRx × List PbaxRead
  | retries, s, reads =>
    let (bytes, buffer, rest) := dcomRxSlvInboxDoorbell s.buffer reads
    let s := { s with buffer := buffer }
    if bytes ≥ sizeofDoorbell then (s.useDoorbell chipId kvm ready, rest)
    else
      match retries with
      | 0 => ({ s with lostConnection := true }, rest)
      | retries + 1 => taskDcomRxSlvInbox chipId kvm ready retries s rest

end Occ.Dcom
