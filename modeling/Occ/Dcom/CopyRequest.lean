/-
The messages between the master and the slaves (`dcom.h`): inboxes and outboxes, which go through main memory,
and the doorbells that announce them over the power bus, with the packets they are sent in. Reserved bytes are
left out of the inboxes and outboxes, which are never sent as bytes here.

The block copy requests of the tasks that send inboxes and outboxes (`dcomMasterTx.c`, `dcomSlaveTx.c`): when a
task creates and schedules its request, what the copy engine does with it, and the callback that announces the
copy. The queue is shared with other requests, so that a scheduled request may have to wait; the callback runs
as a critical interrupt, at once for the tasks.
-/
import Occ.Dcom.SetModeState
import Occ.Lib.Publish
import Occ.Ssx.Async
import Mathlib.Data.BitVec

namespace Occ.Dcom

/-! ## Addresses -/

def slaveInboxPingCommonAddress : BitVec 32 := 0xA0000000
def slaveInboxPongCommonAddress : BitVec 32 := 0xA0000800
def slaveOutboxPingCommonAddress : BitVec 32 := 0xA0001000
def slaveOutboxPongCommonAddress : BitVec 32 := 0xA0003000

def maxOccs : Nat := 8

/-- `sizeof(dcom_slv_inbox_t)`, `sizeof(dcom_slv_outbox_t)`. -/
def sizeofSlvInbox : Nat := 256
def sizeofSlvOutbox : Nat := 1024

/-! ## Data -/

structure PobId where
  nodeId : BitVec 8
  chipId : BitVec 8
deriving DecidableEq, Repr

/-- `apssPwrMeasStruct_t`. -/
structure ApssPwrMeas where
  adc : Vector (BitVec 16) 16
  gpio : Vector (BitVec 16) 2
  tod : BitVec 64
deriving DecidableEq, Repr

/-- `pcap_config_data_t`. -/
structure PcapConfigData where
  currentPcap : BitVec 16
  softMinPcap : BitVec 16
  hardMinPcap : BitVec 16
  maxPcap : BitVec 16
  oversubPcap : BitVec 16
  systemPcap : BitVec 16
  pcapDataCount : BitVec 8
  source : BitVec 8
deriving DecidableEq, Repr

/-- `freqConfig_t`. -/
structure FreqConfig where
  table : Vector (BitVec 16) 15
  updateCount : BitVec 8
deriving DecidableEq, Repr

/-- The tunable parameters as the master sends them. -/
structure TunableParams where
  alphaUp : BitVec 16
  alphaDown : BitVec 16
  sampleCountUtil : BitVec 16
  stepUp : BitVec 16
  stepDown : BitVec 16
  epsilonPerc : BitVec 16
  tlutil : BitVec 16
  wofEnable : BitVec 8
deriving DecidableEq, Repr

/-- `dcom_slv_inbox_t`. -/
structure SlvInbox where
  seq : BitVec 8
  version : BitVec 8
  adc : Vector (BitVec 16) 16
  gpio : Vector (BitVec 16) 2
  tod : BitVec 48
  foverride : BitVec 16
  foverrideEnable : BitVec 8
  emulateOversub : BitVec 8
  ipsFreqRequest : BitVec 16
  tunables : TunableParams
  tunableParamOverwrite : BitVec 8
  softFmin : BitVec 16
  softFmax : BitVec 16
  counter : BitVec 32
  sysModeFreq : FreqConfig
  tbRecord : BitVec 8
  occFwMailbox : Vector (BitVec 8) 32
deriving DecidableEq, Repr

/-- `error_history_count_t`. -/
structure ErrhCount where
  errorId : BitVec 8
  errorCount : BitVec 8
deriving DecidableEq, Repr

/-- `dcom_slv_outbox_t`; what the sensors and the frequency votes store in it comes as words by offset. -/
structure SlvOutbox where
  seq : BitVec 8
  version : BitVec 8
  sensors : Nat → BitVec 16
  errhCount : Fin 8 → ErrhCount
  fClipHist : BitVec 32
  counter : BitVec 32
  occFwMailbox : Vector (BitVec 8) 32

/-! ## Doorbells -/

/-- `PBAX_MAGIC_NUMBER2_32B`, which starts a doorbell, and `PBAX_MAGIC_NUMBER_32B`, which ends it. -/
def pbaxMagicNumber2 : BitVec 32 := 0x00474A53
def pbaxMagicNumber : BitVec 32 := 0x00123181

/-- `dcom_slv_inbox_doorbell_t`. -/
structure SlvInboxDoorbell where
  magic1 : BitVec 32
  pobId : PobId
  ppbFmax : BitVec 16
  addrSlvInboxBuffer0 : BitVec 32
  pcap : PcapConfigData
  gpio : Vector (BitVec 16) 2
  adc : Vector (BitVec 16) 16
  tod : BitVec 64
  apssRecoveryInProgress : BitVec 8
  magicCounter : BitVec 8
  magic2 : BitVec 32
deriving DecidableEq, Repr

/-- `dcom_slv_outbox_doorbell_t`. -/
structure SlvOutboxDoorbell where
  chipId : BitVec 8
  pcapValid : BitVec 8
  activeNodePcap : BitVec 16
  addrSlvOutboxBuffer : BitVec 32
deriving DecidableEq, Repr

/-- A packet on the power bus. -/
abbrev Packet := BitVec 64

/-- Four halfwords in a packet, the first in its highest bits. -/
def halfwords (a b c d : BitVec 16) : Packet := a ++ b ++ c ++ d

namespace SlvInboxDoorbell

variable (d : SlvInboxDoorbell)

/-- The member `words`: the packets that a doorbell is sent in, with zeros for the reserved bytes. -/
def words : Vector Packet 16 :=
  #v[d.magic1 ++ d.pobId.nodeId ++ d.pobId.chipId ++ d.ppbFmax,
    d.addrSlvInboxBuffer0 ++ d.pcap.currentPcap ++ d.pcap.softMinPcap,
    halfwords d.pcap.hardMinPcap d.pcap.maxPcap d.pcap.oversubPcap d.pcap.systemPcap,
    halfwords (d.pcap.pcapDataCount ++ d.pcap.source) 0 d.gpio[0] d.gpio[1],
    halfwords d.adc[0] d.adc[1] d.adc[2] d.adc[3],
    halfwords d.adc[4] d.adc[5] d.adc[6] d.adc[7],
    halfwords d.adc[8] d.adc[9] d.adc[10] d.adc[11],
    halfwords d.adc[12] d.adc[13] d.adc[14] d.adc[15],
    d.tod,
    d.apssRecoveryInProgress ++ 0#56,
    0, 0, 0, 0, 0,
    0#24 ++ d.magicCounter ++ d.magic2]

end SlvInboxDoorbell

/-- The one packet of a slave's doorbell. -/
def SlvOutboxDoorbell.word (d : SlvOutboxDoorbell) : Packet :=
  d.chipId ++ d.pcapValid ++ d.activeNodePcap ++ d.addrSlvOutboxBuffer

open Publish Ssx

variable {β ν : Type}

/-! ## State -/

/-- A message in SRAM and its doorbell, the request that copies it (none before it was created) and
`L_bce_…_tx_request_created_once`. -/
structure Publisher (β ν : Type) where
  board : Board β ν (BitVec 32)
  request : Option RequestState
  createdOnce : Bool

/-- What becomes of the calls `bce_request_create` and `bce_request_schedule`. -/
inductive Scheduling
  | createFailed | scheduleFailed | queued | started
deriving DecidableEq, Repr

/-- `ERC_BCE_REQUEST_…_FAILURE`, `ERC_APSS_NO_VALID_DATA` and `OCC_NO_EXTENDED_RC`. -/
inductive ExtReasonCode
  | bceRequestCreateFailure | bceRequestScheduleFailure | apssNoValidData | noExtendedRc
deriving DecidableEq, Repr

namespace Publisher

variable (p : Publisher β ν)

/-- `async_request_is_idle`, `async_request_completed`. -/
def reqIdle : Bool := p.request.any RequestState.isIdle
def reqComplete : Bool := p.request == some .complete

/-- Whether the task goes on to create and schedule the request. -/
def proceed : Bool :=
  if !p.createdOnce then true
  else if p.reqIdle && p.reqComplete then true
  else if p.reqIdle && !p.reqComplete then true
  else false

def createRequest : Publisher β ν := { p with request := some .initialized, createdOnce := true }

def scheduleRequest (addr : BitVec 32) (state : RequestState) : Publisher β ν :=
  { p with board := p.board.schedule addr, request := some state }

/-- The part of the tasks from the check of the request on. -/
def requestAndSchedule (addr : BitVec 32) (o : Scheduling) : Publisher β ν × Option ExtReasonCode :=
  if p.proceed then
    match o with
    | .createFailed => (p, some .bceRequestCreateFailure)
    | .scheduleFailed => (p.createRequest, some .bceRequestScheduleFailure)
    | .queued => (p.createRequest.scheduleRequest addr .queued, none)
    | .started => (p.createRequest.scheduleRequest addr .running, none)
  else (p, none)

end Publisher

/-- What the engine does with the request: it starts it, copies a part of it, or completes it, with or without
an error; the callback then sends packets until one fails. -/
inductive EngineEvent
  | start
  | read
  | finish (failed : Bool) (packets : Nat)
deriving DecidableEq, Repr

/-- A step of the engine; the doorbell has `n` packets. -/
def Publisher.engine (n : Nat) (p : Publisher β ν) : EngineEvent → Option (Publisher β ν)
  | .start => if p.request = some .queued then some { p with request := some .running } else none
  | .read => if p.request = some .running then some { p with board := p.board.read } else none
  | .finish failed packets =>
    if p.request = some .running ∧ packets ≤ n then
      some { p with
        board := p.board.finish (!failed) packets
        request := some (if failed then .failed else .complete) }
    else none

/-! ## The request and the job -/

/-- There is a job exactly while the request is queued or running, and otherwise the request is idle. -/
structure Publisher.Coupled (p : Publisher β ν) : Prop where
  job : p.board.job.isSome = true ↔ p.request = some .queued ∨ p.request = some .running
  created : p.createdOnce = false → p.board.job = none
  idle : p.createdOnce = true → p.board.job = none → p.reqIdle = true

section

variable {p q : Publisher β ν}

theorem Publisher.proceed_eq : p.proceed = (!p.createdOnce || p.reqIdle) := by
  unfold Publisher.proceed
  cases p.createdOnce <;> cases p.reqIdle <;> cases p.reqComplete <;> rfl

theorem Publisher.Coupled.job_of_proceed (h : p.Coupled) (hp : p.proceed = true) : p.board.job = none := by
  rw [proceed_eq, Bool.or_eq_true, Bool.not_eq_true'] at hp
  rcases hp with hp | hp
  · exact h.created hp
  · rw [← Option.not_isSome_iff_eq_none, h.job]
    rintro (hr | hr) <;> simp [reqIdle, hr, RequestState.isIdle] at hp

theorem Publisher.requestAndSchedule_cases (h : p.Coupled) (addr : BitVec 32) (o : Scheduling) :
    (p.requestAndSchedule addr o).1.Coupled ∧
      ((p.requestAndSchedule addr o).1.board = p.board ∨
        (p.board.job = none ∧ (p.requestAndSchedule addr o).1.board = p.board.schedule addr)) := by
  unfold requestAndSchedule
  split
  · rename_i hp
    have hjob := h.job_of_proceed hp
    cases o with
    | createFailed => exact ⟨h, .inl rfl⟩
    | scheduleFailed => exact ⟨⟨by simp [createRequest, hjob], by simp [createRequest, hjob], fun _ _ => rfl⟩, .inl rfl⟩
    | queued =>
      exact ⟨⟨by simp [scheduleRequest, createRequest, Board.schedule], nofun, nofun⟩, .inr ⟨hjob, rfl⟩⟩
    | started =>
      exact ⟨⟨by simp [scheduleRequest, createRequest, Board.schedule], nofun, nofun⟩, .inr ⟨hjob, rfl⟩⟩
  · exact ⟨h, .inl rfl⟩

theorem Publisher.requestAndSchedule_of_free (h : p.Coupled) (hjob : p.board.job = none) (addr : BitVec 32)
    {o : Scheduling} (ho : o = .queued ∨ o = .started) :
    (p.requestAndSchedule addr o).1.board = p.board.schedule addr := by
  have hp : p.proceed = true := by
    rw [proceed_eq]
    cases hc : p.createdOnce with
    | false => rfl
    | true => exact h.idle hc hjob
  unfold requestAndSchedule
  rw [if_pos hp]
  rcases ho with rfl | rfl <;> rfl

/-- What a step of the engine does. -/
theorem Publisher.engine_cases {n : Nat} {e : EngineEvent} (h : p.Coupled) (he : p.engine n e = some q) :
    q.Coupled ∧
      ((e = .start ∧ q.board = p.board) ∨ (e = .read ∧ q.board = p.board.read) ∨
        ∃ failed packets, e = .finish failed packets ∧ packets ≤ n ∧ q.board = p.board.finish (!failed) packets) := by
  cases e with
  | start =>
    simp only [engine, Option.ite_none_right_eq_some, Option.some.injEq] at he
    obtain ⟨hr, rfl⟩ := he
    have hjob : p.board.job.isSome = true := h.job.2 (.inl hr)
    refine ⟨⟨by simp [hjob], h.created, fun _ hn => ?_⟩, .inl ⟨rfl, rfl⟩⟩
    rw [show p.board.job = none from hn] at hjob
    cases hjob
  | read =>
    simp only [engine, Option.ite_none_right_eq_some, Option.some.injEq] at he
    obtain ⟨hr, rfl⟩ := he
    refine ⟨⟨?_, fun hc => ?_, fun hc hn => ?_⟩, .inr (.inl ⟨rfl, rfl⟩)⟩
    · simp only [Board.read, Option.isSome_map]
      exact h.job
    · simp [Board.read, h.created hc]
    · exact h.idle hc (Option.map_eq_none_iff.1 hn)
  | finish failed packets =>
    simp only [engine, Option.ite_none_right_eq_some, Option.some.injEq] at he
    obtain ⟨⟨hr, hn⟩, rfl⟩ := he
    have hnone : (p.board.finish (!failed) packets).job = none := by
      unfold Board.finish
      split
      · assumption
      · rfl
    refine ⟨⟨?_, fun _ => hnone, fun _ _ => ?_⟩, .inr (.inr ⟨failed, packets, rfl, hn, rfl⟩)⟩
    · cases failed <;> simpa using hnone
    · cases failed <;> rfl

end

end Occ.Dcom
