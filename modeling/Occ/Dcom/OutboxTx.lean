/-
A slave's side of the outboxes (`dcomSlaveTx.c`): the outbox and the doorbell are built, the outbox is copied to
main memory, and the doorbell is sent when the copy is over. The sensors and the frequency votes are stored in the
outbox by other tasks. Traces and error history counts are left out.

The publication of inboxes and outboxes: what a copy reads and the doorbell that its end sends are those of the
build that it was scheduled for, as long as nothing is built while a copy is queued or in flight and no copy
fails. A copy sends at most one doorbell in any case.
-/
import Occ.Dcom.InboxTx
import Occ.Lib.Transition

namespace Occ.Dcom

open Publish Ssx

/-! ## State -/

/-- What the outbox and the doorbell are built from, as it is in a tick. -/
structure SlaveData where
  currentTick : BitVec 32
  chipId : BitVec 8
  currentState : BitVec 8
  currentMode : BitVec 8
  externalReqModeKvm : BitVec 8
  kvm : Bool
  masterEventFlagsAck : BitVec 32
  slaveEventFlags : BitVec 32
  validStates : BitVec 8
  pcapValid : BitVec 8
  activeNodePcap : BitVec 16
  errorHistory : Fin 48 → BitVec 8
  chipFReasonHistory : BitVec 32

structure OutboxTx where
  seq : BitVec 8
  publisher : Publisher SlvOutbox SlvOutboxDoorbell
  error : Bool
  errls : List DcomErrl

/-! ## Building -/

/-- `dcom_which_buffer_slv_outbox`. -/
def dcomWhichBufferSlvOutbox (tick : BitVec 32) : BitVec 32 :=
  if tick &&& 1 ≠ 0 then slaveOutboxPingCommonAddress else slaveOutboxPongCommonAddress

/-- The main memory address of a slave's outbox. -/
def SlaveData.outboxAddr (m : SlaveData) : BitVec 32 :=
  dcomWhichBufferSlvOutbox m.currentTick + m.chipId.setWidth 32 * BitVec.ofNat 32 sizeofSlvOutbox

/-- `dcom_build_occfw_msg` for an outbox, on a mailbox that was cleared. -/
def dcomBuildOccfwMsgOutbox (m : SlaveData) : Vector (BitVec 8) 32 :=
  (((Vector.replicate 32 0).set (0 : Fin 32) m.currentState).set (1 : Fin 32)
    (if m.kvm then m.externalReqModeKvm else m.currentMode)).set (2 : Fin 32) (m.masterEventFlagsAck.setWidth 8)
    |>.set (3 : Fin 32) (m.slaveEventFlags.setWidth 8) |>.set (4 : Fin 32) m.validStates

/-- The error history counts that are not zero, by their index. -/
def SlaveData.errhCounts (m : SlaveData) : List ErrhCount :=
  ((List.finRange 48).filter fun i => 0 < m.errorHistory i).map fun i => ⟨BitVec.ofNat 8 i.val, m.errorHistory i⟩

/-- `dcom_build_slv_outbox`; the first eight counts are sent, and where there are fewer the old ones stay. -/
def dcomBuildSlvOutbox (m : SlaveData) (t : OutboxTx) : OutboxTx × BitVec 32 :=
  let seq := t.seq + 1
  let b := t.publisher.board
  let outbox : SlvOutbox :=
    { b.buffer with
      seq := seq, version := 0, occFwMailbox := dcomBuildOccfwMsgOutbox m, counter := b.buffer.counter + 1
      errhCount := fun k => (m.errhCounts[k]?).getD (b.buffer.errhCount k), fClipHist := m.chipFReasonHistory }
  let doorbell : SlvOutboxDoorbell :=
    { chipId := m.chipId, pcapValid := m.pcapValid, activeNodePcap := m.activeNodePcap
      addrSlvOutboxBuffer := m.outboxAddr }
  ({ t with seq := seq, publisher.board := b.rewrite outbox doorbell }, m.outboxAddr)

/-! ## The task -/

/-- `task_dcom_tx_slv_outbox`: the outbox is built before the request is looked at. -/
def taskDcomTxSlvOutbox (m : SlaveData) (o : Scheduling) (t : OutboxTx) : OutboxTx :=
  let (t, addr) := dcomBuildSlvOutbox m t
  let (p, ext) := t.publisher.requestAndSchedule addr o
  let t := { t with publisher := p }
  match ext with
  | some ext =>
    if t.error then t else { t with errls := ⟨.ssxGenericFailure, ext, false, true⟩ :: t.errls, error := true }
  | none => t

/-- Other tasks store sensors in the outbox; the task; the copy engine. -/
inductive OutboxEvent
  | sensors (values : Nat → BitVec 16)
  | task (m : SlaveData) (o : Scheduling)
  | engine (e : EngineEvent)

def OutboxTx.storeSensors (t : OutboxTx) (values : Nat → BitVec 16) : OutboxTx :=
  let b := t.publisher.board
  { t with publisher.board := b.rewrite { b.buffer with sensors := values } b.note }

def outboxNext (t : OutboxTx) : OutboxEvent → Option OutboxTx
  | .sensors values => some (t.storeSensors values)
  | .task m o => some (taskDcomTxSlvOutbox m o t)
  | .engine e => (t.publisher.engine 1 e).map fun p => { t with publisher := p }

/-! ## Boot -/

def SlvOutbox.zero : SlvOutbox := ⟨0, 0, fun _ => 0, fun _ => ⟨0, 0⟩, 0, 0, .replicate 32 0⟩

def OutboxTx.boot : OutboxTx :=
  { seq := 0xFF
    publisher := { board := ⟨.zero, ⟨0, 0, 0, 0⟩, none, 0, []⟩, request := none, createdOnce := false }
    error := false, errls := [] }

/-! ## What the task does -/

/-- The state of the publisher after the outbox was built. -/
def OutboxTx.built (t : OutboxTx) (m : SlaveData) : Publisher SlvOutbox SlvOutboxDoorbell :=
  (dcomBuildSlvOutbox m t).1.publisher

theorem outbox_task_publisher {t : OutboxTx} {m : SlaveData} {o : Scheduling} :
    (taskDcomTxSlvOutbox m o t).publisher = ((t.built m).requestAndSchedule m.outboxAddr o).1 := by
  unfold taskDcomTxSlvOutbox
  dsimp only
  split
  · split <;> rfl
  · rfl

open Publish Ssx Transition

/-! ## The law -/

/-- The doorbells name the buffer that their copy wrote, and were built with what it copied. -/
structure PublishLaw {β ν : Type} (place : ν → BitVec 32) (p : Publisher β ν) : Prop where
  /-- What is queued or in flight is as it was when it was scheduled, and so is its doorbell. -/
  frozen : ∀ j, p.board.job = some j → p.board.buffer = j.buffer ∧ p.board.note = j.note
  announced : ∀ n ∈ p.board.notices, n.Sound place
  once : (p.board.notices.map (·.job.number)).Nodup

/-- No copy is queued or in flight. -/
def Publisher.free {β ν : Type} (p : Publisher β ν) : Bool := p.board.job.isNone

/-- A copy that fails sends no packet. -/
def EngineEvent.silentFailure : EngineEvent → Bool
  | .finish true packets => packets == 0
  | _ => true

/-- The inboxes are built only while no copy is queued or in flight, and no failed copy sends a doorbell. -/
def InboxOk (t : InboxTx) : InboxEvent → Prop
  | .task m wait _ _ => builds m wait → t.publisher.free = true
  | .engine e => e.silentFailure = true
  | .overwrite _ => True

/-- The outbox is built and sensors are stored only while no copy is queued or in flight, and no failed copy sends
a doorbell. -/
def OutboxOk (t : OutboxTx) : OutboxEvent → Prop
  | .task _ _ => t.publisher.free = true
  | .sensors _ => t.publisher.free = true
  | .engine e => e.silentFailure = true

instance (t : InboxTx) (e : InboxEvent) : Decidable (InboxOk t e) := by
  cases e <;> unfold InboxOk <;> infer_instance

instance (t : OutboxTx) (e : OutboxEvent) : Decidable (OutboxOk t e) := by
  cases e <;> unfold OutboxOk <;> infer_instance

/-! ## Invariant -/

structure PublishInv {β ν : Type} (place : ν → BitVec 32) (p : Publisher β ν) : Prop where
  coupled : p.Coupled
  numbered : Numbered p.board
  faithful : Faithful place p.board

section

variable {β ν : Type} {place : ν → BitVec 32} {p q : Publisher β ν}

theorem PublishInv.law (h : PublishInv place p) : PublishLaw place p :=
  ⟨h.faithful.frozen, h.faithful.notices, h.numbered.once⟩

theorem Publisher.free_iff : p.free = true ↔ p.board.job = none := Option.isNone_iff_eq_none

theorem PublishInv.rewrite (h : PublishInv place p) (hfree : p.free = true) (b : β) (n : ν) :
    PublishInv place { p with board := p.board.rewrite b n } where
  coupled := ⟨h.coupled.job, h.coupled.created, h.coupled.idle⟩
  numbered := h.numbered.rewrite b n
  faithful := h.faithful.rewrite (Publisher.free_iff.1 hfree) b n

theorem PublishInv.requestAndSchedule (h : PublishInv place p) (o : Scheduling) :
    PublishInv place (p.requestAndSchedule (place p.board.note) o).1 := by
  obtain ⟨hcoupled, hboard | ⟨_, hboard⟩⟩ := Publisher.requestAndSchedule_cases h.coupled (place p.board.note) o
  · refine ⟨hcoupled, ?_, ?_⟩
    · rw [hboard]
      exact h.numbered
    · rw [hboard]
      exact h.faithful
  · refine ⟨hcoupled, ?_, ?_⟩
    · rw [hboard]
      exact h.numbered.schedule _
    · rw [hboard]
      exact h.faithful.schedule

theorem PublishInv.engine (h : PublishInv place p) {n : Nat} {e : EngineEvent} (hok : e.silentFailure = true)
    (he : p.engine n e = some q) : PublishInv place q := by
  obtain ⟨hcoupled, ⟨_, hboard⟩ | ⟨_, hboard⟩ | ⟨failed, packets, rfl, _, hboard⟩⟩ := Publisher.engine_cases h.coupled he
  · exact ⟨hcoupled, hboard ▸ h.numbered, hboard ▸ h.faithful⟩
  · exact ⟨hcoupled, hboard ▸ h.numbered.read, hboard ▸ h.faithful.read⟩
  · refine ⟨hcoupled, hboard ▸ h.numbered.finish _ _, hboard ▸ h.faithful.finish ?_⟩
    cases failed with
    | false => exact .inl rfl
    | true => exact .inr (by simpa [EngineEvent.silentFailure] using hok)

end

/-! ## Runs -/

theorem publishInv_inbox_step {t u : InboxTx} {e : InboxEvent}
    (h : PublishInv SlvInboxDoorbell.addrSlvInboxBuffer0 t.publisher) (hs : Guarded InboxOk (StepOf inboxNext) t e u) :
    PublishInv SlvInboxDoorbell.addrSlvInboxBuffer0 u.publisher := by
  obtain ⟨hok, hs⟩ := hs
  cases e with
  | overwrite value =>
    cases hs
    exact h
  | task m wait o safe =>
    cases hs
    rcases @task_cases t m wait o safe with ⟨hb, hsent⟩ | ⟨_, hsame, _⟩
    · rw [hsent.publisher]
      exact (h.rewrite (hok hb) _ _).requestAndSchedule o
    · rw [hsame]
      exact h
  | engine e =>
    obtain ⟨q, hq, rfl⟩ := Option.map_eq_some_iff.1 hs
    exact h.engine hok hq

theorem publishInv_outbox_step {t u : OutboxTx} {e : OutboxEvent}
    (h : PublishInv SlvOutboxDoorbell.addrSlvOutboxBuffer t.publisher)
    (hs : Guarded OutboxOk (StepOf outboxNext) t e u) :
    PublishInv SlvOutboxDoorbell.addrSlvOutboxBuffer u.publisher := by
  obtain ⟨hok, hs⟩ := hs
  cases e with
  | sensors values =>
    cases hs
    exact h.rewrite hok _ _
  | task m o =>
    cases hs
    rw [outbox_task_publisher]
    exact (h.rewrite hok _ _).requestAndSchedule o
  | engine e =>
    obtain ⟨q, hq, rfl⟩ := Option.map_eq_some_iff.1 hs
    exact h.engine hok hq

theorem publishInv_boot {β ν : Type} {place : ν → BitVec 32} (b : β) (n : ν) :
    PublishInv place ⟨⟨b, n, none, 0, []⟩, none, false⟩ where
  coupled := ⟨by simp, fun _ => rfl, nofun⟩
  numbered := ⟨nofun, nofun, List.nodup_nil⟩
  faithful := ⟨nofun, nofun, nofun⟩

theorem publishInv_inbox {t : InboxTx} {es : List InboxEvent} (h : Run (Guarded InboxOk (StepOf inboxNext)) .boot es t) :
    PublishInv SlvInboxDoorbell.addrSlvInboxBuffer0 t.publisher :=
  h.invariant (P := fun t => PublishInv SlvInboxDoorbell.addrSlvInboxBuffer0 t.publisher)
    (fun _ _ _ hs => publishInv_inbox_step hs) (publishInv_boot _ _)

theorem publishInv_outbox {t : OutboxTx} {es : List OutboxEvent}
    (h : Run (Guarded OutboxOk (StepOf outboxNext)) .boot es t) :
    PublishInv SlvOutboxDoorbell.addrSlvOutboxBuffer t.publisher :=
  h.invariant (P := fun t => PublishInv SlvOutboxDoorbell.addrSlvOutboxBuffer t.publisher)
    (fun _ _ _ hs => publishInv_outbox_step hs) (publishInv_boot _ _)

/-- In a run of the master and a run of a slave in which nothing is built or stored under a copy and no failed copy
sends a doorbell, every doorbell is that of its copy. -/
theorem publishLaw_of_publishOk {t : InboxTx} {u : OutboxTx} {es : List InboxEvent} {fs : List OutboxEvent}
    (ht : Run (Guarded InboxOk (StepOf inboxNext)) .boot es t)
    (hu : Run (Guarded OutboxOk (StepOf outboxNext)) .boot fs u) :
    PublishLaw SlvInboxDoorbell.addrSlvInboxBuffer0 t.publisher ∧
      PublishLaw SlvOutboxDoorbell.addrSlvOutboxBuffer u.publisher :=
  ⟨(publishInv_inbox ht).law, (publishInv_outbox hu).law⟩

/-! ## A late copy -/

/-- The data of a system without APSS and with no power cap, in a tick. -/
def MasterData.plain (tick : BitVec 32) : MasterData :=
  { currentTick := tick, apssPwrMeas := .zero, autoSlew := 0, foverride := 0, oversubscriptionEmulation := 0
    ipsFreqRequest := 0, tunableParameterTableExt := .replicate 10 0, softFmin := 0, softFmax := 0, tbRecord := 0
    sysModeFreq := .zero, externalReqState := 0, externalReqMode := 0, masterEventFlags := 0
    slaveEventFlagsAck := fun _ => 0, pbaxId := ⟨0, 0⟩, masterPcapData := .zero, masterPpbFmax := 0
    apssRecoveryRequested := false, standby := false, pwrReadingTypeApss := false }

def SlaveData.plain (tick : BitVec 32) : SlaveData :=
  { currentTick := tick, chipId := 1, currentState := 3, currentMode := 1, externalReqModeKvm := 0, kvm := false
    masterEventFlagsAck := 0, slaveEventFlags := 0, validStates := 0, pcapValid := 0, activeNodePcap := 0
    errorHistory := fun _ => 0, chipFReasonHistory := 0 }

/-- The copy of a tick completes before the next one. -/
def promptInbox : List InboxEvent :=
  [.task (.plain 0) .completed .started false, .engine .read, .engine (.finish false 16),
    .task (.plain 1) .completed .queued false, .engine .start, .engine (.finish true 0)]

def promptOutbox : List OutboxEvent :=
  [.sensors fun _ => 7, .task (.plain 0) .started, .engine .read, .engine (.finish false 1)]

theorem publishLaw_of_publishOk_prompt :
    ∃ (t : InboxTx) (u : OutboxTx), PublishLaw SlvInboxDoorbell.addrSlvInboxBuffer0 t.publisher ∧
      PublishLaw SlvOutboxDoorbell.addrSlvOutboxBuffer u.publisher ∧ t.publisher.board.notices.length = 1 ∧
        u.publisher.board.notices.length = 1 := by
  have ht : (exec (fun s e => if InboxOk s e then inboxNext s e else none) .boot promptInbox).map
      (fun t => t.publisher.board.notices.length) = some 1 := by decide
  have hu : (exec (fun s e => if OutboxOk s e then outboxNext s e else none) .boot promptOutbox).map
      (fun u => u.publisher.board.notices.length) = some 1 := by decide
  obtain ⟨t, hrun, hone⟩ := Option.map_eq_some_iff.1 ht
  obtain ⟨u, hrun', hone'⟩ := Option.map_eq_some_iff.1 hu
  obtain ⟨hin, hout⟩ := publishLaw_of_publishOk (run_guarded_of_exec hrun) (run_guarded_of_exec hrun')
  exact ⟨t, u, hin, hout, hone, hone'⟩

/-- The copy of a tick is still queued when the next tick builds, and starts only then. -/
def lateInbox : List InboxEvent :=
  [.task (.plain 0) .completed .queued false, .task (.plain 1) .completed .queued false, .engine .start,
    .engine .read, .engine (.finish false 16)]

/-- The doorbell then names the buffer that was not written. -/
theorem publishLaw_fails :
    ∃ t, Run (StepOf inboxNext) .boot lateInbox t ∧ ¬PublishLaw SlvInboxDoorbell.addrSlvInboxBuffer0 t.publisher := by
  have ht : (exec inboxNext .boot lateInbox).map (fun t => t.publisher.board.notices.map fun n =>
      (n.note.addrSlvInboxBuffer0, n.job.place)) =
        some [(slaveInboxPingCommonAddress, slaveInboxPongCommonAddress)] := by decide
  obtain ⟨t, hrun, hnotices⟩ := Option.map_eq_some_iff.1 ht
  refine ⟨t, exec_eq_some_iff.1 hrun, fun hlaw => ?_⟩
  obtain ⟨n, rest, hn, he, -⟩ := List.map_eq_cons_iff.1 hnotices
  obtain ⟨haddr, hplace⟩ := Prod.mk.inj he
  have hsound := hlaw.announced n (hn ▸ List.mem_cons_self)
  rw [hsound.note, hsound.job.place, hplace] at haddr
  exact absurd haddr (by decide)

end Occ.Dcom
