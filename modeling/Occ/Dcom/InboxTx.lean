/-
The master's side of the inboxes (`dcomMasterTx.c`): the inboxes and the doorbell are built once the APSS data is
there, the inboxes are copied to main memory, and the doorbell is sent when the copy is over. Traces, error
history counts and what the master does about an EPOW are left out.
-/
import Occ.Dcom.CopyRequest

namespace Occ.Dcom

open Publish Ssx

/-! ## State -/

/-- What the inboxes and the doorbell are built from, as it is in a tick; the tunable parameters are
`G_mst_tunable_parameter_table_ext[…].adj_value`. -/
structure MasterData where
  currentTick : BitVec 32
  apssPwrMeas : ApssPwrMeas
  autoSlew : BitVec 8
  foverride : BitVec 16
  oversubscriptionEmulation : BitVec 8
  ipsFreqRequest : BitVec 16
  tunableParameterTableExt : Vector (BitVec 16) 10
  softFmin : BitVec 16
  softFmax : BitVec 16
  tbRecord : BitVec 8
  sysModeFreq : FreqConfig
  externalReqState : BitVec 8
  externalReqMode : BitVec 8
  masterEventFlags : BitVec 32
  slaveEventFlagsAck : OccId → BitVec 32
  pbaxId : PobId
  masterPcapData : PcapConfigData
  masterPpbFmax : BitVec 16
  apssRecoveryRequested : Bool
  standby : Bool
  pwrReadingTypeApss : Bool

/-- How the wait for the APSS data ends: `G_ApssPwrMeasCompleted`, `G_ApssPwrMeasDoneInvalid`, or neither of
them in time. -/
inductive ApssWait
  | completed | doneInvalid | timedOut
deriving DecidableEq, Repr

inductive ReasonCode
  | ssxGenericFailure | apssHardFailure
deriving DecidableEq, Repr

/-- An error log of a task, and whether the task calls out the processor and the APSS and asks for a reset. -/
structure DcomErrl where
  reasonCode : ReasonCode
  ext : ExtReasonCode
  calloutApss : Bool
  reset : Bool
deriving DecidableEq, Repr

structure InboxTx where
  seq : BitVec 8
  tunableParameterOverwrite : BitVec 8
  publisher : Publisher (OccId → SlvInbox) SlvInboxDoorbell
  apssFailUpdownCount : Nat
  error : Bool
  errls : List DcomErrl

/-! ## Building -/

/-- `dcom_which_buffer`. -/
def dcomWhichBuffer (tick : BitVec 32) : BitVec 32 :=
  if tick &&& 1 ≠ 0 then slaveInboxPingCommonAddress else slaveInboxPongCommonAddress

/-- The tunable parameters that are sent to the slaves, of the master's. -/
def tunableParams (t : Vector (BitVec 16) 10) : TunableParams :=
  { alphaUp := t[0], alphaDown := t[1], sampleCountUtil := t[2], stepUp := t[3], stepDown := t[4]
    epsilonPerc := t[5], tlutil := t[6], wofEnable := t[9].setWidth 8 }

/-- `dcom_build_occfw_msg` for an inbox, on a mailbox that was cleared. -/
def dcomBuildOccfwMsgInbox (m : MasterData) (i : OccId) : Vector (BitVec 8) 32 :=
  (((Vector.replicate 32 0).set 0 m.externalReqState).set 1 m.externalReqMode).set 2
    (m.masterEventFlags.setWidth 8) |>.set 3 ((m.slaveEventFlagsAck i).setWidth 8)

/-- The inbox of an OCC, of which only the count of the builds is kept. -/
def buildInbox (m : MasterData) (seq overwrite : BitVec 8) (counter : BitVec 32) (i : OccId) : SlvInbox :=
  { seq := seq, version := 0, adc := m.apssPwrMeas.adc, gpio := m.apssPwrMeas.gpio
    -- the first six bytes of the eight
    tod := m.apssPwrMeas.tod.extractLsb' 16 48
    foverride := m.foverride, foverrideEnable := m.autoSlew, emulateOversub := m.oversubscriptionEmulation
    ipsFreqRequest := m.ipsFreqRequest, tunables := tunableParams m.tunableParameterTableExt
    tunableParamOverwrite := overwrite
    softFmin := m.softFmin, softFmax := m.softFmax, counter := counter, sysModeFreq := m.sysModeFreq
    tbRecord := m.tbRecord, occFwMailbox := dcomBuildOccfwMsgInbox m i }

def buildDoorbell (m : MasterData) (addr : BitVec 32) (magicCounter : BitVec 8) : SlvInboxDoorbell :=
  { magic1 := pbaxMagicNumber2, pobId := m.pbaxId, ppbFmax := m.masterPpbFmax, addrSlvInboxBuffer0 := addr
    pcap := m.masterPcapData, gpio := m.apssPwrMeas.gpio, adc := m.apssPwrMeas.adc, tod := m.apssPwrMeas.tod
    apssRecoveryInProgress := if m.apssRecoveryRequested then 1 else 0, magicCounter := magicCounter
    magic2 := pbaxMagicNumber }

/-- `dcom_build_slv_inbox`. -/
def dcomBuildSlvInbox (m : MasterData) (t : InboxTx) : InboxTx × BitVec 32 :=
  let seq := t.seq + 1
  let b := t.publisher.board
  let addr := dcomWhichBuffer m.currentTick
  let inboxes := fun i => buildInbox m seq t.tunableParameterOverwrite ((b.buffer i).counter + 1) i
  let doorbell := buildDoorbell m addr (b.note.magicCounter + 1)
  ({ t with seq := seq, tunableParameterOverwrite := 0, publisher.board := b.rewrite inboxes doorbell }, addr)

/-! ## The task -/

def apssDataFailMax : Nat := 200
def apssDataFailureStep : Nat := 1

/-- `APSS_FAIL`. -/
def apssFail (n : Nat) : Nat :=
  if apssDataFailMax - n ≥ apssDataFailureStep then n + apssDataFailureStep else apssDataFailMax

/-- What the task reports: a reason, with the extended reason, whether it comes from SSX, and whether a reset is
requested. -/
def InboxTx.report (t : InboxTx) (safe : Bool) (orc : ReasonCode) (ext : ExtReasonCode) (ssxFailure reset : Bool) :
    InboxTx :=
  if (!t.error || reset) && !safe then
    { t with errls := ⟨orc, ext, !ssxFailure, reset⟩ :: t.errls, error := true }
  else t

/-- The task after the APSS data did not come. -/
def InboxTx.noApssData (t : InboxTx) (safe : Bool) (ext : ExtReasonCode) : InboxTx :=
  let t := { t with apssFailUpdownCount := apssFail t.apssFailUpdownCount }
  if t.apssFailUpdownCount ≥ apssDataFailMax ∧ safe = false then t.report safe .apssHardFailure ext false true else t

/-- The task with the APSS data: the inboxes are built before the request is looked at. -/
def InboxTx.send (t : InboxTx) (m : MasterData) (o : Scheduling) (safe : Bool) : InboxTx :=
  let t := { t with apssFailUpdownCount := 0 }
  let (t, addr) := dcomBuildSlvInbox m t
  let (p, ext) := t.publisher.requestAndSchedule addr o
  let t := { t with publisher := p }
  match ext with
  | some ext => t.report safe .ssxGenericFailure ext true false
  | none => t

/-- `task_dcom_tx_slv_inbox`; `safe` is `isSafeStateRequested`. -/
def taskDcomTxSlvInbox (m : MasterData) (wait : ApssWait) (o : Scheduling) (safe : Bool) (t : InboxTx) : InboxTx :=
  if m.standby || !m.pwrReadingTypeApss || m.apssRecoveryRequested then t.send m o safe
  else
    match wait with
    | .completed => t.send m o safe
    | .doneInvalid => t.noApssData safe .apssNoValidData
    | .timedOut => t.noApssData safe .noExtendedRc

/-- The request `G_mst_tunable_parameter_overwrite`, by a command; the task; the copy engine. -/
inductive InboxEvent
  | overwrite (value : BitVec 8)
  | task (m : MasterData) (wait : ApssWait) (o : Scheduling) (safe : Bool)
  | engine (e : EngineEvent)

def inboxNext (t : InboxTx) : InboxEvent → Option InboxTx
  | .overwrite value => some { t with tunableParameterOverwrite := value }
  | .task m wait o safe => some (taskDcomTxSlvInbox m wait o safe t)
  | .engine e => (t.publisher.engine 16 e).map fun p => { t with publisher := p }

/-! ## Boot -/

def ApssPwrMeas.zero : ApssPwrMeas := ⟨.replicate 16 0, .replicate 2 0, 0⟩
def PcapConfigData.zero : PcapConfigData := ⟨0, 0, 0, 0, 0, 0, 0, 0⟩
def FreqConfig.zero : FreqConfig := ⟨.replicate 15 0, 0⟩

def SlvInbox.zero : SlvInbox :=
  ⟨0, 0, .replicate 16 0, .replicate 2 0, 0, 0, 0, 0, 0, ⟨0, 0, 0, 0, 0, 0, 0, 0⟩, 0, 0, 0, 0, .zero, 0, .replicate 32 0⟩

def SlvInboxDoorbell.zero : SlvInboxDoorbell :=
  ⟨0, ⟨0, 0⟩, 0, 0, .zero, .replicate 2 0, .replicate 16 0, 0, 0, 0, 0⟩

def InboxTx.boot : InboxTx :=
  { seq := 0xFF, tunableParameterOverwrite := 0
    publisher := { board := ⟨fun _ => .zero, .zero, none, 0, []⟩, request := none, createdOnce := false }
    apssFailUpdownCount := 0, error := false, errls := [] }

/-! ## What a task does -/

section

variable {t : InboxTx} {m : MasterData} {wait : ApssWait} {o : Scheduling} {safe : Bool}

/-- Whether the task builds the inboxes. -/
def builds (m : MasterData) (wait : ApssWait) : Prop :=
  m.standby = true ∨ m.pwrReadingTypeApss = false ∨ m.apssRecoveryRequested = true ∨ wait = .completed

instance : Decidable (builds m wait) := by unfold builds; infer_instance

/-- The state of the publisher after the inboxes were built. -/
def InboxTx.built (t : InboxTx) (m : MasterData) : Publisher (OccId → SlvInbox) SlvInboxDoorbell :=
  (dcomBuildSlvInbox m t).1.publisher

theorem InboxTx.report_frame (t : InboxTx) (orc : ReasonCode) (ext : ExtReasonCode) (ssxFailure reset : Bool) :
    t.report safe orc ext ssxFailure reset =
      { t with error := (t.report safe orc ext ssxFailure reset).error
               errls := (t.report safe orc ext ssxFailure reset).errls } := by
  unfold report
  split <;> rfl

structure InboxTx.Sent (t u : InboxTx) (m : MasterData) (o : Scheduling) : Prop where
  publisher : u.publisher = ((t.built m).requestAndSchedule (dcomWhichBuffer m.currentTick) o).1
  overwrite : u.tunableParameterOverwrite = 0

theorem InboxTx.send_sent : t.Sent (t.send m o safe) m o := by
  unfold send
  dsimp only
  split
  · rw [report_frame]
    exact ⟨rfl, rfl⟩
  · exact ⟨rfl, rfl⟩

theorem InboxTx.noApssData_frame (t : InboxTx) (ext : ExtReasonCode) :
    (t.noApssData safe ext).publisher = t.publisher ∧
      (t.noApssData safe ext).tunableParameterOverwrite = t.tunableParameterOverwrite := by
  unfold noApssData
  dsimp only
  split
  · rw [report_frame]
    exact ⟨rfl, rfl⟩
  · exact ⟨rfl, rfl⟩

theorem task_cases :
    (builds m wait ∧ t.Sent (taskDcomTxSlvInbox m wait o safe t) m o) ∨
      (¬builds m wait ∧ (taskDcomTxSlvInbox m wait o safe t).publisher = t.publisher ∧
        (taskDcomTxSlvInbox m wait o safe t).tunableParameterOverwrite = t.tunableParameterOverwrite) := by
  unfold taskDcomTxSlvInbox
  split
  · rename_i hfake
    refine .inl ⟨?_, InboxTx.send_sent⟩
    simp only [Bool.or_eq_true, Bool.not_eq_true'] at hfake
    rcases hfake with (h | h) | h
    · exact .inl h
    · exact .inr (.inl h)
    · exact .inr (.inr (.inl h))
  · rename_i hfake
    simp only [Bool.or_eq_true, Bool.not_eq_true', not_or] at hfake
    obtain ⟨⟨hs, ha⟩, hr⟩ := hfake
    cases wait with
    | completed => exact .inl ⟨.inr (.inr (.inr rfl)), InboxTx.send_sent⟩
    | doneInvalid => exact .inr ⟨by simp [builds, hs, ha, hr], InboxTx.noApssData_frame t _⟩
    | timedOut => exact .inr ⟨by simp [builds, hs, ha, hr], InboxTx.noApssData_frame t _⟩

end

end Occ.Dcom
