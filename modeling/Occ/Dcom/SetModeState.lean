/-
Set mode and state (`cmdh_fsp_cmds.c`) with the OCCs' outboxes (`dcom.c`): the master's command stores the
request and looks at the mailboxes that the outboxes are copied to, a step at a time; the OCCs build their
outboxes, and they arrive, at any time and in any order. What an OCC does with the request is left open, and
with it the inboxes, which only carry the request.
-/
import Mathlib.Data.Fintype.Basic
import Mathlib.Data.Finset.Card
import Mathlib.Tactic.Common

namespace Occ.Dcom

/-! ## Data -/

/-- An OCC, of `MAX_OCCS`. -/
abbrev OccId := Fin 8

def occStateNochange : BitVec 8 := 0x00
def occStateStandby : BitVec 8 := 0x01
def occStateObservation : BitVec 8 := 0x02
def occStateActive : BitVec 8 := 0x03
def occStateSafe : BitVec 8 := 0x04
def occStateCharacterization : BitVec 8 := 0x05
def occModeNochange : BitVec 8 := 0x00
def occModeNominal : BitVec 8 := 0x01

/-- `OCC_STATE_IS_VALID`, `OCC_MODE_IS_VALID`: what a command may request. -/
def occStateIsValid (state : BitVec 8) : Bool :=
  state ∈ [occStateNochange, occStateObservation, occStateCharacterization, occStateActive]
def occModeIsValid (mode : BitVec 8) : Bool :=
  mode ∈ [occModeNochange, occModeNominal, 0x03, 0x05, 0x06, 0x08, 0x09, 0x0A, 0x0B, 0x0C]

def errlRcSuccess : Nat := 0x00
def errlRcInvalidCmd : Nat := 0x11
def errlRcInvalidCmdLen : Nat := 0x12
def errlRcInvalidData : Nat := 0x13
def errlRcInternalFail : Nat := 0x15
def errlRcInvalidState : Nat := 0x16

def smgrSmsCmdVersion : BitVec 8 := 0
def smgrSetmodestateCmdLen : Nat := 3

inductive OccRole
  | slave | master | backupMaster
deriving DecidableEq, Repr

/-- The OCC that gets the command. -/
structure DcomConfig where
  role : OccRole
  kvm : Bool
  chipId : OccId
deriving DecidableEq, Repr

/-- The state and mode of an OCC; on OPAL it reports the mode that was requested from outside. -/
structure OccStatus where
  state : BitVec 8
  mode : BitVec 8
  modeKvm : BitVec 8
deriving DecidableEq, Repr

/-- The first two bytes of `occ_fw_mailbox`: state and mode. -/
structure Mailbox where
  state : BitVec 8
  mode : BitVec 8
deriving DecidableEq, Repr

/-- The state and mode that an OCC reports. -/
def OccStatus.report (kvm : Bool) (s : OccStatus) : Mailbox := ⟨s.state, if kvm then s.modeKvm else s.mode⟩

/-- An outbox as it was built, with the number of the last request that was sent by then. -/
structure Outbox where
  mailbox : Mailbox
  request : Nat
deriving DecidableEq, Repr

/-- `smgr_setmodestate_v0_query_t`, and whether a pointer of the call is null. -/
structure SetModeStateCmd where
  null : Bool
  version : BitVec 8
  dataLength : Nat
  occState : BitVec 8
  occMode : BitVec 8
deriving DecidableEq, Repr

/-- Where the command is: before its look at the mailboxes, which it takes again after a sleep; with
`l_occ_num`; in the loop over the mailboxes, with `l_occ_bitmap_present`, `l_occ_bitmap_succeeded` and
`l_occ_passed_num`. -/
inductive SetModeStatePc
  | idle
  | count
  | bitmap (occNum : Nat)
  | check (occNum : Nat) (present succeeded : Finset OccId) (passed slvIdx : Nat)
deriving DecidableEq

/-- What a command returned, with the user data of its error log; and then, the OCCs that were present and
those that had reported what it requested, after it was sent. -/
structure SetModeStateResult where
  rc : Nat
  errl : Option (Finset OccId × Finset OccId)
  present : Finset OccId
  reported : OccId → Bool

structure DcomSys where
  occ : OccId → OccStatus
  safeRequested : Bool
  /-- the outboxes that were built, the latest first -/
  outboxes : OccId → List Outbox
  /-- `G_dcom_slv_outbox_rx` -/
  outboxRx : OccId → Mailbox
  /-- `is_occ_present`, `G_occ_num_present` -/
  isOccPresent : Finset OccId
  occNumPresent : Nat
  /-- `G_occ_external_req_state`, `G_occ_external_req_mode` -/
  reqState : BitVec 8
  reqMode : BitVec 8
  pc : SetModeStatePc
  -- history: the number of requests sent; the OCCs that have reported what the last one asks for, since it was
  -- sent; what the commands returned
  requests : Nat
  reported : OccId → Bool
  results : List SetModeStateResult

namespace DcomSys

variable (cfg : DcomConfig) (k : DcomSys)

/-- A mailbox has the state and mode that are requested. -/
def reached (m : Mailbox) : Bool :=
  (m.state == k.reqState || k.reqState == occStateNochange) && (m.mode == k.reqMode || k.reqMode == occModeNochange)

/-! ## `cmdh_tmgt_setmodestate` -/

/-- The command returns. -/
def ret (rc : Nat) (errl : Option (Finset OccId × Finset OccId)) : DcomSys :=
  { k with pc := .idle, results := ⟨rc, errl, k.isOccPresent, k.reported⟩ :: k.results }

/-- The check of the command. -/
def refuse (cmd : SetModeStateCmd) : Option Nat :=
  if cmd.null then some errlRcInternalFail
  else if cmd.version ≠ smgrSmsCmdVersion then some errlRcInvalidData
  else if cmd.dataLength ≠ smgrSetmodestateCmdLen then some errlRcInvalidCmdLen
  else if cfg.role = .slave then some errlRcInvalidCmd
  else if !occStateIsValid cmd.occState || !occModeIsValid cmd.occMode then some errlRcInvalidData
  else if k.safeRequested || (k.occ cfg.chipId).state == occStateSafe then some errlRcInvalidState
  else none

/-- The command is checked, and the request is sent. -/
def command (cmd : SetModeStateCmd) : DcomSys :=
  match k.refuse cfg cmd with
  | some rc => k.ret rc none
  | none =>
    { k with
      reqState := cmd.occState
      reqMode := cmd.occMode
      pc := .count
      requests := k.requests + 1
      reported := fun _ => false }

/-- The next step of the command; `timeout` says whether 15 seconds have passed. -/
def thread (timeout : Bool) : DcomSys :=
  match k.pc with
  | .idle => k
  | .count => { k with pc := .bitmap k.occNumPresent }
  | .bitmap num => { k with pc := .check num k.isOccPresent ∅ 0 0 }
  | .check num present succeeded passed idx =>
    if h : idx < 8 then
      if ⟨idx, h⟩ ∈ present ∧ k.reached (k.outboxRx ⟨idx, h⟩) then
        { k with pc := .check num present (insert ⟨idx, h⟩ succeeded) (passed + 1) (idx + 1) }
      else { k with pc := .check num present succeeded passed (idx + 1) }
    else if num ≤ passed then k.ret errlRcSuccess none
    else if timeout then k.ret errlRcInternalFail (some (present, succeeded))
    else { k with pc := .count }

/-! ## The outboxes -/

/-- `dcom_build_occfw_msg`, on an OCC. -/
def buildOutbox (i : OccId) : DcomSys :=
  { k with outboxes :=
      Function.update k.outboxes i (⟨(k.occ i).report cfg.kvm, k.requests⟩ :: k.outboxes i) }

/-- An outbox arrives at the master, which copies it; when it was built since the request was sent and has
what was requested, its OCC has reported it. -/
def rxOutbox (i : OccId) (m : Outbox) : DcomSys :=
  { k with
    outboxRx := Function.update k.outboxRx i m.mailbox
    reported := if m.request = k.requests ∧ k.reached m.mailbox then Function.update k.reported i true else k.reported }

/-- `task_dcom_parse_occfwmsg`, for the state and mode: the master's own are written into all mailboxes. In its
own mailbox they are its report. -/
def parseOccfwmsg : DcomSys :=
  if cfg.role = .master then
    let m := (k.occ cfg.chipId).report cfg.kvm
    { k with
      outboxRx := fun _ => m
      reported := if k.reached m then Function.update k.reported cfg.chipId true else k.reported }
  else k

/-- `task_dcom_rx_slv_outboxes`, for the presence. -/
def rxDoorbell (i : OccId) : DcomSys :=
  { k with isOccPresent := insert i k.isOccPresent, occNumPresent := (insert i k.isOccPresent).card }

end DcomSys

/-! ## Steps -/

inductive DcomEvent
  | command (cmd : SetModeStateCmd)
  | thread (timeout : Bool)
  | buildOutbox (i : OccId)
  /-- any outbox that was built may arrive -/
  | rxOutbox (i : OccId) (n : Nat)
  | parseOccfwmsg
  | rxDoorbell (i : OccId)
  /-- an OCC changes its state and mode -/
  | transition (i : OccId) (s : OccStatus)
  | safe (b : Bool)
  /-- `SMGR_all_to_safe`, on the master -/
  | allToSafe
  /-- another command sets the request: `cmdh_reset_prep`, or the one that sets the role -/
  | request (state mode : BitVec 8)
deriving DecidableEq, Repr

/-- The state after an event, when it can happen. -/
def DcomSys.next (cfg : DcomConfig) (k : DcomSys) : DcomEvent → Option DcomSys
  | .command cmd => if k.pc = .idle then some (k.command cfg cmd) else none
  | .thread timeout => if k.pc = .idle then none else some (k.thread timeout)
  | .buildOutbox i => some (k.buildOutbox cfg i)
  | .rxOutbox i n => (k.outboxes i)[n]?.map (k.rxOutbox i)
  | .parseOccfwmsg => some (k.parseOccfwmsg cfg)
  | .rxDoorbell i => some (k.rxDoorbell i)
  | .transition i s => some { k with occ := Function.update k.occ i s }
  | .safe b => some { k with safeRequested := b }
  | .allToSafe => if cfg.role = .master then some { k with reqState := occStateSafe } else none
  | .request state mode => if k.pc = .idle then some { k with reqState := state, reqMode := mode } else none

/-- After `dcom_initialize_roles`. -/
def DcomSys.start (cfg : DcomConfig) (occ : OccId → OccStatus) : DcomSys where
  occ := occ
  safeRequested := false
  outboxes := fun _ => []
  outboxRx := fun _ => ⟨0, 0⟩
  isOccPresent := {cfg.chipId}
  occNumPresent := 1
  reqState := occStateNochange
  reqMode := occModeNochange
  pc := .idle
  requests := 0
  reported := fun _ => false
  results := []

end Occ.Dcom
