/-
Error logs (`errl.c`): a log takes one of the slots that its severity may use, callouts are added to it up to a
maximum while it is open, and a commit closes it and reports it.
-/
import Mathlib.Tactic.Common

namespace Occ.Errl

inductive ErrlSeverity
  | informational | predictive | unrecoverable | callhomeData | pgpeError
deriving DecidableEq, Repr

inductive CalloutType
  | huid | componentId | gpuId
deriving DecidableEq, Repr

inductive CalloutPriority
  | invalid | low | med | high
deriving DecidableEq, Repr

/-- `ERRL_MAX_CALLOUTS` -/
def maxCallouts : Nat := 6

/-- `ERRL_MAX_SLOTS` -/
def maxSlots : Nat := 8

/-- `ERRL_ACTIONS_MASK` -/
def actionsManufacturingError : BitVec 8 := 0x08
def actionsSafeModeRequired : BitVec 8 := 0x40
def actionsResetRequired : BitVec 8 := 0x80

/-- `ERRL_COMPONENT_ID` -/
def componentIdFirmware : BitVec 64 := 0x01
def componentIdOverTemperature : BitVec 64 := 0x04

structure ErrlCallout where
  type : CalloutType
  calloutValue : BitVec 64
  priority : CalloutPriority
deriving DecidableEq, Repr

/-- A log. The callouts are those below `iv_numCallouts`. -/
structure ErrlEntry where
  modId : BitVec 16
  reasonCode : BitVec 8
  extReasonCode : BitVec 16
  userData1 : BitVec 32
  userData2 : BitVec 32
  severity : ErrlSeverity
  actions : BitVec 8
  committed : Bool
  callouts : List ErrlCallout
deriving DecidableEq, Repr

/-- `errlHndl_t`: `NULL`, `INVALID_ERR_HNDL`, or a log in its slot. -/
inductive ErrlHndl
  | null
  | invalid
  | log (entry : ErrlEntry)
deriving DecidableEq, Repr

/-- Where a log comes from. -/
structure ErrlSource where
  modId : BitVec 16
  reasonCode : BitVec 8
  extReasonCode : BitVec 16

/-- `ERRL_SLOT_MASK`: the slots that a severity may not use. -/
def slotMask : ErrlSeverity → BitVec 32
  | .informational => 0xFDFFFFFF
  | .predictive | .unrecoverable => 0x07FFFFFF
  | .callhomeData => 0xFEFFFFFF
  | .pgpeError => 0xFBFFFFFF

/-- The first slot that is neither used nor masked. -/
def freeSlot (slotBits mask : BitVec 32) : Option Nat :=
  let slot := (~~~(slotBits ||| mask)).clz.toNat
  if slot < maxSlots then some slot else none

/-- `getErrSlotNumAndErrId`, for the slot. -/
def getErrSlotNum (sev : ErrlSeverity) (slotBits : BitVec 32) : Option Nat :=
  match freeSlot slotBits (slotMask sev) with
  | some slot => some slot
  -- the one slot for PGPE errors is used: a slot for OCC errors
  | none => if sev = .pgpeError then freeSlot slotBits (slotMask .predictive) else none

/-- `createErrl`, in a slot that has been zeroed when its last log was deleted. -/
def createErrl (slotBits : BitVec 32) (src : ErrlSource) (sev : ErrlSeverity) (userData1 userData2 : BitVec 32) :
    ErrlHndl :=
  match getErrSlotNum sev slotBits with
  | some _ => .log
      { modId := src.modId
        reasonCode := src.reasonCode
        extReasonCode := src.extReasonCode
        userData1 := userData1
        userData2 := userData2
        severity := if sev = .callhomeData then .informational else sev
        actions := 0
        committed := false
        callouts := [] }
  | none => .invalid

/-- `addCalloutToErrl`, to a log. -/
def ErrlEntry.addCallout (e : ErrlEntry) (c : ErrlCallout) : ErrlEntry :=
  if e.committed = false ∧ (e.actions &&& actionsManufacturingError ≠ 0 ∨ e.severity ≠ .informational) ∧
      e.callouts.length < maxCallouts then
    { e with callouts := e.callouts ++ [c] }
  else e

/-- `addCalloutToErrl` -/
def addCalloutToErrl (err : ErrlHndl) (c : ErrlCallout) : ErrlHndl :=
  match err with
  | .log e => .log (e.addCallout c)
  | err => err

/-- What `commitErrl` does to a log: a system checkstop takes its callouts. -/
def ErrlEntry.commit (checkStop : Bool) (e : ErrlEntry) : ErrlEntry :=
  let e := if checkStop then
      { e with actions := actionsSafeModeRequired, severity := .informational, callouts := [] }
    else e
  let e := if e.actions &&& actionsResetRequired ≠ 0 then
      let e := { e with severity := .unrecoverable }
      if e.callouts = [] then e.addCallout ⟨.componentId, componentIdFirmware, .high⟩ else e
    else e
  { e with committed := true }

/-- `commitErrl`, with `L_log_commits_suspended_by_safe_mode` before and after, and the log that is committed. -/
def commitErrl (suspended checkStop : Bool) (err : ErrlHndl) : ErrlHndl × Bool × Option ErrlEntry :=
  if suspended then (err, suspended, none)
  else
    match err with
    | .log e => (.null, checkStop, some (e.commit checkStop))
    | _ => (.null, suspended, none)

/-! ## Logs that collect callouts -/

/-- The log is open, takes callouts and has `n` of them. -/
structure ErrlEntry.Collects (e : ErrlEntry) (n : Nat) : Prop where
  uncommitted : e.committed = false
  severity : e.severity = .predictive
  actions : e.actions = 0
  length : e.callouts.length = n

/-- The part with this HUID is called out. -/
def ErrlEntry.Mentions (e : ErrlEntry) (huid : BitVec 64) : Prop :=
  ∃ c ∈ e.callouts, c.type = .huid ∧ c.calloutValue = huid

instance (e : ErrlEntry) (huid : BitVec 64) : Decidable (e.Mentions huid) :=
  inferInstanceAs (Decidable (∃ c ∈ e.callouts, _))

theorem createErrl_collects {slotBits : BitVec 32} (h : (getErrSlotNum .predictive slotBits).isSome) (src : ErrlSource)
    (userData1 userData2 : BitVec 32) :
    ∃ e, createErrl slotBits src .predictive userData1 userData2 = .log e ∧ e.Collects 0 := by
  obtain ⟨slot, hslot⟩ := Option.isSome_iff_exists.1 h
  unfold createErrl
  rw [hslot]
  exact ⟨_, rfl, ⟨rfl, rfl, rfl, rfl⟩⟩

theorem ErrlEntry.Collects.callouts {e : ErrlEntry} {n : Nat} (h : e.Collects n) (hn : n < maxCallouts)
    (c : ErrlCallout) : (e.addCallout c).callouts = e.callouts ++ [c] := by
  unfold ErrlEntry.addCallout
  rw [if_pos ⟨h.uncommitted, .inr (by rw [h.severity]; decide), by rw [h.length]; exact hn⟩]

theorem ErrlEntry.Collects.addCallout {e : ErrlEntry} {n : Nat} (h : e.Collects n) (hn : n < maxCallouts)
    (c : ErrlCallout) : (e.addCallout c).Collects (n + 1) := by
  have hlen : (e.addCallout c).callouts.length = n + 1 := by
    rw [h.callouts hn, List.length_append, h.length]
    rfl
  unfold ErrlEntry.addCallout at hlen ⊢
  split
  · rename_i hc
    rw [if_pos hc] at hlen
    exact ⟨h.uncommitted, h.severity, h.actions, hlen⟩
  · rename_i hc
    rw [if_neg hc, h.length] at hlen
    omega

theorem ErrlEntry.Collects.commit {e : ErrlEntry} {n : Nat} (h : e.Collects n) :
    (e.commit false).callouts = e.callouts := by
  simp [ErrlEntry.commit, h.actions]

end Occ.Errl
