/-
The error log slots (`errl.c`): five for OCC errors, one for PGPE errors, one for informational logs and one for call home
data, what allocates and frees them, and the calls of a run.

Slot accounting: in every run the bits of `G_occErrSlotBits` are those of the slots whose logs have been created and not
deleted, a new log gets a free slot that its severity may use, and none only if all of these are taken.
-/
import Occ.Errl.Slot
import Occ.Lib.BitQueue
import Occ.Lib.Transition
import Mathlib.Data.Finset.Basic

namespace Occ.Errl

open Occ.Staged (Byte Memory)
open Occ.Trac (TraceComp)

/-! ## State -/

structure ErrlStore where
  /-- `G_occErrSlotBits` -/
  slotBits : BitVec 32
  /-- `G_occErrIdCounter` -/
  idCounter : Byte
  slots : Nat → Slot
  /-- `L_log_commits_suspended_by_safe_mode` -/
  suspended : Bool
  -- history: the slots of the logs that have been created and not deleted, how many logs have been created, and after how
  -- many of them that of a slot was
  logs : Finset Nat
  created : Nat
  born : Nat → Nat

/-- All slots are zeroed. -/
def ErrlStore.init : ErrlStore :=
  { slotBits := 0
    idCounter := 0
    slots := fun _ => ⟨Staged.zeros, fun _ => false⟩
    suspended := false
    logs := ∅
    created := 0
    born := fun _ => 0 }

/-! ## Allocation -/

/-- `++G_occErrIdCounter`, which is never 0. -/
def nextErrId (idCounter : Byte) : Byte := if idCounter + 1 = 0 then idCounter + 1 + 1 else idCounter + 1

/-- The maximum size of a log of a severity. -/
def severitySize : ErrlSeverity → BitVec 16
  | .informational | .predictive | .unrecoverable => maxErrlEntrySz
  | .pgpeError => maxErrlPgpeEntrySz
  | .callhomeData => maxErrlCallHomeSz

/-- `getErrSlotNumAndErrId`, for the slot and the maximum size. -/
def getErrSlotNumAndErrId (sev : ErrlSeverity) (slotBits : BitVec 32) : Option (Nat × BitVec 16) :=
  match freeSlot slotBits (slotMask sev) with
  | some slot => some (slot, severitySize sev)
  | none =>
    if sev = .pgpeError then (freeSlot slotBits (slotMask .predictive)).map fun slot => (slot, maxErrlEntrySz) else none

/-- `getErrSlotNumByErrId` -/
def getErrSlotNumByErrId (slots : Nat → Slot) (id : Byte) : Option Nat :=
  if id ≠ 0 then (List.range maxSlots).find? fun i => Slot.entryId (slots i) = id else none

/-! ## Calls -/

/-- What a caller does to its log. -/
inductive LogOp
  | addErrHistory (history : ErrorHistory)
  | addUsrDtls (data : Option Memory) (size : BitVec 16) (version type : Byte)
  | addTrace (trace : Option TraceComp) (traceSz : BitVec 16) (env : TraceEnv)
  | addCallout (type : Byte) (calloutValue : BitVec 64) (priority : Byte)
  | setSevToInfo
  | setActions (mask : Byte)

def LogOp.apply (s : Slot) : LogOp → Slot
  | addErrHistory history => s.addErrHistory history
  | addUsrDtls data size version type => s.addUsrDtlsToErrl data size version type
  | addTrace trace traceSz env => s.addTraceToErrl trace traceSz env
  | addCallout type calloutValue priority => s.addCalloutToErrl type calloutValue priority
  | setSevToInfo => s.setErrlSevToInfo
  | setActions mask => s.setErrlActions mask

/-- A handle is the slot it points to. Those of callers are of logs that have been created and not deleted;
`cmdh_clear_elog` deletes a log by its id. -/
inductive ErrlEvent
  | create (args : ErrlArgs) (trace : Option TraceComp) (traceSz : BitVec 16) (history : ErrorHistory) (env : TraceEnv)
      (occ : OccFields)
  | createPgpe (args : ErrlArgs) (pgpe : Slot.PgpeData) (history : ErrorHistory) (env : TraceEnv) (occ : OccFields)
  | log (hndl : Nat) (op : LogOp)
  | commit (hndl : Nat) (checkStop : Bool)
  | delete (hndl : Nat)
  | clear (id : Byte)

namespace ErrlStore

variable (s : ErrlStore)

def setSlot (slot : Nat) (log : Slot) : ErrlStore := { s with slots := Function.update s.slots slot log }

/-- A slot is taken for a new log. -/
def allocate (slot : Nat) (log : Slot) : ErrlStore :=
  { s with
    slotBits := BitQueue.insert s.slotBits slot
    idCounter := nextErrId s.idCounter
    slots := Function.update s.slots slot log
    logs := insert slot s.logs
    created := s.created + 1
    born := Function.update s.born slot (s.created + 1) }

/-- `createErrl` -/
def createErrl (args : ErrlArgs) (trace : Option TraceComp) (traceSz : BitVec 16) (history : ErrorHistory) (env : TraceEnv)
    (occ : OccFields) : ErrlStore :=
  match getErrSlotNumAndErrId args.severity s.slotBits with
  | some (slot, maxSize) =>
    s.allocate slot ((s.slots slot).createErrl maxSize (nextErrId s.idCounter) args trace traceSz history env occ)
  | none => s

/-- `createPgpeErrl` -/
def createPgpeErrl (args : ErrlArgs) (pgpe : Slot.PgpeData) (history : ErrorHistory) (env : TraceEnv) (occ : OccFields) :
    ErrlStore :=
  match getErrSlotNumAndErrId .pgpeError s.slotBits with
  | some (slot, maxSize) =>
    s.allocate slot ((s.slots slot).createPgpeErrl maxSize (nextErrId s.idCounter) args pgpe history env occ)
  | none => s

/-- `commitErrl` -/
def commitErrl (hndl : Nat) (checkStop : Bool) : ErrlStore :=
  if s.suspended then s else { s.setSlot hndl ((s.slots hndl).commitErrl checkStop) with suspended := checkStop }

/-- `deleteErrl`: the slot is searched for the handle, and the log behind the handle is cleared. -/
def deleteErrl (hndl : Nat) : ErrlStore :=
  match (List.range maxSlots).find? fun slot => decide (hndl = slot) with
  | some slot => { s.setSlot hndl (s.slots hndl).deleteErrl with
      slotBits := BitQueue.delete s.slotBits slot
      logs := s.logs.erase hndl }
  | none => s

/-- `cmdh_clear_elog` -/
def clearElog (id : Byte) : ErrlStore :=
  match getErrSlotNumByErrId s.slots id with
  | some slot => s.deleteErrl slot
  | none => s

def next (s : ErrlStore) : ErrlEvent → Option ErrlStore
  | .create args trace traceSz history env occ => some (s.createErrl args trace traceSz history env occ)
  | .createPgpe args pgpe history env occ => some (s.createPgpeErrl args pgpe history env occ)
  | .log hndl op => if hndl ∈ s.logs then some (s.setSlot hndl (op.apply (s.slots hndl))) else none
  | .commit hndl checkStop => if hndl ∈ s.logs then some (s.commitErrl hndl checkStop) else none
  | .delete hndl => if hndl ∈ s.logs then some (s.deleteErrl hndl) else none
  | .clear id => some (s.clearElog id)

end ErrlStore

/-- What a step can do. -/
inductive ErrlStep (s : ErrlStore) : ErrlEvent → ErrlStore → Prop
  | keep {e : ErrlEvent} : ErrlStep s e s
  | create {args : ErrlArgs} {trace : Option TraceComp} {traceSz : BitVec 16} {history : ErrorHistory} {env : TraceEnv}
      {occ : OccFields} {slot : Nat} {maxSize : BitVec 16} :
      getErrSlotNumAndErrId args.severity s.slotBits = some (slot, maxSize) →
      ErrlStep s (.create args trace traceSz history env occ)
        (s.allocate slot ((s.slots slot).createErrl maxSize (nextErrId s.idCounter) args trace traceSz history env occ))
  | createPgpe {args : ErrlArgs} {pgpe : Slot.PgpeData} {history : ErrorHistory} {env : TraceEnv} {occ : OccFields}
      {slot : Nat} {maxSize : BitVec 16} :
      getErrSlotNumAndErrId .pgpeError s.slotBits = some (slot, maxSize) →
      ErrlStep s (.createPgpe args pgpe history env occ)
        (s.allocate slot ((s.slots slot).createPgpeErrl maxSize (nextErrId s.idCounter) args pgpe history env occ))
  | log {hndl : Nat} {op : LogOp} : hndl ∈ s.logs →
      ErrlStep s (.log hndl op) (s.setSlot hndl (op.apply (s.slots hndl)))
  | commit {hndl : Nat} {checkStop : Bool} : hndl ∈ s.logs →
      ErrlStep s (.commit hndl checkStop) { s.setSlot hndl ((s.slots hndl).commitErrl checkStop) with suspended := checkStop }
  | delete {hndl : Nat} : hndl ∈ s.logs → ErrlStep s (.delete hndl) (s.deleteErrl hndl)
  | clear {id : Byte} {slot : Nat} : getErrSlotNumByErrId s.slots id = some slot → ErrlStep s (.clear id) (s.deleteErrl slot)

theorem ErrlStore.next_cases {s s' : ErrlStore} {e : ErrlEvent} (h : s.next e = some s') : ErrlStep s e s' := by
  cases e with
  | create args trace traceSz history env occ =>
    cases h
    unfold ErrlStore.createErrl
    split
    · exact .create ‹_›
    · exact .keep
  | createPgpe args pgpe history env occ =>
    cases h
    unfold ErrlStore.createPgpeErrl
    split
    · exact .createPgpe ‹_›
    · exact .keep
  | log hndl op =>
    obtain ⟨hlive, heq⟩ := Option.ite_none_right_eq_some.1 h
    cases heq
    exact .log hlive
  | commit hndl checkStop =>
    obtain ⟨hlive, heq⟩ := Option.ite_none_right_eq_some.1 h
    cases heq
    unfold ErrlStore.commitErrl
    split
    · exact .keep
    · exact .commit hlive
  | delete hndl =>
    obtain ⟨hlive, heq⟩ := Option.ite_none_right_eq_some.1 h
    cases heq
    exact .delete hlive
  | clear id =>
    cases h
    unfold ErrlStore.clearElog
    split
    · exact .clear ‹_›
    · exact .keep

/-! ## Calls of small runs -/

def noHistory : ErrorHistory := ⟨List.replicate 48 0, rfl⟩

/-- The locks are free, and nothing has been traced. -/
def noTraces : TraceEnv := ⟨fun _ => true, fun _ => []⟩

def noFields : OccFields := ⟨0, 0, 0, 0, 0⟩

def noPgpeData : Slot.PgpeData := ⟨false, Staged.zeros, 0, 0, Staged.zeros⟩

/-- A log of a severity, without traces. -/
def createOf (sev : ErrlSeverity) : ErrlEvent := .create ⟨⟨0x100, 0x10, 0⟩, sev, 1, 2⟩ none 0 noHistory noTraces noFields

def createPgpeOf (sev : ErrlSeverity) : ErrlEvent := .createPgpe ⟨⟨0x100, 0x10, 0⟩, sev, 1, 2⟩ noPgpeData noHistory noTraces noFields

end Occ.Errl

namespace Occ.Errl

open Occ.Transition

/-! ## The law -/

/-- The slots of a severity: one for informational logs, five for errors, one for the PGPE, one for call home data. -/
def OwnSlot : ErrlSeverity → Nat → Prop
  | .informational, slot => slot = 6
  | .predictive, slot | .unrecoverable, slot => slot < 5
  | .pgpeError, slot => slot = 5
  | .callhomeData, slot => slot = 7

instance (sev : ErrlSeverity) (slot : Nat) : Decidable (OwnSlot sev slot) := by
  unfold OwnSlot
  cases sev
  all_goals infer_instance

/-- A PGPE error falls back to the slots for errors. -/
def MayUse (sev : ErrlSeverity) (slot : Nat) : Prop := OwnSlot sev slot ∨ (sev = .pgpeError ∧ OwnSlot .predictive slot)

structure SlotLaw (s : ErrlStore) : Prop where
  bits : ∀ slot, BitQueue.member s.slotBits slot = true ↔ slot ∈ s.logs
  free : ∀ sev slot maxSize, getErrSlotNumAndErrId sev s.slotBits = some (slot, maxSize) → slot ∉ s.logs ∧ MayUse sev slot
  fallback : ∀ slot maxSize, getErrSlotNumAndErrId .pgpeError s.slotBits = some (slot, maxSize) → OwnSlot .predictive slot →
    5 ∈ s.logs
  full : ∀ sev, getErrSlotNumAndErrId sev s.slotBits = none ↔ ∀ slot, MayUse sev slot → slot ∈ s.logs

/-! ## The first free slot -/

theorem ownSlot_lt {sev : ErrlSeverity} {slot : Nat} (h : OwnSlot sev slot) : slot < maxSlots := by
  have hslots : maxSlots = 8 := rfl
  cases sev
  all_goals
    simp only [OwnSlot] at h
    omega

theorem member_slotMask (sev : ErrlSeverity) {slot : Nat} (h : slot < 32) :
    BitQueue.member (slotMask sev) slot = !decide (OwnSlot sev slot) := by
  have hall : ∀ i : Fin 32, BitQueue.member (slotMask sev) i = !decide (OwnSlot sev i) := by
    cases sev
    all_goals decide
  exact hall ⟨slot, h⟩

section
variable {slotBits : BitVec 32} {sev : ErrlSeverity} {slot : Nat}

theorem member_available (h : slot < 32) : BitQueue.member (~~~(slotBits ||| slotMask sev)) slot = true ↔
    BitQueue.member slotBits slot = false ∧ OwnSlot sev slot := by
  have hmask := member_slotMask sev h
  unfold BitQueue.member at hmask ⊢
  rw [BitVec.getMsbD_not, BitVec.getMsbD_or, hmask, decide_eq_true h, Bool.true_and, Bool.not_or, Bool.and_eq_true]
  constructor
  · rintro ⟨hbit, hown⟩
    rw [Bool.not_not] at hown
    exact ⟨Bool.eq_false_of_not_eq_true' hbit, of_decide_eq_true hown⟩
  · rintro ⟨hbit, hown⟩
    rw [hbit, decide_eq_true hown]
    exact ⟨rfl, rfl⟩

theorem freeSlot_eq : freeSlot slotBits (slotMask sev) =
    if BitQueue.min (~~~(slotBits ||| slotMask sev)) < maxSlots then some (BitQueue.min (~~~(slotBits ||| slotMask sev)))
    else none := by
  unfold freeSlot
  dsimp only
  rw [BitQueue.min_eq_clz]

theorem freeSlot_some (h : freeSlot slotBits (slotMask sev) = some slot) :
    BitQueue.member slotBits slot = false ∧ OwnSlot sev slot := by
  rw [freeSlot_eq] at h
  split at h
  · rename_i hlt
    cases h
    have hslots : maxSlots = 8 := rfl
    have hmember := BitQueue.member_min (q := ~~~(slotBits ||| slotMask sev)) (by omega)
    exact (member_available (by omega)).1 hmember
  · cases h

theorem freeSlot_none : freeSlot slotBits (slotMask sev) = none ↔
    ∀ slot, OwnSlot sev slot → BitQueue.member slotBits slot = true := by
  have hslots : maxSlots = 8 := rfl
  rw [freeSlot_eq]
  constructor
  · intro h slot hown
    have hlt := ownSlot_lt hown
    by_contra hbit
    have hmember := (member_available (show slot < 32 by omega)).2 ⟨Bool.eq_false_of_not_eq_true hbit, hown⟩
    have hmin := BitQueue.min_le_of_member hmember
    rw [if_pos (by omega)] at h
    cases h
  · intro h
    refine if_neg fun hlt => ?_
    have hmember := BitQueue.member_min (q := ~~~(slotBits ||| slotMask sev)) (by omega)
    obtain ⟨hbit, hown⟩ := (member_available (by omega)).1 hmember
    rw [h _ hown] at hbit
    cases hbit

end

section
variable {slotBits : BitVec 32} {sev : ErrlSeverity} {slot : Nat} {maxSize : BitVec 16}

theorem getErrSlotNumAndErrId_some (h : getErrSlotNumAndErrId sev slotBits = some (slot, maxSize)) :
    BitQueue.member slotBits slot = false ∧ ((OwnSlot sev slot ∧ maxSize = severitySize sev) ∨
      (sev = .pgpeError ∧ OwnSlot .predictive slot ∧ maxSize = maxErrlEntrySz ∧ BitQueue.member slotBits 5 = true)) := by
  unfold getErrSlotNumAndErrId at h
  split at h
  · rename_i slot' hfree
    cases h
    obtain ⟨hbit, hown⟩ := freeSlot_some hfree
    exact ⟨hbit, Or.inl ⟨hown, rfl⟩⟩
  · rename_i hnone
    split at h
    · rename_i hsev
      subst hsev
      obtain ⟨slot', hfree, heq⟩ := Option.map_eq_some_iff.1 h
      cases heq
      obtain ⟨hbit, hown⟩ := freeSlot_some hfree
      exact ⟨hbit, Or.inr ⟨rfl, hown, rfl, freeSlot_none.1 hnone 5 rfl⟩⟩
    · cases h

theorem getErrSlotNumAndErrId_none : getErrSlotNumAndErrId sev slotBits = none ↔
    ∀ slot, MayUse sev slot → BitQueue.member slotBits slot = true := by
  unfold getErrSlotNumAndErrId
  split
  · rename_i slot' hfree
    constructor
    · intro h
      cases h
    · intro h
      obtain ⟨hbit, hown⟩ := freeSlot_some hfree
      rw [h slot' (Or.inl hown)] at hbit
      cases hbit
  · rename_i hnone
    have hown := freeSlot_none.1 hnone
    split
    · rename_i hsev
      rw [Option.map_eq_none_iff, freeSlot_none]
      constructor
      · rintro h slot (hslot | ⟨-, hslot⟩)
        · exact hown slot hslot
        · exact h slot hslot
      · intro h slot hslot
        exact h slot (Or.inr ⟨hsev, hslot⟩)
    · rename_i hsev
      constructor
      · rintro - slot (hslot | ⟨heq, -⟩)
        · exact hown slot hslot
        · exact absurd heq hsev
      · intro
        rfl

end

/-! ## Runs -/

/-- The bits are those of the logs. -/
def BitsOk (s : ErrlStore) : Prop := ∀ slot, BitQueue.member s.slotBits slot = true ↔ slot ∈ s.logs

section
variable {s s' : ErrlStore}

theorem bitsOk_init : BitsOk .init := by
  intro slot
  constructor
  · intro h
    rw [show BitQueue.member (ErrlStore.init).slotBits slot = false from BitQueue.member_zero slot] at h
    cases h
  · intro h
    exact absurd h (Finset.notMem_empty slot)

theorem BitsOk.allocate (h : BitsOk s) {slot : Nat} (hlt : slot < maxSlots) (log : Slot) : BitsOk (s.allocate slot log) := by
  intro i
  show BitQueue.member (BitQueue.insert s.slotBits slot) i = true ↔ i ∈ insert slot s.logs
  have hslots : maxSlots = 8 := rfl
  rw [BitQueue.member_insert, Bool.or_eq_true, decide_eq_true_iff, Finset.mem_insert, h i]
  constructor
  · rintro (hi | ⟨hi, -⟩)
    · exact Or.inr hi
    · exact Or.inl hi
  · rintro (hi | hi)
    · exact Or.inr ⟨hi, by omega⟩
    · exact Or.inl hi

theorem MayUse.lt {sev : ErrlSeverity} {slot : Nat} (h : MayUse sev slot) : slot < maxSlots := by
  obtain h | ⟨-, h⟩ := h
  · exact ownSlot_lt h
  · exact ownSlot_lt h

theorem mayUse_of_allocated {sev : ErrlSeverity} {slotBits : BitVec 32} {slot : Nat} {maxSize : BitVec 16}
    (h : getErrSlotNumAndErrId sev slotBits = some (slot, maxSize)) : MayUse sev slot := by
  obtain ⟨-, ⟨hown, -⟩ | ⟨hsev, hown, -⟩⟩ := getErrSlotNumAndErrId_some h
  · exact Or.inl hown
  · exact Or.inr ⟨hsev, hown⟩

theorem BitsOk.deleteErrl (h : BitsOk s) (hndl : Nat) : BitsOk (s.deleteErrl hndl) := by
  unfold ErrlStore.deleteErrl
  split
  · rename_i slot hfind
    have hslot : hndl = slot := by
      have hfound := List.find?_some hfind
      exact of_decide_eq_true hfound
    subst hslot
    intro i
    show BitQueue.member (BitQueue.delete s.slotBits hndl) i = true ↔ i ∈ s.logs.erase hndl
    rw [BitQueue.member_delete, Finset.mem_erase, Bool.and_eq_true, h i]
    constructor
    · rintro ⟨hi, hne⟩
      refine ⟨?_, hi⟩
      rintro rfl
      simp at hne
    · rintro ⟨hne, hi⟩
      exact ⟨hi, by simpa using hne⟩
  · exact h

theorem BitsOk.next {e : ErrlEvent} (h : BitsOk s) (hs : s.next e = some s') : BitsOk s' := by
  cases ErrlStore.next_cases hs with
  | keep => exact h
  | create hget => exact h.allocate (mayUse_of_allocated hget).lt _
  | createPgpe hget => exact h.allocate (mayUse_of_allocated hget).lt _
  | log _ => exact h
  | commit _ => exact h
  | delete _ => exact h.deleteErrl _
  | clear _ => exact h.deleteErrl _

theorem BitsOk.law (h : BitsOk s) : SlotLaw s := by
  refine ⟨h, ?_, ?_, ?_⟩
  · intro sev slot maxSize hget
    refine ⟨fun hlog => ?_, mayUse_of_allocated hget⟩
    have hbit := (getErrSlotNumAndErrId_some hget).1
    rw [(h slot).2 hlog] at hbit
    cases hbit
  · intro slot maxSize hget hown
    obtain ⟨-, ⟨hfive, -⟩ | ⟨-, -, -, hbit⟩⟩ := getErrSlotNumAndErrId_some hget
    · have hfive : slot = 5 := hfive
      have hlt : slot < 5 := hown
      omega
    · exact (h 5).1 hbit
  · intro sev
    rw [getErrSlotNumAndErrId_none]
    constructor
    · intro hall slot hmay
      exact (h slot).1 (hall slot hmay)
    · intro hall slot hmay
      exact (h slot).2 (hall slot hmay)

end

/-- In every run the bits are those of the logs, and a new log gets a free slot that it may use if there is one. -/
theorem run_slotLaw {s : ErrlStore} {es : List ErrlEvent} (h : Run (StepOf ErrlStore.next) .init es s) : SlotLaw s :=
  (h.invariant (P := BitsOk) (fun _ _ _ hs he => hs.next he) bitsOk_init).law

/-- The slot for the PGPE is taken when it fails again, and freed. -/
def fallbackRun : List ErrlEvent :=
  [createPgpeOf .unrecoverable, createOf .informational, createPgpeOf .unrecoverable, .commit 5 false, .delete 5]

theorem run_slotLaw_fallback : ∃ s, exec ErrlStore.next .init fallbackRun = some s ∧ s.logs = {0, 6} ∧ SlotLaw s :=
  ⟨_, rfl, by decide, @run_slotLaw _ fallbackRun (exec_eq_some_iff.1 rfl)⟩

end Occ.Errl
