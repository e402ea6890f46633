/-
Containment: in every run in which no user details are added to a log with one, two or three bytes left, every log is
contained in its slot.
-/
import Occ.Errl.Store
import Occ.Errl.Contained

namespace Occ.Errl

open Occ.Staged (Byte)
open Occ.Transition

open Slot

/-! ## The law -/

/-- The size of a slot: `G_pgpeslot`, `G_callslot`, or one of the others. -/
def slotSize (slot : Nat) : BitVec 16 :=
  if slot = 5 then maxErrlPgpeEntrySz else if slot = 7 then maxErrlCallHomeSz else maxErrlEntrySz

/-- Every log is contained in its maximum size, which is the size of its slot. -/
def ContainmentLaw (s : ErrlStore) : Prop :=
  ∀ hndl ∈ s.logs, Contained (s.slots hndl) ∧ maxSize (s.slots hndl) = slotSize hndl

/-- A call of `addUsrDtlsToErrl` that passes its checks does not find one, two or three bytes left. -/
def FitsOk (s : ErrlStore) : ErrlEvent → Prop
  | .log hndl (.addUsrDtls data size _ _) =>
    data.isSome = true → committed (s.slots hndl) = false → size ≠ 0 → HeaderFits (s.slots hndl)
  | _ => True

instance (s : Slot) : Decidable (HeaderFits s) := inferInstanceAs (Decidable (_ → _))

instance (s : ErrlStore) (e : ErrlEvent) : Decidable (FitsOk s e) := by
  unfold FitsOk
  split
  all_goals infer_instance

/-! ## Runs -/

structure StoreOk (s : ErrlStore) : Prop where
  bits : BitsOk s
  live : ContainmentLaw s
  cleared : ∀ slot, slot ∉ s.logs → Cleared (s.slots slot)

theorem storeOk_init : StoreOk .init :=
  ⟨bitsOk_init, fun hndl h => absurd h (Finset.notMem_empty hndl), fun _ _ _ _ => rfl⟩

theorem slotSize_of_allocated {sev : ErrlSeverity} {slotBits : BitVec 32} {slot : Nat} {maxSize : BitVec 16}
    (h : getErrSlotNumAndErrId sev slotBits = some (slot, maxSize)) : maxSize = slotSize slot := by
  have hlow : slot < 5 → maxErrlEntrySz = slotSize slot := by
    intro hlt
    unfold slotSize
    rw [if_neg (by omega), if_neg (by omega)]
  obtain ⟨-, ⟨hown, rfl⟩ | ⟨-, hown, rfl, -⟩⟩ := getErrSlotNumAndErrId_some h
  · cases sev with
    | informational =>
      obtain rfl : slot = 6 := hown
      rfl
    | predictive => exact hlow hown
    | unrecoverable => exact hlow hown
    | callhomeData =>
      obtain rfl : slot = 7 := hown
      rfl
    | pgpeError =>
      obtain rfl : slot = 5 := hown
      rfl
  · exact hlow hown

theorem slotSize_large (slot : Nat) : maxErrlEntrySz.toNat ≤ (slotSize slot).toNat := by
  unfold slotSize
  split
  · decide
  · split
    · decide
    · exact Nat.le_refl _

/-- The pends of a call for trace buffers succeed. -/
def LogOp.Locks (s : Slot) : LogOp → Prop
  | addTrace trace traceSz env => TraceLocks s trace traceSz env
  | _ => True

theorem logOp_change {s : Slot} {op : LogOp} (h : Contained s)
    (hfits : ∀ data size version type, op = .addUsrDtls data size version type → data ≠ none → committed s = false → size ≠ 0 →
      HeaderFits s) : Change (op.Locks s) s (op.apply s) := by
  cases op with
  | addErrHistory history => exact addErrHistory_change s history
  | addUsrDtls data size version type => exact addUsrDtlsToErrl_change s version type (hfits data size version type rfl)
  | addTrace trace traceSz env => exact addTraceToErrl_change s trace env traceSz
  | addCallout type calloutValue priority => exact addCalloutToErrl_change s type calloutValue priority
  | setSevToInfo => exact setErrlSevToInfo_change s h.callouts
  | setActions mask => exact setErrlActions_change s mask

namespace StoreOk

variable {s s' : ErrlStore}

theorem setSlot (h : StoreOk s) {hndl : Nat} (hlive : hndl ∈ s.logs) {log : Slot} (hkept : Kept (s.slots hndl) log) :
    StoreOk (s.setSlot hndl log) := by
  refine ⟨h.bits, fun i hi => ?_, fun i hi => ?_⟩
  · show Contained (Function.update s.slots hndl log i) ∧ maxSize (Function.update s.slots hndl log i) = slotSize i
    by_cases heq : i = hndl
    · subst heq
      obtain ⟨hcontained, hmax⟩ := h.live i hlive
      obtain ⟨hcontained', hmax', -⟩ := hkept hcontained
      rw [Function.update_self]
      exact ⟨hcontained', hmax'.trans hmax⟩
    · rw [Function.update_of_ne heq]
      exact h.live i hi
  · show Cleared (Function.update s.slots hndl log i)
    have hne : i ≠ hndl := by
      rintro rfl
      exact hi hlive
    rw [Function.update_of_ne hne]
    exact h.cleared i hi

theorem allocate (h : StoreOk s) {slot : Nat} (hlt : slot < maxSlots) {log : Slot} {full : Prop} {k : Nat}
    (hnew : NewLog full (slotSize slot) k log) : StoreOk (s.allocate slot log) := by
  refine ⟨h.bits.allocate hlt log, fun i hi => ?_, fun i hi => ?_⟩
  · show Contained (Function.update s.slots slot log i) ∧ maxSize (Function.update s.slots slot log i) = slotSize i
    by_cases heq : i = slot
    · subst heq
      rw [Function.update_self]
      exact ⟨hnew.contained, hnew.maxSize⟩
    · rw [Function.update_of_ne heq]
      exact h.live i ((Finset.mem_insert.1 hi).resolve_left heq)
  · show Cleared (Function.update s.slots slot log i)
    obtain ⟨hne, hnot⟩ := not_or.1 (fun hor => hi (Finset.mem_insert.2 hor))
    rw [Function.update_of_ne hne]
    exact h.cleared i hnot

theorem deleteErrl (h : StoreOk s) {hndl : Nat} (hlive : hndl ∈ s.logs) : StoreOk (s.deleteErrl hndl) := by
  have hbits := h.bits.deleteErrl hndl
  unfold ErrlStore.deleteErrl at hbits ⊢
  split at hbits
  · refine ⟨hbits, fun i hi => ?_, fun i hi => ?_⟩
    · obtain ⟨hne, hi⟩ := Finset.mem_erase.1 hi
      show Contained (Function.update s.slots hndl _ i) ∧ maxSize (Function.update s.slots hndl _ i) = slotSize i
      rw [Function.update_of_ne hne]
      exact h.live i hi
    · show Cleared (Function.update s.slots hndl _ i)
      by_cases heq : i = hndl
      · subst heq
        rw [Function.update_self]
        exact deleteErrl_cleared (h.live i hlive).1
      · rw [Function.update_of_ne heq]
        exact h.cleared i fun hlog => hi (Finset.mem_erase.2 ⟨heq, hlog⟩)
  · exact h

theorem mem_logs_of_found (h : StoreOk s) {id : Byte} {slot : Nat} (hfound : getErrSlotNumByErrId s.slots id = some slot) :
    slot ∈ s.logs := by
  unfold getErrSlotNumByErrId at hfound
  split at hfound
  · rename_i hid
    have hslot : entryId (s.slots slot) = id := by
      have hsome := List.find?_some hfound
      exact of_decide_eq_true hsome
    by_contra hfree
    have hzero : entryId (s.slots slot) = 0 := h.cleared slot hfree 3 (by decide)
    rw [hzero] at hslot
    exact hid hslot.symm
  · cases hfound

theorem allocated (h : StoreOk s) {sev : ErrlSeverity} {slot : Nat} {maxSize : BitVec 16}
    (hget : getErrSlotNumAndErrId sev s.slotBits = some (slot, maxSize)) :
    slot < maxSlots ∧ slot ∉ s.logs ∧ Cleared (s.slots slot) ∧ maxSize = slotSize slot := by
  have hfree := (h.bits.law.free _ _ _ hget).1
  exact ⟨(mayUse_of_allocated hget).lt, hfree, h.cleared slot hfree, slotSize_of_allocated hget⟩

theorem change (h : StoreOk s) {hndl : Nat} {op : LogOp} (hok : FitsOk s (.log hndl op)) (hlive : hndl ∈ s.logs) :
    Change (op.Locks (s.slots hndl)) (s.slots hndl) (op.apply (s.slots hndl)) := by
  refine logOp_change (h.live hndl hlive).1 ?_
  rintro data size version type rfl hdata hcommitted hsize
  exact hok (Option.isSome_iff_ne_none.2 hdata) hcommitted hsize

theorem next {e : ErrlEvent} (h : StoreOk s) (hok : FitsOk s e) (hs : s.next e = some s') : StoreOk s' := by
  cases ErrlStore.next_cases hs with
  | keep => exact h
  | create hget =>
    obtain ⟨hlt, -, hcleared, rfl⟩ := h.allocated hget
    exact h.allocate hlt (createErrl_newLog hcleared (slotSize_large _) _ _ _ _ _ _ _).1
  | createPgpe hget =>
    obtain ⟨hlt, -, hcleared, rfl⟩ := h.allocated hget
    exact h.allocate hlt (createPgpeErrl_newLog hcleared (slotSize_large _) _ _ _ _ _ _).1
  | log hlive => exact h.setSlot hlive (h.change hok hlive).kept
  | @commit _ checkStop hlive =>
    have hset := h.setSlot hlive (commitErrl_patched _ checkStop).kept
    exact ⟨hset.bits, hset.live, hset.cleared⟩
  | delete hlive => exact h.deleteErrl hlive
  | clear hfound => exact h.deleteErrl (h.mem_logs_of_found hfound)

end StoreOk

theorem run_storeOk {s : ErrlStore} {es : List ErrlEvent} (h : Run (Guarded FitsOk (StepOf ErrlStore.next)) .init es s) :
    StoreOk s :=
  h.invariant (P := StoreOk) (fun _ _ _ hs he => hs.next he.1 he.2) storeOk_init

/-- In a run in which user details are added only with room for their header, every log is contained in its slot. -/
theorem run_containmentLaw {s : ErrlStore} {es : List ErrlEvent}
    (h : Run (Guarded FitsOk (StepOf ErrlStore.next)) .init es s) : ContainmentLaw s :=
  (run_storeOk h).live

/-- User details of a size. -/
def addDetails (hndl : Nat) (size : BitVec 16) : ErrlEvent := .log hndl (.addUsrDtls (some fun _ => 0xFF) size 1 3)

/-- User details that fill a log up to its maximum size. -/
def fullRun : List ErrlEvent := [createOf .unrecoverable, addDetails 0 1948, addDetails 0 100, addDetails 0 100, .commit 0 false]

theorem run_containmentLaw_full : ∃ s, exec ErrlStore.next .init fullRun = some s ∧ ContainmentLaw s :=
  ⟨_, rfl, @run_containmentLaw _ fullRun (run_guarded_of_exec rfl)⟩

/-- User details with two bytes left. -/
def overRun : List ErrlEvent := [createOf .unrecoverable, addDetails 0 1950, addDetails 0 100]

theorem not_containmentLaw_over : ∃ s, exec ErrlStore.next .init overRun = some s ∧ ¬ContainmentLaw s := by
  refine ⟨_, rfl, fun h => ?_⟩
  have hlog := h 0 (by decide)
  have hlt := hlog.1.written 2200 (by decide +kernel)
  rw [hlog.2] at hlt
  exact absurd hlt (by decide)

end Occ.Errl
