/-
Identity: the ids of the logs are told apart, and a log is found by its id, as long as each is deleted before the 8-bit
counter has come round to its id.
-/
import Occ.Errl.Containment

namespace Occ.Errl

open Occ.Staged (Byte)
open Occ.Transition

open Slot

/-! ## The law -/

structure IdLaw (s : ErrlStore) : Prop where
  nonzero : ∀ hndl ∈ s.logs, entryId (s.slots hndl) ≠ 0
  distinct : ∀ hndl ∈ s.logs, ∀ hndl' ∈ s.logs, entryId (s.slots hndl) = entryId (s.slots hndl') → hndl = hndl'
  found : ∀ id slot, getErrSlotNumByErrId s.slots id = some slot ↔ slot ∈ s.logs ∧ entryId (s.slots slot) = id
  others : ∀ id, ∀ hndl ∈ s.logs, entryId (s.slots hndl) ≠ id →
    (s.clearElog id).slots hndl = s.slots hndl ∧ hndl ∈ (s.clearElog id).logs

/-- No log is left after 254 more have been created when the next one is. -/
def Collected (s : ErrlStore) (sev : ErrlSeverity) : Prop :=
  getErrSlotNumAndErrId sev s.slotBits ≠ none → ∀ hndl ∈ s.logs, s.created + 1 < s.born hndl + 255

def IdsOk (s : ErrlStore) (e : ErrlEvent) : Prop :=
  FitsOk s e ∧
    match e with
    | .create args .. => Collected s args.severity
    | .createPgpe .. => Collected s .pgpeError
    | _ => True

instance (s : ErrlStore) (sev : ErrlSeverity) : Decidable (Collected s sev) := inferInstanceAs (Decidable (_ → _))

instance (s : ErrlStore) : (e : ErrlEvent) → Decidable (IdsOk s e)
  | .create args trace traceSz history env occ =>
    inferInstanceAs (Decidable (FitsOk s (.create args trace traceSz history env occ) ∧ Collected s args.severity))
  | .createPgpe args pgpe history env occ =>
    inferInstanceAs (Decidable (FitsOk s (.createPgpe args pgpe history env occ) ∧ Collected s .pgpeError))
  | .log hndl op => inferInstanceAs (Decidable (FitsOk s (.log hndl op) ∧ True))
  | .commit hndl checkStop => inferInstanceAs (Decidable (FitsOk s (.commit hndl checkStop) ∧ True))
  | .delete hndl => inferInstanceAs (Decidable (FitsOk s (.delete hndl) ∧ True))
  | .clear id => inferInstanceAs (Decidable (FitsOk s (.clear id) ∧ True))

/-! ## Ids by number -/

/-- The id of the `n`-th log. -/
def idOf (n : Nat) : Byte := if n = 0 then 0 else BitVec.ofNat 8 ((n - 1) % 255 + 1)

theorem idOf_toNat {n : Nat} (h : 0 < n) : (idOf n).toNat = (n - 1) % 255 + 1 := by
  unfold idOf
  rw [if_neg (by omega), BitVec.toNat_ofNat]
  omega

theorem nextErrId_idOf (n : Nat) : nextErrId (idOf n) = idOf (n + 1) := by
  apply BitVec.eq_of_toNat_eq
  have hone : (1 : Byte).toNat = 1 := rfl
  have hsucc := idOf_toNat (Nat.succ_pos n)
  rw [Nat.succ_eq_add_one, Nat.add_sub_cancel] at hsucc
  rw [hsucc]
  unfold nextErrId
  obtain rfl | hpos := Nat.eq_zero_or_pos n
  · rfl
  have hid := idOf_toNat hpos
  split
  · rename_i hzero
    have hwrap : (idOf n + 1).toNat = 0 := by
      rw [hzero]
      rfl
    rw [BitVec.toNat_add, hwrap, hone]
    rw [BitVec.toNat_add, hid, hone] at hwrap
    omega
  · rename_i hne
    have hne' : (idOf n + 1).toNat ≠ 0 := fun hz => hne (BitVec.eq_of_toNat_eq hz)
    rw [BitVec.toNat_add, hid, hone] at hne' ⊢
    omega

theorem idOf_inj {m n : Nat} (hm : 0 < m) (hn : 0 < n) (hmn : m < n + 255) (hnm : n < m + 255) (h : idOf m = idOf n) :
    m = n := by
  have hnat := congrArg BitVec.toNat h
  rw [idOf_toNat hm, idOf_toNat hn] at hnat
  omega

/-! ## The invariant -/

structure IdsInv (s : ErrlStore) : Prop where
  store : StoreOk s
  counter : s.idCounter = idOf s.created
  ids : ∀ hndl ∈ s.logs, entryId (s.slots hndl) = idOf (s.born hndl)
  born : ∀ hndl ∈ s.logs, 0 < s.born hndl ∧ s.born hndl ≤ s.created ∧ s.created < s.born hndl + 255
  apart : ∀ hndl ∈ s.logs, ∀ hndl' ∈ s.logs, s.born hndl = s.born hndl' → hndl = hndl'
  lt : ∀ hndl ∈ s.logs, hndl < maxSlots

theorem idsInv_init : IdsInv .init :=
  ⟨storeOk_init, rfl, fun hndl h => absurd h (Finset.notMem_empty hndl), fun hndl h => absurd h (Finset.notMem_empty hndl),
    fun hndl h => absurd h (Finset.notMem_empty hndl), fun hndl h => absurd h (Finset.notMem_empty hndl)⟩

namespace IdsInv

variable {s s' : ErrlStore}

theorem distinct (h : IdsInv s) {hndl hndl' : Nat} (hlog : hndl ∈ s.logs) (hlog' : hndl' ∈ s.logs)
    (heq : entryId (s.slots hndl) = entryId (s.slots hndl')) : hndl = hndl' := by
  obtain ⟨hpos, hle, hlt⟩ := h.born hndl hlog
  obtain ⟨hpos', hle', hlt'⟩ := h.born hndl' hlog'
  rw [h.ids hndl hlog, h.ids hndl' hlog'] at heq
  exact h.apart hndl hlog hndl' hlog' (idOf_inj hpos hpos' (by omega) (by omega) heq)

theorem nonzero (h : IdsInv s) {hndl : Nat} (hlog : hndl ∈ s.logs) : entryId (s.slots hndl) ≠ 0 := by
  intro hzero
  have hid := idOf_toNat (h.born hndl hlog).1
  rw [← h.ids hndl hlog, hzero] at hid
  cases hid

/-- A log is found by its id, and nothing else is. -/
theorem found (h : IdsInv s) (id : Byte) (slot : Nat) :
    getErrSlotNumByErrId s.slots id = some slot ↔ slot ∈ s.logs ∧ entryId (s.slots slot) = id := by
  have hsound : ∀ slot, getErrSlotNumByErrId s.slots id = some slot → slot ∈ s.logs ∧ entryId (s.slots slot) = id := by
    intro slot hfound
    refine ⟨h.store.mem_logs_of_found hfound, ?_⟩
    unfold getErrSlotNumByErrId at hfound
    split at hfound
    · have hsome := List.find?_some hfound
      exact of_decide_eq_true hsome
    · cases hfound
  constructor
  · exact hsound slot
  · rintro ⟨hlog, hid⟩
    cases hresult : getErrSlotNumByErrId s.slots id with
    | some slot' =>
      obtain ⟨hlog', hid'⟩ := hsound slot' hresult
      rw [h.distinct hlog hlog' (hid.trans hid'.symm)]
    | none =>
      have hne : id ≠ 0 := by
        rw [← hid]
        exact h.nonzero hlog
      unfold getErrSlotNumByErrId at hresult
      rw [if_pos hne] at hresult
      have hnot := List.find?_eq_none.1 hresult slot (List.mem_range.2 (h.lt slot hlog))
      exact absurd (decide_eq_true hid) hnot

theorem others (h : IdsInv s) (id : Byte) {hndl : Nat} (hlog : hndl ∈ s.logs) (hne : entryId (s.slots hndl) ≠ id) :
    (s.clearElog id).slots hndl = s.slots hndl ∧ hndl ∈ (s.clearElog id).logs := by
  unfold ErrlStore.clearElog
  split
  · rename_i slot hfound
    have hid := ((h.found id slot).1 hfound).2
    have hslot : hndl ≠ slot := by
      rintro rfl
      exact hne hid
    unfold ErrlStore.deleteErrl
    split
    · exact ⟨Function.update_of_ne hslot _ _, Finset.mem_erase.2 ⟨hslot, hlog⟩⟩
    · exact ⟨rfl, hlog⟩
  · exact ⟨rfl, hlog⟩

theorem law (h : IdsInv s) : IdLaw s :=
  ⟨fun _ hlog => h.nonzero hlog, fun _ hlog _ hlog' heq => h.distinct hlog hlog' heq, h.found,
    fun id _ hlog hne => h.others id hlog hne⟩

/-- A log is created, and all that are left are younger than 255 logs. -/
theorem allocate (h : IdsInv s) {slot : Nat} {log : Slot} (hstore : StoreOk (s.allocate slot log)) (hlt : slot < maxSlots)
    (hid : entryId log = nextErrId s.idCounter) (hage : ∀ hndl ∈ s.logs, s.created + 1 < s.born hndl + 255)
    (hfree : slot ∉ s.logs) : IdsInv (s.allocate slot log) := by
  have hother : ∀ hndl ∈ s.logs, hndl ≠ slot := by
    rintro hndl hlog rfl
    exact hfree hlog
  have hborn : ∀ hndl ∈ s.logs, (s.allocate slot log).born hndl = s.born hndl :=
    fun hndl hlog => Function.update_of_ne (hother hndl hlog) _ _
  have hself : (s.allocate slot log).born slot = s.created + 1 := Function.update_self ..
  refine ⟨hstore, ?_, ?_, ?_, ?_, ?_⟩
  · show nextErrId s.idCounter = idOf (s.created + 1)
    rw [h.counter, nextErrId_idOf]
  · intro hndl hlog
    obtain rfl | hlog := Finset.mem_insert.1 hlog
    · rw [hself, ← nextErrId_idOf, ← h.counter, ← hid]
      exact congrArg entryId (Function.update_self ..)
    · rw [hborn hndl hlog, ← h.ids hndl hlog]
      exact congrArg entryId (Function.update_of_ne (hother hndl hlog) _ _)
  · intro hndl hlog
    show 0 < (s.allocate slot log).born hndl ∧ (s.allocate slot log).born hndl ≤ s.created + 1 ∧
      s.created + 1 < (s.allocate slot log).born hndl + 255
    obtain rfl | hlog := Finset.mem_insert.1 hlog
    · rw [hself]
      omega
    · have hage := hage hndl hlog
      obtain ⟨hpos, hle, -⟩ := h.born hndl hlog
      rw [hborn hndl hlog]
      omega
  · intro hndl hlog hndl' hlog' heq
    obtain rfl | hold := Finset.mem_insert.1 hlog
    · obtain rfl | hold' := Finset.mem_insert.1 hlog'
      · rfl
      · rw [hself, hborn hndl' hold'] at heq
        have hle := (h.born hndl' hold').2.1
        omega
    · obtain rfl | hold' := Finset.mem_insert.1 hlog'
      · rw [hself, hborn hndl hold] at heq
        have hle := (h.born hndl hold).2.1
        omega
      · rw [hborn hndl hold, hborn hndl' hold'] at heq
        exact h.apart hndl hold hndl' hold' heq
  · intro hndl hlog
    obtain rfl | hlog := Finset.mem_insert.1 hlog
    · exact hlt
    · exact h.lt hndl hlog

theorem setSlot (h : IdsInv s) {hndl : Nat} (hlive : hndl ∈ s.logs) {log : Slot} (hkept : Kept (s.slots hndl) log) :
    IdsInv (s.setSlot hndl log) := by
  refine ⟨h.store.setSlot hlive hkept, h.counter, fun i hi => ?_, h.born, h.apart, h.lt⟩
  rw [show (s.setSlot hndl log).born i = s.born i from rfl, ← h.ids i hi]
  show entryId (Function.update s.slots hndl log i) = _
  by_cases heq : i = hndl
  · subst heq
    rw [Function.update_self]
    exact (hkept (h.store.live i hlive).1).2.2
  · rw [Function.update_of_ne heq]

theorem deleteErrl (h : IdsInv s) {hndl : Nat} (hlive : hndl ∈ s.logs) : IdsInv (s.deleteErrl hndl) := by
  have hstore := h.store.deleteErrl hlive
  unfold ErrlStore.deleteErrl at hstore ⊢
  split at hstore
  · have hlogs : ∀ i ∈ s.logs.erase hndl, i ∈ s.logs := fun i hi => (Finset.mem_erase.1 hi).2
    refine ⟨hstore, h.counter, fun i hi => ?_, fun i hi => h.born i (hlogs i hi),
      fun i hi j hj => h.apart i (hlogs i hi) j (hlogs j hj), fun i hi => h.lt i (hlogs i hi)⟩
    refine (congrArg entryId ?_).trans (h.ids i (hlogs i hi))
    exact Function.update_of_ne (Finset.mem_erase.1 hi).1 _ _
  · exact h

theorem next {e : ErrlEvent} (h : IdsInv s) (hok : IdsOk s e) (hs : s.next e = some s') : IdsInv s' := by
  have hstore := h.store.next hok.1 hs
  obtain ⟨hfits, hage⟩ := hok
  cases ErrlStore.next_cases hs with
  | keep => exact h
  | create hget =>
    obtain ⟨hlt, hfree, hcleared, rfl⟩ := h.store.allocated hget
    refine h.allocate hstore hlt (createErrl_newLog hcleared (slotSize_large _) _ _ _ _ _ _ _).2 (hage ?_) hfree
    rw [hget]
    simp
  | createPgpe hget =>
    obtain ⟨hlt, hfree, hcleared, rfl⟩ := h.store.allocated hget
    refine h.allocate hstore hlt (createPgpeErrl_newLog hcleared (slotSize_large _) _ _ _ _ _ _).2 (hage ?_) hfree
    rw [hget]
    simp
  | log hlive => exact h.setSlot hlive (h.store.change hfits hlive).kept
  | @commit _ checkStop hlive =>
    have hset := h.setSlot hlive (commitErrl_patched _ checkStop).kept
    exact ⟨hstore, hset.counter, hset.ids, hset.born, hset.apart, hset.lt⟩
  | delete hlive => exact h.deleteErrl hlive
  | clear hfound => exact h.deleteErrl (h.store.mem_logs_of_found hfound)

end IdsInv

/-- In a run in which each log is deleted before 255 more have been created, the logs are told apart by their ids. -/
theorem run_idLaw {s : ErrlStore} {es : List ErrlEvent} (h : Run (Guarded IdsOk (StepOf ErrlStore.next)) .init es s) :
    IdLaw s :=
  (h.invariant (P := IdsInv) (fun _ _ _ hs he => hs.next he.1 he.2) idsInv_init).law

/-- A call home log is left while other logs are created and deleted. -/
def otherLogs (n : Nat) : List ErrlEvent :=
  createOf .callhomeData :: (List.replicate n [createOf .informational, .delete 6]).flatten

theorem run_idLaw_left : ∃ s, exec ErrlStore.next .init (otherLogs 3 ++ [.clear 1]) = some s ∧ IdLaw s :=
  ⟨_, rfl, @run_idLaw _ (otherLogs 3 ++ [.clear 1]) (run_guarded_of_exec rfl)⟩

/-- The 256th log gets the id of the first, which is still there. -/
theorem not_idLaw_wrap : ∃ s, exec ErrlStore.next .init (otherLogs 254 ++ [createOf .informational]) = some s ∧ ¬IdLaw s := by
  have hrun : ((exec ErrlStore.next .init (otherLogs 254 ++ [createOf .informational])).map fun s =>
      decide (7 ∈ s.logs ∧ 6 ∈ s.logs ∧ entryId (s.slots 7) = entryId (s.slots 6))) = some true := by
    decide +kernel
  obtain ⟨s, hs, hall⟩ := Option.map_eq_some_iff.1 hrun
  obtain ⟨hseven, hsix, heq⟩ := of_decide_eq_true hall
  exact ⟨s, hs, fun h => absurd (h.distinct 7 hseven 6 hsix heq) (by decide)⟩

end Occ.Errl
