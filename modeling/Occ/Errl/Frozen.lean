/-
Committed logs: no call changes a log between its commit and its deletion, its checksum is that of its bytes, and, as long as
the pends for the trace buffers succeed, none of its bytes is left from an earlier log in its slot.
-/
import Occ.Errl.Containment

namespace Occ.Errl

open Occ.Staged (Byte)
open Occ.Transition

open Slot

/-! ## The law -/

/-- The 16-bit sum of the bytes from offset 2 to the end of the log. -/
def byteSum (s : Slot) : BitVec 16 :=
  ((List.range' 2 ((entrySize s).toNat - 2)).map fun i => (s.mem i).setWidth 16).sum

/-- A step that does not commit a log again and does not delete it. User details without room for their header are left out,
which are written over the next slots. -/
def Spares (hndl : Nat) (s : ErrlStore) (e : ErrlEvent) : Prop :=
  FitsOk s e ∧
    match e with
    | .commit hndl' _ => hndl' ≠ hndl
    | .delete hndl' => hndl' ≠ hndl
    | .clear id => getErrSlotNumByErrId s.slots id ≠ some hndl
    | _ => True

/-- The checksum of a committed log is that of its bytes. -/
def ChecksumOk (s : Slot) : Prop := committed s = true → checkSum s = byteSum s

structure FrozenLaw (s : ErrlStore) : Prop where
  frozen : ∀ hndl ∈ s.logs, committed (s.slots hndl) = true → ∀ es s',
    Run (Guarded (Spares hndl) (StepOf ErrlStore.next)) s es s' → s'.slots hndl = s.slots hndl
  checksum : ∀ hndl ∈ s.logs, ChecksumOk (s.slots hndl)
  fresh : ∀ hndl ∈ s.logs, Fresh (s.slots hndl)

/-- User details fit, and every pend for a trace buffer succeeds. -/
def FrozenOk (s : ErrlStore) (e : ErrlEvent) : Prop :=
  FitsOk s e ∧
    match e with
    | .create args trace traceSz _ env _ => getErrSlotNumAndErrId args.severity s.slotBits ≠ none → env.Locks trace traceSz
    | .createPgpe _ _ _ env _ => getErrSlotNumAndErrId .pgpeError s.slotBits ≠ none → env.Locks none defaultTraceSize
    | .log hndl op => op.Locks (s.slots hndl)
    | _ => True

instance (s : Slot) (op : LogOp) : Decidable (op.Locks s) := by
  unfold LogOp.Locks
  split
  all_goals infer_instance

instance (s : ErrlStore) (e : ErrlEvent) : Decidable (FrozenOk s e) := by
  unfold FrozenOk
  refine @instDecidableAnd _ _ _ ?_
  split
  all_goals infer_instance

/-! ## Checksums -/

section

theorem setWidth_foldl (f : Nat → BitVec 8) (l : List Nat) (acc : BitVec 32) :
    (l.foldl (fun sum i => sum + (f i).setWidth 32) acc).setWidth 16 =
      acc.setWidth 16 + (l.map fun i => (f i).setWidth 16).sum := by
  induction l generalizing acc with
  | nil => simp
  | cons i l ih =>
    have hbyte : ((f i).setWidth 32).setWidth 16 = (f i).setWidth 16 := by
      apply BitVec.eq_of_toNat_eq
      have hlt := (f i).isLt
      simp only [BitVec.toNat_setWidth]
      omega
    rw [List.foldl_cons, ih, List.map_cons, List.sum_cons, BitVec.setWidth_add _ _ (by decide), hbyte, BitVec.add_assoc]

theorem setWidth_sumBytes (s : Slot) : (sumBytes s).setWidth 16 = byteSum s := by
  unfold sumBytes byteSum
  rw [setWidth_foldl s.mem]
  exact BitVec.zero_add _

theorem byteSum_put (s : Slot) (v : BitVec 16) : byteSum (s.put 0 (Bytes.ofWord 2 v)) = byteSum s := by
  have hkeep : ∀ x, 2 ≤ x → (s.put 0 (Bytes.ofWord 2 v)).mem x = s.mem x := by
    intro x hx
    have hclear : Marked.Clear x (x + 1) 0 (Bytes.ofWord 2 v) := by
      unfold Marked.Clear
      rw [Bytes.length_ofWord]
      omega
    exact Marked.put_byte hclear
  have hsize : entrySize (s.put 0 (Bytes.ofWord 2 v)) = entrySize s := by
    unfold entrySize half
    rw [hkeep 116 (by decide), hkeep (116 + 1) (by decide)]
  unfold byteSum
  rw [hsize]
  refine congrArg List.sum (List.map_congr_left fun i hi => ?_)
  rw [hkeep i (List.mem_range'_1.1 hi).1]

theorem checksum_stored (s : Slot) : ChecksumOk (s.puts 0 [(0, Bytes.ofWord 2 ((sumBytes s).setWidth 16))]) := by
  intro
  show checkSum (s.put 0 _) = byteSum (s.put 0 _)
  rw [byteSum_put, ← setWidth_sumBytes]
  exact Marked.half_put_self _

theorem commitErrl_checksumOk (s : Slot) (checkStop : Bool) : ChecksumOk (Slot.commitErrl s checkStop) := checksum_stored _

end

/-! ## Logs that are frozen -/

theorem logOp_committed {s : Slot} {op : LogOp} (h : committed s = true) : op.apply s = s := by
  have hnot : ∀ P : Prop, ¬(committed s = false ∧ P) := by
    rintro P ⟨hopen, -⟩
    rw [h] at hopen
    cases hopen
  cases op with
  | addErrHistory history => exact if_neg (hnot _)
  | addUsrDtls data size version type =>
    cases data with
    | none => rfl
    | some data => exact if_neg (hnot _)
  | addTrace trace traceSz env => exact if_neg (hnot _)
  | addCallout type calloutValue priority => exact if_neg (hnot _)
  | setSevToInfo => exact if_neg (by simp [h])
  | setActions mask => exact if_neg (by simp [h])

section
variable {s s' : ErrlStore} {hndl : Nat}

theorem deleteErrl_other (hlive : hndl ∈ s.logs) {slot : Nat} (hne : hndl ≠ slot) :
    (s.deleteErrl slot).slots hndl = s.slots hndl ∧ hndl ∈ (s.deleteErrl slot).logs := by
  unfold ErrlStore.deleteErrl
  split
  · exact ⟨Function.update_of_ne hne _ _, Finset.mem_erase.2 ⟨hne, hlive⟩⟩
  · exact ⟨rfl, hlive⟩

theorem allocate_other (hlive : hndl ∈ s.logs) {slot : Nat} (hfree : slot ∉ s.logs) (log : Slot) :
    (s.allocate slot log).slots hndl = s.slots hndl ∧ hndl ∈ (s.allocate slot log).logs := by
  have hne : hndl ≠ slot := by
    rintro rfl
    exact hfree hlive
  exact ⟨Function.update_of_ne hne _ _, Finset.mem_insert_of_mem hlive⟩

theorem next_frozen {e : ErrlEvent} (hbits : BitsOk s) (hlive : hndl ∈ s.logs) (hcommitted : committed (s.slots hndl) = true)
    (hspares : Spares hndl s e) (hs : s.next e = some s') : s'.slots hndl = s.slots hndl ∧ hndl ∈ s'.logs := by
  obtain ⟨-, hspares⟩ := hspares
  cases ErrlStore.next_cases hs with
  | keep => exact ⟨rfl, hlive⟩
  | create hget => exact allocate_other hlive (hbits.law.free _ _ _ hget).1 _
  | createPgpe hget => exact allocate_other hlive (hbits.law.free _ _ _ hget).1 _
  | @log hndl' op _ =>
    refine ⟨?_, hlive⟩
    show Function.update s.slots hndl' (op.apply (s.slots hndl')) hndl = s.slots hndl
    by_cases heq : hndl = hndl'
    · subst heq
      rw [Function.update_self, logOp_committed hcommitted]
    · exact Function.update_of_ne heq _ _
  | commit _ => exact ⟨Function.update_of_ne (Ne.symm hspares) _ _, hlive⟩
  | delete _ => exact deleteErrl_other hlive (Ne.symm hspares)
  | clear hfound =>
    refine deleteErrl_other hlive ?_
    rintro rfl
    exact hspares hfound

theorem run_frozen {es : List ErrlEvent} (hbits : BitsOk s) (hlive : hndl ∈ s.logs)
    (hcommitted : committed (s.slots hndl) = true) (h : Run (Guarded (Spares hndl) (StepOf ErrlStore.next)) s es s') :
    s'.slots hndl = s.slots hndl := by
  have hinv : BitsOk s' ∧ hndl ∈ s'.logs ∧ s'.slots hndl = s.slots hndl := by
    refine h.invariant (P := fun t => BitsOk t ∧ hndl ∈ t.logs ∧ t.slots hndl = s.slots hndl) ?_ ⟨hbits, hlive, rfl⟩
    rintro t e t' ⟨hbits, hlive, heq⟩ ⟨hspares, hs⟩
    have hcommitted' : committed (t.slots hndl) = true := by
      rw [heq]
      exact hcommitted
    obtain ⟨hkeep, hlive'⟩ := next_frozen hbits hlive hcommitted' hspares hs
    exact ⟨hbits.next hs, hlive', hkeep.trans heq⟩
  exact hinv.2.2

end

/-! ## Runs -/

structure FrozenInv (s : ErrlStore) : Prop where
  store : StoreOk s
  logs : ∀ hndl ∈ s.logs, ChecksumOk (s.slots hndl) ∧ Fresh (s.slots hndl)

theorem frozenInv_init : FrozenInv .init := ⟨storeOk_init, fun hndl h => absurd h (Finset.notMem_empty hndl)⟩

namespace FrozenInv

variable {s s' : ErrlStore}

theorem law (h : FrozenInv s) : FrozenLaw s :=
  ⟨fun _ hlive hcommitted _ _ hrun => run_frozen h.store.bits hlive hcommitted hrun, fun hndl hlive => (h.logs hndl hlive).1,
    fun hndl hlive => (h.logs hndl hlive).2⟩

theorem update (h : FrozenInv s) {slot : Nat} {log : Slot} (hlog : ChecksumOk log ∧ Fresh log) {hndl : Nat}
    (hlive : hndl ≠ slot → hndl ∈ s.logs) :
    ChecksumOk (Function.update s.slots slot log hndl) ∧ Fresh (Function.update s.slots slot log hndl) := by
  by_cases heq : hndl = slot
  · subst heq
    rw [Function.update_self]
    exact hlog
  · rw [Function.update_of_ne heq]
    exact h.logs hndl (hlive heq)

theorem allocate (h : FrozenInv s) {slot k : Nat} {log : Slot} {full : Prop} {max : BitVec 16}
    (hstore : StoreOk (s.allocate slot log)) (hnew : NewLog full max k log) (hfull : full) : FrozenInv (s.allocate slot log) := by
  have hchecksum : ChecksumOk log := by
    intro hcommitted
    rw [hnew.uncommitted] at hcommitted
    cases hcommitted
  exact ⟨hstore, fun i hi => h.update ⟨hchecksum, hnew.fresh hfull⟩ (Finset.mem_of_mem_insert_of_ne hi)⟩

theorem deleteErrl (h : FrozenInv s) {hndl : Nat} (hlive : hndl ∈ s.logs) : FrozenInv (s.deleteErrl hndl) := by
  have hstore := h.store.deleteErrl hlive
  refine ⟨hstore, fun i hi => ?_⟩
  unfold ErrlStore.deleteErrl at hi ⊢
  split at hi
  · obtain ⟨hne, hi⟩ := Finset.mem_erase.1 hi
    show ChecksumOk (Function.update s.slots hndl _ i) ∧ Fresh (Function.update s.slots hndl _ i)
    rw [Function.update_of_ne hne]
    exact h.logs i hi
  · exact h.logs i hi

theorem logOp (h : FrozenInv s) {hndl : Nat} (hlive : hndl ∈ s.logs) {op : LogOp} (hlocks : op.Locks (s.slots hndl))
    (hchange : Change (op.Locks (s.slots hndl)) (s.slots hndl) (op.apply (s.slots hndl))) :
    ChecksumOk (op.apply (s.slots hndl)) ∧ Fresh (op.apply (s.slots hndl)) := by
  obtain ⟨hchecksum, hfresh⟩ := h.logs hndl hlive
  have hcontained := (h.store.live hndl hlive).1
  refine ⟨?_, hchange.fresh hlocks hcontained hfresh⟩
  intro hcommitted
  rw [hchange.committed hcontained] at hcommitted
  rw [logOp_committed hcommitted]
  exact hchecksum hcommitted

theorem next {e : ErrlEvent} (h : FrozenInv s) (hok : FrozenOk s e) (hs : s.next e = some s') : FrozenInv s' := by
  have hstore := h.store.next hok.1 hs
  obtain ⟨hfits, hlocks⟩ := hok
  cases ErrlStore.next_cases hs with
  | keep => exact h
  | create hget =>
    obtain ⟨-, -, hcleared, rfl⟩ := h.store.allocated hget
    refine h.allocate hstore (createErrl_newLog hcleared (slotSize_large _) _ _ _ _ _ _ _).1 (hlocks ?_)
    rw [hget]
    simp
  | createPgpe hget =>
    obtain ⟨-, -, hcleared, rfl⟩ := h.store.allocated hget
    refine h.allocate hstore (createPgpeErrl_newLog hcleared (slotSize_large _) _ _ _ _ _ _).1 (hlocks ?_)
    rw [hget]
    simp
  | log hlive => exact ⟨hstore, fun i hi => h.update (h.logOp hlive hlocks (h.store.change hfits hlive)) fun _ => hi⟩
  | commit hlive =>
    refine ⟨hstore, fun i hi => h.update ⟨commitErrl_checksumOk _ _, ?_⟩ fun _ => hi⟩
    exact (commitErrl_patched _ _).fresh (h.logs _ hlive).2
  | delete hlive => exact h.deleteErrl hlive
  | clear hfound => exact h.deleteErrl (h.store.mem_logs_of_found hfound)

end FrozenInv

/-- In a run in which user details fit and every pend for a trace buffer succeeds, committed logs are frozen, with their
checksum, and no bytes of earlier logs are in a log. -/
theorem run_frozenLaw {s : ErrlStore} {es : List ErrlEvent} (h : Run (Guarded FrozenOk (StepOf ErrlStore.next)) .init es s) :
    FrozenLaw s :=
  (h.invariant (P := FrozenInv) (fun _ _ _ hs he => hs.next he.1 he.2) frozenInv_init).law

/-- A log with user details is committed and deleted, and its slot is used again. -/
def reusedRun : List ErrlEvent :=
  [createOf .unrecoverable, addDetails 0 100, .commit 0 false, .delete 0, createOf .unrecoverable, addDetails 0 60, .commit 0 false,
    addDetails 0 100]

theorem run_frozenLaw_reused : ∃ s, exec ErrlStore.next .init reusedRun = some s ∧ FrozenLaw s :=
  ⟨_, rfl, @run_frozenLaw _ reusedRun (run_guarded_of_exec rfl)⟩

/-- A log with a trace section, when nothing has been traced. -/
def createTraced (locked : Bool) (traceSz : BitVec 16) : ErrlEvent :=
  .create ⟨⟨0x100, 0x10, 0⟩, .unrecoverable, 1, 2⟩ (some .err) traceSz noHistory ⟨fun _ => locked, fun _ => []⟩ noFields

/-- The header of the empty buffer is left behind the first log, where the second one fails to copy the buffer. -/
def staleRun : List ErrlEvent := [createTraced true 256, .delete 0, createTraced false 64, .commit 0 false]

theorem not_frozenLaw_stale : ∃ s, exec ErrlStore.next .init staleRun = some s ∧ 176 < (entrySize (s.slots 0)).toNat ∧
    (s.slots 0).mem 176 ≠ 0 ∧ ¬FrozenLaw s := by
  have hrun : ((exec ErrlStore.next .init staleRun).map fun s => decide (0 ∈ s.logs ∧ 176 < (entrySize (s.slots 0)).toNat ∧
      (s.slots 0).mem 176 ≠ 0 ∧ (s.slots 0).written 176 = false)) = some true := by
    decide
  obtain ⟨s, hs, hall⟩ := Option.map_eq_some_iff.1 hrun
  obtain ⟨hlive, hin, hmem, hstale⟩ := of_decide_eq_true hall
  refine ⟨s, hs, hin, hmem, fun h => ?_⟩
  have hwritten := (h.fresh 0 hlive).details 176 (by decide) hin
  rw [hstale] at hwritten
  cases hwritten

end Occ.Errl
