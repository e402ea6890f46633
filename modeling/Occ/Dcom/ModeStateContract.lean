/-
The contract of the set mode and state command: it returns success only when every OCC that is present has
itself reported the state and mode that were requested, after the request was sent. The master writes its own
state and mode into the others' mailboxes, so it must not have what is requested before they have reported it;
and a report from before the request must not pass for one.
-/
import Occ.Dcom.SetModeState
import Occ.Lib.Transition
import Occ.Lib.Literals

namespace Occ.Dcom

open Occ Transition

attribute [local instance] neZero_eight

/-- The conditions on a step. -/
def DcomStepOk (cfg : DcomConfig) (k : DcomSys) : DcomEvent → Prop
  | .command cmd => k.refuse cfg cmd = none →
      ∀ i ∈ k.isOccPresent, DcomSys.reached { k with reqState := cmd.occState, reqMode := cmd.occMode } (k.outboxRx i) = false
  | .parseOccfwmsg => k.pc ≠ .idle → cfg.role = .master → k.reached ((k.occ cfg.chipId).report cfg.kvm) = true →
      ∀ i ∈ k.isOccPresent, i ≠ cfg.chipId → k.reported i = true
  | .rxOutbox i n => k.pc ≠ .idle → i ∈ k.isOccPresent →
      ∀ m ∈ (k.outboxes i)[n]?, m.request ≠ k.requests → k.reached m.mailbox = true → k.reported i = true
  | .rxDoorbell i => k.pc ≠ .idle → i ∉ k.isOccPresent →
      k.pc = .count ∧ (k.reached (k.outboxRx i) = true → k.reported i = true)
  | .allToSafe => k.pc = .idle
  | _ => True

instance (cfg : DcomConfig) (k : DcomSys) (e : DcomEvent) : Decidable (DcomStepOk cfg k e) := by
  unfold DcomStepOk
  split <;> infer_instance

/-- What holds in the loop over the mailboxes: what has been counted has been reported. -/
def ModeStatePcOk (k : DcomSys) : Prop :=
  match k.pc with
  | .idle => True
  | .count => True
  | .bitmap num => num = k.isOccPresent.card
  | .check num present succeeded passed idx =>
    present = k.isOccPresent ∧ num = present.card ∧ passed = succeeded.card ∧
      ∀ i ∈ succeeded, i ∈ present ∧ (i : Nat) < idx ∧ k.reported i = true

structure DcomInv (k : DcomSys) : Prop where
  num : k.occNumPresent = k.isOccPresent.card
  /-- a mailbox with what is requested stands for a report -/
  genuine : k.pc ≠ .idle → ∀ i ∈ k.isOccPresent, k.reached (k.outboxRx i) = true → k.reported i = true
  pcOk : ModeStatePcOk k
  results : ∀ r ∈ k.results, r.rc = errlRcSuccess → ∀ i ∈ r.present, r.reported i = true

section Steps

variable {cfg : DcomConfig} {k k' : DcomSys}

theorem ModeStatePcOk.mono (h : ModeStatePcOk k) (hpc : k'.pc = k.pc) (hpres : k'.isOccPresent = k.isOccPresent)
    (hrep : ∀ i, k.reported i = true → k'.reported i = true) : ModeStatePcOk k' := by
  unfold ModeStatePcOk at h ⊢
  rw [hpc, hpres]
  split at h
  · trivial
  · trivial
  · exact h
  · obtain ⟨hp, hn, hc, hs⟩ := h
    refine ⟨hp, hn, hc, fun i hi => ?_⟩
    obtain ⟨hmem, hlt, hi⟩ := hs i hi
    exact ⟨hmem, hlt, hrep i hi⟩

/-! ## The command -/

theorem DcomInv.ret (h : DcomInv k) {rc : Nat} {errl : Option (Finset OccId × Finset OccId)}
    (hrc : rc = errlRcSuccess → ∀ i ∈ k.isOccPresent, k.reported i = true) : DcomInv (k.ret rc errl) := by
  refine ⟨h.num, fun hpc => absurd rfl hpc, trivial, fun r hmem => ?_⟩
  rcases List.mem_cons.1 hmem with rfl | hmem
  · exact hrc
  · exact h.results r hmem

theorem refuse_ne {cmd : SetModeStateCmd} {rc : Nat} (h : k.refuse cfg cmd = some rc) : rc ≠ errlRcSuccess := by
  unfold DcomSys.refuse at h
  split_ifs at h <;> cases h <;> decide

theorem DcomInv.command (h : DcomInv k) {cmd : SetModeStateCmd} (hok : DcomStepOk cfg k (.command cmd)) :
    DcomInv (k.command cfg cmd) := by
  unfold DcomSys.command
  split
  · rename_i rc hrc
    exact h.ret fun heq => absurd heq (refuse_ne hrc)
  · rename_i hacc
    refine ⟨h.num, fun _ i hi hreach => ?_, trivial, h.results⟩
    exact absurd (hreach.symm.trans (hok hacc i hi)) (by decide)

/-- A mailbox is looked at, or all have been. -/
theorem DcomInv.check (h : DcomInv k) {num passed idx : Nat} {present succeeded : Finset OccId} (timeout : Bool)
    (hpc : k.pc = .check num present succeeded passed idx)
    (hpcOk : present = k.isOccPresent ∧ num = present.card ∧ passed = succeeded.card ∧
      ∀ i ∈ succeeded, i ∈ present ∧ (i : Nat) < idx ∧ k.reported i = true) :
    DcomInv (if h : idx < 8 then
      if ⟨idx, h⟩ ∈ present ∧ k.reached (k.outboxRx ⟨idx, h⟩) then
        { k with pc := .check num present (insert ⟨idx, h⟩ succeeded) (passed + 1) (idx + 1) }
      else { k with pc := .check num present succeeded passed (idx + 1) }
    else if num ≤ passed then k.ret errlRcSuccess none
    else if timeout then k.ret errlRcInternalFail (some (present, succeeded))
    else { k with pc := .count }) := by
  have hgen := h.genuine (by simp [hpc])
  obtain ⟨rfl, rfl, rfl, hs⟩ := hpcOk
  split
  · rename_i hidx
    split
    · rename_i hmem
      refine ⟨h.num, fun _ => hgen, ⟨rfl, rfl, ?_, fun i hi => ?_⟩, h.results⟩
      · -- the mailbox has not been counted yet
        have hnew : (⟨idx, hidx⟩ : OccId) ∉ succeeded := fun hin => absurd (hs _ hin).2.1 (lt_irrefl idx)
        exact (Finset.card_insert_of_notMem hnew).symm
      · rcases Finset.mem_insert.1 hi with rfl | hi
        · exact ⟨hmem.1, Nat.lt_succ_self idx, hgen _ hmem.1 hmem.2⟩
        · obtain ⟨hp, hlt, hr⟩ := hs i hi
          exact ⟨hp, by omega, hr⟩
    · refine ⟨h.num, fun _ => hgen, ⟨rfl, rfl, rfl, fun i hi => ?_⟩, h.results⟩
      obtain ⟨hp, hlt, hr⟩ := hs i hi
      exact ⟨hp, by omega, hr⟩
  · split
    · rename_i hcount
      apply h.ret
      intro _ i hi
      -- as many have been counted as are present
      have hall : succeeded = k.isOccPresent := Finset.eq_of_subset_of_card_le (fun j hj => (hs j hj).1) hcount
      exact (hs i (hall ▸ hi)).2.2
    · split
      · exact h.ret fun heq => absurd heq (by decide)
      · exact ⟨h.num, fun _ => hgen, trivial, h.results⟩

theorem DcomInv.thread (h : DcomInv k) (timeout : Bool) : DcomInv (k.thread timeout) := by
  have hpcOk := h.pcOk
  unfold ModeStatePcOk at hpcOk
  unfold DcomSys.thread
  cases hpc : k.pc <;> simp only [hpc] at hpcOk ⊢
  case idle => exact h
  case count => exact ⟨h.num, fun _ => h.genuine (by simp [hpc]), h.num, h.results⟩
  case bitmap num =>
    refine ⟨h.num, fun _ => h.genuine (by simp [hpc]), ⟨rfl, hpcOk, rfl, fun i hi => ?_⟩, h.results⟩
    exact absurd hi (Finset.notMem_empty i)
  case check num present succeeded passed idx => exact h.check timeout hpc hpcOk

/-! ## The outboxes -/

theorem DcomInv.rxOutbox (h : DcomInv k) {i : OccId} {n : Nat} {m : Outbox} (hm : (k.outboxes i)[n]? = some m)
    (hok : DcomStepOk cfg k (.rxOutbox i n)) : DcomInv (k.rxOutbox i m) := by
  have hrep : ∀ j, k.reported j = true → (k.rxOutbox i m).reported j = true := by
    intro j hj
    unfold DcomSys.rxOutbox
    dsimp only
    split
    · by_cases hij : j = i
      · subst hij
        exact Function.update_self _ _ _
      · rwa [Function.update_of_ne hij]
    · exact hj
  refine ⟨h.num, fun hpc j hj hreach => ?_, h.pcOk.mono rfl rfl hrep, h.results⟩
  by_cases hij : j = i
  · subst hij
    have hreach : k.reached m.mailbox = true := by
      have : Function.update k.outboxRx j m.mailbox j = m.mailbox := Function.update_self _ _ _
      exact this ▸ hreach
    by_cases hreq : m.request = k.requests
    · show (if m.request = k.requests ∧ k.reached m.mailbox then Function.update k.reported j true else k.reported) j = true
      rw [if_pos ⟨hreq, hreach⟩]
      exact Function.update_self _ _ _
    · exact hrep j (hok hpc hj m hm hreq hreach)
  · apply hrep
    apply h.genuine hpc j hj
    have : Function.update k.outboxRx i m.mailbox j = k.outboxRx j := Function.update_of_ne hij _ _
    exact this ▸ hreach

theorem DcomInv.parseOccfwmsg (h : DcomInv k) (hok : DcomStepOk cfg k .parseOccfwmsg) : DcomInv (k.parseOccfwmsg cfg) := by
  unfold DcomSys.parseOccfwmsg
  split
  · rename_i hrole
    dsimp only
    have hrep : ∀ j, k.reported j = true →
        (if k.reached ((k.occ cfg.chipId).report cfg.kvm) then Function.update k.reported cfg.chipId true else k.reported) j = true := by
      intro j hj
      split
      · by_cases hij : j = cfg.chipId
        · subst hij
          exact Function.update_self _ _ _
        · rwa [Function.update_of_ne hij]
      · exact hj
    refine ⟨h.num, fun hpc j hj hreach => ?_, h.pcOk.mono rfl rfl hrep, h.results⟩
    have hreach : k.reached ((k.occ cfg.chipId).report cfg.kvm) = true := hreach
    dsimp only
    rw [if_pos hreach]
    by_cases hij : j = cfg.chipId
    · subst hij
      exact Function.update_self _ _ _
    · rw [Function.update_of_ne hij]
      exact hok hpc hrole hreach j hj hij
  · exact h

theorem DcomInv.rxDoorbell (h : DcomInv k) {i : OccId} (hok : DcomStepOk cfg k (.rxDoorbell i)) : DcomInv (k.rxDoorbell i) := by
  by_cases hi : i ∈ k.isOccPresent
  · have hins : insert i k.isOccPresent = k.isOccPresent := Finset.insert_eq_of_mem hi
    have heq : k.rxDoorbell i = k := by
      unfold DcomSys.rxDoorbell
      rw [hins, ← h.num]
    rw [heq]
    exact h
  · refine ⟨rfl, fun hpc j hj hreach => ?_, ?_, h.results⟩
    · rcases Finset.mem_insert.1 hj with rfl | hj
      · exact (hok hpc hi).2 hreach
      · exact h.genuine hpc j hj hreach
    · show ModeStatePcOk _
      by_cases hpc : k.pc = .idle
      · simp [ModeStatePcOk, DcomSys.rxDoorbell, hpc]
      · simp [ModeStatePcOk, DcomSys.rxDoorbell, (hok hpc hi).1]

/-! ## The steps -/

theorem DcomInv.next {e : DcomEvent} (h : DcomInv k) (hok : DcomStepOk cfg k e) (hn : k.next cfg e = some k') : DcomInv k' := by
  cases e <;> simp only [DcomSys.next] at hn
  case command cmd =>
    split at hn <;> cases hn
    exact h.command hok
  case thread timeout =>
    split at hn <;> cases hn
    exact h.thread timeout
  case buildOutbox i =>
    cases hn
    exact ⟨h.num, h.genuine, h.pcOk, h.results⟩
  case rxOutbox i n =>
    obtain ⟨m, hm, rfl⟩ := Option.map_eq_some_iff.1 hn
    exact h.rxOutbox hm hok
  case parseOccfwmsg =>
    cases hn
    exact h.parseOccfwmsg hok
  case rxDoorbell i =>
    cases hn
    exact h.rxDoorbell hok
  case transition i s =>
    cases hn
    exact ⟨h.num, h.genuine, h.pcOk, h.results⟩
  case safe b =>
    cases hn
    exact ⟨h.num, h.genuine, h.pcOk, h.results⟩
  case allToSafe =>
    split at hn <;> cases hn
    have hpc : k.pc = .idle := hok
    exact ⟨h.num, fun hne => absurd hpc hne, h.pcOk, h.results⟩
  case request state mode =>
    split at hn <;> cases hn
    rename_i hpc
    exact ⟨h.num, fun hne => absurd hpc hne, h.pcOk, h.results⟩

end Steps

/-! ## Runs -/

/-- All OCCs in standby. -/
def standby : OccId → OccStatus := fun _ => ⟨occStateStandby, occModeNominal, occModeNochange⟩

/-- An OCC makes it to observation. -/
def observe (i : OccId) : DcomEvent := .transition i ⟨occStateObservation, occModeNominal, occModeNochange⟩

end Occ.Dcom
