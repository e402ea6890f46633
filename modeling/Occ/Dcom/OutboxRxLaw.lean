/-
The reception of the outboxes over whole runs. The masks and the number of OCCs are right in every run; the indices of
the arrays, the slots of the copies and the bits of the completed copies are as long as the doorbells name their
senders and the callback happens to get the number of the OCC; and the timeout is never raised.
-/
import Occ.Dcom.OutboxRx

namespace Occ.Dcom

open Ssx Transition
open Function (update)

/-! ## The law -/

/-- The arrays are indexed inside their bounds, a copy reads an address in the outboxes and goes to the slot of the OCC
that sent the doorbell, a bit stands for a completed copy of its OCC, the OCCs present are counted, every OCC is in one
of the three masks, and when doorbells are missing for too long the timeout is raised. -/
structure OutboxRxLaw (s : OutboxRx) : Prop where
  indexes : ∀ i ∈ s.indexes, i < maxOccs
  copies : ∀ c ∈ s.copies, outboxAddrValid c.addr = true ∧ c.slot = c.sender
  complete : ∀ k < maxOccs, s.slvOutboxComplete.getLsbD k = s.completed k
  count : s.occNumPresent.toNat = popcount s.isOccPresent
  partition : 0 < s.ticks → s.alive ||| s.zombie ||| s.dead = BitVec.allOnes 8 ∧
    s.alive &&& s.zombie = 0 ∧ s.alive &&& s.dead = 0 ∧ s.zombie &&& s.dead = 0
  timeout : maxWaitForSlaves < s.missing → s.timedOut = true

/-- Every OCC that was present still is. -/
def StillPresent (s t : OutboxRx) : Prop := s.isOccPresent ||| t.isOccPresent = t.isOccPresent

/-- Before the first tick; the OCC itself is present. -/
structure OutboxRxStart (s : OutboxRx) : Prop where
  history : s.indexes = [] ∧ s.copies = [] ∧ (∀ k, s.completed k = false) ∧ s.ticks = 0 ∧ s.missing = 0
  complete : s.slvOutboxComplete = 0
  wait : s.wait4slaves = 0
  count : s.occNumPresent.toNat = popcount s.isOccPresent

/-- The doorbells that the task reads name their senders, and they are not missing for too many ticks on end; the request
that ends is one of an OCC that has a bit, and the address that its callback gets ends in the number of that OCC. -/
def OutboxRxOk (s : OutboxRx) : OutboxRxEvent → Prop
  | .tick _ queue =>
    (∀ r ∈ dcomRxSlvOutboxDoorbell queue, r.1.doorbell.chipId.toNat = r.1.sender ∧ r.1.sender < maxOccs) ∧
      (s.tooFew queue = true → s.missing < maxWaitForSlaves)
  | .start _ => True
  | .finish slv _ => slv < maxNumOcc ∧ ((s.requests slv).arg.setWidth 8 : BitVec 8).toNat = slv

instance (s : OutboxRx) : (e : OutboxRxEvent) → Decidable (OutboxRxOk s e)
  | .tick _ queue => inferInstanceAs (Decidable ((∀ r ∈ dcomRxSlvOutboxDoorbell queue,
      r.1.doorbell.chipId.toNat = r.1.sender ∧ r.1.sender < maxOccs) ∧
      (s.tooFew queue = true → s.missing < maxWaitForSlaves)))
  | .start _ => inferInstanceAs (Decidable True)
  | .finish slv _ => inferInstanceAs (Decidable (slv < maxNumOcc ∧
      ((s.requests slv).arg.setWidth 8 : BitVec 8).toNat = slv))

/-! ## The loop -/

/-- What a turn of the loop does: it stores caps, changes requests, and adds indices and copies. -/
structure Received (s t : OutboxRx) : Prop where
  same : t = { s with activePcaps := t.activePcaps, requests := t.requests, indexes := t.indexes, copies := t.copies }

section Loop

variable {s t u : OutboxRx} {slvAddr : BitVec 32}

theorem Received.refl (s : OutboxRx) : Received s s := ⟨rfl⟩

theorem Received.trans (h : Received s t) (h' : Received t u) : Received s u := ⟨by rw [h'.same, h.same]⟩

theorem rxDoorbell_cases (s : OutboxRx) (slvAddr : BitVec 32) (i : Nat) (r : ReceivedDoorbell) (o : Scheduling) :
    ∃ requests copies err, s.rxDoorbell slvAddr i r o =
        ({ (s.storePcap r.doorbell.chipId.toNat r.doorbell).access [i, r.doorbell.chipId.toNat] with
          requests := requests, copies := copies }, err) ∧
      err ≠ some .genericTimeout ∧
      (copies = s.copies ∨ (outboxAddrValid r.doorbell.addrSlvOutboxBuffer = true ∧
        copies = ⟨r.doorbell.chipId.toNat, r.doorbell.addrSlvOutboxBuffer, r.sender⟩ :: s.copies)) := by
  unfold OutboxRx.rxDoorbell
  dsimp only [dcomCalcSlvOutboxAddr]
  by_cases haddr : outboxAddrValid r.doorbell.addrSlvOutboxBuffer = true
  · rw [if_pos haddr]
    split
    · cases o with
      | createFailed => exact ⟨_, _, _, rfl, nofun, .inl rfl⟩
      | scheduleFailed => exact ⟨_, _, _, rfl, nofun, .inl rfl⟩
      | queued => exact ⟨_, _, _, rfl, nofun, .inr ⟨haddr, rfl⟩⟩
      | started => exact ⟨_, _, _, rfl, nofun, .inr ⟨haddr, rfl⟩⟩
    · exact ⟨_, _, _, rfl, nofun, .inl rfl⟩
  · rw [if_neg haddr]
    exact ⟨_, _, _, rfl, nofun, .inl rfl⟩

/-- The addresses of the copies are in the outboxes. -/
def CopiesOk (s : OutboxRx) : Prop :=
  (∀ i ∈ s.indexes, i < maxOccs) ∧ ∀ c ∈ s.copies, outboxAddrValid c.addr = true ∧ c.slot = c.sender

theorem rxDoorbells_received (i : Nat) (rs : List (ReceivedDoorbell × Scheduling)) (s : OutboxRx) (mask : BitVec 8) :
    Received s (rxDoorbells slvAddr i rs s mask).1 := by
  induction rs generalizing i s mask with
  | nil => exact .refl s
  | cons r rs ih =>
    obtain ⟨r, o⟩ := r
    have hturn : Received s (s.rxDoorbell slvAddr i r o).1 := by
      obtain ⟨requests, copies, err, hr, -⟩ := rxDoorbell_cases s slvAddr i r o
      rw [hr]
      exact ⟨rfl⟩
    unfold rxDoorbells
    dsimp only
    split
    · rename_i hr
      rw [hr] at hturn
      exact hturn.trans (ih (i + 1) _ _)
    · rename_i hr
      rw [hr] at hturn
      exact hturn

/-- The loop keeps the indices and the copies right when the doorbells name their senders. -/
theorem rxDoorbells_copies {i : Nat} {rs : List (ReceivedDoorbell × Scheduling)} (h : CopiesOk s) (hlen : i + rs.length ≤ maxOccs)
    (hrs : ∀ r ∈ rs, r.1.doorbell.chipId.toNat = r.1.sender ∧ r.1.sender < maxOccs) (mask : BitVec 8) :
    CopiesOk (rxDoorbells slvAddr i rs s mask).1 := by
  induction rs generalizing i s mask with
  | nil => exact h
  | cons r rs ih =>
    obtain ⟨r, o⟩ := r
    simp only [List.length_cons] at hlen
    obtain ⟨hchip, hsender⟩ := hrs (r, o) List.mem_cons_self
    dsimp only at hchip hsender
    have hturn : CopiesOk (s.rxDoorbell slvAddr i r o).1 := by
      obtain ⟨requests, copies, err, hr, -, hcopies⟩ := rxDoorbell_cases s slvAddr i r o
      rw [hr]
      constructor
      · rintro j (_ | ⟨_, _ | ⟨_, hj⟩⟩)
        · omega
        · omega
        · exact h.1 j hj
      · rcases hcopies with rfl | ⟨haddr, rfl⟩
        · exact h.2
        · rintro c (_ | ⟨_, hc⟩)
          · exact ⟨haddr, hchip⟩
          · exact h.2 c hc
    unfold rxDoorbells
    dsimp only
    split
    · rename_i hr
      rw [hr] at hturn
      exact ih hturn (by omega) (fun r hr => hrs r (List.mem_cons_of_mem _ hr)) _
    · rename_i hr
      rw [hr] at hturn
      exact hturn

end Loop

/-! ## The task -/

section Task

variable {s t u : OutboxRx} {slvAddr : BitVec 32} {queue : List (ReceivedDoorbell × Scheduling)}

theorem rxDoorbells_error (i : Nat) (rs : List (ReceivedDoorbell × Scheduling)) (s : OutboxRx) (mask : BitVec 8) :
    (rxDoorbells slvAddr i rs s mask).2.2 ≠ some .genericTimeout := by
  induction rs generalizing i s mask with
  | nil => simp [rxDoorbells]
  | cons r rs ih =>
    obtain ⟨r, o⟩ := r
    obtain ⟨requests, copies, err, hturn, herr, -⟩ := rxDoorbell_cases s slvAddr i r o
    unfold rxDoorbells
    dsimp only
    split
    · exact ih _ _ _
    · rename_i hr
      obtain ⟨-, rfl⟩ := Prod.mk.inj (hturn.symm.trans hr)
      exact herr

theorem receive_eq (hwait : s.wait4slaves = 0) : ∃ w, s.receive slvAddr queue =
    ({ (rxDoorbells slvAddr 0 (dcomRxSlvOutboxDoorbell queue) { s with wait4slaves := w } 0).1 with wait4slaves := 0 },
      (rxDoorbells slvAddr 0 (dcomRxSlvOutboxDoorbell queue) { s with wait4slaves := w } 0).2) := by
  unfold OutboxRx.receive
  rw [hwait, if_neg (by simp)]
  by_cases hfew : s.tooFew queue = true
  · exact ⟨0 + 1, by rw [if_pos hfew]⟩
  · exact ⟨s.wait4slaves, by rw [if_neg hfew]⟩

theorem receive_spec (hwait : s.wait4slaves = 0) :
    Received s (s.receive slvAddr queue).1 ∧ (s.receive slvAddr queue).2.2 ≠ some .genericTimeout ∧
      (CopiesOk s → (∀ r ∈ dcomRxSlvOutboxDoorbell queue,
        r.1.doorbell.chipId.toNat = r.1.sender ∧ r.1.sender < maxOccs) → CopiesOk (s.receive slvAddr queue).1) := by
  obtain ⟨w, hw⟩ := @receive_eq _ slvAddr queue hwait
  rw [hw]
  refine ⟨⟨?_⟩, rxDoorbells_error _ _ _ _, fun hs hqueue => ?_⟩
  · rw [(@rxDoorbells_received slvAddr 0 (dcomRxSlvOutboxDoorbell queue) { s with wait4slaves := w } 0).same, ← hwait]
  · have hlen : 0 + (dcomRxSlvOutboxDoorbell queue).length ≤ maxOccs := by
      rw [Nat.zero_add]
      exact List.length_take_le _ _
    exact rxDoorbells_copies (s := { s with wait4slaves := w }) hs hlen hqueue 0

theorem popcount_le (mask : BitVec 8) : popcount mask ≤ 8 := by
  unfold popcount
  exact (List.countP_le_length).trans (by simp)

theorem updatePresent_spec (hcount : s.occNumPresent.toNat = popcount s.isOccPresent) (mask : BitVec 8) :
    (s.updatePresent mask).isOccPresent = s.isOccPresent ||| mask ∧
      (s.updatePresent mask).occNumPresent.toNat = popcount (s.updatePresent mask).isOccPresent := by
  unfold OutboxRx.updatePresent
  split
  · refine ⟨rfl, ?_⟩
    have := popcount_le (s.isOccPresent ||| mask)
    simp only [BitVec.toNat_ofNat]
    omega
  · rename_i hsame
    exact ⟨(not_not.1 hsame).symm, hcount⟩

theorem updatePresent_same (s : OutboxRx) (mask : BitVec 8) : s.updatePresent mask =
    { s with
      isOccPresent := (s.updatePresent mask).isOccPresent
      occNumPresent := (s.updatePresent mask).occNumPresent
      sysNumProcPresent := (s.updatePresent mask).sysNumProcPresent } := by
  unfold OutboxRx.updatePresent
  split <;> rfl

theorem dcomErrorCheck_same (s : OutboxRx) (err : Option RxOutboxError) : s.dcomErrorCheck err =
    { s with
      failCount := (s.dcomErrorCheck err).failCount
      logs := (s.dcomErrorCheck err).logs
      resetRequested := (s.dcomErrorCheck err).resetRequested } := by
  unfold OutboxRx.dcomErrorCheck
  split
  · rfl
  · dsimp only
    split
    · rfl
    · split <;> rfl

/-- What neither the loop nor the updates after it change. -/
structure Kept (s t : OutboxRx) : Prop where
  wait : t.wait4slaves = s.wait4slaves
  complete : t.slvOutboxComplete = s.slvOutboxComplete
  completed : t.completed = s.completed
  ticks : t.ticks = s.ticks
  missing : t.missing = s.missing
  timedOut : t.timedOut = s.timedOut

theorem Kept.trans (h : Kept s t) (h' : Kept t u) : Kept s u :=
  ⟨h'.wait.trans h.wait, h'.complete.trans h.complete, h'.completed.trans h.completed, h'.ticks.trans h.ticks,
    h'.missing.trans h.missing, h'.timedOut.trans h.timedOut⟩

theorem Kept.of_received (h : Received s t) : Kept s t := by
  rw [h.same]
  exact ⟨rfl, rfl, rfl, rfl, rfl, rfl⟩

/-- What the task leaves of a state, and what it makes of the masks. -/
structure Ticked (s u t : OutboxRx) (mask : BitVec 8) (few : Bool) : Prop where
  received : Received s u
  wait : t.wait4slaves = s.wait4slaves
  copies : t.indexes = u.indexes ∧ t.copies = u.copies
  complete : t.slvOutboxComplete = s.slvOutboxComplete ∧ t.completed = s.completed
  present : t.isOccPresent = s.isOccPresent ||| mask
  count : t.occNumPresent.toNat = popcount t.isOccPresent
  status : t.alive = mask ∧ t.zombie = t.isOccPresent &&& ~~~mask ∧ t.dead = ~~~t.isOccPresent
  ticks : t.ticks = s.ticks + 1
  missing : t.missing = if few then s.missing + 1 else 0
  timedOut : t.timedOut = (few && s.timedOut)

theorem task_ticked (hwait : s.wait4slaves = 0) (hcount : s.occNumPresent.toNat = popcount s.isOccPresent) :
    Ticked s (s.receive slvAddr queue).1 (taskDcomRxSlvOutboxes slvAddr queue s) (s.receive slvAddr queue).2.1
      (s.tooFew queue) := by
  obtain ⟨hreceived, herr, -⟩ := @receive_spec _ slvAddr queue hwait
  unfold taskDcomRxSlvOutboxes
  dsimp only
  generalize s.receive slvAddr queue = r at hreceived herr
  obtain ⟨u, mask, err⟩ := r
  dsimp only at hreceived herr ⊢
  have hpresent : u.isOccPresent = s.isOccPresent := by rw [hreceived.same]
  have hnum : u.occNumPresent = s.occNumPresent := by rw [hreceived.same]
  obtain ⟨hmask, hpop⟩ := updatePresent_spec (s := u) (by rw [hnum, hpresent]; exact hcount) mask
  have hkept : Kept s (u.updatePresent mask) :=
    (Kept.of_received hreceived).trans (by rw [updatePresent_same]; exact ⟨rfl, rfl, rfl, rfl, rfl, rfl⟩)
  have hcopies : (u.updatePresent mask).indexes = u.indexes ∧ (u.updatePresent mask).copies = u.copies := by
    rw [updatePresent_same]
    exact ⟨rfl, rfl⟩
  generalize u.updatePresent mask = v at hmask hpop hkept hcopies ⊢
  have hcheck := dcomErrorCheck_same (v.updateStatusMask mask) err
  generalize (v.updateStatusMask mask).dcomErrorCheck err = w at hcheck ⊢
  have hw : w.isOccPresent = v.isOccPresent := by rw [hcheck]; rfl
  have hvw : Kept s w := hkept.trans (by rw [hcheck]; exact ⟨rfl, rfl, rfl, rfl, rfl, rfl⟩)
  refine ⟨hreceived, hvw.wait, ?_, ⟨hvw.complete, hvw.completed⟩, ?_, ?_, ?_, ?_, ?_, ?_⟩
  · show w.indexes = u.indexes ∧ w.copies = u.copies
    rw [hcheck]
    exact hcopies
  · show w.isOccPresent = _
    rw [hw, hmask, hpresent]
  · show w.occNumPresent.toNat = popcount w.isOccPresent
    rw [hw, ← hpop, hcheck]
    rfl
  · show w.alive = mask ∧ w.zombie = w.isOccPresent &&& ~~~mask ∧ w.dead = ~~~w.isOccPresent
    rw [hw, hcheck]
    exact ⟨rfl, rfl, rfl⟩
  · exact congrArg (· + 1) hvw.ticks
  · show (if s.tooFew queue then w.missing + 1 else 0) = _
    rw [hvw.missing]
  · show (err == some .genericTimeout || (s.tooFew queue && w.timedOut)) = _
    rw [hvw.timedOut, beq_eq_false_iff_ne.2 herr, Bool.false_or]

end Task

/-! ## Runs -/

/-- What holds in every run: the counter is clear after every tick, the OCCs present are counted, and the masks cover
them. -/
structure MasksInv (s : OutboxRx) : Prop where
  wait : s.wait4slaves = 0
  count : s.occNumPresent.toNat = popcount s.isOccPresent
  partition : 0 < s.ticks → s.alive ||| s.zombie ||| s.dead = BitVec.allOnes 8 ∧
    s.alive &&& s.zombie = 0 ∧ s.alive &&& s.dead = 0 ∧ s.zombie &&& s.dead = 0

/-- What holds in the runs whose steps meet the condition. -/
structure CopiesInv (s : OutboxRx) : Prop where
  copies : CopiesOk s
  complete : ∀ k < maxOccs, s.slvOutboxComplete.getLsbD k = s.completed k
  missing : s.missing ≤ maxWaitForSlaves

theorem status_partition (p mask : BitVec 8) (h : mask ||| p = p) :
    mask ||| (p &&& ~~~mask) ||| ~~~p = BitVec.allOnes 8 ∧ mask &&& (p &&& ~~~mask) = 0 ∧ mask &&& ~~~p = 0 ∧
      p &&& ~~~mask &&& ~~~p = 0 := by
  rw [← h]
  refine ⟨?_, ?_, ?_, ?_⟩
  all_goals
    ext i hi
    simp only [BitVec.getElem_or, BitVec.getElem_and, BitVec.getElem_not, BitVec.getElem_allOnes, BitVec.getElem_zero,
      BitVec.ofNat_eq_ofNat]
    cases mask[i] <;> cases p[i] <;> rfl

section Runs

variable {s t : OutboxRx}

theorem masksInv_step (e : OutboxRxEvent) (hs : MasksInv s) (h : outboxRxNext s e = some t) :
    MasksInv t ∧ StillPresent s t := by
  cases e with
  | tick slvAddr queue =>
    cases h
    have ht := @task_ticked _ slvAddr queue hs.wait hs.count
    generalize taskDcomRxSlvOutboxes slvAddr queue s = t at ht
    obtain ⟨halive, hzombie, hdead⟩ := ht.status
    refine ⟨⟨ht.wait.trans hs.wait, ht.count, fun _ => ?_⟩, ?_⟩
    · rw [halive, hzombie, hdead]
      refine status_partition _ _ ?_
      rw [ht.present, BitVec.or_comm, BitVec.or_assoc, BitVec.or_self]
    · unfold StillPresent
      rw [ht.present, ← BitVec.or_assoc, BitVec.or_self]
  | start slv =>
    obtain ⟨-, ⟨⟩⟩ := Option.ite_none_right_eq_some.1 h
    exact ⟨⟨hs.wait, hs.count, hs.partition⟩, BitVec.or_self⟩
  | finish slv failed =>
    obtain ⟨-, ⟨⟩⟩ := Option.ite_none_right_eq_some.1 h
    exact ⟨⟨hs.wait, hs.count, hs.partition⟩, BitVec.or_self⟩

theorem setbit_getLsbD {bit complete : BitVec 8} (h : bit.toNat < maxNumOcc) (k : Nat) :
    (setbitSlvoutboxComplete bit complete).getLsbD k = (complete.getLsbD k || decide (k = bit.toNat)) := by
  unfold setbitSlvoutboxComplete
  rw [if_pos h]
  unfold maxNumOcc at h
  rw [BitVec.getLsbD_or, BitVec.getLsbD_shiftLeft, BitVec.getLsbD_one]
  congr 1
  rcases Nat.lt_trichotomy k bit.toNat with hk | rfl | hk
  · simp [hk, Nat.ne_of_lt hk]
  · simp
    omega
  · have : k - bit.toNat ≠ 0 := by omega
    simp [this, Nat.ne_of_gt hk]

theorem copiesInv_step (e : OutboxRxEvent) (hs : MasksInv s) (hc : CopiesInv s) (hok : OutboxRxOk s e)
    (h : outboxRxNext s e = some t) : CopiesInv t := by
  cases e with
  | tick slvAddr queue =>
    cases h
    obtain ⟨hqueue, hmissing⟩ := hok
    have ht := @task_ticked _ slvAddr queue hs.wait hs.count
    obtain ⟨-, -, hcopies⟩ := @receive_spec _ slvAddr queue hs.wait
    obtain ⟨hi, hcs⟩ := hcopies hc.copies hqueue
    generalize taskDcomRxSlvOutboxes slvAddr queue s = t at ht
    refine ⟨⟨?_, ?_⟩, ?_, ?_⟩
    · rw [ht.copies.1]
      exact hi
    · rw [ht.copies.2]
      exact hcs
    · rw [ht.complete.1, ht.complete.2]
      exact hc.complete
    · rw [ht.missing]
      split
      · rename_i hfew
        exact hmissing hfew
      · exact Nat.zero_le _
  | start slv =>
    obtain ⟨-, ⟨⟩⟩ := Option.ite_none_right_eq_some.1 h
    exact ⟨hc.copies, hc.complete, hc.missing⟩
  | finish slv failed =>
    obtain ⟨-, ⟨⟩⟩ := Option.ite_none_right_eq_some.1 h
    obtain ⟨hslv, harg⟩ := hok
    refine ⟨hc.copies, fun k hk => ?_, hc.missing⟩
    show (setbitSlvoutboxComplete _ _).getLsbD k = update s.completed slv true k
    rw [setbit_getLsbD (by rw [harg]; exact hslv), hc.complete k hk, harg]
    by_cases hks : k = slv
    · subst hks
      simp
    · simp [hks]

theorem masksInv_run {es : List OutboxRxEvent} (hs : MasksInv s) (h : Run (StepOf outboxRxNext) s es t) :
    MasksInv t ∧ StillPresent s t := by
  induction h with
  | nil s => exact ⟨hs, BitVec.or_self⟩
  | cons hstep _ ih =>
    obtain ⟨ht, hst⟩ := masksInv_step _ hs hstep
    obtain ⟨hu, htu⟩ := ih ht
    refine ⟨hu, ?_⟩
    unfold StillPresent at *
    rw [← htu, ← BitVec.or_assoc, hst]

theorem timeout_never_raised {es : List OutboxRxEvent} (hs : MasksInv s) (h : Run (StepOf outboxRxNext) s es t)
    (hnone : s.timedOut = false) : t.timedOut = false := by
  have hboth : MasksInv t ∧ t.timedOut = false := by
    refine h.invariant (P := fun s => MasksInv s ∧ s.timedOut = false) (fun s e t hs hst => ?_) ⟨hs, hnone⟩
    refine ⟨(masksInv_step e hs.1 hst).1, ?_⟩
    cases e with
    | tick slvAddr queue =>
      cases hst
      rw [(task_ticked hs.1.wait hs.1.count).timedOut, hs.2, Bool.and_false]
    | start slv =>
      obtain ⟨-, ⟨⟩⟩ := Option.ite_none_right_eq_some.1 hst
      exact hs.2
    | finish slv failed =>
      obtain ⟨-, ⟨⟩⟩ := Option.ite_none_right_eq_some.1 hst
      exact hs.2
  exact hboth.2

theorem missing_run (slvAddr : BitVec 32) (hs : MasksInv s) (hpos : 0 < popcount s.isOccPresent) (n : Nat) :
    ∃ t, Run (StepOf outboxRxNext) s (List.replicate n (.tick slvAddr [])) t ∧ t.missing = s.missing + n := by
  induction n generalizing s with
  | zero => exact ⟨s, .nil s, rfl⟩
  | succ n ih =>
    have ht := @task_ticked _ slvAddr [] hs.wait hs.count
    have hmask : (s.receive slvAddr []).2.1 = 0 := by
      obtain ⟨w, hw⟩ := @receive_eq _ slvAddr [] hs.wait
      rw [hw]
      rfl
    have hpresent : (taskDcomRxSlvOutboxes slvAddr [] s).isOccPresent = s.isOccPresent := by
      rw [ht.present, hmask]
      exact BitVec.or_zero
    have hfew : s.tooFew [] = true := decide_eq_true (by rw [hs.count]; exact hpos)
    obtain ⟨u, hu, hmissing⟩ := ih (masksInv_step (.tick slvAddr []) hs rfl).1 (by rw [hpresent]; exact hpos)
    refine ⟨u, .cons rfl hu, ?_⟩
    rw [hmissing, ht.missing, if_pos hfew]
    omega

theorem OutboxRxStart.inv (h : OutboxRxStart s) : MasksInv s ∧ CopiesInv s := by
  obtain ⟨hindexes, hcopies, hcompleted, hticks, hmissing⟩ := h.history
  refine ⟨⟨h.wait, h.count, fun ht => ?_⟩, ⟨⟨?_, ?_⟩, fun k _ => ?_, ?_⟩⟩
  · rw [hticks] at ht
    exact absurd ht (by decide)
  · rw [hindexes]
    nofun
  · rw [hcopies]
    nofun
  · rw [h.complete, hcompleted, BitVec.ofNat_eq_ofNat, BitVec.getLsbD_zero]
  · rw [hmissing]
    exact Nat.zero_le _

/-- In every run the OCCs present are counted and stay present and the masks cover all OCCs; in a run whose steps meet the
condition the whole law holds. -/
theorem outboxRxLaw_of_outboxRxOk {es : List OutboxRxEvent} (hs : OutboxRxStart s)
    (h : Run (Guarded OutboxRxOk (StepOf outboxRxNext)) s es t) :
    OutboxRxLaw t ∧ ∀ fs u, Run (StepOf outboxRxNext) t fs u → StillPresent t u := by
  have hinv : MasksInv t ∧ CopiesInv t := by
    refine h.invariant (P := fun s => MasksInv s ∧ CopiesInv s) (fun s e t hs hst => ?_) hs.inv
    exact ⟨(masksInv_step e hs.1 hst.2).1, copiesInv_step e hs.1 hs.2 hst.1 hst.2⟩
  obtain ⟨hmasks, hcopies⟩ := hinv
  refine ⟨⟨hcopies.copies.1, hcopies.copies.2, hcopies.complete, hmasks.count, hmasks.partition, fun hm => ?_⟩,
    fun fs u hu => (masksInv_run hmasks hu).2⟩
  exact absurd hcopies.missing (Nat.not_le.2 hm)

end Runs

/-- An OCC that is present alone, as number 0. -/
def firstOcc : OutboxRx :=
  { activePcaps := fun _ => ⟨0, 0⟩, requests := fun _ => ⟨none, false, 0, 0⟩, wait4slaves := 0, slvOutboxComplete := 0
    isOccPresent := 1, occNumPresent := 1, sysNumProcPresent := 4, alive := 0, zombie := 0, dead := 0, failCount := 0
    logs := [], resetRequested := false, indexes := [], copies := [], completed := fun _ => false, ticks := 0
    missing := 0, timedOut := false }

theorem firstOcc_start : OutboxRxStart firstOcc := ⟨⟨rfl, rfl, fun _ => rfl, rfl, rfl⟩, rfl, rfl, by decide⟩

/-- The doorbell of an OCC for its ping buffer, with what becomes of the request. -/
def outboxDoorbell (sender : Nat) (chipId : BitVec 8) : ReceivedDoorbell × Scheduling :=
  (⟨⟨chipId, 1, 1000, slaveOutboxPingCommonAddress + chipId.setWidth 32 * 1024⟩, sender⟩, .started)

theorem outboxRxLaw_of_outboxRxOk_pair :
    ∃ t, Run (Guarded OutboxRxOk (StepOf outboxRxNext)) firstOcc
        [.tick 0xFFF9AB01 [outboxDoorbell 0 0, outboxDoorbell 1 1], .finish 1 false] t ∧ t.completed 1 = true ∧
      OutboxRxLaw t ∧ ∀ fs u, Run (StepOf outboxRxNext) t fs u → StillPresent t u := by
  have hrun : (exec (fun s e => if OutboxRxOk s e then outboxRxNext s e else none) firstOcc
      [.tick 0xFFF9AB01 [outboxDoorbell 0 0, outboxDoorbell 1 1], .finish 1 false]).map (·.completed 1) = some true := by
    decide
  obtain ⟨t, ht, hc⟩ := Option.map_eq_some_iff.1 hrun
  have h := run_guarded_of_exec ht
  exact ⟨t, h, hc, outboxRxLaw_of_outboxRxOk firstOcc_start h⟩

/-- An ordinary doorbell and the copy of its outbox: the callback takes a byte of an address for the OCC. A doorbell with
another number: the arrays are left. No doorbells for longer than the limit: no error. -/
theorem outboxRxLaw_fails :
    (∃ es t, Run (StepOf outboxRxNext) firstOcc es t ∧ ¬∀ k < maxOccs, t.slvOutboxComplete.getLsbD k = t.completed k) ∧
      (∃ es t, Run (StepOf outboxRxNext) firstOcc es t ∧ ¬∀ i ∈ t.indexes, i < maxOccs) ∧
      ∃ es t, Run (StepOf outboxRxNext) firstOcc es t ∧ ¬(maxWaitForSlaves < t.missing → t.timedOut = true) := by
  refine ⟨?_, ?_, ?_⟩
  · have hrun : (exec outboxRxNext firstOcc [.tick 0xFFF9ABC8 [outboxDoorbell 1 1], .finish 1 false]).map
        (fun t => (t.slvOutboxComplete, t.completed 1)) = some (0, true) := by decide
    obtain ⟨t, ht, he⟩ := Option.map_eq_some_iff.1 hrun
    obtain ⟨hcomplete, hcompleted⟩ := Prod.mk.inj he
    refine ⟨_, t, exec_eq_some_iff.1 ht, fun hlaw => ?_⟩
    have := hlaw 1 (by decide)
    rw [hcomplete, hcompleted] at this
    exact absurd this (by decide)
  · have hrun : (exec outboxRxNext firstOcc [.tick 0xFFF9ABC8 [outboxDoorbell 1 200]]).map (·.indexes) = some [0, 200] := by
      decide
    obtain ⟨t, ht, he⟩ := Option.map_eq_some_iff.1 hrun
    refine ⟨_, t, exec_eq_some_iff.1 ht, fun hlaw => ?_⟩
    rw [he] at hlaw
    exact absurd (hlaw 200 (by decide)) (by decide)
  · obtain ⟨t, ht, hmissing⟩ := missing_run 0xFFF9ABC8 firstOcc_start.inv.1 (by decide) 500
    refine ⟨_, t, ht, fun hlaw => ?_⟩
    have := hlaw (by rw [hmissing]; decide)
    rw [timeout_never_raised firstOcc_start.inv.1 ht rfl] at this
    cases this

end Occ.Dcom
