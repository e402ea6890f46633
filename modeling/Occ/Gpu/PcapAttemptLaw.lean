/-
The law of the attempts to set a power limit. An attempt begins at the first stage, for the state machine of a state that
the task is not in is at its start; what holds at a stage is kept by every call.
-/
import Occ.Gpu.PcapAttempt
import Occ.Lib.Literals

namespace Occ.Gpu

open Occ Transition
open Function (update)

attribute [local instance] neZero_three

/-! ## The look at an answer -/

section Look

variable {c : Config} {s t : GpuSm} {k k' : Sm} {ok : Bool} {rc : Nat} {a : Attempt}

/-- Where a look that is not the end of the attempt leads to. -/
inductive GoesTo (c : Config) (k : Sm) (rc : Nat) : Sm → Prop
  | repeats (hstage : k.stage = 15) (hattempts : k.attempts ≤ c.gpuTimeout) :
      GoesTo c k rc { k with stage := 13, failures := 0, attempts := k.attempts + 1 }
  | busy (hstage : k.stage = 11) : GoesTo c k rc { k with stage := 12, retryNecessary := true }
  | again (hstage : k.stage ≠ 0) (hfailures : k.failures ≤ maxGpuReadAttempt) (hrc : k.scheduled = false ∨ rc ≠ gpeRcSuccess) :
      GoesTo c k rc { k with failures := k.failures + 1 }
  | next (hsuccess : k.stage = 0 ∨ (k.scheduled = true ∧ rc = gpeRcSuccess)) :
      GoesTo c k rc { k with failures := 0, stage := k.stage + 1 }

theorem advance_goesTo (h : Op.advance .setPwrLimit c.gpuTimeout k rc = .go k') : GoesTo c k rc k' := by
  unfold Op.advance at h
  by_cases hfail : k.stage ≠ 0 ∧ (k.scheduled = false ∨ rc ≠ gpeRcSuccess)
  · rw [if_pos hfail] at h
    split at h
    · rename_i n hrepeats
      split at hrepeats
      · rename_i hagain
        unfold Op.repeatsFrom at hrepeats
        split at hrepeats
        · rename_i hop _
          cases hop
        · rename_i hstage
          cases hrepeats
          cases h
          exact .repeats hstage hagain.2
        · cases hrepeats
      · cases hrepeats
    · split at h
      · rename_i n hbusy
        split at hbusy
        · unfold Op.busyAt at hbusy
          split at hbusy
          · rename_i hop _
            cases hop
          · rename_i hstage
            cases hbusy
            cases h
            exact .busy hstage
          · cases hbusy
        · cases hbusy
      · split at h
        · cases h
        · split at h
          · cases h
          · rename_i hgives
            cases h
            exact .again hfail.1 (Nat.le_of_not_gt fun hgt => hgives (.inl hgt)) hfail.2
  · rw [if_neg hfail] at h
    split at h
    · cases h
    · cases h
      refine .next ?_
      by_cases hzero : k.stage = 0
      · exact .inl hzero
      · refine .inr ⟨?_, ?_⟩
        · rw [← Bool.not_eq_false]
          exact fun hs => hfail ⟨hzero, .inl hs⟩
        · by_contra hrc
          exact hfail ⟨hzero, .inr hrc⟩

theorem advance_movesOn (h : Op.advance .setPwrLimit c.gpuTimeout k rc = .moveOn k') :
    k' = { k with failures := 0, stage := 0 } := by
  unfold Op.advance at h
  split at h
  · split at h
    · cases h
    · split at h
      · cases h
      · split at h
        · cases h
        · split at h <;> cases h
  · split at h
    · cases h
      rfl
    · cases h

/-- How a call ends that finds the GPE idle. -/
inductive SetLook (c : Config) (s : GpuSm) : GpuSm → Bool → Prop
  | driverChange (h : Op.SeesDriverChange .setPwrLimit (s.sm .setPwrLimit) s.opReqArgs.rc) :
      SetLook c s (s.driverChange .setPwrLimit) true
  | giveUp (h : Op.IsGivenUp .setPwrLimit c.gpuTimeout (s.sm .setPwrLimit) s.opReqArgs.rc) :
      SetLook c s (s.giveUp c .setPwrLimit) true
  | complete (h : Op.IsComplete .setPwrLimit (s.sm .setPwrLimit) s.opReqArgs.rc) (k : Sm) (hstage : k.stage = 0)
      (hattempts : k.attempts = 0)
      (hcount : k.failureCount = update (s.sm .setPwrLimit).failureCount s.currentGpuId 0) :
      SetLook c s ((s.setCurrent (Op.finish .setPwrLimit s.opReqArgs.data s.current)).setSm .setPwrLimit k) true
  | busy (hd : ¬Op.SeesDriverChange .setPwrLimit (s.sm .setPwrLimit) s.opReqArgs.rc)
      (hc : ¬Op.IsComplete .setPwrLimit (s.sm .setPwrLimit) s.opReqArgs.rc) :
      SetLook c s (s.setSm .setPwrLimit { s.sm .setPwrLimit with failures := 0, stage := 0 }) true
  | send (hd : ¬Op.SeesDriverChange .setPwrLimit (s.sm .setPwrLimit) s.opReqArgs.rc)
      (hc : ¬Op.IsComplete .setPwrLimit (s.sm .setPwrLimit) s.opReqArgs.rc) (t : GpuSm) (k : Sm) (b : Bool)
      (hgoes : GoesTo c (s.sm .setPwrLimit) s.opReqArgs.rc k) (hstage : 1 ≤ k.stage ∧ k.stage ≤ 15)
      (hsm : t.sm .setPwrLimit = { Op.prepare .setPwrLimit k with scheduled := b }) (hgpu : t.gpu = s.gpu) :
      SetLook c s t false

theorem runOp_setLook (hidle : s.requestIdle = true) (hk : (s.sm .setPwrLimit).stage ≤ 15) :
    SetLook c s (s.runOp c ok .setPwrLimit).1 (s.runOp c ok .setPwrLimit).2 := by
  have hlooks := advance_looks (o := .setPwrLimit) c.gpuTimeout s.opReqArgs.rc hk
  unfold GpuSm.runOp
  rw [if_pos hidle]
  generalize hadv : Op.advance .setPwrLimit c.gpuTimeout (s.sm .setPwrLimit) s.opReqArgs.rc = adv at hlooks
  cases hlooks with
  | driverChange h => exact .driverChange h
  | giveUp h => exact .giveUp h
  | complete h k hstage =>
    dsimp only
    unfold GpuSm.process
    rw [if_pos hstage]
    have hgoes := advance_goesTo hadv
    have hcount : k.failureCount = (s.sm .setPwrLimit).failureCount := by cases hgoes <;> rfl
    exact .complete h _ rfl rfl (by rw [hcount])
  | moveOn hd hg hc k =>
    dsimp only
    rw [advance_movesOn hadv]
    exact .busy hd hc
  | send hd hg hc k hstage =>
    dsimp only
    unfold GpuSm.process
    rw [if_neg (by omega), if_pos hstage]
    refine .send hd hc _ k _ (advance_goesTo hadv) hstage setSm_sm_self ?_
    exact GpuSm.scheduleGpuReq_gpu

/-! ## Attempts -/

/-- The looks that have led to where the state machine is. -/
def Sm.usedToSet (k : Sm) : Nat :=
  if k.stage = 0 then 0
  else if k.stage ≤ 12 then 5 * (k.stage - 1) + k.failures + 1
  else 60 + 15 * k.attempts + 5 * (k.stage - 13) + k.failures + 1

/-- What holds of the state machine for power limits, whether an attempt is in progress or not. -/
structure SetBound (c : Config) (k : Sm) : Prop where
  stage : k.stage ≤ 15
  failures : k.stage ≠ 0 → k.failures ≤ maxGpuReadAttempt + 1
  attempts : k.attempts ≤ c.gpuTimeout + 1

/-- What holds of an attempt at a stage. -/
structure AttemptInv (c : Config) (k : Sm) (a : Attempt) : Prop where
  /-- Without a busy GPU, all the stages before have been answered with success. -/
  passed : k.retryNecessary = false → ∀ n, 1 ≤ n → n < k.stage → n ∈ a.passed
  early : k.stage ≤ 12 → a.repeats = 0
  /-- What an earlier attempt has left in the counter is there until step 3 ends. -/
  left : k.stage < 12 → a.clean = true → k.attempts ≤ c.gpuTimeout
  late : 12 ≤ k.stage → k.attempts = a.repeats
  looks : a.looks ≤ k.usedToSet

theorem SetBound.used_le (h : SetBound c k) : k.usedToSet ≤ looksOfAttempt c := by
  unfold Sm.usedToSet looksOfAttempt
  have hstage := h.stage
  have hattempts := h.attempts
  by_cases hzero : k.stage = 0
  · rw [if_pos hzero]
    omega
  · have hfailures := h.failures hzero
    rw [if_neg hzero]
    unfold maxGpuReadAttempt at hfailures
    split <;> omega

/-- The stage that is sent next: the first one forgets a busy GPU, the end of step 3 starts the count of step 4. -/
structure Sent (k k' : Sm) : Prop where
  stage : k'.stage = k.stage
  failures : k'.failures = k.failures
  attempts : k'.attempts = if k.stage = 12 then 0 else k.attempts
  retryNecessary : k'.retryNecessary = if k.stage = 1 then false else k.retryNecessary

theorem prepare_sent (k : Sm) (b : Bool) : Sent k { Op.prepare .setPwrLimit k with scheduled := b } := by
  unfold Op.prepare
  split
  · rename_i hop _
    cases hop
  · rename_i hstage
    exact ⟨rfl, rfl, (if_neg (by rw [hstage]; decide)).symm, (if_pos hstage).symm⟩
  · rename_i hop _
    cases hop
  · rename_i hstage
    exact ⟨rfl, rfl, (if_pos hstage).symm, (if_neg (by rw [hstage]; decide)).symm⟩
  · rename_i _ hone _ htwelve
    have hne1 : k.stage ≠ 1 := fun h => hone rfl h
    have hne12 : k.stage ≠ 12 := fun h => htwelve rfl h
    exact ⟨rfl, rfl, (if_neg hne12).symm, (if_neg hne1).symm⟩

theorem SetBound.goesTo {k'' : Sm} (h : SetBound c k) (hg : GoesTo c k rc k') (hstage : k'.stage ≤ 15) (hs : Sent k' k'') :
    SetBound c k'' := by
  have hbound := h.attempts
  refine ⟨hs.stage.trans_le hstage, fun hne => ?_, ?_⟩
  · rw [hs.failures]
    cases hg with
    | repeats hfrom ha => exact Nat.zero_le _
    | busy hfrom => exact h.failures (by rw [hfrom]; decide)
    | again hne' hf hrc => exact Nat.succ_le_succ hf
    | next hsuccess => exact Nat.zero_le _
  · have hattempts : k'.attempts ≤ c.gpuTimeout + 1 := by
      cases hg with
      | repeats hfrom ha => exact Nat.succ_le_succ ha
      | busy hfrom => exact hbound
      | again hne' hf hrc => exact hbound
      | next hsuccess => exact hbound
    rw [hs.attempts]
    split
    · exact Nat.zero_le _
    · exact hattempts

theorem look_of_idle (hidle : s.requestIdle = true) : (a.look s t).looks = a.looks + 1 ∧
    (∀ n ∈ a.passed, n ∈ (a.look s t).passed) ∧ (a.look s t).clean = a.clean ∧
    ((s.sm .setPwrLimit).stage ≠ 0 → (s.sm .setPwrLimit).scheduled = true → s.opReqArgs.rc = gpeRcSuccess →
      (s.sm .setPwrLimit).stage ∈ (a.look s t).passed) ∧
    (a.look s t).repeats =
      if (s.sm .setPwrLimit).stage = 15 ∧ (t.sm .setPwrLimit).stage = 13 then a.repeats + 1 else a.repeats := by
  unfold Attempt.look
  rw [if_pos hidle]
  refine ⟨rfl, fun n hn => ?_, rfl, fun hstage hs hrc => ?_, rfl⟩
  · dsimp only
    split
    · exact List.mem_append_left _ hn
    · exact hn
  · dsimp only
    rw [if_pos ⟨hstage, hs, hrc⟩]
    exact List.mem_append_right _ (List.mem_singleton_self _)

/-- A look that is not the end of the attempt. -/
theorem AttemptInv.goesTo (h : AttemptInv c (s.sm .setPwrLimit) a) (hb : SetBound c (s.sm .setPwrLimit))
    (hidle : s.requestIdle = true) (hg : GoesTo c (s.sm .setPwrLimit) s.opReqArgs.rc k') (hstage : k'.stage ≤ 15)
    (hs : Sent k' (t.sm .setPwrLimit)) : AttemptInv c (t.sm .setPwrLimit) (a.look s t) := by
  obtain ⟨hlooks, hmono, hclean, hnew, hrepeats⟩ := @look_of_idle s t a hidle
  have hfailures := hb.failures
  unfold maxGpuReadAttempt at hfailures
  generalize s.sm .setPwrLimit = k at *
  generalize t.sm .setPwrLimit = k'' at *
  obtain ⟨hstageTo, hfailuresTo, hattemptsTo, hretryTo⟩ := hs
  obtain ⟨hpassed, hearly, hleft, hlate, hused⟩ := h
  unfold Sm.usedToSet at hused
  cases hg with
  | repeats hfrom hattempts =>
    dsimp only at hstageTo hfailuresTo hattemptsTo hretryTo
    rw [if_neg (by decide)] at hattemptsTo hretryTo
    rw [if_pos ⟨hfrom, hstageTo⟩] at hrepeats
    have hbefore := hfailures (by omega)
    rw [if_neg (by omega), if_neg (by omega), hfrom] at hused
    refine ⟨fun hr n hn hlt => hmono n (hpassed (hretryTo.symm.trans hr) n hn (by omega)), fun hle => by omega,
      fun hlt => by omega, fun _ => by rw [hattemptsTo, hrepeats, hlate (by omega)], ?_⟩
    unfold Sm.usedToSet
    rw [hlooks, if_neg (by omega), if_neg (by omega), hattemptsTo, hfailuresTo, hstageTo]
    omega
  | busy hfrom =>
    dsimp only at hstageTo hfailuresTo hattemptsTo hretryTo
    rw [if_pos rfl] at hattemptsTo
    rw [if_neg (by decide)] at hretryTo
    rw [if_neg (by omega)] at hrepeats
    rw [if_neg (by omega), if_pos (by omega), hfrom] at hused
    refine ⟨fun hr => absurd (hretryTo.symm.trans hr) (by decide), fun _ => hrepeats.trans (hearly (by omega)),
      fun hlt => by omega, fun _ => by rw [hattemptsTo, hrepeats, hearly (by omega)], ?_⟩
    unfold Sm.usedToSet
    rw [hlooks, if_neg (by omega), if_pos (by omega), hfailuresTo, hstageTo]
    omega
  | again hne hf hrc =>
    dsimp only at hstageTo hfailuresTo hattemptsTo hretryTo
    rw [if_neg (by omega)] at hrepeats
    refine ⟨fun hr n hn hlt => hmono n (hpassed ?_ n hn (by omega)), fun hle => hrepeats.trans (hearly (by omega)),
      fun hlt hc => ?_, fun hle => ?_, ?_⟩
    · rw [if_neg (by omega)] at hretryTo
      exact hretryTo.symm.trans hr
    · rw [if_neg (by omega)] at hattemptsTo
      rw [hattemptsTo]
      exact hleft (by omega) (hclean.symm.trans hc)
    · rw [hrepeats, hattemptsTo]
      split
      · exact (hearly (by omega)).symm
      · exact hlate (by omega)
    · unfold Sm.usedToSet
      rw [hlooks, hfailuresTo, hstageTo, if_neg hne]
      rw [if_neg hne] at hused
      split at hused
      · rw [if_pos ‹_›]
        omega
      · rw [if_neg ‹_›, hattemptsTo, if_neg (by omega)]
        omega
  | next hsuccess =>
    dsimp only at hstageTo hfailuresTo hattemptsTo hretryTo hstage
    rw [if_neg (by omega)] at hrepeats
    refine ⟨fun hr n hn hlt => ?_, fun hle => hrepeats.trans (hearly (by omega)), fun hlt hc => ?_, fun hle => ?_, ?_⟩
    · have hne : k.stage ≠ 0 := by omega
      rw [if_neg (by omega)] at hretryTo
      obtain hlt | heq := Nat.lt_or_eq_of_le (Nat.le_of_lt_succ (hlt.trans_eq hstageTo))
      · exact hmono n (hpassed (hretryTo.symm.trans hr) n hn hlt)
      · obtain ⟨hs, hrc⟩ := hsuccess.resolve_left hne
        rw [heq]
        exact hnew hne hs hrc
    · rw [if_neg (by omega)] at hattemptsTo
      rw [hattemptsTo]
      exact hleft (by omega) (hclean.symm.trans hc)
    · rw [hrepeats, hattemptsTo]
      split
      · exact (hearly (by omega)).symm
      · exact hlate (by omega)
    · unfold Sm.usedToSet
      rw [hlooks, hfailuresTo, hstageTo, if_neg (Nat.succ_ne_zero _)]
      have hbefore := hfailures
      by_cases hzero : k.stage = 0
      · rw [if_pos hzero] at hused
        rw [if_pos (by omega)]
        omega
      · have hbefore := hfailures hzero
        rw [if_neg hzero] at hused
        split at hused
        · by_cases htwelve : k.stage + 1 ≤ 12
          · rw [if_pos htwelve]
            omega
          · rw [if_neg htwelve]
            omega
        · rw [if_neg (by omega), hattemptsTo, if_neg (by omega)]
          omega

end Look

/-! ## The limits of a GPU -/

section Limits

variable {c : Config} {s t : GpuSm} {g g' : AmecGpu} {o : Op} {ok : Bool} {i : PassInput}

theorem AmecGpu.KeepsPcap.of_eq (hrequested : g'.gpuRequestedPcapMw = g.gpuRequestedPcapMw)
    (hsetFailed : g'.setFailed = g.setFailed) : g.KeepsPcap g' :=
  ⟨fun h => absurd hrequested h, fun h => hsetFailed.trans h⟩

theorem AmecGpu.KeepsPcap.refl (g : AmecGpu) : g.KeepsPcap g := .of_eq rfl rfl

theorem keepsPcap_handleDriverChange : g.KeepsPcap g.handleDriverChange :=
  ⟨fun _ => ⟨rfl, rfl, rfl, rfl⟩, fun _ => rfl⟩

theorem keepsPcap_updateResetStatus (b : Bool) : g.KeepsPcap (g.updateResetStatus b) := by
  unfold AmecGpu.updateResetStatus
  split
  · cases b <;> exact ⟨fun _ => ⟨rfl, rfl, rfl, rfl⟩, fun _ => rfl⟩
  · exact .refl g

theorem keepsPcap_countFailure (n : BitVec 8) : g.KeepsPcap { g.countFailure with retryCount := n } := by
  unfold AmecGpu.countFailure
  dsimp only
  split
  · split <;> exact .of_eq rfl rfl
  · exact .of_eq rfl rfl

theorem keepsPcap_memoryTempGiveUp (n : BitVec 8) (rc : Nat) : g.KeepsPcap (memoryTempGiveUp n rc g) := by
  unfold memoryTempGiveUp
  dsimp only
  split
  · split
    · exact .of_eq rfl rfl
    · split <;> exact .of_eq rfl rfl
  · exact .refl g

theorem keepsPcap_countedGiveUp (ho : o ≠ .setPwrLimit) (n attempts count : Nat) :
    g.KeepsPcap (o.countedGiveUp n attempts count g).1 := by
  rw [countedGiveUp_fst]
  split
  · cases o with
    | setPwrLimit => exact absurd rfl ho
    | _ => exact .of_eq rfl rfl
  · exact .refl g

theorem keepsPcap_finish (ho : o ≠ .setPwrLimit) (data : Fin 3 → BitVec 64) : g.KeepsPcap (o.finish data g) := by
  cases o with
  | setPwrLimit => exact absurd rfl ho
  | readTemp =>
    unfold Op.finish
    dsimp only
    split <;> exact .of_eq rfl rfl
  | checkDriverLoaded =>
    unfold Op.finish
    dsimp only
    split
    · split
      · exact .of_eq rfl rfl
      · exact ⟨fun _ => ⟨rfl, rfl, rfl, rfl⟩, fun _ => rfl⟩
    · exact .refl g
  | readMemoryTemp => exact .of_eq rfl rfl
  | checkMemTempCapable => exact .of_eq rfl rfl
  | readPwrLimit => exact .of_eq rfl rfl

theorem keepsPcap_setCurrent {x : AmecGpu} (hx : s.current.KeepsPcap x) (h : Fin 3) :
    (s.gpu h).KeepsPcap ((s.setCurrent x).gpu h) := by
  rw [gpu_setCurrent]
  split
  · rename_i heq
    rw [heq]
    exact hx
  · exact .refl _

theorem giveUp_keepsPcap (ho : o ≠ .setPwrLimit) (h : Fin 3) : (s.gpu h).KeepsPcap ((s.giveUp c o).gpu h) := by
  unfold GpuSm.giveUp
  dsimp only
  split
  · show (s.gpu h).KeepsPcap (s.markGpuFailed.gpu h)
    obtain ⟨n, b, hmark⟩ := GpuSm.markGpuFailed_cases s
    rw [hmark]
    dsimp only
    by_cases hh : h = s.opReqArgs.gpuId
    · rw [hh, Function.update_self]
      exact keepsPcap_countFailure n
    · rw [Function.update_of_ne hh]
      exact .refl _
  · exact keepsPcap_setCurrent (keepsPcap_memoryTempGiveUp _ _) h
  · exact keepsPcap_setCurrent (keepsPcap_countedGiveUp ho _ _ _) h

theorem runOp_keepsPcap (ho : o ≠ .setPwrLimit) (h : Fin 3) : (s.gpu h).KeepsPcap ((s.runOp c ok o).1.gpu h) := by
  unfold GpuSm.runOp
  split
  · split
    · exact keepsPcap_setCurrent keepsPcap_handleDriverChange h
    · exact giveUp_keepsPcap ho h
    · exact .refl _
    · unfold GpuSm.process
      split
      · exact keepsPcap_setCurrent (keepsPcap_finish ho _) h
      · split
        · rename_i k _ _ _
          show (s.gpu h).KeepsPcap (({ s with newReqArgs := s.newData o k.stage }.scheduleGpuReq ok).1.gpu h)
          rw [GpuSm.scheduleGpuReq_gpu]
          exact .refl _
        · exact .refl _
  · exact .refl _

theorem machine_keepsPcap (hne : s.gpuState ≠ .op .setPwrLimit) (h : Fin 3) :
    (s.gpu h).KeepsPcap ((s.machine c ok).1.gpu h) := by
  cases hidle : s.requestIdle with
  | false =>
    rw [machine_of_busy hidle]
    exact .refl _
  | true =>
    unfold GpuSm.machine
    split
    · rw [gpuResetSm_gpu hidle]
      split
      · exact .of_eq rfl rfl
      · exact .refl _
    · rename_i o ho
      exact runOp_keepsPcap (fun he => hne (he ▸ ho)) h
    · exact .refl _

/-- The choice of the next operation calls off the reading of limits, at most. -/
def SamePcap (g g' : AmecGpu) : Prop := g' = g ∨ g' = { g with checkPwrLimit := false }

theorem SamePcap.fields (h : SamePcap g g') : g'.gpuRequestedPcapMw = g.gpuRequestedPcapMw ∧
    g'.gpuDesiredPcapMw = g.gpuDesiredPcapMw ∧ g'.setFailed = g.setFailed ∧ (g.Cleared → g'.Cleared) := by
  obtain rfl | rfl := h
  · exact ⟨rfl, rfl, rfl, id⟩
  · exact ⟨rfl, rfl, rfl, fun h => ⟨h.driverLoaded, h.pwrLimitsRead, h.desired, h.requested⟩⟩

theorem endPass_gpu {start : Bool} (h : Fin 3) : SamePcap (s.gpu h) ((s.endPass c i start).1.gpu h) := by
  unfold GpuSm.endPass
  split
  · exact .inl rfl
  · split
    · have hsame : SamePcap (s.gpu h)
          ((s.gpuSmHandleIdleState c i.lockIdle s.readTempStartNeeded s.memTempNeeded).1.gpu h) := by
        obtain ⟨u, hu, hcases⟩ := GpuSm.gpuSmHandleIdleState_cases c s i.lockIdle s.readTempStartNeeded s.memTempNeeded
        obtain ⟨-, g, -, heq⟩ | ⟨-, ⟨-, heq⟩ | ⟨-, ⟨o, g, -, -, heq⟩ | heq | heq⟩⟩ := hcases <;> rw [heq] <;> exact hu.gpu h
      generalize s.gpuSmHandleIdleState c i.lockIdle s.readTempStartNeeded s.memTempNeeded = chosen at hsame
      obtain ⟨t, start'⟩ := chosen
      cases start' with
      | false => exact hsame
      | true =>
        dsimp only
        split
        · exact hsame
        · split <;> exact hsame
    · exact .inl rfl

theorem afterOp_gpu : (s.afterOp c o).gpu = s.gpu := by
  unfold GpuSm.afterOp
  split
  · split <;> rfl
  · split <;> rfl
  · rfl

theorem afterReset_gpu : (s.afterReset c).1.gpu = s.gpu := by
  unfold GpuSm.afterReset
  dsimp only
  split <;> rfl

theorem checkMonitoring_gpu : s.checkMonitoring.gpu = s.gpu := by
  unfold GpuSm.checkMonitoring
  split <;> rfl

theorem pass_gpu (h : Fin 3) : SamePcap ((s.checkMonitoring.machine c i.schedules).1.gpu h) ((s.pass c i).1.gpu h) := by
  have hrun : (s.checkMonitoring.runState c i.schedules).1.gpu = (s.checkMonitoring.machine c i.schedules).1.gpu := by
    unfold GpuSm.runState
    dsimp only
    split
    · split
      · exact afterReset_gpu
      · exact afterOp_gpu
      · rfl
    · rfl
  unfold GpuSm.pass
  dsimp only
  rw [← hrun]
  exact endPass_gpu h

end Limits

/-! ## A new attempt -/

section New

variable {c : Config} {s t : GpuSm} {o : Op} {ok : Bool} {i : PassInput}

/-- In the loop: the state machine for power limits is at its start in the other states. -/
structure SetIn (s : GpuSm) : Prop where
  fresh : s.gpuState ≠ .op .setPwrLimit → (s.sm .setPwrLimit).stage = 0
  i2cReset : s.i2cResetRequired = false
  owns : s.occOwnsLock = false → s.gpuState = .noLock
  ran : s.gpuFirstRun = false

/-- Between two calls of the task. -/
structure SetBetween (s : GpuSm) : Prop where
  fresh : s.gpuState ≠ .op .setPwrLimit → (s.sm .setPwrLimit).stage = 0
  i2cReset : s.i2cResetRequired = false
  owns : s.occOwnsLock = false → s.gpuState = .idle ∨ s.gpuState = .noLock
  firstRun : s.gpuFirstRun = true → (s.sm .setPwrLimit).stage = 0

theorem SetIn.between (h : SetIn s) : SetBetween s :=
  ⟨h.fresh, h.i2cReset, fun hs => .inr (h.owns hs), fun hs => absurd (h.ran.symm.trans hs) (by decide)⟩

/-- What a part of a turn does to the lock and the first run. -/
structure Locks (s t : GpuSm) : Prop where
  owns : (s.occOwnsLock = false → s.gpuState = .noLock) → t.occOwnsLock = false → t.gpuState = .noLock
  firstRun : t.gpuFirstRun = s.gpuFirstRun

theorem afterOp_frame : (s.afterOp c o).occOwnsLock = s.occOwnsLock ∧ (s.afterOp c o).gpuFirstRun = s.gpuFirstRun := by
  unfold GpuSm.afterOp
  split
  · split <;> exact ⟨rfl, rfl⟩
  · split <;> exact ⟨rfl, rfl⟩
  · exact ⟨rfl, rfl⟩

theorem afterReset_frame : ((s.afterReset c).1.occOwnsLock = s.occOwnsLock ∨ (s.afterReset c).1.gpuState = .noLock) ∧
    (s.afterReset c).1.gpuFirstRun = s.gpuFirstRun := by
  unfold GpuSm.afterReset
  dsimp only
  split
  · exact ⟨.inl rfl, rfl⟩
  · exact ⟨.inr rfl, rfl⟩

theorem runState_locks : Locks s (s.runState c ok).1 := by
  have hran := GpuSm.machine_ran c s ok
  have howns : (s.looksBack (s.machine c ok).1).occOwnsLock = s.occOwnsLock := hran.occOwnsLock
  have hstate : (s.looksBack (s.machine c ok).1).gpuState = s.gpuState := hran.gpuState
  have hfirst : (s.looksBack (s.machine c ok).1).gpuFirstRun = s.gpuFirstRun := hran.gpuFirstRun
  unfold GpuSm.runState
  dsimp only
  generalize s.looksBack (s.machine c ok).1 = t at *
  have hsame : Locks s t := ⟨fun h ho => hstate.trans (h (howns.symm.trans ho)), hfirst⟩
  split
  · split
    · rename_i hreset
      obtain ⟨hlock, hrun⟩ := @afterReset_frame c t
      refine ⟨fun h ho => ?_, hrun.trans hfirst⟩
      obtain heq | hno := hlock
      · exact absurd ((h (howns.symm.trans (heq.symm.trans ho))).symm.trans hreset) nofun
      · exact hno
    · rename_i o hop
      obtain ⟨hlock, hrun⟩ := @afterOp_frame c t o
      exact ⟨fun h ho => absurd ((h (howns.symm.trans (hlock.symm.trans ho))).symm.trans hop) nofun, hrun.trans hfirst⟩
    · exact hsame
  · exact hsame

theorem handleIdle_frame (owns readTempStart memTemp : Bool) :
    (s.gpuSmHandleIdleState c owns readTempStart memTemp).1.occOwnsLock = s.occOwnsLock ∧
      (s.gpuSmHandleIdleState c owns readTempStart memTemp).1.gpuFirstRun = s.gpuFirstRun ∧
      (s.gpuSmHandleIdleState c owns readTempStart memTemp).1.i2cResetRequired = s.i2cResetRequired := by
  obtain ⟨u, hu, hcases⟩ := GpuSm.gpuSmHandleIdleState_cases c s owns readTempStart memTemp
  have hsame : u.occOwnsLock = s.occOwnsLock ∧ u.gpuFirstRun = s.gpuFirstRun ∧ u.i2cResetRequired = s.i2cResetRequired := by
    rw [hu.frame]
    exact ⟨rfl, rfl, rfl⟩
  obtain ⟨-, g, -, heq⟩ | ⟨-, ⟨-, heq⟩ | ⟨-, ⟨o, g, -, -, heq⟩ | heq | heq⟩⟩ := hcases <;> rw [heq] <;> exact hsame

theorem endPass_locks {start : Bool} :
    Locks s (s.endPass c i start).1 ∧ (s.endPass c i start).1.i2cResetRequired = false := by
  unfold GpuSm.endPass
  split
  · refine ⟨⟨fun _ ho => ?_, rfl⟩, rfl⟩
    dsimp only at ho ⊢
    rw [ho]
    rfl
  · rename_i hreset
    rw [Bool.not_eq_true] at hreset
    split
    · rename_i hidle
      obtain ⟨howns, hfirst, hi2c⟩ := @handleIdle_frame c s i.lockIdle s.readTempStartNeeded s.memTempNeeded
      have hnotFree : (s.occOwnsLock = false → s.gpuState = .noLock) → s.occOwnsLock = false → False := by
        intro h ho
        rw [hidle] at h
        exact nomatch h ho
      generalize s.gpuSmHandleIdleState c i.lockIdle s.readTempStartNeeded s.memTempNeeded = chosen at howns hfirst hi2c
      obtain ⟨t, start'⟩ := chosen
      have ht : Locks s t ∧ t.i2cResetRequired = false :=
        ⟨⟨fun h ho => (hnotFree h (howns.symm.trans ho)).elim, hfirst⟩, hi2c.trans hreset⟩
      cases start' with
      | false => exact ht
      | true =>
        dsimp only
        split
        · exact ⟨⟨fun h ho => (hnotFree h (howns.symm.trans ho)).elim, hfirst⟩, ht.2⟩
        · split
          · exact ⟨⟨fun h ho => (hnotFree h (howns.symm.trans ho)).elim, hfirst⟩, ht.2⟩
          · exact ht
    · exact ⟨⟨fun h => h, rfl⟩, hreset⟩

theorem checkMonitoring_locks : Locks s s.checkMonitoring := by
  unfold GpuSm.checkMonitoring
  split
  · exact ⟨fun h => h, rfl⟩
  · exact ⟨fun _ _ => rfl, rfl⟩

/-- The state machine for power limits goes on in the turn. -/
def GoesOn (c : Config) (s : GpuSm) (i : PassInput) : Prop :=
  s.checkMonitoring.gpuState = .op .setPwrLimit ∧ (s.checkMonitoring.machine c i.schedules).2 = false

theorem checkMonitoring_cases : (s.checkMonitoring.gpuState = s.gpuState ∧ s.monitoringAllowed = true) ∨
    (s.checkMonitoring.gpuState = .noLock ∧ s.monitoringAllowed = false) := by
  unfold GpuSm.checkMonitoring
  split
  · rename_i hm
    exact .inl ⟨rfl, hm⟩
  · rename_i hm
    exact .inr ⟨rfl, Bool.eq_false_iff.2 hm⟩

theorem SetIn.stage (h : SetIn s) (hstop : s.monitoringAllowed = false → (s.sm .setPwrLimit).stage = 0)
    (hno : ¬GoesOn c s i) : ((s.pass c i).1.sm .setPwrLimit).stage = 0 := by
  have hran := GpuSm.machine_ran c s.checkMonitoring i.schedules
  rw [pass_sm]
  by_cases hop : s.checkMonitoring.gpuState = .op .setPwrLimit
  · have hdone : (s.checkMonitoring.machine c i.schedules).2 = true := by
      rw [← Bool.not_eq_false]
      exact fun hf => hno ⟨hop, hf⟩
    exact (hran.fresh hdone).1 _ hop
  · rw [hran.others _ hop, checkMonitoring_sm]
    obtain ⟨hsame, -⟩ | ⟨-, hm⟩ := @checkMonitoring_cases s
    · exact h.fresh (hsame ▸ hop)
    · exact hstop hm

theorem SetIn.goesOn (h : SetIn s) (hgoes : GoesOn c s i) : s.pass c i =
    (s.checkMonitoring.looksBack (s.checkMonitoring.machine c i.schedules).1, false) := by
  have hran := GpuSm.machine_ran c s.checkMonitoring i.schedules
  have hi2c : s.checkMonitoring.i2cResetRequired = false := by
    unfold GpuSm.checkMonitoring
    split <;> exact h.i2cReset
  have hreset : (s.checkMonitoring.machine c i.schedules).1.i2cResetRequired = false := by
    obtain heq | hdone := hran.i2cReset
    · exact heq.trans hi2c
    · exact absurd (hgoes.2.symm.trans hdone) (by decide)
  have hrun : s.checkMonitoring.runState c i.schedules =
      (s.checkMonitoring.looksBack (s.checkMonitoring.machine c i.schedules).1, false) := by
    unfold GpuSm.runState
    dsimp only
    rw [hgoes.2]
    rfl
  unfold GpuSm.pass
  rw [hrun]
  exact endPass_of_op (hran.gpuState.trans hgoes.1) hreset

theorem SetIn.pass (h : SetIn s) (hstop : s.monitoringAllowed = false → (s.sm .setPwrLimit).stage = 0) :
    SetIn (s.pass c i).1 ∧ ((s.pass c i).2 = true → ((s.pass c i).1.sm .setPwrLimit).stage = 0) := by
  have hlocks₁ := @checkMonitoring_locks s
  have hlocks₂ := @runState_locks c s.checkMonitoring i.schedules
  obtain ⟨hlocks₃, hi2c⟩ := @endPass_locks c (s.checkMonitoring.runState c i.schedules).1 i
    (s.checkMonitoring.runState c i.schedules).2
  refine ⟨⟨fun hne => ?_, hi2c, hlocks₃.owns (hlocks₂.owns (hlocks₁.owns h.owns)),
    hlocks₃.firstRun.trans (hlocks₂.firstRun.trans (hlocks₁.firstRun.trans h.ran))⟩, fun hagain => ?_⟩
  · refine h.stage hstop fun hgoes => hne ?_
    rw [h.goesOn hgoes]
    exact (GpuSm.machine_ran c s.checkMonitoring i.schedules).gpuState.trans hgoes.1
  · refine h.stage hstop fun hgoes => ?_
    rw [h.goesOn hgoes] at hagain
    cases hagain

/-- In the state for power limits, the task is with a GPU whose desired limit is not the requested one. -/
def AtDiffering (t : GpuSm) : Prop :=
  t.gpuState = .op .setPwrLimit → (t.gpu t.currentGpuId).gpuDesiredPcapMw ≠ (t.gpu t.currentGpuId).gpuRequestedPcapMw

theorem choose_atDiffering {g : Fin 3} (h : GpuSm.StartsAt c s o g) : AtDiffering (s.choose o g) := by
  intro ht
  have ho : o = .setPwrLimit := GpuState.op.inj ht
  rw [ho] at h
  exact h

theorem endPass_atDiffering {start : Bool} (hne : s.gpuState ≠ .op .setPwrLimit) : AtDiffering (s.endPass c i start).1 := by
  have hidle : s.gpuState = .idle → AtDiffering
      (s.gpuSmHandleIdleState c i.lockIdle s.readTempStartNeeded s.memTempNeeded).1 := by
    intro hidle
    obtain ⟨u, hu, hcases⟩ := GpuSm.gpuSmHandleIdleState_cases c s i.lockIdle s.readTempStartNeeded s.memTempNeeded
    have hustate : u.gpuState = .idle := by
      rw [hu.frame]
      exact hidle
    obtain ⟨-, g, hstart, heq⟩ | ⟨-, ⟨-, heq⟩ | ⟨-, ⟨o, g, -, hstart, heq⟩ | heq | heq⟩⟩ := hcases <;> rw [heq]
    · exact choose_atDiffering hstart
    · exact nofun
    · exact choose_atDiffering hstart
    · exact nofun
    · exact fun ht => absurd (hustate.symm.trans ht) nofun
  unfold GpuSm.endPass
  split
  · intro ht
    dsimp only at ht
    split at ht <;> cases ht
  · split
    · rename_i hs
      have hchosen := hidle hs
      generalize s.gpuSmHandleIdleState c i.lockIdle s.readTempStartNeeded s.memTempNeeded = chosen at hchosen
      obtain ⟨t, start'⟩ := chosen
      cases start' with
      | false => exact hchosen
      | true =>
        dsimp only
        split
        · exact hchosen
        · split <;> exact hchosen
    · exact fun ht => absurd ht hne

theorem pass_atDiffering (hno : ¬GoesOn c s i) : AtDiffering (s.pass c i).1 := by
  have hran := GpuSm.machine_ran c s.checkMonitoring i.schedules
  refine endPass_atDiffering ?_
  unfold GpuSm.runState
  dsimp only
  split
  · split
    · unfold GpuSm.afterReset
      dsimp only
      split <;> exact nofun
    · unfold GpuSm.afterOp
      split
      · split <;> exact nofun
      · split <;> exact nofun
      · exact nofun
    · rename_i hreset hop
      exact fun ht => hop _ (hran.gpuState.symm.trans ht)
  · rename_i hdone
    exact fun ht => hno ⟨hran.gpuState.symm.trans ht, Bool.eq_false_iff.2 hdone⟩

end New

/-! ## The law -/

structure PcapInv (c : Config) (x : PcapRun) : Prop where
  bound : SetBound c (x.sm.sm .setPwrLimit)
  tracks : x.attempt.isSome = true ↔ x.sm.gpuState = .op .setPwrLimit
  attempt : ∀ a, x.attempt = some a → AttemptInv c (x.sm.sm .setPwrLimit) a
  count : ∀ g, (x.sm.sm .setPwrLimit).failureCount g ≤ x.row g

section Law

variable {c : Config} {x : PcapRun} {s t : GpuSm} {i : PassInput} {a : Attempt} {row : Fin 3 → Nat}

theorem attemptBegun_inv (hbound : SetBound c (t.sm .setPwrLimit)) (hstage : (t.sm .setPwrLimit).stage = 0)
    (hcount : ∀ g, (t.sm .setPwrLimit).failureCount g ≤ row g) :
    PcapInv c ⟨t, attemptBegun c t, row⟩ ∧ ∀ a, attemptBegun c t = some a → a.looks ≤ looksOfAttempt c := by
  unfold attemptBegun
  by_cases ht : t.gpuState = .op .setPwrLimit
  · rw [if_pos ht]
    refine ⟨⟨hbound, ⟨fun _ => ht, fun _ => rfl⟩, ?_, hcount⟩, ?_⟩
    · rintro a ⟨⟩
      refine ⟨fun _ n hn hlt => ?_, fun _ => rfl, fun _ hclean => of_decide_eq_true hclean, fun hle => ?_, Nat.zero_le _⟩
      · exact absurd hlt (by rw [hstage]; omega)
      · exact absurd hle (by rw [hstage]; decide)
    · rintro a ⟨⟩
      exact Nat.zero_le _
  · rw [if_neg ht]
    exact ⟨⟨hbound, ⟨nofun, fun h => absurd h ht⟩, nofun, hcount⟩, nofun⟩

theorem PcapInv.elsewhere (h : PcapInv c x) (hin : SetIn x.sm)
    (hstop : x.sm.monitoringAllowed = false → (x.sm.sm .setPwrLimit).stage = 0)
    (hne : x.sm.checkMonitoring.gpuState ≠ .op .setPwrLimit) : PcapTurn c x i ∧ PcapInv c (x.pass c i).1 := by
  have hno : ¬GoesOn c x.sm i := fun hgoes => hne hgoes.1
  have hpass : x.pass c i = ({ x with sm := (x.sm.pass c i).1, attempt := attemptBegun c (x.sm.pass c i).1 },
      (x.sm.pass c i).2) := by
    unfold PcapRun.pass
    dsimp only
    split
    · rfl
    · rw [if_neg hne]
  have hsm : (x.sm.pass c i).1.sm .setPwrLimit = x.sm.sm .setPwrLimit := by
    rw [pass_sm, (GpuSm.machine_ran c x.sm.checkMonitoring i.schedules).others _ hne, checkMonitoring_sm]
  have hkeeps : ∀ g, (x.sm.gpu g).KeepsPcap ((x.sm.pass c i).1.gpu g) := by
    intro g
    have hmachine := @machine_keepsPcap c x.sm.checkMonitoring i.schedules hne g
    rw [checkMonitoring_gpu] at hmachine
    obtain ⟨hreq, -, hfail, hcleared⟩ := (pass_gpu (s := x.sm) (c := c) (i := i) g).fields
    exact ⟨fun hchange => hcleared (hmachine.requested (hreq ▸ hchange)), fun hf => hfail.trans (hmachine.setFailed hf)⟩
  obtain ⟨hinv, hlooks⟩ := @attemptBegun_inv c (x.sm.pass c i).1 x.row (by rw [hsm]; exact h.bound)
    (hin.stage hstop hno) (by rw [hsm]; exact h.count)
  refine ⟨⟨fun g hchange => .inl ((hkeeps g).requested hchange), fun g hf ht => ?_, ?_, fun _ => pass_atDiffering hno⟩, ?_⟩
  · exact absurd (((hkeeps g).setFailed hf).symm.trans ht) (by decide)
  · rw [hpass]
    exact hlooks
  · rw [hpass]
    exact hinv

theorem le_rowAfter (hc : ¬Op.IsComplete .setPwrLimit (s.sm .setPwrLimit) s.opReqArgs.rc)
    (hd : ¬Op.SeesDriverChange .setPwrLimit (s.sm .setPwrLimit) s.opReqArgs.rc) (g : Fin 3) : row g ≤ rowAfter c s row g := by
  unfold rowAfter
  split
  · by_cases hg : g = s.currentGpuId
    · rw [hg, Function.update_self]
      exact Nat.le_succ _
    · rw [Function.update_of_ne hg]
  · rw [if_neg fun h => h.2.elim hc hd]

theorem machine_set (hop : s.gpuState = .op .setPwrLimit) : s.machine c i.schedules = s.runOp c i.schedules .setPwrLimit := by
  unfold GpuSm.machine
  rw [hop]

/-- A call that goes on: nothing is told of the GPUs, and the attempt is where it was or at another stage. -/
theorem machine_goesOn (hop : s.gpuState = .op .setPwrLimit) (hbound : SetBound c (s.sm .setPwrLimit))
    (ha : AttemptInv c (s.sm .setPwrLimit) a) (hcount : ∀ g, (s.sm .setPwrLimit).failureCount g ≤ row g)
    (hran : (s.machine c i.schedules).2 = false) :
    (s.machine c i.schedules).1.gpu = s.gpu ∧ SetBound c ((s.machine c i.schedules).1.sm .setPwrLimit) ∧
      AttemptInv c ((s.machine c i.schedules).1.sm .setPwrLimit) (a.look s (s.machine c i.schedules).1) ∧
      ∀ g, ((s.machine c i.schedules).1.sm .setPwrLimit).failureCount g ≤ rowAfter c s row g := by
  cases hidle : s.requestIdle with
  | false =>
    have hlook : ∀ t, a.look s t = a := fun t => if_neg (by rw [hidle]; decide)
    have hrow : rowAfter c s row = row := by
      unfold rowAfter
      rw [if_neg (by rw [hidle]; exact nofun), if_neg (by rw [hidle]; exact nofun)]
    rw [machine_of_busy hidle, hlook, hrow]
    exact ⟨rfl, hbound, ha, hcount⟩
  | true =>
    have hlook := @runOp_setLook c s i.schedules hidle hbound.stage
    rw [← machine_set hop] at hlook
    generalize s.machine c i.schedules = ran at hlook hran ⊢
    obtain ⟨t, done⟩ := ran
    cases hlook with
    | driverChange hd => cases hran
    | giveUp hg => cases hran
    | complete hc k hstage hattempts hk => cases hran
    | busy hd hc => cases hran
    | send hd hc t k b hgoes hstage hsm hgpu =>
      have hsent : Sent k (t.sm .setPwrLimit) := by
        rw [hsm]
        exact prepare_sent k b
      refine ⟨hgpu, hbound.goesTo hgoes hstage.2 hsent, ha.goesTo hbound hidle hgoes hstage.2 hsent, fun g => ?_⟩
      have hcountTo : (t.sm .setPwrLimit).failureCount = (s.sm .setPwrLimit).failureCount := by
        have hprepare : (Op.prepare .setPwrLimit k).failureCount = k.failureCount := by
          unfold Op.prepare
          split <;> rfl
        rw [hsm]
        dsimp only
        rw [hprepare]
        cases hgoes <;> rfl
      rw [hcountTo]
      exact Nat.le_trans (hcount g) (le_rowAfter hc hd g)

/-- What a call that ends the attempt tells. -/
structure EndsAttempt (c : Config) (s t : GpuSm) (a : Attempt) (row : Fin 3 → Nat) : Prop where
  requested : ∀ g, (t.gpu g).gpuRequestedPcapMw ≠ (s.gpu g).gpuRequestedPcapMw → (t.gpu g).Cleared ∨
    (g = s.currentGpuId ∧ (∀ n, 1 ≤ n → n ≤ Op.requests .setPwrLimit → n ∈ (a.look s t).passed) ∧
      (t.gpu g).gpuRequestedPcapMw = (s.opReqArgs.data 0).setWidth 32)
  setFailed : ∀ g, (s.gpu g).setFailed = false → (t.gpu g).setFailed = true → g = s.currentGpuId ∧
    (a.clean = true → rowAfter c s row g > gpuErrorCount ∨ a.repeats > c.gpuTimeout)
  bound : SetBound c (t.sm .setPwrLimit)
  count : ∀ g, (t.sm .setPwrLimit).failureCount g ≤ rowAfter c s row g

theorem countedGiveUp_snd_le {o : Op} {g : AmecGpu} {n attempts count : Nat} :
    (o.countedGiveUp n attempts count g).2 ≤ count + 1 := by
  have hcount : (if o.timed = true ∧ attempts > n then 0 else count) ≤ count := by
    split
    · exact Nat.zero_le _
    · exact Nat.le_refl _
  unfold Op.countedGiveUp
  dsimp only
  generalize (if o.timed = true ∧ attempts > n then 0 else count) = count' at hcount ⊢
  generalize (if o.timed = true ∧ attempts > n then o.abandon g else g) = g'
  split
  · split
    · exact Nat.zero_le _
    · exact Nat.succ_le_succ hcount
  · exact Nat.le_succ_of_le hcount

theorem AttemptInv.complete (ha : AttemptInv c (s.sm .setPwrLimit) a) (hidle : s.requestIdle = true)
    (hc : Op.IsComplete .setPwrLimit (s.sm .setPwrLimit) s.opReqArgs.rc) (n : Nat) (hn : 1 ≤ n)
    (hle : n ≤ Op.requests .setPwrLimit) : n ∈ (a.look s t).passed := by
  obtain ⟨hstage, hs, hrc, hretry⟩ := hc
  obtain ⟨-, hmono, -, hnew, -⟩ := @look_of_idle s t a hidle
  have hstage : (s.sm .setPwrLimit).stage = 15 := hstage
  have hno : (s.sm .setPwrLimit).retryNecessary = false := by
    rw [← Bool.not_eq_true]
    intro ht
    refine hretry ⟨?_, ht⟩
    rw [hstage]
    rfl
  have hle : n ≤ 15 := hle
  obtain hlt | rfl := Nat.lt_or_eq_of_le hle
  · exact hmono n (ha.passed hno n hn (hlt.trans_eq hstage.symm))
  · rw [← hstage]
    exact hnew (by rw [hstage]; decide) hs hrc

theorem giveUp_ends (ha : AttemptInv c (s.sm .setPwrLimit) a) (hidle : s.requestIdle = true)
    (hcount : ∀ g, (s.sm .setPwrLimit).failureCount g ≤ row g)
    (hg : Op.IsGivenUp .setPwrLimit c.gpuTimeout (s.sm .setPwrLimit) s.opReqArgs.rc) :
    EndsAttempt c s (s.giveUp c .setPwrLimit) a row := by
  have hrow : rowAfter c s row = update row s.currentGpuId (row s.currentGpuId + 1) := if_pos ⟨hidle, hg⟩
  have hgiven : ∀ g, ((s.giveUp c .setPwrLimit).gpu g) =
      if g = s.currentGpuId then (Op.countedGiveUp .setPwrLimit c.gpuTimeout (s.sm .setPwrLimit).attempts
        ((s.sm .setPwrLimit).failureCount s.currentGpuId) s.current).1 else s.gpu g := fun g => gpu_setCurrent
  refine ⟨fun g hchange => ?_, fun g hf ht => ?_, ?_, fun g => ?_⟩
  · rw [hgiven, countedGiveUp_fst] at hchange
    split at hchange
    · rename_i hcur
      refine absurd ?_ hchange
      rw [hcur]
      split <;> rfl
    · exact absurd rfl hchange
  · rw [hgiven, countedGiveUp_fst] at ht
    split at ht
    · rename_i hcur
      refine ⟨hcur, fun hclean => ?_⟩
      split at ht
      · rename_i hgives
        obtain ⟨-, htimeout⟩ | ⟨-, hmany⟩ := hgives
        · -- the counter is above the time-out: step 4 was reached, and the counter is that of its repetitions
          refine .inr ?_
          by_cases hlate : 12 ≤ (s.sm .setPwrLimit).stage
          · exact htimeout.trans_eq (ha.late hlate)
          · exact absurd (ha.left (by omega) hclean) (by omega)
        · refine .inl ?_
          rw [hrow, hcur, Function.update_self]
          have hle := hcount s.currentGpuId
          omega
      · rw [GpuSm.current, ← hcur, hf] at ht
        cases ht
    · rw [hf] at ht
      cases ht
  · show SetBound c ((s.giveUp c .setPwrLimit).sm .setPwrLimit)
    unfold GpuSm.giveUp
    dsimp only
    rw [setSm_sm_self]
    exact ⟨Nat.zero_le _, fun hne => absurd rfl hne, Nat.zero_le _⟩
  · unfold GpuSm.giveUp
    dsimp only
    rw [setSm_sm_self, hrow]
    dsimp only
    by_cases hcur : g = s.currentGpuId
    · rw [hcur, Function.update_self, Function.update_self]
      exact Nat.le_trans countedGiveUp_snd_le (Nat.succ_le_succ (hcount s.currentGpuId))
    · rw [Function.update_of_ne hcur, Function.update_of_ne hcur]
      exact hcount g

theorem PcapInv.goesOn (h : PcapInv c x) (hin : SetIn x.sm) (ha : x.attempt = some a) (hgoes : GoesOn c x.sm i) :
    PcapTurn c x i ∧ PcapInv c (x.pass c i).1 := by
  obtain ⟨hop, hran⟩ := hgoes
  obtain ⟨hgpu, hbound, hattempt, hcount⟩ := @machine_goesOn c x.sm.checkMonitoring i a x.row hop (by rw [checkMonitoring_sm]; exact h.bound)
    (by rw [checkMonitoring_sm]; exact h.attempt a ha) (by rw [checkMonitoring_sm]; exact h.count) hran
  have hfst := congrArg Prod.fst (hin.goesOn ⟨hop, hran⟩)
  have hsame : (x.sm.pass c i).1.gpu = x.sm.gpu := by
    rw [hfst, ← checkMonitoring_gpu (s := x.sm)]
    exact hgpu
  have hpass : (x.pass c i).1 = ⟨(x.sm.pass c i).1, some (a.look x.sm.checkMonitoring
      (x.sm.checkMonitoring.machine c i.schedules).1), rowAfter c x.sm.checkMonitoring x.row⟩ := by
    unfold PcapRun.pass
    dsimp only
    rw [ha]
    dsimp only
    rw [if_pos hop, if_neg (by rw [hran]; decide)]
  have hstate : (x.sm.pass c i).1.gpuState = .op .setPwrLimit := by
    rw [hfst]
    exact (GpuSm.machine_ran c x.sm.checkMonitoring i.schedules).gpuState.trans hop
  refine ⟨⟨fun g hchange => ?_, fun g hf ht => ?_, ?_, ?_⟩, ?_⟩
  · rw [hsame] at hchange
    exact absurd rfl hchange
  · rw [hsame, hf] at ht
    cases ht
  · rw [hpass]
    rintro a' ⟨⟩
    exact Nat.le_trans hattempt.looks hbound.used_le
  · rintro (hnone | hdone)
    · rw [ha] at hnone
      cases hnone
    · rw [hran] at hdone
      cases hdone
  · rw [hpass]
    have hsm : (x.sm.pass c i).1.sm .setPwrLimit = (x.sm.checkMonitoring.machine c i.schedules).1.sm .setPwrLimit := by
      rw [pass_sm]
    refine ⟨?_, ⟨fun _ => hstate, fun _ => rfl⟩, ?_, ?_⟩
    · rw [hsm]
      exact hbound
    · rintro a' ⟨⟩
      rw [hsm]
      exact hattempt
    · rw [hsm]
      exact hcount

theorem driverChange_ends (hidle : s.requestIdle = true) (hcount : ∀ g, (s.sm .setPwrLimit).failureCount g ≤ row g)
    (hd : Op.SeesDriverChange .setPwrLimit (s.sm .setPwrLimit) s.opReqArgs.rc) :
    EndsAttempt c s (s.driverChange .setPwrLimit) a row := by
  have hrow : rowAfter c s row = update row s.currentGpuId 0 := by
    unfold rowAfter
    rw [if_neg fun h => h.2.2.2.1 hd, if_pos ⟨hidle, .inr hd⟩]
  have hkeeps : ∀ g, (s.gpu g).KeepsPcap ((s.driverChange .setPwrLimit).gpu g) :=
    keepsPcap_setCurrent keepsPcap_handleDriverChange
  refine ⟨fun g hchange => .inl ((hkeeps g).requested hchange), fun g hf ht => ?_, ?_, fun g => ?_⟩
  · exact absurd (((hkeeps g).setFailed hf).symm.trans ht) (by decide)
  · unfold GpuSm.driverChange
    dsimp only
    rw [setSm_sm_self]
    exact ⟨Nat.zero_le _, fun hne => absurd rfl hne, Nat.zero_le _⟩
  · unfold GpuSm.driverChange
    dsimp only
    rw [setSm_sm_self, hrow]
    dsimp only
    by_cases hcur : g = s.currentGpuId
    · rw [hcur, Function.update_self]
      exact Nat.zero_le _
    · rw [Function.update_of_ne hcur, Function.update_of_ne hcur]
      exact hcount g

theorem complete_ends (ha : AttemptInv c (s.sm .setPwrLimit) a) (hidle : s.requestIdle = true)
    (hcount : ∀ g, (s.sm .setPwrLimit).failureCount g ≤ row g)
    (hc : Op.IsComplete .setPwrLimit (s.sm .setPwrLimit) s.opReqArgs.rc) {k : Sm} (hstage : k.stage = 0)
    (hattempts : k.attempts = 0) (hk : k.failureCount = update (s.sm .setPwrLimit).failureCount s.currentGpuId 0) :
    EndsAttempt c s ((s.setCurrent (Op.finish .setPwrLimit s.opReqArgs.data s.current)).setSm .setPwrLimit k) a row := by
  have hrow : rowAfter c s row = update row s.currentGpuId 0 := by
    have hno : ¬Op.IsGivenUp .setPwrLimit c.gpuTimeout (s.sm .setPwrLimit) s.opReqArgs.rc := by
      rintro ⟨-, hfail, -⟩
      obtain ⟨-, hs, hrc, -⟩ := hc
      obtain hfail | hfail := hfail
      · exact absurd (hs.symm.trans hfail) (by decide)
      · exact hfail hrc
    unfold rowAfter
    rw [if_neg fun h => hno h.2, if_pos ⟨hidle, .inl hc⟩]
  refine ⟨fun g hchange => .inr ?_, fun g hf ht => ?_, ?_, fun g => ?_⟩
  · show g = s.currentGpuId ∧ _ ∧ ((s.setCurrent _).gpu g).gpuRequestedPcapMw = _
    change ((s.setCurrent _).gpu g).gpuRequestedPcapMw ≠ _ at hchange
    rw [gpu_setCurrent] at hchange ⊢
    split at hchange
    · rename_i hcur
      rw [if_pos hcur]
      exact ⟨hcur, fun n => ha.complete hidle hc n, rfl⟩
    · exact absurd rfl hchange
  · change ((s.setCurrent _).gpu g).setFailed = true at ht
    rw [gpu_setCurrent] at ht
    split at ht
    · rename_i hcur
      rw [hcur] at hf
      exact absurd (hf.symm.trans ht) (by decide)
    · exact absurd (hf.symm.trans ht) (by decide)
  · rw [setSm_sm_self]
    exact ⟨by omega, fun hne => absurd hstage hne, by omega⟩
  · rw [setSm_sm_self, hk, hrow]
    by_cases hcur : g = s.currentGpuId
    · rw [hcur, Function.update_self]
      exact Nat.zero_le _
    · rw [Function.update_of_ne hcur, Function.update_of_ne hcur]
      exact hcount g

theorem busy_ends (hbound : SetBound c (s.sm .setPwrLimit)) (hcount : ∀ g, (s.sm .setPwrLimit).failureCount g ≤ row g)
    (hd : ¬Op.SeesDriverChange .setPwrLimit (s.sm .setPwrLimit) s.opReqArgs.rc)
    (hc : ¬Op.IsComplete .setPwrLimit (s.sm .setPwrLimit) s.opReqArgs.rc) :
    EndsAttempt c s (s.setSm .setPwrLimit { s.sm .setPwrLimit with failures := 0, stage := 0 }) a row := by
  refine ⟨fun g hchange => absurd rfl hchange, fun g hf ht => absurd (hf.symm.trans ht) (by decide), ?_, fun g => ?_⟩
  · rw [setSm_sm_self]
    exact ⟨Nat.zero_le _, fun hne => absurd rfl hne, hbound.attempts⟩
  · rw [setSm_sm_self]
    exact Nat.le_trans (hcount g) (le_rowAfter hc hd g)

theorem machine_ends (hop : s.gpuState = .op .setPwrLimit) (hbound : SetBound c (s.sm .setPwrLimit))
    (ha : AttemptInv c (s.sm .setPwrLimit) a) (hcount : ∀ g, (s.sm .setPwrLimit).failureCount g ≤ row g)
    (hran : (s.machine c i.schedules).2 = true) : EndsAttempt c s (s.machine c i.schedules).1 a row := by
  have hidle : s.requestIdle = true := by
    rw [← Bool.not_eq_false]
    intro hbusy
    rw [machine_of_busy hbusy] at hran
    cases hran
  have hlook := @runOp_setLook c s i.schedules hidle hbound.stage
  rw [← machine_set hop] at hlook
  generalize s.machine c i.schedules = ran at hlook hran ⊢
  obtain ⟨t, done⟩ := ran
  cases hlook with
  | driverChange hd => exact driverChange_ends hidle hcount hd
  | giveUp hg => exact giveUp_ends ha hidle hcount hg
  | complete hc k hstage hattempts hk => exact complete_ends ha hidle hcount hc hstage hattempts hk
  | busy hd hc => exact busy_ends hbound hcount hd hc
  | send hd hc t k b hgoes hstage hsm hgpu => cases hran

/-- A turn that ends an attempt. -/
theorem PcapInv.ends (h : PcapInv c x) (hin : SetIn x.sm)
    (hstop : x.sm.monitoringAllowed = false → (x.sm.sm .setPwrLimit).stage = 0) (ha : x.attempt = some a)
    (hop : x.sm.checkMonitoring.gpuState = .op .setPwrLimit)
    (hran : (x.sm.checkMonitoring.machine c i.schedules).2 = true) : PcapTurn c x i ∧ PcapInv c (x.pass c i).1 := by
  have hno : ¬GoesOn c x.sm i := fun hgoes => absurd (hgoes.2.symm.trans hran) (by decide)
  have hends := @machine_ends c x.sm.checkMonitoring i a x.row hop (by rw [checkMonitoring_sm]; exact h.bound)
    (by rw [checkMonitoring_sm]; exact h.attempt a ha) (by rw [checkMonitoring_sm]; exact h.count) hran
  have hpass : (x.pass c i).1 = ⟨(x.sm.pass c i).1, attemptBegun c (x.sm.pass c i).1, rowAfter c x.sm.checkMonitoring x.row⟩ := by
    unfold PcapRun.pass
    dsimp only
    rw [ha]
    dsimp only
    rw [if_pos hop, if_pos hran]
  have hsm : (x.sm.pass c i).1.sm .setPwrLimit = (x.sm.checkMonitoring.machine c i.schedules).1.sm .setPwrLimit := by
    rw [pass_sm]
  obtain ⟨hinv, hlooks⟩ := @attemptBegun_inv c (x.sm.pass c i).1 (rowAfter c x.sm.checkMonitoring x.row)
    (by rw [hsm]; exact hends.bound) (hin.stage hstop hno) (by rw [hsm]; exact hends.count)
  refine ⟨⟨fun g hchange => ?_, fun g hf ht => ?_, ?_, fun _ => pass_atDiffering hno⟩, ?_⟩
  · obtain ⟨hreq, -, -, hcleared⟩ := (pass_gpu (s := x.sm) (c := c) (i := i) g).fields
    rw [hreq, ← checkMonitoring_gpu (s := x.sm)] at hchange
    obtain hclear | ⟨hcur, hpassed, hvalue⟩ := hends.requested g hchange
    · exact .inl (hcleared hclear)
    · exact .inr ⟨a, ha, hop, hcur, hpassed, hreq.trans hvalue⟩
  · obtain ⟨-, -, hfail, -⟩ := (pass_gpu (s := x.sm) (c := c) (i := i) g).fields
    rw [← checkMonitoring_gpu (s := x.sm)] at hf
    obtain ⟨hcur, hwhy⟩ := hends.setFailed g hf (hfail.symm.trans ht)
    refine ⟨a, ha, hop, hcur, ?_⟩
    rw [hpass]
    exact hwhy
  · rw [hpass]
    exact hlooks
  · rw [hpass]
    exact hinv

theorem PcapInv.pass (h : PcapInv c x) (hin : SetIn x.sm)
    (hstop : x.sm.monitoringAllowed = false → (x.sm.sm .setPwrLimit).stage = 0) :
    PcapTurn c x i ∧ PcapInv c (x.pass c i).1 := by
  by_cases hop : x.sm.checkMonitoring.gpuState = .op .setPwrLimit
  · have hstate : x.sm.gpuState = .op .setPwrLimit := by
      obtain ⟨hsame, -⟩ | ⟨hno, -⟩ := @checkMonitoring_cases x.sm
      · exact hsame.symm.trans hop
      · exact absurd (hno.symm.trans hop) nofun
    obtain ⟨a, ha⟩ := Option.isSome_iff_exists.1 (h.tracks.2 hstate)
    cases hran : (x.sm.checkMonitoring.machine c i.schedules).2 with
    | false => exact h.goesOn hin ha ⟨hop, hran⟩
    | true => exact h.ends hin hstop ha hop hran
  · exact h.elsewhere hin hstop hop

theorem pcapPass_sm : (x.pass c i).1.sm = (x.sm.pass c i).1 ∧ (x.pass c i).2 = (x.sm.pass c i).2 := by
  unfold PcapRun.pass
  dsimp only
  split
  · exact ⟨rfl, rfl⟩
  · split <;> exact ⟨rfl, rfl⟩

/-! ## Ticks and other events -/

theorem beforeLock (b : Bool) : ∃ u, (s.updateGpuResetStatus.firstRun b).countCall c = u ∧ u.sm = s.sm ∧
    u.gpuState = s.gpuState ∧ u.i2cResetRequired = s.i2cResetRequired ∧ u.occOwnsLock = s.occOwnsLock ∧
    u.gpuFirstRun = false ∧ u.gpu = s.updateGpuResetStatus.gpu ∧
    (u.monitoringAllowed = s.monitoringAllowed ∨ s.gpuFirstRun = true) := by
  have hfirst : (s.updateGpuResetStatus.firstRun b).sm = s.sm ∧ (s.updateGpuResetStatus.firstRun b).gpuState = s.gpuState ∧
      (s.updateGpuResetStatus.firstRun b).i2cResetRequired = s.i2cResetRequired ∧
      (s.updateGpuResetStatus.firstRun b).occOwnsLock = s.occOwnsLock ∧
      (s.updateGpuResetStatus.firstRun b).gpuFirstRun = false ∧
      (s.updateGpuResetStatus.firstRun b).gpu = s.updateGpuResetStatus.gpu ∧
      ((s.updateGpuResetStatus.firstRun b).monitoringAllowed = s.monitoringAllowed ∨ s.gpuFirstRun = true) := by
    unfold GpuSm.firstRun
    split
    · rename_i hrun
      cases b <;> exact ⟨rfl, rfl, rfl, rfl, rfl, rfl, .inr hrun⟩
    · rename_i hrun
      exact ⟨rfl, rfl, rfl, rfl, Bool.eq_false_iff.2 hrun, rfl, .inl rfl⟩
  refine ⟨_, rfl, ?_⟩
  generalize s.updateGpuResetStatus.firstRun b = u at hfirst ⊢
  unfold GpuSm.countCall
  split
  · exact hfirst
  · split <;> exact hfirst

/-- The task begins with a reset or waits for the lock only where no limit is being set. -/
theorem SetBetween.beginTick {j : TickInput} (h : SetBetween s) (hm : s.monitoringAllowed = true) :
    SetIn (s.beginTick c j) ∧ ((s.beginTick c j).monitoringAllowed = false → ((s.beginTick c j).sm .setPwrLimit).stage = 0) ∧
      ((s.beginTick c j).gpuState = .op .setPwrLimit ↔ s.gpuState = .op .setPwrLimit) := by
  obtain ⟨u, hu, hsm, hstate, hi2c, howns, hfirst, -, hmon⟩ := @beforeLock c s j.ipcInit
  have hstop : u.monitoringAllowed = false → (u.sm .setPwrLimit).stage = 0 := by
    intro hno
    obtain hsame | hrun := hmon
    · exact absurd (hm.symm.trans (hsame.symm.trans hno)) (by decide)
    · rw [hsm]
      exact h.firstRun hrun
  unfold GpuSm.beginTick
  rw [hu]
  unfold GpuSm.askForLock
  split
  · rename_i hask
    have hne : s.gpuState ≠ .op .setPwrLimit := by
      intro hop
      obtain hno | hno := hask
      · obtain hs | hs := h.owns (howns.symm.trans hno) <;> exact absurd (hs.symm.trans hop) nofun
      · exact absurd ((hstate.symm.trans hno).symm.trans hop) nofun
    have hstage : (u.sm .setPwrLimit).stage = 0 := by
      rw [hsm]
      exact h.fresh hne
    refine ⟨⟨fun _ => hstage, hi2c.trans h.i2cReset, fun ho => ?_, hfirst⟩, fun _ => hstage, fun hop => ?_,
      fun hop => absurd hop hne⟩
    · dsimp only at ho ⊢
      rw [ho]
      rfl
    · dsimp only at hop
      split at hop <;> cases hop
  · rename_i hask
    refine ⟨⟨fun hne => ?_, hi2c.trans h.i2cReset, fun ho => absurd (.inl ho) hask, hfirst⟩, hstop, ?_⟩
    · rw [hsm]
      exact h.fresh (hstate ▸ hne)
    · rw [hstate]

theorem beginTick_gpu {j : TickInput} (g : Fin 3) : (s.beginTick c j).gpu g = (s.gpu g).updateResetStatus (s.occFlags g) := by
  obtain ⟨u, hu, -, -, -, -, -, hgpu, -⟩ := @beforeLock c s j.ipcInit
  have hask : ((u.askForLock j.lockBegin).gpu) = u.gpu := by
    unfold GpuSm.askForLock
    split <;> rfl
  unfold GpuSm.beginTick
  rw [hu, hask, hgpu]
  rfl

theorem PcapInv.beginTick {j : TickInput} (h : PcapInv c x) (hin : SetBetween x.sm) (hm : x.sm.monitoringAllowed = true) :
    PcapInv c (x.beginTick c j) := by
  obtain ⟨hsm, -, -⟩ := @beginTick_frame .core c x.sm j
  obtain ⟨-, -, hstate⟩ := hin.beginTick (c := c) (j := j) hm
  refine ⟨?_, h.tracks.trans hstate.symm, fun a ha => ?_, fun g => ?_⟩
  · show SetBound c ((x.sm.beginTick c j).sm .setPwrLimit)
    rw [hsm]
    exact h.bound
  · show AttemptInv c ((x.sm.beginTick c j).sm .setPwrLimit) a
    rw [hsm]
    exact h.attempt a ha
  · show ((x.sm.beginTick c j).sm .setPwrLimit).failureCount g ≤ x.row g
    rw [hsm]
    exact h.count g

/-- What holds between two events. -/
structure PcapBetween (c : Config) (x : PcapRun) : Prop where
  inv : PcapInv c x
  between : SetBetween x.sm

theorem PcapBetween.tick {j : TickInput} (h : PcapBetween c x) : PcapLaw c x (.tick j) ∧ PcapBetween c (x.tick c j) := by
  cases hm : x.sm.monitoringAllowed with
  | false =>
    unfold PcapRun.tick
    rw [if_neg (by rw [hm]; decide)]
    exact ⟨fun h => absurd (hm.symm.trans h) (by decide), h⟩
  | true =>
    have hbegin := h.inv.beginTick (j := j) h.between hm
    obtain ⟨hin, hstop, -⟩ := h.between.beginTick (c := c) (j := j) hm
    obtain ⟨hturn₁, hinv₁⟩ := hbegin.pass (i := j.pass1) hin hstop
    obtain ⟨hin₁, hagain⟩ := hin.pass (c := c) (i := j.pass1) hstop
    obtain ⟨hsm₁, hsnd⟩ := @pcapPass_sm c (x.beginTick c j) j.pass1
    have hin₁ : SetIn ((x.beginTick c j).pass c j.pass1).1.sm := by
      rw [hsm₁]
      exact hin₁
    have hstop₁ : ((x.beginTick c j).pass c j.pass1).2 = true → (((x.beginTick c j).pass c j.pass1).1.sm.sm .setPwrLimit).stage = 0 := by
      rw [hsm₁, hsnd]
      exact hagain
    have hsecond := fun hp => hinv₁.pass (i := j.pass2) hin₁ fun _ => hstop₁ hp
    refine ⟨fun _ => ⟨fun g => ?_, hturn₁, fun hp => (hsecond hp).1⟩, ?_⟩
    · show (x.sm.gpu g).KeepsPcap ((x.sm.beginTick c j).gpu g)
      rw [beginTick_gpu]
      exact keepsPcap_updateResetStatus _
    · unfold PcapRun.tick
      rw [if_pos hm]
      dsimp only
      split
      · rename_i hp
        obtain ⟨hin₂, -⟩ := hin₁.pass (c := c) (i := j.pass2) fun _ => hstop₁ hp
        refine ⟨(hsecond hp).2, ?_⟩
        rw [pcapPass_sm.1]
        exact hin₂.between
      · exact ⟨hinv₁, hin₁.between⟩

theorem PcapBetween.other (h : PcapBetween c x) (hsm : t.sm = x.sm.sm) (hstate : t.gpuState = x.sm.gpuState)
    (hi2c : t.i2cResetRequired = x.sm.i2cResetRequired) (howns : t.occOwnsLock = x.sm.occOwnsLock)
    (hfirst : t.gpuFirstRun = x.sm.gpuFirstRun) : PcapBetween c { x with sm := t } := by
  refine ⟨⟨?_, ?_, fun a ha => ?_, ?_⟩, ⟨?_, hi2c.trans h.between.i2cReset, ?_, ?_⟩⟩ <;> dsimp only
  · rw [hsm]
    exact h.inv.bound
  · rw [hstate]
    exact h.inv.tracks
  · rw [hsm]
    exact h.inv.attempt a ha
  · rw [hsm]
    exact h.inv.count
  · rw [hsm, hstate]
    exact h.between.fresh
  · rw [howns, hstate]
    exact h.between.owns
  · rw [hsm, hfirst]
    exact h.between.firstRun

theorem PcapBetween.next {e : Event} {z : PcapRun} (h : PcapBetween c x) (hn : x.next c e = some z) : PcapBetween c z := by
  cases e with
  | tick j =>
    cases hn
    exact h.tick.2
  | opal g b =>
    cases hn
    exact h.other rfl rfl rfl rfl rfl
  | gpeDone rc data =>
    obtain ⟨t, ht, rfl⟩ := Option.map_eq_some_iff.1 hn
    unfold Gpu.next at ht
    dsimp only at ht
    split at ht
    · cases ht
    · cases ht
      exact h.other rfl rfl rfl rfl rfl
  | desired g mw =>
    cases hn
    exact h.other rfl rfl rfl rfl rfl
  | allowMonitoring =>
    cases hn
    exact h.other rfl rfl rfl rfl rfl

theorem PcapBetween.law (h : PcapBetween c x) (e : Event) : PcapLaw c x e := by
  cases e with
  | tick j => exact h.tick.1
  | opal g b =>
    rintro t ⟨⟩ g'
    exact .refl _
  | gpeDone rc data =>
    intro t ht g
    unfold Gpu.next at ht
    dsimp only at ht
    split at ht
    · cases ht
    · cases ht
      exact .refl _
  | desired g mw =>
    rintro t ⟨⟩ g'
    dsimp only
    by_cases hg : g' = g
    · rw [hg, Function.update_self]
      exact .of_eq rfl rfl
    · rw [Function.update_of_ne hg]
      exact .refl _
  | allowMonitoring =>
    rintro t ⟨⟩ g
    exact .refl _

theorem boot_pcapBetween (occFlags : Fin 3 → Bool) : PcapBetween c (.boot occFlags) where
  inv := ⟨⟨Nat.zero_le _, fun h => absurd rfl h, Nat.zero_le _⟩, ⟨nofun, nofun⟩, nofun, fun _ => Nat.le_refl _⟩
  between := ⟨fun _ => rfl, rfl, fun _ => .inl rfl, fun _ => rfl⟩

end Law

/-! ## Runs -/

theorem pcapNext_sm {c : Config} {x z : PcapRun} {e : Event} (hn : x.next c e = some z) : Gpu.next c x.sm e = some z.sm := by
  cases e with
  | tick i =>
    cases hn
    unfold PcapRun.tick Gpu.next GpuSm.taskGpuSm
    dsimp only
    obtain ⟨hsm₁, hsnd⟩ : ((x.beginTick c i).pass c i.pass1).1.sm = ((x.sm.beginTick c i).pass c i.pass1).1 ∧
        ((x.beginTick c i).pass c i.pass1).2 = ((x.sm.beginTick c i).pass c i.pass1).2 := pcapPass_sm
    split
    · rw [hsnd]
      split
      · rw [pcapPass_sm.1, hsm₁]
      · rw [hsm₁]
    · rfl
  | opal g b =>
    cases hn
    rfl
  | gpeDone rc data =>
    obtain ⟨t, ht, rfl⟩ := Option.map_eq_some_iff.1 hn
    exact ht
  | desired g mw =>
    cases hn
    rfl
  | allowMonitoring =>
    cases hn
    rfl

/-- In every run from the start, every event obeys the law of the limits. -/
theorem pcapLaw_run (c : Config) {occFlags : Fin 3 → Bool} {es : List Event} {z : PcapRun}
    (h : Run (StepOf (PcapRun.next c)) (.boot occFlags) es z) (e : Event) : PcapLaw c z e :=
  (h.invariant (P := PcapBetween c) (fun _ _ _ hx hn => hx.next hn) (boot_pcapBetween occFlags)).law e

/-- The GPE succeeds with 201, and the task runs. -/
def answered201 : List Event := [succeeds 201, freeTick]

/-- The reset of the bus, a core temperature, a driver check that finds the driver loaded, the power limits, and an attempt
to set the limit of 201 mW: AMEC wants 300 mW meanwhile, and the next attempt has begun. -/
def setLimitRun : List Event :=
  .allowMonitoring :: freeTick :: (List.replicate 3 answered201).flatten ++ freeTick ::
    (List.replicate 25 answered201).flatten ++ .desired 0 201 :: (List.replicate 15 answered201).flatten ++
    .desired 0 300 :: answered201

theorem pcapLaw_run_set : ∃ z, Run (StepOf (PcapRun.next loneGpu)) (.boot fun _ => false) setLimitRun z ∧
    (z.sm.gpu 0).gpuRequestedPcapMw = 201 ∧ PcapLaw loneGpu z freeTick := by
  have hset : (exec (PcapRun.next loneGpu) (.boot fun _ => false) setLimitRun).map
      (fun z => (z.sm.gpu 0).gpuRequestedPcapMw) = some 201 := by
    decide +kernel
  obtain ⟨z, hz, hset⟩ := Option.map_eq_some_iff.1 hset
  have hrun := exec_eq_some_iff.1 hz
  exact ⟨z, hrun, hset, pcapLaw_run loneGpu hrun freeTick⟩

def freePass : PassInput := ⟨true, true, true⟩

/-- The driver changes: the requested limit goes from 201 to 0, which no attempt has asked for. -/
theorem clears_unasked : ∃ z,
    exec (PcapRun.next loneGpu) (.boot fun _ => false) (setLimitRun ++ [.gpeDone gpeRcGpuDriverChange fun _ => 201]) = some z ∧
    ((z.beginTick loneGpu ⟨true, true, freePass, freePass⟩).sm.gpu 0).gpuRequestedPcapMw = 201 ∧
    (((z.beginTick loneGpu ⟨true, true, freePass, freePass⟩).sm.pass loneGpu freePass).1.gpu 0).gpuRequestedPcapMw = 0 ∧
    ¬Earned loneGpu (z.beginTick loneGpu ⟨true, true, freePass, freePass⟩) freePass 0 := by
  have hclears : (exec (PcapRun.next loneGpu) (.boot fun _ => false)
      (setLimitRun ++ [.gpeDone gpeRcGpuDriverChange fun _ => 201])).map (fun z =>
        (((z.beginTick loneGpu ⟨true, true, freePass, freePass⟩).sm.gpu 0).gpuRequestedPcapMw,
        (((z.beginTick loneGpu ⟨true, true, freePass, freePass⟩).sm.pass loneGpu freePass).1.gpu 0).gpuRequestedPcapMw,
        (z.beginTick loneGpu ⟨true, true, freePass, freePass⟩).sm.checkMonitoring.opReqArgs.data 0)) = some (201, 0, 201) := by
    decide +kernel
  obtain ⟨z, hz, hclears⟩ := Option.map_eq_some_iff.1 hclears
  obtain ⟨hbefore, hafter⟩ := Prod.mk.inj hclears
  obtain ⟨hafter, hdata⟩ := Prod.mk.inj hafter
  refine ⟨z, hz, hbefore, hafter, ?_⟩
  rintro ⟨a, -, -, -, -, hvalue⟩
  rw [hafter, hdata] at hvalue
  exact absurd hvalue (by decide)

end Occ.Gpu
