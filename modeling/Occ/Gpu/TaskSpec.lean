/-
What each part of the GPU task can do: a request that is sent, a call of a state machine, the choice of the next operation
and a turn of the loop, each with all that it leaves alone.
-/
import Occ.Gpu.Task

namespace Occ.Gpu

open Function (update)

namespace GpuSm

variable {c : Config} {s t : GpuSm} {ok done : Bool} {o : Op} {k : Sm} {r : ResetSm} {t' : Sm}

/-! ## Requests -/

/-- A call of `schedule_gpu_req`: what was written and sent, and what became of the lock. -/
structure Sends (s t : GpuSm) (done : Bool) : Prop where
  frame : t = { s with
    opReqArgs := t.opReqArgs, newReqArgs := t.newReqArgs, requestIdle := t.requestIdle, reset := t.reset, sm := t.sm
    monitoringAllowed := t.monitoringAllowed, watch := { s.watch with held := t.watch.held, requests := t.watch.requests } }
  requests : t.watch.requests = s.watch.requests ∨
    (s.requestIdle = true ∧ done = false ∧ ∃ ok, t.watch.requests = ⟨s.watch.held, true, ok⟩ :: s.watch.requests)
  lock : (t.monitoringAllowed = s.monitoringAllowed ∧ t.watch.held = s.watch.held) ∨
    (t.monitoringAllowed = false ∧ t.watch.held = false ∧ done = false)

theorem scheduleGpuReq_sends (s : GpuSm) (ok : Bool) (args : Fin 3 → BitVec 64) (r : ResetSm) (sm : Op → Sm) :
    Sends s { ({ s with newReqArgs := args }.scheduleGpuReq ok).1 with reset := r, sm := sm } false := by
  unfold scheduleGpuReq
  cases hidle : s.requestIdle with
  | false =>
    rw [if_neg (by simp)]
    exact ⟨by simp only, .inl rfl, .inl ⟨rfl, rfl⟩⟩
  | true =>
    rw [if_pos rfl]
    cases ok with
    | true => exact ⟨rfl, .inr ⟨hidle, rfl, true, rfl⟩, .inl ⟨rfl, rfl⟩⟩
    | false => exact ⟨rfl, .inr ⟨hidle, rfl, false, rfl⟩, .inr ⟨rfl, rfl, rfl⟩⟩

@[simp] theorem scheduleGpuReq_sm : (s.scheduleGpuReq ok).1.sm = s.sm := by
  unfold scheduleGpuReq
  cases s.requestIdle <;> cases ok <;> rfl

@[simp] theorem scheduleGpuReq_reset : (s.scheduleGpuReq ok).1.reset = s.reset := by
  unfold scheduleGpuReq
  cases s.requestIdle <;> cases ok <;> rfl

@[simp] theorem scheduleGpuReq_gpu : (s.scheduleGpuReq ok).1.gpu = s.gpu := by
  unfold scheduleGpuReq
  cases s.requestIdle <;> cases ok <;> rfl

theorem sends_self (s : GpuSm) (done : Bool) (r : ResetSm) (sm : Op → Sm) : Sends s { s with reset := r, sm := sm } done :=
  ⟨rfl, .inl rfl, .inl ⟨rfl, rfl⟩⟩

/-! ## Calls of a state machine -/

/-- A call of the state machine that the task is in: only its own data, the request and what it knows of the GPUs change,
and it is at its start again when it is done. -/
structure Ran (s t : GpuSm) (done : Bool) : Prop where
  frame : t = { s with
    gpu := t.gpu, i2cResetRequired := t.i2cResetRequired, opReqArgs := t.opReqArgs, newReqArgs := t.newReqArgs
    requestIdle := t.requestIdle, reset := t.reset, sm := t.sm, monitoringAllowed := t.monitoringAllowed
    watch := { s.watch with held := t.watch.held, requests := t.watch.requests, changed := t.watch.changed } }
  requests : t.watch.requests = s.watch.requests ∨
    (s.requestIdle = true ∧ done = false ∧ ∃ ok, t.watch.requests = ⟨s.watch.held, true, ok⟩ :: s.watch.requests)
  lock : (t.monitoringAllowed = s.monitoringAllowed ∧ t.watch.held = s.watch.held) ∨
    (t.monitoringAllowed = false ∧ t.watch.held = false ∧ done = false)
  changed : t.watch.changed = s.watch.changed ∨
    (s.gpuState = .reset ∧ s.reset.stage = resetStateNew ∧ t.watch.changed = fun _ _ => false)
  i2cReset : t.i2cResetRequired = s.i2cResetRequired ∨ done = true
  others : ∀ o, s.gpuState ≠ .op o → t.sm o = s.sm o
  otherReset : s.gpuState ≠ .reset → t.reset = s.reset
  fresh : done = true → (∀ o, s.gpuState = .op o → (t.sm o).stage = 0) ∧ (s.gpuState = .reset → t.reset.stage = resetStateNew)

namespace Ran

theorem gpuState (h : Ran s t done) : t.gpuState = s.gpuState :=
  (congrArg GpuSm.gpuState h.frame :)

theorem currentGpuId (h : Ran s t done) : t.currentGpuId = s.currentGpuId :=
  (congrArg GpuSm.currentGpuId h.frame :)

theorem occOwnsLock (h : Ran s t done) : t.occOwnsLock = s.occOwnsLock :=
  (congrArg GpuSm.occOwnsLock h.frame :)

theorem gpuFirstRun (h : Ran s t done) : t.gpuFirstRun = s.gpuFirstRun :=
  (congrArg GpuSm.gpuFirstRun h.frame :)

theorem lateSet (h : Ran s t done) : t.watch.lateSet = s.watch.lateSet :=
  (congrArg (fun u => u.watch.lateSet) h.frame :)

theorem refl (s : GpuSm) : Ran s s false where
  frame := rfl
  requests := .inl rfl
  lock := .inl ⟨rfl, rfl⟩
  changed := .inl rfl
  i2cReset := .inl rfl
  others _ _ := rfl
  otherReset _ := rfl
  fresh := nofun

theorem ofDone (hstate : s.gpuState = .op o) (hstage : k.stage = 0) (gpu : Fin 3 → AmecGpu) (i2cReset : Bool) :
    Ran s { s with gpu := gpu, i2cResetRequired := i2cReset, sm := update s.sm o k } true where
  frame := rfl
  requests := .inl rfl
  lock := .inl ⟨rfl, rfl⟩
  changed := .inl rfl
  i2cReset := .inr rfl
  others p hp := Function.update_of_ne (fun h : p = o => hp (by rw [h, hstate])) _ _
  otherReset _ := rfl
  fresh _ := by
    constructor
    · intro p hp
      obtain rfl : o = p := GpuState.op.inj (hstate.symm.trans hp)
      show (update s.sm o k o).stage = 0
      rw [Function.update_self, hstage]
    · intro hreset
      rw [hreset] at hstate
      cases hstate

theorem ofSendsOp (hstate : s.gpuState = .op o) (h : Sends s t false) (hsm : ∀ p, p ≠ o → t.sm p = s.sm p)
    (hreset : t.reset = s.reset) : Ran s t false where
  frame := by
    have hf := h.frame
    rw [hf]
  requests := h.requests
  lock := h.lock
  changed := .inl (congrArg (fun u => u.watch.changed) h.frame :)
  i2cReset := .inl (congrArg GpuSm.i2cResetRequired h.frame :)
  others p hp := hsm p fun he => hp (he ▸ hstate)
  otherReset _ := hreset
  fresh := nofun

theorem ofReset (hstate : s.gpuState = .reset) (h : Sends s t done) (hsm : t.sm = s.sm)
    (hdone : done = true → t.reset.stage = resetStateNew) : Ran s t done where
  frame := by
    have hf := h.frame
    rw [hf]
  requests := h.requests
  lock := h.lock
  changed := .inl (congrArg (fun u => u.watch.changed) h.frame :)
  i2cReset := .inl (congrArg GpuSm.i2cResetRequired h.frame :)
  others _ _ := by rw [hsm]
  otherReset hne := absurd hstate hne
  fresh h := by
    constructor
    · intro p hp
      rw [hstate] at hp
      cases hp
    · intro _
      exact hdone h

end Ran

theorem advance_moveOn {gpuTimeout rc : Nat} (h : o.advance gpuTimeout k rc = .moveOn t') : t'.stage = 0 := by
  unfold Op.advance at h
  split at h
  · split at h
    · cases h
    · split at h
      · cases h
      · split at h
        · cases h
        · split at h <;> cases h
  · split at h
    · cases h
      rfl
    · cases h

theorem process_ran (hstate : s.gpuState = .op o) : Ran s (s.process ok o k).1 (s.process ok o k).2 := by
  unfold process
  split
  · exact .ofDone hstate rfl _ _
  · split
    · refine .ofSendsOp hstate (scheduleGpuReq_sends s ok _ _ _) (fun p hp => ?_) ?_
      · exact (Function.update_of_ne hp _ _).trans (congrFun scheduleGpuReq_sm p)
      · exact scheduleGpuReq_reset
    · exact .ofDone hstate rfl _ _

theorem markGpuFailed_cases (s : GpuSm) : ∃ retryCount i2cReset, s.markGpuFailed = { s with
    gpu := update s.gpu s.opReqArgs.gpuId { (s.gpu s.opReqArgs.gpuId).countFailure with retryCount := retryCount }
    i2cResetRequired := i2cReset } := by
  unfold markGpuFailed
  simp only
  split
  · exact ⟨0, true, rfl⟩
  · exact ⟨(s.gpu s.opReqArgs.gpuId).countFailure.retryCount, s.i2cResetRequired, rfl⟩

theorem giveUp_ran (hstate : s.gpuState = .op o) : Ran s (s.giveUp c o) true := by
  unfold giveUp
  split
  · obtain ⟨_, _, hmark⟩ := markGpuFailed_cases s
    rw [hmark]
    exact .ofDone hstate rfl _ _
  · exact .ofDone hstate rfl _ _
  · exact .ofDone hstate rfl _ _

theorem runOp_ran (hstate : s.gpuState = .op o) : Ran s (s.runOp c ok o).1 (s.runOp c ok o).2 := by
  unfold runOp
  split
  · split
    · exact .ofDone hstate rfl _ _
    · exact giveUp_ran hstate
    · rename_i hmove
      exact .ofDone hstate (advance_moveOn hmove) _ _
    · exact process_ran hstate
  · exact .refl s

theorem processReset_ran (hstate : s.gpuState = .reset) : Ran s (s.processReset ok r).1 (s.processReset ok r).2 := by
  have hsend (args : Fin 3 → BitVec 64) :
      Ran s (({ s with newReqArgs := args }.scheduleGpuReq ok).1.setReset
        { r with scheduled := ({ s with newReqArgs := args }.scheduleGpuReq ok).2 }) false :=
    .ofReset hstate (scheduleGpuReq_sends s ok _ _ _) scheduleGpuReq_sm nofun
  unfold processReset
  simp only
  split
  · exact hsend s.newReqArgs
  · split
    · exact hsend _
    · split
      · exact hsend _
      · split
        · exact .ofReset hstate (sends_self s _ _ s.sm) rfl nofun
        · split
          · exact hsend _
          · split
            · exact .ofReset hstate (sends_self s _ _ s.sm) rfl fun _ => rfl
            · exact .ofReset hstate (sends_self s _ _ s.sm) rfl nofun

/-- What `disable_all_gpus` leaves of a reset. -/
theorem disableAllGpus_ran (hstate : s.gpuState = .reset) : Ran s (s.disableAllGpus.setReset r) false where
  frame := rfl
  requests := .inl rfl
  lock := .inr ⟨rfl, rfl, rfl⟩
  changed := .inl rfl
  i2cReset := .inl rfl
  others _ _ := rfl
  otherReset hne := absurd hstate hne
  fresh := nofun

theorem Ran.ofBegins (hstate : s.gpuState = .reset) (hnew : s.reset.stage = resetStateNew) (h : Ran s.begins t done) :
    Ran s t done where
  frame := h.frame
  requests := h.requests
  lock := h.lock
  changed := by
    refine .inr ⟨hstate, hnew, ?_⟩
    rcases h.changed with h | ⟨_, _, h⟩
    · exact h
    · exact h
  i2cReset := h.i2cReset
  others := h.others
  otherReset := h.otherReset
  fresh := h.fresh

theorem gpuResetSm_ran (hstate : s.gpuState = .reset) : Ran s (s.gpuResetSm ok).1 (s.gpuResetSm ok).2 := by
  unfold gpuResetSm
  split
  · by_cases hnew : s.reset.stage = resetStateNew
    · have hfailed : ¬s.begins.resetFailed := fun h => h.1 hnew
      simp only [if_pos hnew, if_neg hfailed]
      exact .ofBegins hstate hnew (processReset_ran hstate)
    · simp only [if_neg hnew]
      split
      · split
        · exact disableAllGpus_ran hstate
        · split
          · exact processReset_ran hstate
          · split
            · exact disableAllGpus_ran hstate
            · exact processReset_ran hstate
      · exact processReset_ran hstate
  · exact .refl s

theorem machine_ran (c : Config) (s : GpuSm) (ok : Bool) : Ran s (s.machine c ok).1 (s.machine c ok).2 := by
  unfold machine
  split
  · rename_i hstate
    exact gpuResetSm_ran hstate
  · rename_i hstate
    exact runOp_ran hstate
  · exact .refl s

end GpuSm

/-! ## The choice of an operation -/

/-- What an operation takes for granted of the GPU it is chosen for. -/
def Op.Fits (o : Op) (g : AmecGpu) : Prop :=
  match o with
  | .readMemoryTemp => g.memTempSupported = true
  | .checkDriverLoaded => g.readOnce = true
  | .checkMemTempCapable | .readPwrLimit => g.driverLoaded = true
  | .readTemp | .setPwrLimit => True

namespace GpuSm

variable {c : Config} {s t u : GpuSm} {owns : Bool} {o : Op} {g : Fin 3}

/-- The selections move their cursors, call off the reading of power limits and ask for the lock. -/
structure Selects (s u : GpuSm) : Prop where
  frame : u = { s with
    gpu := u.gpu, driverCheckCursor := u.driverCheckCursor, memCapCursor := u.memCapCursor
    pwrLimitsCursor := u.pwrLimitsCursor, setPwrLimitCursor := u.setPwrLimitCursor
    watch := { s.watch with held := u.watch.held } }
  gpu : ∀ g, u.gpu g = s.gpu g ∨ u.gpu g = { s.gpu g with checkPwrLimit := false }

theorem Selects.trans (h : Selects s t) (h' : Selects t u) : Selects s u where
  frame := by
    have hf := h'.frame
    rw [h.frame] at hf
    exact hf
  gpu g := by
    rcases h.gpu g with hg | hg <;> rcases h'.gpu g with hg' | hg' <;> rw [hg', hg]
    · exact .inl rfl
    · exact .inr rfl
    · exact .inr rfl
    · exact .inr rfl

theorem select_some {needed : Fin 3 → Bool} {cursor : Option (Fin 3)} (h : (select needed cursor).1 = some g) :
    needed g = true := by
  unfold select at h
  split at h
  · cases h
  · split at h
    · cases h
    · rename_i hfind
      cases h
      have hfound := List.find?_some hfind
      rw [Bool.and_eq_true] at hfound
      exact hfound.2

theorem gpuIdNeedSetPowerLimit_selects (s : GpuSm) :
    Selects s s.gpuIdNeedSetPowerLimit.2 ∧ s.gpuIdNeedSetPowerLimit.2.watch = s.watch ∧
      ∀ g, s.gpuIdNeedSetPowerLimit.1 = some g → (s.gpuIdNeedSetPowerLimit.2.gpu g).gpuDesiredPcapMw ≠
        (s.gpuIdNeedSetPowerLimit.2.gpu g).gpuRequestedPcapMw := by
  refine ⟨⟨rfl, fun _ => .inl rfl⟩, rfl, fun g hg => ?_⟩
  have hneeded := select_some hg
  simp only [Bool.and_eq_true] at hneeded
  exact bne_iff_ne.1 hneeded.2

theorem gpuIdNeedDriverCheck_selects (c : Config) (s : GpuSm) :
    Selects s (s.gpuIdNeedDriverCheck c).2 ∧ (s.gpuIdNeedDriverCheck c).2.watch = s.watch ∧
      ∀ g, (s.gpuIdNeedDriverCheck c).1 = some g → Op.Fits .checkDriverLoaded ((s.gpuIdNeedDriverCheck c).2.gpu g) := by
  refine ⟨⟨rfl, fun _ => .inl rfl⟩, rfl, fun g hg => ?_⟩
  have hneeded := select_some hg
  simp only [Bool.and_eq_true] at hneeded
  exact hneeded.1.2

theorem gpuIdNeedMemoryTempCapabilityCheck_selects (s : GpuSm) :
    Selects s s.gpuIdNeedMemoryTempCapabilityCheck.2 ∧ s.gpuIdNeedMemoryTempCapabilityCheck.2.watch = s.watch ∧
      ∀ g, s.gpuIdNeedMemoryTempCapabilityCheck.1 = some g →
        Op.Fits .checkMemTempCapable (s.gpuIdNeedMemoryTempCapabilityCheck.2.gpu g) := by
  refine ⟨⟨rfl, fun _ => .inl rfl⟩, rfl, fun g hg => ?_⟩
  have hneeded := select_some hg
  simp only [Bool.and_eq_true] at hneeded
  exact hneeded.1.2

theorem gpuIdNeedPowerLimits_selects (c : Config) (s : GpuSm) :
    Selects s (s.gpuIdNeedPowerLimits c).2 ∧ (s.gpuIdNeedPowerLimits c).2.watch = s.watch ∧
      ∀ g, (s.gpuIdNeedPowerLimits c).1 = some g → Op.Fits .readPwrLimit ((s.gpuIdNeedPowerLimits c).2.gpu g) := by
  unfold gpuIdNeedPowerLimits
  split
  · exact ⟨⟨rfl, fun _ => .inl rfl⟩, rfl, nofun⟩
  · split
    · refine ⟨⟨rfl, fun g => ?_⟩, rfl, nofun⟩
      simp only
      split
      · exact .inr rfl
      · exact .inl rfl
    · refine ⟨⟨rfl, fun _ => .inl rfl⟩, rfl, fun g hg => ?_⟩
      have hneeded := select_some hg
      simp only [needsPwrLimits, Bool.and_eq_true] at hneeded
      exact hneeded.1

theorem firstOf_some {ok : Fin 3 → Bool} (h : firstOf ok = some g) : ok g = true := List.find?_some h

/-- The reading of temperatures starts with the first GPU, and a power limit is set that is not the requested one. -/
def StartsAt (c : Config) (u : GpuSm) (o : Op) (g : Fin 3) : Prop :=
  match o with
  | .readTemp => u.getFirstGpu c = some g
  | .readMemoryTemp => u.getFirstMemTempCapableGpu = some g
  | .setPwrLimit => (u.gpu g).gpuDesiredPcapMw ≠ (u.gpu g).gpuRequestedPcapMw
  | _ => True

/-- How the choice ends: setting a power limit comes before the lock is asked for, all the rest after it. -/
theorem gpuSmHandleIdleState_cases (c : Config) (s : GpuSm) (owns readTempStart memTemp : Bool) :
    ∃ u, Selects s u ∧
      ((u.watch.held = s.watch.held ∧
          ∃ g, StartsAt c u .setPwrLimit g ∧ s.gpuSmHandleIdleState c owns readTempStart memTemp = (u.choose .setPwrLimit g, true)) ∨
        (u.watch.held = owns ∧
          ((owns = false ∧ s.gpuSmHandleIdleState c owns readTempStart memTemp = ({ u with gpuState := .noLock }, false)) ∨
            (owns = true ∧
              ((∃ o g, o.Fits (u.gpu g) ∧ StartsAt c u o g ∧
                  s.gpuSmHandleIdleState c owns readTempStart memTemp = (u.choose o g, true)) ∨
                s.gpuSmHandleIdleState c owns readTempStart memTemp = (u.noGpu, false) ∨
                s.gpuSmHandleIdleState c owns readTempStart memTemp = (u, false)))))) := by
  obtain ⟨h₁, hw₁, hneed₁⟩ := gpuIdNeedSetPowerLimit_selects s
  unfold gpuSmHandleIdleState
  rcases hset : s.gpuIdNeedSetPowerLimit with ⟨_ | g, s₁⟩ <;> rw [hset] at h₁ hw₁ hneed₁ <;> simp only at h₁ hw₁ hneed₁ ⊢
  swap
  · exact ⟨s₁, h₁, .inl ⟨by rw [hw₁], g, hneed₁ g rfl, rfl⟩⟩
  have h₂ : Selects s (s₁.checkAndUpdateI2cLock owns) := h₁.trans ⟨rfl, fun _ => .inl rfl⟩
  generalize hu : s₁.checkAndUpdateI2cLock owns = u at h₂
  have hheld : u.watch.held = owns := by rw [← hu]; rfl
  cases owns with
  | false => exact ⟨u, h₂, .inr ⟨hheld, .inl ⟨rfl, if_pos rfl⟩⟩⟩
  | true =>
    rw [if_neg (by decide)]
    cases readTempStart with
    | true =>
      rw [if_pos rfl]
      cases hfirst : u.getFirstGpu c with
      | some g => exact ⟨u, h₂, .inr ⟨hheld, .inr ⟨rfl, .inl ⟨.readTemp, g, trivial, hfirst, rfl⟩⟩⟩⟩
      | none => exact ⟨u, h₂, .inr ⟨hheld, .inr ⟨rfl, .inr (.inl rfl)⟩⟩⟩
    | false =>
      rw [if_neg (by decide)]
      obtain ⟨h₃, hw₃, hfits₃⟩ := gpuIdNeedDriverCheck_selects c u
      rcases hdriver : u.gpuIdNeedDriverCheck c with ⟨_ | g, v⟩ <;> rw [hdriver] at h₃ hw₃ hfits₃ <;> simp only at h₃ hw₃ hfits₃ ⊢
      swap
      · exact ⟨v, h₂.trans h₃, .inr ⟨by rw [hw₃, hheld], .inr ⟨trivial, .inl ⟨.checkDriverLoaded, g, hfits₃ g rfl, trivial, rfl⟩⟩⟩⟩
      obtain ⟨h₄, hw₄, hfits₄⟩ := gpuIdNeedPowerLimits_selects c v
      rcases hlimits : v.gpuIdNeedPowerLimits c with ⟨_ | g, w⟩ <;> rw [hlimits] at h₄ hw₄ hfits₄ <;> simp only at h₄ hw₄ hfits₄ ⊢
      swap
      · exact ⟨w, (h₂.trans h₃).trans h₄, .inr ⟨by rw [hw₄, hw₃, hheld],
          .inr ⟨trivial, .inl ⟨.readPwrLimit, g, hfits₄ g rfl, trivial, rfl⟩⟩⟩⟩
      have h₅ := (h₂.trans h₃).trans h₄
      cases memTemp with
      | false => exact ⟨w, h₅, .inr ⟨by rw [hw₄, hw₃, hheld], .inr ⟨trivial, .inr (.inr rfl)⟩⟩⟩
      | true =>
        rw [if_pos rfl]
        obtain ⟨h₆, hw₆, hfits₆⟩ := gpuIdNeedMemoryTempCapabilityCheck_selects w
        rcases hcap : w.gpuIdNeedMemoryTempCapabilityCheck with ⟨_ | g, x⟩ <;> rw [hcap] at h₆ hw₆ hfits₆ <;>
          simp only at h₆ hw₆ hfits₆ ⊢
        swap
        · exact ⟨x, h₅.trans h₆, .inr ⟨by rw [hw₆, hw₄, hw₃, hheld],
            .inr ⟨trivial, .inl ⟨.checkMemTempCapable, g, hfits₆ g rfl, trivial, rfl⟩⟩⟩⟩
        refine ⟨x, h₅.trans h₆, .inr ⟨by rw [hw₆, hw₄, hw₃, hheld], .inr ⟨trivial, ?_⟩⟩⟩
        cases hfirst : x.getFirstMemTempCapableGpu with
        | none => exact .inr (.inr rfl)
        | some g =>
          have hok := firstOf_some hfirst
          simp only [memTempCapable, Bool.and_eq_true] at hok
          exact .inl ⟨.readMemoryTemp, g, hok.2, hfirst, rfl⟩

end GpuSm

end Occ.Gpu
