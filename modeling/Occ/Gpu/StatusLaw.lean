/-
What is known of the GPUs over a whole run: it stays consistent, and the result of an operation never sets a flag that a
change of the GPU's reset status has cleared since the operation began. The task looks at the reset status at the start of
each call, but an operation that is under way goes on and its result is taken.
-/
import Occ.Gpu.Flags
import Occ.Lib.Literals

namespace Occ.Gpu

open Transition
open Function (update)

attribute [local instance] neZero_three

/-! ## The law and when it holds -/

structure GpuLaw (s : GpuSm) : Prop where
  consistent : ∀ g, (s.gpu g).Consistent
  notLate : s.watch.lateSet = false

/-- A call of the state machine sets the flag of the GPU. -/
def GpuSm.Sets (c : Config) (s : GpuSm) (g : Fin 3) (f : Flag) : Prop :=
  s.requestIdle = true ∧
    match s.gpuState with
    | .reset => s.resetGivesUp ∧ f = .disabled
    | .op o => g = s.currentGpuId ∧
        ((o.SeesDriverChange (s.sm o) s.opReqArgs.rc ∧ f = .checkDriverLoaded) ∨
          (o.IsGivenUp c.gpuTimeout (s.sm o) s.opReqArgs.rc ∧
            o.GiveUpSets c (s.sm o).attempts ((s.sm o).failureCount s.currentGpuId) s.opReqArgs.rc s.current f) ∨
          (o.IsComplete (s.sm o) s.opReqArgs.rc ∧ o.CompleteSets s.opReqArgs.data s.current f))
    | _ => False

/-- The task does not take a result that sets a flag which has been cleared since the operation began. -/
def ResultsOk (c : Config) (s : GpuSm) : Event → Prop
  | .tick i => s.monitoringAllowed = true →
      ∀ g f, (s.beginTick c i).checkMonitoring.cleared g f → ¬(s.beginTick c i).checkMonitoring.Sets c g f
  | _ => True

/-! ## A call of a state machine -/

section Machine

variable {c : Config} {s t : GpuSm} {g : Fin 3} {f : Flag} {o : Op} {ok : Bool}

theorem gpu_setCurrent {x : AmecGpu} : (s.setCurrent x).gpu g = if g = s.currentGpuId then x else s.gpu g := by
  by_cases hg : g = s.currentGpuId
  · rw [if_pos hg, hg]
    exact Function.update_self _ _ _
  · rw [if_neg hg]
    exact Function.update_of_ne hg _ _

theorem flag_setCurrent {x : AmecGpu} {P : Prop} (hf : (s.gpu g).flag f = false)
    (hx : g = s.currentGpuId → (x.flag f = true ↔ P)) : ((s.setCurrent x).gpu g).flag f = true ↔ g = s.currentGpuId ∧ P := by
  rw [gpu_setCurrent]
  by_cases hg : g = s.currentGpuId
  · rw [if_pos hg, hx hg]
    simp [hg]
  · rw [if_neg hg, hf]
    simp [hg]

theorem flag_markGpuFailed : (s.markGpuFailed.gpu g).flag f = (s.gpu g).flag f := by
  obtain ⟨n, b, hmark⟩ := GpuSm.markGpuFailed_cases s
  rw [hmark]
  simp only
  by_cases hg : g = s.opReqArgs.gpuId
  · rw [hg, Function.update_self, flag_countFailure]
  · rw [Function.update_of_ne hg]

theorem flag_giveUp (hf : (s.gpu g).flag f = false) : ((s.giveUp c o).gpu g).flag f = true ↔ g = s.currentGpuId ∧
    o.GiveUpSets c (s.sm o).attempts ((s.sm o).failureCount s.currentGpuId) s.opReqArgs.rc s.current f := by
  cases o with
  | readTemp =>
    show (s.markGpuFailed.gpu g).flag f = true ↔ _
    rw [flag_markGpuFailed, hf]
    simp [Op.GiveUpSets]
  | readMemoryTemp =>
    refine flag_setCurrent hf fun hg => flag_memoryTempGiveUp ?_
    rw [GpuSm.current, ← hg, hf]
  | checkMemTempCapable =>
    refine flag_setCurrent hf fun hg => flag_countedGiveUp ?_ nofun nofun
    rw [GpuSm.current, ← hg, hf]
  | checkDriverLoaded =>
    refine flag_setCurrent hf fun hg => flag_countedGiveUp ?_ nofun nofun
    rw [GpuSm.current, ← hg, hf]
  | readPwrLimit =>
    refine flag_setCurrent hf fun hg => flag_countedGiveUp ?_ nofun nofun
    rw [GpuSm.current, ← hg, hf]
  | setPwrLimit =>
    refine flag_setCurrent hf fun hg => flag_countedGiveUp ?_ nofun nofun
    rw [GpuSm.current, ← hg, hf]

/-- The end of a look at the last stage, on the GPUs and on the stage. -/
inductive Outcome (c : Config) (s : GpuSm) (o : Op) : GpuSm → Bool → Prop
  | driverChange (h : o.SeesDriverChange (s.sm o) s.opReqArgs.rc) : Outcome c s o (s.driverChange o) true
  | giveUp (h : o.IsGivenUp c.gpuTimeout (s.sm o) s.opReqArgs.rc) : Outcome c s o (s.giveUp c o) true
  | complete (h : o.IsComplete (s.sm o) s.opReqArgs.rc) (k : Sm) (hk : k.stage = 0) :
      Outcome c s o ((s.setCurrent (o.finish s.opReqArgs.data s.current)).setSm o k) true
  | other (hd : ¬o.SeesDriverChange (s.sm o) s.opReqArgs.rc) (hg : ¬o.IsGivenUp c.gpuTimeout (s.sm o) s.opReqArgs.rc)
      (hc : ¬o.IsComplete (s.sm o) s.opReqArgs.rc) (t : GpuSm) (done : Bool) (hgpu : t.gpu = s.gpu)
      (hk : (t.sm o).stage ≤ o.requests) : Outcome c s o t done

@[simp] theorem setSm_sm_self {k : Sm} : (s.setSm o k).sm o = k := Function.update_self _ _ _

@[simp] theorem prepare_stage {k : Sm} : (o.prepare k).stage = k.stage := by
  unfold Op.prepare
  split <;> rfl

theorem runOp_outcome (c : Config) (ok : Bool) (hidle : s.requestIdle = true) (hk : (s.sm o).stage ≤ o.requests) :
    Outcome c s o (s.runOp c ok o).1 (s.runOp c ok o).2 := by
  unfold GpuSm.runOp
  rw [if_pos hidle]
  have hlooks := advance_looks c.gpuTimeout s.opReqArgs.rc hk
  generalize hadv : o.advance c.gpuTimeout (s.sm o) s.opReqArgs.rc = adv at hlooks
  cases hlooks with
  | driverChange h => exact .driverChange h
  | giveUp h => exact .giveUp h
  | complete h k hk =>
    simp only [GpuSm.process]
    rw [if_pos hk]
    exact .complete h _ rfl
  | moveOn hd hg hc k =>
    refine .other hd hg hc _ _ rfl ?_
    rw [setSm_sm_self, GpuSm.advance_moveOn hadv]
    exact Nat.zero_le _
  | send hd hg hc k hk =>
    simp only [GpuSm.process]
    rw [if_neg (by omega), if_pos hk]
    refine .other hd hg hc _ _ GpuSm.scheduleGpuReq_gpu ?_
    simp only [setSm_sm_self, prepare_stage]
    exact hk.2

theorem gpuResetSm_gpu (hidle : s.requestIdle = true) :
    (s.gpuResetSm ok).1.gpu = if s.resetGivesUp then fun g => { s.gpu g with disabled := true } else s.gpu := by
  have hsend (u : GpuSm) (r : ResetSm) : (u.processReset ok r).1.gpu = u.gpu := by
    unfold GpuSm.processReset
    simp only
    split
    · exact GpuSm.scheduleGpuReq_gpu
    · split
      · exact GpuSm.scheduleGpuReq_gpu
      · split
        · exact GpuSm.scheduleGpuReq_gpu
        · split
          · rfl
          · split
            · exact GpuSm.scheduleGpuReq_gpu
            · split <;> rfl
  unfold GpuSm.gpuResetSm
  rw [if_pos hidle]
  by_cases hnew : s.reset.stage = resetStateNew
  · have hfailed : ¬s.begins.resetFailed := fun h => h.1 hnew
    have hgives : ¬s.resetGivesUp := fun h => h.1.1 hnew
    simp only [if_pos hnew, if_neg hfailed, if_neg hgives]
    exact hsend _ _
  · simp only [if_neg hnew]
    by_cases hfailed : s.resetFailed
    · rw [if_pos hfailed]
      split
      · rename_i hrc
        rw [if_pos ⟨hfailed, .inl hrc⟩]
        rfl
      · rename_i hrc
        split
        · rename_i hretry
          rw [if_neg (fun h => h.2.elim hrc fun h => absurd hretry (by omega))]
          exact hsend _ _
        · rename_i hretry
          split
          · rename_i hmax
            rw [if_pos ⟨hfailed, .inr ⟨by omega, hmax⟩⟩]
            rfl
          · rename_i hmax
            rw [if_neg (fun h => h.2.elim hrc fun h => hmax h.2)]
            exact hsend _ _
    · rw [if_neg hfailed, if_neg fun h => hfailed h.1]
      exact hsend _ _

theorem machine_of_busy (hbusy : s.requestIdle = false) : s.machine c ok = (s, false) := by
  unfold GpuSm.machine
  split
  · exact if_neg (by rw [hbusy]; decide)
  · exact if_neg (by rw [hbusy]; decide)
  · rfl

/-- A flag that is off is set by exactly the calls of the table. -/
theorem flag_machine (hk : ∀ o, (s.sm o).stage ≤ o.requests) (hf : (s.gpu g).flag f = false) :
    ((s.machine c ok).1.gpu g).flag f = true ↔ s.Sets c g f := by
  unfold GpuSm.Sets
  cases hidle : s.requestIdle with
  | false =>
    rw [machine_of_busy hidle]
    simp [hf]
  | true =>
    unfold GpuSm.machine
    cases s.gpuState with
    | reset =>
      simp only [gpuResetSm_gpu hidle, true_and]
      split
      · rename_i hgives
        cases f <;> simp_all [AmecGpu.flag]
      · rename_i hgives
        simp [hf, hgives]
    | idle => simp [hf]
    | noLock => simp [hf]
    | op o =>
      simp only [true_and]
      have hout := runOp_outcome c ok hidle (hk o)
      generalize s.runOp c ok o = ran at hout
      obtain ⟨t, done⟩ := ran
      cases hout with
      | driverChange h =>
        have hg : ¬o.IsGivenUp c.gpuTimeout (s.sm o) s.opReqArgs.rc := fun h' => h'.2.2.1 h
        have hc : ¬o.IsComplete (s.sm o) s.opReqArgs.rc := fun h' => absurd (h'.2.2.1.symm.trans h.2.2) (by decide)
        refine (flag_setCurrent hf fun hg => flag_handleDriverChange ?_).trans ?_
        · rw [GpuSm.current, ← hg, hf]
        · simp [h, hg, hc]
      | giveUp h =>
        have hc : ¬o.IsComplete (s.sm o) s.opReqArgs.rc := by
          intro h'
          rcases h.2.1 with hs | hrc
          · rw [h'.2.1] at hs
            cases hs
          · exact hrc h'.2.2.1
        refine (flag_giveUp hf).trans ?_
        simp [h, h.2.2.1, hc]
      | complete h k hk =>
        have hd : ¬o.SeesDriverChange (s.sm o) s.opReqArgs.rc :=
          fun h' => absurd (h.2.2.1.symm.trans h'.2.2) (by decide)
        have hg : ¬o.IsGivenUp c.gpuTimeout (s.sm o) s.opReqArgs.rc := by
          intro h'
          rcases h'.2.1 with hs | hrc
          · rw [h.2.1] at hs
            cases hs
          · exact hrc h.2.2.1
        refine (flag_setCurrent hf fun hg => flag_finish ?_).trans ?_
        · rw [GpuSm.current, ← hg, hf]
        · simp [h, hd, hg]
      | other hd hg hc _ _ hgpu _ =>
        replace hgpu : t.gpu = s.gpu := hgpu
        simp only [hgpu, hf, hd, hg, hc, false_and, or_self, and_false, Bool.false_eq_true]

/-- When a flag of the GPU is still what the operation was chosen for, the result leaves it consistent. -/
theorem machine_consistent (hk : ∀ o, (s.sm o).stage ≤ o.requests) (h : (s.gpu g).Consistent)
    (hfits : ∀ o, s.gpuState = .op o → g = s.currentGpuId → o.Fits (s.gpu g)) :
    ((s.machine c ok).1.gpu g).Consistent := by
  cases hidle : s.requestIdle with
  | false =>
    rw [machine_of_busy hidle]
    exact h
  | true =>
    unfold GpuSm.machine
    cases hs : s.gpuState with
    | reset =>
      simp only [gpuResetSm_gpu hidle]
      split
      · exact ⟨h.memTempSupported, h.checkMemTempSupport, h.checkPwrLimit, h.pwrLimitsRead, h.driverLoaded⟩
      · exact h
    | idle => exact h
    | noLock => exact h
    | op o =>
      have hset {x : AmecGpu} (hx : g = s.currentGpuId → x.Consistent) : ((s.setCurrent x).gpu g).Consistent := by
        rw [gpu_setCurrent]
        split
        · rename_i hg
          exact hx hg
        · exact h
      have hcur (hg : g = s.currentGpuId) : s.current = s.gpu g := by rw [GpuSm.current, hg]
      have hout := runOp_outcome c ok hidle (hk o)
      simp only
      generalize s.runOp c ok o = ran at hout
      obtain ⟨t, done⟩ := ran
      cases hout with
      | driverChange _ => exact hset fun _ => handleDriverChange_consistent
      | complete _ k _ =>
        refine hset fun hg => Op.finish_consistent ?_ ?_
        · rw [hcur hg]
          exact h
        · rw [hcur hg]
          exact hfits o hs hg
      | other _ _ _ _ _ hgpu _ =>
        replace hgpu : t.gpu = s.gpu := hgpu
        simp only [hgpu]
        exact h
      | giveUp _ =>
        have hcounted (n a : Nat) : ((s.setCurrent (o.countedGiveUp c.gpuTimeout n a s.current).1).gpu g).Consistent := by
          refine hset fun hg => countedGiveUp_consistent ?_
          rw [hcur hg]
          exact h
        cases o with
        | readTemp =>
          show (s.markGpuFailed.gpu g).Consistent
          have hflag (f : Flag) : (s.markGpuFailed.gpu g).flag f = (s.gpu g).flag f := flag_markGpuFailed
          obtain ⟨h₁, h₂, h₃, h₄, h₅⟩ := h
          constructor
          · exact fun h => (hflag .driverLoaded).trans (h₁ ((hflag .memTempSupported).symm.trans h))
          · exact fun h => (hflag .driverLoaded).trans (h₂ ((hflag .checkMemTempSupport).symm.trans h))
          · exact fun h => (hflag .driverLoaded).trans (h₃ ((hflag .checkPwrLimit).symm.trans h))
          · exact fun h => (hflag .driverLoaded).trans (h₄ ((hflag .pwrLimitsRead).symm.trans h))
          · exact fun h => (hflag .readOnce).trans (h₅ ((hflag .driverLoaded).symm.trans h))
        | readMemoryTemp =>
          refine hset fun hg => memoryTempGiveUp_consistent ?_ ?_
          · rw [hcur hg]
            exact h
          · rw [hcur hg]
            exact hfits .readMemoryTemp hs hg
        | checkMemTempCapable => exact hcounted _ _
        | checkDriverLoaded => exact hcounted _ _
        | readPwrLimit => exact hcounted _ _
        | setPwrLimit => exact hcounted _ _

theorem runOp_gpu_of_goesOn (hk : (s.sm o).stage ≤ o.requests) (h : (s.runOp c ok o).2 = false) :
    (s.runOp c ok o).1.gpu = s.gpu := by
  cases hidle : s.requestIdle with
  | false =>
    unfold GpuSm.runOp
    rw [if_neg (by rw [hidle]; decide)]
  | true =>
    have hout := runOp_outcome c ok hidle hk
    generalize s.runOp c ok o = ran at hout h
    obtain ⟨t, done⟩ := ran
    cases hout with
    | driverChange _ => cases h
    | giveUp _ => cases h
    | complete _ _ _ => cases h
    | other _ _ _ _ _ hgpu _ => exact hgpu

theorem giveUp_stage : ((s.giveUp c o).sm o).stage = 0 := by
  cases o <;> simp [GpuSm.giveUp, GpuSm.setSm]

theorem driverChange_stage : ((s.driverChange o).sm o).stage = 0 := by
  simp [GpuSm.driverChange, GpuSm.setSm]

theorem machine_bounded (hk : ∀ o, (s.sm o).stage ≤ o.requests) (o : Op) : ((s.machine c ok).1.sm o).stage ≤ o.requests := by
  have hran := GpuSm.machine_ran c s ok
  by_cases hs : s.gpuState = .op o
  · cases hidle : s.requestIdle with
    | false =>
      rw [machine_of_busy hidle]
      exact hk o
    | true =>
      have hout := runOp_outcome c ok hidle (hk o)
      unfold GpuSm.machine
      rw [hs]
      simp only
      generalize s.runOp c ok o = ran at hout
      obtain ⟨t, done⟩ := ran
      cases hout with
      | driverChange _ =>
        exact driverChange_stage.trans_le (Nat.zero_le _)
      | giveUp _ =>
        exact giveUp_stage.trans_le (Nat.zero_le _)
      | complete _ k hk0 =>
        exact (congrArg Sm.stage setSm_sm_self).trans_le (hk0.trans_le (Nat.zero_le _))
      | other _ _ _ _ _ _ hk' => exact hk'
  · rw [hran.others o hs]
    exact hk o

end Machine

/-! ## Invariant -/

/-- What is known of the GPUs. -/
structure Told (s : GpuSm) : Prop where
  consistent : ∀ g, (s.gpu g).Consistent
  cleared : ∀ g f, s.cleared g f → (s.gpu g).flag f = false
  bounded : ∀ o, (s.sm o).stage ≤ o.requests
  notLate : s.watch.lateSet = false

structure StatusInv (s : GpuSm) : Prop extends Told s where
  /-- While the reset status of its GPU stays, an operation finds what it was chosen for. -/
  fits : ∀ o, s.gpuState = .op o → (∀ b, s.watch.changed s.currentGpuId b = false) → o.Fits s.current

section Steps

variable {c : Config} {s t u : GpuSm} {ok done : Bool}

theorem Told.frame (h : Told s) (hgpu : t.gpu = s.gpu) (hsm : t.sm = s.sm) (hchanged : t.watch.changed = s.watch.changed)
    (hlate : t.watch.lateSet = s.watch.lateSet) : Told t where
  consistent g := by
    rw [hgpu]
    exact h.consistent g
  cleared g f hc := by
    unfold GpuSm.cleared at hc
    rw [hchanged] at hc
    rw [hgpu]
    exact h.cleared g f hc
  bounded := by
    rw [hsm]
    exact h.bounded
  notLate := hlate.trans h.notLate

theorem StatusInv.frame (h : StatusInv s) (hgpu : t.gpu = s.gpu) (hsm : t.sm = s.sm) (hcur : t.currentGpuId = s.currentGpuId)
    (hchanged : t.watch.changed = s.watch.changed) (hlate : t.watch.lateSet = s.watch.lateSet)
    (hstate : t.gpuState = s.gpuState ∨ ∀ o, t.gpuState ≠ .op o) : StatusInv t where
  toTold := h.toTold.frame hgpu hsm hchanged hlate
  fits o ho hno := by
    rcases hstate with hs | hs
    · rw [hs] at ho
      rw [hchanged, hcur] at hno
      unfold GpuSm.current
      rw [hgpu, hcur]
      exact h.fits o ho hno
    · exact absurd ho (hs o)

/-- A change of the reset status clears what is known of the GPU, so nothing is known too much. -/
theorem StatusInv.updateGpuResetStatus (h : StatusInv s) : StatusInv s.updateGpuResetStatus where
  consistent g := by
    show ((s.gpu g).updateResetStatus (s.occFlags g)).Consistent
    have hg := h.consistent g
    unfold AmecGpu.updateResetStatus
    split
    · split <;> exact ⟨nofun, nofun, nofun, nofun, nofun⟩
    · exact hg
  cleared g f := by
    rintro ⟨b, hb, hf⟩
    show ((s.gpu g).updateResetStatus (s.occFlags g)).flag f = false
    rw [flag_updateResetStatus]
    simp only [GpuSm.updateGpuResetStatus, Bool.or_eq_true, Bool.and_eq_true, beq_iff_eq] at hb
    rcases hb with hold | ⟨rfl, hne⟩
    · rw [h.cleared g f ⟨b, hold, hf⟩]
      rfl
    · rw [hf, hne]
      simp
  fits o ho hno := by
    have hsame : ∀ b, s.watch.changed s.currentGpuId b = false ∧
        (b == s.occFlags s.currentGpuId && s.occFlags s.currentGpuId != s.current.notReset) = false :=
      fun b => Bool.or_eq_false_iff.1 (hno b)
    have hstays : s.occFlags s.currentGpuId = s.current.notReset := by
      have h₁ := (hsame (s.occFlags s.currentGpuId)).2
      simpa using h₁
    show o.Fits (s.current.updateResetStatus (s.occFlags s.currentGpuId))
    unfold AmecGpu.updateResetStatus
    rw [if_neg (by simp [hstays])]
    exact h.fits o ho fun b => (hsame b).1
  bounded := h.bounded
  notLate := h.notLate

theorem StatusInv.checkMonitoring (h : StatusInv s) : StatusInv s.checkMonitoring := by
  unfold GpuSm.checkMonitoring
  split
  · exact h
  · exact h.frame rfl rfl rfl rfl rfl (.inr nofun)

theorem StatusInv.beginTick {i : TickInput} (h : StatusInv s) : StatusInv (s.beginTick c i) := by
  have h₁ := h.updateGpuResetStatus
  have h₂ : StatusInv (s.updateGpuResetStatus.firstRun i.ipcInit) := by
    unfold GpuSm.firstRun
    split
    · split
      · exact h₁.frame rfl rfl rfl rfl rfl (.inl rfl)
      · exact h₁.frame rfl rfl rfl rfl rfl (.inl rfl)
    · exact h₁
  have h₃ : StatusInv ((s.updateGpuResetStatus.firstRun i.ipcInit).countCall c) := by
    unfold GpuSm.countCall
    split
    · exact h₂
    · split
      · exact h₂.frame rfl rfl rfl rfl rfl (.inl rfl)
      · exact h₂.frame rfl rfl rfl rfl rfl (.inl rfl)
  unfold GpuSm.beginTick GpuSm.askForLock
  split
  · refine h₃.frame rfl rfl rfl rfl rfl (.inr fun o => ?_)
    simp only
    split <;> nofun
  · exact h₃

/-! ## A turn -/

/-- No reset status has changed since the operation began. -/
def Quiet (s : GpuSm) : Prop := ∀ g b, s.watch.changed g b = false

theorem Quiet.not_cleared {g : Fin 3} {f : Flag} (h : Quiet s) : ¬s.cleared g f := by
  rintro ⟨b, hb, _⟩
  rw [h g b] at hb
  cases hb

theorem Told.choose {o : Op} {g : Fin 3} (h : Told s) (hfits : o.Fits (s.gpu g)) : StatusInv (s.choose o g) where
  consistent := h.consistent
  cleared _ _ hc := absurd hc (Quiet.not_cleared (s := s.choose o g) fun _ _ => rfl)
  bounded := h.bounded
  notLate := h.notLate
  fits p hp _ := by
    cases hp
    exact hfits

theorem Told.silent (h : Told s) (hgpu : t.gpu = s.gpu) (hsm : t.sm = s.sm) (hchanged : t.watch.changed = s.watch.changed)
    (hlate : t.watch.lateSet = s.watch.lateSet) (hs : ∀ o, t.gpuState ≠ .op o) : StatusInv t :=
  ⟨h.frame hgpu hsm hchanged hlate, fun o ho => absurd ho (hs o)⟩

/-- A call of the state machine takes no late result. -/
theorem StatusInv.machine (h : StatusInv s) (hok : ∀ g f, s.cleared g f → ¬s.Sets c g f) (ok : Bool) :
    Told (s.looksBack (s.machine c ok).1) := by
  have hran := GpuSm.machine_ran c s ok
  have hoff (g : Fin 3) (f : Flag) (hc : s.cleared g f) : ((s.machine c ok).1.gpu g).flag f = false := by
    rw [← Bool.not_eq_true, flag_machine h.bounded (h.cleared g f hc)]
    exact hok g f hc
  constructor
  · intro g
    show ((s.machine c ok).1.gpu g).Consistent
    by_cases hchanged : g = s.currentGpuId ∧ ∃ b, s.watch.changed s.currentGpuId b = true
    · obtain ⟨rfl, b, hb⟩ := hchanged
      -- nothing that depends on another flag is known after a change
      have hnot (f : Flag) (hf : f.clearedBy b = true) := hoff s.currentGpuId f ⟨b, hb, hf⟩
      have h₁ := hnot .memTempSupported rfl
      have h₂ := hnot .checkMemTempSupport rfl
      have h₃ := hnot .checkPwrLimit rfl
      have h₄ := hnot .pwrLimitsRead rfl
      have h₅ := hnot .driverLoaded rfl
      simp only [AmecGpu.flag] at h₁ h₂ h₃ h₄ h₅
      constructor <;> intro hset
      · exact absurd (h₁.symm.trans hset) (by decide)
      · exact absurd (h₂.symm.trans hset) (by decide)
      · exact absurd (h₃.symm.trans hset) (by decide)
      · exact absurd (h₄.symm.trans hset) (by decide)
      · exact absurd (h₅.symm.trans hset) (by decide)
    · refine machine_consistent h.bounded (h.consistent g) fun o ho hg => ?_
      rw [hg]
      refine h.fits o ho fun b => ?_
      by_contra hb
      exact hchanged ⟨hg, b, by simpa using hb⟩
  · rintro g f ⟨b, hb, hf⟩
    refine hoff g f ⟨b, ?_, hf⟩
    replace hb : (s.machine c ok).1.watch.changed g b = true := hb
    rcases hran.changed with hsame | ⟨_, _, hnone⟩
    · rwa [hsame] at hb
    · rw [hnone] at hb
      cases hb
  · exact machine_bounded h.bounded
  · show ((s.machine c ok).1.watch.lateSet || _) = false
    rw [hran.lateSet, h.notLate, Bool.false_or, decide_eq_false_iff_not]
    rintro ⟨g, f, hc, _, hset⟩
    rw [hoff g f hc] at hset
    cases hset

theorem getNextMemTempCapableGpu_fits {g : Fin 3} (h : s.getNextMemTempCapableGpu = some g) :
    Op.Fits .readMemoryTemp (s.gpu g) := by
  unfold GpuSm.getNextMemTempCapableGpu at h
  simp only at h
  split at h
  · cases h
  · split at h
    · rename_i hnext
      cases h
      exact hnext
    · cases h

theorem StatusInv.runState (h : StatusInv s) (hok : ∀ g f, s.cleared g f → ¬s.Sets c g f) (ok : Bool) :
    StatusInv (s.runState c ok).1 ∧
      ((s.runState c ok).2 = true → (s.runState c ok).1.gpuState = .idle ∨ Quiet (s.runState c ok).1) := by
  have htold := h.machine hok ok
  have hran := GpuSm.machine_ran c s ok
  unfold GpuSm.runState
  simp only
  cases hdone : (s.machine c ok).2 with
  | false =>
    rw [if_neg (by decide)]
    refine ⟨⟨htold, fun o ho hno => ?_⟩, nofun⟩
    have hs : s.gpuState = .op o := hran.gpuState.symm.trans ho
    have hgpu : (s.machine c ok).1.gpu = s.gpu := by
      unfold GpuSm.machine at hdone ⊢
      rw [hs] at hdone ⊢
      exact runOp_gpu_of_goesOn (h.bounded o) hdone
    have hchanged : (s.machine c ok).1.watch.changed = s.watch.changed := by
      rcases hran.changed with hsame | ⟨hreset, _, _⟩
      · exact hsame
      · rw [hs] at hreset
        cases hreset
    have hcur := hran.currentGpuId
    show o.Fits ((s.machine c ok).1.gpu (s.machine c ok).1.currentGpuId)
    rw [hgpu, hcur]
    refine h.fits o hs fun b => ?_
    rw [← hchanged, ← hcur]
    exact hno b
  | true =>
    rw [if_pos rfl]
    generalize s.looksBack (s.machine c ok).1 = t at htold
    cases hs : s.gpuState with
    | reset =>
      simp only
      unfold GpuSm.afterReset
      have htimer : Told t.startsReading := htold.frame rfl rfl rfl rfl
      simp only
      split
      · exact ⟨htimer.choose trivial, fun _ => .inr fun _ _ => rfl⟩
      · exact ⟨htimer.silent rfl rfl rfl rfl nofun, nofun⟩
    | op o =>
      simp only
      unfold GpuSm.afterOp
      split
      · split
        · exact ⟨htold.silent rfl rfl rfl rfl nofun, fun _ => .inl rfl⟩
        · exact ⟨htold.choose trivial, fun _ => .inr fun _ _ => rfl⟩
      · split
        · exact ⟨htold.silent rfl rfl rfl rfl nofun, fun _ => .inl rfl⟩
        · rename_i hnext
          exact ⟨htold.choose (getNextMemTempCapableGpu_fits hnext), fun _ => .inr fun _ _ => rfl⟩
      · exact ⟨htold.silent rfl rfl rfl rfl nofun, fun _ => .inl rfl⟩
    | idle =>
      unfold GpuSm.machine at hdone
      rw [hs] at hdone
      cases hdone
    | noLock =>
      unfold GpuSm.machine at hdone
      rw [hs] at hdone
      cases hdone

theorem Told.selects (h : Told s) (hu : GpuSm.Selects s u) : Told u where
  consistent g := by
    rcases hu.gpu g with hg | hg <;> rw [hg]
    · exact h.consistent g
    · exact (h.consistent g).callOff
  cleared g f hc := by
    have hsame : s.cleared g f := by
      unfold GpuSm.cleared at hc ⊢
      rw [hu.frame] at hc
      exact hc
    have hf := h.cleared g f hsame
    rcases hu.gpu g with hg | hg <;> rw [hg]
    · exact hf
    · cases f with
      | checkPwrLimit => rfl
      | _ => exact hf
  bounded := by
    rw [hu.frame]
    exact h.bounded
  notLate := by
    rw [hu.frame]
    exact h.notLate

theorem Told.handleIdle (h : Told s) (hidle : s.gpuState = .idle) (c : Config) (owns readTempStart memTemp : Bool) :
    StatusInv (s.gpuSmHandleIdleState c owns readTempStart memTemp).1 ∧
      ((s.gpuSmHandleIdleState c owns readTempStart memTemp).2 = true →
        Quiet (s.gpuSmHandleIdleState c owns readTempStart memTemp).1) := by
  obtain ⟨u, hu, hcases⟩ := GpuSm.gpuSmHandleIdleState_cases c s owns readTempStart memTemp
  have htold := h.selects hu
  have hustate : u.gpuState = .idle := by
    rw [hu.frame]
    exact hidle
  rcases hcases with ⟨_, g, _, heq⟩ | ⟨_, ⟨_, heq⟩ | ⟨_, ⟨o, g, hfits, -, heq⟩ | heq | heq⟩⟩ <;> rw [heq]
  · exact ⟨htold.choose trivial, fun _ _ _ => rfl⟩
  · exact ⟨htold.silent rfl rfl rfl rfl nofun, nofun⟩
  · exact ⟨htold.choose hfits, fun _ _ _ => rfl⟩
  · exact ⟨htold.silent rfl rfl rfl rfl nofun, nofun⟩
  · exact ⟨htold.silent rfl rfl rfl rfl (by rw [hustate]; nofun), nofun⟩

theorem StatusInv.endPass {i : PassInput} {start : Bool} (h : StatusInv s)
    (hquiet : start = true → s.gpuState = .idle ∨ Quiet s) :
    StatusInv (s.endPass c i start).1 ∧ ((s.endPass c i start).2 = true → Quiet (s.endPass c i start).1) := by
  unfold GpuSm.endPass
  split
  · refine ⟨h.toTold.silent rfl rfl rfl rfl fun o => ?_, nofun⟩
    simp only
    split <;> nofun
  · split
    · rename_i hidle
      have hnext := h.toTold.handleIdle hidle c i.lockIdle s.readTempStartNeeded s.memTempNeeded
      generalize s.gpuSmHandleIdleState c i.lockIdle s.readTempStartNeeded s.memTempNeeded = chosen at hnext
      obtain ⟨t, start'⟩ := chosen
      obtain ⟨hinv, hq⟩ := hnext
      cases start' with
      | false => exact ⟨hinv, nofun⟩
      | true =>
        have hq := hq rfl
        simp only
        split
        · exact ⟨hinv.frame rfl rfl rfl rfl rfl (.inl rfl), fun _ => hq⟩
        · split
          · exact ⟨hinv.frame rfl rfl rfl rfl rfl (.inl rfl), fun _ => hq⟩
          · exact ⟨hinv, fun _ => hq⟩
    · rename_i hidle
      exact ⟨h, fun hs => (hquiet hs).resolve_left hidle⟩

theorem StatusInv.pass {i : PassInput} (h : StatusInv s)
    (hok : ∀ g f, s.checkMonitoring.cleared g f → ¬s.checkMonitoring.Sets c g f) :
    StatusInv (s.pass c i).1 ∧ ((s.pass c i).2 = true → Quiet (s.pass c i).1) := by
  obtain ⟨hrun, hquiet⟩ := h.checkMonitoring.runState hok i.schedules
  exact hrun.endPass hquiet

theorem Quiet.checkMonitoring (h : Quiet s) : Quiet s.checkMonitoring := by
  unfold GpuSm.checkMonitoring
  split
  · exact h
  · exact h

/-! ## Late results stay -/

theorem endPass_lateSet {i : PassInput} {start : Bool} : (s.endPass c i start).1.watch.lateSet = s.watch.lateSet := by
  unfold GpuSm.endPass
  split
  · rfl
  · split
    · have hchosen : (s.gpuSmHandleIdleState c i.lockIdle s.readTempStartNeeded s.memTempNeeded).1.watch.lateSet =
          s.watch.lateSet := by
        obtain ⟨u, hu, hcases⟩ :=
          GpuSm.gpuSmHandleIdleState_cases c s i.lockIdle s.readTempStartNeeded s.memTempNeeded
        have hlate : u.watch.lateSet = s.watch.lateSet := (congrArg (fun v => v.watch.lateSet) hu.frame :)
        rcases hcases with ⟨_, g, _, heq⟩ | ⟨_, ⟨_, heq⟩ | ⟨_, ⟨o, g, _, _, heq⟩ | heq | heq⟩⟩ <;> rw [heq] <;> exact hlate
      generalize s.gpuSmHandleIdleState c i.lockIdle s.readTempStartNeeded s.memTempNeeded = chosen at hchosen
      obtain ⟨t, start'⟩ := chosen
      cases start' with
      | false => exact hchosen
      | true =>
        simp only
        split
        · exact hchosen
        · split <;> exact hchosen
    · rfl

theorem runState_lateSet : (s.runState c ok).1.watch.lateSet = (s.looksBack (s.machine c ok).1).watch.lateSet := by
  unfold GpuSm.runState
  simp only
  generalize s.looksBack (s.machine c ok).1 = t
  split
  · split
    · unfold GpuSm.afterReset
      simp only
      split <;> rfl
    · unfold GpuSm.afterOp
      split
      · split <;> rfl
      · split <;> rfl
      · rfl
    · rfl
  · rfl

theorem pass_lateSet {i : PassInput} (h : s.watch.lateSet = true) : (s.pass c i).1.watch.lateSet = true := by
  unfold GpuSm.pass
  simp only
  rw [endPass_lateSet, runState_lateSet]
  have hran := GpuSm.machine_ran c s.checkMonitoring i.schedules
  have hsame : s.checkMonitoring.watch.lateSet = s.watch.lateSet := by
    unfold GpuSm.checkMonitoring
    split <;> rfl
  show ((s.checkMonitoring.machine c i.schedules).1.watch.lateSet || _) = true
  rw [hran.lateSet, hsame, h, Bool.true_or]

theorem beginTick_lateSet {i : TickInput} : (s.beginTick c i).watch.lateSet = s.watch.lateSet := by
  unfold GpuSm.beginTick GpuSm.askForLock GpuSm.countCall GpuSm.firstRun
  split <;> split <;> (try split) <;> (try split) <;> (try split) <;> rfl

theorem next_lateSet {e : Event} (hn : next c s e = some t) (h : s.watch.lateSet = true) : t.watch.lateSet = true := by
  cases e with
  | tick i =>
    cases hn
    unfold GpuSm.taskGpuSm
    split
    · have hfirst := pass_lateSet (c := c) (i := i.pass1) (beginTick_lateSet (c := c) (i := i) |>.trans h)
      simp only
      split
      · exact pass_lateSet hfirst
      · exact hfirst
    · exact h
  | opal g b =>
    cases hn
    exact h
  | gpeDone rc data =>
    simp only [next] at hn
    split at hn
    · cases hn
    · cases hn
      exact h
  | desired g mw =>
    cases hn
    exact h
  | allowMonitoring =>
    cases hn
    exact h

theorem StatusInv.late {i : PassInput} (h : StatusInv s)
    (hlate : ∃ g f, s.checkMonitoring.cleared g f ∧ s.checkMonitoring.Sets c g f) : (s.pass c i).1.watch.lateSet = true := by
  obtain ⟨g, f, hc, hsets⟩ := hlate
  have hm := h.checkMonitoring
  unfold GpuSm.pass
  simp only
  rw [endPass_lateSet, runState_lateSet]
  show (_ || decide _) = true
  rw [Bool.or_eq_true, decide_eq_true_iff]
  have hoff := hm.cleared g f hc
  exact .inr ⟨g, f, hc, hoff, (flag_machine hm.bounded hoff).2 hsets⟩

theorem StatusInv.taskGpuSm {i : TickInput} (h : StatusInv s) (hok : ResultsOk c s (.tick i)) :
    StatusInv (s.taskGpuSm c i) := by
  unfold GpuSm.taskGpuSm
  split
  · rename_i hm
    obtain ⟨hfirst, hquiet⟩ := (h.beginTick (c := c) (i := i)).pass (i := i.pass1) (hok hm)
    simp only
    split
    · rename_i hstart
      -- the operation of the second turn has just been chosen
      exact (hfirst.pass fun g f hc => absurd hc (hquiet hstart).checkMonitoring.not_cleared).1
    · exact hfirst
  · exact h

theorem StatusInv.next {e : Event} (h : StatusInv s) (hok : ResultsOk c s e) (hn : next c s e = some t) : StatusInv t := by
  cases e with
  | tick i =>
    cases hn
    exact h.taskGpuSm hok
  | opal g b =>
    cases hn
    exact h.frame rfl rfl rfl rfl rfl (.inl rfl)
  | gpeDone rc data =>
    simp only [Gpu.next] at hn
    split at hn
    · cases hn
    · cases hn
      exact h.frame rfl rfl rfl rfl rfl (.inl rfl)
  | desired g mw =>
    cases hn
    have hgpu (x : Fin 3) : ∃ d, GpuSm.gpu { s with gpu := update s.gpu g { s.gpu g with gpuDesiredPcapMw := mw } } x =
        { s.gpu x with gpuDesiredPcapMw := d } := by
      by_cases hx : x = g
      · subst hx
        exact ⟨mw, Function.update_self _ _ _⟩
      · exact ⟨(s.gpu x).gpuDesiredPcapMw, Function.update_of_ne hx _ _⟩
    generalize hu : { s with gpu := update s.gpu g { s.gpu g with gpuDesiredPcapMw := mw } } = u at hgpu
    have hframe : u = { s with gpu := u.gpu } := by rw [← hu]
    rw [hframe]
    refine ⟨⟨fun x => ?_, fun x f hc => ?_, h.bounded, h.notLate⟩, fun o ho hno => ?_⟩
    · obtain ⟨d, hd⟩ := hgpu x
      obtain ⟨h₁, h₂, h₃, h₄, h₅⟩ := h.consistent x
      rw [hd]
      exact ⟨h₁, h₂, h₃, h₄, h₅⟩
    · obtain ⟨d, hd⟩ := hgpu x
      have hf := h.cleared x f hc
      rw [hd]
      cases f <;> exact hf
    · obtain ⟨d, hd⟩ := hgpu s.currentGpuId
      have hfits := h.fits o ho hno
      show o.Fits (u.gpu s.currentGpuId)
      rw [hd]
      cases o <;> exact hfits
  | allowMonitoring =>
    cases hn
    exact h.frame rfl rfl rfl rfl rfl (.inl rfl)

theorem StatusInv.next_late {e : Event} (h : StatusInv s) (hok : ¬ResultsOk c s e) (hn : Gpu.next c s e = some t) :
    t.watch.lateSet = true := by
  cases e with
  | tick i =>
    cases hn
    simp only [ResultsOk, not_forall, not_not] at hok
    obtain ⟨hm, g, f, hc, hsets⟩ := hok
    have hfirst := (h.beginTick (c := c) (i := i)).late (i := i.pass1) ⟨g, f, hc, hsets⟩
    unfold GpuSm.taskGpuSm
    rw [if_pos hm]
    simp only
    split
    · exact pass_lateSet hfirst
    · exact hfirst
  | opal g b => exact absurd trivial hok
  | gpeDone rc data => exact absurd trivial hok
  | desired g mw => exact absurd trivial hok
  | allowMonitoring => exact absurd trivial hok

end Steps

/-! ## Runs -/

section Runs

variable {c : Config} {s s₀ : GpuSm} {es : List Event}

theorem boot_statusInv (occFlags : Fin 3 → Bool) : StatusInv (GpuSm.boot occFlags) where
  consistent _ := ⟨nofun, nofun, nofun, nofun, nofun⟩
  cleared := by
    rintro g f ⟨b, hb, _⟩
    cases hb
  fits := nofun
  bounded _ := Nat.zero_le _
  notLate := rfl

theorem run_lateSet (h : Run (StepOf (next c)) s₀ es s) (hlate : s₀.watch.lateSet = true) : s.watch.lateSet = true :=
  h.invariant (P := fun s => s.watch.lateSet = true) (fun _ _ _ hs hstep => next_lateSet hstep hs) hlate

theorem guarded_of_gpuLaw (h : Run (StepOf (next c)) s₀ es s) (h₀ : StatusInv s₀) (hlaw : GpuLaw s) :
    Run (Guarded (ResultsOk c) (StepOf (next c))) s₀ es s := by
  induction h with
  | nil s => exact .nil s
  | cons hstep hrun ih =>
    rename_i s t u e es
    by_cases hok : ResultsOk c s e
    · exact .cons ⟨hok, hstep⟩ (ih (h₀.next hok hstep) hlaw)
    · have hlate := run_lateSet hrun (h₀.next_late hok hstep)
      rw [hlaw.notLate] at hlate
      cases hlate

/-- The law holds in exactly the states that are reached without taking a late result. -/
theorem gpuLaw_iff {occFlags : Fin 3 → Bool} (h : Run (StepOf (next c)) (GpuSm.boot occFlags) es s) :
    GpuLaw s ↔ Run (Guarded (ResultsOk c) (StepOf (next c))) (GpuSm.boot occFlags) es s := by
  constructor
  · exact guarded_of_gpuLaw h (boot_statusInv occFlags)
  · intro hok
    have hinv : StatusInv s :=
      hok.invariant (fun _ _ _ hs hstep => StatusInv.next hs hstep.1 hstep.2) (boot_statusInv occFlags)
    exact ⟨hinv.consistent, hinv.notLate⟩

end Runs

/-! ### A GPU that is put out of reset during a driver check -/

/-- Only the first GPU is present. -/
def loneGpu : Config := ⟨fun g => g == 0, 3, false, 10, 1000⟩

/-- The lock is there, and the GPE takes the requests. -/
def freeTick : Event := .tick ⟨true, true, ⟨true, true, true⟩, ⟨true, true, true⟩⟩

/-- The GPE succeeds with `x`. -/
def succeeds (x : BitVec 64) : Event := .gpeDone gpeRcSuccess fun _ => x

/-- The reset of the bus, a core temperature, and the four stages of a driver check that finds the driver loaded. -/
def driverCheckRun : List Event :=
  [.allowMonitoring, freeTick, succeeds 0, freeTick, succeeds 0, freeTick, succeeds 0, freeTick, freeTick, succeeds 0, freeTick,
    succeeds 0, freeTick, succeeds 0x30, freeTick, succeeds 0, freeTick, succeeds 0, freeTick, succeeds 0, freeTick, succeeds 1]

/-- OPAL takes the GPU out of reset before the last call. Its result is taken all the same: the driver counts as loaded in a
GPU that has not been read once. -/
theorem gpuLaw_fails : ¬∀ s,
    Run (StepOf (next loneGpu)) (GpuSm.boot fun _ => false) (driverCheckRun ++ [.opal 0 true, freeTick]) s → GpuLaw s := by
  intro h
  have hflags : (exec (next loneGpu) (GpuSm.boot fun _ => false) (driverCheckRun ++ [.opal 0 true, freeTick])).map
      (fun s => ((s.gpu 0).driverLoaded, (s.gpu 0).readOnce, s.watch.lateSet)) = some (true, false, true) := by
    decide +kernel
  obtain ⟨s, hs, hset⟩ := Option.map_eq_some_iff.1 hflags
  have hlaw := h s (exec_eq_some_iff.1 hs)
  have hread := (hlaw.consistent 0).driverLoaded (congrArg Prod.fst hset :)
  rw [show (s.gpu 0).readOnce = false from congrArg (fun x => x.2.1) hset] at hread
  cases hread

theorem gpuLaw_iff_driverCheck : ∃ s, Run (StepOf (next loneGpu)) (GpuSm.boot fun _ => false) (driverCheckRun ++ [freeTick]) s ∧
    (s.gpu 0).driverLoaded = true ∧ (GpuLaw s ↔ Run (Guarded (ResultsOk loneGpu) (StepOf (next loneGpu)))
      (GpuSm.boot fun _ => false) (driverCheckRun ++ [freeTick]) s) := by
  have hloaded : (exec (next loneGpu) (GpuSm.boot fun _ => false) (driverCheckRun ++ [freeTick])).map
      (fun s => (s.gpu 0).driverLoaded) = some true := by
    decide +kernel
  obtain ⟨s, hs, hset⟩ := Option.map_eq_some_iff.1 hloaded
  have hrun := exec_eq_some_iff.1 hs
  exact ⟨s, hrun, hset, gpuLaw_iff hrun⟩

end Occ.Gpu
