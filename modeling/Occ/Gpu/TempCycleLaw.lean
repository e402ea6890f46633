/-
When the temperature cycles of the GPU task are complete: a cycle ends too early when the GPU just read and all lower ones
cannot be read any more, for the next one is then the first one; it goes on reading the same GPU when none can be read.
-/
import Occ.Gpu.TempCycle
import Occ.Lib.Literals

namespace Occ.Gpu

open Occ Transition
open Function (update)

attribute [local instance] neZero_three

/-! ## A cycle begins with the first GPU -/

section Begins

variable {c : Config} {s t : GpuSm} {m : TempKind} {i : PassInput} {ok : Bool}

/-- In the state of the cycle, the task is with the first GPU that can be read. -/
def AtFirst (c : Config) (m : TempKind) (t : GpuSm) : Prop :=
  t.gpuState = .op m.op → GpuSm.firstOf (t.readable c m) = some t.currentGpuId

theorem choose_atFirst {o : Op} {g : Fin 3} (h : GpuSm.StartsAt c s o g) : AtFirst c m (s.choose o g) := by
  intro ht
  have ho : o = m.op := GpuState.op.inj ht
  cases m with
  | core =>
    rw [ho] at h
    exact h
  | memory =>
    rw [ho] at h
    exact h

theorem handleIdle_atFirst (hidle : s.gpuState = .idle) (owns readTempStart memTemp : Bool) :
    AtFirst c m (s.gpuSmHandleIdleState c owns readTempStart memTemp).1 := by
  obtain ⟨u, hu, hcases⟩ := GpuSm.gpuSmHandleIdleState_cases c s owns readTempStart memTemp
  have hustate : u.gpuState = .idle := by
    rw [hu.frame]
    exact hidle
  obtain ⟨-, g, hstart, heq⟩ | ⟨-, ⟨-, heq⟩ | ⟨-, ⟨o, g, -, hstart, heq⟩ | heq | heq⟩⟩ := hcases
  · rw [heq]
    exact choose_atFirst hstart
  · rw [heq]
    exact nofun
  · rw [heq]
    exact choose_atFirst hstart
  · rw [heq]
    exact nofun
  · rw [heq]
    intro ht
    rw [hustate] at ht
    cases ht

theorem endPass_atFirst {start : Bool} (hne : s.gpuState ≠ .op m.op) : AtFirst c m (s.endPass c i start).1 := by
  unfold GpuSm.endPass
  split
  · intro ht
    dsimp only at ht
    split at ht <;> cases ht
  · split
    · rename_i hidle
      have hfirst := @handleIdle_atFirst c s m hidle i.lockIdle s.readTempStartNeeded s.memTempNeeded
      generalize s.gpuSmHandleIdleState c i.lockIdle s.readTempStartNeeded s.memTempNeeded = chosen at hfirst
      obtain ⟨t, start'⟩ := chosen
      cases start' with
      | false => exact hfirst
      | true =>
        dsimp only
        split
        · cases m <;> exact hfirst
        · split
          · cases m <;> exact hfirst
          · exact hfirst
    · exact fun ht => absurd ht hne

theorem endPass_of_op {o : Op} {start : Bool} (hop : s.gpuState = .op o) (hreset : s.i2cResetRequired = false) :
    s.endPass c i start = (s, start) := by
  unfold GpuSm.endPass
  rw [if_neg (by rw [hreset]; decide), if_neg (by rw [hop]; exact nofun)]

theorem endPass_of_reset {start : Bool} (hreset : s.i2cResetRequired = true) : (s.endPass c i start).1.gpuState ≠ .op m.op := by
  unfold GpuSm.endPass
  rw [if_pos hreset]
  dsimp only
  split <;> exact nofun

theorem afterReset_atFirst : AtFirst c m (s.afterReset c).1 := by
  unfold GpuSm.afterReset
  dsimp only
  split
  · rename_i g hfirst
    exact choose_atFirst hfirst
  · exact nofun

theorem afterOp_ne {o : Op} (hne : o ≠ m.op) (hs : s.gpuState = .op o) : (s.afterOp c o).gpuState ≠ .op m.op := by
  unfold GpuSm.afterOp
  split
  · split
    · exact nofun
    · exact fun h => hne (GpuState.op.inj h)
  · split
    · exact nofun
    · exact fun h => hne (GpuState.op.inj h)
  · exact nofun

theorem runState_atFirst (hne : s.gpuState ≠ .op m.op) : AtFirst c m (s.runState c ok).1 := by
  have hran := GpuSm.machine_ran c s ok
  have hstate := hran.gpuState
  unfold GpuSm.runState
  dsimp only
  split
  · split
    · exact afterReset_atFirst
    · rename_i o ho
      exact fun ht => absurd ht (afterOp_ne (fun he => hne (he ▸ ho)) (hstate.trans ho))
    · exact fun ht => absurd (hstate.symm.trans ht) hne
  · exact fun ht => absurd (hstate.symm.trans ht) hne

theorem pass_atFirst (hne : s.checkMonitoring.gpuState ≠ .op m.op) : AtFirst c m (s.pass c i).1 := by
  have hrun := @runState_atFirst c s.checkMonitoring m i.schedules hne
  unfold GpuSm.pass
  dsimp only
  by_cases hop : (s.checkMonitoring.runState c i.schedules).1.gpuState = .op m.op
  · cases hreset : (s.checkMonitoring.runState c i.schedules).1.i2cResetRequired with
    | true => exact fun ht => absurd ht (endPass_of_reset hreset)
    | false =>
      rw [endPass_of_op hop hreset]
      exact hrun
  · exact endPass_atFirst hop

end Begins

/-! ## The looks of a read -/

section Looks

variable {c : Config} {s : GpuSm} {m : TempKind} {k k' : Sm} {ok : Bool}

/-- The looks that have led to where the state machine is. -/
def Sm.used (k : Sm) : Nat := if k.stage = 0 then 0 else (maxGpuReadAttempt + 2) * (k.stage - 1) + k.failures + 1

/-- The stages of a read are bounded, and so are the failures of a stage. -/
structure ReadBound (m : TempKind) (k : Sm) : Prop where
  stage : k.stage ≤ m.op.requests
  failures : k.stage ≠ 0 → k.failures ≤ maxGpuReadAttempt + 1

theorem ReadBound.used_le (h : ReadBound m k) : k.used + 1 ≤ m.looksOfRead := by
  unfold Sm.used TempKind.looksOfRead
  by_cases hzero : k.stage = 0
  · rw [if_pos hzero]
    omega
  · rw [if_neg hzero]
    have hfailures := h.failures hzero
    have hstages : (maxGpuReadAttempt + 2) * (k.stage - 1) + (maxGpuReadAttempt + 2) ≤ (maxGpuReadAttempt + 2) * m.op.requests := by
      rw [← Nat.mul_succ]
      exact Nat.mul_le_mul_left _ (by have := h.stage; omega)
    omega

/-- A look that goes on. -/
theorem advance_go (hk : ReadBound m k) {gpuTimeout rc : Nat} (h : m.op.advance gpuTimeout k rc = .go k') :
    k.used + 1 ≤ k'.used ∧ k'.stage ≠ 0 ∧ k'.failures ≤ maxGpuReadAttempt + 1 := by
  have hrepeats : m.op.repeatsFrom k.stage = none := by cases m <;> rfl
  have hbusy : m.op.busyAt k.stage = none := by cases m <;> rfl
  have hmoves : m.op.movesOnAt k.stage = false := by cases m <;> rfl
  unfold Op.advance at h
  rw [hrepeats, hbusy, hmoves] at h
  simp only [ite_self, Bool.false_eq_true, false_and, if_false] at h
  split_ifs at h with hfail hdriver hgives
  · cases h
    have hle : ¬k.failures > maxGpuReadAttempt := fun hgt => hgives (.inl hgt)
    unfold Sm.used
    dsimp only
    rw [if_neg hfail.1, if_neg hfail.1]
    exact ⟨by omega, hfail.1, by omega⟩
  · cases h
    refine ⟨?_, Nat.succ_ne_zero _, Nat.zero_le _⟩
    unfold Sm.used
    dsimp only
    rw [if_neg (Nat.succ_ne_zero k.stage)]
    by_cases hzero : k.stage = 0
    · rw [if_pos hzero]
      omega
    · rw [if_neg hzero]
      have hfailures := hk.failures hzero
      have hstep : (maxGpuReadAttempt + 2) * (k.stage + 1 - 1) =
          (maxGpuReadAttempt + 2) * (k.stage - 1) + (maxGpuReadAttempt + 2) := by
        rw [← Nat.mul_succ]
        congr 1
        omega
      omega

theorem advance_not_moveOn {gpuTimeout rc : Nat} : m.op.advance gpuTimeout k rc ≠ .moveOn k' := by
  have hrepeats : m.op.repeatsFrom k.stage = none := by cases m <;> rfl
  have hbusy : m.op.busyAt k.stage = none := by cases m <;> rfl
  have hmoves : m.op.movesOnAt k.stage = false := by cases m <;> rfl
  unfold Op.advance
  rw [hrepeats, hbusy, hmoves]
  simp only [ite_self, Bool.false_eq_true, false_and, if_false]
  split_ifs <;> exact nofun

/-- A call of the state machine that is not done with the GPU has used another look. -/
theorem machine_looks (hstate : s.gpuState = .op m.op) (hk : ReadBound m (s.sm m.op)) :
    ReadBound m ((s.machine c ok).1.sm m.op) ∧ ((s.machine c ok).2 = false →
      (s.sm m.op).used + (if s.requestIdle then 1 else 0) ≤ ((s.machine c ok).1.sm m.op).used) := by
  cases hidle : s.requestIdle with
  | false =>
    rw [machine_of_busy hidle]
    exact ⟨hk, fun _ => Nat.le_refl _⟩
  | true =>
    have hmachine : s.machine c ok = s.runOp c ok m.op := by
      unfold GpuSm.machine
      rw [hstate]
    rw [hmachine]
    unfold GpuSm.runOp
    rw [if_pos hidle]
    cases hadv : m.op.advance c.gpuTimeout (s.sm m.op) s.opReqArgs.rc with
    | driverChange =>
      have hzero := @driverChange_stage s m.op
      exact ⟨⟨hzero.trans_le (Nat.zero_le _), fun hne => absurd hzero hne⟩, nofun⟩
    | giveUp =>
      have hzero := @giveUp_stage c s m.op
      exact ⟨⟨hzero.trans_le (Nat.zero_le _), fun hne => absurd hzero hne⟩, nofun⟩
    | moveOn k' => exact absurd hadv advance_not_moveOn
    | go k' =>
      obtain ⟨hused, hne, hfailures⟩ := advance_go hk hadv
      have hprepare : m.op.prepare k' = k' := by cases m <;> rfl
      dsimp only
      unfold GpuSm.process
      by_cases hlast : k'.stage = m.op.requests + 1
      · rw [if_pos hlast, setSm_sm_self]
        exact ⟨⟨Nat.zero_le _, fun hne' => absurd rfl hne'⟩, nofun⟩
      · rw [if_neg hlast]
        by_cases hsends : 1 ≤ k'.stage ∧ k'.stage ≤ m.op.requests
        · rw [if_pos hsends]
          dsimp only
          rw [setSm_sm_self, hprepare]
          exact ⟨⟨hsends.2, fun _ => hfailures⟩, fun _ => hused⟩
        · rw [if_neg hsends, setSm_sm_self]
          exact ⟨⟨Nat.zero_le _, fun hne' => absurd rfl hne'⟩, nofun⟩

end Looks

/-! ## What a turn leaves -/

section Frames

variable {c : Config} {s t : GpuSm} {m : TempKind} {i : PassInput} {start : Bool}

theorem handleIdle_sm (owns readTempStart memTemp : Bool) :
    (s.gpuSmHandleIdleState c owns readTempStart memTemp).1.sm = s.sm := by
  obtain ⟨u, hu, hcases⟩ := GpuSm.gpuSmHandleIdleState_cases c s owns readTempStart memTemp
  have husm : u.sm = s.sm := (congrArg GpuSm.sm hu.frame :)
  obtain ⟨-, g, -, heq⟩ | ⟨-, ⟨-, heq⟩ | ⟨-, ⟨o, g, -, -, heq⟩ | heq | heq⟩⟩ := hcases <;> rw [heq] <;> exact husm

theorem endPass_sm : (s.endPass c i start).1.sm = s.sm := by
  unfold GpuSm.endPass
  split
  · rfl
  · split
    · have hsm := @handleIdle_sm c s i.lockIdle s.readTempStartNeeded s.memTempNeeded
      generalize s.gpuSmHandleIdleState c i.lockIdle s.readTempStartNeeded s.memTempNeeded = chosen at hsm
      obtain ⟨t, start'⟩ := chosen
      cases start' with
      | false => exact hsm
      | true =>
        dsimp only
        split
        · exact hsm
        · split <;> exact hsm
    · rfl

theorem afterOp_sm {o : Op} : (s.afterOp c o).sm = s.sm := by
  unfold GpuSm.afterOp
  split
  · split <;> rfl
  · split <;> rfl
  · rfl

theorem afterReset_sm : (s.afterReset c).1.sm = s.sm := by
  unfold GpuSm.afterReset
  dsimp only
  split <;> rfl

theorem pass_sm : (s.pass c i).1.sm = (s.checkMonitoring.machine c i.schedules).1.sm := by
  unfold GpuSm.pass
  dsimp only
  rw [endPass_sm]
  unfold GpuSm.runState
  dsimp only
  split
  · split
    · exact afterReset_sm
    · exact afterOp_sm
    · rfl
  · rfl

theorem checkMonitoring_sm : s.checkMonitoring.sm = s.sm := by
  unfold GpuSm.checkMonitoring
  split <;> rfl

theorem checkMonitoring_currentGpuId : s.checkMonitoring.currentGpuId = s.currentGpuId := by
  unfold GpuSm.checkMonitoring
  split <;> rfl

theorem checkMonitoring_gpuState (h : s.checkMonitoring.gpuState = .op m.op) : s.gpuState = .op m.op := by
  unfold GpuSm.checkMonitoring at h
  split at h
  · exact h
  · cases h

theorem pass_bound (hk : ReadBound m (s.sm m.op)) : ReadBound m ((s.pass c i).1.sm m.op) := by
  rw [pass_sm]
  by_cases hop : s.checkMonitoring.gpuState = .op m.op
  · exact (machine_looks hop (by rw [checkMonitoring_sm]; exact hk)).1
  · rw [(GpuSm.machine_ran c s.checkMonitoring i.schedules).others m.op hop, checkMonitoring_sm]
    exact hk

/-- The turn of a read that goes on. -/
theorem pass_goesOn (hop : s.checkMonitoring.gpuState = .op m.op)
    (hran : (s.checkMonitoring.machine c i.schedules).2 = false) (ht : (s.pass c i).1.gpuState = .op m.op) :
    (s.pass c i).1.currentGpuId = s.currentGpuId := by
  have hrun : s.checkMonitoring.runState c i.schedules =
      (s.checkMonitoring.looksBack (s.checkMonitoring.machine c i.schedules).1, false) := by
    unfold GpuSm.runState
    dsimp only
    rw [hran]
    rfl
  have hmachine := GpuSm.machine_ran c s.checkMonitoring i.schedules
  unfold GpuSm.pass at ht ⊢
  rw [hrun] at ht ⊢
  dsimp only at ht ⊢
  generalize hu : s.checkMonitoring.looksBack (s.checkMonitoring.machine c i.schedules).1 = u at ht ⊢
  have hustate : u.gpuState = .op m.op := by
    rw [← hu]
    exact hmachine.gpuState.trans hop
  cases hreset : u.i2cResetRequired with
  | true => exact absurd ht (endPass_of_reset hreset)
  | false =>
    rw [endPass_of_op hustate hreset, ← hu]
    exact hmachine.currentGpuId.trans checkMonitoring_currentGpuId

theorem pass_done (hop : s.checkMonitoring.gpuState = .op m.op)
    (hran : (s.checkMonitoring.machine c i.schedules).2 = true) :
    (s.pass c i).1 = (((s.checkMonitoring.looksBack (s.checkMonitoring.machine c i.schedules).1).afterOp c m.op).endPass
      c i true).1 := by
  unfold GpuSm.pass GpuSm.runState
  dsimp only
  rw [hran, hop]
  rfl

theorem afterOp_i2cResetRequired {o : Op} : (s.afterOp c o).i2cResetRequired = s.i2cResetRequired := by
  unfold GpuSm.afterOp
  split
  · split <;> rfl
  · split <;> rfl
  · rfl

/-- Where the end of a read leads to: the next GPU, or the idle state. -/
theorem afterOp_cases (c : Config) (m : TempKind) (t : GpuSm) :
    (GpuSm.firstOf (t.readable c m) ≠ some (GpuSm.nextOf (t.readable c m) t.currentGpuId) ∧
        (m = .memory → (t.gpu (GpuSm.nextOf (t.readable c m) t.currentGpuId)).memTempSupported = true) ∧
        t.afterOp c m.op = t.choose m.op (GpuSm.nextOf (t.readable c m) t.currentGpuId)) ∨
      ((GpuSm.firstOf (t.readable c m) = some (GpuSm.nextOf (t.readable c m) t.currentGpuId) ∨
          (m = .memory ∧ (t.gpu (GpuSm.nextOf (t.readable c m) t.currentGpuId)).memTempSupported = false)) ∧
        (t.afterOp c m.op).gpuState = .idle) := by
  cases m with
  | core =>
    by_cases hfirst : GpuSm.firstOf (t.readable c .core) = some (GpuSm.nextOf (t.readable c .core) t.currentGpuId)
    · have hnext : t.getNextGpu c = none := if_pos hfirst
      refine .inr ⟨.inl hfirst, ?_⟩
      unfold GpuSm.afterOp TempKind.op
      dsimp only
      rw [hnext]
    · have hnext : t.getNextGpu c = some (GpuSm.nextOf (t.readable c .core) t.currentGpuId) := if_neg hfirst
      refine .inl ⟨hfirst, nofun, ?_⟩
      unfold GpuSm.afterOp TempKind.op
      dsimp only
      rw [hnext]
  | memory =>
    by_cases hfirst : GpuSm.firstOf (t.readable c .memory) = some (GpuSm.nextOf (t.readable c .memory) t.currentGpuId)
    · have hnext : t.getNextMemTempCapableGpu = none := if_pos hfirst
      refine .inr ⟨.inl hfirst, ?_⟩
      unfold GpuSm.afterOp TempKind.op
      dsimp only
      rw [hnext]
    · cases hsupported : (t.gpu (GpuSm.nextOf (t.readable c .memory) t.currentGpuId)).memTempSupported with
      | false =>
        have hnext : t.getNextMemTempCapableGpu = none := (if_neg hfirst).trans (if_neg (by
          show ¬(t.gpu (GpuSm.nextOf (t.readable c .memory) t.currentGpuId)).memTempSupported = true
          rw [hsupported]
          decide))
        refine .inr ⟨.inr ⟨rfl, rfl⟩, ?_⟩
        unfold GpuSm.afterOp TempKind.op
        dsimp only
        rw [hnext]
      | true =>
        have hnext : t.getNextMemTempCapableGpu = some (GpuSm.nextOf (t.readable c .memory) t.currentGpuId) :=
          (if_neg hfirst).trans (if_pos hsupported)
        refine .inl ⟨hfirst, fun _ => rfl, ?_⟩
        unfold GpuSm.afterOp TempKind.op
        dsimp only
        rw [hnext]

end Frames

/-! ## Invariant -/

/-- A cycle in progress: it has read all the GPUs up to the current one that could be read all the time. -/
structure InCycle (m : TempKind) (s : GpuSm) (y : Cycle) : Prop where
  ascending : (y.reads ++ [s.currentGpuId]).Pairwise (· < ·)
  behind : ∀ g, g ≤ s.currentGpuId → y.stays g = true → g ∈ y.reads ++ [s.currentGpuId]
  looks : y.looks ≤ m.looksOfRead * y.reads.length + (s.sm m.op).used

structure CycleInv (m : TempKind) (x : TempRun) : Prop where
  ended : ∀ y ∈ x.ended, y.reads.Pairwise (· < ·) ∧ (∀ g, y.stays g = true → g ∈ y.reads) ∧
    y.looks ≤ m.looksOfRead * y.reads.length
  tracks : x.cycle.isSome = true ↔ x.sm.gpuState = .op m.op
  bound : ReadBound m (x.sm.sm m.op)
  running : ∀ y, x.cycle = some y → InCycle m x.sm y

section Steps

variable {c : Config} {m : TempKind} {x z : TempRun} {s t : GpuSm} {y : Cycle} {i : PassInput}

theorem CycleInv.law (h : CycleInv m x) : CycleLaw m x where
  ended := h.ended
  running y hy := by
    have hin := h.running y hy
    have hlooks := hin.looks
    have hused := h.bound.used_le
    rw [Nat.mul_succ]
    exact ⟨hin.ascending, by omega⟩

theorem InCycle.sees (h : InCycle m s y) (ok : Fin 3 → Bool) (hcur : t.currentGpuId = s.currentGpuId) (hsm : t.sm = s.sm) :
    InCycle m t (y.sees ok) := by
  refine ⟨?_, fun g hg hstays => ?_, ?_⟩
  · rw [hcur]
    exact h.ascending
  · rw [hcur] at hg ⊢
    exact h.behind g hg (Bool.and_eq_true_iff.1 hstays).1
  · rw [hsm]
    exact h.looks

theorem CycleInv.begins (h : CycleInv m x) {ended : List Cycle}
    (hended : ∀ y ∈ ended, y.reads.Pairwise (· < ·) ∧ (∀ g, y.stays g = true → g ∈ y.reads) ∧
      y.looks ≤ m.looksOfRead * y.reads.length)
    (hbound : ReadBound m (t.sm m.op)) (hfirst : AtFirst c m t) : CycleInv m ⟨t, begun c m t, ended⟩ := by
  by_cases ht : t.gpuState = .op m.op
  · have hbegun : begun c m t = some ⟨[], t.readable c m, 0⟩ := if_pos ht
    rw [hbegun]
    refine ⟨hended, ⟨fun _ => ht, fun _ => rfl⟩, hbound, ?_⟩
    rintro y ⟨⟩
    refine ⟨List.pairwise_singleton _ _, fun g hg hstays => ?_, Nat.zero_le _⟩
    rw [Fin.le_antisymm hg (firstOf_le (hfirst ht) hstays)]
    exact List.mem_singleton_self _
  · have hbegun : begun c m t = none := if_neg ht
    rw [hbegun]
    exact ⟨hended, ⟨nofun, fun h => absurd h ht⟩, hbound, nofun⟩

theorem mem_le {l : List (Fin 3)} {g h : Fin 3} (hasc : (l ++ [g]).Pairwise (· < ·)) (hmem : h ∈ l ++ [g]) : h ≤ g := by
  obtain hmem | hmem := List.mem_append.1 hmem
  · exact Fin.le_of_lt ((List.pairwise_append.1 hasc).2.2 h hmem g (List.mem_singleton_self g))
  · exact Fin.le_of_eq (List.mem_singleton.1 hmem)

theorem readable_memory {g : Fin 3} (h : t.readable c .memory g = true) : (t.gpu g).memTempSupported = true :=
  (Bool.and_eq_true_iff.1 h).2

/-- What the end of a read decides. `t` is the state that the state machine has led to. -/
structure ReadEnd (c : Config) (m : TempKind) (x : TempRun) (i : PassInput) (y : Cycle) (t : GpuSm) : Prop where
  current : t.currentGpuId = x.sm.currentGpuId
  ok : PassOk c m x i ↔
    (∃ h, h ≤ t.currentGpuId ∧ t.readable c m h = true) ∨
      ((∀ h, t.currentGpuId < h → y.stays h = true → t.readable c m h = false) ∧
        ((∃ h, t.readable c m h = true) ∨ (m = .memory ∧ (t.gpu t.currentGpuId).memTempSupported = false)))
  goesOn : t.afterOp c m.op = t.choose m.op (GpuSm.nextOf (t.readable c m) t.currentGpuId) →
    ∃ n ≤ y.looks + 1, (x.pass c m i).1 =
      { x with
        sm := t.choose m.op (GpuSm.nextOf (t.readable c m) t.currentGpuId)
        cycle := some { y.sees (t.readable c m) with reads := y.reads ++ [t.currentGpuId], looks := n } }
  ends : (t.afterOp c m.op).gpuState = .idle →
    ∃ n ≤ y.looks + 1, (x.pass c m i).1 =
      { sm := (x.sm.pass c i).1, cycle := begun c m (x.sm.pass c i).1
        ended := { y.sees (t.readable c m) with reads := y.reads ++ [t.currentGpuId], looks := n } :: x.ended }

/-- The turn that ends the read of a GPU, without an I2C reset. -/
theorem readEnd (hy : x.cycle = some y) (hop : x.sm.checkMonitoring.gpuState = .op m.op)
    (hran : (x.sm.checkMonitoring.machine c i.schedules).2 = true)
    (hreset : (x.sm.checkMonitoring.looksBack (x.sm.checkMonitoring.machine c i.schedules).1).i2cResetRequired = false) :
    ReadEnd c m x i y (x.sm.checkMonitoring.looksBack (x.sm.checkMonitoring.machine c i.schedules).1) := by
  have hmachine := GpuSm.machine_ran c x.sm.checkMonitoring i.schedules
  have hdone := @pass_done c x.sm m i hop hran
  have hcurrent : (x.sm.checkMonitoring.looksBack (x.sm.checkMonitoring.machine c i.schedules).1).currentGpuId =
      x.sm.checkMonitoring.currentGpuId := hmachine.currentGpuId
  have hlooks : (if x.sm.checkMonitoring.requestIdle then y.looks + 1 else y.looks) ≤ y.looks + 1 := by
    split
    · exact Nat.le_refl _
    · exact Nat.le_succ _
  obtain ⟨p, hp⟩ : ∃ p, x.pass c m i = p := ⟨_, rfl⟩
  have hpass := hp
  unfold TempRun.pass at hpass
  dsimp only at hpass
  rw [hy] at hpass
  dsimp only at hpass
  rw [if_pos hop, if_pos hran, hreset] at hpass
  rw [if_neg (by decide), ← hcurrent] at hpass
  generalize htarget : x.sm.checkMonitoring.looksBack (x.sm.checkMonitoring.machine c i.schedules).1 = t at *
  refine ⟨hcurrent.trans checkMonitoring_currentGpuId, ?_, fun hchoose => ⟨_, hlooks, ?_⟩, fun hidle => ⟨_, hlooks, ?_⟩⟩
  · unfold PassOk
    dsimp only
    rw [htarget, ← hcurrent]
    exact ⟨fun hok => hok y hy hop hran hreset, fun hok y' hy' _ _ _ => by
      obtain rfl : y = y' := Option.some.inj (hy.symm.trans hy')
      exact hok⟩
  · have hend : ∀ g, (t.choose m.op g).endPass c i true = (t.choose m.op g, true) := fun g => endPass_of_op rfl hreset
    rw [hp, ← hpass, if_pos (by rw [hchoose]; rfl), hdone, hchoose, hend]
    rfl
  · rw [hp, ← hpass, if_neg (by rw [hidle]; exact nofun)]
    rfl

/-- The end of a read keeps the law if and only if it meets the condition. -/
theorem CycleInv.readEnd (h : CycleInv m x) (hy : x.cycle = some y) (hr : ReadEnd c m x i y t)
    (hbound : ReadBound m ((x.pass c m i).1.sm.sm m.op)) (hsm : (x.sm.pass c i).1.sm = (x.pass c m i).1.sm.sm)
    (hfirst : (t.afterOp c m.op).gpuState = .idle → AtFirst c m (x.sm.pass c i).1) :
    (PassOk c m x i ∧ CycleInv m (x.pass c m i).1) ∨ (¬PassOk c m x i ∧ ¬CycleLaw m (x.pass c m i).1) := by
  have hin := h.running y hy
  have hused := h.bound.used_le
  have hascending := hin.ascending
  have hbehind := hin.behind
  have hlooks := hin.looks
  rw [← hr.current] at hascending hbehind
  have hlen : (y.reads ++ [t.currentGpuId]).length = y.reads.length + 1 := by
    rw [List.length_append, List.length_singleton]
  have hbudget : ∀ n ≤ y.looks + 1, n ≤ m.looksOfRead * (y.reads ++ [t.currentGpuId]).length := by
    intro n hn
    rw [hlen, Nat.mul_succ]
    omega
  obtain ⟨hnotFirst, hsupported, hchoose⟩ | ⟨hend, hidle⟩ := afterOp_cases c m t
  · obtain ⟨n, hn, hpass⟩ := hr.goesOn hchoose
    rw [hr.ok]
    obtain ⟨hlt, hok, hmin, hfirstIff⟩ | ⟨-, -, hfirstOf⟩ | ⟨hnone, hsame, -⟩ :=
      scan_cases (t.readable c m) t.currentGpuId
    · refine .inl ⟨.inl ?_, ?_⟩
      · by_contra hno
        refine hnotFirst (hfirstIff.2 fun g hg => ?_)
        rw [← Bool.not_eq_true]
        exact fun htrue => hno ⟨g, hg, htrue⟩
      · rw [hpass] at hbound ⊢
        refine ⟨h.ended, ⟨fun _ => rfl, fun _ => rfl⟩, hbound, ?_⟩
        rintro y' ⟨⟩
        refine ⟨?_, fun g hg hstays => ?_, Nat.le_trans (hbudget n hn) (Nat.le_add_right _ _)⟩
        · refine List.pairwise_append.2 ⟨hascending, List.pairwise_singleton _ _, fun g hg g' hg' => ?_⟩
          rw [List.mem_singleton.1 hg']
          exact Fin.lt_of_le_of_lt (mem_le hascending hg) hlt
        · obtain ⟨hstays, hreadable⟩ := Bool.and_eq_true_iff.1 hstays
          obtain hle | hgt := Fin.le_total g t.currentGpuId
          · exact List.mem_append_left _ (hbehind g hle hstays)
          · obtain heq | hne := eq_or_ne t.currentGpuId g
            · exact List.mem_append_left _ (hbehind g (Fin.le_of_eq heq.symm) hstays)
            · have hmore := hmin g (lt_of_le_of_ne hgt hne) hreadable
              rw [Fin.le_antisymm hg hmore]
              exact List.mem_append_right _ (List.mem_singleton_self _)
    · exact absurd hfirstOf hnotFirst
    · refine .inr ⟨fun hok => ?_, fun hlaw => ?_⟩
      · obtain ⟨g, -, hg⟩ | ⟨-, ⟨g, hg⟩ | ⟨hm, hunsupported⟩⟩ := hok
        · exact absurd ((hnone g).symm.trans hg) (by decide)
        · exact absurd ((hnone g).symm.trans hg) (by decide)
        · have hs := hsupported hm
          rw [hsame, hunsupported] at hs
          cases hs
      · rw [hpass] at hlaw
        obtain ⟨hasc, -⟩ := hlaw.running _ rfl
        have hagain := (List.pairwise_append.1 hasc).2.2 t.currentGpuId (List.mem_append_right _ (List.mem_singleton_self _))
          _ (List.mem_singleton_self _)
        exact absurd (hagain.trans_eq hsame) (Nat.lt_irrefl _)
  · obtain ⟨n, hn, hpass⟩ := hr.ends hidle
    have hkeeps : (∀ g, t.currentGpuId < g → y.stays g = true → t.readable c m g = false) → CycleInv m (x.pass c m i).1 := by
      intro hno
      have hstart : ReadBound m ((x.sm.pass c i).1.sm m.op) := by
        rw [hsm]
        exact hbound
      rw [hpass]
      refine h.begins ?_ hstart (hfirst hidle)
      rintro z hz
      obtain rfl | hz := List.mem_cons.1 hz
      · refine ⟨hascending, fun g hstays => ?_, hbudget n hn⟩
        obtain ⟨hstays, hreadable⟩ := Bool.and_eq_true_iff.1 hstays
        refine hbehind g (Fin.not_lt.1 fun hlt => ?_) hstays
        exact absurd ((hno g hlt hstays).symm.trans hreadable) (by decide)
      · exact h.ended z hz
    rw [hr.ok]
    obtain ⟨hlt, hok, -, hfirstIff⟩ | ⟨hnone, hsome, -⟩ | ⟨hnone, hsame, hfirstOf⟩ :=
      scan_cases (t.readable c m) t.currentGpuId
    · -- the next GPU is a higher one: no other one up to here can be read
      have hlower : ∀ g, g ≤ t.currentGpuId → t.readable c m g = false := by
        obtain hend | ⟨rfl, hunsupported⟩ := hend
        · exact hfirstIff.1 hend
        · exact absurd ((readable_memory hok).symm.trans hunsupported) (by decide)
      by_cases hno : ∀ g, t.currentGpuId < g → y.stays g = true → t.readable c m g = false
      · exact .inl ⟨.inr ⟨hno, .inl ⟨_, hok⟩⟩, hkeeps hno⟩
      · refine .inr ⟨?_, fun hlaw => hno fun g hgt hstays => ?_⟩
        · rintro (⟨g, hle, hg⟩ | ⟨hno', -⟩)
          · exact absurd ((hlower g hle).symm.trans hg) (by decide)
          · exact hno hno'
        · rw [← Bool.not_eq_true]
          intro hreadable
          rw [hpass] at hlaw
          obtain ⟨hasc, hall, -⟩ := hlaw.ended _ List.mem_cons_self
          have hmem := hall g (Bool.and_eq_true_iff.2 ⟨hstays, hreadable⟩)
          exact absurd (mem_le hasc hmem) (Fin.not_le.2 hgt)
    · have hno : ∀ g, t.currentGpuId < g → y.stays g = true → t.readable c m g = false := fun g hgt _ => hnone g hgt
      exact .inl ⟨.inr ⟨hno, .inl hsome⟩, hkeeps hno⟩
    · have hno : ∀ g, t.currentGpuId < g → y.stays g = true → t.readable c m g = false := fun g _ _ => hnone g
      obtain hend | ⟨hm, hunsupported⟩ := hend
      · rw [hfirstOf] at hend
        cases hend
      · rw [hsame] at hunsupported
        exact .inl ⟨.inr ⟨hno, .inr ⟨hm, hunsupported⟩⟩, hkeeps hno⟩

theorem CycleInv.elsewhere (h : CycleInv m x) (hne : x.sm.checkMonitoring.gpuState ≠ .op m.op) :
    PassOk c m x i ∧ CycleInv m (x.pass c m i).1 := by
  refine ⟨fun y _ hop => absurd hop hne, ?_⟩
  have hpass : x.pass c m i = ({ x with sm := (x.sm.pass c i).1, cycle := begun c m (x.sm.pass c i).1 }, (x.sm.pass c i).2) := by
    unfold TempRun.pass
    dsimp only
    split
    · rfl
    · rw [if_neg hne]
  rw [hpass]
  exact h.begins h.ended (pass_bound h.bound) (pass_atFirst hne)

/-- A turn of a read that goes on. -/
theorem CycleInv.goesOn (h : CycleInv m x) (hy : x.cycle = some y) (hop : x.sm.checkMonitoring.gpuState = .op m.op)
    (hran : (x.sm.checkMonitoring.machine c i.schedules).2 = false) : PassOk c m x i ∧ CycleInv m (x.pass c m i).1 := by
  refine ⟨fun y _ _ hdone => absurd (hran.symm.trans hdone) (by decide), ?_⟩
  have hin := h.running y hy
  have hbound := @pass_bound c x.sm m i h.bound
  have hlooks := (@machine_looks c x.sm.checkMonitoring m i.schedules hop (by rw [checkMonitoring_sm]; exact h.bound)).2 hran
  obtain ⟨p, hp⟩ : ∃ p, x.pass c m i = p := ⟨_, rfl⟩
  have hpass := hp
  unfold TempRun.pass at hpass
  dsimp only at hpass
  rw [hy] at hpass
  dsimp only at hpass
  rw [if_pos hop, if_neg (by rw [hran]; decide)] at hpass
  rw [hp, ← hpass]
  by_cases ht : (x.sm.pass c i).1.gpuState = .op m.op
  · rw [if_pos ht]
    refine ⟨h.ended, ⟨fun _ => ht, fun _ => rfl⟩, hbound, ?_⟩
    rintro y' ⟨⟩
    have hcur := pass_goesOn hop hran ht
    refine ⟨?_, fun g hg hstays => ?_, ?_⟩
    · rw [hcur]
      exact hin.ascending
    · rw [hcur] at hg ⊢
      exact hin.behind g hg (Bool.and_eq_true_iff.1 hstays).1
    · have hbefore := hin.looks
      rw [checkMonitoring_sm] at hlooks
      rw [pass_sm]
      dsimp only [Cycle.sees]
      split
      · rw [if_pos ‹_›] at hlooks
        omega
      · rw [if_neg ‹_›] at hlooks
        omega
  · rw [if_neg ht]
    exact ⟨h.ended, ⟨nofun, fun h => absurd h ht⟩, hbound, nofun⟩

theorem CycleInv.reset (h : CycleInv m x) (hy : x.cycle = some y) (hop : x.sm.checkMonitoring.gpuState = .op m.op)
    (hran : (x.sm.checkMonitoring.machine c i.schedules).2 = true)
    (hreset : (x.sm.checkMonitoring.looksBack (x.sm.checkMonitoring.machine c i.schedules).1).i2cResetRequired = true) :
    PassOk c m x i ∧ CycleInv m (x.pass c m i).1 := by
  refine ⟨fun y _ _ _ hno => absurd (hreset.symm.trans hno) (by decide), ?_⟩
  have hne : (x.sm.pass c i).1.gpuState ≠ .op m.op := by
    rw [pass_done hop hran]
    exact endPass_of_reset (afterOp_i2cResetRequired.trans hreset)
  have hpass : (x.pass c m i).1 = { x with sm := (x.sm.pass c i).1, cycle := none } := by
    unfold TempRun.pass
    dsimp only
    rw [hy]
    dsimp only
    rw [if_pos hop, if_pos hran, if_pos hreset]
  rw [hpass]
  exact ⟨h.ended, ⟨nofun, fun h => absurd h hne⟩, pass_bound h.bound, nofun⟩

theorem pass_fst_sm : (x.pass c m i).1.sm = (x.sm.pass c i).1 := by
  unfold TempRun.pass
  dsimp only
  split
  · rfl
  · split
    · split
      · split
        · rfl
        · split <;> rfl
      · rfl
    · rfl

theorem pass_snd : (x.pass c m i).2 = (x.sm.pass c i).2 := by
  unfold TempRun.pass
  dsimp only
  split
  · rfl
  · split
    · split
      · split
        · rfl
        · split <;> rfl
      · rfl
    · rfl

theorem CycleInv.pass (h : CycleInv m x) :
    (PassOk c m x i ∧ CycleInv m (x.pass c m i).1) ∨ (¬PassOk c m x i ∧ ¬CycleLaw m (x.pass c m i).1) := by
  by_cases hop : x.sm.checkMonitoring.gpuState = .op m.op
  · obtain ⟨y, hy⟩ := Option.isSome_iff_exists.1 (h.tracks.2 (checkMonitoring_gpuState hop))
    cases hran : (x.sm.checkMonitoring.machine c i.schedules).2 with
    | false => exact .inl (h.goesOn hy hop hran)
    | true =>
      cases hreset : (x.sm.checkMonitoring.looksBack (x.sm.checkMonitoring.machine c i.schedules).1).i2cResetRequired with
      | true => exact .inl (h.reset hy hop hran hreset)
      | false =>
        refine h.readEnd hy (Gpu.readEnd hy hop hran hreset) ?_ (by rw [pass_fst_sm]) fun hidle => ?_
        · rw [pass_fst_sm]
          exact pass_bound h.bound
        · rw [pass_done hop hran]
          exact endPass_atFirst (by rw [hidle]; exact nofun)
  · exact .inl (h.elsewhere hop)

/-! ## Ticks and other events -/

/-- What a tick does before its loop: the task is where it was, or it begins with a reset or waits for the lock. -/
theorem beginTick_frame (c : Config) (s : GpuSm) (i : TickInput) :
    (s.beginTick c i).sm = s.sm ∧ (s.beginTick c i).currentGpuId = s.currentGpuId ∧
      ((s.beginTick c i).gpuState = .op m.op → s.gpuState = .op m.op) := by
  have hfirst : ∀ u : GpuSm, ∀ b, (u.firstRun b).sm = u.sm ∧ (u.firstRun b).currentGpuId = u.currentGpuId ∧
      (u.firstRun b).gpuState = u.gpuState := by
    intro u b
    unfold GpuSm.firstRun
    split
    · cases b <;> exact ⟨rfl, rfl, rfl⟩
    · exact ⟨rfl, rfl, rfl⟩
  have hcount : ∀ u : GpuSm, (u.countCall c).sm = u.sm ∧ (u.countCall c).currentGpuId = u.currentGpuId ∧
      (u.countCall c).gpuState = u.gpuState := by
    intro u
    unfold GpuSm.countCall
    split
    · exact ⟨rfl, rfl, rfl⟩
    · split <;> exact ⟨rfl, rfl, rfl⟩
  have hask : ∀ u : GpuSm, ∀ b, (u.askForLock b).sm = u.sm ∧ (u.askForLock b).currentGpuId = u.currentGpuId ∧
      ((u.askForLock b).gpuState = .op m.op → u.gpuState = .op m.op) := by
    intro u b
    unfold GpuSm.askForLock
    split
    · refine ⟨rfl, rfl, fun h => ?_⟩
      dsimp only at h
      split at h <;> cases h
    · exact ⟨rfl, rfl, id⟩
  obtain ⟨hsm₁, hcur₁, hstate₁⟩ := hfirst s.updateGpuResetStatus i.ipcInit
  obtain ⟨hsm₂, hcur₂, hstate₂⟩ := hcount (s.updateGpuResetStatus.firstRun i.ipcInit)
  obtain ⟨hsm₃, hcur₃, hstate₃⟩ := hask ((s.updateGpuResetStatus.firstRun i.ipcInit).countCall c) i.lockBegin
  exact ⟨hsm₃.trans (hsm₂.trans hsm₁), hcur₃.trans (hcur₂.trans hcur₁),
    fun h => (hstate₂.trans hstate₁).symm.trans (hstate₃ h)⟩

theorem CycleInv.beginTick {i : TickInput} (h : CycleInv m x) : CycleInv m (x.beginTick c m i) := by
  obtain ⟨hsm, hcur, hstate⟩ := @beginTick_frame m c x.sm i
  have hbound : ReadBound m ((x.sm.beginTick c i).sm m.op) := by
    rw [hsm]
    exact h.bound
  unfold TempRun.beginTick
  dsimp only
  by_cases ht : (x.sm.beginTick c i).gpuState = .op m.op
  · rw [if_pos ht]
    refine ⟨h.ended, ⟨fun _ => ht, fun _ => ?_⟩, hbound, ?_⟩
    · rw [Option.isSome_map]
      exact h.tracks.2 (hstate ht)
    · intro y hy
      obtain ⟨y', hy', rfl⟩ := Option.map_eq_some_iff.1 hy
      exact (h.running y' hy').sees _ hcur hsm
  · rw [if_neg ht]
    exact ⟨h.ended, ⟨nofun, fun h => absurd h ht⟩, hbound, nofun⟩

theorem CycleInv.moves (h : CycleInv m x) (hsm : t.sm = x.sm.sm) (hcur : t.currentGpuId = x.sm.currentGpuId)
    (hstate : t.gpuState = x.sm.gpuState) : CycleInv m (x.moves c m t) := by
  refine ⟨h.ended, ?_, ?_, fun y hy => ?_⟩
  · show (x.cycle.map _).isSome = true ↔ t.gpuState = _
    rw [Option.isSome_map, hstate]
    exact h.tracks
  · show ReadBound m (t.sm m.op)
    rw [hsm]
    exact h.bound
  · obtain ⟨y', hy', rfl⟩ := Option.map_eq_some_iff.1 hy
    exact (h.running y' hy').sees _ hcur hsm

/-- A tick that meets the condition, and an event that is no tick, keep the invariant. -/
theorem CycleInv.next {e : TempEvent} (h : CycleInv m x) (hok : CycleOk c m x e) (hn : x.next c m e = some z) :
    CycleInv m z := by
  cases e with
  | disabled g b =>
    cases hn
    exact h.moves rfl rfl rfl
  | gpu e =>
    cases e with
    | tick i =>
      cases hn
      unfold TempRun.tick
      by_cases hm : x.sm.monitoringAllowed = true
      · rw [if_pos hm]
        obtain ⟨hok₁, hok₂⟩ := hok hm
        have hfirst := (h.beginTick.pass (c := c) (i := i.pass1)).resolve_right fun hno => hno.1 hok₁
        dsimp only
        split
        · rename_i hagain
          exact ((hfirst.2.pass (c := c) (i := i.pass2)).resolve_right fun hno => hno.1 (hok₂ hagain)).2
        · exact hfirst.2
      · rw [if_neg hm]
        exact h
    | opal g b =>
      cases hn
      exact h.moves rfl rfl rfl
    | gpeDone rc data =>
      obtain ⟨t, ht, rfl⟩ := Option.map_eq_some_iff.1 hn
      unfold Gpu.next at ht
      dsimp only at ht
      split at ht <;> cases ht
      exact h.moves rfl rfl rfl
    | desired g mw =>
      cases hn
      exact h.moves rfl rfl rfl
    | allowMonitoring =>
      cases hn
      exact h.moves rfl rfl rfl

/-- The turns of an event keep the law if and only if they meet the condition. -/
theorem cycleKeeps_iff {e : TempEvent} (h : CycleInv m x) : CycleKeeps c m x e ↔ CycleOk c m x e := by
  have hiff : ∀ x' i, CycleInv m x' → (CycleLaw m (x'.pass c m i).1 ↔ PassOk c m x' i) := by
    intro x' i hx'
    obtain ⟨hok, hinv⟩ | ⟨hno, hbreaks⟩ := hx'.pass (c := c) (i := i)
    · exact ⟨fun _ => hok, fun _ => hinv.law⟩
    · exact ⟨fun hlaw => absurd hlaw hbreaks, fun hok => absurd hok hno⟩
  cases e with
  | disabled g b => exact Iff.rfl
  | gpu e =>
    cases e with
    | tick i =>
      have hbegin : CycleInv m (x.beginTick c m i) := h.beginTick
      constructor
      · intro hkeeps hm
        obtain ⟨hlaw₁, hlaw₂⟩ := hkeeps hm
        have hok₁ := (hiff _ _ hbegin).1 hlaw₁
        have hfirst := (hbegin.pass (c := c) (i := i.pass1)).resolve_right fun hno => hno.1 hok₁
        exact ⟨hok₁, fun hagain => (hiff _ _ hfirst.2).1 (hlaw₂ hagain)⟩
      · intro hok hm
        obtain ⟨hok₁, hok₂⟩ := hok hm
        have hfirst := (hbegin.pass (c := c) (i := i.pass1)).resolve_right fun hno => hno.1 hok₁
        exact ⟨(hiff _ _ hbegin).2 hok₁, fun hagain => (hiff _ _ hfirst.2).2 (hok₂ hagain)⟩
    | opal g b => exact Iff.rfl
    | gpeDone rc data => exact Iff.rfl
    | desired g mw => exact Iff.rfl
    | allowMonitoring => exact Iff.rfl

theorem boot_cycleInv (occFlags : Fin 3 → Bool) : CycleInv m (TempRun.boot occFlags) where
  ended := nofun
  tracks := ⟨nofun, nofun⟩
  bound := ⟨Nat.zero_le _, fun h => absurd rfl h⟩
  running := nofun

end Steps

/-! ## Runs -/

/-- The history is beside the task's own run. -/
theorem next_sm {c : Config} {m : TempKind} {x z : TempRun} {e : Event} (hn : x.next c m (.gpu e) = some z) :
    Gpu.next c x.sm e = some z.sm := by
  cases e with
  | tick i =>
    cases hn
    unfold TempRun.tick Gpu.next GpuSm.taskGpuSm
    dsimp only
    have hsnd : ((x.beginTick c m i).pass c m i.pass1).2 = ((x.sm.beginTick c i).pass c i.pass1).2 := pass_snd
    split
    · rw [hsnd]
      split
      · rw [pass_fst_sm, pass_fst_sm]
        rfl
      · rw [pass_fst_sm]
        rfl
    · rfl
  | opal g b =>
    cases hn
    rfl
  | gpeDone rc data =>
    obtain ⟨t, ht, rfl⟩ := Option.map_eq_some_iff.1 hn
    exact ht
  | desired g mw =>
    cases hn
    rfl
  | allowMonitoring =>
    cases hn
    rfl

/-- From the start, all turns of all ticks keep the law of the cycles if and only if they all meet the condition. -/
theorem cycleLaw_run (c : Config) (m : TempKind) {occFlags : Fin 3 → Bool} {z : TempRun} {es : List TempEvent} :
    Run (Guarded (CycleKeeps c m) (StepOf (TempRun.next c m))) (.boot occFlags) es z ↔
      Run (Guarded (CycleOk c m) (StepOf (TempRun.next c m))) (.boot occFlags) es z :=
  run_guarded_congr_of (P := CycleInv m) (fun _ _ _ hx hok hn => hx.next hok hn) (fun _ _ _ hx _ => cycleKeeps_iff hx)
    (boot_cycleInv occFlags)

/-- Two GPUs, without power capping. -/
def twoGpus : Config := ⟨fun g => g != 2, 3, true, 10, 1000⟩

/-- The GPE succeeds with `x`, and the task runs. -/
def answered (x : BitVec 64) : List TempEvent := [.gpu (succeeds x), .gpu freeTick]

/-- The reset of the bus, two core temperatures, two driver checks and two capability checks: the memory temperature of
the first GPU is being read. -/
def memoryCycleRun : List TempEvent :=
  .gpu .allowMonitoring :: .gpu freeTick :: answered 0 ++ answered 0 ++ answered 0 ++ .gpu freeTick :: answered 0 ++
    answered 0 ++ answered 0x30 ++ answered 0 ++ answered 0x30 ++ (List.replicate 16 (answered 1)).flatten

/-- Its driver changes: the cycle ends, and the second GPU has not been read. -/
theorem ends_without_second : ∃ z,
    exec (TempRun.next twoGpus .memory) (.boot fun _ => false)
      (memoryCycleRun ++ [.gpu (.gpeDone gpeRcGpuDriverChange fun _ => 0), .gpu freeTick]) = some z ∧
    ¬CycleLaw .memory z := by
  have hended : (exec (TempRun.next twoGpus .memory) (.boot fun _ => false)
      (memoryCycleRun ++ [.gpu (.gpeDone gpeRcGpuDriverChange fun _ => 0), .gpu freeTick])).map
        (fun z => z.ended.map fun y => (y.reads, y.stays 1)) = some [([0], true)] := by
    decide +kernel
  obtain ⟨z, hz, hended⟩ := Option.map_eq_some_iff.1 hended
  refine ⟨z, hz, ?_⟩
  rintro ⟨hlaw, -⟩
  obtain ⟨y, hy, hread⟩ := List.mem_map.1 (hended ▸ List.mem_singleton_self ([0], true) :
    (([0], true) : List (Fin 3) × Bool) ∈ z.ended.map fun y => (y.reads, y.stays 1))
  have hmem := (hlaw y hy).2.1 1 (congrArg Prod.snd hread)
  rw [show y.reads = [0] from congrArg Prod.fst hread] at hmem
  exact absurd hmem (by decide)

end Occ.Gpu
