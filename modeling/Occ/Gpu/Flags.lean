/-
The flags of a GPU: which ones a call of a state machine sets, and that what is known of a GPU stays consistent.
-/
import Occ.Gpu.TaskSpec
import Occ.Lib.Literals

namespace Occ.Gpu

open Function (update)

attribute [local instance] neZero_three

/-! ## Consistency -/

/-- What is known of a GPU takes its driver for granted, and that takes communication with the GPU for granted. -/
structure AmecGpu.Consistent (g : AmecGpu) : Prop where
  memTempSupported : g.memTempSupported = true → g.driverLoaded = true
  checkMemTempSupport : g.checkMemTempSupport = true → g.driverLoaded = true
  checkPwrLimit : g.checkPwrLimit = true → g.driverLoaded = true
  pwrLimitsRead : g.pwrLimitsRead = true → g.driverLoaded = true
  driverLoaded : g.driverLoaded = true → g.readOnce = true

variable {g : AmecGpu} {f : Flag} {o : Op} {data : Fin 3 → BitVec 64} {gpuTimeout rc : Nat} {k : Sm}

theorem AmecGpu.Consistent.callOff (h : g.Consistent) : AmecGpu.Consistent { g with checkPwrLimit := false } :=
  ⟨h.memTempSupported, h.checkMemTempSupport, nofun, h.pwrLimitsRead, h.driverLoaded⟩

theorem flag_updateResetStatus {b : Bool} : (g.updateResetStatus b).flag f =
    (g.flag f && !(b != g.notReset && f.clearedBy b)) := by
  unfold AmecGpu.updateResetStatus
  by_cases hb : b = g.notReset
  · simp [hb]
  · rw [if_pos hb]
    have hne : (b != g.notReset) = true := by simpa using hb
    rw [hne]
    cases b <;> cases f <;> simp [AmecGpu.flag, Flag.clearedBy, AmecGpu.clearDriverStatus]

/-! ## What an operation sets -/

/-- What a complete operation sets. -/
def Op.CompleteSets (o : Op) (data : Fin 3 → BitVec 64) (g : AmecGpu) (f : Flag) : Prop :=
  match o with
  | .readTemp => g.readOnce = false ∧ data 0 ≠ 0 ∧ (f = .readOnce ∨ f = .checkDriverLoaded)
  | .checkMemTempCapable => f = if (data 0).getLsbD 0 then .memTempSupported else .checkMemTempSupport
  | .checkDriverLoaded =>
    if (data 0).getLsbD 0 then
      g.driverLoaded = false ∧ (f = .checkPwrLimit ∨ f = .checkMemTempSupport ∨ f = .driverLoaded)
    else g.driverLoaded = true ∧ f = .checkDriverLoaded
  | .readPwrLimit => f = .pwrLimitsRead
  | .readMemoryTemp | .setPwrLimit => False

theorem flag_finish (hf : g.flag f = false) : (o.finish data g).flag f = true ↔ o.CompleteSets data g f := by
  cases o with
  | readTemp =>
    simp only [Op.finish, Op.CompleteSets]
    split
    · rename_i h
      cases f <;> simp_all [AmecGpu.flag]
    · cases f <;> simp_all [AmecGpu.flag]
  | readMemoryTemp => cases f <;> simp_all [Op.finish, Op.CompleteSets, AmecGpu.flag]
  | checkMemTempCapable =>
    simp only [Op.finish, Op.CompleteSets]
    cases (data 0).getLsbD 0 <;> cases f <;> simp_all [AmecGpu.flag]
  | checkDriverLoaded =>
    simp only [Op.finish, Op.CompleteSets]
    cases (data 0).getLsbD 0 <;> cases hl : g.driverLoaded <;> cases f <;>
      simp_all [AmecGpu.flag, AmecGpu.clearDriverStatus]
  | readPwrLimit => cases f <;> simp_all [Op.finish, Op.CompleteSets, AmecGpu.flag]
  | setPwrLimit => cases f <;> simp_all [Op.finish, Op.CompleteSets, AmecGpu.flag]

theorem Op.finish_consistent (h : g.Consistent) (hfits : o.Fits g) : (o.finish data g).Consistent := by
  obtain ⟨h₁, h₂, h₃, h₄, h₅⟩ := h
  cases o with
  | readTemp =>
    simp only [Op.finish]
    split
    · exact ⟨h₁, h₂, h₃, h₄, fun _ => rfl⟩
    · exact ⟨h₁, h₂, h₃, h₄, h₅⟩
  | readMemoryTemp => exact ⟨h₁, h₂, h₃, h₄, h₅⟩
  | checkMemTempCapable => exact ⟨fun _ => hfits, fun _ => hfits, h₃, h₄, h₅⟩
  | checkDriverLoaded =>
    simp only [Op.finish]
    split
    · split
      · exact ⟨fun _ => rfl, fun _ => rfl, fun _ => rfl, fun _ => rfl, fun _ => hfits⟩
      · exact ⟨nofun, nofun, nofun, nofun, nofun⟩
    · exact ⟨h₁, h₂, h₃, h₄, h₅⟩
  | readPwrLimit => exact ⟨h₁, h₂, nofun, fun _ => hfits, h₅⟩
  | setPwrLimit => exact ⟨h₁, h₂, h₃, h₄, h₅⟩

theorem flag_handleDriverChange (hf : g.flag f = false) :
    g.handleDriverChange.flag f = true ↔ f = .checkDriverLoaded := by
  cases f <;> simp_all [AmecGpu.handleDriverChange, AmecGpu.clearDriverStatus, AmecGpu.flag]

theorem handleDriverChange_consistent : g.handleDriverChange.Consistent := ⟨nofun, nofun, nofun, nofun, nofun⟩

/-- The error count is a byte, which never gets past `GPU_INIT_ERROR_COUNT`. -/
theorem flag_countFailure {n : BitVec 8} : AmecGpu.flag { g.countFailure with retryCount := n } f = g.flag f := by
  unfold AmecGpu.countFailure
  simp only
  split
  · rw [if_neg (by have := (g.errorCount + 1).isLt; unfold gpuInitErrorCount; omega)]
    cases f <;> rfl
  · cases f <;> rfl

/-- The memory temperature of a GPU counts as failed for good. -/
def AmecGpu.MemTempTimeout (maxReadTimeout : BitVec 8) (g : AmecGpu) : Prop :=
  maxReadTimeout ≠ 0 ∧ maxReadTimeout ≠ 0xFF ∧ maxReadTimeout ≤ g.memErrorCount + 1

instance (maxReadTimeout : BitVec 8) (g : AmecGpu) : Decidable (g.MemTempTimeout maxReadTimeout) :=
  inferInstanceAs (Decidable (_ ∧ _))

/-- What an operation that is given up sets; `attempts` and `count` are those of the operation on the GPU. -/
def Op.GiveUpSets (o : Op) (c : Config) (attempts count rc : Nat) (g : AmecGpu) (f : Flag) : Prop :=
  match o with
  | .readMemoryTemp => (g.notReset = true ∨ rc = gpeRcGpuCmdNotSupported) ∧
      if g.MemTempTimeout c.maxReadTimeout then f = .memTempFailure
      else rc = gpeRcGpuCmdNotSupported ∧ f = .checkMemTempSupport
  | .checkMemTempCapable | .checkDriverLoaded => g.notReset = true ∧ count + 1 > gpuErrorCount ∧ f = .memTempFailure
  | .setPwrLimit => (attempts > c.gpuTimeout ∨ (g.notReset = true ∧ count + 1 > gpuErrorCount)) ∧ f = .setFailed
  | .readTemp | .readPwrLimit => False

theorem flag_memoryTempGiveUp {c : Config} {attempts count : Nat} (hf : g.flag f = false) :
    (memoryTempGiveUp c.maxReadTimeout rc g).flag f = true ↔ Op.GiveUpSets .readMemoryTemp c attempts count rc g f := by
  unfold memoryTempGiveUp Op.GiveUpSets
  simp only
  by_cases hcount : g.notReset = true ∨ rc = gpeRcGpuCmdNotSupported
  · rw [if_pos hcount]
    by_cases htime : g.MemTempTimeout c.maxReadTimeout
    · have htime' : c.maxReadTimeout ≠ 0 ∧ c.maxReadTimeout ≠ 0xFF ∧ c.maxReadTimeout ≤ g.memErrorCount + 1 := htime
      rw [if_pos htime', if_pos htime]
      cases f <;> simp_all [AmecGpu.flag]
    · have htime' : ¬(c.maxReadTimeout ≠ 0 ∧ c.maxReadTimeout ≠ 0xFF ∧ c.maxReadTimeout ≤ g.memErrorCount + 1) := htime
      rw [if_neg htime', if_neg htime]
      split
      · cases f <;> simp_all [AmecGpu.flag]
      · cases f <;> simp_all [AmecGpu.flag]
  · rw [if_neg hcount]
    simp [hcount, hf]

theorem memoryTempGiveUp_consistent {maxReadTimeout : BitVec 8} (h : g.Consistent) (hfits : Op.Fits .readMemoryTemp g) :
    (memoryTempGiveUp maxReadTimeout rc g).Consistent := by
  obtain ⟨h₁, h₂, h₃, h₄, h₅⟩ := h
  unfold memoryTempGiveUp
  simp only
  split
  · split
    · exact ⟨nofun, h₂, h₃, h₄, h₅⟩
    · split
      · exact ⟨nofun, fun _ => h₁ hfits, h₃, h₄, h₅⟩
      · exact ⟨h₁, h₂, h₃, h₄, h₅⟩
  · exact ⟨h₁, h₂, h₃, h₄, h₅⟩

@[simp] theorem abandon_notReset : (o.abandon g).notReset = g.notReset := by cases o <;> rfl

theorem countedGiveUp_fst {attempts count : Nat} : (o.countedGiveUp gpuTimeout attempts count g).1 =
    if (o.timed = true ∧ attempts > gpuTimeout) ∨ (g.notReset = true ∧ count + 1 > gpuErrorCount) then o.abandon g else g := by
  unfold Op.countedGiveUp
  by_cases hout : o.timed = true ∧ attempts > gpuTimeout
  · simp only [if_pos hout, abandon_notReset, if_pos (Or.inl hout)]
    rw [if_neg (show ¬0 + 1 > gpuErrorCount by decide)]
    split <;> rfl
  · simp only [hout, if_false, false_or]
    cases hreset : g.notReset with
    | false => simp
    | true =>
      simp only [if_true, true_and]
      split <;> rfl

theorem flag_countedGiveUp {c : Config} {attempts count : Nat} (hf : g.flag f = false) (ho : o ≠ .readTemp)
    (hm : o ≠ .readMemoryTemp) :
    (o.countedGiveUp c.gpuTimeout attempts count g).1.flag f = true ↔ o.GiveUpSets c attempts count rc g f := by
  rw [countedGiveUp_fst]
  unfold Op.GiveUpSets
  cases o with
  | readTemp => exact absurd rfl ho
  | readMemoryTemp => exact absurd rfl hm
  | checkMemTempCapable =>
    simp only [Op.timed, Bool.false_eq_true, false_and, false_or]
    split <;> cases f <;> simp_all [Op.abandon, AmecGpu.flag]
  | checkDriverLoaded =>
    simp only [Op.timed, Bool.false_eq_true, false_and, false_or]
    split <;> cases f <;> simp_all [Op.abandon, AmecGpu.flag]
  | readPwrLimit =>
    simp only [Op.timed, true_and]
    split <;> cases f <;> simp_all [Op.abandon, AmecGpu.flag]
  | setPwrLimit =>
    simp only [Op.timed, true_and]
    split
    · rename_i hgives
      cases f <;> simp_all [Op.abandon, AmecGpu.flag]
    · rename_i hgives
      simp only [hf, hgives, Bool.false_eq_true, false_and]

theorem abandon_consistent (h : g.Consistent) : (o.abandon g).Consistent := by
  obtain ⟨h₁, h₂, h₃, h₄, h₅⟩ := h
  cases o with
  | checkMemTempCapable => exact ⟨h₁, nofun, h₃, h₄, h₅⟩
  | readPwrLimit => exact ⟨h₁, h₂, nofun, h₄, h₅⟩
  | readTemp => exact ⟨h₁, h₂, h₃, h₄, h₅⟩
  | readMemoryTemp => exact ⟨h₁, h₂, h₃, h₄, h₅⟩
  | checkDriverLoaded => exact ⟨h₁, h₂, h₃, h₄, h₅⟩
  | setPwrLimit => exact ⟨h₁, h₂, h₃, h₄, h₅⟩

theorem countedGiveUp_consistent {attempts count : Nat} (h : g.Consistent) :
    (o.countedGiveUp gpuTimeout attempts count g).1.Consistent := by
  rw [countedGiveUp_fst]
  split
  · exact abandon_consistent h
  · exact h

/-! ## How the look at the last stage ends -/

/-- The GPE reports that the driver is being loaded or unloaded. -/
def Op.SeesDriverChange (o : Op) (k : Sm) (rc : Nat) : Prop :=
  k.stage ≠ 0 ∧ o ≠ .readTemp ∧ rc = gpeRcGpuDriverChange

/-- The last stage failed, is not repeated, and is not tried again. -/
def Op.IsGivenUp (o : Op) (gpuTimeout : Nat) (k : Sm) (rc : Nat) : Prop :=
  k.stage ≠ 0 ∧ (k.scheduled = false ∨ rc ≠ gpeRcSuccess) ∧ ¬o.SeesDriverChange k rc ∧
    ¬(rc = gpeRcNotComplete ∧ k.attempts ≤ gpuTimeout ∧ (o.repeatsFrom k.stage).isSome) ∧
    ¬(rc = gpeRcGpuBusy ∧ (o.busyAt k.stage).isSome) ∧ o.givesUp gpuTimeout k rc

/-- The last of all stages has succeeded. -/
def Op.IsComplete (o : Op) (k : Sm) (rc : Nat) : Prop :=
  k.stage = o.requests ∧ k.scheduled = true ∧ rc = gpeRcSuccess ∧ ¬(o.movesOnAt k.stage = true ∧ k.retryNecessary = true)

/-- The four ways the look at the last stage ends. -/
inductive Op.Looks (o : Op) (gpuTimeout : Nat) (k : Sm) (rc : Nat) : Advance → Prop
  | driverChange (h : o.SeesDriverChange k rc) : o.Looks gpuTimeout k rc .driverChange
  | giveUp (h : o.IsGivenUp gpuTimeout k rc) : o.Looks gpuTimeout k rc .giveUp
  | complete (h : o.IsComplete k rc) (k' : Sm) (hk : k'.stage = o.requests + 1) : o.Looks gpuTimeout k rc (.go k')
  | moveOn (hd : ¬o.SeesDriverChange k rc) (hg : ¬o.IsGivenUp gpuTimeout k rc) (hc : ¬o.IsComplete k rc) (k' : Sm) :
      o.Looks gpuTimeout k rc (.moveOn k')
  | send (hd : ¬o.SeesDriverChange k rc) (hg : ¬o.IsGivenUp gpuTimeout k rc) (hc : ¬o.IsComplete k rc) (k' : Sm)
      (hk : 1 ≤ k'.stage ∧ k'.stage ≤ o.requests) : o.Looks gpuTimeout k rc (.go k')

theorem repeatsFrom_bound {n m : Nat} (h : o.repeatsFrom n = some m) : 1 ≤ m ∧ m ≤ o.requests := by
  unfold Op.repeatsFrom at h
  split at h
  · cases h
    decide
  · cases h
    decide
  · cases h

theorem busyAt_bound {n m : Nat} (h : o.busyAt n = some m) : 1 ≤ m ∧ m ≤ o.requests := by
  unfold Op.busyAt at h
  split at h
  · cases h
    decide
  · cases h
    decide
  · cases h

theorem two_le_requests : 2 ≤ o.requests := by cases o <;> decide

theorem advance_looks (gpuTimeout rc : Nat) (hk : k.stage ≤ o.requests) : o.Looks gpuTimeout k rc (o.advance gpuTimeout k rc) := by
  have h2 := two_le_requests (o := o)
  unfold Op.advance
  by_cases hfail : k.stage ≠ 0 ∧ (k.scheduled = false ∨ rc ≠ gpeRcSuccess)
  · rw [if_pos hfail]
    obtain ⟨hstage, hfail⟩ := hfail
    have hc : ¬o.IsComplete k rc := by
      rintro ⟨_, hs, hrc, _⟩
      rcases hfail with h | h
      · rw [hs] at h
        cases h
      · exact h hrc
    split
    · rename_i n hrep
      split at hrep
      · rename_i hagain
        refine .send ?_ ?_ hc _ (repeatsFrom_bound hrep)
        · rintro ⟨_, _, hrc⟩
          exact absurd (hagain.1.symm.trans hrc) (by decide)
        · rintro ⟨_, _, _, hno, _⟩
          exact hno ⟨hagain.1, hagain.2, by rw [hrep]; rfl⟩
      · cases hrep
    · rename_i hrep
      have hrep' : ¬(rc = gpeRcNotComplete ∧ k.attempts ≤ gpuTimeout ∧ (o.repeatsFrom k.stage).isSome) := by
        rintro ⟨hrc, ha, hs⟩
        rw [if_pos (And.intro hrc ha)] at hrep
        rw [hrep] at hs
        cases hs
      split
      · rename_i n hbusy
        split at hbusy
        · rename_i hrc
          refine .send ?_ ?_ hc _ (busyAt_bound hbusy)
          · rintro ⟨_, _, hrc'⟩
            exact absurd (hrc.symm.trans hrc') (by decide)
          · rintro ⟨_, _, _, _, hno, _⟩
            exact hno ⟨hrc, by rw [hbusy]; rfl⟩
        · cases hbusy
      · rename_i hbusy
        have hbusy' : ¬(rc = gpeRcGpuBusy ∧ (o.busyAt k.stage).isSome) := by
          rintro ⟨hrc, hs⟩
          rw [if_pos hrc] at hbusy
          rw [hbusy] at hs
          cases hs
        split
        · rename_i hd
          exact .driverChange ⟨hstage, hd⟩
        · rename_i hd
          have hd' : ¬o.SeesDriverChange k rc := fun h => hd h.2
          split
          · rename_i hg
            exact .giveUp ⟨hstage, hfail, hd', hrep', hbusy', hg⟩
          · rename_i hg
            exact .send hd' (fun h => hg h.2.2.2.2.2) hc _ ⟨Nat.one_le_iff_ne_zero.2 hstage, hk⟩
  · rw [if_neg hfail]
    have hg : ¬o.IsGivenUp gpuTimeout k rc := fun h => hfail ⟨h.1, h.2.1⟩
    have hd : ¬o.SeesDriverChange k rc := by
      rintro ⟨hstage, _, hrc⟩
      exact hfail ⟨hstage, .inr (by rw [hrc]; decide)⟩
    split
    · rename_i hmove
      exact .moveOn hd hg (fun h => h.2.2.2 ⟨by simpa using hmove.1, hmove.2⟩) _
    · rename_i hmove
      by_cases hlast : k.stage = o.requests
      · refine .complete ⟨hlast, ?_, ?_, fun h => hmove ⟨by simpa using h.1, h.2⟩⟩ _ (by simp only [hlast])
        · by_contra hs
          exact hfail ⟨by omega, .inl (by simpa using hs)⟩
        · by_contra hrc
          exact hfail ⟨by omega, .inr hrc⟩
      · exact .send hd hg (fun h => hlast h.1) _ ⟨by simp, by simp only; omega⟩

end Occ.Gpu
