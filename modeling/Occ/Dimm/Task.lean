/-
What a part of the DIMM task can do to the lock: it owns the lock as before, unless it stops for good;
an operation is started only by a task that owns the lock or resets the engine; and the lock's check is
called only when no reset is required.
-/
import Occ.Dimm.StateMachine
import Mathlib

namespace Occ.Dimm

/-! ## What every function keeps -/

/-- The engine, the permission and the lock are as before; a reset becomes required only for an owner. -/
structure Keeps (d d' : DimmSm) : Prop where
  engine : d'.engine = d.engine
  allowed : d'.memMonitoringAllowed = d.memMonitoringAllowed
  owns : d'.occOwnsLock = d.occOwnsLock
  reset : d'.i2cResetRequired = true → d.i2cResetRequired = true ∨ d.occOwnsLock = true

namespace Keeps

variable {d d' d'' : DimmSm}

theorem of_eq (h₁ : d'.engine = d.engine) (h₂ : d'.memMonitoringAllowed = d.memMonitoringAllowed)
    (h₃ : d'.occOwnsLock = d.occOwnsLock) (h₄ : d'.i2cResetRequired = d.i2cResetRequired) : Keeps d d' :=
  ⟨h₁, h₂, h₃, fun h => .inl (h₄ ▸ h)⟩

theorem refl (d : DimmSm) : Keeps d d := of_eq rfl rfl rfl rfl

theorem newArgs (d : DimmSm) (args : DimmArgs) : Keeps d { d with newArgs := args } := of_eq rfl rfl rfl rfl

theorem notReadyCount (d : DimmSm) (n : Nat) : Keeps d { d with notReadyCount := n } := of_eq rfl rfl rfl rfl

theorem trans (h : Keeps d d') (h' : Keeps d' d'') : Keeps d d'' where
  engine := h'.engine.trans h.engine
  allowed := h'.allowed.trans h.allowed
  owns := h'.owns.trans h.owns
  reset := fun hr => by
    rcases h'.reset hr with hr | ho
    · exact h.reset hr
    · exact .inr (h.owns ▸ ho)

variable (d) (env : DimmTick)

theorem scheduleDimmReq (i_state : DimmState) (i_new_args : DimmArgs) :
    Keeps d (d.scheduleDimmReq i_state i_new_args env).2 := by
  unfold DimmSm.scheduleDimmReq
  split
  · exact refl d
  · dsimp only
    split <;> exact of_eq rfl rfl rfl rfl

theorem useNextDimm : Keeps d d.useNextDimm := by
  unfold DimmSm.useNextDimm
  split <;> exact of_eq rfl rfl rfl rfl

theorem markDimmFailed (h : d.occOwnsLock = true) : Keeps d d.markDimmFailed := ⟨rfl, rfl, rfl, fun _ => .inr h⟩

theorem checkForI2cFailure (h : d.occOwnsLock = true) : Keeps d d.checkForI2cFailure.2 := by
  unfold DimmSm.checkForI2cFailure
  split
  · dsimp only
    split
    · exact refl d
    · exact markDimmFailed d h
  · exact refl d

theorem resetOp (i_state next : DimmState) : Keeps d (d.resetOp i_state next env).2 :=
  scheduleDimmReq d env i_state d.resetArgs

theorem dimmResetSm : Keeps d (d.dimmResetSm env).2 := by
  have ha : ∀ args, Keeps d { d with resetArgs := args } := fun _ => of_eq rfl rfl rfl rfl
  unfold DimmSm.dimmResetSm
  split
  · split
    · exact (ha _).trans (resetOp _ env _ _)
    · exact refl d
  · exact (ha _).trans (resetOp _ env _ _)
  · exact refl d
  · exact resetOp d env _ _
  · exact (ha _).trans (resetOp _ env _ _)
  · exact refl d
  · exact resetOp d env _ _
  · exact refl d

theorem update (nextState : DimmState) : Keeps d (d.update nextState) := by
  unfold DimmSm.update
  split <;> exact of_eq rfl rfl rfl rfl

theorem handleState (nextState : DimmState) : Keeps d (d.handleState nextState env).2 := by
  have hs : ∀ st args, Keeps d ({ d with newArgs := args }.scheduleDimmReq st args env).2 := fun st args =>
    (newArgs d args).trans (scheduleDimmReq _ env st args)
  unfold DimmSm.handleState
  split
  · split
    · split
      · exact hs _ _
      · exact useNextDimm d
    · exact refl d
  · split
    · dsimp only
      split
      · exact (hs _ _).trans (of_eq rfl rfl rfl rfl)
      · exact hs _ _
    · exact refl d
  · split
    · exact hs _ _
    · exact refl d
  · split
    · dsimp only
      split
      · exact (hs _ _).trans (of_eq rfl rfl rfl rfl)
      · exact hs _ _
    · exact refl d
  · exact refl d

theorem handle (nextState : DimmState) : Keeps d (d.handle nextState env) := by
  unfold DimmSm.handle
  split
  · dsimp only
    split
    · exact (handleState d env nextState).trans (update _ _)
    · exact (dimmResetSm d env).trans (update _ _)
  · exact update d _

theorem retry (h : d.occOwnsLock = true) (i_state nextState : DimmState) : Keeps d (d.retry i_state nextState).2 := by
  unfold DimmSm.retry
  dsimp only
  split
  · exact of_eq rfl rfl rfl rfl
  · exact (of_eq rfl rfl rfl rfl : Keeps d { d with readAttempt := (d.readAttempt + 1) % 2 ^ 8 }).trans
      (markDimmFailed _ h)

end Keeps

/-! ## The parts of the task -/

/-- What the task does from one call of the lock's check to the next, or to its end. -/
structure Part (d : DimmSm) (r : DimmSm × TaskExit) : Prop where
  engine : r.1.engine = d.engine
  allowed : r.1.memMonitoringAllowed = true → d.memMonitoringAllowed = true
  owns : r.1.memMonitoringAllowed = true → r.1.occOwnsLock = d.occOwnsLock
  reset : r.1.memMonitoringAllowed = true → r.1.i2cResetRequired = true → d.i2cResetRequired = true ∨ d.occOwnsLock = true
  started : r.1.started = d.started ∨ d.occOwnsLock = true ∨ d.i2cResetRequired = true
  check : ∀ caller, r.2 = .check caller → r.1.i2cResetRequired = false ∧ r.1.memMonitoringAllowed = d.memMonitoringAllowed
  disable : r.2 = .disable → r.1.memMonitoringAllowed = false

namespace Part

variable {d d' : DimmSm} {r : DimmSm × TaskExit} {env : DimmTick}

theorem of_keeps (h : Keeps d r.1) (hs : d.occOwnsLock = true ∨ d.i2cResetRequired = true)
    (hc : ∀ caller, r.2 = .check caller → r.1.i2cResetRequired = false) (hd : r.2 ≠ .disable) : Part d r :=
  ⟨h.engine, fun ha => h.allowed ▸ ha, fun _ => h.owns, fun _ => h.reset, .inr hs, fun c hr => ⟨hc c hr, h.allowed⟩,
    fun h => absurd h hd⟩

theorem of_eq (hc : ∀ caller, r.2 = .check caller → d.i2cResetRequired = false) (hd : r.2 ≠ .disable) (h : r.1 = d) :
    Part d r := by
  subst h
  exact ⟨rfl, id, fun _ => rfl, fun _ => .inl, .inl rfl, fun c hr => ⟨hc c hr, rfl⟩, fun h => absurd h hd⟩

theorem priorComplete (ho : d.occOwnsLock = true) (hr : d.args.rc = gpeRcSuccess → d.i2cResetRequired = false)
    (nextState : DimmState) : Part d (d.priorComplete nextState env) := by
  unfold DimmSm.priorComplete
  split
  · rename_i hrc
    split
    · refine of_keeps ?_ (.inl ho) (by simp) (by simp)
      exact (Keeps.of_eq rfl rfl rfl rfl : Keeps d { d with maxDimmPort := d.args.maxPorts }).trans (.handle _ env _)
    · split
      · refine of_keeps ?_ (.inl ho) (fun _ _ => ?_) (by simp)
        · exact (Keeps.useNextDimm d).trans (.of_eq rfl rfl rfl rfl)
        · show d.useNextDimm.i2cResetRequired = false
          unfold DimmSm.useNextDimm
          split <;> exact hr hrc
      · exact of_keeps (.handle d env _) (.inl ho) (by simp) (by simp)
    · exact of_keeps (.handle d env _) (.inl ho) (by simp) (by simp)
  · split
    · exact of_keeps ((Keeps.retry d ho _ _).trans (.handle _ env _)) (.inl ho) (by simp) (by simp)
    · split
      · exact of_keeps ((Keeps.retry d ho _ _).trans (.handle _ env _)) (.inl ho) (by simp) (by simp)
      · exact of_keeps (.handle d env _) (.inl ho) (by simp) (by simp)
    · exact of_keeps (.handle d env _) (.inl ho) (by simp) (by simp)

theorem waited (ho : d.occOwnsLock = true) (hr : d.args.rc = gpeRcSuccess → d.i2cResetRequired = false)
    (nextState : DimmState) :
    Part d (if d.ready env ∧ d.complete then d.priorComplete nextState env else (d.handle nextState env, .done)) := by
  split
  · exact priorComplete ho hr nextState
  · exact of_keeps (.handle d env _) (.inl ho) (by simp) (by simp)

theorem after (h : Keeps d d') (ho : d.occOwnsLock = true) (hp : Part d' r) : Part d r where
  engine := hp.engine.trans h.engine
  allowed := fun ha => h.allowed ▸ hp.allowed ha
  owns := fun ha => (hp.owns ha).trans h.owns
  reset := fun ha hr => by
    rcases hp.reset ha hr with hr | hr
    · exact h.reset hr
    · exact .inr (h.owns ▸ hr)
  started := .inr (.inl ho)
  check := fun c hr => ⟨(hp.check c hr).1, (hp.check c hr).2.trans h.allowed⟩
  disable := hp.disable

theorem useNextDimm_eq (d : DimmSm) :
    d.useNextDimm.args = d.args ∧ d.useNextDimm.i2cResetRequired = d.i2cResetRequired := by
  unfold DimmSm.useNextDimm
  split <;> exact ⟨rfl, rfl⟩

theorem failure_reset (h : d.i2cResetRequired = false)
    (hd : d' = if d.checkForI2cFailure.1 then d.checkForI2cFailure.2.useNextDimm else d.checkForI2cFailure.2)
    (hrc : d'.args.rc = gpeRcSuccess) : d'.i2cResetRequired = false := by
  unfold DimmSm.checkForI2cFailure at hd
  split at hd
  · rename_i hf
    simp only [if_true, h] at hd
    rw [hd, (useNextDimm_eq _).1] at hrc
    exact absurd hrc hf.2.1
  · rw [hd]
    exact h

theorem operate (h : d.i2cResetRequired = false) : Part d (d.operate env) := by
  unfold DimmSm.operate
  split
  · rename_i ho
    have hf : Keeps d (if d.checkForI2cFailure.1 then d.checkForI2cFailure.2.useNextDimm else d.checkForI2cFailure.2) := by
      split
      · exact (Keeps.checkForI2cFailure d ho).trans (.useNextDimm _)
      · exact Keeps.checkForI2cFailure d ho
    dsimp only
    generalize hd : (if d.checkForI2cFailure.1 then d.checkForI2cFailure.2.useNextDimm else d.checkForI2cFailure.2) = d' at hf ⊢
    have ho' : d'.occOwnsLock = true := hf.owns.trans ho
    have hreset := failure_reset h hd.symm
    refine after hf ho ?_
    split
    · refine of_keeps ?_ (.inl ho') (by simp) (by simp)
      exact ((Keeps.newArgs d' _).trans (.scheduleDimmReq _ env _ _)).trans (.update _ _)
    · split
      · exact waited ho' hreset d'.state
      · refine after (.notReadyCount d' _) ho' (waited ?_ ?_ d'.state)
        · exact ho'
        · exact hreset
  · exact of_eq (by simp) (by simp) rfl

theorem claim (h : d.i2cResetRequired = false) : Part d (d.claim env) := by
  unfold DimmSm.claim
  split
  · exact of_eq (fun _ _ => h) (by simp) rfl
  · exact operate h

theorem taskDimmSm : Part d (d.taskDimmSm env) := by
  unfold DimmSm.taskDimmSm
  split
  · split
    · rename_i hr
      split
      · exact ⟨rfl, by simp, by simp, by simp, .inl rfl, by simp, fun _ => rfl⟩
      · split
        · exact of_keeps ⟨rfl, rfl, rfl, by simp⟩ (.inr hr) (fun _ _ => rfl) (by simp)
        · exact of_keeps ((Keeps.dimmResetSm d env).trans (.of_eq rfl rfl rfl rfl)) (.inr hr) (by simp) (by simp)
    · exact claim (by simpa using ‹¬d.i2cResetRequired = true›)
  · exact of_eq (by simp) (by simp) rfl

theorem handle (d : DimmSm) : Part d (d.handle d.state env, .done) := by
  cases ho : d.occOwnsLock with
  | true => exact of_keeps (.handle d env _) (.inl ho) (by simp) (by simp)
  | false => exact of_eq (by simp) (by simp) (by simp [DimmSm.handle, DimmSm.update, ho])

theorem resume (h : d.i2cResetRequired = false) (caller : LockCaller) (owns : Bool) :
    ∃ d', d'.engine = d.engine ∧ d'.memMonitoringAllowed = d.memMonitoringAllowed ∧ d'.occOwnsLock = owns ∧
      d'.i2cResetRequired = false ∧ d'.started = d.started ∧ Part d' (d.resume caller owns env) := by
  cases caller with
  | reset => exact ⟨{ d with occOwnsLock := owns }, rfl, rfl, rfl, h, rfl, claim h⟩
  | claim =>
    exact ⟨{ d with occOwnsLock := owns, state := if owns then .init else d.state }, rfl, rfl, rfl, h, rfl, operate h⟩
  | read => exact ⟨{ d with occOwnsLock := owns }, rfl, rfl, rfl, h, rfl, handle _⟩

theorem started_of_not_allowed (h : d.memMonitoringAllowed = false) : (d.taskDimmSm env).1.started = d.started := by
  simp [DimmSm.taskDimmSm, h]

end Part

end Occ.Dimm
