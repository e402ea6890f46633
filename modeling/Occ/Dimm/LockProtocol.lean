/-
The lock protocol of the DIMMs' I2C engine: the OCC and the host never both own the engine, no operation is
started while the host does, and every release is told to the host once. The register must be read back for
the configured engine, a release must not find another notification on its way, and monitoring must not
be allowed again with the lock's flag left from before.
-/
import Occ.Dimm.Task
import Occ.Lib.Transition

namespace Occ.Dimm

open Occ Transition HostIntr

namespace DimmSys

variable (k : DimmSys)

/-- The OCC goes by its flag: it owns the lock, unless it has cleared its bit in this very tick. -/
def OccOwns : Prop :=
  k.dimm.memMonitoringAllowed = true ∧ k.dimm.occOwnsLock = true ∧ ∀ c, k.pc ≠ some (.notify c)

/-- The host is about to be told of a release. -/
def owing : Nat :=
  match k.pc with
  | some (.notify _) => 1
  | _ => 0

/-- The OCC's bit is set and the host's may be too, until the register is read back. -/
def Verifying : Prop :=
  match k.pc with
  | some (.verify _ _) | some (.release _ (some _)) => True
  | _ => False

/-- The lock's check was called by the task, which is not in a reset. -/
def Called : Prop := k.dimm.memMonitoringAllowed = true ∧ k.dimm.i2cResetRequired = false

/-- What holds where the lock's code is: a write never fails, so nothing is tried again. -/
def PcOk : Prop :=
  match k.pc with
  | none => True
  | some (.flags _ needRetry owns) => needRetry = false ∧ owns = true ∧ k.Called
  | some (.acquire _ needRetry check) =>
    needRetry = false ∧ check = true ∧ k.Called ∧ (k.lock.flags k.dimm.engine).occ = false
  | some (.verify _ needRetry) => needRetry = false ∧ k.Called ∧ (k.lock.flags k.dimm.engine).occ = true
  | some (.release e (some (_, needRetry))) => needRetry = false ∧ e = k.dimm.engine ∧ k.Called
  | some (.release _ none) => k.dimm.memMonitoringAllowed = true → k.dimm.occOwnsLock = false
  | some (.notify (some (_, needRetry))) => needRetry = false ∧ k.Called
  | some (.notify none) => k.dimm.memMonitoringAllowed = true → k.dimm.occOwnsLock = false

end DimmSys

/-- The locks and the state machine, whatever runs. -/
structure LockInv (k : DimmSys) : Prop where
  host : ∀ e, k.lock.hostOwns e = true → (k.lock.flags e).host = true
  owner : k.OccOwns → (k.lock.flags k.dimm.engine).occ = true ∧ k.lock.hostOwns k.dimm.engine = false
  both : k.lock.hostOwns k.dimm.engine = true → (k.lock.flags k.dimm.engine).occ = true → k.Verifying
  pcOk : k.PcOk
  reset : k.dimm.memMonitoringAllowed = true → k.dimm.i2cResetRequired = true → k.dimm.occOwnsLock = true
  clean : k.conflict = false
  told : k.lock.released = k.lock.intr.i2cOwed + k.owing

/-- The conditions on a step. -/
def LockStepOk (k : DimmSys) : DimmEvent → Prop
  | .access =>
    match k.pc with
    | some (.flags _ _ _) =>
      k.dimm.engine = .engineC ∨ hostWantsI2cLock k.lock.flags k.dimm.engine = true ∨ neitherLockBit k.lock.flags = true
    | some (.notify _) =>
      k.lock.intr.pending &&& i2cOwnershipChange = 0 ∧ (k.lock.intr.pending = 0 ∨ k.lock.intr.coreExtIntr = true)
    | _ => True
  | .allow => k.dimm.memMonitoringAllowed = true ∨ k.dimm.occOwnsLock = false ∧ k.dimm.i2cResetRequired = false
  | _ => True

instance (k : DimmSys) (e : DimmEvent) : Decidable (LockStepOk k e) := by
  unfold LockStepOk
  split
  · split <;> infer_instance
  · infer_instance
  · infer_instance

/-- The lock and a state machine whose code for the lock has returned. -/
structure Settled (l : I2cLock) (d : DimmSm) : Prop where
  host : ∀ e, l.hostOwns e = true → (l.flags e).host = true
  owner : d.memMonitoringAllowed = true → d.occOwnsLock = true →
    (l.flags d.engine).occ = true ∧ l.hostOwns d.engine = false
  apart : l.hostOwns d.engine = true → (l.flags d.engine).occ = false
  reset : d.memMonitoringAllowed = true → d.i2cResetRequired = true → d.occOwnsLock = true
  told : l.released = l.intr.i2cOwed

section Steps

variable {k k' : DimmSys} {d : DimmSm} {env : DimmTick} {r : DimmSm × TaskExit}

theorem LockInv.settled (h : LockInv k) (hpc : k.pc = none) : Settled k.lock k.dimm where
  host := h.host
  owner := fun ha ho => h.owner ⟨ha, ho, by simp [hpc]⟩
  apart := fun hh => by
    by_contra hne
    have := h.both hh (by simpa using hne)
    simp [DimmSys.Verifying, hpc] at this
  reset := h.reset
  told := by
    have := h.told
    simpa [DimmSys.owing, hpc] using this

theorem after_pc : (∀ c, (k.after env r).pc ≠ some (.notify c)) ∧ (k.after env r).owing = 0 := by
  unfold DimmSys.owing DimmSys.after
  dsimp only
  cases r.2 with
  | done => simp
  | check caller => simp
  | disable =>
    unfold DimmSys.releasePc
    cases k.dimm.args.i2cEngine <;> simp

/-- A part of the task leaves the lock as it is. -/
theorem Settled.after (h : Settled k.lock d) (hp : Part d r) (he : d.engine = k.dimm.engine)
    (hs : d.started = k.dimm.started)
    (hal : d.memMonitoringAllowed = true ∨ r.1.started = d.started ∧ r.2 = .done) (hclean : k.conflict = false) :
    LockInv (k.after env r) where
  host := h.host
  owner := by
    rintro ⟨ha, ho, -⟩
    show (k.lock.flags r.1.engine).occ = true ∧ k.lock.hostOwns r.1.engine = false
    rw [hp.engine]
    exact h.owner (hp.allowed ha) ((hp.owns ha).symm.trans ho)
  both := by
    intro hh ho
    have hh : k.lock.hostOwns r.1.engine = true := hh
    have ho : (k.lock.flags r.1.engine).occ = true := ho
    rw [hp.engine] at hh ho
    rw [h.apart hh] at ho
    cases ho
  pcOk := by
    unfold DimmSys.PcOk DimmSys.after
    dsimp only
    cases hr : r.2 with
    | done => trivial
    | check caller =>
      have hc := hp.check caller hr
      have ha := hal.resolve_right (by simp [hr])
      exact ⟨rfl, rfl, hc.2.trans ha, hc.1⟩
    | disable =>
      unfold DimmSys.releasePc
      have ha := hp.disable hr
      cases k.dimm.args.i2cEngine <;> simp [ha]
  reset := by
    intro ha hr
    rw [show (k.after env r).dimm.occOwnsLock = d.occOwnsLock from hp.owns ha]
    rcases hp.reset ha hr with hr | ho
    · exact h.reset (hp.allowed ha) hr
    · exact ho
  clean := by
    show (k.conflict || (decide (r.1.started ≠ k.dimm.started) && k.lock.hostOwns k.dimm.engine)) = false
    rw [hclean, Bool.false_or, Bool.and_eq_false_iff]
    by_cases hst : r.1.started = k.dimm.started
    · exact .inl (by simp [hst])
    · refine .inr ?_
      rw [← hs] at hst
      have ha := hal.resolve_right fun h => hst h.1
      rw [← he]
      rcases hp.started with hs' | ho | hr
      · exact absurd hs' hst
      · exact (h.owner ha ho).2
      · exact (h.owner ha (h.reset ha hr)).2
  told := by
    rw [after_pc.2]
    exact h.told

theorem LockInv.tick (h : LockInv k) (hpc : k.pc = none) : LockInv (k.after env (k.dimm.taskDimmSm env)) := by
  refine (h.settled hpc).after .taskDimmSm rfl rfl ?_ h.clean
  cases ha : k.dimm.memMonitoringAllowed with
  | true => exact .inl rfl
  | false => exact .inr ⟨Part.started_of_not_allowed ha, by simp [DimmSm.taskDimmSm, ha]⟩

theorem LockInv.resume {l : I2cLock} {owns : Bool} (caller : LockCaller) (hcalled : k.Called) (hclean : k.conflict = false)
    (hhost : ∀ e, l.hostOwns e = true → (l.flags e).host = true)
    (howner : owns = true → (l.flags k.dimm.engine).occ = true ∧ l.hostOwns k.dimm.engine = false)
    (hapart : l.hostOwns k.dimm.engine = true → (l.flags k.dimm.engine).occ = false)
    (htold : l.released = l.intr.i2cOwed) :
    LockInv ({ k with lock := l }.after env (k.dimm.resume caller owns env)) := by
  obtain ⟨d', he, ha, ho, hr, hs, hp⟩ := @Part.resume k.dimm env hcalled.2 caller owns
  rw [← he] at howner hapart
  refine Settled.after ⟨hhost, fun _ h => howner (ho ▸ h), hapart, fun _ h => ?_, htold⟩ hp he hs (.inl (ha.trans hcalled.1)) hclean
  rw [hr] at h
  cases h

/-! ## The lock's code -/

/-- The next access, when this one only reads. -/
theorem LockInv.goto (h : LockInv k) {p p' : LockPc (LockCaller × DimmTick)} (hpc : k.pc = some p)
    (hn : ∀ c, p ≠ .notify c) (hn' : ∀ c, p' ≠ .notify c) (hok : { k with pc := some p' }.PcOk)
    (hv : k.Verifying → { k with pc := some p' }.Verifying) : LockInv { k with pc := some p' } where
  host := h.host
  owner := fun ho => h.owner ⟨ho.1, ho.2.1, by simpa [hpc] using hn⟩
  both := fun hh ho => hv (h.both hh ho)
  pcOk := hok
  reset := h.reset
  clean := h.clean
  told := by
    have : k.owing = 0 := by
      unfold DimmSys.owing
      rw [hpc]
      cases p <;> simp_all
    have h' : ({ k with pc := some p' } : DimmSys).owing = 0 := by
      unfold DimmSys.owing
      cases p' <;> simp_all
    have htold := h.told
    rw [this] at htold
    rw [h']
    exact htold

/-- The lock's check returns, when this access only reads. -/
theorem LockInv.ret (h : LockInv k) {p : LockPc (LockCaller × DimmTick)} (hpc : k.pc = some p) (hn : ∀ c, p ≠ .notify c)
    {owns : Bool} (caller : LockCaller) (hcalled : k.Called)
    (howner : owns = true → (k.lock.flags k.dimm.engine).occ = true ∧ (k.lock.flags k.dimm.engine).host = false)
    (hother : owns = false → (k.lock.flags k.dimm.engine).occ = false) :
    LockInv (k.after env (k.dimm.resume caller owns env)) := by
  refine LockInv.resume (k := k) (l := k.lock) caller hcalled h.clean h.host (fun ho => ⟨(howner ho).1, ?_⟩) (fun hh => ?_) ?_
  · by_contra hne
    have := h.host _ (by simpa using hne)
    rw [(howner ho).2] at this
    cases this
  · cases owns with
    | false => exact hother rfl
    | true =>
      have := h.host _ hh
      rw [(howner rfl).2] at this
      cases this
  · have : k.owing = 0 := by
      unfold DimmSys.owing
      rw [hpc]
      cases p <;> simp_all
    have htold := h.told
    rw [this] at htold
    exact htold

theorem access_pc {l : I2cLock} {p p' : LockPc (LockCaller × DimmTick)}
    (h : k.lock.access k.dimm.engine p = (l, .pc p')) : k.access p = { k with lock := l, pc := some p' } := by
  unfold DimmSys.access
  rw [h]

theorem access_ret {l : I2cLock} {p : LockPc (LockCaller × DimmTick)} {caller : LockCaller} {owns : Bool}
    (h : k.lock.access k.dimm.engine p = (l, .ret (caller, env) owns)) :
    k.access p = { k with lock := l }.after env (k.dimm.resume caller owns env) := by
  unfold DimmSys.access
  rw [h]

theorem LockInv.flags (h : LockInv k) {caller : LockCaller} {needRetry owns : Bool}
    (hpc : k.pc = some (.flags (caller, env) needRetry owns)) (hok : LockStepOk k .access) :
    LockInv (k.access (.flags (caller, env) needRetry owns)) := by
  have hpcOk := h.pcOk
  unfold DimmSys.PcOk at hpcOk
  unfold LockStepOk at hok
  rw [hpc] at hpcOk hok
  obtain ⟨rfl, rfl, hcalled⟩ := hpcOk
  have hv : ¬k.Verifying := by simp [DimmSys.Verifying, hpc]
  cases ho : (k.lock.flags k.dimm.engine).occ <;> cases hh : (k.lock.flags k.dimm.engine).host
  · -- neither bit is set, and the register is read back
    have hcheck : neitherLockBit k.lock.flags = true := by
      rcases hok with he | he | he
      · rw [he] at ho hh
        simp [neitherLockBit, ho, hh]
      · exact absurd (hh.symm.trans he) (by decide)
      · exact he
    have ha : k.lock.access k.dimm.engine (.flags (caller, env) false true) =
        (k.lock, .pc (.acquire (caller, env) false true)) := by
      simp [I2cLock.access, occOwnsI2cLock, hostWantsI2cLock, ho, hh, hcheck]
    rw [access_pc ha]
    exact h.goto hpc (by simp) (by simp) ⟨rfl, rfl, hcalled, ho⟩ (absurd · hv)
  · have ha : k.lock.access k.dimm.engine (.flags (caller, env) false true) = (k.lock, .ret (caller, env) false) := by
      simp [I2cLock.access, occOwnsI2cLock, hostWantsI2cLock, ho, hh, I2cLock.loop]
    rw [access_ret ha]
    exact h.ret hpc (by simp) caller hcalled (by simp) (fun _ => ho)
  · cases hc : neitherLockBit k.lock.flags with
    | true =>
      have ha : k.lock.access k.dimm.engine (.flags (caller, env) false true) = (k.lock, .pc (.verify (caller, env) false)) := by
        simp [I2cLock.access, occOwnsI2cLock, hostWantsI2cLock, ho, hh, hc]
      rw [access_pc ha]
      exact h.goto hpc (by simp) (by simp) ⟨rfl, hcalled, ho⟩ (absurd · hv)
    | false =>
      have ha : k.lock.access k.dimm.engine (.flags (caller, env) false true) = (k.lock, .ret (caller, env) true) := by
        simp [I2cLock.access, occOwnsI2cLock, hostWantsI2cLock, ho, hh, hc, I2cLock.loop]
      rw [access_ret ha]
      exact h.ret hpc (by simp) caller hcalled (fun _ => ⟨ho, hh⟩) (by simp)
  · have ha : k.lock.access k.dimm.engine (.flags (caller, env) false true) =
        (k.lock, .pc (.release k.dimm.engine (some ((caller, env), false)))) := by
      simp [I2cLock.access, occOwnsI2cLock, hostWantsI2cLock, ho, hh]
    rw [access_pc ha]
    exact h.goto hpc (by simp) (by simp) ⟨rfl, rfl, hcalled⟩ (absurd · hv)

theorem LockInv.acquire (h : LockInv k) {c : LockCaller × DimmTick} {needRetry check : Bool}
    (hpc : k.pc = some (.acquire c needRetry check)) : LockInv (k.access (.acquire c needRetry check)) := by
  have hpcOk := h.pcOk
  unfold DimmSys.PcOk at hpcOk
  rw [hpc] at hpcOk
  obtain ⟨rfl, rfl, hcalled, ho⟩ := hpcOk
  have hself : (Function.update k.lock.flags k.dimm.engine
      { k.lock.flags k.dimm.engine with occ := true } k.dimm.engine).occ = true := by simp
  refine ⟨fun e he => ?_, fun hown => ?_, fun _ _ => trivial, ⟨rfl, hcalled, hself⟩, h.reset, h.clean, ?_⟩
  · show (Function.update k.lock.flags k.dimm.engine _ e).host = true
    by_cases hee : e = k.dimm.engine
    · subst hee
      simpa using h.host _ he
    · rw [Function.update_of_ne hee]
      exact h.host e he
  · -- the OCC has not owned the lock
    have := h.owner ⟨hown.1, hown.2.1, by simp [hpc]⟩
    rw [ho] at this
    cases this.1
  · have := h.told
    simp only [DimmSys.owing, hpc] at this
    exact this

theorem LockInv.verify (h : LockInv k) {caller : LockCaller} {needRetry : Bool}
    (hpc : k.pc = some (.verify (caller, env) needRetry)) : LockInv (k.access (.verify (caller, env) needRetry)) := by
  have hpcOk := h.pcOk
  unfold DimmSys.PcOk at hpcOk
  rw [hpc] at hpcOk
  obtain ⟨rfl, hcalled, ho⟩ := hpcOk
  cases hh : (k.lock.flags k.dimm.engine).host
  · have ha : k.lock.access k.dimm.engine (.verify (caller, env) false) = (k.lock, .ret (caller, env) true) := by
      simp [I2cLock.access, occOwnsI2cLock, hostWantsI2cLock, ho, hh, I2cLock.loop]
    rw [access_ret ha]
    exact h.ret hpc (by simp) caller hcalled (fun _ => ⟨ho, hh⟩) (by simp)
  · have ha : k.lock.access k.dimm.engine (.verify (caller, env) false) =
        (k.lock, .pc (.release k.dimm.engine (some ((caller, env), false)))) := by
      simp [I2cLock.access, hostWantsI2cLock, hh]
    rw [access_pc ha]
    exact h.goto hpc (by simp) (by simp) ⟨rfl, rfl, hcalled⟩ fun _ => trivial

theorem LockInv.release (h : LockInv k) {e : I2cEngine} {c : Option ((LockCaller × DimmTick) × Bool)}
    (hpc : k.pc = some (.release e c)) : LockInv (k.access (.release e c)) := by
  have hpcOk := h.pcOk
  unfold DimmSys.PcOk at hpcOk
  rw [hpc] at hpcOk
  refine ⟨fun e' he => ?_, fun hown => absurd rfl (hown.2.2 c), fun hh ho => ?_, ?_, h.reset, h.clean, ?_⟩
  · show (Function.update k.lock.flags e _ e').host = true
    by_cases hee : e' = e
    · subst hee
      simpa using h.host _ he
    · rw [Function.update_of_ne hee]
      exact h.host e' he
  · exfalso
    have ho : (Function.update k.lock.flags e { k.lock.flags e with occ := false } k.dimm.engine).occ = true := ho
    by_cases hee : k.dimm.engine = e
    · rw [← hee, Function.update_self] at ho
      cases ho
    · rw [Function.update_of_ne hee] at ho
      have := h.both hh ho
      unfold DimmSys.Verifying at this
      rw [hpc] at this
      cases c with
      | none => exact this
      | some c => exact hee hpcOk.2.1.symm
  · cases c with
    | none => exact hpcOk
    | some c => exact ⟨hpcOk.1, hpcOk.2.2⟩
  · have := h.told
    simp only [DimmSys.owing, hpc] at this
    show k.lock.released + 1 = k.lock.intr.i2cOwed + 1
    rw [this]

theorem LockInv.notify (h : LockInv k) {c : Option ((LockCaller × DimmTick) × Bool)}
    (hpc : k.pc = some (.notify c)) (hok : LockStepOk k .access) : LockInv (k.access (.notify c)) := by
  have hpcOk := h.pcOk
  have htold := h.told
  have hv : ¬k.Verifying := by simp [DimmSys.Verifying, hpc]
  unfold DimmSys.PcOk at hpcOk
  unfold LockStepOk at hok
  unfold DimmSys.owing at htold
  rw [hpc] at hpcOk hok htold
  rw [and_i2cOwnershipChange] at hok
  have htold' : k.lock.released = (k.lock.intr.notifyHost i2cOwnershipChange).2.i2cOwed := by
    rw [i2cOwed_release hok.1 hok.2]
    exact htold
  have hapart : k.lock.hostOwns k.dimm.engine = true → (k.lock.flags k.dimm.engine).occ = false := fun hh => by
    by_contra hne
    exact hv (h.both hh (by simpa using hne))
  cases c with
  | none =>
    refine ⟨h.host, fun hown => ?_, fun hh ho => ?_, trivial, h.reset, h.clean, htold'⟩
    · exact absurd (hown.2.1.symm.trans (hpcOk hown.1)) (by decide)
    · exact absurd (ho.symm.trans (hapart hh)) (by decide)
  | some c =>
    obtain ⟨⟨caller, env⟩, needRetry⟩ := c
    obtain ⟨rfl, hcalled⟩ := hpcOk
    exact LockInv.resume (l := { k.lock with intr := (k.lock.intr.notifyHost i2cOwnershipChange).2 }) caller hcalled h.clean
      h.host (by simp) hapart htold'

/-! ## The events -/

/-- What the host and the other tasks do leaves the OCC's bit of the engine as it is. -/
theorem LockInv.setLock (h : LockInv k) {l : I2cLock} (hhost : ∀ e, l.hostOwns e = true → (l.flags e).host = true)
    (hocc : (l.flags k.dimm.engine).occ = (k.lock.flags k.dimm.engine).occ)
    (howns : l.hostOwns k.dimm.engine = true → (k.lock.flags k.dimm.engine).occ = true →
      k.lock.hostOwns k.dimm.engine = true)
    (htold : l.released = l.intr.i2cOwed + k.owing) : LockInv { k with lock := l } where
  host := hhost
  owner := fun ho => by
    obtain ⟨hset, hnot⟩ := h.owner ho
    refine ⟨hocc.trans hset, ?_⟩
    by_contra hne
    have := howns (by simpa using hne) hset
    rw [hnot] at this
    cases this
  both := fun hh ho => h.both (howns hh (hocc ▸ ho)) (hocc ▸ ho)
  pcOk := by
    have := h.pcOk
    unfold DimmSys.PcOk at this ⊢
    dsimp only
    rw [hocc]
    exact this
  reset := h.reset
  clean := h.clean
  told := htold

theorem LockInv.disable (h : LockInv k) (hpc : k.pc = none) :
    LockInv { k with dimm := { k.dimm with memMonitoringAllowed := false }, pc := k.releasePc } := by
  have hs := h.settled hpc
  refine ⟨h.host, ?_, fun hh ho => ?_, ?_, ?_, h.clean, ?_⟩
  · rintro ⟨ha, -⟩
    cases ha
  · exact absurd (ho.symm.trans (hs.apart hh)) (by decide)
  · unfold DimmSys.PcOk DimmSys.releasePc
    cases k.dimm.args.i2cEngine <;> simp
  · rintro ha
    cases ha
  · rw [hs.told]
    unfold DimmSys.owing DimmSys.releasePc
    cases k.dimm.args.i2cEngine <;> rfl

theorem LockInv.allow (h : LockInv k) (hok : LockStepOk k .allow) :
    LockInv { k with dimm := { k.dimm with memMonitoringAllowed := true } } := by
  rcases hok with ha | ⟨ho, hr⟩
  · rw [← ha]
    exact h
  · refine ⟨h.host, ?_, h.both, ?_, ?_, h.clean, h.told⟩
    · rintro ⟨-, ho', -⟩
      exact absurd (ho.symm.trans ho') (by decide)
    · have hcalled : ({ k with dimm := { k.dimm with memMonitoringAllowed := true } } : DimmSys).Called := ⟨rfl, hr⟩
      have := h.pcOk
      unfold DimmSys.PcOk at this ⊢
      dsimp only
      split <;> simp_all only [implies_true, and_self, true_and]
    · intro _ hr'
      exact absurd (hr.symm.trans hr') (by decide)

theorem LockInv.hostWrite (h : LockInv k) (e : I2cEngine) (b : Bool) : LockInv { k with lock := k.lock.hostWrite e b } := by
  refine h.setLock (fun e' he => ?_) ?_ (fun hh _ => ?_) h.told
  · by_cases hee : e' = e
    · subst hee
      simp only [I2cLock.hostWrite, Function.update_self, Bool.and_eq_true] at he ⊢
      exact he.1
    · simp only [I2cLock.hostWrite, Function.update_of_ne hee] at he ⊢
      exact h.host e' he
  · by_cases hee : k.dimm.engine = e
    · simp [I2cLock.hostWrite, hee]
    · simp [I2cLock.hostWrite, Function.update_of_ne hee]
  · by_cases hee : k.dimm.engine = e
    · subst hee
      simp only [I2cLock.hostWrite, Function.update_self, Bool.and_eq_true] at hh
      exact hh.2
    · simpa [I2cLock.hostWrite, Function.update_of_ne hee] using hh

theorem LockInv.hostRead (h : LockInv k) (e : I2cEngine) : LockInv { k with lock := k.lock.hostRead e } := by
  refine h.setLock (fun e' he => ?_) rfl (fun hh ho => ?_) h.told
  · by_cases hee : e' = e
    · subst hee
      simp only [I2cLock.hostRead, Function.update_self, Bool.or_eq_true, Bool.and_eq_true] at he ⊢
      exact he.elim (h.host _) And.left
    · simp only [I2cLock.hostRead, Function.update_of_ne hee] at he ⊢
      exact h.host e' he
  · by_cases hee : k.dimm.engine = e
    · subst hee
      simpa [I2cLock.hostRead, ho] using hh
    · simpa [I2cLock.hostRead, Function.update_of_ne hee] using hh

theorem LockInv.setOcc_other (h : LockInv k) {e : I2cEngine} (hee : e ≠ k.dimm.engine) (b : Bool) :
    LockInv { k with lock := k.lock.setOcc e b } := by
  refine h.setLock (fun e' he => ?_) ?_ (fun hh _ => hh) h.told
  · have := h.host e' he
    by_cases hee' : e' = e
    · subst hee'
      simpa [I2cLock.setOcc] using this
    · simpa [I2cLock.setOcc, Function.update_of_ne hee'] using this
  · simp [I2cLock.setOcc, Function.update_of_ne (Ne.symm hee)]

theorem LockInv.next {e : DimmEvent} (h : LockInv k) (hok : LockStepOk k e) (hn : k.next e = some k') : LockInv k' := by
  cases e <;> simp only [DimmSys.next] at hn
  case hostWrite e b =>
    cases hn
    exact h.hostWrite e b
  case hostRead e =>
    cases hn
    exact h.hostRead e
  case hostClear =>
    cases hn
    exact h.setLock h.host rfl (fun hh _ => hh) h.told
  case other e b =>
    split at hn
    · cases hn
    · rename_i hee
      cases hn
      exact h.setOcc_other hee b
  case notify i_reason =>
    split at hn
    · rename_i hr
      cases hn
      refine h.setLock h.host rfl (fun hh _ => hh) ?_
      rw [i2cOwed_notifyHost]
      · exact h.told
      · rcases hr with rfl | rfl
        · exact .inl (by decide)
        · exact .inl (by decide)
    · cases hn
  case miscChecks =>
    cases hn
    refine h.setLock h.host rfl (fun hh _ => hh) ?_
    rw [i2cOwed_taskMisc405Checks]
    exact h.told
  case gpeDone rc maxPorts =>
    split at hn
    · cases hn
      exact ⟨h.host, h.owner, h.both, h.pcOk, h.reset, h.clean, h.told⟩
    · cases hn
  case tick env =>
    split at hn
    · rename_i hpc
      cases hn
      exact h.tick (Option.isNone_iff_eq_none.1 hpc)
    · cases hn
  case access =>
    split at hn
    · rename_i p hpc
      cases hn
      cases p with
      | flags c needRetry owns => exact h.flags hpc hok
      | acquire c needRetry check => exact h.acquire hpc
      | verify c needRetry => exact h.verify hpc
      | release e c => exact h.release hpc
      | notify c => exact h.notify hpc hok
    · cases hn
  case disable =>
    split at hn
    · rename_i hpc
      cases hn
      exact h.disable (Option.isNone_iff_eq_none.1 hpc)
    · cases hn
  case allow =>
    cases hn
    exact h.allow hok

theorem lockInv_start (engine : I2cEngine) (flags : OccFlags) : LockInv (.start engine flags) := by
  refine ⟨by simp [DimmSys.start], ?_, by simp [DimmSys.start], trivial, by simp [DimmSys.start], rfl, ?_⟩
  · rintro ⟨ha, -⟩
    cases ha
  · simp [DimmSys.start, DimmSys.owing, i2cOwed, i2cPending]

end Steps

/-! ## The other engines -/

/-- The events that are not about another engine's bits. -/
def onEngine (engine : I2cEngine) : DimmEvent → Bool
  | .hostWrite e _ | .hostRead e => decide (e = engine)
  | .other _ _ => false
  | _ => true

/-- The flag register with no other engine's bits. -/
def OccFlags.only (flags : OccFlags) (engine : I2cEngine) : OccFlags :=
  fun e => if e = engine then flags e else ⟨false, false⟩

def I2cLock.only (l : I2cLock) (engine : I2cEngine) : I2cLock :=
  { l with
    flags := OccFlags.only l.flags engine
    hostOwns := fun e => decide (e = engine) && l.hostOwns e }

def DimmSys.only (k : DimmSys) : DimmSys := { k with lock := k.lock.only k.dimm.engine }

section Only

variable {l : I2cLock} {k k' : DimmSys} {engine e : I2cEngine} {κ : Type}

@[simp] theorem only_self (flags : OccFlags) : OccFlags.only flags engine engine = flags engine := if_pos rfl

theorem only_setOcc (b : Bool) : (l.only engine).setOcc engine b = (l.setOcc engine b).only engine := by
  unfold I2cLock.only I2cLock.setOcc
  congr 1
  funext e
  by_cases he : e = engine
  · subst he
    simp
  · simp [OccFlags.only, he]

theorem only_setOcc_of_ne (he : e ≠ engine) (b : Bool) : (l.setOcc e b).only engine = l.only engine := by
  unfold I2cLock.only I2cLock.setOcc
  congr 1
  funext e'
  by_cases h : e' = engine
  · subst h
    simp [Function.update_of_ne (Ne.symm he)]
  · simp [OccFlags.only, h]

theorem only_release : (l.only engine).setOcc e false = (l.setOcc e false).only engine := by
  by_cases he : e = engine
  · subst he
    exact only_setOcc false
  · rw [only_setOcc_of_ne he]
    unfold I2cLock.only I2cLock.setOcc
    congr 1
    funext e'
    by_cases h : e' = e
    · subst h
      simp [OccFlags.only, he]
    · rw [Function.update_of_ne h]

theorem neitherLockBit_only {flags : OccFlags} (hok : engine = .engineC ∨ neitherLockBit flags = true) :
    neitherLockBit (OccFlags.only flags engine) = neitherLockBit flags := by
  by_cases he : engine = .engineC
  · subst he
    rfl
  · rw [hok.resolve_left he]
    simp [neitherLockBit, OccFlags.only, Ne.symm he]

/-- The lock's code does the same without the other engines' bits, when these do not keep it from reading
the register back. -/
theorem access_only {p : LockPc κ}
    (hok : ∀ c needRetry owns, p = .flags c needRetry owns →
      engine = .engineC ∨ hostWantsI2cLock l.flags engine = true ∨ neitherLockBit l.flags = true) :
    (l.only engine).access engine p = ((l.access engine p).1.only engine, (l.access engine p).2) := by
  have hwants : hostWantsI2cLock (l.only engine).flags engine = hostWantsI2cLock l.flags engine := by
    simp [hostWantsI2cLock, I2cLock.only]
  have howns : occOwnsI2cLock (l.only engine).flags engine = occOwnsI2cLock l.flags engine := by
    simp [occOwnsI2cLock, I2cLock.only]
  cases p with
  | flags c needRetry owns =>
    simp only [I2cLock.access, hwants, howns]
    by_cases hh : hostWantsI2cLock l.flags engine = true
    · simp only [hh, if_true]
      split_ifs <;> rfl
    · have hcheck : neitherLockBit (l.only engine).flags = neitherLockBit l.flags :=
        neitherLockBit_only ((hok c needRetry owns rfl).imp_right fun h => h.resolve_left hh)
      simp only [hh, hcheck]
      split_ifs <;> rfl
  | acquire c needRetry check => simp only [I2cLock.access, only_setOcc]
  | verify c needRetry =>
    simp only [I2cLock.access, hwants, howns]
    split_ifs <;> rfl
  | release e c =>
    simp only [I2cLock.access, only_release]
    rfl
  | notify c => rfl

theorem after_only {env : DimmTick} {r : DimmSm × TaskExit} (he : r.1.engine = k.dimm.engine) :
    k.only.after env r = (k.after env r).only := by
  unfold DimmSys.only DimmSys.after DimmSys.releasePc
  simp [I2cLock.only, he]

theorem called_of_ret (h : LockInv k) {p : LockPc (LockCaller × DimmTick)} (hpc : k.pc = some p)
    {c : LockCaller × DimmTick} {owns : Bool} (ha : (k.lock.access k.dimm.engine p).2 = .ret c owns) : k.Called := by
  have hpcOk := h.pcOk
  unfold DimmSys.PcOk at hpcOk
  rw [hpc] at hpcOk
  cases p with
  | flags c needRetry owns => exact hpcOk.2.2
  | acquire c needRetry check => exact hpcOk.2.2.1
  | verify c needRetry => exact hpcOk.2.1
  | release e c => simp [I2cLock.access] at ha
  | notify c =>
    cases c with
    | none => simp [I2cLock.access] at ha
    | some c => exact hpcOk.2

theorem access_engine (h : LockInv k) {p : LockPc (LockCaller × DimmTick)} (hpc : k.pc = some p) :
    (k.access p).dimm.engine = k.dimm.engine := by
  unfold DimmSys.access
  dsimp only
  split
  · rfl
  · rename_i caller env owns ha
    obtain ⟨d', he, -, -, -, -, hp⟩ := @Part.resume k.dimm env (called_of_ret h hpc ha).2 caller owns
    exact hp.engine.trans he
  · rfl

theorem next_engine (h : LockInv k) {e : DimmEvent} (hn : k.next e = some k') : k'.dimm.engine = k.dimm.engine := by
  cases e <;> simp only [DimmSys.next] at hn
  case tick env =>
    split at hn <;> cases hn
    exact Part.taskDimmSm.engine
  case access =>
    split at hn <;> cases hn
    rename_i p hpc
    exact access_engine h hpc
  all_goals
    try split at hn
    all_goals cases hn
    all_goals rfl

theorem access_only_sys (h : LockInv k) {p : LockPc (LockCaller × DimmTick)} (hpc : k.pc = some p)
    (hok : LockStepOk k .access) : k.only.access p = (k.access p).only := by
  have hread : ∀ c needRetry owns, p = .flags c needRetry owns → k.dimm.engine = .engineC ∨
      hostWantsI2cLock k.lock.flags k.dimm.engine = true ∨ neitherLockBit k.lock.flags = true := by
    rintro c needRetry owns rfl
    unfold LockStepOk at hok
    rw [hpc] at hok
    exact hok
  have ha : k.only.lock.access k.only.dimm.engine p =
      ((k.lock.access k.dimm.engine p).1.only k.dimm.engine, (k.lock.access k.dimm.engine p).2) := access_only hread
  unfold DimmSys.access
  rw [ha]
  dsimp only
  split
  · rfl
  · rename_i caller env owns hr
    obtain ⟨d', he, -, -, -, -, hp⟩ := @Part.resume k.dimm env (called_of_ret h hpc hr).2 caller owns
    exact @after_only { k with lock := (k.lock.access k.dimm.engine p).1 } env _ (hp.engine.trans he)
  · rfl

theorem hostWrite_only (b : Bool) : (l.only engine).hostWrite engine b = (l.hostWrite engine b).only engine := by
  unfold I2cLock.only I2cLock.hostWrite
  congr 1 <;> funext e <;> by_cases he : e = engine
  · subst he
    simp
  · simp [OccFlags.only, he]
  · subst he
    simp
  · simp [he]

theorem hostWrite_only_of_ne (he : e ≠ engine) (b : Bool) : (l.hostWrite e b).only engine = l.only engine := by
  unfold I2cLock.only I2cLock.hostWrite
  congr 1 <;> funext e' <;> by_cases h : e' = engine
  · subst h
    simp [Function.update_of_ne (Ne.symm he)]
  · simp [OccFlags.only, h]
  · subst h
    simp [Function.update_of_ne (Ne.symm he)]
  · simp [h]

theorem hostRead_only : (l.only engine).hostRead engine = (l.hostRead engine).only engine := by
  unfold I2cLock.only I2cLock.hostRead
  congr 1
  funext e
  by_cases he : e = engine
  · subst he
    simp
  · simp [he]

theorem hostRead_only_of_ne (he : e ≠ engine) : (l.hostRead e).only engine = l.only engine := by
  unfold I2cLock.only I2cLock.hostRead
  congr 1
  funext e'
  by_cases h : e' = engine
  · subst h
    simp [Function.update_of_ne (Ne.symm he)]
  · simp [h]

/-- What happens on the configured engine happens without the others. -/
theorem next_only (h : LockInv k) {e : DimmEvent} (hok : LockStepOk k e) (hn : k.next e = some k')
    (hk : onEngine k.dimm.engine e = true) : k.only.next e = some k'.only := by
  cases e <;> simp only [DimmSys.next] at hn
  case hostWrite e b =>
    cases hn
    obtain rfl := of_decide_eq_true hk
    exact congrArg (fun l => some { k with lock := l }) (hostWrite_only b)
  case hostRead e =>
    cases hn
    obtain rfl := of_decide_eq_true hk
    exact congrArg (fun l => some { k with lock := l }) hostRead_only
  case other e b => cases hk
  case tick env =>
    split at hn <;> cases hn
    rename_i hpc
    show (if k.pc.isNone then _ else _) = _
    rw [if_pos hpc, ← after_only Part.taskDimmSm.engine]
    rfl
  case access =>
    split at hn <;> cases hn
    rename_i p hpc
    have hpc' : k.only.pc = some p := hpc
    simp only [DimmSys.next, hpc', access_only_sys h hpc hok]
  case notify i_reason =>
    split at hn <;> cases hn
    rename_i hr
    exact if_pos hr
  case gpeDone rc maxPorts =>
    split at hn <;> cases hn
    rename_i hr
    exact if_pos hr
  case disable =>
    split at hn <;> cases hn
    rename_i hr
    exact if_pos hr
  all_goals
    cases hn
    rfl

theorem only_eq {e : DimmEvent} (hn : k.next e = some k') (hk : onEngine k.dimm.engine e = false) :
    k'.only = k.only := by
  cases e <;> simp only [DimmSys.next] at hn <;> try cases hk
  case hostWrite e b =>
    cases hn
    exact congrArg (fun l => { k with lock := l }) (hostWrite_only_of_ne (of_decide_eq_false hk) b)
  case hostRead e =>
    cases hn
    exact congrArg (fun l => { k with lock := l }) (hostRead_only_of_ne (of_decide_eq_false hk))
  case other e b =>
    split at hn <;> cases hn
    rename_i he
    exact congrArg (fun l => { k with lock := l }) (only_setOcc_of_ne he b)

theorem start_only (flags : OccFlags) :
    (DimmSys.start engine flags).only = .start engine (OccFlags.only flags engine) := by
  simp [DimmSys.only, DimmSys.start, I2cLock.only]

end Only

/-! ## Runs -/

/-- The OCC and the host do not both own the configured engine, no operation was started while the host did,
and each release was told to the host once or will be. -/
structure DimmLockOk (k : DimmSys) : Prop where
  exclusive : ¬(k.OccOwns ∧ k.lock.hostOwns k.dimm.engine = true)
  starts : k.conflict = false
  told : k.lock.released = k.lock.intr.i2cSent + k.lock.intr.i2cPending + k.owing

/-- In every run that meets the conditions. Without what happens on the other engines the run leads to the
same state of this one. -/
theorem run_dimmLockOk {k : DimmSys} {engine : I2cEngine} {flags : OccFlags} {es : List DimmEvent}
    (h : Run (Guarded LockStepOk (StepOf DimmSys.next)) (.start engine flags) es k) :
    DimmLockOk k ∧
      Run (StepOf DimmSys.next) (.start engine (OccFlags.only flags engine)) (es.filter (onEngine engine)) k.only := by
  have hstart : LockInv (.start engine flags) := lockInv_start engine flags
  have hstep : ∀ s e t, LockInv s ∧ s.dimm.engine = engine → Guarded LockStepOk (StepOf DimmSys.next) s e t →
      LockInv t ∧ t.dimm.engine = engine := fun s e t hs he =>
    ⟨hs.1.next he.1 he.2, (next_engine hs.1 he.2).trans hs.2⟩
  have hk := (h.invariant hstep ⟨hstart, rfl⟩).1
  refine ⟨⟨fun ho => ?_, hk.clean, hk.told⟩, ?_⟩
  · exact absurd ((hk.owner ho.1).2.symm.trans ho.2) (by decide)
  · rw [← start_only]
    refine h.project hstep ?_ ?_ ⟨hstart, rfl⟩
    · rintro s e t ⟨hs, rfl⟩ he hkeep
      exact next_only hs he.1 he.2 hkeep
    · rintro s e t ⟨hs, rfl⟩ he hkeep
      exact only_eq he.2 hkeep

/-- The host uses engine C. -/
def hostOnC : OccFlags := fun e => if e = .engineC then ⟨true, false⟩ else ⟨false, false⟩

def noFlags : OccFlags := fun _ => ⟨false, false⟩

/-- The OCC owns engine C and the DIMMs are on it: the lock is kept while a DIMM is read, and released when the
host asks for it. -/
def engineCRun : List DimmEvent :=
  [.allow, .tick ⟨0, false, true, true⟩, .access, .access, .access, .gpeDone 0 1, .hostWrite .engineD true,
    .hostWrite .engineC true]

theorem run_dimmLockOk_engineC : ∃ k, exec DimmSys.next (.start .engineC noFlags) engineCRun = some k ∧
    k.dimm.started = 1 ∧ DimmLockOk k :=
  ⟨_, rfl, by decide, (@run_dimmLockOk _ .engineC noFlags engineCRun (run_guarded_of_exec rfl)).1⟩

/-- Engine E is free, and the host takes it between the OCC's read and its write, which is not read back as the
host has a bit of engine C: an operation is started on an engine that the host owns. -/
def engineERun : List DimmEvent :=
  [.allow, .tick ⟨0, false, true, true⟩, .access, .hostWrite .engineE true, .hostRead .engineE, .access]

theorem not_dimmLockOk_engineE : ∃ k, exec DimmSys.next (.start .engineE hostOnC) engineERun = some k ∧ ¬DimmLockOk k :=
  ⟨_, rfl, fun h => absurd h.starts (by decide)⟩

end Occ.Dimm
