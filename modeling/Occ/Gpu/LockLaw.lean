/-
The I2C lock of the GPU task: a GPU operation is sent only while the OCC holds the lock and the last one is done with, and
a state machine that the task is not in is at its start. The task remembers that it owns the lock and asks for it again
only when it does not; but the lock is released together with stopping the monitoring, and the monitoring can be allowed
again from outside.
-/
import Occ.Gpu.TaskSpec
import Occ.Lib.Literals

namespace Occ.Gpu

open Transition
open Function (update)

attribute [local instance] neZero_three

/-! ## The law -/

/-- No state machine is under way. -/
structure GpuSm.AllNew (s : GpuSm) : Prop where
  ops : ∀ o, (s.sm o).stage = 0
  reset : s.reset.stage = resetStateNew

structure LockLaw (s : GpuSm) : Prop where
  /-- What was scheduled, was scheduled while the lock was held. -/
  granted : ∀ r ∈ s.watch.requests, r.taken = true → r.held = true
  /-- The arguments were written only when no request was in flight. -/
  alone : ∀ r ∈ s.watch.requests, r.idle = true
  fresh : ∀ o, s.gpuState ≠ .op o → (s.sm o).stage = 0
  freshReset : s.gpuState ≠ .reset → s.reset.stage = resetStateNew

/-- Monitoring is not allowed again while the task counts on a lock that has been released. -/
def LockOk (s : GpuSm) : Event → Prop
  | .allowMonitoring => s.occOwnsLock = true → s.gpuState ≠ .noLock → s.watch.held = true
  | _ => True

instance (s : GpuSm) (e : Event) : Decidable (LockOk s e) := by
  cases e <;> unfold LockOk <;> infer_instance

/-! ## Invariant -/

/-- What holds in and between the turns of the loop. -/
structure LockInv (s : GpuSm) : Prop where
  requests : ∀ r ∈ s.watch.requests, r.held = true ∧ r.idle = true
  fresh : ∀ o, s.gpuState ≠ .op o → (s.sm o).stage = 0
  freshReset : s.gpuState ≠ .reset → s.reset.stage = resetStateNew
  /-- The task that monitors has the lock in every state in which it talks to a GPU. -/
  held : s.monitoringAllowed = true → s.occOwnsLock = true → s.gpuState = .noLock ∨ s.watch.held = true
  i2cReset : s.i2cResetRequired = false
  firstRun : s.gpuFirstRun = true → s.occOwnsLock = false

theorem LockInv.allNew {s : GpuSm} (h : LockInv s) (hstate : s.gpuState = .idle ∨ s.gpuState = .noLock) : s.AllNew := by
  constructor
  · intro o
    refine h.fresh o fun he => ?_
    rcases hstate with hs | hs <;> rw [hs] at he <;> cases he
  · refine h.freshReset fun he => ?_
    rcases hstate with hs | hs <;> rw [hs] at he <;> cases he

/-- Between two calls of the task, it does not own the lock only when it is idle or waits for it. -/
structure Between (s : GpuSm) : Prop extends LockInv s where
  asks : s.occOwnsLock = false → s.gpuState = .idle ∨ s.gpuState = .noLock

/-- In the loop, the lock has been asked for. -/
structure InLoop (s : GpuSm) : Prop extends LockInv s where
  asks : s.occOwnsLock = false → s.gpuState = .noLock
  ran : s.gpuFirstRun = false

theorem InLoop.between {s : GpuSm} (h : InLoop s) : Between s := ⟨h.toLockInv, fun ho => .inr (h.asks ho)⟩

/-! ## A turn -/

section Turn

variable {c : Config} {s t : GpuSm} {ok done : Bool}

theorem InLoop.checkMonitoring (h : InLoop s) (hnew : s.monitoringAllowed = false → s.AllNew) :
    InLoop s.checkMonitoring ∧
      (s.checkMonitoring.gpuState = .noLock ∨
        (s.checkMonitoring.watch.held = true ∧ s.checkMonitoring.occOwnsLock = true)) := by
  unfold GpuSm.checkMonitoring
  cases hm : s.monitoringAllowed with
  | true =>
    rw [if_pos rfl]
    refine ⟨h, ?_⟩
    cases ho : s.occOwnsLock with
    | false => exact .inl (h.asks ho)
    | true =>
      rcases h.held hm ho with hs | hs
      · exact .inl hs
      · exact .inr ⟨hs, rfl⟩
  | false =>
    rw [if_neg (by decide)]
    obtain ⟨hops, hreset⟩ := hnew hm
    exact ⟨{ requests := h.requests, fresh := fun o _ => hops o, freshReset := fun _ => hreset, held := fun _ ho => nomatch ho
             i2cReset := h.i2cReset, firstRun := fun _ => rfl, asks := fun _ => rfl, ran := h.ran }, .inl rfl⟩

/-- After a call of the state machine. -/
structure Called (s : GpuSm) (done : Bool) : Prop where
  requests : ∀ r ∈ s.watch.requests, r.held = true ∧ r.idle = true
  fresh : ∀ o, (done = true ∨ s.gpuState ≠ .op o) → (s.sm o).stage = 0
  freshReset : (done = true ∨ s.gpuState ≠ .reset) → s.reset.stage = resetStateNew
  held : (s.monitoringAllowed = true ∨ done = true) → s.gpuState = .noLock ∨ (s.watch.held = true ∧ s.occOwnsLock = true)
  i2cReset : s.i2cResetRequired = true → done = true
  asks : s.occOwnsLock = false → s.gpuState = .noLock
  ran : s.gpuFirstRun = false

theorem InLoop.called (h : InLoop s)
    (hheld : s.gpuState = .noLock ∨ (s.watch.held = true ∧ s.occOwnsLock = true)) (hran : GpuSm.Ran s t done)
    (hsends : s.gpuState = .noLock → t.watch.requests = s.watch.requests) : Called t done where
  requests := by
    intro r hr
    rcases hran.requests with hreq | ⟨hidle, _, ok, hreq⟩
    · exact h.requests r (hreq ▸ hr)
    · rcases hheld with hno | hheld
      · exact h.requests r (hsends hno ▸ hr)
      · rw [hreq, List.mem_cons] at hr
        rcases hr with rfl | hr
        · exact ⟨hheld.1, rfl⟩
        · exact h.requests r hr
  fresh o ho := by
    rw [hran.gpuState] at ho
    by_cases hstate : s.gpuState = .op o
    · rcases ho with hdone | hne
      · exact (hran.fresh hdone).1 o hstate
      · exact absurd hstate hne
    · rw [hran.others o hstate]
      exact h.fresh o hstate
  freshReset ho := by
    rw [hran.gpuState] at ho
    by_cases hstate : s.gpuState = .reset
    · rcases ho with hdone | hne
      · exact (hran.fresh hdone).2 hstate
      · exact absurd hstate hne
    · rw [hran.otherReset hstate]
      exact h.freshReset hstate
  held hm := by
    rw [hran.gpuState, hran.occOwnsLock]
    rcases hran.lock with ⟨hmon, hsame⟩ | ⟨hoff, _, hdone⟩
    · rw [hsame]
      exact hheld
    · rcases hm with hm | hm
      · rw [hoff] at hm
        cases hm
      · rw [hdone] at hm
        cases hm
  i2cReset hi := by
    rcases hran.i2cReset with hsame | hdone
    · rw [hsame, h.i2cReset] at hi
      cases hi
    · exact hdone
  asks ho := by
    rw [hran.gpuState]
    exact h.asks (hran.occOwnsLock ▸ ho)
  ran := by rw [hran.gpuFirstRun, h.ran]

/-- Before the end of a turn. -/
structure Ready (s : GpuSm) (start : Bool) : Prop where
  requests : ∀ r ∈ s.watch.requests, r.held = true ∧ r.idle = true
  fresh : ∀ o, s.gpuState ≠ .op o → (s.sm o).stage = 0
  freshReset : s.gpuState ≠ .reset → s.reset.stage = resetStateNew
  held : s.monitoringAllowed = true ∨ start = true ∨ s.gpuState = .idle →
    s.gpuState = .noLock ∨ (s.watch.held = true ∧ s.occOwnsLock = true)
  allNew : start = true ∨ s.i2cResetRequired = true → s.AllNew
  asks : s.occOwnsLock = false → s.gpuState = .noLock
  ran : s.gpuFirstRun = false

theorem Ready.choose {o : Op} {g : Fin 3} (hreq : ∀ r ∈ s.watch.requests, r.held = true ∧ r.idle = true)
    (hnew : s.AllNew) (hheld : s.watch.held = true) (howns : s.occOwnsLock = true) (hran : s.gpuFirstRun = false) :
    Ready (s.choose o g) true where
  requests := hreq
  fresh p _ := hnew.ops p
  freshReset _ := hnew.reset
  held _ := .inr ⟨hheld, howns⟩
  allNew _ := ⟨hnew.ops, hnew.reset⟩
  asks ho := absurd (howns.symm.trans ho) (by decide)
  ran := hran

theorem Ready.idle {b start : Bool} (hreq : ∀ r ∈ s.watch.requests, r.held = true ∧ r.idle = true)
    (hnew : s.AllNew) (hheld : s.watch.held = true) (howns : s.occOwnsLock = true) (hran : s.gpuFirstRun = false) :
    Ready { s with memTempNeeded := b, gpuState := .idle } start where
  requests := hreq
  fresh p _ := hnew.ops p
  freshReset _ := hnew.reset
  held _ := .inr ⟨hheld, howns⟩
  allNew _ := ⟨hnew.ops, hnew.reset⟩
  asks ho := absurd (howns.symm.trans ho) (by decide)
  ran := hran

theorem InLoop.runState (h : InLoop s) (hheld : s.gpuState = .noLock ∨ (s.watch.held = true ∧ s.occOwnsLock = true)) :
    Ready (s.runState c ok).1 (s.runState c ok).2 := by
  have hquiet : s.gpuState = .noLock → (s.machine c ok).1.watch.requests = s.watch.requests := by
    intro hs
    unfold GpuSm.machine
    rw [hs]
  have hcalled := h.called hheld (GpuSm.machine_ran c s ok) hquiet
  unfold GpuSm.runState
  simp only
  generalize hran : s.machine c ok = ran at hcalled
  obtain ⟨t, done⟩ := ran
  simp only at hcalled ⊢
  have hstate : t.gpuState = s.gpuState := by
    have hr := GpuSm.machine_ran c s ok
    rw [hran] at hr
    exact hr.gpuState
  cases done with
  | false =>
    rw [if_neg (by decide)]
    refine ⟨hcalled.requests, fun o ho => hcalled.fresh o (.inr ho), fun ho => hcalled.freshReset (.inr ho), ?_, ?_,
      hcalled.asks, hcalled.ran⟩
    · rintro (hm | hstart | hidle)
      · exact hcalled.held (.inl hm)
      · cases hstart
      · replace hidle : s.gpuState = .idle := hstate.symm.trans hidle
        have ht : t = s := by
          unfold GpuSm.machine at hran
          rw [hidle] at hran
          exact (Prod.mk.inj hran).1.symm
        subst ht
        exact hheld
    · rintro (hstart | hi)
      · cases hstart
      · exact absurd (hcalled.i2cReset hi) (by decide)
  | true =>
    rw [if_pos rfl]
    have hnew : (s.looksBack t).AllNew := ⟨fun o => hcalled.fresh o (.inl rfl), hcalled.freshReset (.inl rfl)⟩
    have hlock := hcalled.held (.inr rfl)
    rw [hstate] at hlock
    cases hs : s.gpuState with
    | reset =>
      rw [hs] at hlock
      obtain ⟨hheld, howns⟩ : t.watch.held = true ∧ t.occOwnsLock = true := hlock.resolve_left nofun
      simp only
      unfold GpuSm.afterReset
      simp only
      split
      · exact .choose hcalled.requests ⟨hnew.ops, hnew.reset⟩ hheld howns hcalled.ran
      · exact ⟨hcalled.requests, fun o _ => hnew.ops o, fun _ => hnew.reset, fun _ => .inl rfl, fun _ => ⟨hnew.ops, hnew.reset⟩,
          fun _ => rfl, hcalled.ran⟩
    | op o =>
      rw [hs] at hlock
      obtain ⟨hheld, howns⟩ : t.watch.held = true ∧ t.occOwnsLock = true := hlock.resolve_left nofun
      simp only
      unfold GpuSm.afterOp
      split
      · split
        · exact .idle hcalled.requests hnew hheld howns hcalled.ran
        · exact .choose hcalled.requests hnew hheld howns hcalled.ran
      · split
        · exact .idle hcalled.requests hnew hheld howns hcalled.ran
        · exact .choose hcalled.requests hnew hheld howns hcalled.ran
      · exact .idle hcalled.requests hnew hheld howns hcalled.ran
    | idle =>
      unfold GpuSm.machine at hran
      rw [hs] at hran
      cases hran
    | noLock =>
      unfold GpuSm.machine at hran
      rw [hs] at hran
      cases hran

theorem Ready.inLoop {start : Bool} (h : Ready s start) (hi : s.i2cResetRequired = false) : InLoop s where
  requests := h.requests
  fresh := h.fresh
  freshReset := h.freshReset
  held hm _ := (h.held (.inl hm)).imp_right And.left
  i2cReset := hi
  firstRun hf := by
    rw [h.ran] at hf
    cases hf
  asks := h.asks
  ran := h.ran

theorem InLoop.timer {n : Nat} {a b : Bool} (h : InLoop s) :
    InLoop { s with numCallsForTempRead := n, readTempStartNeeded := a, memTempNeeded := b } where
  requests := h.requests
  fresh := h.fresh
  freshReset := h.freshReset
  held := h.held
  i2cReset := h.i2cReset
  firstRun := h.firstRun
  asks := h.asks
  ran := h.ran

/-- The choice of the next operation. -/
theorem Ready.handleIdle {start : Bool} (h : Ready s start) (hidle : s.gpuState = .idle)
    (hi : s.i2cResetRequired = false) (c : Config) (owns readTempStart memTemp : Bool) :
    InLoop (s.gpuSmHandleIdleState c owns readTempStart memTemp).1 ∧
      (s.gpuSmHandleIdleState c owns readTempStart memTemp).1.AllNew := by
  obtain ⟨hheld, howns⟩ := (h.held (.inr (.inr hidle))).resolve_left (by rw [hidle]; nofun)
  have hops (o : Op) : (s.sm o).stage = 0 := h.fresh o (by rw [hidle]; nofun)
  have hreset : s.reset.stage = resetStateNew := h.freshReset (by rw [hidle]; nofun)
  obtain ⟨u, hu, hcases⟩ := GpuSm.gpuSmHandleIdleState_cases c s owns readTempStart memTemp
  have hnew : u.AllNew := by
    rw [hu.frame]
    exact ⟨hops, hreset⟩
  have hreq : ∀ r ∈ u.watch.requests, r.held = true ∧ r.idle = true := by
    rw [hu.frame]
    exact h.requests
  have huowns : u.occOwnsLock = true := by
    rw [hu.frame]
    exact howns
  have huran : u.gpuFirstRun = false := by
    rw [hu.frame]
    exact h.ran
  have hui : u.i2cResetRequired = false := by
    rw [hu.frame]
    exact hi
  have hustate : u.gpuState = .idle := by
    rw [hu.frame]
    exact hidle
  have hchoose (o : Op) (g : Fin 3) (hheld : u.watch.held = true) : InLoop (u.choose o g) ∧ (u.choose o g).AllNew :=
    ⟨(Ready.choose hreq hnew hheld huowns huran).inLoop hui, hnew.ops, hnew.reset⟩
  have hwait (m : Bool) (w : Watch) (hw : w.requests = u.watch.requests) :
      InLoop { u with gpuState := .noLock, monitoringAllowed := m, watch := w } :=
    { requests := by rw [hw]; exact hreq
      fresh := fun o _ => hnew.ops o
      freshReset := fun _ => hnew.reset
      held := fun _ _ => .inl rfl
      i2cReset := hui
      firstRun := fun hf => absurd (huran.symm.trans hf) (by decide)
      asks := fun _ => rfl
      ran := huran }
  rcases hcases with ⟨hsame, g, _, heq⟩ | ⟨hsame, ⟨_, heq⟩ | ⟨hown, ⟨o, g, _, _, heq⟩ | heq | heq⟩⟩
  · rw [heq]
    exact hchoose _ g (hsame.trans hheld)
  · rw [heq]
    exact ⟨hwait u.monitoringAllowed u.watch rfl, hnew.ops, hnew.reset⟩
  · rw [heq]
    exact hchoose o g (hsame.trans hown)
  · rw [heq]
    exact ⟨hwait false _ rfl, hnew.ops, hnew.reset⟩
  · rw [heq]
    refine ⟨{ requests := hreq, fresh := fun o _ => hnew.ops o, freshReset := fun _ => hnew.reset
              held := fun _ _ => .inr (hsame.trans hown), i2cReset := hui
              firstRun := fun hf => absurd (huran.symm.trans hf) (by decide)
              asks := fun ho => absurd (huowns.symm.trans ho) (by decide), ran := huran }, hnew⟩

theorem Ready.endPass {i : PassInput} {start : Bool} (h : Ready s start) :
    InLoop (s.endPass c i start).1 ∧ ((s.endPass c i start).2 = true → (s.endPass c i start).1.AllNew) := by
  unfold GpuSm.endPass
  cases hi : s.i2cResetRequired with
  | true =>
    rw [if_pos rfl]
    obtain ⟨hops, hreset⟩ := h.allNew (.inr hi)
    refine ⟨⟨⟨h.requests, fun o _ => hops o, fun _ => hreset, ?_, rfl, ?_⟩, ?_, h.ran⟩, nofun⟩
    · intro _ ho
      exact .inr ho
    · intro hf
      exact absurd (h.ran.symm.trans hf) (by decide)
    · intro ho
      replace ho : i.lockReset = false := ho
      simp only [ho, Bool.false_eq_true, if_false]
  | false =>
    rw [if_neg (by decide)]
    by_cases hidle : s.gpuState = .idle
    · rw [if_pos hidle]
      have hnext := h.handleIdle hidle hi c i.lockIdle s.readTempStartNeeded s.memTempNeeded
      generalize s.gpuSmHandleIdleState c i.lockIdle s.readTempStartNeeded s.memTempNeeded = chosen at hnext
      obtain ⟨t, start'⟩ := chosen
      obtain ⟨hloop, hnew⟩ := hnext
      cases start' with
      | false => exact ⟨hloop, fun _ => hnew⟩
      | true =>
        simp only
        split
        · exact ⟨hloop.timer, fun _ => ⟨hnew.ops, hnew.reset⟩⟩
        · split
          · exact ⟨hloop.timer, fun _ => ⟨hnew.ops, hnew.reset⟩⟩
          · exact ⟨hloop, fun _ => hnew⟩
    · rw [if_neg hidle]
      exact ⟨h.inLoop hi, fun hs => h.allNew (.inl hs)⟩

theorem InLoop.pass {i : PassInput} (h : InLoop s) (hnew : s.monitoringAllowed = false → s.AllNew) :
    InLoop (s.pass c i).1 ∧ ((s.pass c i).2 = true → (s.pass c i).1.AllNew) := by
  obtain ⟨hloop, hheld⟩ := h.checkMonitoring hnew
  exact (hloop.runState hheld).endPass

end Turn

/-! ## Runs -/

section Runs

variable {c : Config} {s t : GpuSm} {es : List Event}

/-- What happens before the lock is asked for. In the first call there is no lock to be lost. -/
theorem Between.prepare (h : Between s) (hm : s.monitoringAllowed = true) (c : Config) (ipcInit : Bool) :
    Between ((s.updateGpuResetStatus.firstRun ipcInit).countCall c) ∧
      ((s.updateGpuResetStatus.firstRun ipcInit).countCall c).gpuFirstRun = false ∧
      (((s.updateGpuResetStatus.firstRun ipcInit).countCall c).monitoringAllowed = true ∨
        ((s.updateGpuResetStatus.firstRun ipcInit).countCall c).occOwnsLock = false) := by
  have hfirst : Between (s.updateGpuResetStatus.firstRun ipcInit) ∧
      (s.updateGpuResetStatus.firstRun ipcInit).gpuFirstRun = false ∧
      ((s.updateGpuResetStatus.firstRun ipcInit).monitoringAllowed = true ∨
        (s.updateGpuResetStatus.firstRun ipcInit).occOwnsLock = false) := by
    unfold GpuSm.firstRun
    cases hrun : s.gpuFirstRun with
    | true =>
      have hno := h.firstRun hrun
      rw [if_pos (by exact hrun)]
      cases ipcInit with
      | true =>
        exact ⟨⟨⟨h.requests, h.fresh, h.freshReset, h.held, h.i2cReset, nofun⟩, h.asks⟩, rfl, .inr hno⟩
      | false =>
        exact ⟨⟨⟨h.requests, h.fresh, h.freshReset, nofun, h.i2cReset, nofun⟩, h.asks⟩, rfl, .inr hno⟩
    | false =>
      rw [if_neg (by rw [show s.updateGpuResetStatus.gpuFirstRun = s.gpuFirstRun from rfl, hrun]; decide)]
      exact ⟨⟨⟨h.requests, h.fresh, h.freshReset, h.held, h.i2cReset, h.firstRun⟩, h.asks⟩, hrun, .inl hm⟩
  obtain ⟨hb, hran, hmon⟩ := hfirst
  generalize s.updateGpuResetStatus.firstRun ipcInit = t at hb hran hmon
  unfold GpuSm.countCall
  split
  · exact ⟨hb, hran, hmon⟩
  · split
    · exact ⟨⟨⟨hb.requests, hb.fresh, hb.freshReset, hb.held, hb.i2cReset, hb.firstRun⟩, hb.asks⟩, hran, hmon⟩
    · exact ⟨⟨⟨hb.requests, hb.fresh, hb.freshReset, hb.held, hb.i2cReset, hb.firstRun⟩, hb.asks⟩, hran, hmon⟩

theorem Between.beginTick {i : TickInput} (h : Between s) (hm : s.monitoringAllowed = true) :
    InLoop (s.beginTick c i) ∧ ((s.beginTick c i).monitoringAllowed = false → (s.beginTick c i).AllNew) := by
  obtain ⟨hb, hran, hmon⟩ := h.prepare hm c i.ipcInit
  unfold GpuSm.beginTick
  generalize (s.updateGpuResetStatus.firstRun i.ipcInit).countCall c = t at hb hran hmon
  unfold GpuSm.askForLock
  by_cases hask : t.occOwnsLock = false ∨ t.gpuState = .noLock
  · rw [if_pos hask]
    have hnew : t.AllNew := hb.allNew (hask.elim hb.asks .inr)
    refine ⟨{ requests := hb.requests, fresh := fun o _ => hnew.ops o, freshReset := fun _ => hnew.reset
              held := fun _ ho => .inr ho, i2cReset := hb.i2cReset
              firstRun := fun hf => absurd (hran.symm.trans hf) (by decide), asks := fun ho => ?_, ran := hran },
      fun _ => ⟨hnew.ops, hnew.reset⟩⟩
    replace ho : i.lockBegin = false := ho
    simp only [ho, Bool.false_eq_true, if_false]
  · rw [if_neg hask]
    have howns : t.occOwnsLock = true := by
      cases ho : t.occOwnsLock with
      | true => rfl
      | false => exact absurd (.inl ho) hask
    refine ⟨{ toLockInv := hb.toLockInv, asks := fun ho => absurd (.inl ho) hask, ran := hran }, fun hoff => ?_⟩
    rcases hmon with hon | hno
    · rw [hon] at hoff
      cases hoff
    · rw [howns] at hno
      cases hno

theorem Between.taskGpuSm {i : TickInput} (h : Between s) : Between (s.taskGpuSm c i) := by
  unfold GpuSm.taskGpuSm
  cases hm : s.monitoringAllowed with
  | false =>
    rw [if_neg (by decide)]
    exact h
  | true =>
    rw [if_pos rfl]
    obtain ⟨hbegin, hnew⟩ := h.beginTick (c := c) (i := i) hm
    obtain ⟨hfirst, hagain⟩ := hbegin.pass (c := c) (i := i.pass1) hnew
    simp only
    split
    · rename_i hstart
      exact (hfirst.pass fun _ => hagain hstart).1.between
    · exact hfirst.between

theorem boot_between (occFlags : Fin 3 → Bool) : Between (GpuSm.boot occFlags) where
  requests := nofun
  fresh _ _ := rfl
  freshReset _ := rfl
  held := nofun
  i2cReset := rfl
  firstRun _ := rfl
  asks _ := .inl rfl

theorem Between.next {e : Event} (h : Between s) (hok : LockOk s e) (hn : next c s e = some t) : Between t := by
  cases e with
  | tick i =>
    cases hn
    exact h.taskGpuSm
  | opal g b =>
    cases hn
    exact ⟨⟨h.requests, h.fresh, h.freshReset, h.held, h.i2cReset, h.firstRun⟩, h.asks⟩
  | gpeDone rc data =>
    simp only [Gpu.next] at hn
    split at hn
    · cases hn
    · cases hn
      exact ⟨⟨h.requests, h.fresh, h.freshReset, h.held, h.i2cReset, h.firstRun⟩, h.asks⟩
  | desired g mw =>
    cases hn
    exact ⟨⟨h.requests, h.fresh, h.freshReset, h.held, h.i2cReset, h.firstRun⟩, h.asks⟩
  | allowMonitoring =>
    cases hn
    refine ⟨⟨h.requests, h.fresh, h.freshReset, fun _ ho => ?_, h.i2cReset, h.firstRun⟩, h.asks⟩
    by_cases hno : s.gpuState = .noLock
    · exact .inl hno
    · exact .inr (hok ho hno)

/-- The law holds in every run in which monitoring is not allowed again while the task counts on a lock it has lost. -/
theorem lockLaw_of_lockOk {occFlags : Fin 3 → Bool} (h : Run (Guarded LockOk (StepOf (next c))) (GpuSm.boot occFlags) es s) :
    LockLaw s := by
  have hb : Between s :=
    h.invariant (fun _ _ _ hs hstep => Between.next hs hstep.1 hstep.2) (boot_between occFlags)
  exact ⟨fun r hr _ => (hb.requests r hr).1, fun r hr => (hb.requests r hr).2, hb.fresh, hb.freshReset⟩

end Runs

/-! ### Monitoring is allowed again -/

/-- One GPU, whose temperature is read twice in a row. -/
def oneGpu : Config := ⟨fun g => g == 0, 3, false, 10, 2⟩

/-- A call in which the lock is granted and the GPE takes the requests, or does not. -/
def goodTick : Event := .tick ⟨true, true, ⟨true, true, true⟩, ⟨true, true, true⟩⟩
def refusedTick : Event := .tick ⟨true, true, ⟨false, true, true⟩, ⟨false, true, true⟩⟩
/-- The host has the lock. -/
def lockedTick : Event := .tick ⟨true, false, ⟨true, false, false⟩, ⟨true, false, false⟩⟩

/-- The request for the reset of the master is refused, so the lock is released; monitoring is allowed again, and the next
call sends the request although the host has the lock now. -/
def refusedRun : List Event :=
  [.allowMonitoring, goodTick, .gpeDone gpeRcSuccess fun _ => 0, refusedTick, .allowMonitoring, lockedTick]

theorem lockLaw_fails :
    ¬∀ s, Run (StepOf (next oneGpu)) (GpuSm.boot fun _ => false) refusedRun s → LockLaw s := by
  intro h
  have hlog : (exec (next oneGpu) (GpuSm.boot fun _ => false) refusedRun).map (fun s => s.watch.requests) =
      some [⟨false, true, true⟩, ⟨true, true, false⟩, ⟨true, true, true⟩] := by
    decide
  obtain ⟨s, hs, hreq⟩ := Option.map_eq_some_iff.1 hlog
  have hlaw := h s (exec_eq_some_iff.1 hs)
  have hheld := hlaw.granted ⟨false, true, true⟩ (by rw [hreq]; exact List.mem_cons_self) rfl
  cases hheld

/-- Without being allowed again, monitoring stays off. -/
theorem lockLaw_of_lockOk_refused : ∃ s, Run (StepOf (next oneGpu)) (GpuSm.boot fun _ => false)
    [.allowMonitoring, goodTick, .gpeDone gpeRcSuccess fun _ => 0, refusedTick, lockedTick] s ∧ LockLaw s := by
  have hsome : (exec (fun s e => if LockOk s e then next oneGpu s e else none) (GpuSm.boot fun _ => false)
      [.allowMonitoring, goodTick, .gpeDone gpeRcSuccess fun _ => 0, refusedTick, lockedTick]).isSome = true := by
    decide
  obtain ⟨s, hs⟩ := Option.isSome_iff_exists.1 hsome
  have hrun := run_guarded_of_exec hs
  exact ⟨s, hrun.mono fun _ _ _ h => h.2, lockLaw_of_lockOk hrun⟩

end Occ.Gpu
