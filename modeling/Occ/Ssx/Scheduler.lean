/-
The priority map, the run queue, the pending sets and the scheduling decision agree in every state
that a run of kernel calls, timeouts and interrupts reaches, as long as no thread is mapped at the
idle thread's priority and no mapped thread times out in a pend. `ssx_thread_create` rejects that
priority; `ssx_thread_priority_change` and `ssx_thread_priority_swap` let it through. A timeout
leaves the thread's bit in the pending set until the thread runs again.

Conservation of semaphore counts: over every run, initial count plus successful posts is current
count plus successful pends, as long as each post finds either nobody waiting and room for the count,
or a thread at the lowest pending priority that is still blocked on the semaphore. A thread that has
timed out keeps its bit in the pending set until it runs; a post that finds it there is lost.
-/
import Occ.Ssx.Calls
import Occ.Lib.Transition

namespace Occ.Ssx

open Occ Kernel BitQueue Transition

structure SchedulerInvariant (k : Kernel) : Prop where
  mapped : ∀ t p, k.priorityMap p = some t ↔
    (k.thread t).state = .mapped ∧ (k.thread t).priority = p ∧ p < ssxThreads
  idle : k.priorityMap ssxThreads = none
  queued : ∀ p, member k.runQueue p = true → ∃ t, k.priorityMap p = some t ∧ (k.thread t).state = .mapped
  pending : ∀ s p, member (k.sem s).pendingThreads p = true → ∃ t, k.priorityMap p = some t ∧ k.BlockedOn t s
  next_some : ∀ t, k.nextThread = some t → (k.thread t).state = .mapped ∧ k.threadIsRunnable t = true ∧
    ∀ u, (k.thread u).state = .mapped → k.threadIsRunnable u = true →
      (k.thread t).priority ≤ (k.thread u).priority
  next_none : k.nextThread = none → ∀ u, (k.thread u).state = .mapped → k.threadIsRunnable u = false

/-- The step maps no thread at the idle thread's priority and is not the timeout of a mapped thread
that is blocked in a pend. -/
def SchedOk (k : Kernel) (e : Event) : Prop :=
  NoIdleMap k e ∧ ∀ t, e = .timeout t → ¬k.Pends t

/-! ## What a step preserves -/

section Step

variable {k k' : Kernel} {e : Event}

theorem PendInv.target (hi : PendInv k) (e : Event) : PostTarget k e := by
  cases e with
  | post s =>
    intro hp
    have hmin := min_le (k.sem s).pendingThreads
    have hp : BitQueue.min (k.sem s).pendingThreads ≠ 32 := hp
    obtain ⟨t, hmap, hb⟩ := hi s _ (member_min (by omega))
    exact ⟨t, hmap, hb.1⟩
  | _ => trivial

theorem next_pendInv (h : Inv k) (hi : PendInv k) (hok : SchedOk k e) (he : k.next e = some k') : PendInv k' := by
  by_cases hpost : ∃ s, e = .post s
  · obtain ⟨s, rfl⟩ := hpost
    rw [← next_post he]
    exact (post_inv h (hi.target _)).2 hi
  by_cases htimeout : ∃ t, e = .timeout t
  · obtain ⟨t, rfl⟩ := htimeout
    obtain ⟨hta, he⟩ := next_timeout he
    exact (timeout_inv h hta he).2.2 (hok.2 t rfl) hi
  · exact (next_safe h hok.1 he (fun s hs => hpost ⟨s, hs⟩) (fun t hs => htimeout ⟨t, hs⟩)).keeps.pendInv hi

theorem inv_ssxInit (errorPanic : Bool) (count maxCount : Nat → Nat) :
    Inv (Kernel.ssxInitialize errorPanic count maxCount) := by
  refine ⟨⟨?_, ?_, ?_, ?_, ?_, ?_⟩, ⟨min_zero.symm, rfl, ?_, ?_, ?_⟩⟩
  · intro t; exact Nat.zero_le _
  · intro t ht; cases ht
  · intro p t ht; cases ht
  · intro p hp; exact absurd hp (by simp [Kernel.ssxInitialize])
  · intro t ht; cases ht
  · intro t s rc hrc; cases hrc
  · intro hm; cases hm
  · intro hm; cases hm
  · intro hd; cases hd

theorem pendInv_ssxInit (errorPanic : Bool) (count maxCount : Nat → Nat) :
    PendInv (Kernel.ssxInitialize errorPanic count maxCount) := by
  intro s p hp
  exact absurd hp (by simp [Kernel.ssxInitialize])

/-! ## What the invariants say -/

theorem Inv.next_highest (h : Inv k) {t u : Nat} (ht : k.nextThread = some t) (hr : k.threadIsRunnable u = true) :
    (k.thread t).priority ≤ (k.thread u).priority := by
  rw [h.sched.nextThread, h.sched.nextPriority] at ht
  rw [(h.core.slot _ t ht).2]
  exact min_le_of_member hr

theorem Inv.next_idle (h : Inv k) (hn : k.nextThread = none) {u : Nat} : k.threadIsRunnable u = false := by
  by_contra hr
  have hr : member k.runQueue (k.thread u).priority = true := by simpa [Kernel.threadIsRunnable] using hr
  have hle := min_le_of_member hr
  have hlt := lt_of_member hr
  obtain ⟨v, hv⟩ := h.core.queued _ (member_min (show BitQueue.min k.runQueue < 32 by omega))
  rw [h.sched.nextThread, h.sched.nextPriority, hv] at hn
  cases hn

theorem SchedulerInvariant.of_inv (h : Inv k) (hi : PendInv k) : SchedulerInvariant k := by
  refine ⟨?_, h.core.idle_slot, ?_, hi, ?_, fun hn _ _ => h.next_idle hn⟩
  · intro t p
    constructor
    · intro hp
      obtain ⟨hm, rfl⟩ := h.core.slot p t hp
      exact ⟨hm, rfl, (h.core.mapped t hm).1⟩
    · rintro ⟨hm, rfl, -⟩
      exact (h.core.mapped t hm).2
  · intro p hp
    obtain ⟨t, ht⟩ := h.core.queued p hp
    exact ⟨t, ht, (h.core.slot p t ht).1⟩
  · intro t ht
    have hc := ht
    rw [h.sched.nextThread, h.sched.nextPriority] at hc
    obtain ⟨hm, hr⟩ := h.core.chosen hc
    exact ⟨hm, hr, fun u _ hu => h.next_highest ht hu⟩

end Step

/-! ## What a run preserves -/

section Run

variable {errorPanic : Bool} {count maxCount : Nat → Nat} {es : List Event} {k : Kernel}

theorem run_inv (h : Run (Guarded SchedOk (StepOf Kernel.next)) (Kernel.ssxInitialize errorPanic count maxCount) es k) :
    Inv k ∧ PendInv k := by
  refine h.invariant (P := fun k => Inv k ∧ PendInv k) ?_ ⟨inv_ssxInit _ _ _, pendInv_ssxInit _ _ _⟩
  rintro k e k' ⟨hk, hi⟩ ⟨hok, he⟩
  exact ⟨next_inv hk hok.1 (hi.target e) he, next_pendInv hk hi hok he⟩

/-- The scheduler's structures agree in every state of every run in which no thread is mapped at the
idle thread's priority and no mapped thread times out in a pend. -/
theorem run_schedulerInvariant
    (h : Run (Guarded SchedOk (StepOf Kernel.next)) (Kernel.ssxInitialize errorPanic count maxCount) es k) :
    SchedulerInvariant k := by
  obtain ⟨hk, hi⟩ := run_inv h
  exact .of_inv hk hi

end Run

/-- The kernel with all semaphores created with count 0 and no maximum. -/
def freshKernel : Kernel := Kernel.ssxInitialize true (fun _ => 0) (fun _ => 0)

/-- A thread waits on a semaphore and an interrupt handler posts it. -/
def postRun : List Event :=
  [.create 0 5, .resume 0, .startThreads, .pend 0 .waitForever, .irqEnter, .post 0, .irqExit]

theorem run_schedulerInvariant_post :
    ∃ k, exec Kernel.next freshKernel postRun = some k ∧ SchedulerInvariant k := by
  refine ⟨_, rfl, @run_schedulerInvariant true (fun _ => 0) (fun _ => 0) postRun _ ?_⟩
  refine .cons ⟨⟨trivial, nofun⟩, rfl⟩ <| .cons ⟨⟨fun _ _ => by decide, nofun⟩, rfl⟩ <| ?_
  exact .cons ⟨⟨trivial, nofun⟩, rfl⟩ <| .cons ⟨⟨trivial, nofun⟩, rfl⟩ <| .cons ⟨⟨trivial, nofun⟩, rfl⟩ <|
    .cons ⟨⟨trivial, nofun⟩, rfl⟩ <| .cons ⟨⟨trivial, nofun⟩, rfl⟩ <| .nil _

/-- Both ways to break the agreement: a priority change to `SSX_THREADS` maps a thread at the idle
thread's slot, and a timeout leaves the bit of a thread that is no longer blocked. -/
theorem not_schedulerInvariant :
    (∃ k, exec Kernel.next freshKernel [.create 0 5, .resume 0, .priorityChange 0 ssxThreads] = some k ∧
      ¬SchedulerInvariant k) ∧
    ∃ k, exec Kernel.next freshKernel
        [.create 0 5, .resume 0, .startThreads, .pend 0 .ticks, .irqEnter, .timeout 0] = some k ∧
      ¬SchedulerInvariant k := by
  refine ⟨⟨_, rfl, fun h => ?_⟩, ⟨_, rfl, fun h => ?_⟩⟩
  · exact absurd h.idle (by decide)
  · obtain ⟨t, ht, -, hb⟩ := h.pending 0 5 (by decide)
    cases ht
    exact absurd hb (by decide)

end Occ.Ssx

namespace Occ.Ssx

open Occ Kernel BitQueue Transition

/-- A post finds nobody waiting and room for the count, or a thread that is blocked on the semaphore. -/
def PostOk (k : Kernel) (s : Nat) : Prop :=
  (BitQueue.min (k.sem s).pendingThreads = ssxThreads ∧ (k.sem s).count + 1 < 2 ^ 32 ∧
    ((k.sem s).maxCount = 0 ∨ (k.sem s).count < (k.sem s).maxCount)) ∨
  ∃ t, k.priorityMap (BitQueue.min (k.sem s).pendingThreads) = some t ∧ k.BlockedOn t s

def TokensOk (k : Kernel) (e : Event) : Prop :=
  NoIdleMap k e ∧ ∀ s, e = .post s → PostOk k s

/-- Initial count plus successful posts is current count plus successful pends. -/
def Conserved (count : Nat → Nat) (k : Kernel) : Prop :=
  ∀ s, count s + (k.sem s).posts = (k.sem s).count + (k.sem s).pends

/-- A post that returns the overflow error changes no semaphore and no interrupt mask. -/
def OverflowUnchanged (k : Kernel) (s : Nat) : Prop :=
  (k.ssxSemaphorePost s).2 = .error .semaphoreOverflow →
    (k.ssxSemaphorePost s).1.sem = k.sem ∧ (k.ssxSemaphorePost s).1.masked = k.masked

/-! ## Posts -/

section Posts

variable {k k' : Kernel} {e : Event} {s : Nat} {count : Nat → Nat}

theorem Conserved.balanced (h : Conserved count k) (hb : Balanced k k') : Conserved count k' := by
  intro s
  obtain ⟨hp, hc⟩ := hb s
  rw [hp, hc]
  exact h s

theorem Conserved.posted {m : Semaphore} (h : Conserved count k) (hs : k'.sem = Function.update k.sem s m)
    (hp : m.posts = (k.sem s).posts + 1) (hc : m.count + m.pends = (k.sem s).count + (k.sem s).pends + 1) :
    Conserved count k' := by
  intro r
  rw [hs]
  have hr := h r
  by_cases hrs : r = s
  · subst hrs
    rw [Function.update_self]
    omega
  · rw [Function.update_of_ne hrs]
    exact hr

theorem PostOk.target (h : PostOk k s) : PostTarget k (.post s) := by
  intro hp
  rcases h with ⟨hmin, -⟩ | ⟨t, ht, hb⟩
  · exact absurd hmin hp
  · exact ⟨t, ht, hb.1⟩

theorem post_conserved (hk : Inv k) (h : Conserved count k) (hok : PostOk k s) :
    Conserved count (k.ssxSemaphorePost s).1 := by
  rcases hok with ⟨hp, hroom, hmax⟩ | ⟨t, ht, hb⟩
  · have hcount : ((k.sem s).count + 1) % 2 ^ 32 = (k.sem s).count + 1 := Nat.mod_eq_of_lt hroom
    have hover : ¬((k.sem s).maxCount > 0 ∧ (k.sem s).count + 1 > (k.sem s).maxCount) := by omega
    unfold ssxSemaphorePost
    simp only [hp, ne_eq, not_true_eq_false, if_false, hcount, hover]
    exact h.posted rfl rfl (by simp only; omega)
  · have hlt := (hk.core.mapped t (hk.core.slot _ t ht).1).1
    rw [(hk.core.slot _ t ht).2] at hlt
    obtain ⟨-, -, -, -, hsem, -⟩ := wake_give hk.core ht hb.1
    rw [hb.2] at hsem
    rw [post_eq_wake (by omega) ht]
    apply Conserved.balanced _ (keeps_schedule (wake_core hk.core ht hb.1).1).balanced
    exact h.posted hsem rfl (by simp only [Bool.false_eq_true, if_false]; omega)

theorem post_overflowUnchanged (hk : Inv k) (hok : PostOk k s) : OverflowUnchanged k s := by
  intro he
  rcases hok with ⟨hp, hroom, hmax⟩ | ⟨t, ht, hb⟩
  · have hcount : ((k.sem s).count + 1) % 2 ^ 32 = (k.sem s).count + 1 := Nat.mod_eq_of_lt hroom
    have hover : ¬((k.sem s).maxCount > 0 ∧ (k.sem s).count + 1 > (k.sem s).maxCount) := by omega
    unfold ssxSemaphorePost at he
    simp only [hp, ne_eq, not_true_eq_false, if_false, hcount, hover] at he
    cases he
  · have hlt := (hk.core.mapped t (hk.core.slot _ t ht).1).1
    rw [(hk.core.slot _ t ht).2] at hlt
    rw [post_eq_wake (by omega) ht] at he
    cases he

end Posts

/-! ## Runs -/

section Runs

variable {errorPanic : Bool} {count maxCount : Nat → Nat} {es : List Event} {k k' : Kernel} {e : Event}

theorem next_conserved (hk : Inv k) (h : Conserved count k) (hok : TokensOk k e) (he : k.next e = some k') :
    Conserved count k' := by
  by_cases hpost : ∃ s, e = .post s
  · obtain ⟨s, rfl⟩ := hpost
    rw [← next_post he]
    exact post_conserved hk h (hok.2 s rfl)
  by_cases htimeout : ∃ t, e = .timeout t
  · obtain ⟨t, rfl⟩ := htimeout
    obtain ⟨hta, he⟩ := next_timeout he
    exact h.balanced (timeout_inv hk hta he).2.1
  · exact h.balanced
      (next_safe hk hok.1 he (fun s hs => hpost ⟨s, hs⟩) (fun t hs => htimeout ⟨t, hs⟩)).keeps.balanced

theorem TokensOk.target (hok : TokensOk k e) : PostTarget k e := by
  cases e with
  | post s => exact (hok.2 s rfl).target
  | _ => trivial

theorem run_inv_conserved
    (h : Run (Guarded TokensOk (StepOf Kernel.next)) (Kernel.ssxInitialize errorPanic count maxCount) es k) :
    Inv k ∧ Conserved count k := by
  refine h.invariant (P := fun k => Inv k ∧ Conserved count k) ?_ ⟨inv_ssxInit _ _ _, fun s => rfl⟩
  rintro k e k' ⟨hk, hc⟩ ⟨hok, he⟩
  exact ⟨next_inv hk hok.1 hok.target he, next_conserved hk hc hok he⟩

/-- Counts are conserved in every state of a run whose posts are ok; a pend that returned was given a
count if and only if it returned `SSX_OK`; a post that returns the overflow error changes nothing. -/
theorem run_tokens
    (h : Run (Guarded TokensOk (StepOf Kernel.next)) (Kernel.ssxInitialize errorPanic count maxCount) es k) :
    Conserved count k ∧ (∀ t, (k.thread t).Returned) ∧ ∀ s, TokensOk k (.post s) → OverflowUnchanged k s := by
  obtain ⟨hk, hc⟩ := run_inv_conserved h
  exact ⟨hc, hk.core.returned, fun s hok => post_overflowUnchanged hk (hok.2 s rfl)⟩

end Runs

theorem run_tokens_post : ∃ k, exec Kernel.next freshKernel postRun = some k ∧ Conserved (fun _ => 0) k ∧
    (∀ t, (k.thread t).Returned) ∧ ∀ s, TokensOk k (.post s) → OverflowUnchanged k s := by
  refine ⟨_, rfl, @run_tokens true (fun _ => 0) (fun _ => 0) postRun _ ?_⟩
  refine .cons ⟨⟨trivial, nofun⟩, rfl⟩ <| .cons ⟨⟨fun _ _ => by decide, nofun⟩, rfl⟩ <| ?_
  refine .cons ⟨⟨trivial, nofun⟩, rfl⟩ <| .cons ⟨⟨trivial, nofun⟩, rfl⟩ <| .cons ⟨⟨trivial, nofun⟩, rfl⟩ <| ?_
  refine .cons ⟨⟨trivial, fun s hs => ?_⟩, rfl⟩ <| .cons ⟨⟨trivial, nofun⟩, rfl⟩ <| .nil _
  cases hs
  exact Or.inr ⟨0, rfl, rfl, by decide⟩

/-- A post between the timeout of a pend and its return is lost, and an overflow is reported after the
count is incremented and without the caller's interrupt mask. -/
theorem not_conserved :
    (∃ k, exec Kernel.next freshKernel [.create 0 5, .resume 0, .startThreads, .pend 0 .ticks, .irqEnter,
        .timeout 0, .post 0, .irqExit] = some k ∧
      (k.thread 0).pendRc = some (0, .semaphorePendTimedOut) ∧ ¬Conserved (fun _ => 0) k) ∧
    ¬OverflowUnchanged (Kernel.ssxInitialize false (fun _ => 1) fun _ => 1) 0 := by
  refine ⟨⟨_, rfl, by decide, fun h => ?_⟩, fun h => ?_⟩
  · exact absurd (h 0) (by decide)
  · exact absurd (h (by decide)).2 (by decide)

end Occ.Ssx
