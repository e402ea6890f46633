/-
What kernel calls keep: the agreement of the priority map and the run queue with the threads'
states and flags (`Core`), the counts a semaphore has given away (`Balanced`), the threads that the
bits of the pending sets stand for (`PendInv`) and the scheduling decision (`Sched`). Every call is
a chain of changes to one thread and one slot of the map (`Touch`), followed by `__ssx_schedule`.
-/
import Occ.Ssx.Kernel

namespace Occ.Ssx

open Occ Kernel BitQueue

/-! ## Definitions -/

/-- Nothing keeps the thread from running but its suspension and the threads before it. -/
def Kernel.ready (k : Kernel) (t : Nat) : Bool :=
  match (k.thread t).state with
  | .mapped => k.threadIsRunnable t
  | .suspendedRunnable => true
  | _ => false

/-- The thread is in a pend on `s` and not runnable. -/
def Kernel.BlockedOn (k : Kernel) (t s : Nat) : Prop :=
  (k.thread t).pc = .pending s ∧ k.threadIsRunnable t = false

/-- The flags of a thread agree with where it goes on and with whether it is ready. A pending thread
waits, has timed out, or was given a count. -/
def Thread.Ok (th : Thread) (ready : Bool) : Prop :=
  match th.pc with
  | .running => ready = true ∧ th.semaphorePend = false ∧ th.timerPend = false ∧ th.timedOut = false ∧
      th.timerActive = false
  | .sleeping => th.semaphorePend = false ∧
      ((ready = false ∧ th.timedOut = false) ∨ (ready = true ∧ th.timedOut = true ∧ th.timerActive = false))
  | .pending s => th.semaphorePend = true ∧ th.semaphore = s ∧ th.pendRc = none ∧
      (th.timerActive = true → th.timerPend = true) ∧
      ((ready = false ∧ th.timedOut = false ∧ th.token = none) ∨
        (ready = true ∧ th.timedOut = true ∧ th.timerPend = true ∧ th.timerActive = false ∧ th.token = none) ∨
        (ready = true ∧ th.timedOut = false ∧ th.token = some s))

/-- The last pend that returned was given a count if and only if it returned `SSX_OK`. -/
def Thread.Returned (th : Thread) : Prop :=
  ∀ s rc, th.pendRc = some (s, rc) → th.token = if rc = .ok then some s else none

@[simp] theorem Thread.ok_place (th : Thread) (st : ThreadState) (p : Nat) (r : Bool) :
    Thread.Ok { th with state := st, priority := p } r ↔ th.Ok r := Iff.rfl

@[simp] theorem Thread.returned_place (th : Thread) (st : ThreadState) (p : Nat) :
    Thread.Returned { th with state := st, priority := p } ↔ th.Returned := Iff.rfl

structure Core (k : Kernel) : Prop where
  priority_le : ∀ t, (k.thread t).priority ≤ ssxThreads
  mapped : ∀ t, (k.thread t).state = .mapped →
    (k.thread t).priority < ssxThreads ∧ k.priorityMap (k.thread t).priority = some t
  slot : ∀ p t, k.priorityMap p = some t → (k.thread t).state = .mapped ∧ (k.thread t).priority = p
  queued : ∀ p, member k.runQueue p = true → ∃ t, k.priorityMap p = some t
  ok : ∀ t, k.threadIsActive t = true → (k.thread t).Ok (k.ready t)
  returned : ∀ t, (k.thread t).Returned

/-- A bit of a pending set stands for a thread blocked on that semaphore. -/
def PendInv (k : Kernel) : Prop :=
  ∀ s p, member (k.sem s).pendingThreads p = true → ∃ t, k.priorityMap p = some t ∧ k.BlockedOn t s

/-- Between the states no count was posted, and the counts taken were given to pends. -/
def Balanced (k k' : Kernel) : Prop :=
  ∀ s, (k'.sem s).posts = (k.sem s).posts ∧
    (k'.sem s).count + (k'.sem s).pends = (k.sem s).count + (k.sem s).pends

structure Keeps (k k' : Kernel) : Prop where
  core : Core k'
  balanced : Balanced k k'
  pendInv : PendInv k → PendInv k'

/-- The last scheduling decision is up to date; without a delayed switch it is carried out. -/
structure Sched (k : Kernel) : Prop where
  nextPriority : k.nextPriority = BitQueue.min k.runQueue
  nextThread : k.nextThread = k.priorityMap k.nextPriority
  current : k.threadMode = true → k.delayedSwitch = false → k.currentThread = k.nextThread
  running : k.threadMode = true → k.delayedSwitch = false →
    ∀ t, k.currentThread = some t → (k.thread t).pc = .running
  delayed : k.delayedSwitch = true → k.threadMode = true ∧ k.interrupt = true

structure Inv (k : Kernel) : Prop where
  core : Core k
  sched : Sched k

/-! ## Keeping is a preorder -/

theorem Balanced.refl (k : Kernel) : Balanced k k := fun _ => ⟨rfl, rfl⟩

theorem Balanced.trans {k k' k'' : Kernel} (h : Balanced k k') (h' : Balanced k' k'') : Balanced k k'' :=
  fun s => ⟨(h' s).1.trans (h s).1, (h' s).2.trans (h s).2⟩

theorem Keeps.refl {k : Kernel} (hk : Core k) : Keeps k k := ⟨hk, .refl k, id⟩

theorem Keeps.trans {k k' k'' : Kernel} (h : Keeps k k') (h' : Keeps k' k'') : Keeps k k'' :=
  ⟨h'.core, h.balanced.trans h'.balanced, fun hp => h'.pendInv (h.pendInv hp)⟩

/-! ## Changes to one thread and one slot -/

/-- Only thread `t` and slot `p` of the priority map and the run queue differ, and `t` is the only
thread that can be mapped at `p`. -/
structure Touch (k k' : Kernel) (t p : Nat) : Prop where
  thread : ∀ u, u ≠ t → k'.thread u = k.thread u
  map : ∀ q, q ≠ p → k'.priorityMap q = k.priorityMap q
  queue : ∀ q, q ≠ p → member k'.runQueue q = member k.runQueue q
  owner : ∀ u, k.priorityMap p = some u → u = t
  home : (k.thread t).state = .mapped → (k.thread t).priority = p

/-- Thread `t` is mapped at `p`, or it is not mapped and nothing is at `p`. -/
def Placed (k : Kernel) (t p : Nat) : Prop :=
  ((k.thread t).state = .mapped ∧ (k.thread t).priority = p ∧ p < ssxThreads ∧ k.priorityMap p = some t) ∨
    ((k.thread t).state ≠ .mapped ∧ k.priorityMap p = none ∧ member k.runQueue p = false)

section Touch

variable {k k' : Kernel} {t p : Nat}

theorem Core.idle_slot (hk : Core k) : k.priorityMap ssxThreads = none := by
  cases h : k.priorityMap ssxThreads with
  | none => rfl
  | some t =>
    obtain ⟨hm, hp⟩ := hk.slot _ t h
    have hlt := (hk.mapped t hm).1
    omega

theorem Touch.other (h : Touch k k' t p) (hk : Core k) {u : Nat} (hu : u ≠ t)
    (hm : (k.thread u).state = .mapped) : (k.thread u).priority ≠ p := by
  intro hp
  have hmap := (hk.mapped u hm).2
  rw [hp] at hmap
  exact hu (h.owner u hmap)

theorem Touch.ready_other (h : Touch k k' t p) (hk : Core k) {u : Nat} (hu : u ≠ t) :
    k'.ready u = k.ready u := by
  unfold Kernel.ready Kernel.threadIsRunnable
  rw [h.thread u hu]
  cases hs : (k.thread u).state with
  | mapped => exact h.queue _ (h.other hk hu hs)
  | _ => rfl

theorem Core.touch (hk : Core k) (h : Touch k k' t p) (hp : Placed k' t p)
    (hle : (k'.thread t).priority ≤ ssxThreads)
    (hok : k'.threadIsActive t = true → (k'.thread t).Ok (k'.ready t))
    (hret : (k'.thread t).Returned) : Core k' := by
  constructor
  · intro u
    by_cases hu : u = t
    · subst hu; exact hle
    · rw [h.thread u hu]; exact hk.priority_le u
  · intro u hm
    by_cases hu : u = t
    · subst hu
      rcases hp with ⟨-, hpr, hlt, hmap⟩ | ⟨hn, -, -⟩
      · rw [hpr]; exact ⟨hlt, hmap⟩
      · exact absurd hm hn
    · rw [h.thread u hu] at hm ⊢
      rw [h.map _ (h.other hk hu hm)]
      exact hk.mapped u hm
  · intro q u hq
    by_cases hqp : q = p
    · subst hqp
      rcases hp with ⟨hm, hpr, -, hmap⟩ | ⟨-, hmap, -⟩
      · rw [hmap] at hq; cases hq; exact ⟨hm, hpr⟩
      · rw [hmap] at hq; cases hq
    · rw [h.map q hqp] at hq
      obtain ⟨hm, hpr⟩ := hk.slot q u hq
      have hu : u ≠ t := by rintro rfl; exact hqp (hpr.symm.trans (h.home hm))
      rw [h.thread u hu]; exact ⟨hm, hpr⟩
  · intro q hq
    by_cases hqp : q = p
    · subst hqp
      rcases hp with ⟨-, -, -, hmap⟩ | ⟨-, -, hn⟩
      · exact ⟨t, hmap⟩
      · rw [hn] at hq; cases hq
    · rw [h.queue q hqp] at hq
      rw [h.map q hqp]; exact hk.queued q hq
  · intro u hu
    by_cases hut : u = t
    · subst hut; exact hok hu
    · rw [h.ready_other hk hut, h.thread u hut]
      apply hk.ok
      unfold Kernel.threadIsActive at hu ⊢
      rwa [h.thread u hut] at hu
  · intro u
    by_cases hu : u = t
    · subst hu; exact hret
    · rw [h.thread u hu]; exact hk.returned u

theorem PendInv.touch (hi : PendInv k) (hk : Core k) (h : Touch k k' t p)
    (hother : ∀ s q, q ≠ p → member (k'.sem s).pendingThreads q = true →
      member (k.sem s).pendingThreads q = true)
    (hat : ∀ s, member (k'.sem s).pendingThreads p = true → k'.priorityMap p = some t ∧ k'.BlockedOn t s) :
    PendInv k' := by
  intro s q hq
  by_cases hqp : q = p
  · subst hqp; exact ⟨t, hat s hq⟩
  · obtain ⟨u, hmap, hpc, hrun⟩ := hi s q (hother s q hqp hq)
    obtain ⟨hm, hpr⟩ := hk.slot q u hmap
    have hu : u ≠ t := by rintro rfl; exact hqp (hpr.symm.trans (h.home hm))
    refine ⟨u, by rw [h.map q hqp]; exact hmap, by rw [h.thread u hu]; exact hpc, ?_⟩
    unfold Kernel.threadIsRunnable at hrun ⊢
    rw [h.thread u hu, h.queue _ (h.other hk hu hm)]
    exact hrun

theorem PendInv.none_at (hi : PendInv k) (hp : k.priorityMap p = none) (s : Nat) :
    member (k.sem s).pendingThreads p = false := by
  by_contra hm
  obtain ⟨t, hmap, -⟩ := hi s p (by simpa using hm)
  rw [hp] at hmap; cases hmap

theorem PendInv.runnable (hi : PendInv k) (hmap : k.priorityMap p = some t)
    (hr : k.threadIsRunnable t = true) (s : Nat) : member (k.sem s).pendingThreads p = false := by
  by_contra hm
  obtain ⟨u, hu, -, hb⟩ := hi s p (by simpa using hm)
  rw [hmap] at hu; cases hu
  rw [hr] at hb; cases hb

end Touch

/-! ## Mapping and unmapping -/

section Mapping

variable {k : Kernel} {t : Nat}

theorem Balanced.of_sem {k k' : Kernel} (h : k'.sem = k.sem) : Balanced k k' := by
  intro s
  rw [h]
  exact ⟨rfl, rfl⟩

theorem Balanced.update {k k' : Kernel} {s : Nat} {m : Semaphore} (h : k'.sem = Function.update k.sem s m)
    (hp : m.posts = (k.sem s).posts) (hc : m.count + m.pends = (k.sem s).count + (k.sem s).pends) :
    Balanced k k' := by
  intro r
  rw [h]
  by_cases hr : r = s
  · subst hr; simp [hp, hc]
  · simp [hr]

theorem give_eq {s : Nat} (hpc : (k.thread t).pc = .pending s) (htok : (k.thread t).token = none)
    (hto : (k.thread t).timedOut = false) :
    k.give t s = (k.modThread t fun th => { th with token := some s }).modSem s
      fun m => { m with pends := m.pends + 1 } := by
  unfold Kernel.give
  rw [if_pos ⟨hpc, htok, hto⟩]

theorem Core.waiting (hk : Core k) (ha : k.threadIsActive t = true) (hr : k.ready t = false)
    (hs : (k.thread t).semaphorePend = true) :
    (k.thread t).pc = .pending (k.thread t).semaphore ∧ (k.thread t).timedOut = false ∧
      (k.thread t).token = none := by
  have hok := hk.ok t ha
  unfold Thread.Ok at hok
  cases hpc : (k.thread t).pc with
  | running => rw [hpc] at hok; rw [hok.2.1] at hs; cases hs
  | sleeping => rw [hpc] at hok; rw [hok.1] at hs; cases hs
  | pending s =>
    rw [hpc, hr] at hok
    obtain ⟨-, rfl, -, -, ⟨-, hto, htok⟩ | ⟨h, -⟩ | ⟨h, -⟩⟩ := hok
    · exact ⟨rfl, hto, htok⟩
    · cases h
    · cases h

theorem unmapped_cases (ha : k.threadIsActive t = true) (hm : (k.thread t).state ≠ .mapped) :
    ((k.thread t).state = .suspendedRunnable ∧ k.ready t = true) ∨
      ((k.thread t).state = .suspendedBlocked ∧ k.ready t = false) := by
  unfold Kernel.threadIsActive at ha
  unfold Kernel.ready
  cases hst : (k.thread t).state with
  | mapped => exact absurd hst hm
  | suspendedRunnable => exact Or.inl ⟨rfl, rfl⟩
  | suspendedBlocked => exact Or.inr ⟨rfl, rfl⟩
  | completed => rw [hst] at ha; cases ha
  | deleted => rw [hst] at ha; cases ha

section ThreadMap

variable (hk : Core k) (ha : k.threadIsActive t = true) (hm : (k.thread t).state ≠ .mapped)
  (hfree : k.priorityMap (k.thread t).priority = none) (hlt : (k.thread t).priority < ssxThreads)

include hm hfree in
theorem touch_threadMap : Touch k (k.threadMap t) t (k.thread t).priority := by
  constructor
  · intro u hu
    simp only [threadMap, threadRequeue, Kernel.give]
    split_ifs <;> simp [hu]
  · intro q hq
    simp only [threadMap, threadRequeue, Kernel.give]
    split_ifs <;> simp [hq]
  · intro q hq
    simp only [threadMap, threadRequeue, Kernel.give]
    split_ifs <;> simp [hq]
  · intro u hu
    rw [hfree] at hu; cases hu
  · intro h
    exact absurd h hm

include hk hfree in
theorem not_queued_of_free : member k.runQueue (k.thread t).priority = false := by
  by_contra h
  obtain ⟨u, hu⟩ := hk.queued _ (by simpa using h)
  rw [hfree] at hu; cases hu

include hk hm hfree hlt in
theorem keeps_threadMap_runnable (hst : (k.thread t).state = .suspendedRunnable) (hok : (k.thread t).Ok true) :
    Keeps k (k.threadMap t) := by
  have h := touch_threadMap hm hfree
  have hlt' : (k.thread t).priority < 32 := hlt
  have hret := hk.returned t
  have hmap : k.threadMap t = { k with
      priorityMap := Function.update k.priorityMap (k.thread t).priority (some t)
      runQueue := BitQueue.insert k.runQueue (k.thread t).priority }.modThread t
      fun th => { th with state := .mapped } := by
    simp [threadMap, threadRequeue, hst]
  rw [hmap] at h ⊢
  refine ⟨hk.touch h (Or.inl ?_) ?_ ?_ ?_, Balanced.of_sem rfl, fun hi => hi.touch hk h ?_ ?_⟩
  · simp [hlt]
  · simpa using hlt.le
  · intro _
    simpa [Kernel.ready, Kernel.threadIsRunnable, hlt'] using hok
  · simpa using hret
  · intro s q _ hs; exact hs
  · intro s hs
    rw [modThread_sem, hi.none_at hfree] at hs; cases hs

include hk hm hfree hlt in
theorem keeps_threadMap_sleeping (hst : (k.thread t).state = .suspendedBlocked) (hok : (k.thread t).Ok false)
    (hsp : ¬(k.thread t).semaphorePend = true) : Keeps k (k.threadMap t) := by
  have h := touch_threadMap hm hfree
  have hq := not_queued_of_free hk hfree
  have hret := hk.returned t
  have hmap : k.threadMap t = { k with
      priorityMap := Function.update k.priorityMap (k.thread t).priority (some t) }.modThread t
      fun th => { th with state := .mapped } := by
    simp [threadMap, threadRequeue, hst, hsp]
  rw [hmap] at h ⊢
  refine ⟨hk.touch h (Or.inl ?_) ?_ ?_ ?_, Balanced.of_sem rfl, fun hi => hi.touch hk h ?_ ?_⟩
  · simp [hlt]
  · simpa using hlt.le
  · intro _
    simpa [Kernel.ready, Kernel.threadIsRunnable, hq] using hok
  · simpa using hret
  · intro s q _ hs; exact hs
  · intro s hs
    rw [modThread_sem, hi.none_at hfree] at hs; cases hs

include hk hm hfree hlt in
/-- A thread that pends joins the pending set again. -/
theorem keeps_threadMap_pending (hst : (k.thread t).state = .suspendedBlocked) (hok : (k.thread t).Ok false)
    (hsp : (k.thread t).semaphorePend = true) {s : Nat} (hsem : (k.thread t).semaphore = s)
    (hpc : (k.thread t).pc = .pending s) (hc : (k.sem s).count = 0) : Keeps k (k.threadMap t) := by
  have h := touch_threadMap hm hfree
  have hq := not_queued_of_free hk hfree
  have hret := hk.returned t
  have hmap : k.threadMap t = ({ k with
      priorityMap := Function.update k.priorityMap (k.thread t).priority (some t) }.modSem s
      fun m => { m with pendingThreads := BitQueue.insert m.pendingThreads (k.thread t).priority }).modThread t
      fun th => { th with state := .mapped } := by
    simp [threadMap, threadRequeue, hst, hsp, hsem, hc]
  rw [hmap] at h ⊢
  refine ⟨hk.touch h (Or.inl ?_) ?_ ?_ ?_, ?_, fun hi => hi.touch hk h ?_ ?_⟩
  · simp [hlt]
  · simpa using hlt.le
  · intro _
    simpa [Kernel.ready, Kernel.threadIsRunnable, hq] using hok
  · simpa using hret
  · exact Balanced.update rfl rfl rfl
  · intro r q hq hr
    by_cases hrs : r = s
    · subst hrs; simpa [hq] using hr
    · simpa [hrs] using hr
  · intro r hr
    by_cases hrs : r = s
    · subst hrs; simp [BlockedOn, Kernel.threadIsRunnable, hpc, hq]
    · simp [hrs, hi.none_at hfree] at hr

include hk hm hfree hlt in
/-- A thread that pends takes a count that is there. -/
theorem keeps_threadMap_given (hst : (k.thread t).state = .suspendedBlocked) (hok : (k.thread t).Ok false)
    (hsp : (k.thread t).semaphorePend = true) {s : Nat} (hsem : (k.thread t).semaphore = s)
    (hpc : (k.thread t).pc = .pending s) (hto : (k.thread t).timedOut = false)
    (htok : (k.thread t).token = none) (hc : ¬(k.sem s).count = 0) : Keeps k (k.threadMap t) := by
  have h := touch_threadMap hm hfree
  have hlt' : (k.thread t).priority < 32 := hlt
  have hmap : k.threadMap t = (({ k with
      priorityMap := Function.update k.priorityMap (k.thread t).priority (some t)
      runQueue := BitQueue.insert k.runQueue (k.thread t).priority }.modThread t
      fun th => { th with state := .mapped, token := some s }).modSem s
      fun m => { m with count := m.count - 1, pends := m.pends + 1 }) := by
    simp [threadMap, threadRequeue, hst, hsp, hsem, hc, Kernel.give, hpc, hto, htok, modThread, modSem]
  rw [hmap] at h ⊢
  refine ⟨hk.touch h (Or.inl ?_) ?_ ?_ ?_, ?_, fun hi => hi.touch hk h ?_ ?_⟩
  · simp [hlt]
  · simpa using hlt.le
  · intro _
    simp only [Thread.Ok, hpc] at hok
    simp [Thread.Ok, Kernel.ready, Kernel.threadIsRunnable, hlt', hpc, hto, hok.1, hok.2.1, hok.2.2.1]
    exact hok.2.2.2.1
  · intro r rc hrc
    simp only [Thread.Ok, hpc] at hok
    simp [hok.2.2.1] at hrc
  · refine Balanced.update rfl rfl ?_
    simp only [modThread_sem]; omega
  · intro r q hq hr
    by_cases hrs : r = s
    · subst hrs; simpa using hr
    · simpa [hrs] using hr
  · intro r hr
    by_cases hrs : r = s
    · subst hrs; simp [hi.none_at hfree] at hr
    · simp [hrs, hi.none_at hfree] at hr

include hk ha hm hfree hlt in
theorem keeps_threadMap : Keeps k (k.threadMap t) := by
  have hok := hk.ok t ha
  obtain ⟨hst, hr⟩ | ⟨hst, hr⟩ := unmapped_cases ha hm
  · rw [hr] at hok
    exact keeps_threadMap_runnable hk hm hfree hlt hst hok
  · rw [hr] at hok
    by_cases hsp : (k.thread t).semaphorePend = true
    · obtain ⟨hpc, hto, htok⟩ := hk.waiting ha hr hsp
      generalize hsem : (k.thread t).semaphore = s at hpc
      by_cases hc : (k.sem s).count = 0
      · exact keeps_threadMap_pending hk hm hfree hlt hst hok hsp hsem hpc hc
      · exact keeps_threadMap_given hk hm hfree hlt hst hok hsp hsem hpc hto htok hc
    · exact keeps_threadMap_sleeping hk hm hfree hlt hst hok hsp

end ThreadMap

theorem touch_threadUnmap (hk : Core k) (hm : (k.thread t).state = .mapped) :
    Touch k (k.threadUnmap t) t (k.thread t).priority := by
  constructor
  · intro u hu
    simp only [threadUnmap]
    split_ifs <;> simp [hu]
  · intro q hq
    simp only [threadUnmap]
    split_ifs <;> simp [hq]
  · intro q hq
    simp only [threadUnmap]
    split_ifs <;> simp [hq]
  · intro u hu
    rw [(hk.mapped t hm).2] at hu; cases hu; rfl
  · intro _
    rfl

theorem Core.blocked (hk : Core k) {s : Nat} (hm : (k.thread t).state = .mapped) (hb : k.BlockedOn t s) :
    (k.thread t).semaphorePend = true ∧ (k.thread t).semaphore = s := by
  have hok := hk.ok t (by simp [Kernel.threadIsActive, hm])
  simp only [Thread.Ok, hb.1] at hok
  exact ⟨hok.1, hok.2.1⟩

theorem keeps_threadUnmap (hk : Core k) (hm : (k.thread t).state = .mapped) : Keeps k (k.threadUnmap t) := by
  have h := touch_threadUnmap hk hm
  have hok := hk.ok t (by simp [Kernel.threadIsActive, hm])
  have hret := hk.returned t
  have hmap := (hk.mapped t hm).2
  have hle := hk.priority_le t
  by_cases hr : k.threadIsRunnable t = true
  · have hready : k.ready t = true := by simp [Kernel.ready, hm, hr]
    rw [hready] at hok
    have hun : k.threadUnmap t = { k with
        priorityMap := Function.update k.priorityMap (k.thread t).priority none
        runQueue := BitQueue.delete k.runQueue (k.thread t).priority }.modThread t
        fun th => { th with state := .suspendedRunnable } := by
      simp [threadUnmap, hr]
    rw [hun] at h ⊢
    refine ⟨hk.touch h (Or.inr ?_) ?_ ?_ ?_, Balanced.of_sem rfl, fun hi => hi.touch hk h ?_ ?_⟩
    · simp
    · simpa using hle
    · intro _
      simpa [Kernel.ready] using hok
    · simpa using hret
    · intro s q _ hs; exact hs
    · intro s hs
      rw [modThread_sem, hi.runnable hmap hr] at hs; cases hs
  · have hrf : member k.runQueue (k.thread t).priority = false := by
      simpa [Kernel.threadIsRunnable] using hr
    have hready : k.ready t = false := by simpa [Kernel.ready, hm] using hr
    rw [hready] at hok
    by_cases hsp : (k.thread t).semaphorePend = true
    · have hun : k.threadUnmap t = ({ k with
          priorityMap := Function.update k.priorityMap (k.thread t).priority none }.modThread t
          fun th => { th with state := .suspendedBlocked }).modSem (k.thread t).semaphore
          fun m => { m with pendingThreads := BitQueue.delete m.pendingThreads (k.thread t).priority } := by
        simp [threadUnmap, hr, hsp]
      rw [hun] at h ⊢
      refine ⟨hk.touch h (Or.inr ?_) ?_ ?_ ?_, Balanced.update rfl rfl rfl, fun hi => hi.touch hk h ?_ ?_⟩
      · simp [hrf]
      · simpa using hle
      · intro _
        simpa [Kernel.ready] using hok
      · simpa using hret
      · intro s q hq hs
        by_cases hss : s = (k.thread t).semaphore
        · subst hss; simpa [hq] using hs
        · simpa [hss] using hs
      · intro s hs
        by_cases hss : s = (k.thread t).semaphore
        · subst hss; simp at hs
        · simp only [modSem_sem, Function.update_of_ne hss, modThread_sem] at hs
          obtain ⟨u, hu, hb⟩ := hi s _ hs
          rw [hmap] at hu; cases hu
          exact absurd (hk.blocked hm hb).2.symm hss
    · have hun : k.threadUnmap t = { k with
          priorityMap := Function.update k.priorityMap (k.thread t).priority none }.modThread t
          fun th => { th with state := .suspendedBlocked } := by
        simp [threadUnmap, hr, hsp]
      rw [hun] at h ⊢
      refine ⟨hk.touch h (Or.inr ?_) ?_ ?_ ?_, Balanced.of_sem rfl, fun hi => hi.touch hk h ?_ ?_⟩
      · simp [hrf]
      · simpa using hle
      · intro _
        simpa [Kernel.ready] using hok
      · simpa using hret
      · intro s q _ hs; exact hs
      · intro s hs
        obtain ⟨u, hu, hb⟩ := hi s _ hs
        rw [hmap] at hu; cases hu
        exact absurd (hk.blocked hm hb).1 hsp

end Mapping

/-! ## Threads that stay where they are -/

section Stay

variable {k : Kernel} {t : Nat} {f : Thread → Thread}

/-- A change to a thread that is not mapped before and after. -/
theorem keeps_unmapped (hk : Core k) (hm : (k.thread t).state ≠ .mapped) (hm' : (f (k.thread t)).state ≠ .mapped)
    (hle : (f (k.thread t)).priority ≤ ssxThreads)
    (hok : (f (k.thread t)).state = .suspendedRunnable → (f (k.thread t)).Ok true)
    (hok' : (f (k.thread t)).state = .suspendedBlocked → (f (k.thread t)).Ok false)
    (hret : (f (k.thread t)).Returned) : Keeps k (k.modThread t f) := by
  have hfree := hk.idle_slot
  have h : Touch k (k.modThread t f) t ssxThreads := by
    constructor
    · intro u hu; simp [hu]
    · intro q _; rfl
    · intro q _; rfl
    · intro u hu; rw [hfree] at hu; cases hu
    · intro h; exact absurd h hm
  have hq : member k.runQueue ssxThreads = false := by
    by_contra hq
    exact absurd (lt_of_member (Bool.eq_true_of_not_eq_false hq)) (Nat.lt_irrefl _)
  refine ⟨hk.touch h (Or.inr ?_) ?_ ?_ ?_, Balanced.of_sem rfl, fun hi => hi.touch hk h ?_ ?_⟩
  · exact ⟨by simpa using hm', hfree, hq⟩
  · simpa using hle
  · intro ha
    rcases unmapped_cases ha (by simpa using hm') with ⟨hst, hr⟩ | ⟨hst, hr⟩
    · rw [hr]; simp only [modThread_thread, Function.update_self] at hst ⊢; exact hok hst
    · rw [hr]; simp only [modThread_thread, Function.update_self] at hst ⊢; exact hok' hst
  · simpa using hret
  · intro s q _ hs; exact hs
  · intro s hs
    rw [modThread_sem, hi.none_at hfree] at hs; cases hs

theorem touch_mapped (hk : Core k) (hm : (k.thread t).state = .mapped) {k' : Kernel}
    (hthread : ∀ u, u ≠ t → k'.thread u = k.thread u) (hmap : k'.priorityMap = k.priorityMap)
    (hq : ∀ q, q ≠ (k.thread t).priority → member k'.runQueue q = member k.runQueue q) :
    Touch k k' t (k.thread t).priority := by
  refine ⟨hthread, fun q _ => by rw [hmap], hq, ?_, fun _ => rfl⟩
  intro u hu
  rw [(hk.mapped t hm).2] at hu; cases hu; rfl

theorem placed_mapped (hk : Core k) (hm : (k.thread t).state = .mapped) {k' : Kernel}
    (hst : (k'.thread t).state = .mapped) (hp : (k'.thread t).priority = (k.thread t).priority)
    (hmap : k'.priorityMap = k.priorityMap) : Placed k' t (k.thread t).priority := by
  obtain ⟨hlt, hslot⟩ := hk.mapped t hm
  exact Or.inl ⟨hst, hp, hlt, by rw [hmap]; exact hslot⟩

theorem Core.congr (hk : Core k) {k' : Kernel} (ht : k'.thread = k.thread) (hm : k'.priorityMap = k.priorityMap)
    (hq : k'.runQueue = k.runQueue) : Core k' := by
  obtain ⟨_, _, _, _⟩ := k
  obtain ⟨_, _, _, _⟩ := k'
  simp only at ht hm hq
  subst ht hm hq
  exact ⟨hk.priority_le, hk.mapped, hk.slot, hk.queued, hk.ok, hk.returned⟩

theorem Keeps.of_same (hk : Core k) {k' : Kernel} (ht : k'.thread = k.thread) (hs : k'.sem = k.sem)
    (hm : k'.priorityMap = k.priorityMap) (hq : k'.runQueue = k.runQueue) : Keeps k k' := by
  refine ⟨hk.congr ht hm hq, .of_sem hs, fun hi s p hp => ?_⟩
  rw [hs] at hp
  obtain ⟨u, hu, hpc, hr⟩ := hi s p hp
  refine ⟨u, by rw [hm]; exact hu, by rw [ht]; exact hpc, ?_⟩
  unfold Kernel.threadIsRunnable
  rw [ht, hq]; exact hr

/-- A change to the flags of a mapped thread. -/
theorem keeps_mapped (hk : Core k) (hm : (k.thread t).state = .mapped) (hst : (f (k.thread t)).state = .mapped)
    (hp : (f (k.thread t)).priority = (k.thread t).priority) (hpc : (f (k.thread t)).pc = (k.thread t).pc)
    (hok : (k.thread t).Ok (k.threadIsRunnable t) → (f (k.thread t)).Ok (k.threadIsRunnable t))
    (hret : (f (k.thread t)).Returned) : Keeps k (k.modThread t f) := by
  have h : Touch k (k.modThread t f) t (k.thread t).priority :=
    touch_mapped hk hm (fun u hu => by simp [hu]) rfl (fun _ _ => rfl)
  have hold := hk.ok t (by simp [Kernel.threadIsActive, hm])
  rw [show k.ready t = k.threadIsRunnable t by simp [Kernel.ready, hm]] at hold
  refine ⟨hk.touch h (placed_mapped hk hm ?_ ?_ rfl) ?_ ?_ ?_, Balanced.of_sem rfl, fun hi => hi.touch hk h ?_ ?_⟩
  · simpa using hst
  · simpa using hp
  · simpa [hp] using hk.priority_le t
  · intro _
    simpa [Kernel.ready, hst, Kernel.threadIsRunnable, hp] using hok hold
  · simpa using hret
  · intro s q _ hs; exact hs
  · intro s hs
    obtain ⟨u, hu, hb⟩ := hi s _ hs
    rw [(hk.mapped t hm).2] at hu; cases hu
    refine ⟨(hk.mapped t hm).2, by simpa [hpc] using hb.1, ?_⟩
    simpa [Kernel.threadIsRunnable, hp] using hb.2

end Stay

/-! ## Going on after a blocking call -/

section Resume

variable {k : Kernel} {t : Nat}

@[simp] theorem resumeCall_running (h : (k.thread t).pc = .running) : k.resumeCall t = k := by
  simp [Kernel.resumeCall, h]

theorem resumeCall_sleeping (h : (k.thread t).pc = .sleeping) :
    k.resumeCall t = k.modThread t fun th => { th with timerPend := false, timedOut := false, pc := .running } := by
  simp [Kernel.resumeCall, h]

theorem resumeCall_timedOut {s : Nat} (h : (k.thread t).pc = .pending s) (hp : (k.thread t).timerPend = true)
    (ho : (k.thread t).timedOut = true) :
    k.resumeCall t = (k.modThread t fun th => { th with
        semaphorePend := false, timerPend := false, timedOut := false
        pc := .running, pendRc := some (s, .semaphorePendTimedOut) }).modSem s
      fun m => { m with pendingThreads := BitQueue.delete m.pendingThreads (k.thread t).priority } := by
  simp [Kernel.resumeCall, h, hp, ho]

theorem resumeCall_ok {s : Nat} (h : (k.thread t).pc = .pending s) (ho : (k.thread t).timedOut = false) :
    k.resumeCall t = k.modThread t fun th => { th with
      semaphorePend := false, timerPend := false, timedOut := false
      timerActive := !th.timerPend && th.timerActive, pc := .running, pendRc := some (s, .ok) } := by
  cases hp : (k.thread t).timerPend <;> simp [Kernel.resumeCall, h, hp, ho, modThread]

theorem resumeCall_timedOut_waitForever {s : Nat} (h : (k.thread t).pc = .pending s)
    (hp : (k.thread t).timerPend = false) :
    k.resumeCall t = k.modThread t fun th => { th with
      semaphorePend := false, pc := .running, pendRc := some (s, .ok) } := by
  simp [Kernel.resumeCall, h, hp]

theorem resumeCall_frame : ∃ th sems, k.resumeCall t = { k.modThread t (fun _ => th) with sem := sems } ∧
    th.pc = .running ∧ th.state = (k.thread t).state ∧ th.priority = (k.thread t).priority := by
  cases hpc : (k.thread t).pc with
  | running => exact ⟨k.thread t, k.sem, by simp [resumeCall_running hpc, modThread], hpc, rfl, rfl⟩
  | sleeping => rw [resumeCall_sleeping hpc]; exact ⟨_, _, rfl, rfl, rfl, rfl⟩
  | pending s =>
    cases hp : (k.thread t).timerPend with
    | false => rw [resumeCall_timedOut_waitForever hpc hp]; exact ⟨_, _, rfl, rfl, rfl, rfl⟩
    | true =>
      cases ho : (k.thread t).timedOut with
      | false => rw [resumeCall_ok hpc ho]; exact ⟨_, _, rfl, rfl, rfl, rfl⟩
      | true => rw [resumeCall_timedOut hpc hp ho]; exact ⟨_, _, rfl, rfl, rfl, rfl⟩

theorem resumeCall_pc : ((k.resumeCall t).thread t).pc = .running := by
  obtain ⟨th, sems, he, hpc, -⟩ := resumeCall_frame (k := k) (t := t)
  rw [he]
  simpa using hpc

theorem keeps_resumeCall (hk : Core k) (hm : (k.thread t).state = .mapped) (hr : k.threadIsRunnable t = true) :
    Keeps k (k.resumeCall t) := by
  have hmap := (hk.mapped t hm).2
  have hok := hk.ok t (by simp [Kernel.threadIsActive, hm])
  rw [show k.ready t = true by simp [Kernel.ready, hm, hr]] at hok
  have h : Touch k (k.resumeCall t) t (k.thread t).priority ∧ Placed (k.resumeCall t) t (k.thread t).priority ∧
      ((k.resumeCall t).thread t).priority ≤ ssxThreads ∧ (k.resumeCall t).ready t = true := by
    obtain ⟨th, sems, he, -, hst, hp⟩ := resumeCall_frame (k := k) (t := t)
    rw [he]
    refine ⟨touch_mapped hk hm (fun u hu => by simp [hu]) rfl (fun _ _ => rfl), placed_mapped hk hm ?_ ?_ rfl, ?_, ?_⟩
    · simpa [hst] using hm
    · simpa using hp
    · simpa [hp] using hk.priority_le t
    · simpa [Kernel.ready, hst, hm, Kernel.threadIsRunnable, hp] using hr
  obtain ⟨h, hplaced, hle, hready⟩ := h
  have hnone : ∀ s, PendInv k → member (k.sem s).pendingThreads (k.thread t).priority = false :=
    fun s hi => hi.runnable hmap hr s
  cases hpc : (k.thread t).pc with
  | running => rw [resumeCall_running hpc]; exact Keeps.refl hk
  | sleeping =>
    simp only [Thread.Ok, hpc] at hok
    obtain ⟨hsp, ⟨h', -⟩ | ⟨-, -, hta⟩⟩ := hok
    · cases h'
    rw [resumeCall_sleeping hpc] at h hplaced hle hready ⊢
    refine ⟨hk.touch h hplaced hle ?_ ?_, Balanced.of_sem rfl, fun hi => hi.touch hk h ?_ ?_⟩
    · intro _
      rw [hready]
      simp [Thread.Ok, hsp, hta]
    · simp only [modThread_thread, Function.update_self]
      exact hk.returned t
    · intro s q _ hs; exact hs
    · intro s hs
      rw [modThread_sem, hnone s hi] at hs; cases hs
  | pending s =>
    simp only [Thread.Ok, hpc] at hok
    obtain ⟨-, rfl, -, htimer, ⟨h', -⟩ | ⟨-, ho, hp, hta, htok⟩ | ⟨-, ho, htok⟩⟩ := hok
    · cases h'
    · rw [resumeCall_timedOut hpc hp ho] at h hplaced hle hready ⊢
      refine ⟨hk.touch h hplaced hle ?_ ?_, Balanced.update rfl rfl rfl, fun hi => hi.touch hk h ?_ ?_⟩
      · intro _
        rw [hready]
        simp [Thread.Ok, hta]
      · intro s rc hrc
        simp at hrc
        simp [← hrc.2, htok]
      · intro s q hq hs
        by_cases hss : s = (k.thread t).semaphore
        · subst hss; simpa [hq] using hs
        · simpa [hss] using hs
      · intro s hs
        by_cases hss : s = (k.thread t).semaphore
        · subst hss; simp at hs
        · simp [hss, hnone s hi] at hs
    · rw [resumeCall_ok hpc ho] at h hplaced hle hready ⊢
      refine ⟨hk.touch h hplaced hle ?_ ?_, Balanced.of_sem rfl, fun hi => hi.touch hk h ?_ ?_⟩
      · intro _
        rw [hready]
        cases hp : (k.thread t).timerPend with
        | true => simp [Thread.Ok, hp]
        | false =>
          have hta : (k.thread t).timerActive = false := by
            by_contra hta
            rw [htimer (by simpa using hta)] at hp; cases hp
          simp [Thread.Ok, hta]
      · intro s rc hrc
        simp at hrc
        simp [← hrc.1, ← hrc.2, htok]
      · intro s q _ hs; exact hs
      · intro s hs
        rw [modThread_sem, hnone s hi] at hs; cases hs

end Resume

end Occ.Ssx
