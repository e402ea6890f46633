/-
The kernel calls one by one: each keeps what `Keeps` says and leaves the scheduling decision up to
date, but for a post, which adds a count, and the timeout of a thread that pends.
-/
import Occ.Ssx.Invariant

namespace Occ.Ssx

open Occ Kernel BitQueue

/-! ## Scheduling -/

section Schedule

variable {k : Kernel} {t : Nat}

/-- What `__ssx_schedule` relies on: a switch is only delayed in an interrupt, and without a delayed
switch the current thread, if it stays the next one, is not inside a blocking call. -/
structure Schedulable (k : Kernel) : Prop where
  delayed : k.delayedSwitch = true → k.threadMode = true ∧ k.interrupt = true
  running : k.threadMode = true → k.delayedSwitch = false → ∀ t, k.currentThread = some t →
    (k.thread t).state = .mapped → k.threadIsRunnable t = true → (k.thread t).pc = .running

theorem Core.chosen (hk : Core k) (h : k.priorityMap (BitQueue.min k.runQueue) = some t) :
    (k.thread t).state = .mapped ∧ k.threadIsRunnable t = true := by
  obtain ⟨hm, hp⟩ := hk.slot _ t h
  have hlt := (hk.mapped t hm).1
  refine ⟨hm, ?_⟩
  unfold Kernel.threadIsRunnable
  rw [hp] at hlt ⊢
  exact member_min hlt

theorem nextThreadResume_none (h : k.nextThread = none) : k.nextThreadResume = { k with currentThread := none } := by
  simp [nextThreadResume, h]

theorem nextThreadResume_some (h : k.nextThread = some t) :
    k.nextThreadResume = { k with currentThread := some t }.resumeCall t := by
  simp [nextThreadResume, h]

theorem keeps_nextThreadResume (hk : Core k) (hn : k.nextThread = k.priorityMap (BitQueue.min k.runQueue)) :
    Keeps k k.nextThreadResume := by
  cases hnt : k.nextThread with
  | none => rw [nextThreadResume_none hnt]; exact Keeps.of_same hk rfl rfl rfl rfl
  | some t =>
    rw [nextThreadResume_some hnt]
    have h : Keeps k { k with currentThread := some t } := Keeps.of_same hk rfl rfl rfl rfl
    rw [hn] at hnt
    obtain ⟨hm, hr⟩ := hk.chosen hnt
    exact h.trans (keeps_resumeCall h.core hm hr)

theorem sched_nextThreadResume (hp : k.nextPriority = BitQueue.min k.runQueue)
    (hn : k.nextThread = k.priorityMap k.nextPriority) (hi : k.delayedSwitch = true → k.threadMode = true ∧ k.interrupt = true) :
    Sched k.nextThreadResume := by
  cases hnt : k.nextThread with
  | none =>
    rw [nextThreadResume_none hnt]
    refine ⟨hp, hn, fun _ _ => hnt.symm, ?_, hi⟩
    intro _ _ t ht
    cases ht
  | some t =>
    have hpc := resumeCall_pc (k := { k with currentThread := some t }) (t := t)
    obtain ⟨th, sems, he, -⟩ := resumeCall_frame (k := { k with currentThread := some t }) (t := t)
    rw [nextThreadResume_some hnt]
    simp only [he] at hpc ⊢
    refine ⟨hp, hn, fun _ _ => hnt.symm, ?_, hi⟩
    intro _ _ u hu
    cases hu
    exact hpc

theorem keeps_schedule (hk : Core k) : Keeps k k.schedule := by
  have hc : Keeps k k.chooseNext := Keeps.of_same hk rfl rfl rfl rfl
  have hn := keeps_nextThreadResume hc.core rfl
  unfold schedule
  simp only
  split_ifs
  · exact hc.trans hn
  · exact Keeps.of_same hk rfl rfl rfl rfl
  · exact hc
  · exact hc

theorem sched_schedule (hk : Core k) (h : Schedulable k) : Sched k.schedule := by
  unfold schedule
  simp only
  split_ifs with hne hmode hint
  · exact sched_nextThreadResume rfl rfl h.delayed
  · refine ⟨rfl, rfl, ?_, ?_, ?_⟩
    · intro _ hd; cases hd
    · intro _ hd; cases hd
    · exact fun _ => ⟨hmode, by simpa using hint⟩
  · refine ⟨rfl, rfl, ?_, ?_, h.delayed⟩
    · intro hm; exact absurd hm hmode
    · intro hm; exact absurd hm hmode
  · obtain ⟨-, hcur⟩ := not_or.1 hne
    have hcur : k.chooseNext.nextThread = k.currentThread := not_not.1 hcur
    refine ⟨rfl, rfl, fun _ _ => hcur.symm, ?_, h.delayed⟩
    intro hm hd t ht
    obtain ⟨hst, hr⟩ := hk.chosen (hcur.trans ht)
    exact h.running hm hd t ht hst hr

/-- The call goes on in the same context, and no thread enters a blocking call. -/
structure SameContext (k k' : Kernel) : Prop where
  currentThread : k'.currentThread = k.currentThread
  delayedSwitch : k'.delayedSwitch = k.delayedSwitch
  threadMode : k'.threadMode = k.threadMode
  interrupt : k'.interrupt = k.interrupt
  pc : ∀ u, (k'.thread u).pc = (k.thread u).pc ∨ (k'.thread u).pc = .running

theorem SameContext.refl (k : Kernel) : SameContext k k := ⟨rfl, rfl, rfl, rfl, fun _ => Or.inl rfl⟩

theorem SameContext.trans {k k' k'' : Kernel} (h : SameContext k k') (h' : SameContext k' k'') :
    SameContext k k'' := by
  refine ⟨h'.1.trans h.1, h'.2.trans h.2, h'.3.trans h.3, h'.4.trans h.4, fun u => ?_⟩
  rcases h'.pc u with hu | hu
  · rw [hu]; exact h.pc u
  · exact Or.inr hu

theorem sameContext_modThread {f : Thread → Thread}
    (h : (f (k.thread t)).pc = (k.thread t).pc ∨ (f (k.thread t)).pc = .running) :
    SameContext k (k.modThread t f) := by
  refine ⟨rfl, rfl, rfl, rfl, fun u => ?_⟩
  by_cases hu : u = t
  · subst hu; simpa using h
  · simp [hu]

theorem sameContext_threadUnmap : SameContext k (k.threadUnmap t) := by
  unfold threadUnmap
  simp only
  split_ifs
  all_goals
    refine ⟨rfl, rfl, rfl, rfl, fun u => Or.inl ?_⟩
    by_cases hu : u = t <;> simp [hu]

theorem sameContext_threadMap : SameContext k (k.threadMap t) := by
  unfold threadMap threadRequeue Kernel.give
  simp only
  split_ifs
  all_goals
    refine ⟨rfl, rfl, rfl, rfl, fun u => Or.inl ?_⟩
    by_cases hu : u = t <;> simp [hu]

theorem Sched.schedulable {k' : Kernel} (h : Sched k) (hc : SameContext k k') : Schedulable k' := by
  constructor
  · rw [hc.delayedSwitch, hc.threadMode, hc.interrupt]; exact h.delayed
  · intro hm hd u hu _ _
    rw [hc.threadMode] at hm
    rw [hc.delayedSwitch] at hd
    rw [hc.currentThread] at hu
    rcases hc.pc u with hpc | hpc
    · rw [hpc]; exact h.running hm hd u hu
    · exact hpc

theorem Sched.not_delayed (h : Sched k) (hi : k.interrupt = false) : k.delayedSwitch = false := by
  by_contra hd
  rw [(h.delayed (by simpa using hd)).2] at hi; cases hi

theorem Sched.congr {k' : Kernel} (h : Sched k) (hc : SameContext k k') (hq : k'.runQueue = k.runQueue)
    (hm : k'.priorityMap = k.priorityMap) (hp : k'.nextPriority = k.nextPriority)
    (hn : k'.nextThread = k.nextThread) : Sched k' := by
  refine ⟨by rw [hp, hq]; exact h.nextPriority, by rw [hn, hm, hp]; exact h.nextThread, ?_, ?_, ?_⟩
  · rw [hc.threadMode, hc.delayedSwitch, hc.currentThread, hn]; exact h.current
  · rw [hc.threadMode, hc.delayedSwitch, hc.currentThread]
    intro hm hd u hu
    rcases hc.pc u with hpc | hpc
    · rw [hpc]; exact h.running hm hd u hu
    · exact hpc
  · rw [hc.delayedSwitch, hc.threadMode, hc.interrupt]; exact h.delayed

end Schedule

/-! ## Calls that map and unmap threads -/

structure Safe (k k' : Kernel) : Prop where
  keeps : Keeps k k'
  sched : Sched k'

section Calls

variable {k : Kernel} {t : Nat}

theorem Safe.inv {k' : Kernel} (h : Safe k k') : Inv k' := ⟨h.keeps.core, h.sched⟩

theorem Safe.refl (h : Inv k) : Safe k k := ⟨.refl h.core, h.sched⟩

/-- A call that ends with `__ssx_schedule`. -/
theorem safe_schedule {k' : Kernel} (h : Inv k) (hk : Keeps k k') (hc : SameContext k k') : Safe k k'.schedule :=
  ⟨hk.trans (keeps_schedule hk.core), sched_schedule hk.core (h.sched.schedulable hc)⟩

/-- A call that gives up the current thread before `__ssx_schedule`. -/
theorem safe_idle_schedule {k' : Kernel} (h : Inv k) (hk : Keeps k k') (hc : SameContext k k') :
    Safe k { k' with currentThread := none }.schedule := by
  have hn : Keeps k' { k' with currentThread := none } := .of_same hk.core rfl rfl rfl rfl
  refine ⟨(hk.trans hn).trans (keeps_schedule hn.core), sched_schedule hn.core ⟨?_, ?_⟩⟩
  · exact (h.sched.schedulable hc).delayed
  · intro _ _ u hu
    cases hu

theorem safe_ssxError (h : Inv k) (code : SsxError) : Safe k (k.ssxError code).1 :=
  ⟨.of_same h.core rfl rfl rfl rfl, h.sched.congr ⟨rfl, rfl, rfl, rfl, fun _ => Or.inl rfl⟩ rfl rfl rfl rfl⟩

theorem isMapped_iff : k.threadIsMapped t = true ↔ (k.thread t).state = .mapped := by
  simp [Kernel.threadIsMapped]

theorem safe_ssxThreadCreate (h : Inv k) (ha : k.threadIsActive t = false) (priority : Nat) :
    Safe k (k.ssxThreadCreate t priority).1 := by
  unfold ssxThreadCreate
  split_ifs with hp
  · exact safe_ssxError h _
  · have hm : (k.thread t).state ≠ .mapped := by
      intro hm
      simp [Kernel.threadIsActive, hm] at ha
    simp only
    refine ⟨keeps_unmapped h.core hm ?_ ?_ ?_ ?_ ?_, ?_⟩
    · intro hst; cases hst
    · simp only; omega
    · intro _; simp [Thread.Ok]
    · intro hst; cases hst
    · intro s rc hrc; cases hrc
    · exact h.sched.congr (sameContext_modThread (Or.inr rfl)) rfl rfl rfl rfl

theorem lt_of_ne_ssxThreads (hk : Core k) (h : (k.thread t).priority ≠ ssxThreads) :
    (k.thread t).priority < ssxThreads := by
  have hle := hk.priority_le t
  omega

theorem safe_ssxThreadResume (h : Inv k)
    (hidle : k.threadIsActive t = true → k.threadIsMapped t = false → (k.thread t).priority ≠ ssxThreads) :
    Safe k (k.ssxThreadResume t).1 := by
  unfold ssxThreadResume
  split_ifs with ha hm hfree
  · exact safe_ssxError h _
  · exact Safe.refl h
  · exact safe_ssxError h _
  · have ha : k.threadIsActive t = true := by simpa using ha
    have hm : k.threadIsMapped t = false := by simpa using hm
    have hst : (k.thread t).state ≠ .mapped := by simpa [Kernel.threadIsMapped] using hm
    have hlt := lt_of_ne_ssxThreads h.core (hidle ha hm)
    exact safe_schedule h (keeps_threadMap h.core ha hst (by simpa using hfree) hlt) sameContext_threadMap

theorem safe_ssxThreadSuspend (h : Inv k) : Safe k (k.ssxThreadSuspend t).1 := by
  unfold ssxThreadSuspend
  split_ifs with ha hm
  · exact safe_ssxError h _
  · exact safe_schedule h (keeps_threadUnmap h.core (isMapped_iff.1 hm)) sameContext_threadUnmap
  · exact Safe.refl h

theorem threadUnmap_priorityMap : (k.threadUnmap t).priorityMap =
    Function.update k.priorityMap (k.thread t).priority none := by
  unfold threadUnmap
  simp only
  split_ifs <;> rfl

theorem threadUnmap_other {u : Nat} (hu : u ≠ t) : (k.threadUnmap t).thread u = k.thread u := by
  unfold threadUnmap
  simp only
  split_ifs <;> simp [hu]

theorem threadUnmap_priority : ((k.threadUnmap t).thread t).priority = (k.thread t).priority := by
  unfold threadUnmap
  simp only
  split_ifs <;> simp

theorem threadUnmap_state : ((k.threadUnmap t).thread t).state = .suspendedRunnable ∨
    ((k.threadUnmap t).thread t).state = .suspendedBlocked := by
  unfold threadUnmap
  simp only
  split_ifs <;> simp

theorem threadMap_priorityMap : (k.threadMap t).priorityMap =
    Function.update k.priorityMap (k.thread t).priority (some t) := by
  unfold threadMap threadRequeue Kernel.give
  simp only
  split_ifs <;> rfl

theorem threadMap_other {u : Nat} (hu : u ≠ t) : (k.threadMap t).thread u = k.thread u := by
  unfold threadMap threadRequeue Kernel.give
  simp only
  split_ifs <;> simp [hu]

theorem not_mapped_of_suspended (h : (k.thread t).state = .suspendedRunnable ∨ (k.thread t).state = .suspendedBlocked) :
    (k.thread t).state ≠ .mapped ∧ k.threadIsActive t = true := by
  rcases h with h | h <;> simp [Kernel.threadIsActive, h]

theorem safe_threadDelete (h : Inv k) (finalState : ThreadState)
    (hfin : finalState = .completed ∨ finalState = .deleted) : Safe k (k.threadDelete t finalState) := by
  have hne : finalState ≠ .mapped ∧ finalState ≠ .suspendedRunnable ∧ finalState ≠ .suspendedBlocked := by
    rcases hfin with rfl | rfl <;> simp
  have hretire : ∀ k' : Kernel, Core k' → (k'.thread t).state ≠ .mapped →
      Keeps k' (k'.modThread t fun th => { th with timerActive := false, state := finalState }) := by
    intro k' hk' hm
    refine keeps_unmapped hk' hm hne.1 (hk'.priority_le t) ?_ ?_ (hk'.returned t)
    · intro hst; exact absurd hst hne.2.1
    · intro hst; exact absurd hst hne.2.2
  unfold threadDelete
  simp only
  by_cases hm : k.threadIsMapped t = true
  · rw [if_pos hm, if_pos hm]
    have hu := keeps_threadUnmap h.core (isMapped_iff.1 hm)
    have hd := hu.trans (hretire _ hu.core (not_mapped_of_suspended threadUnmap_state).1)
    have hc : SameContext k _ := sameContext_threadUnmap.trans
      (sameContext_modThread (k := k.threadUnmap t) (t := t)
        (f := fun th => { th with timerActive := false, state := finalState }) (Or.inl rfl))
    split_ifs
    · exact safe_idle_schedule h hd hc
    · exact safe_schedule h hd hc
  · rw [if_neg hm, if_neg hm]
    exact ⟨hretire k h.core fun hst => hm (isMapped_iff.2 hst),
      h.sched.congr (sameContext_modThread (Or.inl rfl)) rfl rfl rfl rfl⟩

theorem safe_ssxThreadDelete (h : Inv k) : Safe k (k.ssxThreadDelete t).1 :=
  safe_threadDelete h _ (Or.inr rfl)

theorem safe_ssxComplete (h : Inv k) : Safe k k.ssxComplete.1 := by
  unfold ssxComplete
  split_ifs
  · exact safe_ssxError h _
  · cases k.currentThread with
    | none => exact Safe.refl h
    | some t => exact safe_threadDelete h _ (Or.inl rfl)

theorem keeps_priority (hk : Core k) (hm : (k.thread t).state ≠ .mapped) {p : Nat} (hp : p ≤ ssxThreads) :
    Keeps k (k.modThread t fun th => { th with priority := p }) := by
  refine keeps_unmapped hk hm hm hp ?_ ?_ (hk.returned t)
  · intro hst
    have hok := hk.ok t (by simp [Kernel.threadIsActive, show (k.thread t).state = _ from hst])
    rwa [show k.ready t = true by simp [Kernel.ready, show (k.thread t).state = _ from hst]] at hok
  · intro hst
    have hok := hk.ok t (by simp [Kernel.threadIsActive, show (k.thread t).state = _ from hst])
    rwa [show k.ready t = false by simp [Kernel.ready, show (k.thread t).state = _ from hst]] at hok

theorem safe_ssxThreadPriorityChange (h : Inv k) {p : Nat}
    (hidle : k.threadIsMapped t = true → (k.thread t).priority ≠ p → p ≠ ssxThreads) :
    Safe k (k.ssxThreadPriorityChange t p).1 := by
  unfold ssxThreadPriorityChange
  split_ifs with hp hsame hm hfree
  · exact safe_ssxError h _
  · exact Safe.refl h
  · have hm : (k.thread t).state ≠ .mapped := by simpa [Kernel.threadIsMapped] using hm
    simp only
    exact ⟨keeps_priority h.core hm (by omega), h.sched.congr (sameContext_modThread (Or.inl rfl)) rfl rfl rfl rfl⟩
  · exact safe_ssxError h _
  · have hm : k.threadIsMapped t = true := by simpa using hm
    have hne := hidle hm hsame
    have hu := keeps_threadUnmap h.core (isMapped_iff.1 hm)
    obtain ⟨hum, hua⟩ := not_mapped_of_suspended (threadUnmap_state (k := k) (t := t))
    have hpr := hu.trans (keeps_priority hu.core hum (p := p) (by omega))
    refine safe_schedule h (hpr.trans (keeps_threadMap hpr.core ?_ ?_ ?_ ?_))
      ((sameContext_threadUnmap.trans (sameContext_modThread (Or.inl rfl))).trans sameContext_threadMap)
    · simpa [Kernel.threadIsActive] using hua
    · simpa using hum
    · simp only [modThread_thread, Function.update_self, modThread_priorityMap, threadUnmap_priorityMap]
      rw [Function.update_of_ne (Ne.symm hsame)]
      simpa using hfree
    · simp only [modThread_thread, Function.update_self]
      omega

/-- A thread as `ssx_thread_priority_swap` leaves it after unmapping it if it was mapped. -/
structure Unmapped (k k' : Kernel) (t : Nat) : Prop where
  keeps : Keeps k k'
  context : SameContext k k'
  state : (k'.thread t).state ≠ .mapped
  priority : (k'.thread t).priority = (k.thread t).priority
  other : ∀ u, u ≠ t → k'.thread u = k.thread u
  mapped : k.threadIsMapped t = true → k'.threadIsActive t = true ∧ k'.priorityMap (k.thread t).priority = none
  free : ∀ q, k.priorityMap q = none → k'.priorityMap q = none

theorem unmapped_if (hk : Core k) : Unmapped k (if k.threadIsMapped t then k.threadUnmap t else k) t := by
  by_cases hm : k.threadIsMapped t = true
  · rw [if_pos hm]
    obtain ⟨hst, ha⟩ := not_mapped_of_suspended (threadUnmap_state (k := k) (t := t))
    refine ⟨keeps_threadUnmap hk (isMapped_iff.1 hm), sameContext_threadUnmap, hst, threadUnmap_priority,
      fun _ => threadUnmap_other, fun _ => ⟨ha, ?_⟩, ?_⟩
    · rw [threadUnmap_priorityMap, Function.update_self]
    · intro q hq
      rw [threadUnmap_priorityMap, Function.update_apply]
      split_ifs
      · rfl
      · exact hq
  · rw [if_neg hm]
    exact ⟨.refl hk, .refl k, fun hst => hm (isMapped_iff.2 hst), rfl, fun _ _ => rfl, fun h => absurd h hm,
      fun _ hq => hq⟩

theorem threadIsActive_congr {k' : Kernel} (h : (k'.thread t).state = (k.thread t).state) :
    k'.threadIsActive t = k.threadIsActive t := by
  unfold Kernel.threadIsActive
  rw [h]

theorem mapped_if (hk : Core k) (m : Bool) (ha : m = true → k.threadIsActive t = true)
    (hm : (k.thread t).state ≠ .mapped) (hfree : m = true → k.priorityMap (k.thread t).priority = none)
    (hlt : m = true → (k.thread t).priority < ssxThreads) :
    Keeps k (if m then k.threadMap t else k) ∧ SameContext k (if m then k.threadMap t else k) := by
  cases m with
  | false => exact ⟨.refl hk, .refl k⟩
  | true => exact ⟨keeps_threadMap hk (ha rfl) hm (hfree rfl) (hlt rfl), sameContext_threadMap⟩

theorem safe_ssxThreadPrioritySwap (h : Inv k) {a b : Nat}
    (ha : a ≠ b → k.threadIsMapped a = true → (k.thread b).priority ≠ ssxThreads)
    (hb : a ≠ b → k.threadIsMapped b = true → (k.thread a).priority ≠ ssxThreads) :
    Safe k (k.ssxThreadPrioritySwap a b).1 := by
  unfold ssxThreadPrioritySwap
  by_cases hab : a = b
  · rw [if_pos hab]; exact Safe.refl h
  have hba : b ≠ a := Ne.symm hab
  rw [if_neg hab]
  simp only
  by_cases hle : (k.thread a).priority > ssxThreads ∨ (k.thread b).priority > ssxThreads
  · rw [if_pos hle]; exact safe_ssxError h _
  rw [if_neg hle]
  split
  · exact safe_ssxError h _
  rename_i huse
  -- both are unmapped
  have hua := unmapped_if (t := a) h.core
  generalize (if k.threadIsMapped a then k.threadUnmap a else k) = kA at hua ⊢
  have hmb : kA.threadIsMapped b = k.threadIsMapped b := by
    unfold Kernel.threadIsMapped; rw [hua.other b hba]
  have hub := unmapped_if (t := b) hua.keeps.core
  rw [hmb] at hub
  generalize (if k.threadIsMapped b then kA.threadUnmap b else kA) = kB at hub ⊢
  have hta : kB.thread a = kA.thread a := hub.other a hab
  have htb : kA.thread b = k.thread b := hua.other b hba
  have hfa : k.threadIsMapped a = true → kB.priorityMap (k.thread b).priority = none := by
    intro hm
    cases hm' : k.threadIsMapped b with
    | true => rw [← htb]; exact (hub.mapped (hmb.trans hm')).2
    | false =>
      have hn : k.priorityMap (k.thread b).priority = none := by simpa [hm, hm'] using huse
      exact hub.free _ (hua.free _ hn)
  have hfb : k.threadIsMapped b = true → kB.priorityMap (k.thread a).priority = none := by
    intro hm
    cases hm' : k.threadIsMapped a with
    | true => exact hub.free _ (hua.mapped hm').2
    | false =>
      have hn : k.priorityMap (k.thread a).priority = none := by simpa [hm, hm'] using huse
      exact hub.free _ (hua.free _ hn)
  -- the priorities are exchanged
  have hC := keeps_priority hub.keeps.core (t := a) (p := (k.thread b).priority) (by rw [hta]; exact hua.state)
    (by omega)
  have hsC : SameContext kB (kB.modThread a fun th => { th with priority := (k.thread b).priority }) :=
    sameContext_modThread (Or.inl rfl)
  generalize hkC : (kB.modThread a fun th => { th with priority := (k.thread b).priority }) = kC at hC hsC ⊢
  have hCb : kC.thread b = kB.thread b := by rw [← hkC]; simp [hba]
  have hD := keeps_priority hC.core (t := b) (p := (k.thread a).priority) (by rw [hCb]; exact hub.state) (by omega)
  have hsD : SameContext kC (kC.modThread b fun th => { th with priority := (k.thread a).priority }) :=
    sameContext_modThread (Or.inl rfl)
  generalize hkD : (kC.modThread b fun th => { th with priority := (k.thread a).priority }) = kD at hD hsD ⊢
  have hDa : kD.thread a = { kB.thread a with priority := (k.thread b).priority } := by
    rw [← hkD, ← hkC]; simp [hab]
  have hDb : kD.thread b = { kB.thread b with priority := (k.thread a).priority } := by
    rw [← hkD]; simp [hCb]
  have hDmap : kD.priorityMap = kB.priorityMap := by rw [← hkD, ← hkC]; rfl
  -- what was mapped is mapped again
  obtain ⟨hE, hsE⟩ := mapped_if hD.core (t := a) (k.threadIsMapped a)
    (fun hm => by
      rw [threadIsActive_congr (k := kA) (by rw [hDa, hta])]
      exact (hua.mapped hm).1)
    (by rw [hDa, hta]; exact hua.state)
    (fun hm => by rw [hDa, hDmap]; exact hfa hm)
    (fun hm => by
      rw [hDa]
      have hne := ha hab hm
      simp only; omega)
  have hEb : (if k.threadIsMapped a then kD.threadMap a else kD).thread b = kD.thread b := by
    split
    · exact threadMap_other hba
    · rfl
  have hEmap : k.threadIsMapped b = true →
      (if k.threadIsMapped a then kD.threadMap a else kD).priorityMap (k.thread a).priority = none := by
    intro hm
    split
    · rename_i hma
      rw [threadMap_priorityMap, hDa, hDmap, Function.update_of_ne]
      · exact hfb hm
      · intro he
        have hsa := (h.core.mapped a (isMapped_iff.1 hma)).2
        rw [show (k.thread a).priority = (k.thread b).priority from he, (h.core.mapped b (isMapped_iff.1 hm)).2] at hsa
        cases hsa
        exact hab rfl
    · rw [hDmap]; exact hfb hm
  generalize (if k.threadIsMapped a then kD.threadMap a else kD) = kE at hE hsE hEb hEmap ⊢
  obtain ⟨hF, hsF⟩ := mapped_if hE.core (t := b) (k.threadIsMapped b)
    (fun hm => by
      rw [threadIsActive_congr (k := kB) (by rw [hEb, hDb])]
      exact (hub.mapped (hmb.trans hm)).1)
    (by rw [hEb, hDb]; exact hub.state)
    (fun hm => by rw [hEb, hDb]; exact hEmap hm)
    (fun hm => by
      rw [hEb, hDb]
      have hne := hb hab hm
      simp only; omega)
  exact safe_schedule h (((((hua.keeps.trans hub.keeps).trans hC).trans hD).trans hE).trans hF)
    (((((hua.context.trans hub.context).trans hsC).trans hsD).trans hsE).trans hsF)

end Calls

/-! ## Blocking calls -/

section Blocking

variable {k : Kernel} {t s : Nat}

theorem Inv.current (h : Inv k) (hc : k.kernelContextThread = true) (ht : k.currentThread = some t) :
    (k.thread t).state = .mapped ∧ k.threadIsRunnable t = true ∧ (k.thread t).pc = .running := by
  obtain ⟨hm, hi⟩ : k.threadMode = true ∧ k.interrupt = false := by simpa [kernelContextThread] using hc
  have hd := h.sched.not_delayed hi
  have hn := h.sched.current hm hd
  rw [h.sched.nextThread, h.sched.nextPriority, ht] at hn
  obtain ⟨hst, hr⟩ := h.core.chosen hn.symm
  exact ⟨hst, hr, h.sched.running hm hd t ht⟩

theorem Core.running (hk : Core k) (hm : (k.thread t).state = .mapped) (hpc : (k.thread t).pc = .running) :
    (k.thread t).semaphorePend = false ∧ (k.thread t).timerPend = false ∧ (k.thread t).timedOut = false ∧
      (k.thread t).timerActive = false := by
  have hok := hk.ok t (by simp [Kernel.threadIsActive, hm])
  simp only [Thread.Ok, hpc] at hok
  exact hok.2

theorem schedule_context : k.schedule.threadMode = k.threadMode ∧ k.schedule.interrupt = k.interrupt := by
  have hn : k.chooseNext.nextThreadResume.threadMode = k.threadMode ∧
      k.chooseNext.nextThreadResume.interrupt = k.interrupt := by
    cases hnt : k.chooseNext.nextThread with
    | none => rw [nextThreadResume_none hnt]; exact ⟨rfl, rfl⟩
    | some t =>
      rw [nextThreadResume_some hnt]
      obtain ⟨th, sems, he, -⟩ := resumeCall_frame (k := { k.chooseNext with currentThread := some t }) (t := t)
      rw [he]; exact ⟨rfl, rfl⟩
  unfold schedule
  simp only
  split_ifs
  · exact hn
  · exact ⟨rfl, rfl⟩
  · exact ⟨rfl, rfl⟩
  · exact ⟨rfl, rfl⟩

/-- A blocking call of a thread ends its step with the switch; if another thread is switched to, the
rest of the call is not run. -/
theorem safe_block {k' : Kernel} (h : Inv k) (hc : k.kernelContextThread = true) (ht : k.currentThread = some t)
    (hk : Keeps k k') (hcur : k'.currentThread = k.currentThread) (hmode : k'.threadMode = k.threadMode)
    (hint : k'.interrupt = k.interrupt) (hdel : k'.delayedSwitch = k.delayedSwitch)
    (hr : k'.threadIsRunnable t = false) : Safe k (k'.block t) := by
  obtain ⟨hm, hi⟩ : k.threadMode = true ∧ k.interrupt = false := by simpa [kernelContextThread] using hc
  have hs : Sched k'.schedule := by
    apply sched_schedule hk.core
    refine ⟨by rw [hdel, hmode, hint]; exact h.sched.delayed, ?_⟩
    intro _ _ u hu _ hru
    rw [hcur, ht] at hu; cases hu
    rw [hr] at hru; cases hru
  have hblock : k'.block t = k'.schedule := by
    unfold block
    simp only
    split_ifs with hcur'
    · apply resumeCall_running
      apply hs.running _ _ t hcur'
      · rw [schedule_context.1, hmode]; exact hm
      · apply hs.not_delayed
        rw [schedule_context.2, hint]; exact hi
    · rfl
  rw [hblock]
  exact ⟨hk.trans (keeps_schedule hk.core), hs⟩

theorem safe_ssxSleepAbsolute (h : Inv k) : Safe k k.ssxSleepAbsolute.1 := by
  unfold ssxSleepAbsolute
  split_ifs with hc
  · exact safe_ssxError h _
  have hc : k.kernelContextThread = true := by simpa using hc
  split
  · exact Safe.refl h
  · rename_i t ht
    obtain ⟨hm, hr, hpc⟩ := h.current hc ht
    obtain ⟨hsp, htp, hto, hta⟩ := h.core.running hm hpc
    refine safe_block h hc ht ?_ rfl rfl rfl rfl ?_
    · have htouch : Touch k ({ k with runQueue := BitQueue.delete k.runQueue (k.thread t).priority }.modThread t
          fun th => { th with timerActive := true, timerPend := true, pc := .sleeping }) t (k.thread t).priority :=
        touch_mapped h.core hm (fun u hu => by simp [hu]) rfl (fun q hq => by simp [hq])
      refine ⟨h.core.touch htouch (placed_mapped h.core hm ?_ ?_ rfl) ?_ ?_ ?_, .of_sem rfl,
        fun hi => hi.touch h.core htouch ?_ ?_⟩
      · simpa using hm
      · simp
      · simpa using h.core.priority_le t
      · intro _
        simp [Thread.Ok, Kernel.ready, hm, Kernel.threadIsRunnable, hsp, hto]
      · simp only [modThread_thread, Function.update_self]
        exact h.core.returned t
      · intro s q _ hs; exact hs
      · intro s hs
        rw [modThread_sem, hi.runnable (h.core.mapped t hm).2 hr] at hs; cases hs
    · simp [Kernel.threadIsRunnable]

theorem safe_pendReturns (h : Inv k) (rc : Rc) : Safe k (k.pendReturns s rc) := by
  unfold pendReturns
  split
  · rename_i hc
    split
    · exact Safe.refl h
    · rename_i t ht
      obtain ⟨hm, -, hpc⟩ := h.current hc ht
      refine ⟨keeps_mapped h.core hm hm rfl rfl ?_ ?_, h.sched.congr (sameContext_modThread (Or.inl rfl)) rfl rfl rfl rfl⟩
      · intro hok
        simp only [Thread.Ok, hpc] at hok ⊢
        exact hok
      · intro r rc' hrc
        cases hrc
        rfl
  · exact Safe.refl h

theorem safe_take (h : Inv k) (hc : (k.sem s).count ≠ 0) :
    Safe k (k.modSem s fun m => { m with count := m.count - 1, pends := m.pends + 1 }) := by
  refine ⟨⟨h.core.congr rfl rfl rfl, Balanced.update rfl rfl (by simp only; omega), ?_⟩,
    h.sched.congr ⟨rfl, rfl, rfl, rfl, fun _ => Or.inl rfl⟩ rfl rfl rfl rfl⟩
  intro hi r p hr
  apply hi r p
  by_cases hrs : r = s
  · subst hrs; simpa using hr
  · simpa [hrs] using hr

/-- The running thread `t` becomes a thread that waits for `s`. -/
theorem keeps_enterPend (hk : Core k) (hm : (k.thread t).state = .mapped) (hr : k.threadIsRunnable t = true)
    (hpc : (k.thread t).pc = .running) (timer : Bool) :
    Keeps k { (k.modSem s fun m => { m with
        pendingThreads := BitQueue.insert m.pendingThreads (k.thread t).priority }).modThread t
      fun th => { th with
        semaphore := s, semaphorePend := true, pc := .pending s, token := none, pendRc := none
        timerPend := th.timerPend || timer, timerActive := th.timerActive || timer } with
      runQueue := BitQueue.delete k.runQueue (k.thread t).priority } := by
  obtain ⟨hsp, htp, hto, hta⟩ := hk.running hm hpc
  have hmap := (hk.mapped t hm).2
  generalize hk' : (Kernel.mk ..) = k'
  have hth : k'.thread t = { k.thread t with
      semaphore := s, semaphorePend := true, pc := .pending s, token := none, pendRc := none
      timerPend := timer, timerActive := timer } := by
    rw [← hk']; simp [htp, hta]
  have htouch : Touch k k' t (k.thread t).priority := by
    subst hk'
    exact touch_mapped hk hm (fun u hu => by simp [hu]) rfl (fun q hq => by simp [hq])
  have hrun : k'.threadIsRunnable t = false := by
    unfold Kernel.threadIsRunnable
    rw [hth, ← hk']
    simp
  have hsem : k'.sem = Function.update k.sem s { k.sem s with
      pendingThreads := BitQueue.insert (k.sem s).pendingThreads (k.thread t).priority } := by
    rw [← hk']; rfl
  have hmap' : k'.priorityMap = k.priorityMap := by rw [← hk']; rfl
  refine ⟨hk.touch htouch (placed_mapped hk hm ?_ ?_ hmap') ?_ ?_ ?_, Balanced.update hsem rfl rfl,
    fun hi => hi.touch hk htouch ?_ ?_⟩
  · rw [hth]; exact hm
  · rw [hth]
  · rw [hth]; exact hk.priority_le t
  · intro _
    have hready : k'.ready t = false := by
      unfold Kernel.ready
      rw [hth]
      simp [hm, hrun]
    rw [hth, hready]
    simp [Thread.Ok, hto]
  · rw [hth]
    intro r rc hrc
    cases hrc
  · intro r q hq hr
    rw [hsem] at hr
    by_cases hrs : r = s
    · subst hrs; simpa [hq] using hr
    · simpa [hrs] using hr
  · intro r hb
    rw [hsem] at hb
    by_cases hrs : r = s
    · subst hrs
      exact ⟨by rw [hmap']; exact hmap, by rw [hth], hrun⟩
    · rw [Function.update_of_ne hrs, hi.runnable hmap hr] at hb; cases hb

theorem safe_ssxSemaphorePend (h : Inv k) (timeout : Timeout) : Safe k (k.ssxSemaphorePend s timeout).1 := by
  unfold ssxSemaphorePend
  split
  · rename_i hc
    have ht := safe_take h hc
    have hp := safe_pendReturns (s := s) ht.inv .ok
    exact ⟨ht.keeps.trans hp.keeps, hp.sched⟩
  split
  · exact safe_pendReturns h _
  split
  · simp only
    exact safe_ssxError h _
  rename_i hc
  have hc : k.kernelContextThread = true := by simpa using hc
  split
  · exact Safe.refl h
  rename_i t ht
  obtain ⟨hm, hr, hpc⟩ := h.current hc ht
  refine safe_block h hc ht (keeps_enterPend h.core hm hr hpc (timeout != .waitForever)) rfl rfl rfl rfl ?_
  simp [Kernel.threadIsRunnable]

end Blocking

/-! ## Interrupts and the start of the threads -/

section Interrupts

variable {k : Kernel} {t s : Nat}

theorem safe_irqEnter (h : Inv k) : Safe k { k with interrupt := true } := by
  refine ⟨.of_same h.core rfl rfl rfl rfl, h.sched.nextPriority, h.sched.nextThread, h.sched.current,
    h.sched.running, ?_⟩
  intro hd
  exact ⟨(h.sched.delayed hd).1, rfl⟩

theorem safe_irqExit (h : Inv k) : Safe k k.irqExit := by
  have hk : Keeps k { k with interrupt := false } := .of_same h.core rfl rfl rfl rfl
  unfold irqExit
  simp only
  split_ifs with hd
  · have hk' : Keeps k { k with interrupt := false, delayedSwitch := false } := .of_same h.core rfl rfl rfl rfl
    have hn : k.nextThread = k.priorityMap (BitQueue.min k.runQueue) := by
      rw [h.sched.nextThread, h.sched.nextPriority]
    refine ⟨hk'.trans (keeps_nextThreadResume hk'.core hn),
      sched_nextThreadResume h.sched.nextPriority h.sched.nextThread ?_⟩
    intro hd; cases hd
  · refine ⟨hk, h.sched.nextPriority, h.sched.nextThread, h.sched.current, h.sched.running, ?_⟩
    intro hd'
    have hm := (h.sched.delayed hd').1
    simp only [Bool.and_eq_true, not_and] at hd
    exact absurd hd' (hd hm)

theorem safe_startThreads (h : Inv k) (hm : k.threadMode = false) :
    Safe k { k with threadMode := true }.nextThreadResume := by
  have hk : Keeps k { k with threadMode := true } := .of_same h.core rfl rfl rfl rfl
  have hn : k.nextThread = k.priorityMap (BitQueue.min k.runQueue) := by
    rw [h.sched.nextThread, h.sched.nextPriority]
  refine ⟨hk.trans (keeps_nextThreadResume hk.core hn),
    sched_nextThreadResume h.sched.nextPriority h.sched.nextThread ?_⟩
  intro hd
  rw [(h.sched.delayed hd).1] at hm; cases hm

end Interrupts

/-! ## Timeouts -/

section Timeouts

variable {k : Kernel} {t s : Nat}

theorem Thread.Ok.timerStop {th : Thread} {r : Bool} (h : th.Ok r) : Thread.Ok { th with timerActive := false } r := by
  unfold Thread.Ok at h ⊢
  cases hpc : th.pc with
  | running => rw [hpc] at h; exact ⟨h.1, h.2.1, h.2.2.1, h.2.2.2.1, rfl⟩
  | sleeping =>
    rw [hpc] at h
    obtain ⟨hsp, ⟨hr, ho⟩ | ⟨hr, ho, -⟩⟩ := h
    · exact ⟨hsp, Or.inl ⟨hr, ho⟩⟩
    · exact ⟨hsp, Or.inr ⟨hr, ho, rfl⟩⟩
  | pending s =>
    rw [hpc] at h
    obtain ⟨hsp, hs, hrc, -, hw | ⟨hr, ho, hp, -, htok⟩ | hg⟩ := h
    · exact ⟨hsp, hs, hrc, fun h => (by cases h), Or.inl hw⟩
    · exact ⟨hsp, hs, hrc, fun h => (by cases h), Or.inr (Or.inl ⟨hr, ho, hp, rfl, htok⟩)⟩
    · exact ⟨hsp, hs, hrc, fun h => (by cases h), Or.inr (Or.inr hg)⟩

theorem Thread.Ok.timeOut {th : Thread} (h : th.Ok false) (hta : th.timerActive = true) :
    Thread.Ok { th with timerActive := false, timedOut := true } true := by
  unfold Thread.Ok at h ⊢
  cases hpc : th.pc with
  | running => rw [hpc] at h; cases h.1
  | sleeping =>
    rw [hpc] at h
    exact ⟨h.1, Or.inr ⟨rfl, rfl, rfl⟩⟩
  | pending s =>
    rw [hpc] at h
    obtain ⟨hsp, hs, hrc, htp, ⟨-, -, htok⟩ | ⟨hr, -⟩ | ⟨hr, -⟩⟩ := h
    · exact ⟨hsp, hs, hrc, fun h => (by cases h), Or.inr (Or.inl ⟨rfl, rfl, htp hta, rfl, htok⟩)⟩
    · cases hr
    · cases hr

/-- Thread `t` is mapped and blocked in a pend. -/
def Kernel.Pends (k : Kernel) (t : Nat) : Prop := (k.thread t).state = .mapped ∧ ∃ s, k.BlockedOn t s

/-- The timeout of a mapped thread that waits. -/
theorem timeout_waiting (h : Inv k) (hm : (k.thread t).state = .mapped) (hr : k.threadIsRunnable t = false)
    (hta : (k.thread t).timerActive = true) :
    let k' := { k with runQueue := BitQueue.insert k.runQueue (k.thread t).priority }.modThread t
      fun th => { th with timerActive := false, timedOut := true }
    Core k' ∧ (¬k.Pends t → PendInv k → PendInv k') := by
  intro k'
  obtain ⟨hlt, hmap⟩ := h.core.mapped t hm
  have hlt : (k.thread t).priority < 32 := hlt
  have hok := h.core.ok t (by simp [Kernel.threadIsActive, hm])
  rw [show k.ready t = false by simp [Kernel.ready, hm, hr]] at hok
  have htouch : Touch k k' t (k.thread t).priority :=
    touch_mapped h.core hm (fun u hu => by simp [k', hu]) rfl (fun q hq => by simp [k', hq])
  refine ⟨h.core.touch htouch (placed_mapped h.core hm ?_ ?_ rfl) ?_ ?_ ?_, fun hp hi => hi.touch h.core htouch ?_ ?_⟩
  · simpa [k'] using hm
  · simp [k']
  · simpa [k'] using h.core.priority_le t
  · intro _
    rw [show k'.ready t = true by simp [k', Kernel.ready, hm, Kernel.threadIsRunnable, hlt]]
    simp only [k', modThread_thread, Function.update_self]
    exact hok.timeOut hta
  · simp only [k', modThread_thread, Function.update_self]
    exact h.core.returned t
  · intro s q _ hs; exact hs
  · intro s hs
    obtain ⟨u, hu, hb⟩ := hi s _ hs
    rw [hmap] at hu; cases hu
    exact absurd ⟨hm, s, hb⟩ hp

theorem threadTimeout_cases {k' : Kernel}
    (he : (k.modThread t fun th => { th with timerActive := false }).threadTimeout t = k') :
    ((k.thread t).state = .mapped ∧ k.threadIsRunnable t = false ∧
      k' = ({ k with runQueue := BitQueue.insert k.runQueue (k.thread t).priority }.modThread t
        fun th => { th with timerActive := false, timedOut := true }).schedule) ∨
    ((k.thread t).state = .suspendedBlocked ∧
      k' = k.modThread t fun th => { th with timerActive := false, timedOut := true, state := .suspendedRunnable }) ∨
    ((k.ready t = true ∨ k.threadIsActive t = false) ∧ ∃ panicked,
      k' = { k.modThread t fun th => { th with timerActive := false } with panicked := panicked }) := by
  subst he
  cases hst : (k.thread t).state with
  | mapped =>
    cases hr : k.threadIsRunnable t with
    | true =>
      refine Or.inr (Or.inr ⟨Or.inl (by simp [Kernel.ready, hst, hr]), k.panicked, ?_⟩)
      have hr' : member k.runQueue (k.thread t).priority = true := hr
      simp [threadTimeout, hst, Kernel.threadIsRunnable, hr', modThread]
    | false =>
      refine Or.inl ⟨rfl, rfl, ?_⟩
      have hr' : member k.runQueue (k.thread t).priority = false := hr
      simp [threadTimeout, hst, Kernel.threadIsRunnable, hr', modThread]
  | suspendedRunnable =>
    refine Or.inr (Or.inr ⟨Or.inl (by simp [Kernel.ready, hst]), k.panicked, ?_⟩)
    simp [threadTimeout, hst, modThread]
  | suspendedBlocked =>
    refine Or.inr (Or.inl ⟨rfl, ?_⟩)
    simp [threadTimeout, hst, modThread]
  | completed =>
    refine Or.inr (Or.inr ⟨Or.inr (by simp [Kernel.threadIsActive, hst]), true, ?_⟩)
    simp [threadTimeout, hst, modThread]
  | deleted =>
    refine Or.inr (Or.inr ⟨Or.inr (by simp [Kernel.threadIsActive, hst]), true, ?_⟩)
    simp [threadTimeout, hst, modThread]

/-- A timeout keeps what calls keep, but for the pending bit of a mapped thread that pends. -/
theorem timeout_inv (h : Inv k) (hta : (k.thread t).timerActive = true) {k' : Kernel}
    (he : (k.modThread t fun th => { th with timerActive := false }).threadTimeout t = k') :
    Inv k' ∧ Balanced k k' ∧ (¬k.Pends t → PendInv k → PendInv k') := by
  have hsafe : Safe k k' → Inv k' ∧ Balanced k k' ∧ (¬k.Pends t → PendInv k → PendInv k') :=
    fun hs => ⟨hs.inv, hs.keeps.balanced, fun _ => hs.keeps.pendInv⟩
  rcases threadTimeout_cases he with ⟨hm, hr, rfl⟩ | ⟨hst, rfl⟩ | ⟨hready, panicked, rfl⟩
  · obtain ⟨hcore, hpend⟩ := timeout_waiting h hm hr hta
    have hs := keeps_schedule hcore
    refine ⟨⟨hs.core, sched_schedule hcore (h.sched.schedulable ⟨rfl, rfl, rfl, rfl, fun u => Or.inl ?_⟩)⟩,
      (Balanced.of_sem rfl).trans hs.balanced, fun hp hi => hs.pendInv (hpend hp hi)⟩
    by_cases hu : u = t <;> simp [hu]
  · have hok := h.core.ok t (by simp [Kernel.threadIsActive, hst])
    rw [show k.ready t = false by simp [Kernel.ready, hst]] at hok
    apply hsafe
    refine ⟨keeps_unmapped h.core (by simp [hst]) ?_ (h.core.priority_le t) ?_ ?_ (h.core.returned t),
      h.sched.congr (sameContext_modThread (Or.inl rfl)) rfl rfl rfl rfl⟩
    · intro hst; cases hst
    · intro _; exact hok.timeOut hta
    · intro hst; cases hst
  · apply hsafe
    have hstop : Keeps k (k.modThread t fun th => { th with timerActive := false }) := by
      by_cases hm : (k.thread t).state = .mapped
      · exact keeps_mapped h.core hm hm rfl rfl Thread.Ok.timerStop (h.core.returned t)
      · refine keeps_unmapped h.core hm hm (h.core.priority_le t) ?_ ?_ (h.core.returned t)
        · intro hst
          have hok := h.core.ok t (by simp [Kernel.threadIsActive, show (k.thread t).state = _ from hst])
          rw [show k.ready t = true by simp [Kernel.ready, show (k.thread t).state = _ from hst]] at hok
          exact hok.timerStop
        · intro hst
          have hok := h.core.ok t (by simp [Kernel.threadIsActive, show (k.thread t).state = _ from hst])
          rw [show k.ready t = false by simp [Kernel.ready, show (k.thread t).state = _ from hst]] at hok
          exact hok.timerStop
    refine ⟨hstop.trans (.of_same hstop.core rfl rfl rfl rfl),
      h.sched.congr ⟨rfl, rfl, rfl, rfl, fun u => Or.inl ?_⟩ rfl rfl rfl rfl⟩
    by_cases hu : u = t <;> simp [hu]

end Timeouts

/-! ## Posts -/

section Posts

variable {k : Kernel} {t s : Nat}

/-- The kernel after a post that wakes the thread at the lowest pending priority, before it schedules. -/
def Kernel.wake (k : Kernel) (s : Nat) : Kernel :=
  { (k.modSem s fun m => { m with
      pendingThreads := BitQueue.delete m.pendingThreads (BitQueue.min m.pendingThreads), posts := m.posts + 1 }) with
    runQueue := BitQueue.insert k.runQueue (BitQueue.min (k.sem s).pendingThreads) }

theorem post_eq_wake (hp : BitQueue.min (k.sem s).pendingThreads ≠ ssxThreads)
    (ht : k.priorityMap (BitQueue.min (k.sem s).pendingThreads) = some t) :
    k.ssxSemaphorePost s = (((k.wake s).give t s).schedule, .ok) := by
  unfold ssxSemaphorePost
  simp only
  rw [if_pos hp, ht]
  rfl

theorem Thread.Ok.given {th : Thread} (h : th.Ok false) (hpc : th.pc = .pending s) :
    Thread.Ok { th with token := some s } true := by
  unfold Thread.Ok at h ⊢
  rw [hpc] at h ⊢
  obtain ⟨hsp, hs, hrc, htp, ⟨-, hto, -⟩ | ⟨hr, -⟩ | ⟨hr, -⟩⟩ := h
  · exact ⟨hsp, hs, hrc, htp, Or.inr (Or.inr ⟨rfl, hto, rfl⟩)⟩
  · cases hr
  · cases hr

/-- What a post that wakes `t` does: the bit is off and the thread is runnable; a thread that was
blocked is given the count. -/
theorem wake_give (hk : Core k) (ht : k.priorityMap (BitQueue.min (k.sem s).pendingThreads) = some t)
    (hpc : (k.thread t).pc = .pending s) :
    let k' := (k.wake s).give t s
    (∀ u, u ≠ t → k'.thread u = k.thread u) ∧ k'.priorityMap = k.priorityMap ∧
      k'.runQueue = BitQueue.insert k.runQueue (k.thread t).priority ∧ SameContext k k' ∧
      k'.sem = Function.update k.sem s { k.sem s with
        pendingThreads := BitQueue.delete (k.sem s).pendingThreads (k.thread t).priority
        posts := (k.sem s).posts + 1
        pends := (k.sem s).pends + if k.threadIsRunnable t then 0 else 1 } ∧
      k'.thread t = { k.thread t with token := if k.threadIsRunnable t then (k.thread t).token else some s } := by
  intro k'
  obtain ⟨hm, hp⟩ := hk.slot _ t ht
  have hok := hk.ok t (by simp [Kernel.threadIsActive, hm])
  rw [show k.ready t = k.threadIsRunnable t by simp [Kernel.ready, hm]] at hok
  simp only [Thread.Ok, hpc] at hok
  cases hr : k.threadIsRunnable t with
  | true =>
    rw [hr] at hok
    have hng : ¬((k.thread t).token = none ∧ (k.thread t).timedOut = false) := by
      rintro ⟨htok, hto⟩
      obtain ⟨-, -, -, -, ⟨h, -⟩ | ⟨-, h, -⟩ | ⟨-, -, h⟩⟩ := hok
      · cases h
      · rw [hto] at h; cases h
      · rw [htok] at h; cases h
    have hk' : k' = k.wake s := by
      show (k.wake s).give t s = k.wake s
      unfold Kernel.give
      exact if_neg fun h => hng ⟨h.2.1, h.2.2⟩
    rw [hk']
    refine ⟨fun _ _ => rfl, rfl, by rw [hp]; rfl, ⟨rfl, rfl, rfl, rfl, fun _ => Or.inl rfl⟩, ?_, rfl⟩
    rw [hp]; rfl
  | false =>
    rw [hr] at hok
    obtain ⟨-, -, -, -, ⟨-, hto, htok⟩ | ⟨h, -⟩ | ⟨h, -⟩⟩ := hok
    · have hk' : k' = ((k.wake s).modThread t fun th => { th with token := some s }).modSem s
          fun m => { m with pends := m.pends + 1 } := give_eq hpc htok hto
      rw [hk']
      refine ⟨fun u hu => by simp [hu, Kernel.wake], rfl, by rw [hp]; rfl, ⟨rfl, rfl, rfl, rfl, fun u => Or.inl ?_⟩,
        ?_, by simp [Kernel.wake]⟩
      · by_cases hu : u = t <;> simp [hu, Kernel.wake]
      · simp [Kernel.wake, modSem, modThread, hp]
    · cases h
    · cases h

theorem wake_core (hk : Core k) (ht : k.priorityMap (BitQueue.min (k.sem s).pendingThreads) = some t)
    (hpc : (k.thread t).pc = .pending s) :
    Core ((k.wake s).give t s) ∧ (PendInv k → PendInv ((k.wake s).give t s)) := by
  obtain ⟨hother, hmap, hq, -, hsem, hth⟩ := wake_give hk ht hpc
  generalize (k.wake s).give t s = kw at *
  obtain ⟨hm, -⟩ := hk.slot _ t ht
  obtain ⟨hlt, hslot⟩ := hk.mapped t hm
  have hlt : (k.thread t).priority < 32 := hlt
  have hready : kw.ready t = true := by
    unfold Kernel.ready Kernel.threadIsRunnable
    rw [hth, hq]
    simp [hm, hlt]
  have htouch : Touch k kw t (k.thread t).priority :=
    touch_mapped hk hm hother hmap (fun q hq' => by rw [hq]; simp [hq'])
  have hok := hk.ok t (by simp [Kernel.threadIsActive, hm])
  rw [show k.ready t = k.threadIsRunnable t by simp [Kernel.ready, hm]] at hok
  refine ⟨hk.touch htouch (placed_mapped hk hm ?_ ?_ hmap) ?_ ?_ ?_, fun hi => hi.touch hk htouch ?_ ?_⟩
  · rw [hth]; exact hm
  · rw [hth]
  · rw [hth]; exact hk.priority_le t
  · intro _
    rw [hready, hth]
    cases hr : k.threadIsRunnable t with
    | true => rw [hr] at hok; exact hok
    | false => rw [hr] at hok; exact hok.given hpc
  · rw [hth]
    intro r rc hrc
    simp only [Thread.Ok, hpc] at hok
    rw [hok.2.2.1] at hrc; cases hrc
  · intro r q hqp hr
    rw [hsem] at hr
    by_cases hrs : r = s
    · subst hrs; simpa [hqp] using hr
    · simpa [hrs] using hr
  · intro r hr
    rw [hsem] at hr
    by_cases hrs : r = s
    · subst hrs; simp at hr
    · rw [Function.update_of_ne hrs] at hr
      obtain ⟨u, hu, hb⟩ := hi r _ hr
      rw [hslot] at hu; cases hu
      exact absurd (Pc.pending.inj (hb.1.symm.trans hpc)) hrs

theorem post_count_inv (h : Inv k) (hp : BitQueue.min (k.sem s).pendingThreads = ssxThreads) :
    Inv (k.ssxSemaphorePost s).1 ∧ (PendInv k → PendInv (k.ssxSemaphorePost s).1) := by
  have hsame : ∀ k' : Kernel, k'.thread = k.thread → k'.priorityMap = k.priorityMap → k'.runQueue = k.runQueue →
      (∀ r, (k'.sem r).pendingThreads = (k.sem r).pendingThreads) → SameContext k k' →
      k'.nextPriority = k.nextPriority → k'.nextThread = k.nextThread →
      Inv k' ∧ (PendInv k → PendInv k') := by
    intro k' hth hmap hq hpend hctx hnp hnt
    refine ⟨⟨h.core.congr hth hmap hq, h.sched.congr hctx hq hmap hnp hnt⟩, fun hi r p hr => ?_⟩
    rw [hpend] at hr
    obtain ⟨t, ht, hpc, hrun⟩ := hi r p hr
    refine ⟨t, by rw [hmap]; exact ht, by rw [hth]; exact hpc, ?_⟩
    unfold Kernel.threadIsRunnable
    rw [hth, hq]; exact hrun
  unfold ssxSemaphorePost
  simp only [hp, ne_eq, not_true_eq_false, if_false]
  split
  · refine hsame _ rfl rfl rfl ?_ ⟨rfl, rfl, rfl, rfl, fun _ => Or.inl rfl⟩ rfl rfl
    intro r
    by_cases hrs : r = s
    · subst hrs; simp [ssxError]
    · simp [ssxError, hrs]
  · refine hsame _ rfl rfl rfl ?_ ⟨rfl, rfl, rfl, rfl, fun _ => Or.inl rfl⟩ rfl rfl
    intro r
    by_cases hrs : r = s
    · subst hrs; simp
    · simp [hrs]

end Posts

/-! ## Events -/

/-- The event maps no thread at the idle thread's priority. -/
def NoIdleMap (k : Kernel) : Event → Prop
  | .resume t => k.threadIsActive t = true → k.threadIsMapped t = false → (k.thread t).priority ≠ ssxThreads
  | .priorityChange t p => k.threadIsMapped t = true → (k.thread t).priority ≠ p → p ≠ ssxThreads
  | .prioritySwap a b => a ≠ b →
      (k.threadIsMapped a = true → (k.thread b).priority ≠ ssxThreads) ∧
      (k.threadIsMapped b = true → (k.thread a).priority ≠ ssxThreads)
  | _ => True

/-- A post that finds a pending bit finds there a thread that is in a pend on the semaphore. -/
def PostTarget (k : Kernel) : Event → Prop
  | .post s => BitQueue.min (k.sem s).pendingThreads ≠ ssxThreads →
      ∃ t, k.priorityMap (BitQueue.min (k.sem s).pendingThreads) = some t ∧ (k.thread t).pc = .pending s
  | _ => True

section Events

variable {k k' : Kernel} {e : Event}

/-- Every event but posts and timeouts. -/
theorem next_safe (h : Inv k) (hidle : NoIdleMap k e) (he : k.next e = some k') (hpost : ∀ s, e ≠ .post s)
    (htimeout : ∀ t, e ≠ .timeout t) : Safe k k' := by
  unfold Kernel.next at he
  split at he
  · cases he
  cases e with
  | post s => exact absurd rfl (hpost s)
  | timeout t => exact absurd rfl (htimeout t)
  | create t p =>
    simp only at he
    split at he
    · cases he
    · cases he
      exact safe_ssxThreadCreate h (by simp_all) p
  | resume t => cases he; exact safe_ssxThreadResume h hidle
  | suspend t => cases he; exact safe_ssxThreadSuspend h
  | delete t => cases he; exact safe_ssxThreadDelete h
  | complete => cases he; exact safe_ssxComplete h
  | sleep => cases he; exact safe_ssxSleepAbsolute h
  | priorityChange t p => cases he; exact safe_ssxThreadPriorityChange h hidle
  | prioritySwap a b =>
    cases he
    exact safe_ssxThreadPrioritySwap h (fun hab => (hidle hab).1) (fun hab => (hidle hab).2)
  | pend s timeout => cases he; exact safe_ssxSemaphorePend h timeout
  | irqEnter =>
    simp only at he
    split at he
    · cases he
    · cases he; exact safe_irqEnter h
  | irqExit =>
    simp only at he
    split at he
    · cases he; exact safe_irqExit h
    · cases he
  | startThreads =>
    simp only at he
    split at he
    · cases he
    · rename_i hm
      cases he
      exact safe_startThreads h (by simp_all)

theorem next_timeout {t : Nat} (he : k.next (.timeout t) = some k') : (k.thread t).timerActive = true ∧
    (k.modThread t fun th => { th with timerActive := false }).threadTimeout t = k' := by
  simp only [Kernel.next] at he
  split at he
  · cases he
  split at he
  · rename_i hc
    simp only [Bool.and_eq_true] at hc
    exact ⟨hc.2, Option.some.inj he⟩
  · cases he

theorem next_post {s : Nat} (he : k.next (.post s) = some k') : (k.ssxSemaphorePost s).1 = k' := by
  simp only [Kernel.next] at he
  split at he
  · cases he
  · exact Option.some.inj he

theorem post_inv {s : Nat} (h : Inv k) (ht : PostTarget k (.post s)) :
    Inv (k.ssxSemaphorePost s).1 ∧ (PendInv k → PendInv (k.ssxSemaphorePost s).1) := by
  by_cases hp : BitQueue.min (k.sem s).pendingThreads = ssxThreads
  · exact post_count_inv h hp
  · obtain ⟨t, hmap, hpc⟩ := ht hp
    obtain ⟨hcore, hpend⟩ := wake_core h.core hmap hpc
    have hs := keeps_schedule hcore
    obtain ⟨-, -, -, hctx, -⟩ := wake_give h.core hmap hpc
    rw [post_eq_wake hp hmap]
    exact ⟨⟨hs.core, sched_schedule hcore (h.sched.schedulable hctx)⟩, fun hi => hs.pendInv (hpend hi)⟩

theorem next_inv (h : Inv k) (hidle : NoIdleMap k e) (ht : PostTarget k e) (he : k.next e = some k') : Inv k' := by
  by_cases hpost : ∃ s, e = .post s
  · obtain ⟨s, rfl⟩ := hpost
    rw [← next_post he]
    exact (post_inv h ht).1
  by_cases htimeout : ∃ t, e = .timeout t
  · obtain ⟨t, rfl⟩ := htimeout
    obtain ⟨hta, he⟩ := next_timeout he
    exact (timeout_inv h hta he).1
  · exact (next_safe h hidle he (fun s hs => hpost ⟨s, hs⟩) (fun t hs => htimeout ⟨t, hs⟩)).inv

end Events

end Occ.Ssx
