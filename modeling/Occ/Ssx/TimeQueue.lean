/-
The time queue in every run of schedules, cancellations, timer interrupts and steps of the handler:
the queued timers stay linked, the next timeout is not after any of them while the handler is not
running, the cursor stays on the queue, no timer that is due is left behind, periodic timers time out
at whole periods after the first timeout, and a callback of a cancelled timer runs only if the
cancellation came after the handler had opened up to interrupts for that callback.
-/
import Occ.Ssx.Timer
import Occ.Lib.Transition
import Mathlib

namespace Occ.Ssx

open Occ Deque Transition TimeState

/-! ## The invariant -/

/-- In a pass over the queue: of the nodes before the cursor none times out before the next timeout,
and the timers that are due are among those still to come. -/
def TimeState.Scan (k : TimeState) (xs : List Nat) (now cursor : Nat) : Prop :=
  ∃ pre post, xs = pre ++ post ∧ cursor = post.headD timeQueue ∧
    (∀ x ∈ pre, k.nextTimeout ≤ (k.timer x).timeout) ∧
    ∀ x, k.due x = true → x ∈ post ∧ (k.timer x).timeout ≤ now

def TimeState.Phase (k : TimeState) (xs : List Nat) : Prop :=
  match k.pc with
  | .idle => k.cursor = 0 ∧ k.hardwareTimeout = k.nextTimeout ∧
      (∀ x ∈ xs, k.nextTimeout ≤ (k.timer x).timeout) ∧ ∀ x, k.due x = false
  | .outer => (∀ x ∈ xs, k.nextTimeout ≤ (k.timer x).timeout) ∧
      ∀ x, k.due x = true → x ∈ xs ∧ (k.timer x).timeout ≤ k.timebase
  | .inner now t => k.Scan xs now t
  | .opened now t => k.Scan xs now k.cursor ∧ (k.timer t).preemptible = true ∧
      (k.cancelled t = true → k.opened t = true)
  | .callback now _ => k.Scan xs now k.cursor
  | .window now => k.Scan xs now k.cursor

structure TimeInv (k : TimeState) (xs : List Nat) : Prop where
  deque : IsDeque k.links timeQueue xs
  queued : ∀ x, k.timerActive x = true → x = timeQueue ∨ x ∈ xs
  timeout_le : ∀ x, (k.timer x).timeout ≤ timebaseMax
  cancelled : ∀ x, k.cancelled x = true → x ∉ xs
  periodic : ∀ x, (k.timer x).period ≠ 0 →
    (k.timer x).timeout = (k.first x + k.fires x * (k.timer x).period) % 2 ^ 64
  callbacks : ∀ c ∈ k.callbacks, c.cancelled = true → c.opened = true ∧ (k.timer c.timer).preemptible = true
  phase : k.Phase xs

section Queue

variable {k : TimeState} {xs : List Nat} {t : Nat}

theorem TimeInv.active_iff (h : TimeInv k xs) (ht : t ≠ timeQueue) : k.timerActive t = true ↔ t ∈ xs := by
  constructor
  · intro ha
    rcases h.queued t ha with rfl | hx
    · exact absurd rfl ht
    · exact hx
  · exact h.deque.queued

theorem TimeInv.not_sentinel (h : TimeInv k xs) {x : Nat} (hx : x ∈ xs) : x ≠ timeQueue := by
  rintro rfl
  exact (List.nodup_cons.1 h.deque.nodup).1 hx

/-! ## Scheduling -/

/-- A change that queues at most `t`, at the end, with a timeout the next timeout covers. -/
theorem scan_schedule {k' : TimeState} {xs' : List Nat} {now cursor : Nat} (h : k.Scan xs now cursor)
    (hxs : xs' = xs ∨ xs' = xs ++ [t]) (hle : k'.nextTimeout ≤ k.nextTimeout)
    (htime : ∀ x, x ≠ t → k'.timer x = k.timer x) (ht : k'.nextTimeout ≤ (k'.timer t).timeout)
    (hdue : ∀ x, k'.due x = true → x ≠ t ∧ k.due x = true) : k'.Scan xs' now cursor := by
  obtain ⟨pre, post, rfl, hc, hpre, hpost⟩ := h
  have hpre' : ∀ x ∈ pre, k'.nextTimeout ≤ (k'.timer x).timeout := by
    intro x hx
    by_cases hxt : x = t
    · rw [hxt]; exact ht
    · rw [htime x hxt]; exact Nat.le_trans hle (hpre x hx)
  have hpost' : ∀ x, k'.due x = true → x ∈ post ∧ (k'.timer x).timeout ≤ now := by
    intro x hx
    obtain ⟨hxt, hx⟩ := hdue x hx
    rw [htime x hxt]; exact hpost x hx
  rcases hxs with rfl | rfl
  · exact ⟨pre, post, rfl, hc, hpre', hpost'⟩
  · cases post with
    | nil =>
      -- the cursor is at the sentinel: the new timer is behind it
      refine ⟨pre ++ [t], [], by simp, hc, ?_, hpost'⟩
      intro x hx
      rcases List.mem_append.1 hx with hx | hx
      · exact hpre' x hx
      · rw [List.mem_singleton.1 hx]; exact ht
    | cons y post =>
      refine ⟨pre, y :: post ++ [t], by simp, hc, hpre', ?_⟩
      intro x hx
      obtain ⟨hx, hn⟩ := hpost' x hx
      exact ⟨List.mem_append_left _ hx, hn⟩

theorem timerScheduleAbsolute_eq (timeout period : Nat) : k.timerScheduleAbsolute t timeout period =
    { k with
      links := if k.timerActive t then k.links else pushBack k.links timeQueue t
      timer := Function.update k.timer t { k.timer t with timeout, period }
      nextTimeout := min timeout k.nextTimeout
      hardwareTimeout := if timeout < k.nextTimeout ∧ k.cursor = 0 then timeout else k.hardwareTimeout
      due := Function.update k.due t false
      cancelled := Function.update k.cancelled t false
      opened := Function.update k.opened t false
      first := Function.update k.first t timeout
      fires := Function.update k.fires t 0 } := by
  unfold timerScheduleAbsolute timerSchedule timerActive
  cases ha : isQueued k.links t <;> by_cases hlt : timeout < k.nextTimeout <;> by_cases hc : k.cursor = 0 <;>
    simp [hlt, hc] <;> omega

/-- The queue after a schedule: `t` is at its end, or where it was. -/
theorem TimeInv.queue_schedule (h : TimeInv k xs) (ht : t ≠ timeQueue) (h0 : t ≠ 0) :
    ∃ xs', (xs' = xs ∧ t ∈ xs ∨ xs' = xs ++ [t]) ∧
      IsDeque (if k.timerActive t then k.links else pushBack k.links timeQueue t) timeQueue xs' ∧
      ∀ x, isQueued (if k.timerActive t then k.links else pushBack k.links timeQueue t) x = true →
        x = timeQueue ∨ x ∈ xs' := by
  by_cases ha : k.timerActive t = true
  · rw [if_pos ha]
    exact ⟨xs, Or.inl ⟨rfl, (h.active_iff ht).1 ha⟩, h.deque, h.queued⟩
  · rw [if_neg ha]
    have hnt : t ∉ timeQueue :: xs := by
      intro hm
      rcases List.mem_cons.1 hm with he | hm
      · exact ht he
      · exact ha ((h.active_iff ht).2 hm)
    refine ⟨xs ++ [t], Or.inr rfl, isDeque_pushBack h.deque hnt h0, ?_⟩
    intro x hx
    by_cases hxt : x = t
    · exact Or.inr (by simp [hxt])
    by_cases hxs : x ∈ timeQueue :: xs
    · rcases List.mem_cons.1 hxs with he | hm
      · exact Or.inl he
      · exact Or.inr (by simp [hm])
    · unfold isQueued at hx
      rw [pushBack_next_of_ne h.deque hxs hxt] at hx
      rcases h.queued x hx with he | hm
      · exact Or.inl he
      · exact Or.inr (by simp [hm])

theorem timeInv_schedule (h : TimeInv k xs) (ht : t ≠ timeQueue) (h0 : t ≠ 0) {timeout period : Nat}
    (hmax : timeout ≤ timebaseMax) (hcall : k.callable = true) :
    ∃ xs', TimeInv (k.timerScheduleAbsolute t timeout period) xs' := by
  obtain ⟨xs', hxs, hdeque, hqueued⟩ := h.queue_schedule ht h0
  have hscan : ∀ now cursor, k.Scan xs now cursor →
      (k.timerScheduleAbsolute t timeout period).Scan xs' now cursor := by
    intro now cursor hs
    rw [timerScheduleAbsolute_eq]
    apply scan_schedule (t := t) hs (hxs.imp And.left id)
    · exact Nat.min_le_right _ _
    · intro x hx; simp [hx]
    · simpa using Nat.min_le_left _ _
    · intro x hx
      by_cases hxt : x = t
      · simp [hxt] at hx
      · exact ⟨hxt, by simpa [hxt] using hx⟩
  rw [timerScheduleAbsolute_eq] at hscan ⊢
  refine ⟨xs', hdeque, hqueued, ?_, ?_, ?_, ?_, ?_⟩
  · intro x
    by_cases hx : x = t
    · simpa [hx] using hmax
    · simpa [hx] using h.timeout_le x
  · intro x hx hm
    by_cases hxt : x = t
    · simp [hxt] at hx
    · have hn := h.cancelled x (by simpa [hxt] using hx)
      rcases hxs with ⟨rfl, -⟩ | rfl
      · exact hn hm
      · simp [hxt, hn] at hm
  · intro x
    by_cases hx : x = t
    · subst hx
      intro _
      have hlt : timeout < 2 ^ 64 := by unfold timebaseMax at hmax; omega
      simp only [Function.update_self, Nat.zero_mul, Nat.add_zero]
      exact (Nat.mod_eq_of_lt hlt).symm
    · simpa [hx] using h.periodic x
  · intro c hc hcan
    obtain ⟨ho, hp⟩ := h.callbacks c hc hcan
    refine ⟨ho, ?_⟩
    by_cases hx : c.timer = t
    · rw [hx] at hp; simpa [hx] using hp
    · simpa [hx] using hp
  · have hph := h.phase
    unfold Phase at hph ⊢
    simp only
    cases hpc : k.pc with
    | idle =>
      rw [hpc] at hph
      obtain ⟨hc, hhw, hle, hdue⟩ := hph
      refine ⟨hc, ?_, ?_, ?_⟩
      · by_cases hlt : timeout < k.nextTimeout
        · simp [hlt, hc]; omega
        · simp only [hlt, false_and, if_false, hhw]; omega
      · intro x hx
        by_cases hxt : x = t
        · simpa [hxt] using Nat.min_le_left _ _
        · have hx : x ∈ xs := by
            rcases hxs with ⟨rfl, -⟩ | rfl
            · exact hx
            · simpa [hxt] using hx
          simpa [hxt] using Nat.le_trans (Nat.min_le_right _ _) (hle x hx)
      · intro x
        by_cases hxt : x = t
        · simp [hxt]
        · simpa [hxt] using hdue x
    | outer => simp [callable, hpc] at hcall
    | inner now d => simp [callable, hpc] at hcall
    | opened now d =>
      rw [hpc] at hph
      obtain ⟨hs, hp, hco⟩ := hph
      refine ⟨hscan _ _ hs, ?_, ?_⟩
      · by_cases hd : d = t
        · rw [hd] at hp; simpa [hd] using hp
        · simpa [hd] using hp
      · by_cases hd : d = t
        · simp [hd]
        · simpa [hd] using hco
    | callback now d => rw [hpc] at hph; exact hscan _ _ hph
    | window now => rw [hpc] at hph; exact hscan _ _ hph

/-! ## Cancelling -/

theorem scan_cancel {k' : TimeState} {now cursor : Nat} (h : k.Scan xs now cursor)
    (hd : IsDeque k.links timeQueue xs) (ht : t ∈ xs) (hnext : k'.nextTimeout = k.nextTimeout)
    (htime : k'.timer = k.timer) (hdue : ∀ x, k'.due x = true → x ≠ t ∧ k.due x = true) :
    k'.Scan (xs.erase t) now (if t = cursor then k.links.next cursor else cursor) := by
  obtain ⟨pre, post, rfl, hc, hpre, hpost⟩ := h
  have hnd := (List.nodup_cons.1 hd.nodup).2
  rw [List.nodup_append] at hnd
  by_cases hp : t ∈ pre
  · have hne : t ≠ cursor := by
      rintro rfl
      cases post with
      | nil =>
        rw [show t = timeQueue from hc] at hp
        exact (List.nodup_cons.1 hd.nodup).1 (by simp [hp])
      | cons y post => exact hnd.2.2 t hp y (by simp) hc
    rw [if_neg hne]
    refine ⟨pre.erase t, post, List.erase_append_left post hp, hc, ?_, ?_⟩
    · intro x hx
      rw [hnext, htime]; exact hpre x (List.mem_of_mem_erase hx)
    · intro x hx
      rw [htime]; exact hpost x (hdue x hx).2
  · have hpo : t ∈ post := by
      rcases List.mem_append.1 ht with h | h
      · exact absurd h hp
      · exact h
    refine ⟨pre, post.erase t, List.erase_append_right post hp, ?_, ?_, ?_⟩
    · cases post with
      | nil => cases hpo
      | cons y post =>
        have hcy : cursor = y := hc
        subst hcy
        by_cases hty : t = cursor
        · subst hty
          rw [if_pos rfl, hd.next_eq (timeQueue :: pre) post (by simp)]
          simp
        · rw [if_neg hty, List.erase_cons_tail (by simpa using Ne.symm hty)]
          rfl
    · intro x hx
      rw [hnext, htime]; exact hpre x hx
    · intro x hx
      obtain ⟨hxt, hx⟩ := hdue x hx
      obtain ⟨hx, hn⟩ := hpost x hx
      rw [htime]; exact ⟨(List.mem_erase_of_ne hxt).2 hx, hn⟩

theorem timeInv_cancel (h : TimeInv k xs) (ht : t ≠ timeQueue) (h0 : t ≠ 0) (hcall : k.callable = true) :
    ∃ xs', TimeInv (k.timerCancel t).1 xs' := by
  unfold timerCancel
  by_cases ha : k.timerActive t = true
  swap
  · rw [if_pos (by simpa using ha)]
    exact ⟨xs, h⟩
  rw [if_neg (by simpa using ha)]
  have hm := (h.active_iff ht).1 ha
  have hdue : ∀ x, Function.update k.due t false x = true → x ≠ t ∧ k.due x = true := by
    intro x hx
    by_cases hxt : x = t
    · simp [hxt] at hx
    · exact ⟨hxt, by simpa [hxt] using hx⟩
  have hnd := (List.nodup_cons.1 h.deque.nodup).2
  refine ⟨xs.erase t, h.deque.delete hm, ?_, h.timeout_le, ?_, h.periodic, h.callbacks, ?_⟩
  · intro x hx
    by_cases hxs : x ∈ timeQueue :: xs
    · by_cases hxt : x = t
      · subst hxt
        simp [timerActive, not_isQueued_delete] at hx
      · rcases List.mem_cons.1 hxs with he | hxs
        · exact Or.inl he
        · exact Or.inr ((List.mem_erase_of_ne hxt).2 hxs)
    · simp only [timerActive, isQueued, delete_next_of_ne h.deque hm hxs] at hx
      exact absurd (List.mem_cons.2 (h.queued x hx)) hxs
  · intro x hx hxs
    by_cases hxt : x = t
    · subst hxt
      exact (List.Nodup.not_mem_erase hnd) hxs
    · exact h.cancelled x (by simpa [hxt] using hx) (List.mem_of_mem_erase hxs)
  · have hph := h.phase
    unfold Phase at hph ⊢
    simp only
    cases hpc : k.pc with
    | idle =>
      rw [hpc] at hph
      obtain ⟨hc, hhw, hle, hdn⟩ := hph
      refine ⟨?_, hhw, fun x hx => hle x (List.mem_of_mem_erase hx), ?_⟩
      · rw [if_neg (by rw [hc]; exact h0)]
        exact hc
      · intro x
        by_cases hxt : x = t
        · simp [hxt]
        · simpa [hxt] using hdn x
    | outer => simp [callable, hpc] at hcall
    | inner now d => simp [callable, hpc] at hcall
    | opened now d =>
      rw [hpc] at hph
      obtain ⟨hs, hp, hco⟩ := hph
      refine ⟨scan_cancel hs h.deque hm rfl rfl hdue, hp, ?_⟩
      by_cases hd : d = t
      · simp [hd]
      · simpa [hd] using hco
    | callback now d => rw [hpc] at hph; exact scan_cancel hph h.deque hm rfl rfl hdue
    | window now => rw [hpc] at hph; exact scan_cancel hph h.deque hm rfl rfl hdue

/-! ## The handler -/

theorem scan_inner {now : Nat} (hd : IsDeque k.links timeQueue xs) (h : k.Scan xs now t) (ht : t ≠ timeQueue) :
    ∃ pre post, xs = pre ++ t :: post ∧ k.links.next t = post.headD timeQueue ∧
      (∀ x ∈ pre, k.nextTimeout ≤ (k.timer x).timeout) ∧
      ∀ x, k.due x = true → x ∈ t :: post ∧ (k.timer x).timeout ≤ now := by
  obtain ⟨pre, post, rfl, hc, hpre, hpost⟩ := h
  cases post with
  | nil => exact absurd hc ht
  | cons y post =>
    have hy : t = y := hc
    subst hy
    exact ⟨pre, post, rfl, hd.next_eq (timeQueue :: pre) _ (by simp), hpre, hpost⟩

theorem timeInv_wait (h : TimeInv k xs) {now : Nat} (hpc : k.pc = .inner now t) (ht : t ≠ timeQueue)
    (hlt : ¬(k.timer t).timeout ≤ now) :
    TimeInv { k with cursor := k.links.next t, nextTimeout := min (k.timer t).timeout k.nextTimeout, pc := .window now } xs := by
  have hph := h.phase
  unfold Phase at hph
  rw [hpc] at hph
  obtain ⟨pre, post, rfl, hnext, hpre, hpost⟩ := scan_inner h.deque hph ht
  refine ⟨h.deque, h.queued, h.timeout_le, h.cancelled, h.periodic, h.callbacks, pre ++ [t], post, by simp, hnext, ?_, ?_⟩
  · intro x hx
    rcases List.mem_append.1 hx with hx | hx
    · exact Nat.le_trans (Nat.min_le_right _ _) (hpre x hx)
    · rw [List.mem_singleton.1 hx]; exact Nat.min_le_left _ _
  · intro x hx
    obtain ⟨hx, hn⟩ := hpost x hx
    refine ⟨?_, hn⟩
    rcases List.mem_cons.1 hx with rfl | hx
    · exact absurd hn hlt
    · exact hx

/-- The queue and the pass after a timer that has timed out, before its callback. -/
theorem timeInv_expire (h : TimeInv k xs) {now : Nat} (hpc : k.pc = .inner now t) (ht : t ≠ timeQueue) :
    let k' := { k with cursor := k.links.next t }.timerExpire t
    ∃ xs', TimeInv { k' with pc := .window now } xs' ∧ k'.cancelled t = false ∧
      (k'.timer t).preemptible = (k.timer t).preemptible := by
  intro k'
  have hph := h.phase
  unfold Phase at hph
  rw [hpc] at hph
  obtain ⟨pre, post, rfl, hnext, hpre, hpost⟩ := scan_inner h.deque hph ht
  have htm : t ∈ pre ++ t :: post := by simp
  have hnd := (List.nodup_cons.1 h.deque.nodup).2
  have htp : t ∉ pre ∧ t ∉ post := by
    rw [List.nodup_append] at hnd
    exact ⟨fun hx => hnd.2.2 t hx t (by simp) rfl, (List.nodup_cons.1 hnd.2.1).1⟩
  have hcan : k.cancelled t = false := by
    by_contra hc
    exact h.cancelled t (by simpa using hc) htm
  have hdue : ∀ x, Function.update k.due t false x = true → x ≠ t ∧ x ∈ post ∧ (k.timer x).timeout ≤ now := by
    intro x hx
    by_cases hxt : x = t
    · simp [hxt] at hx
    · obtain ⟨hx, hn⟩ := hpost x (by simpa [hxt] using hx)
      exact ⟨hxt, (List.mem_cons.1 hx).resolve_left hxt, hn⟩
  by_cases hper : (k.timer t).period = 0
  · have hk' : k' = { k with
        cursor := k.links.next t, due := Function.update k.due t false
        fires := Function.update k.fires t (k.fires t + 1), links := delete k.links t } := by
      simp [k', timerExpire, hper]
    rw [hk']
    refine ⟨pre ++ post, ⟨isDeque_delete h.deque, ?_, h.timeout_le, ?_, ?_, h.callbacks, pre, post, rfl, hnext, hpre, ?_⟩,
      hcan, rfl⟩
    · intro x hx
      by_cases hxs : x ∈ timeQueue :: (pre ++ t :: post)
      · by_cases hxt : x = t
        · subst hxt
          simp [timerActive, not_isQueued_delete] at hx
        · simp only [List.mem_cons, List.mem_append, hxt, false_or] at hxs ⊢
          exact hxs
      · simp only [timerActive, isQueued, delete_next_of_ne h.deque htm hxs] at hx
        exact absurd (List.mem_cons.2 (h.queued x hx)) hxs
    · intro x hx hxs
      exact h.cancelled x hx (by simp at hxs ⊢; tauto)
    · intro x hx
      have hxt : x ≠ t := by
        rintro rfl
        exact hx hper
      simpa [hxt] using h.periodic x hx
    · intro x hx
      obtain ⟨-, hx⟩ := hdue x hx
      exact hx
  · have hk' : k' = { k with
        cursor := k.links.next t, due := Function.update k.due t false
        fires := Function.update k.fires t (k.fires t + 1)
        timer := Function.update k.timer t
          { k.timer t with timeout := ((k.timer t).timeout + (k.timer t).period) % 2 ^ 64 }
        nextTimeout := min (((k.timer t).timeout + (k.timer t).period) % 2 ^ 64) k.nextTimeout } := by
      simp [k', timerExpire, hper]
    rw [hk']
    refine ⟨pre ++ t :: post, ⟨h.deque, h.queued, ?_, h.cancelled, ?_, ?_, pre ++ [t], post, by simp, hnext, ?_, ?_⟩,
      hcan, by simp⟩
    · intro x
      by_cases hx : x = t
      · have hlt := Nat.mod_lt ((k.timer t).timeout + (k.timer t).period) (show 2 ^ 64 > 0 by decide)
        simp only [hx, Function.update_self, timebaseMax]
        omega
      · simpa [hx] using h.timeout_le x
    · intro x
      by_cases hx : x = t
      · subst hx
        intro hp
        simp only [Function.update_self] at hp ⊢
        rw [h.periodic x hp, Nat.mod_add_mod, Nat.add_assoc, Nat.succ_mul]
      · simpa [hx] using h.periodic x
    · intro c hc hcan
      obtain ⟨ho, hp⟩ := h.callbacks c hc hcan
      refine ⟨ho, ?_⟩
      by_cases hx : c.timer = t
      · rw [hx] at hp; simpa [hx] using hp
      · simpa [hx] using hp
    · intro x hx
      rcases List.mem_append.1 hx with hx | hx
      · have hxt : x ≠ t := fun he => htp.1 (he ▸ hx)
        simpa [hxt] using Nat.le_trans (Nat.min_le_right _ _) (hpre x hx)
      · rw [List.mem_singleton.1 hx]
        simpa using Nat.min_le_left _ _
    · intro x hx
      obtain ⟨hxt, hx, hn⟩ := hdue x hx
      exact ⟨hx, by simpa [hxt] using hn⟩

theorem timeInv_callCallback (h : TimeInv k xs) {now : Nat} (hs : k.Scan xs now k.cursor)
    (hc : k.cancelled t = true → k.opened t = true ∧ (k.timer t).preemptible = true) :
    TimeInv (k.callCallback now t) xs := by
  refine ⟨h.deque, h.queued, h.timeout_le, h.cancelled, h.periodic, ?_, hs⟩
  intro c hmem hcan
  rcases List.mem_cons.1 hmem with rfl | hmem
  · exact hc hcan
  · exact h.callbacks c hmem hcan

theorem timeInv_handler {k' : TimeState} (h : TimeInv k xs) (he : k.handlerStep = some k') :
    ∃ xs', TimeInv k' xs' := by
  have hph := h.phase
  unfold Phase at hph
  unfold handlerStep at he
  cases hpc : k.pc with
  | idle => rw [hpc] at he; cases he
  | outer =>
    rw [hpc] at he hph
    obtain ⟨hle, hdue⟩ := hph
    simp only at he
    split at he
    · cases he
      refine ⟨xs, h.deque, h.queued, h.timeout_le, h.cancelled, h.periodic, h.callbacks, [], xs, rfl, h.deque.head, ?_, hdue⟩
      intro x hx; cases hx
    · rename_i hlt
      cases he
      refine ⟨xs, h.deque, h.queued, h.timeout_le, h.cancelled, h.periodic, h.callbacks, rfl, rfl, hle, ?_⟩
      intro x
      by_contra hx
      obtain ⟨hm, hn⟩ := hdue x (by simpa using hx)
      have := hle x hm
      omega
  | inner now t =>
    rw [hpc] at he
    simp only at he
    split at he
    · -- the cursor is back at the sentinel
      rename_i ht
      cases he
      rw [hpc] at hph
      obtain ⟨pre, post, rfl, hc, hpre, hpost⟩ := hph
      have hnil : post = [] := by
        cases post with
        | nil => rfl
        | cons y post =>
          refine absurd ?_ (h.not_sentinel (x := y) (by simp))
          exact hc.symm.trans ht
      subst hnil
      refine ⟨pre ++ [], h.deque, h.queued, h.timeout_le, h.cancelled, h.periodic, h.callbacks, ?_, ?_⟩
      · intro x hx; exact hpre x (by simpa using hx)
      · intro x hx; exact absurd (hpost x hx).1 (by simp)
    rename_i ht
    split at he
    · obtain ⟨xs', hx, hcan, hpre⟩ := timeInv_expire h hpc ht
      have hs := hx.phase
      rw [← hpc] at he
      generalize { k with cursor := k.links.next t }.timerExpire t = ke at *
      have hs : ke.Scan xs' now ke.cursor := hs
      split at he
      · split at he
        · rename_i hp
          cases he
          refine ⟨xs', hx.deque, hx.queued, hx.timeout_le, hx.cancelled, hx.periodic, hx.callbacks, hs, hp, ?_⟩
          intro hc
          rw [show ke.cancelled t = true from hc] at hcan; cases hcan
        · cases he
          refine ⟨xs', timeInv_callCallback (k := { ke with pc := .window now }) hx hs ?_⟩
          intro hc
          rw [show ke.cancelled t = true from hc] at hcan; cases hcan
      · cases he
        exact ⟨xs', hx.deque, hx.queued, hx.timeout_le, hx.cancelled, hx.periodic, hx.callbacks, hs⟩
    · rename_i hlt
      cases he
      exact ⟨xs, timeInv_wait h hpc ht hlt⟩
  | opened now t =>
    rw [hpc] at he hph
    cases he
    obtain ⟨hs, hp, hc⟩ := hph
    exact ⟨xs, timeInv_callCallback h hs fun hcan => ⟨hc hcan, hp⟩⟩
  | callback now t =>
    rw [hpc] at he hph
    cases he
    exact ⟨xs, h.deque, h.queued, h.timeout_le, h.cancelled, h.periodic, h.callbacks, hph⟩
  | window now =>
    rw [hpc] at he hph
    cases he
    exact ⟨xs, h.deque, h.queued, h.timeout_le, h.cancelled, h.periodic, h.callbacks, hph⟩

theorem timeInv_enter (h : TimeInv k xs) (hpc : k.pc = .idle) : TimeInv k.handlerEnter xs := by
  have hph := h.phase
  unfold Phase at hph
  rw [hpc] at hph
  obtain ⟨hc, -, hle, -⟩ := hph
  unfold handlerEnter
  rw [if_neg (by simpa using hc)]
  refine ⟨h.deque, h.queued, h.timeout_le, h.cancelled, h.periodic, h.callbacks, hle, ?_⟩
  intro x hx
  simp only [Bool.and_eq_true, bne_iff_ne, ne_eq, decide_eq_true_eq] at hx
  exact ⟨(h.active_iff hx.1.1).1 hx.1.2, hx.2⟩

theorem timeInv_tick (h : TimeInv k xs) (interval : Nat) :
    TimeInv { k with timebase := k.timebase + interval } xs := by
  refine ⟨h.deque, h.queued, h.timeout_le, h.cancelled, h.periodic, h.callbacks, ?_⟩
  have hph := h.phase
  unfold Phase at hph ⊢
  simp only
  cases hpc : k.pc with
  | outer =>
    rw [hpc] at hph
    refine ⟨hph.1, fun x hx => ⟨(hph.2 x hx).1, ?_⟩⟩
    exact Nat.le_trans (hph.2 x hx).2 (Nat.le_add_right _ _)
  | idle => rw [hpc] at hph; exact hph
  | inner now t => rw [hpc] at hph; exact hph
  | opened now t => rw [hpc] at hph; exact hph
  | callback now t => rw [hpc] at hph; exact hph
  | window now => rw [hpc] at hph; exact hph

theorem timeInv_next {k' : TimeState} {e : TimeEvent} (h : ∃ xs, TimeInv k xs) (he : k.next e = some k') :
    ∃ xs, TimeInv k' xs := by
  obtain ⟨xs, h⟩ := h
  unfold TimeState.next at he
  split at he
  · cases he
  cases e with
  | tick interval =>
    simp only at he
    split at he
    · cases he; exact ⟨xs, timeInv_tick h interval⟩
    · cases he
  | schedule t timeout period =>
    simp only at he
    split at he
    · rename_i hc
      obtain ⟨hc, h0, ht, hmax⟩ := hc
      cases he; exact timeInv_schedule h ht h0 hmax hc
    · cases he
  | cancel t =>
    simp only at he
    split at he
    · rename_i hc
      obtain ⟨hc, h0, ht⟩ := hc
      cases he; exact timeInv_cancel h ht h0 hc
    · cases he
  | interrupt =>
    simp only at he
    split at he
    · rename_i hpc
      cases he; exact ⟨xs, timeInv_enter h hpc⟩
    · cases he
  | handler => exact timeInv_handler h he

theorem timeInv_ssxInit (callback preemptible : Nat → Bool) :
    TimeInv (TimeState.ssxInitialize callback preemptible) [] := by
  refine ⟨isDeque_sentinelCreate (by decide), ?_, ?_, ?_, ?_, ?_, rfl, rfl, ?_, ?_⟩
  · intro x hx
    by_contra hne
    push Not at hne
    simp [timerActive, isQueued, TimeState.ssxInitialize, sentinelCreate, hne.1] at hx
  · intro x; exact Nat.zero_le _
  · intro x hx; cases hx
  · intro x hx; exact absurd rfl hx
  · intro c hc; cases hc
  · intro x hx; cases hx
  · intro x; rfl

/-! ## Runs -/

/-- What the timer queue promises, with the condition on the callbacks of cancelled timers as a
parameter. -/
structure TimerQueueOk (stray : TimeState → Callback → Prop) (k : TimeState) : Prop where
  idle : k.pc = .idle → ∃ xs, IsDeque k.links timeQueue xs ∧
    (∀ t, t ≠ timeQueue → (k.timerActive t = true ↔ t ∈ xs)) ∧
    ∀ t ∈ xs, k.nextTimeout ≤ (k.timer t).timeout
  cursor : k.callable = true → k.pc ≠ .idle → k.cursor = timeQueue ∨ k.timerActive k.cursor = true
  inner : ∀ now t, k.pc = .inner now t → t = timeQueue ∨ k.timerActive t = true
  due : k.pc = .idle → ∀ t, k.due t = false
  cancelled : ∀ c ∈ k.callbacks, c.cancelled = true → stray k c
  periodic : ∀ t, (k.timer t).period ≠ 0 →
    (k.timer t).timeout = (k.first t + k.fires t * (k.timer t).period) % 2 ^ 64

/-- A callback that a cancellation comes too late for: the timer is preemptible and the handler had
opened up to interrupts for the callback. -/
def TooLate (k : TimeState) (c : Callback) : Prop := c.opened = true ∧ (k.timer c.timer).preemptible = true

theorem scan_cursor {now cursor : Nat} (h : TimeInv k xs) (hs : k.Scan xs now cursor) :
    cursor = timeQueue ∨ k.timerActive cursor = true := by
  obtain ⟨pre, post, rfl, hc, -⟩ := hs
  cases post with
  | nil => exact Or.inl hc
  | cons y post =>
    have hy : cursor = y := hc
    exact Or.inr (h.deque.queued (by simp [hy]))

theorem TimerQueueOk.of_inv (h : TimeInv k xs) : TimerQueueOk TooLate k := by
  have hph := h.phase
  unfold Phase at hph
  refine ⟨?_, ?_, ?_, ?_, h.callbacks, h.periodic⟩
  · intro hpc
    rw [hpc] at hph
    exact ⟨xs, h.deque, fun t ht => h.active_iff ht, hph.2.2.1⟩
  · intro hcall hne
    cases hpc : k.pc with
    | idle => exact absurd hpc hne
    | outer => simp [callable, hpc] at hcall
    | inner now t => simp [callable, hpc] at hcall
    | opened now t => rw [hpc] at hph; exact scan_cursor h hph.1
    | callback now t => rw [hpc] at hph; exact scan_cursor h hph
    | window now => rw [hpc] at hph; exact scan_cursor h hph
  · intro now t hpc
    rw [hpc] at hph
    exact scan_cursor h hph
  · intro hpc
    rw [hpc] at hph
    exact hph.2.2.2

/-- Every run of schedules, cancellations, timer interrupts and handler steps keeps the timer queue;
the only callback of a cancelled timer that runs is one the cancellation came too late for. -/
theorem run_timerQueueOk {callback preemptible : Nat → Bool} {es : List TimeEvent}
    (h : Run (StepOf TimeState.next) (TimeState.ssxInitialize callback preemptible) es k) :
    TimerQueueOk TooLate k := by
  obtain ⟨xs, hk⟩ := h.invariant (P := fun k => ∃ xs, TimeInv k xs) (fun _ _ _ hk he => timeInv_next hk he)
    ⟨[], timeInv_ssxInit callback preemptible⟩
  exact .of_inv hk

end Queue

/-- A periodic preemptible timer that an interrupt cancels between the opening for its callback and
the call. -/
def lateCancelRun : List TimeEvent :=
  [.schedule 2 10 5, .tick 20, .interrupt, .handler, .handler, .cancel 2, .handler, .handler, .handler, .handler]

theorem run_timerQueueOk_lateCancel :
    ∃ k, exec TimeState.next (TimeState.ssxInitialize (fun _ => true) fun _ => true) lateCancelRun = some k ∧
      TimerQueueOk TooLate k := by
  refine ⟨_, rfl, @run_timerQueueOk _ (fun _ => true) (fun _ => true) lateCancelRun ?_⟩
  exact exec_eq_some_iff.1 rfl

/-- The callback runs although the timer was cancelled, and not scheduled since. -/
theorem not_timerQueueOk_lateCancel :
    ∃ k, exec TimeState.next (TimeState.ssxInitialize (fun _ => true) fun _ => true) lateCancelRun = some k ∧
      ¬TimerQueueOk (fun _ _ => False) k :=
  ⟨_, rfl, fun h => h.cancelled ⟨2, true, true⟩ (by decide) rfl⟩

end Occ.Ssx
