/-
A loop that visits the positions 0, 1, ..., n - 1, each once. Where a step changes the state at its own position only,
the loop does at each position what its step does there, whatever it has done before at the others.

Loops with a guard, whose passes make a measure smaller.

Loops that try something a bounded number of times, until an outcome says that they need not try again.
-/
import Mathlib.Tactic.Common

namespace Occ

variable {σ β : Type*} {step : σ → Nat → σ} {s : σ} {n i : Nat}

/-- The state after the positions below a bound have been visited in order. -/
def sweep (step : σ → Nat → σ) (s : σ) : Nat → σ
  | 0 => s
  | n + 1 => step (sweep step s n) n

/-- The invariant rule, with an invariant that knows how many positions have been visited. -/
theorem sweep_invariant {P : Nat → σ → Prop} (hzero : P 0 s) (hstep : ∀ i t, i < n → P i t → P (i + 1) (step t i)) :
    P n (sweep step s n) := by
  induction n with
  | zero => exact hzero
  | succ n ih =>
    apply hstep n _ (by omega)
    exact ih fun i t hi => hstep i t (by omega)

section
variable {view : σ → Nat → β} (hother : ∀ t i j, j ≠ i → view (step t i) j = view t j)

include hother in
/-- A position is as it was until it is visited. -/
theorem view_sweep_of_le (h : n ≤ i) : view (sweep step s n) i = view s i := by
  induction n with
  | zero => rfl
  | succ n ih =>
    rw [sweep, hother _ _ _ (by omega)]
    exact ih (by omega)

include hother in
/-- A position stays as its own step leaves it. -/
theorem view_sweep_of_lt (h : i < n) : view (sweep step s n) i = view (step (sweep step s i) i) i := by
  induction n with
  | zero => omega
  | succ n ih =>
    by_cases hin : i = n
    · subst hin
      rfl
    · rw [sweep, hother _ _ _ hin]
      exact ih (by omega)

end

end Occ

namespace Occ.While

variable {σ : Type*} {guard : σ → Bool} {body : σ → σ} {μ : σ → Nat} {hless : ∀ s, guard s = true → μ (body s) < μ s}

/-- A loop whose passes make the measure `μ` smaller. -/
def whileLoop (guard : σ → Bool) (body : σ → σ) (μ : σ → Nat) (hless : ∀ s, guard s = true → μ (body s) < μ s) (s : σ) : σ :=
  if _h : guard s = true then whileLoop guard body μ hless (body s) else s
termination_by μ s
decreasing_by exact hless s _h

/-- What each pass keeps holds after the loop, where the guard does not. -/
theorem whileLoop_rule {I : σ → Prop} {s : σ} (hstart : I s) (hstep : ∀ t, guard t = true → I t → I (body t)) :
    I (whileLoop guard body μ hless s) ∧ guard (whileLoop guard body μ hless s) = false := by
  fun_induction whileLoop guard body μ hless s with
  | case1 s h ih => exact ih (hstep s h hstart)
  | case2 s h => exact ⟨hstart, Bool.eq_false_iff.2 h⟩

end Occ.While

namespace Occ.Retry

variable {σ ρ : Type}

/-- At most `n` tries, the next of them `step 0`: the outcome, none when all of them ask for another one, and the
state after them. -/
def retry (again : ρ → Bool) : Nat → (Nat → σ → ρ × σ) → σ → Option ρ × σ
  | 0, _, s => (none, s)
  | n + 1, step, s =>
    if again (step 0 s).1 then retry again n (fun i => step (i + 1)) (step 0 s).2
    else (some (step 0 s).1, (step 0 s).2)

/-- Try `i` is the first of `n` that does not ask for another one. -/
structure Settled (again : ρ → Bool) (n : Nat) (out : Nat → ρ) (i : Nat) : Prop where
  bound : i < n
  waits : ∀ j, j < i → again (out j) = true
  stops : again (out i) = false

section

variable {again : ρ → Bool} {n i j : Nat} {step : Nat → σ → ρ × σ} {out : Nat → ρ} {s t : σ} {r : ρ}

theorem Settled.succ (h : Settled again n (fun k => out (k + 1)) i) (h0 : again (out 0) = true) :
    Settled again (n + 1) out (i + 1) where
  bound := by have := h.bound; omega
  waits
    | 0, _ => h0
    | k + 1, hk => h.waits k (by omega)
  stops := h.stops

/-- What the loop returns is the outcome of the first try that does not ask for another one. -/
theorem retry_some (hout : ∀ i s, (step i s).1 = out i) (h : retry again n step s = (some r, t)) :
    ∃ i u, Settled again n out i ∧ (r, t) = step i u := by
  induction n generalizing step out s with
  | zero => cases h
  | succ n ih =>
    unfold retry at h
    split at h
    · rename_i hagain
      obtain ⟨i, u, hi, hr⟩ := @ih _ (fun k => out (k + 1)) _ (fun i s => hout (i + 1) s) h
      rw [hout] at hagain
      exact ⟨i + 1, u, hi.succ hagain, hr⟩
    · rename_i hstop
      cases h
      refine ⟨0, s, ⟨by omega, nofun, ?_⟩, rfl⟩
      rw [← hout 0 s]
      exact Bool.eq_false_iff.2 hstop

/-- When some try does not ask for another one, the loop returns its outcome. -/
theorem Settled.retry (hout : ∀ i s, (step i s).1 = out i) (h : Settled again n out i) :
    ∃ u, retry again n step s = (some (step i u).1, (step i u).2) := by
  induction n generalizing step out s i with
  | zero => exact absurd h.bound (by omega)
  | succ n ih =>
    unfold Retry.retry
    cases i with
    | zero =>
      rw [if_neg (by rw [hout, h.stops]; decide)]
      exact ⟨s, rfl⟩
    | succ i =>
      have hw := h.waits 0 (by omega)
      rw [if_pos (by rw [hout, hw])]
      have hrest : ∀ i s, (step (i + 1) s).1 = out (i + 1) := fun i s => hout (i + 1) s
      exact ih hrest
        ⟨by have := h.bound; omega, fun j hj => h.waits (j + 1) (by omega), h.stops⟩

/-- What every try keeps, the loop keeps. -/
theorem retry_keeps {P : σ → Prop} (hstep : ∀ i s, P s → P (step i s).2) (h : P s) : P (retry again n step s).2 := by
  induction n generalizing step s with
  | zero => exact h
  | succ n ih =>
    unfold retry
    split
    · exact ih (fun i s => hstep (i + 1) s) (hstep 0 s h)
    · exact hstep 0 s h

end

end Occ.Retry
