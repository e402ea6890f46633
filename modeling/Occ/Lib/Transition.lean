/-
Labelled transition systems: finite runs of a step relation with the list of events they take,
the invariant rule (what one step preserves, a whole run preserves), runs whose every step meets
a side condition, and executable step functions whose runs a concrete trace can be evaluated on.
-/
import Mathlib.Data.List.Basic
import Mathlib.Tactic.Common

namespace Occ.Transition

variable {σ ε : Type}

/-! ## Runs -/

/-- A finite run of `step` from one state to another, with its events in order. -/
inductive Run (step : σ → ε → σ → Prop) : σ → List ε → σ → Prop
  | nil (s : σ) : Run step s [] s
  | cons {s t u : σ} {e : ε} {es : List ε} : step s e t → Run step t es u → Run step s (e :: es) u

namespace Run

variable {step : σ → ε → σ → Prop} {s t u : σ} {e : ε} {es fs : List ε}

theorem single (h : step s e t) : Run step s [e] t := .cons h (.nil t)

theorem append (h₁ : Run step s es t) (h₂ : Run step t fs u) : Run step s (es ++ fs) u := by
  induction h₁ with
  | nil _ => exact h₂
  | cons hs _ ih => exact .cons hs (ih h₂)

/-- The invariant rule: what every step preserves holds at the end of every run. -/
theorem invariant {P : σ → Prop} (hstep : ∀ s e t, P s → step s e t → P t)
    (h : Run step s es t) (hs : P s) : P t := by
  induction h with
  | nil _ => exact hs
  | cons h _ ih => exact ih (hstep _ _ _ hs h)

/-- A run of a stronger relation is a run of a weaker one. -/
theorem mono {step' : σ → ε → σ → Prop} (hle : ∀ s e t, step s e t → step' s e t)
    (h : Run step s es t) : Run step' s es t := by
  induction h with
  | nil s => exact .nil s
  | cons h _ ih => exact .cons (hle _ _ _ h) ih

/-- A run is projected on the events that matter: they take the projections to each other, and the others
leave the projection as it is. -/
theorem project {τ : Type} {step' : τ → ε → τ → Prop} {P : σ → Prop} {f : σ → τ} {keep : ε → Bool}
    (hinv : ∀ s e t, P s → step s e t → P t)
    (hstep : ∀ s e t, P s → step s e t → keep e = true → step' (f s) e (f t))
    (hskip : ∀ s e t, P s → step s e t → keep e = false → f t = f s) (h : Run step s es t) (hs : P s) :
    Run step' (f s) (es.filter keep) (f t) := by
  induction h with
  | nil s => exact .nil _
  | @cons s t u e es h _ ih =>
    have ih := ih (hinv _ _ _ hs h)
    cases hk : keep e with
    | true =>
      rw [List.filter_cons_of_pos hk]
      exact .cons (hstep _ _ _ hs h hk) ih
    | false =>
      rw [List.filter_cons_of_neg (by simp [hk]), ← hskip _ _ _ hs h hk]
      exact ih

end Run

/-! ## Guarded runs -/

/-- The steps of `step` whose state and event meet `ok`. -/
def Guarded (ok : σ → ε → Prop) (step : σ → ε → σ → Prop) (s : σ) (e : ε) (t : σ) : Prop :=
  ok s e ∧ step s e t

/-- A run whose events all meet a side condition is a guarded run. -/
theorem Run.guard {ok : σ → ε → Prop} {step : σ → ε → σ → Prop} {s t : σ} {es : List ε} (h : Run step s es t)
    (hok : ∀ e ∈ es, ∀ s, ok s e) : Run (Guarded ok step) s es t := by
  induction h with
  | nil s => exact .nil s
  | cons h _ ih =>
    exact .cons ⟨hok _ List.mem_cons_self _, h⟩ (ih fun e he => hok e (List.mem_cons_of_mem _ he))

/-- Two side conditions that say the same in the states of an invariant of the guarded steps guard the same runs. -/
theorem run_guarded_congr_of {P : σ → Prop} {ok ok' : σ → ε → Prop} {step : σ → ε → σ → Prop} {s t : σ} {es : List ε}
    (hinv : ∀ s e t, P s → ok' s e → step s e t → P t) (h : ∀ s e t, P s → step s e t → (ok s e ↔ ok' s e)) (hs : P s) :
    Run (Guarded ok step) s es t ↔ Run (Guarded ok' step) s es t := by
  induction es generalizing s with
  | nil =>
    constructor
    · rintro ⟨⟩
      exact .nil t
    · rintro ⟨⟩
      exact .nil t
  | cons e es ih =>
    constructor
    · rintro (_ | ⟨⟨hok, hstep⟩, hrun⟩)
      have hok' := (h _ _ _ hs hstep).1 hok
      exact .cons ⟨hok', hstep⟩ ((ih (hinv _ _ _ hs hok' hstep)).1 hrun)
    · rintro (_ | ⟨⟨hok, hstep⟩, hrun⟩)
      exact .cons ⟨(h _ _ _ hs hstep).2 hok, hstep⟩ ((ih (hinv _ _ _ hs hok hstep)).2 hrun)

/-- Two side conditions that say the same in the states of an invariant guard the same runs. -/
theorem run_guarded_congr {P : σ → Prop} {ok ok' : σ → ε → Prop} {step : σ → ε → σ → Prop} {s t : σ} {es : List ε}
    (hinv : ∀ s e t, P s → step s e t → P t) (h : ∀ s e t, P s → step s e t → (ok s e ↔ ok' s e)) (hs : P s) :
    Run (Guarded ok step) s es t ↔ Run (Guarded ok' step) s es t :=
  run_guarded_congr_of (fun s e t hs _ => hinv s e t hs) h hs

/-! ## Executable steps -/

/-- The step relation of a partial step function. -/
def StepOf (next : σ → ε → Option σ) (s : σ) (e : ε) (t : σ) : Prop := next s e = some t

/-- The state a list of events leads to, when every one of them is enabled. -/
def exec (next : σ → ε → Option σ) : σ → List ε → Option σ
  | s, [] => some s
  | s, e :: es =>
    match next s e with
    | some t => exec next t es
    | none => none

theorem exec_eq_some_iff {next : σ → ε → Option σ} {s t : σ} {es : List ε} :
    exec next s es = some t ↔ Run (StepOf next) s es t := by
  induction es generalizing s with
  | nil =>
    constructor
    · intro h; cases h; exact .nil _
    · intro h; cases h; rfl
  | cons e es ih =>
    constructor
    · intro h
      unfold exec at h
      split at h
      · rename_i u hu; exact .cons hu (ih.1 h)
      · cases h
    · intro h
      cases h with
      | cons hs hr =>
        unfold exec
        rw [show next s e = some _ from hs]
        exact ih.2 hr

/-- A list of events that are enabled one after another is a run. -/
theorem run_of_exec_isSome {next : σ → ε → Option σ} {s d : σ} {es : List ε} (h : (exec next s es).isSome = true) :
    Run (StepOf next) s es ((exec next s es).getD d) := by
  obtain ⟨t, ht⟩ := Option.isSome_iff_exists.1 h
  rw [ht]
  exact exec_eq_some_iff.1 ht

/-- A trace whose steps are enabled and meet a condition, which can be evaluated. -/
theorem run_guarded_of_exec {ok : σ → ε → Prop} [∀ s e, Decidable (ok s e)] {next : σ → ε → Option σ} {s t : σ}
    {es : List ε} (h : exec (fun s e => if ok s e then next s e else none) s es = some t) :
    Run (Guarded ok (StepOf next)) s es t := by
  refine (exec_eq_some_iff.1 h).mono fun s e t hs => ?_
  simp only [StepOf] at hs
  split at hs
  · rename_i hok
    exact ⟨hok, hs⟩
  · cases hs

end Occ.Transition
