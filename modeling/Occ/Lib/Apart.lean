/-
Buffers that are handed around: each index points to one and one more is spare, all of them apart but for a
shared sink, which several indices may point to.
-/
import Mathlib.Logic.Function.Basic
import Mathlib.Tactic.Common

namespace Occ

variable {ι β : Type} {sink spare : β} {ptrs : ι → β}

structure Apart (sink : β) (ptrs : ι → β) (spare : β) : Prop where
  inj : ∀ i j, i ≠ j → ptrs i = ptrs j → ptrs i = sink
  spare : ∀ i, ptrs i = spare → spare = sink

namespace Apart

variable [DecidableEq ι]

/-- An index is redirected to the sink. -/
theorem redirect (h : Apart sink ptrs spare) (i : ι) : Apart sink (Function.update ptrs i sink) spare := by
  constructor
  · intro j k hne heq
    by_cases hj : j = i
    · subst hj
      rw [Function.update_self]
    · by_cases hk : k = i
      · subst hk
        rw [Function.update_self] at heq
        exact heq
      · rw [Function.update_of_ne hj] at heq ⊢
        rw [Function.update_of_ne hk] at heq
        exact h.inj j k hne heq
  · intro j heq
    by_cases hj : j = i
    · subst hj
      rw [Function.update_self] at heq
      exact heq.symm
    · rw [Function.update_of_ne hj] at heq
      exact h.spare j heq

/-- The spare buffer goes to `i`, the buffer of `j` becomes the spare one, and `j` is redirected to the sink. -/
theorem rotate (h : Apart sink ptrs spare) {i j : ι} (hij : i ≠ j) :
    Apart sink (Function.update (Function.update ptrs i spare) j sink) (ptrs j) := by
  constructor
  · have hinj : ∀ a b, a ≠ b → Function.update ptrs i spare a = Function.update ptrs i spare b →
        Function.update ptrs i spare a = sink := by
      intro a b hne heq
      by_cases ha : a = i
      · subst ha
        rw [Function.update_self, Function.update_of_ne (Ne.symm hne)] at heq
        rw [Function.update_self]
        exact h.spare b heq.symm
      · rw [Function.update_of_ne ha] at heq ⊢
        by_cases hb : b = i
        · subst hb
          rw [Function.update_self] at heq
          rw [heq]
          exact h.spare a heq
        · rw [Function.update_of_ne hb] at heq
          exact h.inj a b hne heq
    intro a b hne heq
    by_cases ha : a = j
    · subst ha
      rw [Function.update_self]
    · rw [Function.update_of_ne ha] at heq ⊢
      by_cases hb : b = j
      · subst hb
        rw [Function.update_self] at heq
        exact heq
      · rw [Function.update_of_ne hb] at heq
        exact hinj a b hne heq
  · intro a heq
    by_cases ha : a = j
    · subst ha
      rw [Function.update_self] at heq
      exact heq.symm
    · rw [Function.update_of_ne ha] at heq
      by_cases hi : a = i
      · subst hi
        rw [Function.update_self] at heq
        rw [← heq]
        exact h.spare j heq.symm
      · rw [Function.update_of_ne hi] at heq
        rw [← heq]
        exact h.inj a j ha heq

end Apart

end Occ
