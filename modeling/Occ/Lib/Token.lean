/-
One token: it is counted, or exactly one agent holds it. What taking it, giving it back and handing it over do
to the count and the holders.
-/
import Mathlib.Data.Set.Card
import Mathlib.Tactic.Common

namespace Occ.Token

variable {α : Type} {n : Nat} {holds holds' : α → Prop} {a b : α}

/-- The token is counted and nobody holds it, or one agent holds it. -/
def OneToken (n : Nat) (holds : α → Prop) : Prop :=
  (n = 1 ∧ ∀ a, ¬holds a) ∨ (n = 0 ∧ ∃ a, ∀ b, holds b ↔ b = a)

namespace OneToken

theorem counted (h : ∀ a, ¬holds a) : OneToken 1 holds := Or.inl ⟨rfl, h⟩

theorem congr (h : OneToken n holds) (h' : ∀ a, holds' a ↔ holds a) : OneToken n holds' := by
  obtain rfl : holds' = holds := funext fun a => propext (h' a)
  exact h

theorem count_eq_zero (h : OneToken n holds) (ha : holds a) : n = 0 := by
  obtain ⟨-, hno⟩ | ⟨hn, -⟩ := h
  · exact absurd ha (hno a)
  · exact hn

theorem unique (h : OneToken n holds) (ha : holds a) (hb : holds b) : a = b := by
  obtain ⟨-, hno⟩ | ⟨-, c, hc⟩ := h
  · exact absurd ha (hno a)
  · rw [(hc a).1 ha, (hc b).1 hb]

/-- The token is taken. -/
theorem take (h : OneToken n holds) (hn : n ≠ 0) (h' : ∀ x, holds' x ↔ x = a ∨ holds x) : n = 1 ∧ OneToken 0 holds' := by
  obtain ⟨hone, hno⟩ | ⟨hzero, -⟩ := h
  · refine ⟨hone, Or.inr ⟨rfl, a, fun x => ?_⟩⟩
    rw [h' x]
    exact or_iff_left (hno x)
  · exact absurd hzero hn

/-- The holder gives the token back. -/
theorem release (h : OneToken n holds) (ha : holds a) (h' : ∀ x, holds' x ↔ x ≠ a ∧ holds x) : OneToken (n + 1) holds' := by
  obtain rfl := h.count_eq_zero ha
  refine counted fun x hx => ?_
  obtain ⟨hne, hx⟩ := (h' x).1 hx
  exact hne (h.unique hx ha)

/-- The holder hands the token over. -/
theorem handOver (h : OneToken n holds) (ha : holds a) (h' : ∀ x, holds' x ↔ x = b ∨ x ≠ a ∧ holds x) :
    OneToken n holds' := by
  obtain rfl := h.count_eq_zero ha
  refine Or.inr ⟨rfl, b, fun x => ?_⟩
  rw [h' x]
  refine or_iff_left fun hx => ?_
  exact hx.1 (h.unique hx.2 ha)

/-- The count and the number of holders are one together. -/
theorem card (h : OneToken n holds) : (n : ℕ∞) + {a | holds a}.encard = 1 := by
  obtain ⟨rfl, hno⟩ | ⟨rfl, a, ha⟩ := h
  · have hempty : {a | holds a} = ∅ := Set.eq_empty_iff_forall_notMem.2 hno
    rw [hempty, Set.encard_empty]
    rfl
  · have hsingle : {a | holds a} = {a} := Set.ext ha
    rw [hsingle, Set.encard_singleton]
    rfl

end OneToken

end Occ.Token
