/-
Objects that are each at one place: a map from objects to places, and for every place but one, home,
the list of the objects there. What changes when an object moves from one place to another.
-/
import Mathlib.Data.List.Perm.Basic
import Mathlib.Data.List.Nodup
import Mathlib.Logic.Function.Basic
import Mathlib.Tactic.Common

namespace Occ.Places

variable {α π : Type}

/-- The objects at place `p`, each once. -/
structure Lists (loc : α → π) (p : π) (l : List α) : Prop where
  nodup : l.Nodup
  mem : ∀ a, a ∈ l ↔ loc a = p

/-- Every place but `home` has its list in `ms`. -/
def Kept (home : π) (loc : α → π) (ms : π → List α) : Prop :=
  ∀ p, p ≠ home → Lists loc p (ms p)

section

variable {loc : α → π} {p q home : π} {l l' : List α} {a : α} {ms ms' : π → List α}

theorem Lists.perm (h : Lists loc p l) (hl : l.Perm l') : Lists loc p l' :=
  ⟨hl.nodup_iff.1 h.nodup, fun a => by rw [← hl.mem_iff]; exact h.mem a⟩

theorem Kept.congr (h : Kept home loc ms) (hms : ∀ x, x ≠ home → ms' x = ms x) : Kept home loc ms' := by
  intro x hx
  rw [hms x hx]
  exact h x hx

variable [DecidableEq α]

theorem Lists.stay (h : Lists loc p l) (ha : loc a ≠ p) (hq : q ≠ p) : Lists (Function.update loc a q) p l := by
  refine ⟨h.nodup, fun b => ?_⟩
  rw [h.mem]
  by_cases hb : b = a
  · subst hb
    simp [ha, hq]
  · rw [Function.update_of_ne hb]

theorem Lists.enter (h : Lists loc p l) (ha : loc a ≠ p) (hl : l'.Perm (a :: l)) :
    Lists (Function.update loc a p) p l' := by
  refine Lists.perm ⟨?_, fun b => ?_⟩ hl.symm
  · exact List.nodup_cons.2 ⟨fun hm => ha ((h.mem a).1 hm), h.nodup⟩
  · rw [List.mem_cons, h.mem]
    by_cases hb : b = a
    · subst hb
      simp
    · rw [Function.update_of_ne hb]
      simp [hb]

theorem Lists.leave (h : Lists loc p l) (hl : l.Perm (a :: l')) (hq : q ≠ p) :
    Lists (Function.update loc a q) p l' := by
  have h' := h.perm hl
  obtain ⟨ha, hnd⟩ := List.nodup_cons.1 h'.nodup
  refine ⟨hnd, fun b => ?_⟩
  by_cases hb : b = a
  · subst hb
    simp [ha, hq]
  · rw [Function.update_of_ne hb, ← h'.mem]
    simp [hb]

/-- An object moves from place `p` to place `q`: it leaves the list of `p`, enters that of `q`, and the
other lists stay. -/
theorem Kept.move (h : Kept home loc ms) (ha : loc a = p) (hpq : p ≠ q)
    (hleave : p ≠ home → (ms p).Perm (a :: ms' p)) (henter : q ≠ home → (ms' q).Perm (a :: ms q))
    (hstay : ∀ x, x ≠ p → x ≠ q → ms' x = ms x) : Kept home (Function.update loc a q) ms' := by
  intro x hx
  by_cases hxp : x = p
  · subst hxp
    exact (h x hx).leave (hleave hx) hpq.symm
  by_cases hxq : x = q
  · subst hxq
    exact (h x hx).enter (by rw [ha]; exact hpq) (henter hx)
  · rw [hstay x hxp hxq]
    exact (h x hx).stay (by rw [ha]; exact Ne.symm hxp) (Ne.symm hxq)

/-- A property of every object together with its place, when one object and its place change. -/
theorem forall_update {β : Type} {f : α → β} {P : β → π → Prop} (h : ∀ b, P (f b) (loc b)) {v : β} (hv : P v q) :
    ∀ b, P (Function.update f a v b) (Function.update loc a q b) := by
  intro b
  by_cases hb : b = a
  · subst hb
    simpa using hv
  · rw [Function.update_of_ne hb, Function.update_of_ne hb]
    exact h b

end

end Occ.Places
