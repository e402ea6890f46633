/-
Flag words: the flags of a fixed-width word that lie in a mask, under setting and clearing. A view
of a word through a mask is enough to compute the view of the word after any sequence of sets and
clears, so that facts about a few flags never look at the other bits.
-/
import Mathlib.Data.Nat.Notation
import Mathlib.Tactic.Common

namespace Occ.Mask

variable {w : Nat}

/-- The word with the flags `f` on. -/
def set (m f : BitVec w) : BitVec w := m ||| f

/-- The word with the flags `f` off. -/
def clr (m f : BitVec w) : BitVec w := m &&& ~~~f

/-- Every flag of `f` is on. -/
def Has (m f : BitVec w) : Prop := m &&& f = f

instance (m f : BitVec w) : Decidable (Has m f) := inferInstanceAs (Decidable (_ = _))

theorem set_and (m f k : BitVec w) : set m f &&& k = set (m &&& k) (f &&& k) := by
  ext i
  simp only [set, BitVec.getElem_or, BitVec.getElem_and]
  cases m[i] <;> cases f[i] <;> cases k[i] <;> rfl

theorem clr_and (m f k : BitVec w) : clr m f &&& k = clr (m &&& k) f := by
  ext i
  simp only [clr, BitVec.getElem_not, BitVec.getElem_and]
  cases m[i] <;> cases f[i] <;> cases k[i] <;> rfl

theorem has_iff_getElem {m f : BitVec w} : Has m f ↔ ∀ i (hi : i < w), f[i] = true → m[i] = true := by
  unfold Has
  constructor
  · intro h i hi hf
    have hbit : (m &&& f)[i] = f[i] := by rw [h]
    rw [BitVec.getElem_and, hf] at hbit
    simpa using hbit
  · intro h
    ext i hi
    have hbit := h i hi
    rw [BitVec.getElem_and]
    cases hf : f[i]
    · simp
    · simp [hbit hf]

theorem has_set (m f : BitVec w) : Has (set m f) f := by
  rw [has_iff_getElem]
  intro i hi hf
  simp [set, hf]

theorem Has.set {m f : BitVec w} (h : Has m f) (g : BitVec w) : Has (Mask.set m g) f := by
  rw [has_iff_getElem] at h ⊢
  intro i hi hf
  simp [Mask.set, h i hi hf]

/-- Clearing flags outside `f` keeps `f`. -/
theorem Has.clr {m f g : BitVec w} (h : Has m f) (hg : f &&& g = 0) : Has (Mask.clr m g) f := by
  rw [has_iff_getElem] at h ⊢
  intro i hi hf
  have hoff : (f &&& g)[i] = false := by rw [hg]; simp
  rw [BitVec.getElem_and, hf, Bool.true_and] at hoff
  simp [Mask.clr, h i hi hf, hoff]

theorem not_has_clr {m f : BitVec w} (hf : f ≠ 0) : ¬ Has (Mask.clr m f) f := by
  rw [has_iff_getElem]
  intro h
  refine hf (BitVec.eq_of_getElem_eq fun i hi => ?_)
  cases hb : f[i]
  · simp
  · have hon := h i hi hb
    simp [Mask.clr, hb] at hon

/-! ## Flags counted from the top -/

/-- The flag `i` from the top of a word. -/
def flag (w i : Nat) : BitVec w := BitVec.twoPow w (w - 1) >>> i

/-- The flag `i` from the top is on. -/
def On (m : BitVec w) (i : Nat) : Bool := m &&& flag w i != 0

theorem getMsbD_flag (i j : Nat) : (flag w i).getMsbD j = (decide (j = i) && decide (j < w)) := by
  unfold flag
  rw [Bool.eq_iff_iff]
  simp only [BitVec.getMsbD, BitVec.getLsbD_ushiftRight, BitVec.getLsbD_twoPow, Bool.and_eq_true, decide_eq_true_eq]
  omega

theorem on_eq_getMsbD (m : BitVec w) (i : Nat) : On m i = m.getMsbD i := by
  unfold On
  rw [Bool.eq_iff_iff, bne_iff_ne]
  constructor
  · intro h
    by_contra hoff
    apply h
    apply BitVec.eq_of_getMsbD_eq
    intro j hj
    rw [BitVec.getMsbD_and, getMsbD_flag]
    by_cases hij : j = i
    · subst hij
      simp [hoff]
    · simp [hij]
  · intro h hzero
    have hi : i < w := BitVec.lt_of_getMsbD h
    have hbit : (m &&& flag w i).getMsbD i = true := by
      rw [BitVec.getMsbD_and, getMsbD_flag, h]
      simp [hi]
    rw [hzero] at hbit
    simp at hbit

theorem on_set (m : BitVec w) (i j : Nat) : On (set m (flag w j)) i = (On m i || (decide (i = j) && decide (i < w))) := by
  simp only [on_eq_getMsbD, set, BitVec.getMsbD_or, getMsbD_flag]

theorem on_clr (m : BitVec w) (i j : Nat) : On (clr m (flag w j)) i = (On m i && !decide (i = j)) := by
  rw [on_eq_getMsbD, on_eq_getMsbD, clr, BitVec.getMsbD_and, BitVec.getMsbD_not, getMsbD_flag]
  by_cases hi : i < w
  · simp [hi]
  · simp [hi, BitVec.getMsbD]

theorem on_zero (i : Nat) : On (0#w) i = false := by
  rw [on_eq_getMsbD]
  simp

end Occ.Mask
