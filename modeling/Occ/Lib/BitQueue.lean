/-
Priority queues in a machine word: priority `p` is queued when the bit `p` from the top is on, the
minimum is the number of leading zeros, and the width of the word stands for an empty queue.
-/
import Mathlib.Data.Nat.Notation
import Mathlib.Data.List.Basic
import Mathlib.Tactic.Common

namespace Occ.BitQueue

variable {w : Nat}

/-- The word with the bit of priority `p` on; none when `p` is the width or more. -/
def bit (p : Nat) : BitVec w := BitVec.twoPow w (w - 1) >>> p

def insert (q : BitVec w) (p : Nat) : BitVec w := q ||| bit p

def delete (q : BitVec w) (p : Nat) : BitVec w := q &&& ~~~bit p

def member (q : BitVec w) (p : Nat) : Bool := q.getMsbD p

/-- The lowest queued priority, the width when the queue is empty. -/
def min (q : BitVec w) : Nat := ((List.range w).find? (member q)).getD w

/-! ## Membership -/

theorem getMsbD_bit (p r : Nat) : (bit p : BitVec w).getMsbD r = decide (r = p ∧ r < w) := by
  unfold bit
  rw [BitVec.getMsbD, BitVec.getLsbD_ushiftRight, BitVec.getLsbD_twoPow]
  by_cases hr : r < w
  · simp only [hr, decide_true, Bool.true_and, and_true]
    rw [show (decide (w - 1 < w)) = true by simp; omega, Bool.true_and]
    exact decide_eq_decide.2 (by omega)
  · simp [hr]

@[simp] theorem member_zero (p : Nat) : member 0#w p = false := by
  simp [member]

@[simp] theorem member_insert (q : BitVec w) (p r : Nat) :
    member (insert q p) r = (member q r || decide (r = p ∧ r < w)) := by
  simp [member, insert, getMsbD_bit]

@[simp] theorem member_delete (q : BitVec w) (p r : Nat) :
    member (delete q p) r = (member q r && !decide (r = p)) := by
  by_cases hr : r < w
  · simp [member, delete, getMsbD_bit, hr]
  · simp [member, BitVec.getMsbD_of_ge _ _ (Nat.le_of_not_lt hr)]

theorem lt_of_member {q : BitVec w} {p : Nat} (h : member q p = true) : p < w := by
  by_contra hp
  rw [member, BitVec.getMsbD_of_ge _ _ (by omega)] at h
  cases h

/-! ## The minimum -/

theorem min_le (q : BitVec w) : min q ≤ w := by
  unfold min
  cases h : (List.range w).find? (member q) with
  | none => exact Nat.le_refl w
  | some p => exact Nat.le_of_lt (List.mem_range.1 (List.mem_of_find?_eq_some h))

theorem member_min {q : BitVec w} (h : min q < w) : member q (min q) = true := by
  unfold min at h ⊢
  cases hf : (List.range w).find? (member q) with
  | none => rw [hf] at h; exact absurd h (Nat.lt_irrefl w)
  | some p => exact List.find?_some hf

theorem min_zero : min 0#w = w := by
  by_contra h
  have hle := min_le (0#w)
  have hm := member_min (q := 0#w) (by omega)
  rw [member_zero] at hm; cases hm

theorem min_le_of_member {q : BitVec w} {p : Nat} (h : member q p = true) : min q ≤ p := by
  unfold min
  cases hf : (List.range w).find? (member q) with
  | none => exact absurd h (List.find?_eq_none.1 hf p (List.mem_range.2 (lt_of_member h)))
  | some r =>
    obtain ⟨-, -, hr⟩ := List.find?_range_eq_some.1 hf
    by_contra hlt
    have hno := hr p (Nat.lt_of_not_le hlt)
    simp [h] at hno

/-- The minimum is the number of leading zeros. -/
theorem min_eq_clz (q : BitVec w) : min q = q.clz.toNat := by
  by_cases hq : q = 0#w
  · subst hq
    rw [min_zero, BitVec.clz_eq_iff_eq_zero.2 rfl, BitVec.natCast_eq_ofNat, BitVec.toNat_ofNat, Nat.mod_eq_of_lt Nat.lt_two_pow_self]
  · have hw : 0 < w := by
      by_contra hw
      obtain rfl : w = 0 := by omega
      exact hq (BitVec.eq_of_zero_length rfl)
    have hlt : q.clz.toNat < w := by
      have hclz := BitVec.lt_def.1 (BitVec.clz_lt_iff_ne_zero.2 hq)
      rwa [BitVec.natCast_eq_ofNat, BitVec.toNat_ofNat, Nat.mod_eq_of_lt Nat.lt_two_pow_self] at hclz
    have hmember : member q q.clz.toNat = true := by
      unfold member
      rw [BitVec.getMsbD, decide_eq_true hlt, BitVec.getLsbD_true_clz_of_ne_zero hw hq]
      rfl
    refine Nat.le_antisymm (min_le_of_member hmember) (Nat.le_of_not_lt fun hless => ?_)
    -- a bit above the leading zeros
    have hmin := member_min (q := q) (by omega)
    have hbound : q.toNat < 2 ^ (w - 1 - min q) :=
      Nat.lt_of_lt_of_le BitVec.toNat_lt_two_pow_sub_clz (Nat.pow_le_pow_right Nat.two_pos (by omega))
    have hoff : q.getLsbD (w - 1 - min q) = false := Nat.testBit_lt_two_pow hbound
    unfold member at hmin
    rw [BitVec.getMsbD, hoff, Bool.and_false] at hmin
    cases hmin

end Occ.BitQueue
