/-
Sums of the bytes of a memory from its begin: they depend on those bytes only, and a byte that is replaced changes them by
the difference.
-/
import Mathlib.Data.BitVec
import Mathlib.Logic.Function.Basic
import Mathlib.Tactic.Common
import Mathlib.Tactic.Ring

namespace Occ.Checksum

open Function (update)

variable {w n : Nat} {m m' : Nat → BitVec 8}

/-- The sum of the first `n` bytes, as a word. -/
def sum (w : Nat) (m : Nat → BitVec 8) : Nat → BitVec w
  | 0 => 0
  | n + 1 => sum w m n + (m n).setWidth w

theorem sum_congr (h : ∀ i < n, m i = m' i) : sum w m n = sum w m' n := by
  induction n with
  | zero => rfl
  | succ n ih =>
    rw [sum, sum, ih fun i hi => h i (Nat.lt_succ_of_lt hi), h n (Nat.lt_succ_self n)]

theorem sum_update {i : Nat} (b : BitVec 8) (hi : i < n) :
    sum w (update m i b) n = sum w m n + (b.setWidth w - (m i).setWidth w) := by
  induction n with
  | zero => omega
  | succ n ih =>
    rw [sum, sum]
    rcases Nat.eq_or_lt_of_le (Nat.le_of_lt_succ hi) with rfl | hlt
    · have hsame : sum w (update m i b) i = sum w m i :=
        sum_congr fun j hj => Function.update_of_ne (Nat.ne_of_lt hj) ..
      rw [hsame, Function.update_self]
      ring
    · rw [ih hlt, Function.update_of_ne (Nat.ne_of_gt hlt)]
      ring

/-- A sum of bytes does not reach the width of its word when the word is wide enough for them. -/
theorem toNat_sum_le (h : 255 * n < 2 ^ w) : (sum w m n).toNat ≤ 255 * n := by
  induction n with
  | zero => simp [sum]
  | succ n ih =>
    have hn := ih (by omega)
    have hb := (m n).isLt
    rw [sum, BitVec.toNat_add, BitVec.toNat_setWidth]
    have hmod : (m n).toNat % 2 ^ w ≤ (m n).toNat := Nat.mod_le _ _
    have hle : ((sum w m n).toNat + (m n).toNat % 2 ^ w) % 2 ^ w ≤ (sum w m n).toNat + (m n).toNat % 2 ^ w :=
      Nat.mod_le _ _
    omega

end Occ.Checksum
