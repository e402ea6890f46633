/-
Memories with a finite address space that wraps around, and runs of cells laid out in them from an address on:
a run that is laid page after page is the run laid at once, as long as it does not meet its own beginning.
-/
import Mathlib

namespace Occ.Paged

/-- The first `n` cells of `S`, laid out from `a` on. -/
def lay {w : Nat} {β : Type} (m : BitVec w → β) (a : BitVec w) (S : Nat → β) (n : Nat) : BitVec w → β := fun x =>
  if (x - a).toNat < n then S (x - a).toNat else m x

section

variable {w n k i : Nat} {β : Type} {m : BitVec w → β} {a x : BitVec w} {S T : Nat → β}

theorem lay_zero : lay m a S 0 = m := by
  funext x
  simp [lay]

theorem toNat_offset (h : i < 2 ^ w) : (a + BitVec.ofNat w i - a).toNat = i := by
  rw [show a + BitVec.ofNat w i - a = BitVec.ofNat w i by
    rw [BitVec.add_comm, BitVec.add_sub_cancel]]
  exact Nat.mod_eq_of_lt h

theorem lay_inside (h : i < n) (hi : i < 2 ^ w) : lay m a S n (a + BitVec.ofNat w i) = S i := by
  unfold lay
  rw [toNat_offset hi, if_pos h]

theorem lay_outside (h : n ≤ i) (hi : i < 2 ^ w) :
    lay m a S n (a + BitVec.ofNat w i) = m (a + BitVec.ofNat w i) := by
  unfold lay
  rw [toNat_offset hi, if_neg (by omega)]

theorem lay_frame (h : n ≤ (x - a).toNat) : lay m a S n x = m x := by
  unfold lay
  rw [if_neg (by omega)]

/-- The address `n` cells on is `n` cells closer, around the wrap. -/
theorem toNat_sub_add (hn : n ≤ 2 ^ w) :
    (x - (a + BitVec.ofNat w n)).toNat =
      if n ≤ (x - a).toNat then (x - a).toNat - n else (x - a).toNat + (2 ^ w - n) := by
  have hd : x - (a + BitVec.ofNat w n) = (x - a) - BitVec.ofNat w n := by
    exact sub_add_eq_sub_sub x a _
  have hlt := (x - a).isLt
  rw [hd, BitVec.toNat_sub, BitVec.toNat_ofNat]
  rcases Nat.lt_or_eq_of_le hn with hlt' | heq
  · rw [Nat.mod_eq_of_lt hlt']
    split
    · rw [show 2 ^ w - n + (x - a).toNat = (x - a).toNat - n + 2 ^ w by omega, Nat.add_mod_right,
        Nat.mod_eq_of_lt (by omega)]
    · rw [Nat.mod_eq_of_lt (by omega)]
      omega
  · subst heq
    rw [Nat.mod_self, if_neg (by omega), Nat.sub_zero, Nat.add_comm, Nat.add_mod_right, Nat.mod_eq_of_lt hlt]
    omega

/-- A run that is continued where it ended. -/
theorem lay_lay (h : n + k ≤ 2 ^ w) (hT : ∀ i, i < k → T i = S (n + i)) :
    lay (lay m a S n) (a + BitVec.ofNat w n) T k = lay m a S (n + k) := by
  funext x
  have hlt := (x - a).isLt
  have hd := @toNat_sub_add w n a x (by omega)
  by_cases hx : n ≤ (x - a).toNat
  · rw [if_pos hx] at hd
    unfold lay
    rw [hd]
    by_cases hk : (x - a).toNat - n < k
    · rw [if_pos hk, if_pos (by omega), hT _ hk, Nat.add_sub_cancel' hx]
    · rw [if_neg hk, if_neg (by omega), if_neg (by omega)]
  · rw [if_neg hx] at hd
    unfold lay
    rw [hd, if_neg (by omega), if_pos (by omega), if_pos (by omega)]

end

end Occ.Paged
