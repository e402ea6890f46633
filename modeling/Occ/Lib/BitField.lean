/-
Bit fields of a word: reading a field as a number and putting a number in its place. A put changes the
bits of its field only, so that the fields of a word that was put together piece by piece can be read off.
-/
import Mathlib

namespace Occ

/-- The `len` bits of a word from bit `lo` up. -/
structure BitField where
  lo : Nat
  len : Nat
deriving DecidableEq, Repr

namespace BitField

variable {w : Nat} {f g : BitField} {a b : BitVec w} {v : Nat}

def Has (f : BitField) (i : Nat) : Prop := f.lo ≤ i ∧ i < f.lo + f.len

instance (f : BitField) (i : Nat) : Decidable (f.Has i) := inferInstanceAs (Decidable (_ ∧ _))

/-- The fields have no bit in common. -/
def Apart (f g : BitField) : Prop := f.lo + f.len ≤ g.lo ∨ g.lo + g.len ≤ f.lo

instance (f g : BitField) : Decidable (f.Apart g) := inferInstanceAs (Decidable (_ ∨ _))

def get (f : BitField) (a : BitVec w) : Nat := a.toNat / 2 ^ f.lo % 2 ^ f.len

/-- The word whose field is ones. -/
def mask (f : BitField) (w : Nat) : BitVec w := BitVec.ofNat w ((2 ^ f.len - 1) <<< f.lo)

def put (f : BitField) (v : Nat) (a : BitVec w) : BitVec w :=
  (a &&& ~~~f.mask w) ||| (BitVec.ofNat w (v % 2 ^ f.len) <<< f.lo)

theorem getLsbD_mask (i : Nat) : (f.mask w).getLsbD i = (decide (i < w) && decide (f.Has i)) := by
  simp only [mask, Has, BitVec.getLsbD_ofNat, Nat.testBit_shiftLeft, Nat.testBit_two_pow_sub_one]
  grind

theorem getLsbD_put {i : Nat} (hi : i < w) :
    (f.put v a).getLsbD i = if f.Has i then v.testBit (i - f.lo) else a.getLsbD i := by
  simp only [put, BitVec.getLsbD_or, BitVec.getLsbD_and, BitVec.getLsbD_not, getLsbD_mask, BitVec.getLsbD_shiftLeft,
    BitVec.getLsbD_ofNat, Nat.testBit_mod_two_pow, hi, decide_true, Bool.true_and, Has]
  by_cases hlo : f.lo ≤ i
  · by_cases hhi : i < f.lo + f.len
    · have hoff : i - f.lo < f.len := by omega
      have hw : i - f.lo < w := by omega
      simp [hlo, hhi, hoff, hw]
    · have hoff : ¬ i - f.lo < f.len := by omega
      simp [hhi, hoff]
  · have hlt : i < f.lo := by omega
    simp [hlo, hlt]

theorem testBit_get (i : Nat) : (f.get a).testBit i = (decide (i < f.len) && a.getLsbD (f.lo + i)) := by
  simp only [get, Nat.testBit_mod_two_pow, ← Nat.shiftRight_eq_div_pow, Nat.testBit_shiftRight]
  rfl

/-- Outside its field a put changes nothing. -/
theorem getLsbD_put_of_not_has {i : Nat} (h : ¬ f.Has i) : (f.put v a).getLsbD i = a.getLsbD i := by
  by_cases hi : i < w
  · rw [getLsbD_put hi, if_neg h]
  · rw [BitVec.getLsbD_of_ge _ _ (by omega), BitVec.getLsbD_of_ge _ _ (by omega)]

theorem get_put (hf : f.lo + f.len ≤ w) : f.get (f.put v a) = v % 2 ^ f.len := by
  apply Nat.eq_of_testBit_eq
  intro i
  rw [testBit_get, Nat.testBit_mod_two_pow]
  by_cases hi : i < f.len
  · rw [getLsbD_put (by omega), if_pos ⟨by omega, by omega⟩, Nat.add_sub_cancel_left]
  · simp [hi]

theorem get_put_of_apart (h : g.Apart f) : g.get (f.put v a) = g.get a := by
  apply Nat.eq_of_testBit_eq
  intro i
  rw [testBit_get, testBit_get]
  by_cases hi : i < g.len
  · rw [getLsbD_put_of_not_has]
    rintro ⟨hlo, hhi⟩
    rcases h with h | h <;> omega
  · simp [hi]

theorem get_lt : f.get a < 2 ^ f.len := Nat.mod_lt _ (Nat.two_pow_pos _)

end BitField

end Occ
