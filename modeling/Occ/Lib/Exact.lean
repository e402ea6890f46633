/-
Arithmetic on words against arithmetic on integers. A word always is an integer up to wraps, and is the integer if and only if
that is in the range of the word, so that a calculation is exact if and only if all its steps are in range.
-/
import Mathlib.Data.BitVec

namespace Occ

/-- The integers that a word of `w` bits can be. -/
def InRange (w : Nat) (x : Int) : Prop := 0 ≤ x ∧ x < 2 ^ w

instance (w : Nat) (x : Int) : Decidable (InRange w x) := inferInstanceAs (Decidable (_ ∧ _))

/-- The word is the integer. -/
def Exact {w : Nat} (b : BitVec w) (x : Int) : Prop := (b.toNat : Int) = x

instance {w : Nat} (b : BitVec w) (x : Int) : Decidable (Exact b x) := inferInstanceAs (Decidable (_ = _))

/-- The word is the integer, up to wraps. -/
def Wraps {w : Nat} (b : BitVec w) (x : Int) : Prop := b = BitVec.ofInt w x

section
variable {v w : Nat} {a b : BitVec w} {x y : Int}

theorem exact_toNat (b : BitVec w) : Exact b b.toNat := rfl

theorem Exact.inRange (h : Exact b x) : InRange w x := by
  unfold Exact at h
  have hlt := b.isLt
  subst h
  constructor
  · omega
  · exact_mod_cast hlt

theorem Exact.wraps (h : Exact b x) : Wraps b x := by
  unfold Exact at h
  unfold Wraps
  rw [← h, BitVec.ofInt_natCast, BitVec.ofNat_toNat, BitVec.setWidth_eq]

theorem Wraps.exact_iff (h : Wraps b x) : Exact b x ↔ InRange w x := by
  constructor
  · intro hexact
    exact hexact.inRange
  · rintro ⟨hnonneg, hlt⟩
    unfold Wraps at h
    unfold Exact
    rw [h, BitVec.toNat_ofInt, Int.emod_eq_of_lt hnonneg (by exact_mod_cast hlt)]
    omega

/-- A signed word. -/
theorem wraps_toInt (b : BitVec w) : Wraps b b.toInt := BitVec.ofInt_toInt.symm

theorem Wraps.add (h : Wraps a x) (h' : Wraps b y) : Wraps (a + b) (x + y) := by
  unfold Wraps at *
  rw [h, h', BitVec.ofInt_add]

theorem Wraps.mul (h : Wraps a x) (h' : Wraps b y) : Wraps (a * b) (x * y) := by
  unfold Wraps at *
  rw [h, h', BitVec.ofInt_mul]

theorem Wraps.sub (h : Wraps a x) (h' : Wraps b y) : Wraps (a - b) (x - y) := by
  unfold Wraps at *
  apply BitVec.eq_of_toInt_eq
  rw [h, h', BitVec.toInt_sub, BitVec.toInt_ofInt, BitVec.toInt_ofInt, BitVec.toInt_ofInt, Int.bmod_sub_bmod,
    Int.sub_bmod_bmod]

theorem Exact.div (h : Exact a x) (h' : Exact b y) : Exact (a / b) (x / y) := by
  unfold Exact at *
  rw [BitVec.toNat_udiv, ← h, ← h']
  rfl

theorem Exact.shiftRight (h : Exact a x) (n : Nat) : Exact (a >>> n) (x / 2 ^ n) := by
  unfold Exact at *
  rw [BitVec.toNat_ushiftRight, Nat.shiftRight_eq_div_pow, ← h]
  rfl

/-- A word that is cut, or extended with zeros. -/
theorem Exact.setWidth (h : Exact b x) (v : Nat) : Wraps (b.setWidth v) x := by
  unfold Exact at h
  unfold Wraps
  rw [← h, BitVec.ofInt_natCast, BitVec.ofNat_toNat]

theorem exact_extend (b : BitVec w) (h : w ≤ v) : Exact (b.setWidth v) b.toNat := by
  unfold Exact
  rw [BitVec.toNat_setWidth_of_le h]

theorem Wraps.cut (h : Wraps b x) (hv : v ≤ w) : Wraps (b.setWidth v) x := by
  unfold Wraps at *
  apply BitVec.eq_of_toNat_eq
  rw [h, BitVec.toNat_setWidth, BitVec.toNat_ofInt, BitVec.toNat_ofInt]
  have hdvd : ((2 ^ v : Nat) : Int) ∣ ((2 ^ w : Nat) : Int) := Int.natCast_dvd_natCast.2 (Nat.pow_dvd_pow 2 hv)
  have hpos : (0 : Int) < ((2 ^ v : Nat) : Int) := by exact_mod_cast Nat.two_pow_pos v
  have hpos' : (0 : Int) < ((2 ^ w : Nat) : Int) := by exact_mod_cast Nat.two_pow_pos w
  apply Int.ofNat.inj
  have hfirst := Int.emod_nonneg x (Int.ne_of_gt hpos')
  have hsecond := Int.emod_nonneg x (Int.ne_of_gt hpos)
  have hmod := Int.emod_emod_of_dvd x hdvd
  show ((_ % _ : Nat) : Int) = ((_ : Nat) : Int)
  rw [Int.natCast_emod, Int.toNat_of_nonneg hfirst, Int.toNat_of_nonneg hsecond, hmod]

/-- A word that is extended with its sign. -/
theorem wraps_signExtend (b : BitVec w) (h : w ≤ v) : Wraps (b.signExtend v) b.toInt := by
  have hsigned := wraps_toInt (b.signExtend v)
  rwa [BitVec.toInt_signExtend_of_le h] at hsigned

theorem Wraps.toNat_eq (h : Wraps b x) : (b.toNat : Int) = x % 2 ^ w := by
  unfold Wraps at h
  rw [h, BitVec.toNat_ofInt, Int.toNat_of_nonneg (Int.emod_nonneg x (by exact_mod_cast (Nat.two_pow_pos w).ne'))]
  exact_mod_cast rfl

/-- A signed word is the integer when that is in the signed range. -/
theorem Wraps.toInt_eq (h : Wraps b x) (hlow : -2 ^ w ≤ 2 * x) (hhigh : 2 * x < 2 ^ w) : b.toInt = x := by
  unfold Wraps at h
  rw [h, BitVec.toInt_ofInt]
  have hpow : ((2 ^ w : Nat) : Int) = 2 ^ w := by exact_mod_cast rfl
  apply Int.bmod_eq_of_le
  · omega
  · omega

end

/-! ## Quotients -/

/-- A number that wraps before it is divided gives another quotient. -/
theorem mod_div_eq_iff {x d m : Nat} (hd : 0 < d) (hm : d ≤ m) : x % m / d = x / d ↔ x < m := by
  constructor
  · intro heq
    by_contra hge
    have hless : x % m + d ≤ x := by
      have := Nat.mod_add_div x m
      have hquot : 0 < x / m := Nat.div_pos (Nat.le_of_not_lt hge) (by omega)
      have := Nat.le_mul_of_pos_right m hquot
      omega
    have := Nat.div_le_div_right (c := d) hless
    rw [Nat.add_div_right _ hd] at this
    omega
  · intro hlt
    rw [Nat.mod_eq_of_lt hlt]

end Occ
