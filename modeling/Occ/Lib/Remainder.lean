/-
Words as polynomials over the field of two elements, from the lowest bit on: the sum is the exclusive or, long division takes off
multiples of the divisor until the degree is below its own, and what is left is the remainder, of which the error-detecting codes live.
-/
import Mathlib.Algebra.Polynomial.Div
import Mathlib.Algebra.Polynomial.Monic
import Mathlib.Algebra.Field.ZMod
import Mathlib.RingTheory.Coprime.Lemmas

namespace Occ.Remainder

open Polynomial

/-! ## Words -/

section
variable {w : Nat} {a b : BitVec w}

/-- The polynomial whose coefficients are the bits of a word. -/
noncomputable def poly (a : BitVec w) : (ZMod 2)[X] := ∑ i ∈ Finset.range w, if a.getLsbD i then X ^ i else 0

theorem coeff_poly (a : BitVec w) (i : Nat) : (poly a).coeff i = if a.getLsbD i then 1 else 0 := by
  unfold poly
  rw [finsetSum_coeff]
  have hterm : ∀ j, ((if a.getLsbD j then X ^ j else 0 : (ZMod 2)[X])).coeff i = if i = j then (if a.getLsbD j then 1 else 0) else 0 := by
    intro j
    cases a.getLsbD j
    · rw [if_neg Bool.false_ne_true, coeff_zero, if_neg Bool.false_ne_true, ite_self]
    · rw [if_pos rfl, coeff_X_pow, if_pos rfl]
  rw [Finset.sum_congr rfl fun j _ => hterm j, Finset.sum_ite_eq]
  split_ifs with hmem hbit hbit
  · rfl
  · rfl
  · rw [BitVec.getLsbD_of_ge a i (Nat.not_lt.1 fun h => hmem (Finset.mem_range.2 h))] at hbit
    exact absurd hbit Bool.false_ne_true
  · rfl

theorem poly_injective (h : poly a = poly b) : a = b := by
  refine BitVec.eq_of_getLsbD_eq fun i _ => ?_
  have hcoeff := congrArg (fun p => p.coeff i) h
  rw [coeff_poly, coeff_poly] at hcoeff
  generalize a.getLsbD i = x at hcoeff ⊢
  generalize b.getLsbD i = y at hcoeff ⊢
  revert hcoeff
  cases x <;> cases y <;> decide

theorem poly_xor (a b : BitVec w) : poly (a ^^^ b) = poly a + poly b := by
  ext i
  rw [coeff_add, coeff_poly, coeff_poly, coeff_poly, BitVec.getLsbD_xor]
  cases a.getLsbD i <;> cases b.getLsbD i <;> rfl

theorem degree_poly_lt {n : Nat} (h : ∀ i, n ≤ i → a.getLsbD i = false) : (poly a).degree < n := by
  rw [degree_lt_iff_coeff_zero]
  intro i hi
  rw [coeff_poly, h i hi]
  rfl

theorem poly_eq_zero_iff : poly a = 0 ↔ ∀ i, a.getLsbD i = false := by
  constructor
  · intro h i
    have hcoeff := congrArg (fun p => p.coeff i) h
    rw [coeff_poly, coeff_zero] at hcoeff
    cases hbit : a.getLsbD i
    · rfl
    · rw [hbit] at hcoeff
      exact absurd hcoeff (by decide)
  · intro h
    ext i
    rw [coeff_poly, h i, coeff_zero]
    rfl

theorem poly_zero : poly (0 : BitVec w) = 0 := poly_eq_zero_iff.2 fun _ => BitVec.getLsbD_zero

/-- A word whose lowest bits are 0 is a multiple of a power. -/
theorem poly_ushiftRight {n : Nat} (h : ∀ i < n, a.getLsbD i = false) : poly a = X ^ n * poly (a >>> n) := by
  ext i
  rw [mul_comm, coeff_mul_X_pow', coeff_poly]
  by_cases hle : n ≤ i
  · rw [if_pos hle, coeff_poly, BitVec.getLsbD_ushiftRight, Nat.add_sub_cancel' hle]
  · rw [if_neg hle, h i (Nat.not_le.1 hle), if_neg Bool.false_ne_true]

theorem poly_twoPow {n : Nat} (h : n < w) : poly (BitVec.twoPow w n) = X ^ n := by
  ext i
  rw [coeff_poly, BitVec.getLsbD_twoPow, coeff_X_pow]
  by_cases hi : n = i
  · subst hi
    rw [decide_eq_true h, decide_eq_true rfl, Bool.and_self, if_pos rfl, if_pos rfl]
  · rw [decide_eq_false hi, Bool.and_false, if_neg Bool.false_ne_true, if_neg (Ne.symm hi)]

/-! ## Long division -/

variable {g : (ZMod 2)[X]}

/-- Taking a multiple of the divisor off a word leaves its remainder as it is. -/
theorem dvd_sub_xor {c : BitVec w} (h : g ∣ poly a - poly c) (hb : g ∣ poly b) : g ∣ poly a - poly (c ^^^ b) := by
  rw [poly_xor, ← sub_sub]
  exact dvd_sub h hb

/-- What is left of a word when multiples of the divisor have been taken off it, once its degree is below the divisor's. -/
theorem poly_eq_modByMonic (hg : g.Monic) (hdvd : g ∣ poly a - poly b) (hdeg : (poly b).degree < g.degree) : poly b = poly a %ₘ g := by
  rw [modByMonic_eq_of_dvd_sub hg hdvd, (modByMonic_eq_self_iff hg).2 hdeg]

/-! ## Bursts of errors -/

/-- A difference between two words in bits that lie together, `n` of them at most. -/
def Burst (n : Nat) (a : BitVec w) : Prop := a ≠ 0 ∧ ∃ k, ∀ i, a.getLsbD i = true → k ≤ i ∧ i < k + n

/-- No burst shorter than the divisor is a multiple of it. -/
theorem Burst.not_dvd {n : Nat} (h : Burst n a) (hcop : IsCoprime g X) (hdeg : n ≤ g.degree) : ¬ g ∣ poly a := by
  obtain ⟨hne, k, hbits⟩ := h
  intro hdvd
  have hlow : ∀ i < k, a.getLsbD i = false := fun i hi =>
    Bool.eq_false_iff.2 fun hbit => absurd (hbits i hbit).1 (by omega)
  rw [poly_ushiftRight hlow] at hdvd
  have hshort : (poly (a >>> k)).degree < g.degree := by
    refine lt_of_lt_of_le (degree_poly_lt fun i hi => ?_) hdeg
    rw [BitVec.getLsbD_ushiftRight]
    exact Bool.eq_false_iff.2 fun hbit => absurd (hbits _ hbit).2 (by omega)
  have hrest := eq_zero_of_dvd_of_degree_lt ((IsCoprime.pow_right hcop).dvd_of_dvd_mul_left hdvd) hshort
  apply hne
  apply poly_injective
  rw [poly_ushiftRight hlow, hrest, mul_zero, poly_zero]

end

end Occ.Remainder
