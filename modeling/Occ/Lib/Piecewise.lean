/-
Linear interpolation between knots in whole numbers, with quotients rounded to zero: the interpolation passes through the
knots, it goes on beyond the first and the last, and it is nondecreasing if and only if the values at the knots are.
-/
import Mathlib.Tactic.Common

namespace Occ.Piecewise

/-! ## One segment -/

/-- The line through two points, at `X`. -/
def line (x₁ x₂ y₁ y₂ X : Int) : Int := ((X - x₁) * (y₂ - y₁)).tdiv (x₂ - x₁) + y₁

section
variable {x₁ x₂ y₁ y₂ X X' : Int}

@[simp] theorem line_left : line x₁ x₂ y₁ y₂ x₁ = y₁ := by
  unfold line
  rw [Int.sub_self, Int.zero_mul, Int.zero_tdiv, Int.zero_add]

theorem line_right (hx : x₁ ≠ x₂) : line x₁ x₂ y₁ y₂ x₂ = y₂ := by
  unfold line
  rw [Int.mul_tdiv_cancel_left _ (by omega)]
  omega

theorem line_const : line x₁ x₂ y₁ y₁ X = y₁ := by
  unfold line
  rw [Int.sub_self, Int.mul_zero, Int.zero_tdiv, Int.zero_add]

theorem line_mono (hx : x₁ < x₂) (hy : y₁ ≤ y₂) (h : X ≤ X') : line x₁ x₂ y₁ y₂ X ≤ line x₁ x₂ y₁ y₂ X' := by
  have hmul : (X - x₁) * (y₂ - y₁) ≤ (X' - x₁) * (y₂ - y₁) := Int.mul_le_mul_of_nonneg_right (by omega) (by omega)
  exact Int.add_le_add_right (Int.tdiv_le_tdiv (by omega) hmul) y₁

/-- Left of the first point the line stays above 0 as long as the way down is shorter than the value there. -/
theorem line_pos_iff (hx : x₁ < x₂) (hpos : 0 < y₁) :
    0 < line x₁ x₂ y₁ y₂ X ↔ (x₁ - X) * (y₂ - y₁) < (x₂ - x₁) * y₁ := by
  have hneg : (X - x₁) * (y₂ - y₁) = -((x₁ - X) * (y₂ - y₁)) := by
    rw [← Int.neg_mul]
    congr 1
    omega
  unfold line
  rw [hneg, Int.neg_tdiv]
  generalize hway : (x₁ - X) * (y₂ - y₁) = way
  obtain hdown | hup := Int.le_total 0 way
  · rw [Int.tdiv_eq_ediv_of_nonneg hdown]
    have hlt := Int.ediv_lt_iff_lt_mul (a := way) (b := y₁) (c := x₂ - x₁) (by omega)
    rw [Int.mul_comm] at hlt
    constructor
    · intro h
      exact hlt.1 (by omega)
    · intro h
      have := hlt.2 h
      omega
  · have hquot : 0 ≤ (-way).tdiv (x₂ - x₁) := Int.tdiv_nonneg (by omega) (by omega)
    rw [Int.neg_tdiv] at hquot
    have hright : 0 < (x₂ - x₁) * y₁ := Int.mul_pos (by omega) hpos
    constructor
    · intro _
      omega
    · intro _
      omega

theorem tdiv_bounds (a : Int) {w : Int} (hw : 0 < w) : a - w < w * a.tdiv w ∧ w * a.tdiv w < a + w := by
  have hdiv := Int.mul_tdiv_add_tmod a w
  have hlow := Int.lt_tmod_of_pos a hw
  have hhigh := Int.tmod_lt_of_pos a hw
  omega

/-- Of two lines over the same points the one that is above the other by at least 1 stays above it when rounded. -/
theorem line_le_line {z₁ z₂ : Int} (hx : x₁ < x₂)
    (hgap : x₂ - x₁ ≤ (x₂ - x₁) * (z₁ - y₁) + (X - x₁) * ((z₂ - z₁) - (y₂ - y₁))) :
    line x₁ x₂ y₁ y₂ X ≤ line x₁ x₂ z₁ z₂ X := by
  obtain ⟨-, hlow⟩ := tdiv_bounds ((X - x₁) * (y₂ - y₁)) (w := x₂ - x₁) (by omega)
  obtain ⟨hhigh, -⟩ := tdiv_bounds ((X - x₁) * (z₂ - z₁)) (w := x₂ - x₁) (by omega)
  unfold line
  rw [Int.mul_sub, Int.mul_sub (X - x₁)] at hgap
  generalize ((X - x₁) * (y₂ - y₁)).tdiv (x₂ - x₁) = p at *
  generalize ((X - x₁) * (z₂ - z₁)).tdiv (x₂ - x₁) = q at *
  have hlt : (x₂ - x₁) * (p + y₁) < (x₂ - x₁) * (q + z₁ + 1) := by
    rw [Int.mul_add, Int.mul_add, Int.mul_add, Int.mul_one]
    omega
  exact Int.le_of_lt_add_one (Int.lt_of_mul_lt_mul_left hlt (by omega))

/-- What is at least `g` at both ends of an interval is so in between, if it changes in proportion. -/
theorem le_of_ends {g a c lo hi : Int} (hlow : g ≤ a + (lo - x₁) * c) (hhigh : g ≤ a + (hi - x₁) * c) (h : lo ≤ X)
    (h' : X ≤ hi) : g ≤ a + (X - x₁) * c := by
  obtain hc | hc := Int.le_total 0 c
  · have := Int.mul_le_mul_of_nonneg_right (show lo - x₁ ≤ X - x₁ by omega) hc
    omega
  · have := Int.mul_le_mul_of_nonpos_right (show X - x₁ ≤ hi - x₁ by omega) hc
    omega

end

/-! ## All segments -/

/-- `X` lies on the `i`-th of `n` segments, the first and the last of which have no end. -/
structure OnSegment (x : Nat → Int) (n i : Nat) (X : Int) : Prop where
  lt : i < n
  left : 0 < i → x i ≤ X
  right : i + 1 < n → X ≤ x (i + 1)

/-- The line of the `i`-th segment. -/
def segment (x y : Nat → Int) (i : Nat) (X : Int) : Int := line (x i) (x (i + 1)) (y i) (y (i + 1)) X

section
variable {x y : Nat → Int} {n i j k : Nat} {X X' : Int}

theorem le_of_steps (h : ∀ i < n, y i ≤ y (i + 1)) (hij : i ≤ j) (hj : j ≤ n) : y i ≤ y j := by
  induction j with
  | zero =>
    obtain rfl := Nat.le_zero.1 hij
    exact Int.le_refl _
  | succ j ih =>
    obtain rfl | hlt := Nat.eq_or_lt_of_le hij
    · exact Int.le_refl _
    · exact Int.le_trans (ih (Nat.le_of_lt_succ hlt) (by omega)) (h j (by omega))

theorem lt_of_steps (h : ∀ i < n, x i < x (i + 1)) (hij : i < j) (hj : j ≤ n) : x i < x j :=
  Int.lt_of_lt_of_le (h i (by omega)) (le_of_steps (fun k hk => Int.le_of_lt (h k hk)) hij hj)

variable (hx : ∀ i < n, x i < x (i + 1))
include hx

/-- The interpolation passes through the knots. -/
theorem segment_knot (h : OnSegment x n i (x k)) (hk : k ≤ n) : segment x y i (x k) = y k := by
  have hlt := h.lt
  obtain hbelow | rfl | habove := Nat.lt_trichotomy k i
  · exact absurd (h.left (by omega)) (Int.not_le.2 (lt_of_steps hx hbelow (by omega)))
  · exact line_left
  · obtain rfl | hfar := Nat.eq_or_lt_of_le (Nat.succ_le_of_lt habove)
    · exact line_right (Int.ne_of_lt (hx i hlt))
    · exact absurd (h.right (by omega)) (Int.not_le.2 (lt_of_steps hx hfar hk))

/-- Two segments that meet agree. -/
theorem segment_unique (h : OnSegment x n i X) (h' : OnSegment x n j X) : segment x y i X = segment x y j X := by
  have hmeet : ∀ {i j : Nat}, OnSegment x n i X → OnSegment x n j X → i < j → X = x j := by
    intro i j h h' hij
    have hlt := h'.lt
    have hright := h.right (by omega)
    have hleft := h'.left (by omega)
    have hknots : x (i + 1) ≤ x j := le_of_steps (fun k hk => Int.le_of_lt (hx k hk)) hij (by omega)
    omega
  obtain hij | rfl | hji := Nat.lt_trichotomy i j
  · obtain rfl := hmeet h h' hij
    exact (segment_knot hx h (Nat.le_of_lt h'.lt)).trans (segment_knot hx h' (Nat.le_of_lt h'.lt)).symm
  · rfl
  · obtain rfl := hmeet h' h hji
    exact (segment_knot hx h (Nat.le_of_lt h.lt)).trans (segment_knot hx h' (Nat.le_of_lt h.lt)).symm

/-- It is nondecreasing when the values at the knots are. -/
theorem segment_mono (hy : ∀ i < n, y i ≤ y (i + 1)) (h : OnSegment x n i X) (h' : OnSegment x n j X') (hX : X ≤ X') :
    segment x y i X ≤ segment x y j X' := by
  have hi := h.lt
  have hj := h'.lt
  obtain hij | rfl | hji := Nat.lt_trichotomy i j
  · calc segment x y i X ≤ segment x y i (x (i + 1)) := line_mono (hx i hi) (hy i hi) (h.right (by omega))
      _ = y (i + 1) := line_right (Int.ne_of_lt (hx i hi))
      _ ≤ y j := le_of_steps hy hij (by omega)
      _ = segment x y j (x j) := line_left.symm
      _ ≤ segment x y j X' := line_mono (hx j hj) (hy j hj) (h'.left (by omega))
  · exact line_mono (hx i hi) (hy i hi) hX
  · -- both are the knot where the one segment ends and the other begins
    have hleft := h.left (by omega)
    have hright := h'.right (by omega)
    have hknots : x (j + 1) ≤ x i := le_of_steps (fun k hk => Int.le_of_lt (hx k hk)) hji (by omega)
    obtain rfl : X = X' := by omega
    exact Int.le_of_eq (segment_unique hx h h')

end

/-! ## Finding the segment -/

section
variable {x : Nat → Int} {n : Nat} {X : Int}

theorem exists_between (hlow : x 0 ≤ X) (hhigh : X ≤ x n) (hn : 0 < n) : ∃ i < n, x i ≤ X ∧ X ≤ x (i + 1) := by
  induction n with
  | zero => omega
  | succ n ih =>
    obtain hlast | hbefore := Int.le_total (x n) X
    · exact ⟨n, Nat.lt_succ_self n, hlast, hhigh⟩
    · obtain rfl | hpos := Nat.eq_zero_or_pos n
      · exact ⟨0, Nat.lt_succ_self 0, hlow, hhigh⟩
      · obtain ⟨i, hi, hbetween⟩ := ih hbefore hpos
        exact ⟨i, Nat.lt_succ_of_lt hi, hbetween⟩

/-- The first segment that a search finds. -/
theorem onSegment_findIdx {p : Nat → Bool} (hp : ∀ i < n, p i = true ↔ x i ≤ X ∧ X ≤ x (i + 1)) (hlow : x 0 ≤ X)
    (hhigh : X ≤ x n) (hn : 0 < n) : OnSegment x n ((List.range n).findIdx p) X := by
  obtain ⟨i, hi, hbetween⟩ := exists_between hlow hhigh hn
  have hlt : (List.range n).findIdx p < (List.range n).length :=
    List.findIdx_lt_length_of_exists ⟨i, List.mem_range.2 hi, (hp i hi).2 hbetween⟩
  have hfound := List.findIdx_getElem (w := hlt)
  rw [List.getElem_range] at hfound
  rw [List.length_range] at hlt
  obtain ⟨hleft, hright⟩ := (hp _ hlt).1 hfound
  exact ⟨hlt, fun _ => hleft, fun _ => hright⟩

end

end Occ.Piecewise
