/-
A quantity that follows commands in small units with big steps: what a command leaves over is kept, and makes a step of its own
when it is enough for one. The quantity goes the way of its commands, and as long as no limit is hit nothing of them is lost.
-/
import Mathlib.Tactic.Ring
import Mathlib.Tactic.Common

namespace Occ.Residue

/-- Steps of `step` for `scale` units each, at most `limit` of them for one command, between `low` and `high`. -/
structure Follower where
  scale : Int
  step : Int
  limit : Int
  low : Int
  high : Int
  scale_pos : 0 < scale
  step_nonneg : 0 ≤ step
  limit_pos : 1 ≤ limit
  ordered : low ≤ high

/-- The quantity, and what is left over. -/
structure Position where
  pos : Int
  res : Int

section
variable (f : Follower) (s : Position) (a : Int)

/-- What is left over of the command `a` and earlier ones makes a step. -/
def carry : Int := (s.res + a % f.scale) / f.scale

/-- The position without limits. -/
def target (n : Int) : Int := s.pos + f.step * (n + carry f s a)

def next : Position where
  pos := max f.low (min f.high (target f s a (max (-f.limit) (min f.limit (a / f.scale)))))
  res := (s.res + a) % f.scale

/-- The position is between the limits, and less than a step is left over. -/
structure Position.Inside : Prop where
  low : f.low ≤ s.pos
  high : s.pos ≤ f.high
  res_nonneg : 0 ≤ s.res
  res_lt : s.res < f.scale

/-- A command hits no limit. -/
structure Free : Prop where
  limit : -f.limit ≤ a / f.scale ∧ a / f.scale ≤ f.limit
  range : f.low ≤ target f s a (a / f.scale) ∧ target f s a (a / f.scale) ≤ f.high

end

section
variable {f : Follower} {s : Position} {a : Int}

theorem inside_next (f : Follower) (s : Position) (a : Int) : (next f s a).Inside f := by
  have hordered := f.ordered
  refine ⟨?_, ?_, Int.emod_nonneg _ (Int.ne_of_gt f.scale_pos), Int.emod_lt_of_pos _ f.scale_pos⟩
  · show f.low ≤ max _ _
    omega
  · show max _ _ ≤ f.high
    omega

theorem carry_bounds (h : s.Inside f) : 0 ≤ carry f s a ∧ carry f s a ≤ 1 := by
  have hpos := f.scale_pos
  have hnonneg := Int.emod_nonneg a (Int.ne_of_gt hpos)
  have hlt := Int.emod_lt_of_pos a hpos
  have hres := h.res_nonneg
  have hres' := h.res_lt
  unfold carry
  constructor
  · exact Int.ediv_nonneg (by omega) (by omega)
  · refine Int.lt_add_one_iff.1 ((Int.ediv_lt_iff_lt_mul hpos).2 ?_)
    omega

/-- What is left over, with the step that it may make. -/
theorem scale_mul_carry (f : Follower) (s : Position) (a : Int) :
    f.scale * carry f s a + (next f s a).res = s.res + a % f.scale := by
  have hmod : (next f s a).res = (s.res + a % f.scale) % f.scale := (Int.add_emod_emod s.res a f.scale).symm
  rw [hmod]
  exact Int.mul_ediv_add_emod _ _

/-- A command for nothing. -/
theorem next_zero (h : s.Inside f) : next f s 0 = s := by
  obtain ⟨hlow, hhigh, hnonneg, hlt⟩ := h
  have hlimit := f.limit_pos
  have hcarry : carry f s 0 = 0 := by
    unfold carry
    rw [Int.zero_emod, Int.add_zero]
    exact Int.ediv_eq_zero_of_lt hnonneg hlt
  have hres : (s.res + 0) % f.scale = s.res := by
    rw [Int.add_zero]
    exact Int.emod_eq_of_lt hnonneg hlt
  have hpos : max f.low (min f.high (target f s 0 (max (-f.limit) (min f.limit (0 / f.scale))))) = s.pos := by
    have hzero : max (-f.limit) (min f.limit (0 / f.scale)) = 0 := by
      rw [Int.zero_ediv]
      omega
    unfold target
    rw [hcarry, hzero, Int.add_zero, Int.mul_zero]
    omega
  exact congrArg₂ Position.mk hpos hres

/-- A command that is not positive does not raise the position. -/
theorem next_le (h : s.Inside f) (ha : a ≤ 0) : (next f s a).pos ≤ s.pos := by
  obtain rfl | ha := Int.le_iff_eq_or_lt.1 ha
  · rw [next_zero h]
  obtain ⟨-, hcarry⟩ := carry_bounds (a := a) h
  have hquot : a / f.scale < 0 := Int.ediv_neg_of_neg_of_pos ha f.scale_pos
  have hlimit := f.limit_pos
  have hdown : f.step * (max (-f.limit) (min f.limit (a / f.scale)) + carry f s a) ≤ 0 :=
    Int.mul_nonpos_of_nonneg_of_nonpos f.step_nonneg (by omega)
  have hlow := h.low
  show max f.low (min f.high (target f s a _)) ≤ s.pos
  unfold target
  omega

/-- A command that is not negative does not lower the position. -/
theorem le_next (h : s.Inside f) (ha : 0 ≤ a) : s.pos ≤ (next f s a).pos := by
  obtain ⟨hcarry, -⟩ := carry_bounds (a := a) h
  have hquot : 0 ≤ a / f.scale := Int.ediv_nonneg ha (Int.le_of_lt f.scale_pos)
  have hlimit := f.limit_pos
  have hup : 0 ≤ f.step * (max (-f.limit) (min f.limit (a / f.scale)) + carry f s a) :=
    Int.mul_nonneg f.step_nonneg (by omega)
  have hhigh := h.high
  show s.pos ≤ max f.low (min f.high (target f s a _))
  unfold target
  omega

/-- Nothing of a command that hits no limit is lost. -/
theorem conserved (h : Free f s a) :
    f.step * a = f.scale * ((next f s a).pos - s.pos) + f.step * ((next f s a).res - s.res) := by
  obtain ⟨hlimit, hrange⟩ := h
  have hbounded : max (-f.limit) (min f.limit (a / f.scale)) = a / f.scale := by omega
  have hpos : (next f s a).pos = s.pos + f.step * (a / f.scale + carry f s a) := by
    show max f.low (min f.high (target f s a _)) = _
    rw [hbounded]
    unfold target at hrange ⊢
    omega
  have hres := scale_mul_carry f s a
  have hdiv := Int.mul_ediv_add_emod a f.scale
  calc f.step * a = f.step * (f.scale * (a / f.scale) + a % f.scale) := by rw [hdiv]
    _ = f.scale * (f.step * (a / f.scale + carry f s a)) + f.step * (s.res + a % f.scale - f.scale * carry f s a - s.res) := by
      ring
    _ = f.scale * ((next f s a).pos - s.pos) + f.step * ((next f s a).res - s.res) := by
      rw [hpos, ← hres]
      ring

end

end Occ.Residue
