/-
Scaling of leakage currents by temperature: the multipliers grow with the temperature when their table does, and are positive
down to where the line through its first two entries reaches 0; currents are then scaled without overflow.
-/
import Occ.Wof.Leakage
import Mathlib.Tactic.IntervalCases
import Mathlib.Algebra.Order.Group.Unbundled.Int
import Mathlib.Algebra.Order.Ring.Abs

namespace Occ.Wof

open Piecewise (line OnSegment)

/-! ## Arithmetic -/

section
variable {x y : BitVec 32}

theorem bmod_word {z : Int} (hlow : -2 ^ 31 ≤ z) (hhigh : z < 2 ^ 31) : z.bmod (2 ^ 32) = z := by
  apply Int.bmod_eq_of_le
  · exact hlow
  · exact hhigh

theorem toInt_sub_of (hlow : -2 ^ 31 ≤ x.toInt - y.toInt) (hhigh : x.toInt - y.toInt < 2 ^ 31) :
    (x - y).toInt = x.toInt - y.toInt := by
  rw [BitVec.toInt_sub, bmod_word hlow hhigh]

theorem toInt_add_of (hlow : -2 ^ 31 ≤ x.toInt + y.toInt) (hhigh : x.toInt + y.toInt < 2 ^ 31) :
    (x + y).toInt = x.toInt + y.toInt := by
  rw [BitVec.toInt_add, bmod_word hlow hhigh]

theorem toInt_mul_of (hlow : -2 ^ 31 ≤ x.toInt * y.toInt) (hhigh : x.toInt * y.toInt < 2 ^ 31) :
    (x * y).toInt = x.toInt * y.toInt := by
  rw [BitVec.toInt_mul, bmod_word hlow hhigh]

theorem tdiv_range {z d : Int} (hd : 0 < d) (hlow : -2 ^ 31 ≤ z) (hhigh : z < 2 ^ 31) :
    -2 ^ 31 ≤ z.tdiv d ∧ z.tdiv d < 2 ^ 31 := by
  have habs := Int.natAbs_tdiv_le_natAbs z d
  obtain hz | hz := Int.le_total 0 z
  · have := Int.tdiv_nonneg hz (Int.le_of_lt hd)
    omega
  · have := Int.tdiv_nonneg (a := -z) (by omega) (Int.le_of_lt hd)
    rw [Int.neg_tdiv] at this
    omega

theorem toInt_sdiv_of (hy : 0 < y.toInt) : (x.sdiv y).toInt = x.toInt.tdiv y.toInt := by
  have hlow := BitVec.le_toInt x
  have hhigh := BitVec.toInt_lt (x := x)
  obtain ⟨hlow', hhigh'⟩ := tdiv_range hy hlow hhigh
  rw [BitVec.toInt_sdiv, bmod_word hlow' hhigh']

end

/-- An interpolation is exact when its differences, its product and its result fit. -/
theorem toInt_interpolateLinear {X x1 x2 y1 y2 : BitVec 32} (hx : x1.toInt < x2.toInt)
    (hdx : x2.toInt - x1.toInt < 2 ^ 31)
    (hX : -2 ^ 31 ≤ X.toInt - x1.toInt ∧ X.toInt - x1.toInt < 2 ^ 31)
    (hy : -2 ^ 31 ≤ y2.toInt - y1.toInt ∧ y2.toInt - y1.toInt < 2 ^ 31)
    (hprod : -2 ^ 31 ≤ (X.toInt - x1.toInt) * (y2.toInt - y1.toInt) ∧
      (X.toInt - x1.toInt) * (y2.toInt - y1.toInt) < 2 ^ 31)
    (hline : -2 ^ 31 ≤ line x1.toInt x2.toInt y1.toInt y2.toInt X.toInt ∧
      line x1.toInt x2.toInt y1.toInt y2.toInt X.toInt < 2 ^ 31) :
    (interpolateLinear X x1 x2 y1 y2).toInt = line x1.toInt x2.toInt y1.toInt y2.toInt X.toInt := by
  have hne : x2 ≠ x1 := by
    rintro rfl
    omega
  have hdx' : (x2 - x1).toInt = x2.toInt - x1.toInt := toInt_sub_of (by omega) hdx
  have hX' : (X - x1).toInt = X.toInt - x1.toInt := toInt_sub_of hX.1 hX.2
  have hy' : (y2 - y1).toInt = y2.toInt - y1.toInt := toInt_sub_of hy.1 hy.2
  unfold interpolateLinear
  by_cases heq : y2 = y1
  · subst heq
    rw [if_pos (.inr rfl), Piecewise.line_const]
  · rw [if_neg (not_or.2 ⟨hne, heq⟩)]
    have hmul : ((X - x1) * (y2 - y1)).toInt = (X.toInt - x1.toInt) * (y2.toInt - y1.toInt) := by
      rw [toInt_mul_of (by rw [hX', hy']; exact hprod.1) (by rw [hX', hy']; exact hprod.2), hX', hy']
    have hquot : (((X - x1) * (y2 - y1)).sdiv (x2 - x1)).toInt =
        ((X.toInt - x1.toInt) * (y2.toInt - y1.toInt)).tdiv (x2.toInt - x1.toInt) := by
      rw [toInt_sdiv_of (by omega), hmul, hdx']
    rw [toInt_add_of (by rw [hquot]; exact hline.1) (by rw [hquot]; exact hline.2), hquot]
    rfl

/-! ## The multiplier of a table -/

/-- The differences of temperatures in the table. -/
def multKnot (i : Nat) : Int := 5 * i - 70

theorem multKnot_steps : ∀ i < 20, multKnot i < multKnot (i + 1) := by
  intro i _
  unfold multKnot
  omega

/-- A table with the values `y`. -/
structure TableOf (t : MultTable) (y : Nat → Int) : Prop where
  delta : ∀ i ≤ 20, (t.delta i).toInt = multKnot i
  mult : ∀ i ≤ 20, (t.mult i).toInt = y i

theorem toInt_signExtend_range (x : BitVec 16) : (x.signExtend 32).toInt = x.toInt ∧ -2 ^ 15 ≤ x.toInt ∧
    x.toInt < 2 ^ 15 :=
  ⟨BitVec.toInt_signExtend_of_le (by decide), BitVec.le_toInt x, BitVec.toInt_lt⟩

section
variable {t : MultTable} {y : Nat → Int} {temp : BitVec 32}

theorem TableOf.range (h : TableOf t y) {i : Nat} (hi : i ≤ 20) : -2 ^ 15 ≤ y i ∧ y i < 2 ^ 15 := by
  have hval := h.mult i hi
  obtain ⟨heq, hlow, hhigh⟩ := toInt_signExtend_range (t.getD i (0, 0)).2
  unfold MultTable.mult at hval
  rw [heq] at hval
  omega

theorem multIdx_onSegment (h : TableOf t y) : OnSegment multKnot 20 (multIdx t temp) temp.toInt := by
  have hdelta : ∀ i, i ≤ 20 → (t.delta i).toInt = multKnot i := h.delta
  have hfirst := hdelta 0 (by decide)
  have hlast := hdelta 20 (by decide)
  unfold multIdx
  split_ifs with hbelow habove
  · rw [BitVec.slt_iff_toInt_lt, hfirst] at hbelow
    refine ⟨by decide, fun h => absurd h (Nat.lt_irrefl 0), fun _ => ?_⟩
    have := multKnot_steps 0 (by decide)
    omega
  · rw [BitVec.sle_iff_toInt_le] at habove
    have habove' : multKnot 20 ≤ temp.toInt := hlast ▸ habove
    refine ⟨by decide, fun _ => ?_, fun h => absurd h (by decide)⟩
    have := multKnot_steps 19 (by decide)
    exact Int.le_of_lt (Int.lt_of_lt_of_le this habove')
  · rw [BitVec.slt_iff_toInt_lt, hfirst] at hbelow
    rw [BitVec.sle_iff_toInt_le] at habove
    have habove' : ¬multKnot 20 ≤ temp.toInt := hlast ▸ habove
    refine Piecewise.onSegment_findIdx (fun i hi => ?_) (by omega) (by omega) (by decide)
    rw [Bool.and_eq_true, BitVec.sle_iff_toInt_le, BitVec.sle_iff_toInt_le, hdelta i (by omega), hdelta (i + 1) (by omega)]

/-- Near the table the multiplier is its interpolation. -/
theorem toInt_calculateMultiplier (h : TableOf t y) (hlow : -1000 ≤ temp.toInt) (hhigh : temp.toInt ≤ 1000) :
    (calculateMultiplier t temp).toInt = Piecewise.segment multKnot y (multIdx t temp) temp.toInt := by
  have hseg := @multIdx_onSegment t y temp h
  have hi := hseg.lt
  unfold calculateMultiplier
  dsimp only
  generalize multIdx t temp = i at *
  have hx₁ := h.delta i (by omega)
  have hx₂ := h.delta (i + 1) (by omega)
  have hy₁ := h.mult i (by omega)
  have hy₂ := h.mult (i + 1) (by omega)
  obtain ⟨hylow, hyhigh⟩ := h.range (i := i) (by omega)
  obtain ⟨hylow', hyhigh'⟩ := h.range (i := i + 1) (by omega)
  have hknot : multKnot (i + 1) = multKnot i + 5 ∧ -70 ≤ multKnot i ∧ multKnot i ≤ 25 := by
    unfold multKnot
    omega
  obtain ⟨hstep, hknotLow, hknotHigh⟩ := hknot
  have hprod : -2 ^ 30 ≤ (temp.toInt - multKnot i) * (y (i + 1) - y i) ∧
      (temp.toInt - multKnot i) * (y (i + 1) - y i) ≤ 2 ^ 30 := by
    have habs : |(temp.toInt - multKnot i) * (y (i + 1) - y i)| ≤ 1070 * 65536 := by
      rw [abs_mul]
      exact Int.mul_le_mul (abs_le.2 ⟨by omega, by omega⟩) (abs_le.2 ⟨by omega, by omega⟩) (abs_nonneg _) (by decide)
    have := abs_le.1 habs
    omega
  have hline : -2 ^ 31 ≤ line (multKnot i) (multKnot (i + 1)) (y i) (y (i + 1)) temp.toInt ∧
      line (multKnot i) (multKnot (i + 1)) (y i) (y (i + 1)) temp.toInt < 2 ^ 31 := by
    unfold line
    generalize (temp.toInt - multKnot i) * (y (i + 1) - y i) = prod at *
    have hfive : multKnot (i + 1) - multKnot i = 5 := by omega
    rw [hfive]
    have := Piecewise.tdiv_bounds prod (w := 5) (by decide)
    omega
  unfold Piecewise.segment
  rw [← hx₁, ← hx₂, ← hy₁, ← hy₂] at *
  exact toInt_interpolateLinear (by omega) (by omega) (by omega) (by omega) (by omega) hline

end

/-! ## The table for a full leakage -/

def leakKnot (j : Nat) : Int := (mftFullLeakage 0 j).toInt
def leakRow (i j : Nat) : Int := (mftFullLeakage (i + 1) j).toInt

/-- A row of the table for a full leakage. -/
def leakColumn (fullLeakage : BitVec 32) (i : Nat) : Int :=
  Piecewise.segment leakKnot (leakRow i) (leakageIdx fullLeakage) fullLeakage.toInt

theorem leakKnot_steps : ∀ j < 9, leakKnot j < leakKnot (j + 1) := by decide

section
variable {l : BitVec 32}

theorem toInt_of_small (h : l.toNat < 2 ^ 31) : l.toInt = l.toNat := BitVec.toInt_eq_toNat_of_lt (by omega)

theorem leakKnot_eq : ∀ j ≤ 9, leakKnot j = (mftFullLeakage 0 j).toNat := by decide

theorem leakageIdx_onSegment (h : l.toNat < 2 ^ 31) : OnSegment leakKnot 9 (leakageIdx l) l.toInt := by
  have hl := toInt_of_small h
  have hfirst := leakKnot_eq 0 (by decide)
  have hlast := leakKnot_eq 9 (by decide)
  unfold leakageIdx
  split_ifs with hbelow habove
  · have hbelow' : l.toNat < (mftFullLeakage 0 0).toNat := hbelow
    refine ⟨by decide, fun h => absurd h (Nat.lt_irrefl 0), fun _ => ?_⟩
    have := leakKnot_steps 0 (by decide)
    omega
  · have habove' : (mftFullLeakage 0 9).toNat ≤ l.toNat := habove
    refine ⟨by decide, fun _ => ?_, fun h => absurd h (by decide)⟩
    have hstep : leakKnot 8 < leakKnot 9 := leakKnot_steps 8 (by decide)
    omega
  · have hbelow' : ¬l.toNat < (mftFullLeakage 0 0).toNat := hbelow
    have habove' : ¬(mftFullLeakage 0 9).toNat ≤ l.toNat := habove
    refine Piecewise.onSegment_findIdx (fun i hi => ?_) (by omega) (by omega) (by decide)
    rw [decide_eq_true_iff, BitVec.le_def, BitVec.le_def, leakKnot_eq i (by omega), leakKnot_eq (i + 1) (by omega), hl]
    omega

theorem leakRow_steps : ∀ i < 21, (∀ j < 9, |leakRow i (j + 1) - leakRow i j| ≤ 110) ∧
    |leakRow i (8 + 1) - leakRow i 8| ≤ 20 ∧ ∀ j ≤ 9, 0 ≤ leakRow i j ∧ leakRow i j ≤ 2203 := by decide

theorem leakKnot_bounds : ∀ j < 9, leakKnot (j + 1) = leakKnot j + 10000 ∧ 20000 ≤ leakKnot j ∧ leakKnot j ≤ 100000 := by
  decide

/-- What the largest full leakage can make of an entry. -/
theorem leakColumn_bounds (h : l.toNat ≤ 7864200) {i : Nat} (hi : i < 21) :
    let d := (l.toInt - leakKnot (leakageIdx l)) * (leakRow i (leakageIdx l + 1) - leakRow i (leakageIdx l))
    (-200000000 ≤ d ∧ d ≤ 200000000) ∧ -20000 ≤ leakColumn l i ∧ leakColumn l i ≤ 20000 := by
  have hseg := leakageIdx_onSegment (l := l) (by omega)
  have hl := toInt_of_small (l := l) (by omega)
  obtain ⟨hsteps, hlastStep, hrows⟩ := leakRow_steps i hi
  have hlt := hseg.lt
  unfold leakColumn Piecewise.segment line
  generalize leakageIdx l = j at *
  obtain ⟨hwidth, hknotLow, hknotHigh⟩ := leakKnot_bounds j hlt
  have hrow := hrows j (by omega)
  have hten : leakKnot (j + 1) - leakKnot j = 10000 := by omega
  dsimp only
  rw [hten]
  have hprod : |(l.toInt - leakKnot j) * (leakRow i (j + 1) - leakRow i j)| ≤ 160000000 := by
    rw [abs_mul]
    by_cases hj : j = 8
    · subst hj
      have := Int.mul_le_mul (abs_le.2 ⟨by omega, by omega⟩ : |l.toInt - leakKnot 8| ≤ 7864200) hlastStep (abs_nonneg _)
        (by decide)
      omega
    · have hright := hseg.right (by omega)
      have := Int.mul_le_mul (abs_le.2 ⟨by omega, by omega⟩ : |l.toInt - leakKnot j| ≤ 100000) (hsteps j hlt) (abs_nonneg _)
        (by decide)
      omega
  obtain ⟨hlow, hhigh⟩ := abs_le.1 hprod
  generalize (l.toInt - leakKnot j) * (leakRow i (j + 1) - leakRow i j) = d at *
  have := Piecewise.tdiv_bounds d (w := 10000) (by decide)
  omega

theorem getD_scaledTable (i : Nat) (hi : i < 21) : (scaledTable l).getD i (0, 0) =
    ((wofIddqMultTable.getD i (0, 0)).1, (interpolateLinear l (mftFullLeakage 0 (leakageIdx l))
      (mftFullLeakage 0 (leakageIdx l + 1)) (mftFullLeakage (i + 1) (leakageIdx l))
      (mftFullLeakage (i + 1) (leakageIdx l + 1))).setWidth 16) := by
  rw [List.getD_eq_getElem?_getD, scaledTable, List.getElem?_map, List.getElem?_range (show i < wofIddqMultTableN from hi)]
  rfl

theorem delta_wofIddqMultTable : ∀ i ≤ 20, (wofIddqMultTable.delta i).toInt = multKnot i := by decide

theorem toInt_entry {x : BitVec 32} (hlow : -2 ^ 15 ≤ x.toInt) (hhigh : x.toInt < 2 ^ 15) :
    ((x.setWidth 16).signExtend 32).toInt = x.toInt := by
  obtain ⟨heq, -, -⟩ := toInt_signExtend_range (x.setWidth 16)
  have hbmod := Int.bmod_bmod_of_dvd (a := (x.toNat : Int)) (show 2 ^ 16 ∣ 2 ^ 32 by decide)
  rw [heq, BitVec.toInt_setWidth, ← hbmod, ← BitVec.toInt_eq_toNat_bmod]
  apply Int.bmod_eq_of_le
  · exact hlow
  · exact hhigh

theorem tableOf_scaledTable (h : l.toNat ≤ 7864200) : TableOf (scaledTable l) (leakColumn l) := by
  constructor
  · intro i hi
    unfold MultTable.delta
    rw [getD_scaledTable i (by omega)]
    exact delta_wofIddqMultTable i hi
  · intro i hi
    obtain ⟨hprod, hline⟩ := leakColumn_bounds h (i := i) (by omega)
    have hlt := (leakageIdx_onSegment (l := l) (by omega)).lt
    have hl := toInt_of_small (l := l) (by omega)
    obtain ⟨hwidth, hknotLow, hknotHigh⟩ := leakKnot_bounds _ hlt
    obtain ⟨-, -, hrows⟩ := leakRow_steps i (by omega)
    have hrow := hrows (leakageIdx l) (by omega)
    have hrow' := hrows (leakageIdx l + 1) (by omega)
    have hentry : (interpolateLinear l (mftFullLeakage 0 (leakageIdx l)) (mftFullLeakage 0 (leakageIdx l + 1))
        (mftFullLeakage (i + 1) (leakageIdx l)) (mftFullLeakage (i + 1) (leakageIdx l + 1))).toInt = leakColumn l i := by
      unfold leakColumn Piecewise.segment leakKnot leakRow at *
      exact toInt_interpolateLinear (by omega) (by omega) (by omega) (by omega) (by omega) (by omega)
    unfold MultTable.mult
    rw [getD_scaledTable i (by omega)]
    dsimp only
    rw [toInt_entry (by omega) (by omega), hentry]

end

/-! ## When the multipliers grow -/

/-- Two rows that follow each other are at least 1 apart at `X`, on the lines of a column. -/
def RowGap (i j : Nat) (X : Int) : Prop :=
  10000 ≤ 10000 * (leakRow (i + 1) j - leakRow i j) +
    (X - leakKnot j) * ((leakRow (i + 1) (j + 1) - leakRow (i + 1) j) - (leakRow i (j + 1) - leakRow i j))

instance (i j : Nat) (X : Int) : Decidable (RowGap i j X) := inferInstanceAs (Decidable (_ ≤ _))

theorem rowGap_ends : ∀ j < 9, ∀ i < 20, j = 8 ∧ i = 18 ∨
    RowGap i j (if j = 0 then 0 else leakKnot j) ∧ RowGap i j (if j = 8 then 410000 else leakKnot (j + 1)) := by
  decide

/-- `calculate_temperature_scaling_08V` gets a table whose multipliers grow. -/
def SortedLeakage (fullLeakage : Nat) : Prop :=
  16 * (fullLeakage - 100000) / 10000 ≤ 153 + 11 * (fullLeakage - 100000) / 10000

section
variable {l : BitVec 32}

theorem leak_between (h : l.toNat ≤ 410000) :
    (if leakageIdx l = 0 then 0 else leakKnot (leakageIdx l)) ≤ l.toInt ∧
      l.toInt ≤ if leakageIdx l = 8 then 410000 else leakKnot (leakageIdx l + 1) := by
  have hseg := leakageIdx_onSegment (l := l) (by omega)
  have hl := toInt_of_small (l := l) (by omega)
  have hlt := hseg.lt
  constructor
  · split
    · omega
    · exact hseg.left (by omega)
  · split
    · omega
    · exact hseg.right (by omega)

theorem leakColumn_le (h : l.toNat ≤ 410000) {i : Nat} (hi : i < 20) (hne : ¬(leakageIdx l = 8 ∧ i = 18)) :
    leakColumn l i ≤ leakColumn l (i + 1) := by
  have hlt := (leakageIdx_onSegment (l := l) (by omega)).lt
  obtain ⟨hwidth, -, -⟩ := leakKnot_bounds _ hlt
  obtain ⟨hlow, hhigh⟩ := (rowGap_ends _ hlt i hi).resolve_left hne
  obtain ⟨hleft, hright⟩ := leak_between h
  have hten : leakKnot (leakageIdx l + 1) - leakKnot (leakageIdx l) = 10000 := by omega
  unfold leakColumn Piecewise.segment
  apply Piecewise.line_le_line (by omega)
  rw [hten]
  exact Piecewise.le_of_ends hlow hhigh hleft hright

theorem leakRow_ends : ∀ j < 9, ∀ X ∈ [if j = 0 then 0 else leakKnot j, if j = 8 then 410000 else leakKnot (j + 1)],
    10000 ≤ 10000 * (leakRow 0 j - 100) + (X - leakKnot j) * (leakRow 0 (j + 1) - leakRow 0 j - (100 - 100)) ∧
    10000 ≤ 10000 * (2500 - leakRow 20 j) + (X - leakKnot j) * (2500 - 2500 - (leakRow 20 (j + 1) - leakRow 20 j)) := by
  decide

theorem leakColumn_ends (h : l.toNat ≤ 410000) : 100 ≤ leakColumn l 0 ∧ leakColumn l 20 ≤ 2500 := by
  have hlt := (leakageIdx_onSegment (l := l) (by omega)).lt
  obtain ⟨hwidth, -, -⟩ := leakKnot_bounds _ hlt
  have hends := leakRow_ends _ hlt
  rw [List.forall_mem_cons, List.forall_mem_singleton] at hends
  obtain ⟨⟨hlow, hlow'⟩, hhigh, hhigh'⟩ := hends
  obtain ⟨hleft, hright⟩ := leak_between h
  have hten : leakKnot (leakageIdx l + 1) - leakKnot (leakageIdx l) = 10000 := by omega
  have hstep : leakKnot (leakageIdx l) < leakKnot (leakageIdx l + 1) := by omega
  unfold leakColumn Piecewise.segment
  constructor
  · have hbelow := Piecewise.line_le_line hstep (hten ▸ Piecewise.le_of_ends hlow hhigh hleft hright)
    rwa [Piecewise.line_const] at hbelow
  · have habove := Piecewise.line_le_line hstep (hten ▸ Piecewise.le_of_ends hlow' hhigh' hleft hright)
    rwa [Piecewise.line_const] at habove

theorem leakColumn_last (hidx : leakageIdx l = 8) (hlow : 100000 ≤ l.toNat) (h : l.toNat < 2 ^ 31) :
    leakColumn l 18 ≤ leakColumn l 19 ↔ SortedLeakage l.toNat := by
  have hl := toInt_of_small h
  have hknot : leakKnot 8 = 100000 ∧ leakKnot (8 + 1) = 110000 := by decide
  have hrow : leakRow 18 8 = 1506 ∧ leakRow 18 (8 + 1) = 1495 ∧ leakRow 19 8 = 1659 ∧ leakRow 19 (8 + 1) = 1643 := by
    decide
  have hdown : ∀ k : Nat, ((l.toInt - 100000) * -(k : Int)).tdiv 10000 = -((k * (l.toNat - 100000) / 10000 : Nat) : Int) := by
    intro k
    have hsub : l.toInt - 100000 = ((l.toNat - 100000 : Nat) : Int) := by omega
    rw [hsub, Int.mul_neg, Int.neg_tdiv, Int.mul_comm]
    rfl
  have hwidth : (110000 : Int) - 100000 = 10000 := rfl
  have hstep : (1495 : Int) - 1506 = -((11 : Nat) : Int) := rfl
  have hstep' : (1643 : Int) - 1659 = -((16 : Nat) : Int) := rfl
  unfold leakColumn Piecewise.segment line SortedLeakage
  rw [hidx, hknot.1, hknot.2, hrow.1, hrow.2.1, hrow.2.2.1, hrow.2.2.2, hwidth,
    hstep, hstep', hdown 11, hdown 16]
  omega

/-- The multipliers for a full leakage grow if and only if those for 20 and 25 degrees do. -/
theorem leakColumn_sorted_iff (h : l.toNat ≤ 7864200) :
    (∀ i < 20, leakColumn l i ≤ leakColumn l (i + 1)) ↔ SortedLeakage l.toNat := by
  have hl := toInt_of_small (l := l) (by omega)
  have hseg := leakageIdx_onSegment (l := l) (by omega)
  have hlt := hseg.lt
  by_cases hidx : leakageIdx l = 8
  · have hleft := hseg.left (by omega)
    rw [hidx] at hleft
    have hknot : leakKnot 8 = 100000 := by decide
    have hlast := leakColumn_last hidx (by omega) (by omega)
    constructor
    · intro hsorted
      exact hlast.1 (hsorted 18 (by decide))
    · intro hsorted i hi
      by_cases hi' : i = 18
      · subst hi'
        exact hlast.2 hsorted
      · refine leakColumn_le ?_ hi fun h => hi' h.2
        unfold SortedLeakage at hsorted
        omega
  · have hright := hseg.right (by omega)
    obtain ⟨hwidth, -, hknot⟩ := leakKnot_bounds _ hlt
    constructor
    · intro _
      unfold SortedLeakage
      omega
    · intro _ i hi
      exact leakColumn_le (by omega) hi fun h => hidx h.1

end

/-! ## The law -/

/-- Where the table of multipliers comes from: it is as initialised, or calculated from the currents of all good cores. -/
inductive MultSource
  | p9
  | p9prime (allGoodCoresCachesOn : BitVec 16) (goodNormalCoresPerSort : BitVec 8)
deriving DecidableEq

namespace MultSource

def table : MultSource → Option MultTable
  | p9 => some wofIddqMultTable
  | p9prime current cores => calculateTemperatureScaling08V current cores

/-- The multipliers in the table. -/
def column : MultSource → Nat → Int
  | p9, i => (wofIddqMultTable.mult i).toInt
  | p9prime current cores, i => leakColumn (fullLeakage08V current cores) i

/-- The multipliers grow; for a calculated table up to a full leakage of 406 A. -/
def Sorted : MultSource → Prop
  | p9 => True
  | p9prime current cores => cores ≠ 0 ∧ SortedLeakage (120 * current.toNat / cores.toNat)

instance (src : MultSource) : Decidable src.Sorted := by
  unfold Sorted SortedLeakage
  split <;> infer_instance

/-- The interpolation of the multipliers. -/
def multiplier (src : MultSource) (d : Int) : Int := Piecewise.segment multKnot src.column (min 19 ((d + 70) / 5).toNat) d

end MultSource

/-- A temperature from DTS readings: those with the bit of `DTS_INVALID_MASK` are left out. -/
structure SensorTemp where
  sample : BitVec 16
  valid : sample.toNat < 128

/-- The arguments of a call of `scale` for the caches of a quad, and of one of `scale_and_interpolate`. -/
structure ScaleInput where
  quad : SensorTemp
  nest : SensorTemp
  current : BitVec 16
  row : LeakageRow
  idx : Nat
  idx_lt : idx < 5
  base : SensorTemp
  voltage : BitVec 16

namespace ScaleInput

variable (x : ScaleInput)

def quadDelta : BitVec 16 := x.quad.sample - x.nest.sample
def lowerDelta : BitVec 16 := x.row.deltaTemp x.idx x.base.sample
def upperDelta : BitVec 16 := x.row.deltaTemp (x.idx + 1) x.base.sample

/-- The currents that are scaled, and the differences of temperatures they are scaled for. -/
def scaled : List (BitVec 16 × BitVec 16) :=
  [(x.current, x.quadDelta), (x.row.leak x.idx, x.lowerDelta), (x.row.leak (x.idx + 1), x.upperDelta)]

end ScaleInput

/-- A difference of temperatures that can be. -/
def Produced (d : BitVec 16) : Prop := -127 ≤ d.toInt ∧ d.toInt ≤ 127

/-- A current in 5 mA scaled with the multiplier `m`, in mA. -/
def scaledLeak (current : BitVec 16) (m : Int) : Int := 5 * (current.toNat * m / 1024)

/-- The interpolation of the calls for the multipliers `m` and `m'`. -/
def ScaleInput.product (x : ScaleInput) (m m' : Int) : Int :=
  (x.voltage.toNat - (iddqVoltage x.idx).toNat) *
    (scaledLeak (x.row.leak (x.idx + 1)) m' - scaledLeak (x.row.leak x.idx) m)

def multiplierOf (t : MultTable) (d : BitVec 16) : Int := (calculateMultiplier t (d.signExtend 32)).toInt

structure ScalingLaw (t : MultTable) (x : ScaleInput) : Prop where
  nondecreasing : ∀ d d', Produced d → Produced d' → d.toInt ≤ d'.toInt → multiplierOf t d ≤ multiplierOf t d'
  positive : ∀ c ∈ x.scaled, 0 < multiplierOf t c.2
  scaled : ∀ c ∈ x.scaled, ((scale t c.1 c.2).toNat : Int) = c.1.toNat * multiplierOf t c.2 / 1024
  product : ((x.voltage.setWidth 32 - (iddqVoltage x.idx).setWidth 32) * (scale t (x.row.leak (x.idx + 1)) x.upperDelta * 5 -
    scale t (x.row.leak x.idx) x.lowerDelta * 5)).toInt = x.product (multiplierOf t x.lowerDelta) (multiplierOf t x.upperDelta)
  interpolated : (scaleAndInterpolate t x.row x.idx x.base.sample x.voltage).toInt =
    (line (iddqVoltage x.idx).toNat (iddqVoltage (x.idx + 1)).toNat
      (scaledLeak (x.row.leak x.idx) (multiplierOf t x.lowerDelta))
      (scaledLeak (x.row.leak (x.idx + 1)) (multiplierOf t x.upperDelta)) x.voltage.toNat).tdiv 10

/-- The multipliers grow, no difference of temperatures is so far below -70 that the line through the first two of them has
come down to 0, and the product of the interpolation fits into 32 bits. -/
structure ScalingOk (src : MultSource) (x : ScaleInput) : Prop where
  sorted : src.Sorted
  above : ∀ c ∈ x.scaled, (-70 - c.2.toInt) * (src.column 1 - src.column 0) < 5 * src.column 0
  fits : -2 ^ 31 ≤ x.product (src.multiplier x.lowerDelta.toInt) (src.multiplier x.upperDelta.toInt) ∧
    x.product (src.multiplier x.lowerDelta.toInt) (src.multiplier x.upperDelta.toInt) < 2 ^ 31

/-! ## Sources of tables -/

theorem toNat_fullLeakage08V (g : BitVec 16) (n : BitVec 8) : (fullLeakage08V g n).toNat = 120 * g.toNat / n.toNat ∧
    120 * g.toNat / n.toNat ≤ 7864200 := by
  have hg := g.isLt
  have hn := n.isLt
  have hmul : (g.setWidth 32 * 5 * 24).toNat = 120 * g.toNat := by
    have hfive : (5 : BitVec 32).toNat = 5 := rfl
    have htwenty : (24 : BitVec 32).toNat = 24 := rfl
    rw [BitVec.toNat_mul, BitVec.toNat_mul, BitVec.toNat_setWidth_of_le (by decide), hfive, htwenty]
    omega
  constructor
  · unfold fullLeakage08V
    rw [BitVec.toNat_udiv, hmul, BitVec.toNat_setWidth_of_le (by decide)]
  · have := Nat.div_le_self (120 * g.toNat) n.toNat
    omega

theorem tableOf_wofIddqMultTable : TableOf wofIddqMultTable MultSource.p9.column := ⟨delta_wofIddqMultTable, fun _ _ => rfl⟩

section
variable {src : MultSource} {t : MultTable}

theorem MultSource.tableOf (h : src.table = some t) : TableOf t src.column := by
  cases src with
  | p9 =>
    obtain rfl := Option.some.inj h
    exact tableOf_wofIddqMultTable
  | p9prime g n =>
    obtain ⟨heq, hle⟩ := toNat_fullLeakage08V g n
    obtain ⟨-, h⟩ | ⟨-, h⟩ := ite_eq_iff.1 h
    · exact absurd h nofun
    · obtain rfl := Option.some.inj h
      exact tableOf_scaledTable (by omega)

theorem MultSource.sorted_iff (h : src.table = some t) : (∀ i < 20, src.column i ≤ src.column (i + 1)) ↔ src.Sorted := by
  cases src with
  | p9 => exact iff_of_true (by decide) trivial
  | p9prime g n =>
    obtain ⟨heq, hle⟩ := toNat_fullLeakage08V g n
    have hn : n ≠ 0 := by
      rintro rfl
      exact absurd h nofun
    refine (leakColumn_sorted_iff (by omega)).trans ?_
    rw [heq]
    exact (and_iff_right hn).symm

theorem MultSource.table_of_sorted (h : src.Sorted) : ∃ t, src.table = some t := by
  cases src with
  | p9 => exact ⟨_, rfl⟩
  | p9prime g n => exact ⟨_, if_neg h.1⟩

theorem MultSource.column_bounds (h : src.Sorted) {i : Nat} (hi : i ≤ 20) : 100 ≤ src.column i ∧ src.column i ≤ 2500 := by
  obtain ⟨t, ht⟩ := src.table_of_sorted h
  have hsteps := (src.sorted_iff ht).2 h
  have hfirst := Piecewise.le_of_steps hsteps (Nat.zero_le i) hi
  have hlast := Piecewise.le_of_steps hsteps hi (Nat.le_refl 20)
  have hends : 100 ≤ src.column 0 ∧ src.column 20 ≤ 2500 := by
    cases src with
    | p9 => decide
    | p9prime g n =>
      obtain ⟨heq, hle⟩ := toNat_fullLeakage08V g n
      have hsmall : (fullLeakage08V g n).toNat ≤ 410000 := by
        have hsorted := h.2
        unfold SortedLeakage at hsorted
        omega
      exact leakColumn_ends hsmall
  omega

/-! ## The multiplier for a difference of temperatures -/

theorem multiplier_onSegment {d : Int} (h : -127 ≤ d ∧ d ≤ 127) : OnSegment multKnot 20 (min 19 ((d + 70) / 5).toNat) d := by
  obtain ⟨hlow, hhigh⟩ := h
  refine ⟨by omega, fun hpos => ?_, fun hlt => ?_⟩
  · unfold multKnot
    omega
  · unfold multKnot
    omega

theorem multiplierOf_eq (h : src.table = some t) {d : BitVec 16} (hd : Produced d) :
    multiplierOf t d = src.multiplier d.toInt := by
  have htable := src.tableOf h
  obtain ⟨hext, -, -⟩ := toInt_signExtend_range d
  obtain ⟨hlow, hhigh⟩ := hd
  have hseg := @multIdx_onSegment t _ (d.signExtend 32) htable
  have hmult := @toInt_calculateMultiplier t _ (d.signExtend 32) htable (by omega) (by omega)
  unfold multiplierOf MultSource.multiplier
  rw [hext] at hseg hmult
  rw [hmult]
  exact Piecewise.segment_unique multKnot_steps hseg (multiplier_onSegment ⟨hlow, hhigh⟩)

theorem multiplier_mono (h : src.table = some t) (hsorted : src.Sorted) {d d' : Int} (hd : -127 ≤ d ∧ d ≤ 127)
    (hd' : -127 ≤ d' ∧ d' ≤ 127) (hle : d ≤ d') : src.multiplier d ≤ src.multiplier d' :=
  Piecewise.segment_mono multKnot_steps ((src.sorted_iff h).2 hsorted) (multiplier_onSegment hd) (multiplier_onSegment hd') hle

theorem multiplier_knot {i : Nat} (hi : i ≤ 20) : src.multiplier (multKnot i) = src.column i := by
  have hknot : -127 ≤ multKnot i ∧ multKnot i ≤ 127 := by
    unfold multKnot
    omega
  exact Piecewise.segment_knot multKnot_steps (multiplier_onSegment hknot) hi

/-- The multipliers of all differences grow if and only if those in the table do. -/
theorem nondecreasing_iff (h : src.table = some t) :
    (∀ d d', Produced d → Produced d' → d.toInt ≤ d'.toInt → multiplierOf t d ≤ multiplierOf t d') ↔ src.Sorted := by
  constructor
  · intro hmono
    refine (src.sorted_iff h).1 fun i hi => ?_
    have hknot : ∀ k ≤ 20, (BitVec.ofInt 16 (multKnot k)).toInt = multKnot k := by decide
    have hrange : ∀ k ≤ 20, -127 ≤ multKnot k ∧ multKnot k ≤ 127 := by decide
    have hstep := multKnot_steps i hi
    have hfirst : Produced (BitVec.ofInt 16 (multKnot i)) := by
      unfold Produced
      rw [hknot i (by omega)]
      exact hrange i (by omega)
    have hsecond : Produced (BitVec.ofInt 16 (multKnot (i + 1))) := by
      unfold Produced
      rw [hknot (i + 1) (by omega)]
      exact hrange (i + 1) (by omega)
    have hle := hmono _ _ hfirst hsecond (by rw [hknot i (by omega), hknot (i + 1) (by omega)]; omega)
    rwa [multiplierOf_eq h hfirst, multiplierOf_eq h hsecond, hknot i (by omega), hknot (i + 1) (by omega),
      multiplier_knot (by omega), multiplier_knot (by omega)] at hle
  · intro hsorted d d' hd hd' hle
    rw [multiplierOf_eq h hd, multiplierOf_eq h hd']
    exact multiplier_mono h hsorted hd hd' hle

theorem multiplier_pos_iff (h : src.table = some t) (hsorted : src.Sorted) {d : Int} (hd : -127 ≤ d ∧ d ≤ 127) :
    0 < src.multiplier d ↔ (-70 - d) * (src.column 1 - src.column 0) < 5 * src.column 0 := by
  obtain ⟨hfirst, -⟩ := src.column_bounds hsorted (Nat.zero_le 20)
  have hstep : src.column 0 ≤ src.column 1 := (src.sorted_iff h).2 hsorted 0 (by decide)
  obtain hbelow | habove := Int.lt_or_le d (-70)
  · have hidx : min 19 ((d + 70) / 5).toNat = 0 := by omega
    unfold MultSource.multiplier Piecewise.segment
    rw [hidx]
    exact Piecewise.line_pos_iff (multKnot_steps 0 (by decide)) (by omega)
  · have hmono := multiplier_mono h hsorted (d := multKnot 0) (by decide) hd habove
    rw [multiplier_knot (by decide)] at hmono
    have hdown : (-70 - d) * (src.column 1 - src.column 0) ≤ 0 := Int.mul_nonpos_of_nonpos_of_nonneg (by omega) (by omega)
    exact iff_of_true (by omega) (by omega)

theorem multiplier_lt (hsorted : src.Sorted) {d : Int} (hd : -127 ≤ d ∧ d ≤ 127) : src.multiplier d ≤ 53000 := by
  obtain ⟨t, ht⟩ := src.table_of_sorted hsorted
  obtain hinside | hright := Int.le_total d 30
  · have hknot : -127 ≤ multKnot 20 ∧ multKnot 20 ≤ 127 := by decide
    have hmono := multiplier_mono ht hsorted hd hknot hinside
    rw [multiplier_knot (by decide)] at hmono
    have := src.column_bounds hsorted (Nat.le_refl 20)
    omega
  · have hidx : min 19 ((d + 70) / 5).toNat = 19 := by omega
    obtain ⟨hlow, hhigh⟩ := src.column_bounds hsorted (i := 19) (by decide)
    obtain ⟨hlow', hhigh'⟩ := src.column_bounds hsorted (i := 19 + 1) (by decide)
    have hknot : multKnot 19 = 25 ∧ multKnot (19 + 1) - 25 = 5 := by decide
    have hmul : (d - 25) * (src.column (19 + 1) - src.column 19) ≤ 102 * 2400 :=
      Int.mul_le_mul (by omega) (by omega) (by
        have hstep := (src.sorted_iff ht).2 hsorted 19 (by decide)
        omega) (by decide)
    unfold MultSource.multiplier Piecewise.segment line
    rw [hidx, hknot.1, hknot.2]
    have := Piecewise.tdiv_bounds ((d - 25) * (src.column (19 + 1) - src.column 19)) (w := 5) (by decide)
    omega

end

/-! ## Scaling -/

section
variable {src : MultSource} {t : MultTable} {x : ScaleInput}

/-- A current is scaled without overflow. -/
theorem toNat_scale (h : src.table = some t) (hsorted : src.Sorted) (c : BitVec 16) {d : BitVec 16} (hd : Produced d)
    (hpos : 0 < multiplierOf t d) : ((scale t c d).toNat : Int) = c.toNat * multiplierOf t d / 1024 ∧
      (scale t c d).toNat ≤ 3400000 := by
  have hlt : multiplierOf t d ≤ 53000 := by
    rw [multiplierOf_eq h hd]
    exact multiplier_lt hsorted hd
  unfold multiplierOf at *
  unfold scale
  generalize calculateMultiplier t (d.signExtend 32) = m at *
  have hm : (m.toNat : Int) = m.toInt := by
    have hcond := BitVec.toInt_eq_toNat_cond m
    have hlt := m.isLt
    split at hcond
    · exact hcond.symm
    · omega
  have hc := c.isLt
  have hmul : c.toNat * m.toNat ≤ 65535 * 53000 := Nat.mul_le_mul (by omega) (by omega)
  have hprod : (c.setWidth 32 * m).toNat = c.toNat * m.toNat := by
    rw [BitVec.toNat_mul, BitVec.toNat_setWidth_of_le (by decide)]
    exact Nat.mod_eq_of_lt (Nat.lt_of_le_of_lt hmul (by decide))
  rw [BitVec.toNat_ushiftRight, hprod, Nat.shiftRight_eq_div_pow, ← hm]
  constructor
  · rfl
  · exact Nat.le_trans (Nat.div_le_div_right hmul) (by decide)

theorem toInt_sub_temp {a b : BitVec 16} (ha : a.toNat < 128) (hb : b.toNat < 128) :
    (a - b).toInt = a.toNat - b.toNat := by
  rw [BitVec.toInt_sub, BitVec.toInt_eq_toNat_of_lt (by omega), BitVec.toInt_eq_toNat_of_lt (by omega)]
  apply Int.bmod_eq_of_le
  · omega
  · omega

theorem produced_sub {a b : BitVec 16} (ha : a.toNat < 128) (hb : b.toNat < 128) : Produced (a - b) := by
  unfold Produced
  rw [toInt_sub_temp ha hb]
  omega

theorem produced_deltaTemp (r : LeakageRow) (i : Nat) (base : SensorTemp) : Produced (r.deltaTemp i base.sample) := by
  refine produced_sub base.valid ?_
  have hlt := (r.avgtemp i).isLt
  rw [BitVec.toNat_setWidth_of_le (by decide), BitVec.toNat_ushiftRight, Nat.shiftRight_eq_div_pow]
  omega

theorem produced_lower (x : ScaleInput) : Produced x.lowerDelta := produced_deltaTemp x.row x.idx x.base

theorem produced_upper (x : ScaleInput) : Produced x.upperDelta := produced_deltaTemp x.row (x.idx + 1) x.base

theorem produced_scaled (x : ScaleInput) : ∀ c ∈ x.scaled, Produced c.2 := by
  unfold ScaleInput.scaled
  rw [List.forall_mem_cons, List.forall_mem_cons, List.forall_mem_singleton]
  exact ⟨produced_sub x.quad.valid x.nest.valid, produced_lower x, produced_upper x⟩

theorem iddqVoltage_eq : ∀ i ≤ 5, (iddqVoltage i).toNat = 6000 + 1000 * i := by decide

theorem toInt_setWidth_small {w : Nat} (v : BitVec w) (hw : w ≤ 16) : (v.setWidth 32).toInt = v.toNat := by
  have hlt := v.isLt
  have hpow : 2 ^ w ≤ 2 ^ 16 := Nat.pow_le_pow_right (by decide) hw
  have hnat : (v.setWidth 32).toNat = v.toNat := BitVec.toNat_setWidth_of_le (by omega)
  rw [BitVec.toInt_eq_toNat_of_lt (by rw [hnat]; omega), hnat]

theorem toInt_scale_mul (h : src.table = some t) (hsorted : src.Sorted) (c : BitVec 16) {d : BitVec 16} (hd : Produced d)
    (hpos : 0 < multiplierOf t d) : (scale t c d * 5).toInt = scaledLeak c (multiplierOf t d) ∧
      0 ≤ scaledLeak c (multiplierOf t d) ∧ scaledLeak c (multiplierOf t d) ≤ 17000000 := by
  obtain ⟨heq, hle⟩ := toNat_scale h hsorted c hd hpos
  have hfive : (5 : BitVec 32).toInt = 5 := rfl
  have hscale : (scale t c d).toInt = (scale t c d).toNat := BitVec.toInt_eq_toNat_of_lt (by omega)
  unfold scaledLeak
  rw [← heq]
  refine ⟨?_, by omega, by omega⟩
  rw [toInt_mul_of (by rw [hfive]; omega) (by rw [hfive]; omega), hscale, hfive]
  omega

section
variable {row : LeakageRow} {idx : Nat} {base voltage : BitVec 16} {y₁ y₂ : Int}

theorem toInt_interpolationProduct (hidx : idx < 5) (hlower : (scale t (row.leak idx) (row.deltaTemp idx base) * 5).toInt = y₁)
    (hupper : (scale t (row.leak (idx + 1)) (row.deltaTemp (idx + 1) base) * 5).toInt = y₂)
    (hy₁ : 0 ≤ y₁ ∧ y₁ ≤ 25000000) (hy₂ : 0 ≤ y₂ ∧ y₂ ≤ 25000000)
    (hfits : -2 ^ 31 ≤ (voltage.toNat - (iddqVoltage idx).toNat : Int) * (y₂ - y₁) ∧
      (voltage.toNat - (iddqVoltage idx).toNat : Int) * (y₂ - y₁) < 2 ^ 31) :
    ((voltage.setWidth 32 - (iddqVoltage idx).setWidth 32) * (scale t (row.leak (idx + 1)) (row.deltaTemp (idx + 1) base) * 5 -
      scale t (row.leak idx) (row.deltaTemp idx base) * 5)).toInt =
        (voltage.toNat - (iddqVoltage idx).toNat : Int) * (y₂ - y₁) := by
  have hvolt := voltage.isLt
  have hknot := iddqVoltage_eq idx (by omega)
  have hx := toInt_setWidth_small (iddqVoltage idx) (Nat.le_refl 16)
  have hX := toInt_setWidth_small voltage (Nat.le_refl 16)
  have hfirst := toInt_sub_of (x := voltage.setWidth 32) (y := (iddqVoltage idx).setWidth 32) (by omega) (by omega)
  have hsecond := toInt_sub_of (x := scale t (row.leak (idx + 1)) (row.deltaTemp (idx + 1) base) * 5)
    (y := scale t (row.leak idx) (row.deltaTemp idx base) * 5) (by omega) (by omega)
  rw [hx, hX] at hfirst
  rw [hlower, hupper] at hsecond
  rw [toInt_mul_of (by rw [hfirst, hsecond]; exact hfits.1) (by rw [hfirst, hsecond]; exact hfits.2), hfirst, hsecond]

/-- The interpolation of scaled currents is exact when its product fits. -/
theorem toInt_scaleAndInterpolate (hidx : idx < 5) (hlower : (scale t (row.leak idx) (row.deltaTemp idx base) * 5).toInt = y₁)
    (hupper : (scale t (row.leak (idx + 1)) (row.deltaTemp (idx + 1) base) * 5).toInt = y₂)
    (hy₁ : 0 ≤ y₁ ∧ y₁ ≤ 25000000) (hy₂ : 0 ≤ y₂ ∧ y₂ ≤ 25000000)
    (hfits : -2 ^ 31 ≤ (voltage.toNat - (iddqVoltage idx).toNat : Int) * (y₂ - y₁) ∧
      (voltage.toNat - (iddqVoltage idx).toNat : Int) * (y₂ - y₁) < 2 ^ 31) :
    (scaleAndInterpolate t row idx base voltage).toInt =
      (line (iddqVoltage idx).toNat (iddqVoltage (idx + 1)).toNat y₁ y₂ voltage.toNat).tdiv 10 := by
  have hvolt := voltage.isLt
  have hv₁ := iddqVoltage_eq idx (by omega)
  have hv₂ := iddqVoltage_eq (idx + 1) (by omega)
  have hx₁ := toInt_setWidth_small (iddqVoltage idx) (Nat.le_refl 16)
  have hx₂ := toInt_setWidth_small (iddqVoltage (idx + 1)) (Nat.le_refl 16)
  have hX := toInt_setWidth_small voltage (Nat.le_refl 16)
  have hten : (10 : BitVec 32).toInt = 10 := rfl
  have hline : -2 ^ 31 ≤ line (iddqVoltage idx).toNat (iddqVoltage (idx + 1)).toNat y₁ y₂ voltage.toNat ∧
      line (iddqVoltage idx).toNat (iddqVoltage (idx + 1)).toNat y₁ y₂ voltage.toNat < 2 ^ 31 := by
    have hwidth : ((iddqVoltage (idx + 1)).toNat : Int) - (iddqVoltage idx).toNat = 1000 := by omega
    unfold line
    rw [hwidth]
    have hquot := Piecewise.tdiv_bounds ((voltage.toNat - (iddqVoltage idx).toNat : Int) * (y₂ - y₁)) (w := 1000) (by decide)
    omega
  show ((interpolateLinear (voltage.setWidth 32) ((iddqVoltage idx).setWidth 32) ((iddqVoltage (idx + 1)).setWidth 32)
    (scale t (row.leak idx) (row.deltaTemp idx base) * 5)
    (scale t (row.leak (idx + 1)) (row.deltaTemp (idx + 1) base) * 5)).sdiv 10).toInt = _
  rw [← hx₁, ← hx₂, ← hX, ← hlower, ← hupper] at hline ⊢
  rw [← hx₁, ← hX, ← hlower, ← hupper] at hfits
  rw [toInt_sdiv_of (by decide), hten, toInt_interpolateLinear (by omega) (by omega) (by omega) (by omega) hfits hline]

end

theorem ScalingLaw.ok (h : src.table = some t) (hlaw : ScalingLaw t x) : ScalingOk src x := by
  have hproduced := produced_scaled x
  have hsorted := (nondecreasing_iff h).1 hlaw.nondecreasing
  refine ⟨hsorted, fun c hc => ?_, ?_⟩
  · have hpos := hlaw.positive c hc
    rw [multiplierOf_eq h (hproduced c hc)] at hpos
    exact (multiplier_pos_iff (d := c.2.toInt) h hsorted (hproduced c hc)).1 hpos
  · have hproduct := hlaw.product
    rw [multiplierOf_eq h (produced_lower x), multiplierOf_eq h (produced_upper x)] at hproduct
    rw [← hproduct]
    exact ⟨BitVec.le_toInt _, BitVec.toInt_lt⟩

/-- A condition on the table and the temperatures under which leakage is scaled as it should be. -/
theorem ScalingOk.law (ht : src.table = some t) (hok : ScalingOk src x) : ScalingLaw t x := by
  have hproduced := produced_scaled x
  have hlower : (x.row.leak x.idx, x.lowerDelta) ∈ x.scaled := List.mem_cons_of_mem _ List.mem_cons_self
  have hupper : (x.row.leak (x.idx + 1), x.upperDelta) ∈ x.scaled :=
    List.mem_cons_of_mem _ (List.mem_cons_of_mem _ List.mem_cons_self)
  obtain ⟨hsorted, habove, hfits⟩ := hok
  have hpositive : ∀ c ∈ x.scaled, 0 < multiplierOf t c.2 := by
    intro c hc
    rw [multiplierOf_eq ht (hproduced c hc)]
    exact (multiplier_pos_iff (d := c.2.toInt) ht hsorted (hproduced c hc)).2 (habove c hc)
  have hposLower : 0 < multiplierOf t x.lowerDelta := hpositive (x.row.leak x.idx, x.lowerDelta) hlower
  have hposUpper : 0 < multiplierOf t x.upperDelta := hpositive (x.row.leak (x.idx + 1), x.upperDelta) hupper
  rw [← multiplierOf_eq ht (produced_lower x), ← multiplierOf_eq ht (produced_upper x)] at hfits
  refine ⟨(nondecreasing_iff ht).2 hsorted, hpositive, fun c hc => ?_, ?_, ?_⟩
  · exact (toNat_scale ht hsorted c.1 (hproduced c hc) (hpositive c hc)).1
  · obtain ⟨hy₁, hlow₁, hhigh₁⟩ := toInt_scale_mul ht hsorted (x.row.leak x.idx) (produced_lower x) hposLower
    obtain ⟨hy₂, hlow₂, hhigh₂⟩ := toInt_scale_mul ht hsorted (x.row.leak (x.idx + 1)) (produced_upper x) hposUpper
    exact toInt_interpolationProduct x.idx_lt hy₁ hy₂ (by omega) (by omega) hfits
  · obtain ⟨hy₁, hlow₁, hhigh₁⟩ := toInt_scale_mul ht hsorted (x.row.leak x.idx) (produced_lower x) hposLower
    obtain ⟨hy₂, hlow₂, hhigh₂⟩ := toInt_scale_mul ht hsorted (x.row.leak (x.idx + 1)) (produced_upper x) hposUpper
    exact toInt_scaleAndInterpolate x.idx_lt hy₁ hy₂ (by omega) (by omega) hfits

/-- Leakage is scaled by temperature as it should be if and only if the condition holds. -/
theorem scalingLaw_iff (src : MultSource) (x : ScaleInput) :
    (∃ t, src.table = some t ∧ ScalingLaw t x) ↔ ScalingOk src x := by
  constructor
  · rintro ⟨t, ht, hlaw⟩
    exact hlaw.ok ht
  · intro hok
    obtain ⟨t, ht⟩ := src.table_of_sorted hok.sorted
    exact ⟨t, ht, hok.law ht⟩

/-- A measurement at 126 C, and a nest and a quad at 20 C. -/
def hotMeasurement : ScaleInput where
  quad := ⟨20, by decide⟩
  nest := ⟨20, by decide⟩
  current := 1000
  row := ⟨fun _ => 1000, fun _ => 252⟩
  idx := 2
  idx_lt := by decide
  base := ⟨20, by decide⟩
  voltage := 8500

/-- For 106 degrees below the measurement the multiplier is -2. -/
theorem hotMeasurement_negative : ¬∃ t, MultSource.p9.table = some t ∧ ScalingLaw t hotMeasurement := by
  rintro ⟨t, ht, hlaw⟩
  obtain rfl := Option.some.inj ht
  have hpos := hlaw.positive (1000, -106) (by decide)
  exact absurd hpos (by decide)

end

end Occ.Wof
