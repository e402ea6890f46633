/-
The soft frequency boundaries (`amec_mst_gen_soft_freq` in `amec_master_smh.c`): a window around a target, which follows the
wishes of the OCCs in small steps, or goes to the frequency of an OCC that has been outside of the window for too long.
-/
import Mathlib

namespace Occ.Amec.SoftFreq

/-! ## Model -/

/-- What an OCC sends. -/
structure OccFreq where
  fwish : BitVec 16
  factual : BitVec 16
deriving DecidableEq, Repr

/-- The adjusted values of the tunable parameters 8 and 9, the nominal frequency, and whether the mode is one of dynamic power
saving. -/
structure Params where
  deltaEnable : BitVec 16
  deltaPercent : BitVec 16
  nominal : BitVec 16
  dps : Bool
deriving DecidableEq, Repr

/-- `G_mst_soft_fmin`, `G_mst_soft_fmax` and `G_mst_violation_cnt` -/
structure Boundaries where
  softFmin : BitVec 16
  softFmax : BitVec 16
  violationCnt : Fin 8 → BitVec 8

/-- `l_fdelta`, which is computed in integers of 32 bits. -/
def Params.fdelta (p : Params) : BitVec 16 :=
  (((p.nominal.setWidth 32 * p.deltaPercent.setWidth 32).sdiv 2).sdiv 100).setWidth 16

/-- OCCs that send zeros are ignored. -/
def OccFreq.Valid (o : OccFreq) : Prop := ¬(o.factual = 0 ∨ o.fwish = 0)

instance (o : OccFreq) : Decidable o.Valid := inferInstanceAs (Decidable (¬_))

namespace Boundaries

variable (s : Boundaries) (occs : Fin 8 → OccFreq)

/-- The new violation count of an OCC. -/
def violations (i : Fin 8) : BitVec 8 :=
  if (occs i).Valid then
    if (occs i).factual < s.softFmin ∨ (occs i).factual > s.softFmax then s.violationCnt i + 1 else 0
  else s.violationCnt i

/-- An OCC that has been outside of the boundaries for too long. -/
def Violates (i : Fin 8) : Prop := (occs i).Valid ∧ 3 < s.violations occs i

instance (i : Fin 8) : Decidable (s.Violates occs i) := inferInstanceAs (Decidable (_ ∧ _))

/-- The violator that the loop sees last. -/
def lastViolator : Option (Fin 8) := ((List.finRange 8).filter fun i => decide (s.Violates occs i)).getLast?

/-- The wishes that are not ignored. -/
def wishes : List (BitVec 16) := ((List.finRange 8).filter fun i => decide (occs i).Valid).map fun i => (occs i).fwish

def highestFwish : BitVec 16 := (wishes occs).foldl (fun highest f => if f > highest then f else highest) 0

def lowestFwish : BitVec 16 := (wishes occs).foldl (fun lowest f => if f < lowest then f else lowest) 0xFFFF

/-- A wish in the window, and else the boundary that is a step towards it. -/
def stepTowards (fwish : BitVec 16) : BitVec 16 :=
  if s.softFmin ≤ fwish ∧ fwish ≤ s.softFmax then fwish
  else if s.softFmax < fwish then s.softFmax
  else s.softFmin

/-- `l_ftarget` -/
def ftarget (p : Params) : BitVec 16 :=
  match s.lastViolator occs with
  | some i => (occs i).factual
  | none => s.stepTowards (if p.dps then highestFwish occs else lowestFwish occs)

/-- `amec_mst_gen_soft_freq` -/
def amecMstGenSoftFreq (p : Params) : Boundaries :=
  if p.deltaEnable = 0 then { s with softFmin := 0x0000, softFmax := 0xFFFF }
  else
    { softFmin := s.ftarget occs p - p.fdelta
      softFmax := s.ftarget occs p + p.fdelta
      violationCnt := s.violations occs }

end Boundaries

/-! ## The law -/

/-- A frequency of the system. -/
def InRange (fmin fmax f : BitVec 16) : Prop := fmin ≤ f ∧ f ≤ fmax

instance (fmin fmax f : BitVec 16) : Decidable (InRange fmin fmax f) := inferInstanceAs (Decidable (_ ∧ _))

/-- The boundaries, and what is read of the OCCs, are frequencies of the system. -/
structure InputsIn (fmin fmax : BitVec 16) (s : Boundaries) (occs : Fin 8 → OccFreq) : Prop where
  softFmin : InRange fmin fmax s.softFmin
  softFmax : InRange fmin fmax s.softFmax
  occs : ∀ i, (occs i).Valid → InRange fmin fmax (occs i).fwish ∧ InRange fmin fmax (occs i).factual

/-- What the function does: without the delta there are no boundaries; with it they are around the target, in the range of the
system but for the delta; and the target leaves a window only for an OCC that violates it. The sums and differences that do not
fit are left out. -/
structure SoftFreqLaw (p : Params) (s : Boundaries) (occs : Fin 8 → OccFreq) : Prop where
  full : p.deltaEnable = 0 →
    (s.amecMstGenSoftFreq occs p).softFmin = 0 ∧ (s.amecMstGenSoftFreq occs p).softFmax = 0xFFFF
  ordered : p.deltaEnable ≠ 0 → p.fdelta ≤ s.ftarget occs p → (s.ftarget occs p).toNat + p.fdelta.toNat < 2 ^ 16 →
    (s.amecMstGenSoftFreq occs p).softFmin.toNat = (s.ftarget occs p).toNat - p.fdelta.toNat ∧
      (s.amecMstGenSoftFreq occs p).softFmax.toNat = (s.ftarget occs p).toNat + p.fdelta.toNat
  range : ∀ fmin fmax, InputsIn fmin fmax s occs → InRange fmin fmax (s.ftarget occs p)
  window : s.softFmin ≤ s.softFmax → ¬InRange s.softFmin s.softFmax (s.ftarget occs p) →
    ∃ i, s.Violates occs i ∧ s.ftarget occs p = (occs i).factual

section
variable {p : Params} {s : Boundaries} {occs : Fin 8 → OccFreq} {fmin fmax : BitVec 16}

theorem lastViolator_eq_some {i : Fin 8} (h : s.lastViolator occs = some i) : s.Violates occs i := by
  have hmem := List.mem_of_getLast? h
  exact of_decide_eq_true (List.mem_filter.1 hmem).2

theorem ftarget_cases : (∃ i, s.Violates occs i ∧ s.ftarget occs p = (occs i).factual) ∨
    ∃ fwish, s.ftarget occs p = s.stepTowards fwish := by
  unfold Boundaries.ftarget
  cases hlast : s.lastViolator occs with
  | some i => exact .inl ⟨i, lastViolator_eq_some hlast, rfl⟩
  | none => exact .inr ⟨_, rfl⟩

theorem stepTowards_cases (fwish : BitVec 16) : InRange s.softFmin s.softFmax (s.stepTowards fwish) ∨
    s.stepTowards fwish = s.softFmax ∨ s.stepTowards fwish = s.softFmin := by
  unfold Boundaries.stepTowards
  split_ifs with hin hhigh
  · exact .inl hin
  · exact .inr (.inl rfl)
  · exact .inr (.inr rfl)

theorem stepTowards_inRange (hordered : s.softFmin ≤ s.softFmax) (fwish : BitVec 16) :
    InRange s.softFmin s.softFmax (s.stepTowards fwish) := by
  obtain hin | heq | heq := @stepTowards_cases s fwish
  · exact hin
  · rw [heq]
    exact ⟨hordered, BitVec.le_refl _⟩
  · rw [heq]
    exact ⟨BitVec.le_refl _, hordered⟩

theorem ftarget_inRange (h : InputsIn fmin fmax s occs) : InRange fmin fmax (s.ftarget occs p) := by
  obtain ⟨hsoftFmin, hsoftFmax, hoccs⟩ := h
  obtain ⟨i, ⟨hvalid, -⟩, heq⟩ | ⟨fwish, heq⟩ := @ftarget_cases p s occs
  · rw [heq]
    exact (hoccs i hvalid).2
  · rw [heq]
    obtain ⟨hlow, hhigh⟩ | heq | heq := @stepTowards_cases s fwish
    · exact ⟨BitVec.le_trans hsoftFmin.1 hlow, BitVec.le_trans hhigh hsoftFmax.2⟩
    · rw [heq]
      exact hsoftFmax
    · rw [heq]
      exact hsoftFmin

theorem softFreqLaw (p : Params) (s : Boundaries) (occs : Fin 8 → OccFreq) : SoftFreqLaw p s occs where
  full hoff := by
    unfold Boundaries.amecMstGenSoftFreq
    rw [if_pos hoff]
    exact ⟨rfl, rfl⟩
  ordered hon hlow hhigh := by
    have hle : p.fdelta.toNat ≤ (s.ftarget occs p).toNat := hlow
    unfold Boundaries.amecMstGenSoftFreq
    rw [if_neg hon]
    dsimp only
    rw [BitVec.toNat_add, BitVec.toNat_sub_of_le hlow]
    exact ⟨rfl, Nat.mod_eq_of_lt hhigh⟩
  range fmin fmax := ftarget_inRange
  window hordered hout := by
    obtain hviolator | ⟨fwish, heq⟩ := @ftarget_cases p s occs
    · exact hviolator
    · rw [heq] at hout
      exact absurd (stepTowards_inRange hordered fwish) hout

end

/-- Boundaries of 2000 and 2300 MHz, and an OCC at the lowest frequency of the system. -/
def window2000 : Boundaries := ⟨2000, 2300, fun _ => 0⟩

def slowest : Fin 8 → OccFreq := fun i => if i = 0 then ⟨2000, 2000⟩ else ⟨0, 0⟩

theorem inputsIn_slowest : InputsIn 2000 4000 window2000 slowest where
  softFmin := by decide
  softFmax := by decide
  occs := by decide

/-- With a delta of 10 % of 3000 MHz the lower boundary is below the range of the system, and without it the boundaries are
wider than the range. -/
theorem boundaries_wider :
    InputsIn 2000 4000 window2000 slowest ∧
      ¬InRange 2000 4000 (window2000.amecMstGenSoftFreq slowest ⟨1, 10, 3000, true⟩).softFmin ∧
      ¬InRange 2000 4000 (window2000.amecMstGenSoftFreq slowest ⟨0, 10, 3000, true⟩).softFmax := by
  have hlow : (window2000.amecMstGenSoftFreq slowest ⟨1, 10, 3000, true⟩).softFmin = 1850 := by decide
  have hfull : (window2000.amecMstGenSoftFreq slowest ⟨0, 10, 3000, true⟩).softFmax = 0xFFFF := rfl
  refine ⟨inputsIn_slowest, ?_, ?_⟩
  · rw [hlow]
    decide
  · rw [hfull]
    decide

end Occ.Amec.SoftFreq
