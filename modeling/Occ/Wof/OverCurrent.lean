/-
The over-current adder (`wof.c`): what is added to the measured ratio of the effective capacitance after the
PGPE has seen an over-current, and how it goes away again.
-/
import Occ.Wof.Address

namespace Occ.Wof

/-! ## Model -/

/-- `MAX_CEFF_RATIO` -/
def maxCeffRatio : BitVec 32 := 10000

/-- `OCS_PGPE_DIRTY_MASK` and `OCS_PGPE_DIRTY_TYPE_MASK` -/
def ocsPgpeDirtyMask : BitVec 8 := 0x40
def ocsPgpeDirtyTypeMask : BitVec 8 := 0x20

/-- `G_max_ceff_ratio` and the amounts of one step. -/
structure OcsConfig where
  maxCeffRatio : BitVec 32
  ocsIncreaseCeff : BitVec 16
  ocsDecreaseCeff : BitVec 16
deriving DecidableEq, Repr

def OcsConfig.clip (c : OcsConfig) (ratio : BitVec 32) : BitVec 32 :=
  if c.maxCeffRatio < ratio then c.maxCeffRatio else ratio

/-- What `read_wof_header` calculates from an accepted header. -/
def WofHeader.ocsConfig (h : WofHeader) : OcsConfig where
  maxCeffRatio := h.vddStart.setWidth 32 + h.vddStep.setWidth 32 * (h.vddSize.setWidth 32 - 1)
  ocsIncreaseCeff := h.vddStep
  ocsDecreaseCeff := h.vddStep

/-- What a call of `prevent_over_current` is given: the ratio, `ocs_dirty`, whether P10 OCS is enabled with readings
from the PGPE, and whether the hold type is to use the new ratio (`INT_FLAG_ENABLE_OCS_HOLD_NEW`). -/
structure OcsInput where
  ceffRatio : BitVec 32
  ocsDirty : BitVec 8
  p10Ocs : Bool
  holdNew : Bool
deriving DecidableEq, Repr

/-- The fields of `g_wof` and the static variables that the function keeps, and the two entries of the error history
that it counts up. -/
structure Ocs where
  vddOcCeffAdd : BitVec 16
  vddCeffRatioAdjPrev : BitVec 16
  ocPreventionTimer : BitVec 8
  ceffRatioVddExcursion : BitVec 8
  ocsDirtyBlock : BitVec 8
deriving DecidableEq, Repr

def Ocs.boot : Ocs := ⟨0, 0, 0, 0, 0⟩

/-- `INCREMENT_ERR_HISTORY` -/
def incrementErrHistory (n : BitVec 8) : BitVec 8 := if n < 255 then n + 1 else n

namespace Ocs

variable (c : OcsConfig) (w : Ocs) (i : OcsInput)

/-- The P9 method: 1.0 at most, and 1.0 for ten iterations after an excursion. -/
def p9Method : BitVec 32 × Ocs :=
  if maxCeffRatio < i.ceffRatio then
    (maxCeffRatio, { w with
      ceffRatioVddExcursion := incrementErrHistory w.ceffRatioVddExcursion
      ocPreventionTimer := if w.ocPreventionTimer = 0 then 10 else w.ocPreventionTimer - 1 })
  else if w.ocPreventionTimer ≠ 0 then (maxCeffRatio, { w with ocPreventionTimer := w.ocPreventionTimer - 1 })
  else (i.ceffRatio, w)

/-- No over-current on the last PGPE tick: `clipped` is the clipped ratio. -/
def clean (clipped : BitVec 32) : BitVec 32 × Ocs :=
  if c.ocsDecreaseCeff < w.vddOcCeffAdd then
    let add := w.vddOcCeffAdd - c.ocsDecreaseCeff
    let prev := w.vddCeffRatioAdjPrev.setWidth 32
    let clipped :=
      if i.ceffRatio < prev then
        if prev < clipped + add.setWidth 32 then prev else clipped + add.setWidth 32
      else clipped
    (clipped, { w with vddOcCeffAdd := add })
  else (clipped, { w with vddOcCeffAdd := 0 })

/-- An over-current to act on. -/
def act : BitVec 32 × Ocs :=
  let add := w.vddOcCeffAdd + c.ocsIncreaseCeff
  let add := if c.maxCeffRatio < add.setWidth 32 then c.maxCeffRatio.setWidth 16 else add
  let fromMeasured := i.ceffRatio + add.setWidth 32
  let fromPrev := w.vddCeffRatioAdjPrev.setWidth 32 + c.ocsIncreaseCeff.setWidth 32
  let clipped := if fromPrev < fromMeasured then fromMeasured else fromPrev
  let clipped := if c.maxCeffRatio < clipped then c.maxCeffRatio else clipped
  (clipped, { w with
    vddOcCeffAdd := add, ceffRatioVddExcursion := incrementErrHistory w.ceffRatioVddExcursion })

/-- An over-current of the hold type. -/
def hold (clipped : BitVec 32) : BitVec 32 × Ocs :=
  let prev := w.vddCeffRatioAdjPrev.setWidth 32
  let clipped :=
    if clipped < prev then if c.maxCeffRatio < prev then c.maxCeffRatio else prev else clipped
  let clipped := if i.holdNew then i.ceffRatio else clipped
  (clipped, { w with ocsDirtyBlock := incrementErrHistory w.ocsDirtyBlock })

/-- The branch of the P10 method for `ocs_dirty`. -/
def p10Branch : BitVec 32 × Ocs :=
  if i.ocsDirty &&& ocsPgpeDirtyMask = 0 then w.clean c i (c.clip i.ceffRatio)
  else if i.ocsDirty = ocsPgpeDirtyMask ||| ocsPgpeDirtyTypeMask then w.act c i
  else w.hold c i (c.clip i.ceffRatio)

/-- The adjusted ratio is saved as the previous one. -/
def p10Method : BitVec 32 × Ocs :=
  let (clipped, w) := w.p10Branch c i
  (clipped, { w with vddCeffRatioAdjPrev := clipped.setWidth 16 })

def preventOverCurrent : BitVec 32 × Ocs := if i.p10Ocs then w.p10Method c i else w.p9Method i

/-- The state after the calls for a sequence of inputs. -/
def run (inputs : List OcsInput) : Ocs := inputs.foldl (fun w i => (w.preventOverCurrent c i).2) w

end Ocs

/-! ## The law -/

namespace OcsInput

variable (i : OcsInput)

/-- The call finds the dirty bit clear, in the P10 method. -/
def Clean : Prop := i.p10Ocs = true ∧ i.ocsDirty &&& ocsPgpeDirtyMask = 0

/-- The call finds the dirty bit with the type to act on. -/
def Act : Prop := i.p10Ocs = true ∧ i.ocsDirty = ocsPgpeDirtyMask ||| ocsPgpeDirtyTypeMask

/-- The call finds the dirty bit with another type. -/
def Hold : Prop :=
  i.p10Ocs = true ∧ i.ocsDirty &&& ocsPgpeDirtyMask ≠ 0 ∧ i.ocsDirty ≠ ocsPgpeDirtyMask ||| ocsPgpeDirtyTypeMask

end OcsInput

/-- The adder has room for an increase above the largest ratio. -/
def OcsConfig.Fits (c : OcsConfig) : Prop := c.maxCeffRatio.toNat + c.ocsIncreaseCeff.toNat < 2 ^ 16

/-- The measured ratio has room for the adder where it is added, and is no excursion where a debug option takes it
as it is. -/
structure OcsInput.Fits (c : OcsConfig) (i : OcsInput) : Prop where
  act : i.Act → i.ceffRatio.toNat + c.maxCeffRatio.toNat < 2 ^ 32
  hold : i.Hold → i.holdNew = true → i.ceffRatio ≤ c.maxCeffRatio

/-- A call returns `ratio` and leaves `w'`. -/
structure OcsCallLaw (c : OcsConfig) (w : Ocs) (i : OcsInput) (ratio : BitVec 32) (w' : Ocs) : Prop where
  bound : ratio ≤ if i.p10Ocs then c.maxCeffRatio else maxCeffRatio
  add : w'.vddOcCeffAdd.toNat ≤ c.maxCeffRatio.toNat
  prev : w'.vddCeffRatioAdjPrev.toNat ≤ c.maxCeffRatio.toNat
  kept : if i.p10Ocs then w'.vddCeffRatioAdjPrev.toNat = ratio.toNat
    else w'.vddCeffRatioAdjPrev = w.vddCeffRatioAdjPrev ∧ w'.vddOcCeffAdd = w.vddOcCeffAdd
  act : i.Act → w'.vddOcCeffAdd.toNat = min c.maxCeffRatio.toNat (w.vddOcCeffAdd.toNat + c.ocsIncreaseCeff.toNat) ∧
    min c.maxCeffRatio.toNat
      (max i.ceffRatio.toNat (w.vddCeffRatioAdjPrev.toNat + c.ocsIncreaseCeff.toNat)) ≤ ratio.toNat
  clean : i.Clean → w'.vddOcCeffAdd.toNat = w.vddOcCeffAdd.toNat - c.ocsDecreaseCeff.toNat

/-- The law of all calls for a sequence of inputs; and of those in a row that find the dirty bit clear. -/
structure OcsLaw (c : OcsConfig) (inputs : List OcsInput) : Prop where
  call : ∀ before i after, inputs = before ++ i :: after →
    OcsCallLaw c (Ocs.boot.run c before) i ((Ocs.boot.run c before).preventOverCurrent c i).1
      (Ocs.boot.run c (before ++ [i]))
  decay : ∀ before cleans after, inputs = before ++ cleans ++ after → (∀ i ∈ cleans, i.Clean) →
    (Ocs.boot.run c (before ++ cleans)).vddOcCeffAdd.toNat =
      (Ocs.boot.run c before).vddOcCeffAdd.toNat - cleans.length * c.ocsDecreaseCeff.toNat
  gone : ∀ before cleans after, inputs = before ++ cleans ++ after → (∀ i ∈ cleans, i.Clean) →
    c.maxCeffRatio.toNat ≤ cleans.length * c.ocsDecreaseCeff.toNat →
    (Ocs.boot.run c (before ++ cleans)).vddOcCeffAdd = 0

/-! ## One call -/

section Call

variable {c : OcsConfig} {w : Ocs} {i : OcsInput}

/-- The two saved ratios are within the largest one. -/
structure OcsInv (c : OcsConfig) (w : Ocs) : Prop where
  add : w.vddOcCeffAdd.toNat ≤ c.maxCeffRatio.toNat
  prev : w.vddCeffRatioAdjPrev.toNat ≤ c.maxCeffRatio.toNat

theorem ocsInv_boot (c : OcsConfig) : OcsInv c .boot := ⟨Nat.zero_le _, Nat.zero_le _⟩

theorem p9Method_spec (w : Ocs) (i : OcsInput) : (w.p9Method i).1 ≤ maxCeffRatio ∧
    (w.p9Method i).2.vddOcCeffAdd = w.vddOcCeffAdd ∧
    (w.p9Method i).2.vddCeffRatioAdjPrev = w.vddCeffRatioAdjPrev := by
  unfold Ocs.p9Method
  split
  · exact ⟨BitVec.le_refl _, rfl, rfl⟩
  · rename_i hmax
    split
    · exact ⟨BitVec.le_refl _, rfl, rfl⟩
    · exact ⟨BitVec.not_lt.1 hmax, rfl, rfl⟩

theorem clean_add (w : Ocs) (i : OcsInput) (clipped : BitVec 32) :
    (w.clean c i clipped).2.vddOcCeffAdd.toNat = w.vddOcCeffAdd.toNat - c.ocsDecreaseCeff.toNat := by
  unfold Ocs.clean
  split_ifs with h
  · exact BitVec.toNat_sub_of_le (BitVec.le_of_lt h)
  · have := BitVec.le_def.1 (BitVec.not_lt.1 h)
    exact (Nat.sub_eq_zero_of_le this).symm

theorem clean_bound (h : OcsInv c w) {clipped : BitVec 32} (hclipped : clipped ≤ c.maxCeffRatio) :
    (w.clean c i clipped).1 ≤ c.maxCeffRatio := by
  have hprev : w.vddCeffRatioAdjPrev.setWidth 32 ≤ c.maxCeffRatio := by
    rw [BitVec.le_def, BitVec.toNat_setWidth_of_le (by decide)]
    exact h.prev
  unfold Ocs.clean
  dsimp only
  split_ifs with h₁ h₂ h₃
  · exact hprev
  · exact BitVec.le_trans (BitVec.not_lt.1 h₃) hprev
  · exact hclipped
  · exact hclipped

theorem hold_bound (w : Ocs) {clipped : BitVec 32} (hclipped : clipped ≤ c.maxCeffRatio)
    (hnew : i.holdNew = true → i.ceffRatio ≤ c.maxCeffRatio) : (w.hold c i clipped).1 ≤ c.maxCeffRatio := by
  unfold Ocs.hold
  dsimp only
  split_ifs with h₁ h₂ h₃
  · exact hnew h₁
  · exact BitVec.le_refl _
  · exact BitVec.not_lt.1 h₃
  · exact hclipped

theorem act_add (hfits : c.Fits) (h : OcsInv c w) : (w.act c i).2.vddOcCeffAdd.toNat =
    min c.maxCeffRatio.toNat (w.vddOcCeffAdd.toNat + c.ocsIncreaseCeff.toNat) := by
  have hadd := h.add
  unfold OcsConfig.Fits at hfits
  unfold Ocs.act
  dsimp only
  split_ifs with hmax <;> rw [BitVec.lt_def, BitVec.toNat_setWidth_of_le (by decide), BitVec.toNat_add] at hmax
  · rw [BitVec.toNat_setWidth]
    omega
  · rw [BitVec.toNat_add]
    omega

theorem act_ratio (hfits : c.Fits) (h : OcsInv c w)
    (hroom : i.ceffRatio.toNat + c.maxCeffRatio.toNat < 2 ^ 32) :
    (w.act c i).1.toNat = min c.maxCeffRatio.toNat (max (i.ceffRatio.toNat + (w.act c i).2.vddOcCeffAdd.toNat)
      (w.vddCeffRatioAdjPrev.toNat + c.ocsIncreaseCeff.toNat)) := by
  have hadd := act_add (i := i) hfits h
  have hprev := h.prev
  unfold OcsConfig.Fits at hfits
  generalize hw : (w.act c i).2.vddOcCeffAdd = add at hadd
  have hratio : (w.act c i).1 =
      if c.maxCeffRatio < (if w.vddCeffRatioAdjPrev.setWidth 32 + c.ocsIncreaseCeff.setWidth 32 <
          i.ceffRatio + add.setWidth 32 then i.ceffRatio + add.setWidth 32
        else w.vddCeffRatioAdjPrev.setWidth 32 + c.ocsIncreaseCeff.setWidth 32) then c.maxCeffRatio
      else if w.vddCeffRatioAdjPrev.setWidth 32 + c.ocsIncreaseCeff.setWidth 32 <
          i.ceffRatio + add.setWidth 32 then i.ceffRatio + add.setWidth 32
        else w.vddCeffRatioAdjPrev.setWidth 32 + c.ocsIncreaseCeff.setWidth 32 := by
    rw [← hw]
    rfl
  have hm : (i.ceffRatio + add.setWidth 32).toNat = i.ceffRatio.toNat + add.toNat := by
    rw [BitVec.toNat_add, BitVec.toNat_setWidth_of_le (by decide)]
    omega
  have hp : (w.vddCeffRatioAdjPrev.setWidth 32 + c.ocsIncreaseCeff.setWidth 32).toNat =
      w.vddCeffRatioAdjPrev.toNat + c.ocsIncreaseCeff.toNat := by
    rw [BitVec.toNat_add, BitVec.toNat_setWidth_of_le (by decide), BitVec.toNat_setWidth_of_le (by decide)]
    omega
  rw [hratio]
  split_ifs with h₁ h₂ h₂ <;> simp only [BitVec.lt_def, hm, hp] at * <;> omega

/-- What one of the three branches of the P10 method returns, and the adder it leaves. -/
structure Branch (c : OcsConfig) (r : BitVec 32 × Ocs) : Prop where
  ratio : r.1 ≤ c.maxCeffRatio
  add : r.2.vddOcCeffAdd.toNat ≤ c.maxCeffRatio.toNat

theorem p10Method_eq (c : OcsConfig) (w : Ocs) (i : OcsInput) : w.p10Method c i =
    ((w.p10Branch c i).1, { (w.p10Branch c i).2 with vddCeffRatioAdjPrev := (w.p10Branch c i).1.setWidth 16 }) := rfl

theorem clip_le (c : OcsConfig) (ratio : BitVec 32) : c.clip ratio ≤ c.maxCeffRatio := by
  unfold OcsConfig.clip
  split_ifs with h
  · exact BitVec.le_refl _
  · exact BitVec.not_lt.1 h

theorem p10Branch_spec (hfits : c.Fits) (h : OcsInv c w) (hi : i.Fits c) (hp10 : i.p10Ocs = true) :
    Branch c (w.p10Branch c i) := by
  unfold Ocs.p10Branch
  split_ifs with hclean hact
  · refine ⟨clean_bound h (clip_le c _), ?_⟩
    rw [clean_add]
    exact (Nat.sub_le _ _).trans h.add
  · constructor
    · rw [BitVec.le_def, act_ratio hfits h (hi.act ⟨hp10, hact⟩)]
      exact min_le_left _ _
    · rw [act_add (i := i) hfits h]
      exact min_le_left _ _
  · exact ⟨hold_bound w (clip_le c _) (hi.hold ⟨hp10, hclean, hact⟩), h.add⟩

theorem not_act_of_clean (h : i.Clean) : ¬i.Act := by
  rintro ⟨-, hact⟩
  have hclean := h.2
  rw [hact] at hclean
  exact absurd hclean (by decide)

theorem callLaw_p10 (hfits : c.Fits) (h : OcsInv c w) (hi : i.Fits c) (hp10 : i.p10Ocs = true) :
    OcsCallLaw c w i (w.p10Method c i).1 (w.p10Method c i).2 := by
  obtain ⟨hratio, hadd⟩ := p10Branch_spec hfits h hi hp10
  have hkept : ((w.p10Branch c i).1.setWidth 16).toNat = (w.p10Branch c i).1.toNat := by
    have hle := BitVec.le_def.1 hratio
    unfold OcsConfig.Fits at hfits
    rw [BitVec.toNat_setWidth]
    omega
  rw [p10Method_eq]
  refine ⟨?_, hadd, ?_, ?_, fun hact => ?_, fun hclean => ?_⟩
  · rw [if_pos hp10]
    exact hratio
  · exact hkept.trans_le hratio
  · rw [if_pos hp10]
    exact hkept
  · have hbranch : w.p10Branch c i = w.act c i := by
      unfold Ocs.p10Branch
      rw [if_neg fun hc => not_act_of_clean ⟨hp10, hc⟩ hact, if_pos hact.2]
    rw [hbranch]
    refine ⟨act_add (i := i) hfits h, ?_⟩
    rw [act_ratio hfits h (hi.act hact)]
    exact min_le_min_left _ (max_le_max_right _ (Nat.le_add_right _ _))
  · have hbranch : w.p10Branch c i =
        w.clean c i (c.clip i.ceffRatio) := by
      unfold Ocs.p10Branch
      exact if_pos hclean.2
    rw [hbranch]
    exact clean_add w i _

theorem callLaw_p9 (h : OcsInv c w) (hp9 : i.p10Ocs = false) :
    OcsCallLaw c w i (w.p9Method i).1 (w.p9Method i).2 := by
  obtain ⟨hratio, hadd, hprev⟩ := p9Method_spec w i
  have hno : ¬i.p10Ocs = true := by rw [hp9]; exact Bool.false_ne_true
  refine ⟨?_, ?_, ?_, ?_, fun hact => absurd hact.1 hno, fun hclean => absurd hclean.1 hno⟩
  · rw [if_neg hno]
    exact hratio
  · rw [hadd]
    exact h.add
  · rw [hprev]
    exact h.prev
  · rw [if_neg hno]
    exact ⟨hprev, hadd⟩

theorem callLaw (hfits : c.Fits) (h : OcsInv c w) (hi : i.Fits c) :
    OcsCallLaw c w i (w.preventOverCurrent c i).1 (w.preventOverCurrent c i).2 := by
  unfold Ocs.preventOverCurrent
  by_cases hp10 : i.p10Ocs = true
  · rw [if_pos hp10]
    exact callLaw_p10 hfits h hi hp10
  · rw [if_neg hp10]
    exact callLaw_p9 h (Bool.eq_false_iff.2 hp10)

end Call

/-! ## Runs -/

section Runs

variable {c : OcsConfig} {w : Ocs} {inputs : List OcsInput}

theorem Ocs.run_concat (c : OcsConfig) (w : Ocs) (inputs : List OcsInput) (i : OcsInput) :
    w.run c (inputs ++ [i]) = ((w.run c inputs).preventOverCurrent c i).2 := by
  rw [run, List.foldl_append]
  rfl

theorem ocsInv_run (hfits : c.Fits) (hok : ∀ i ∈ inputs, i.Fits c) : OcsInv c (Ocs.boot.run c inputs) := by
  induction inputs using List.reverseRecOn with
  | nil => exact ocsInv_boot c
  | append_singleton inputs i ih =>
    rw [List.forall_mem_append, List.forall_mem_singleton] at hok
    have hcall := callLaw hfits (ih hok.1) hok.2
    rw [Ocs.run_concat]
    exact ⟨hcall.add, hcall.prev⟩

theorem decay_run (hfits : c.Fits) {before cleans : List OcsInput} (hok : ∀ i ∈ before ++ cleans, i.Fits c)
    (hclean : ∀ i ∈ cleans, i.Clean) : (Ocs.boot.run c (before ++ cleans)).vddOcCeffAdd.toNat =
      (Ocs.boot.run c before).vddOcCeffAdd.toNat - cleans.length * c.ocsDecreaseCeff.toNat := by
  induction cleans using List.reverseRecOn with
  | nil => simp
  | append_singleton cleans i ih =>
    rw [← List.append_assoc, List.forall_mem_append, List.forall_mem_singleton] at hok
    rw [List.forall_mem_append, List.forall_mem_singleton] at hclean
    have hcall := (callLaw hfits (ocsInv_run hfits hok.1) hok.2).clean hclean.2
    rw [← List.append_assoc, Ocs.run_concat, hcall, ih hok.1 hclean.1, List.length_append, List.length_singleton,
      Nat.add_mul, Nat.one_mul, Nat.sub_sub]

/-- The law of the adder, for every sequence of inputs. -/
theorem ocsLaw_run (c : OcsConfig) (inputs : List OcsInput) (hfits : c.Fits) (hok : ∀ i ∈ inputs, i.Fits c) :
    OcsLaw c inputs := by
  refine ⟨?_, ?_, ?_⟩
  · rintro before i after rfl
    rw [List.forall_mem_append, List.forall_mem_cons] at hok
    rw [Ocs.run_concat]
    exact callLaw hfits (ocsInv_run hfits hok.1) hok.2.1
  · rintro before cleans after rfl hclean
    rw [List.forall_mem_append] at hok
    exact decay_run hfits hok.1 hclean
  · rintro before cleans after rfl hclean hlong
    rw [List.forall_mem_append] at hok
    have hadd := (ocsInv_run hfits (List.forall_mem_append.1 hok.1).1).add
    apply BitVec.eq_of_toNat_eq
    rw [decay_run hfits hok.1 hclean]
    exact Nat.sub_eq_zero_of_le (hadd.trans hlong)

end Runs

/-! ## The header of the tables -/

theorem ocsConfig_max {h : WofHeader} (hsize : 0 < h.vddSize.toNat) :
    h.ocsConfig.maxCeffRatio.toNat = h.vddStart.toNat + h.vddStep.toNat * (h.vddSize.toNat - 1) := by
  have hstart := h.vddStart.isLt
  have hstep : h.vddStep.toNat ≤ 65535 := Nat.le_of_lt_succ h.vddStep.isLt
  have hlast : h.vddSize.toNat - 1 ≤ 65534 := by have := h.vddSize.isLt; omega
  have hmul : h.vddStep.toNat * (h.vddSize.toNat - 1) ≤ 65535 * 65534 := Nat.mul_le_mul hstep hlast
  have hsub : (h.vddSize.setWidth 32 - 1).toNat = h.vddSize.toNat - 1 := by
    have hone : (1 : BitVec 32) ≤ h.vddSize.setWidth 32 := by
      rw [BitVec.le_def, BitVec.toNat_setWidth_of_le (by decide)]
      exact hsize
    rw [BitVec.toNat_sub_of_le hone, BitVec.toNat_setWidth_of_le (by decide)]
    rfl
  unfold WofHeader.ocsConfig
  rw [BitVec.toNat_add, BitVec.toNat_mul, hsub, BitVec.toNat_setWidth_of_le (by decide),
    BitVec.toNat_setWidth_of_le (by decide), Nat.mod_eq_of_lt (b := 2 ^ 32) (by omega), Nat.mod_eq_of_lt (by omega)]

/-- The adder has room when one step more than the header has would still be a 16-bit ratio. -/
theorem ocsConfig_fits_iff {h : WofHeader} (hsize : 0 < h.vddSize.toNat) :
    h.ocsConfig.Fits ↔ h.vddStart.toNat + h.vddStep.toNat * h.vddSize.toNat < 2 ^ 16 := by
  obtain ⟨n, hn⟩ : ∃ n, h.vddSize.toNat = n + 1 := ⟨h.vddSize.toNat - 1, by omega⟩
  have hinc : h.ocsConfig.ocsIncreaseCeff = h.vddStep := rfl
  rw [OcsConfig.Fits, ocsConfig_max hsize, hinc, hn, Nat.add_sub_cancel, Nat.mul_succ, Nat.add_assoc]

/-- Twenty-one steps of 5 percent. -/
def sampleHeader : WofHeader := ⟨6, 0, 500, 21, 0, 500, 21⟩

/-- An over-current to act on, and one step of decrease after it. -/
def sampleInputs : List OcsInput := [⟨9000, 0x60, true, false⟩, ⟨9000, 0, true, false⟩]

theorem ocsLaw_run_sample : OcsLaw sampleHeader.ocsConfig sampleInputs := by
  apply ocsLaw_run sampleHeader.ocsConfig sampleInputs
  · unfold OcsConfig.Fits
    decide
  · simp only [sampleInputs, List.forall_mem_cons, List.not_mem_nil, false_imp_iff, implies_true, and_true]
    constructor
    · exact ⟨fun _ => by decide, fun _ h => absurd h (by decide)⟩
    · exact ⟨fun _ => by decide, fun _ h => absurd h (by decide)⟩

/-- With the debug option, an over-current of the hold type returns a measured ratio of 2.0 as it is. -/
theorem hold_past_max :
    ¬(Ocs.boot.preventOverCurrent sampleHeader.ocsConfig ⟨20000, 0x40, true, true⟩).1 ≤
      sampleHeader.ocsConfig.maxCeffRatio ∧
    ¬(Ocs.boot.preventOverCurrent sampleHeader.ocsConfig ⟨20000, 0x40, true, true⟩).2.vddCeffRatioAdjPrev.toNat ≤
      sampleHeader.ocsConfig.maxCeffRatio.toNat := by
  decide

end Occ.Wof
