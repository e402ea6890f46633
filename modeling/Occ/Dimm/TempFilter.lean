/-
The filter of DIMM temperatures (`process_dimm_temp`, with `mark_dimm_failed` for a reading that failed, in `dimm.c`): a reading
out of the range is replaced by the last one, and one that changes too fast is held to the largest step. The request of an I2C
reset after a failure is that of the state machine and left out here.
-/
import Occ.Amec.Health
import Occ.Lib.Transition

namespace Occ.Dimm.TempFilter

open Occ.Mask Occ.Amec Transition
open Function (update)

/-! ## Model -/

def minValidDimmTemp : BitVec 8 := 1
def maxValidDimmTemp : BitVec 8 := 125
def maxMemTempChange : Nat := 16

def fruSensorStatusError : BitVec 8 := 0x02
def fruTempOutOfRange : BitVec 8 := 0x08
def fruTempFastChange : BitVec 8 := 0x20

abbrev Port := Fin 2
abbrev DimmId := Fin 8

/-- The parts of `fru_temp_t` and `dimmData_t`, and the sample of `tempdimm`. -/
structure DimmData where
  curTemp : BitVec 8
  flags : BitVec 8
  tempdimm : BitVec 16
  errorCount : BitVec 8
  disabled : Bool
deriving DecidableEq, Repr

structure Temps where
  dimms : Port × DimmId → DimmData
  /-- `G_dimm_temp_updated_bitmap` and `G_dimm_overtemp_bitmap` -/
  updated : DimmFlags
  overtemp : DimmFlags

def Temps.boot : Temps := ⟨fun _ => ⟨0, 0, 0, 0, false⟩, fun _ => 0, fun _ => 0⟩

/-- A temperature in the reasonable range. -/
def InRange (temp : BitVec 8) : Prop := ¬(temp < minValidDimmTemp ∨ temp > maxValidDimmTemp)

instance (temp : BitVec 8) : Decidable (InRange temp) := inferInstanceAs (Decidable (¬_))

/-- The first reading is its own predecessor. -/
def prevTemp (cur temp : BitVec 8) : BitVec 8 := if cur = 0 then temp else cur

/-- A reading in the range, and the flags: the comparisons are made on integers. -/
def limitChange (prev temp flags : BitVec 8) : BitVec 8 × BitVec 8 :=
  let fast := if flags = 0 then flags ||| fruTempFastChange else flags
  if prev.toNat + maxMemTempChange < temp.toNat then (prev + 16, fast)
  else if (temp.toNat : Int) < prev.toNat - maxMemTempChange then (prev - 16, fast)
  else (temp, flags &&& ~~~fruTempFastChange)

namespace Temps

variable (s : Temps)

/-- `process_dimm_temp`, with `thermaldimm.ot_error` -/
def processDimmTemp (otError : BitVec 8) (i : Port × DimmId) (temp : BitVec 8) : Temps :=
  let d := s.dimms i
  let prev := prevTemp d.curTemp temp
  let r := if InRange temp then
      ((limitChange prev temp d.flags).1, (limitChange prev temp d.flags).2 &&& fruTempFastChange,
        markDimm s.updated i.1 i.2)
    else (prev, d.flags ||| fruTempOutOfRange, s.updated)
  { dimms := update s.dimms i
      { d with curTemp := r.1, flags := r.2.1, tempdimm := r.1.setWidth 16, errorCount := 0 }
    updated := r.2.2
    overtemp := if otError ≤ r.1 then markDimm s.overtemp i.1 i.2 else s.overtemp }

/-- `mark_dimm_failed`, with `G_dimm_timeout_logged_bitmap` -/
def markDimmFailed (timeoutLogged : DimmFlags) (i : Port × DimmId) : Temps :=
  let d := s.dimms i
  let d := { d with
    flags := d.flags ||| fruSensorStatusError
    errorCount := if d.errorCount < 255 then d.errorCount + 1 else d.errorCount
    disabled := d.disabled || On (timeoutLogged i.1) i.2 }
  { s with dimms := update s.dimms i d }

end Temps

/-! ## Runs -/

inductive Reading
  | temp (otError : BitVec 8) (i : Port × DimmId) (temp : BitVec 8)
  | failed (timeoutLogged : DimmFlags) (i : Port × DimmId)

def Temps.step (s : Temps) : Reading → Temps
  | .temp otError i temp => s.processDimmTemp otError i temp
  | .failed timeoutLogged i => s.markDimmFailed timeoutLogged i

def filterNext (s : Temps) (e : Reading) : Option Temps := some (s.step e)

/-- A reading that failed or is out of the range. -/
def Rejected : Reading → Prop
  | .temp _ _ temp => ¬InRange temp
  | .failed .. => True

/-- A valid temperature stays valid and changes by the step at most, and a rejected reading changes no temperature and sets no
bit. -/
structure FilterLaw (s : Temps) (e : Reading) : Prop where
  range : ∀ i, InRange (s.dimms i).curTemp → InRange ((s.step e).dimms i).curTemp
  change : ∀ i, InRange (s.dimms i).curTemp →
    ((s.step e).dimms i).curTemp.toNat ≤ (s.dimms i).curTemp.toNat + maxMemTempChange ∧
      (s.dimms i).curTemp.toNat ≤ ((s.step e).dimms i).curTemp.toNat + maxMemTempChange
  rejected : Rejected e → (∀ i, ((s.step e).dimms i).curTemp = (s.dimms i).curTemp) ∧
    (s.step e).updated = s.updated ∧ (s.step e).overtemp = s.overtemp

/-- A reading out of the range that is not 0 finds a temperature, and one that finds a temperature from the error temperature on
finds the bit set. -/
def FilterOk (s : Temps) : Reading → Prop
  | .temp otError i temp => ¬InRange temp →
      ((s.dimms i).curTemp = 0 → temp = 0) ∧ (otError ≤ (s.dimms i).curTemp → On (s.overtemp i.1) i.2 = true)
  | .failed .. => True

section
variable {s t : Temps} {otError temp : BitVec 8} {i : Port × DimmId}

theorem inRange_iff : InRange temp ↔ 1 ≤ temp.toNat ∧ temp.toNat ≤ 125 := by
  have hmin : temp < minValidDimmTemp ↔ temp.toNat < 1 := Iff.rfl
  have hmax : temp > maxValidDimmTemp ↔ temp.toNat > 125 := Iff.rfl
  unfold InRange
  rw [hmin, hmax]
  omega

theorem limitChange_spec {prev : BitVec 8} (flags : BitVec 8) (hprev : InRange prev) (htemp : InRange temp) :
    InRange (limitChange prev temp flags).1 ∧
      (limitChange prev temp flags).1.toNat ≤ prev.toNat + maxMemTempChange ∧
      prev.toNat ≤ (limitChange prev temp flags).1.toNat + maxMemTempChange := by
  rw [inRange_iff] at *
  have hstep : (16 : BitVec 8).toNat = 16 := rfl
  have hmax : maxMemTempChange = 16 := rfl
  unfold limitChange
  dsimp only
  by_cases hrose : prev.toNat + maxMemTempChange < temp.toNat
  · rw [if_pos hrose, BitVec.toNat_add, hstep]
    omega
  · rw [if_neg hrose]
    by_cases hfell : (temp.toNat : Int) < prev.toNat - maxMemTempChange
    · rw [if_pos hfell, BitVec.toNat_sub, hstep]
      omega
    · rw [if_neg hfell]
      dsimp only
      omega

theorem not_zero_of_inRange (h : InRange temp) : temp ≠ 0 := by
  rintro rfl
  exact h (.inl (by decide))

theorem curTemp_processDimmTemp : ((s.processDimmTemp otError i temp).dimms i).curTemp =
    if InRange temp then (limitChange (prevTemp (s.dimms i).curTemp temp) temp (s.dimms i).flags).1
    else prevTemp (s.dimms i).curTemp temp := by
  unfold Temps.processDimmTemp
  dsimp only
  rw [Function.update_self]
  split_ifs <;> rfl

theorem dimms_processDimmTemp {k : Port × DimmId} (hk : k ≠ i) :
    (s.processDimmTemp otError i temp).dimms k = s.dimms k := by
  unfold Temps.processDimmTemp
  exact Function.update_of_ne hk _ _

theorem curTemp_markDimmFailed (timeoutLogged : DimmFlags) (k : Port × DimmId) :
    ((s.markDimmFailed timeoutLogged i).dimms k).curTemp = (s.dimms k).curTemp := by
  unfold Temps.markDimmFailed
  dsimp only
  by_cases hk : k = i
  · rw [hk, Function.update_self]
  · rw [Function.update_of_ne hk]

/-- A temperature in the range stays there, and changes by the step at most. -/
theorem filtered (e : Reading) (k : Port × DimmId) (hcur : InRange (s.dimms k).curTemp) :
    InRange ((s.step e).dimms k).curTemp ∧
      ((s.step e).dimms k).curTemp.toNat ≤ (s.dimms k).curTemp.toNat + maxMemTempChange ∧
      (s.dimms k).curTemp.toNat ≤ ((s.step e).dimms k).curTemp.toNat + maxMemTempChange := by
  have hsame : InRange (s.dimms k).curTemp ∧ (s.dimms k).curTemp.toNat ≤ (s.dimms k).curTemp.toNat + maxMemTempChange ∧
      (s.dimms k).curTemp.toNat ≤ (s.dimms k).curTemp.toNat + maxMemTempChange :=
    ⟨hcur, Nat.le_add_right _ _, Nat.le_add_right _ _⟩
  cases e with
  | failed timeoutLogged i =>
    show InRange ((s.markDimmFailed timeoutLogged i).dimms k).curTemp ∧ _
    unfold Temps.step
    rw [curTemp_markDimmFailed]
    exact hsame
  | temp otError i temp =>
    unfold Temps.step
    dsimp only
    by_cases hk : k = i
    · subst hk
      have hprev : prevTemp (s.dimms k).curTemp temp = (s.dimms k).curTemp := if_neg (not_zero_of_inRange hcur)
      rw [curTemp_processDimmTemp, hprev]
      by_cases htemp : InRange temp
      · rw [if_pos htemp]
        exact limitChange_spec _ hcur htemp
      · rw [if_neg htemp]
        exact hsame
    · rw [dimms_processDimmTemp hk]
      exact hsame

/-- Once a temperature is valid, it stays so in every run. -/
theorem inRange_run {es : List Reading} (hrun : Run (StepOf filterNext) s es t) (hs : InRange (s.dimms i).curTemp) :
    InRange (t.dimms i).curTemp := by
  refine hrun.invariant (P := fun t : Temps => InRange (t.dimms i).curTemp) ?_ hs
  rintro s e t hs ⟨⟩
  exact (filtered e i hs).1

theorem markDimm_eq_iff {flags : DimmFlags} : markDimm flags i.1 i.2 = flags ↔ On (flags i.1) i.2 = true := by
  constructor
  · rintro heq
    have hon : On (markDimm flags i.1 i.2 i.1) i.2 = true := by
      unfold markDimm
      rw [Function.update_self, on_set]
      simp [i.2.isLt]
    rw [heq] at hon
    exact hon
  · rintro hon
    unfold markDimm
    rw [Function.update_eq_self_iff]
    refine BitVec.eq_of_getMsbD_eq fun j _ => ?_
    rw [← on_eq_getMsbD, ← on_eq_getMsbD, on_set]
    by_cases hj : j = i.2
    · rw [hj, hon]
      rfl
    · simp [hj]

/-- A reading out of the range. -/
theorem rejected_temp_iff (htemp : ¬InRange temp) :
    ((∀ k, ((s.processDimmTemp otError i temp).dimms k).curTemp = (s.dimms k).curTemp) ∧
        (s.processDimmTemp otError i temp).updated = s.updated ∧ (s.processDimmTemp otError i temp).overtemp = s.overtemp) ↔
      ((s.dimms i).curTemp = 0 → temp = 0) ∧ (otError ≤ (s.dimms i).curTemp → On (s.overtemp i.1) i.2 = true) := by
  have hcur : (∀ k, ((s.processDimmTemp otError i temp).dimms k).curTemp = (s.dimms k).curTemp) ↔
      prevTemp (s.dimms i).curTemp temp = (s.dimms i).curTemp := by
    have hi := @curTemp_processDimmTemp s otError temp i
    rw [if_neg htemp] at hi
    constructor
    · rintro hall
      exact hi.symm.trans (hall i)
    · rintro hprev k
      by_cases hk : k = i
      · rw [hk, hi, hprev]
      · rw [dimms_processDimmTemp hk]
  have hprev : prevTemp (s.dimms i).curTemp temp = (s.dimms i).curTemp ↔ ((s.dimms i).curTemp = 0 → temp = 0) := by
    unfold prevTemp
    by_cases hzero : (s.dimms i).curTemp = 0
    · rw [if_pos hzero, hzero]
      exact ⟨fun h _ => h, fun h => h rfl⟩
    · rw [if_neg hzero]
      exact ⟨fun _ h => absurd h hzero, fun _ => rfl⟩
  have hupdated : (s.processDimmTemp otError i temp).updated = s.updated := by
    unfold Temps.processDimmTemp
    dsimp only
    rw [if_neg htemp]
  have hovertemp : (s.processDimmTemp otError i temp).overtemp =
      if otError ≤ prevTemp (s.dimms i).curTemp temp then markDimm s.overtemp i.1 i.2 else s.overtemp := by
    unfold Temps.processDimmTemp
    dsimp only
    rw [if_neg htemp]
  rw [hcur, hovertemp]
  constructor
  · rintro ⟨hsame, -, hbits⟩
    refine ⟨hprev.1 hsame, fun hhot => ?_⟩
    rw [hsame, if_pos hhot] at hbits
    exact markDimm_eq_iff.1 hbits
  · rintro ⟨hfirst, hhot⟩
    have hsame := hprev.2 hfirst
    refine ⟨hsame, hupdated, ?_⟩
    rw [hsame]
    split_ifs with h
    · exact markDimm_eq_iff.2 (hhot h)
    · rfl

theorem filterLaw_iff (e : Reading) : FilterLaw s e ↔ FilterOk s e := by
  cases e with
  | failed timeoutLogged i =>
    refine ⟨fun _ => trivial, fun _ => ⟨fun k hk => (filtered _ k hk).1, fun k hk => (filtered _ k hk).2, fun _ => ?_⟩⟩
    exact ⟨fun k => @curTemp_markDimmFailed s i timeoutLogged k, rfl, rfl⟩
  | temp otError i temp =>
    constructor
    · rintro ⟨-, -, hrejected⟩ htemp
      exact (rejected_temp_iff htemp).1 (hrejected htemp)
    · rintro hok
      exact ⟨fun k hk => (filtered _ k hk).1, fun k hk => (filtered _ k hk).2, fun htemp => (rejected_temp_iff htemp).2 (hok htemp)⟩

/-- All readings of a run have the law if and only if all of them meet the condition. -/
theorem filterLaw_run {es : List Reading} :
    Run (Guarded FilterLaw (StepOf filterNext)) s es t ↔ Run (Guarded FilterOk (StepOf filterNext)) s es t :=
  run_guarded_congr (P := fun _ => True) (fun _ _ _ _ _ => trivial) (fun _ e _ _ _ => filterLaw_iff e) trivial

end

/-- A first reading of 200 is stored, and marks the DIMM as over its error temperature. -/
theorem first_reading_200 : (((Temps.boot.step (.temp 85 (0, 0) 200)).dimms (0, 0)).curTemp = 200) ∧
    On ((Temps.boot.step (.temp 85 (0, 0) 200)).overtemp 0) 0 = true ∧ ¬FilterLaw .boot (.temp 85 (0, 0) 200) := by
  refine ⟨by decide, by decide, ?_⟩
  rintro ⟨-, -, hrejected⟩
  exact absurd ((hrejected (show ¬InRange 200 by decide)).1 (0, 0)) (by decide)

end Occ.Dimm.TempFilter
