/-
The utilization controller of dynamic power saving (`amec_dps_partition_update_sensors`, `amec_dps_partition_alg`): the slack
of the core group gives its utilization, and the speed request goes up and down by the steps of the tunable parameters.
-/
import Occ.Amec.DpsWindow
import Occ.Cmdh.TunableWrite
import Occ.Dcom.InboxTx
import Mathlib.Algebra.BigOperators.Fin
import Mathlib.Algebra.Order.BigOperators.Group.Finset

namespace Occ.Amec.Dps

open Dcom Cmdh Transition

/-! ## Model -/

/-- `sys.max_speed` -/
def maxSpeed : BitVec 16 := 1000

/-- The parameters of a policy: values within the limits of the tunable table, each with its multiplier. -/
def TunablesAdmit (p : TunableParams) : Prop :=
  ∃ values : Vector (BitVec 16) 10,
    (∀ i, (getElem mstTunableParameterTable i (tunable_lt i)).min ≤ getElem values i (tunable_lt i) ∧
      getElem values i (tunable_lt i) ≤ (getElem mstTunableParameterTable i (tunable_lt i)).max) ∧
      p = tunableParams (Vector.ofFn fun i =>
        getElem values i (tunable_lt i) * (getElem mstTunableParameterTable i (tunable_lt i)).multiplier)

/-- What a core group has of its policy; the speeds of `part_mode_freq` are in order. -/
structure DpsPolicy where
  params : TunableParams
  minSpeed : BitVec 16
  fmax : BitVec 16
  admitted : TunablesAdmit params
  minSpeed_le : minSpeed ≤ maxSpeed

/-- `dpsalg.util_speed_request` and `dpsalg.freq_request` of the group, the sample of `util2msslack` and the
`dps_freq_request` of the cores. -/
structure DpsControl where
  utilSpeedRequest : BitVec 16
  freqRequest : BitVec 16
  util2msslack : BitVec 16
  dpsFreqRequest : DpsCore → BitVec 16

/-- The accumulators of all cores of the group, added up. -/
def groupSum (f : DpsCore → BitVec 32) : BitVec 32 := (List.ofFn f).sum

/-- `amec_dps_partition_update_sensors` -/
def utilSlackPerc (cores : DpsCore → CorePerf) : BitVec 16 :=
  let active := groupSum fun i => (cores i).active.accumulator
  let slack := groupSum fun i => (cores i).slack.accumulator
  -- no active cores are 100 % slack
  if active = 0 then 16384 else (slack <<< 14 / active).setWidth 16

/-- The level of utilization, 10000 for 100 %. -/
def utilLevel (slackPerc : BitVec 16) : BitVec 16 := (10000 : BitVec 16) - (slackPerc.setWidth 32 <<< 15 / 53687).setWidth 16

/-- `amec_controller_speed2freq` -/
def speed2freq (speed fmax : BitVec 16) : BitVec 16 :=
  if maxSpeed ≤ speed then 0xFFFF else (speed.setWidth 32 * fmax.setWidth 32 / 1000).setWidth 16

/-- The request before it is limited. -/
def utilSpeed (alg : DpsAlg) (level request : BitVec 16) : BitVec 16 :=
  if alg.alphaUp < level then request + alg.stepUp
  else if level < alg.alphaDown then request - alg.stepDown
  else request

/-- The speed within the allowed speeds. -/
def limitSpeed (minSpeed speed : BitVec 16) : BitVec 16 :=
  let speed := if maxSpeed < speed then maxSpeed else speed
  if speed < minSpeed then minSpeed else speed

namespace DpsControl

variable (s : DpsControl)

def amecDpsPartitionUpdateSensors (cores : DpsCore → CorePerf) : DpsControl := { s with util2msslack := utilSlackPerc cores }

/-- `amec_dps_partition_alg` of the core group. -/
def amecDpsPartitionAlg (alg : DpsAlg) (minSpeed fmax : BitVec 16) : DpsControl :=
  if alg.type = 0 then { s with dpsFreqRequest := fun _ => 0xFFFF }
  else if alg.type = 41 then
    let speed := limitSpeed minSpeed (utilSpeed alg (utilLevel s.util2msslack) s.utilSpeedRequest)
    let freq := speed2freq speed fmax
    { s with utilSpeedRequest := speed, freqRequest := freq, dpsFreqRequest := fun _ => freq }
  else s

/-- The part of `amec_dps_main` for a group whose policy is one of dynamic power saving. -/
def amecDpsMain (p : DpsPolicy) (cores : DpsCore → CorePerf) : DpsControl :=
  (s.amecDpsPartitionUpdateSensors cores).amecDpsPartitionAlg p.params.dpsalg p.minSpeed p.fmax

end DpsControl

/-- A step of the controller, on the accumulators of a tick. -/
def controlStep (p : DpsPolicy) (s : DpsControl) (cores : DpsCore → CorePerf) : Option DpsControl :=
  some (s.amecDpsMain p cores)

/-! ## The parameters -/

section
variable {p : TunableParams}

theorem TunablesAdmit.bounds (h : TunablesAdmit p) :
    p.alphaUp.toNat ≤ 10000 ∧ p.alphaDown.toNat ≤ 10000 ∧ (1 ≤ p.stepUp.toNat ∧ p.stepUp.toNat ≤ 1000) ∧
      1 ≤ p.stepDown.toNat ∧ p.stepDown.toNat ≤ 1000 := by
  obtain ⟨values, hvalues, rfl⟩ := h
  have hten : ∀ x : BitVec 16, x.toNat ≤ 1000 → (x * 10).toNat ≤ 10000 := by
    rintro x hx
    have hfactor : (10 : BitVec 16).toNat = 10 := rfl
    rw [BitVec.toNat_mul, hfactor]
    exact (Nat.mod_le _ _).trans (by omega)
  have hone : ∀ x : BitVec 16, x * 1 = x := fun x => BitVec.mul_one x
  refine ⟨?_, ?_, ?_, ?_⟩
  · exact hten values[0] (hvalues 0).2
  · exact hten values[1] (hvalues 1).2
  · show 1 ≤ (values[3] * 1).toNat ∧ (values[3] * 1).toNat ≤ 1000
    rw [hone]
    exact hvalues 3
  · show 1 ≤ (values[4] * 1).toNat ∧ (values[4] * 1).toNat ≤ 1000
    rw [hone]
    exact hvalues 4

end

/-! ## One step -/

/-- The level of utilization that a tick finds. -/
def levelOf (cores : DpsCore → CorePerf) : BitVec 16 := utilLevel (utilSlackPerc cores)

/-- The slack of the group without the limit of a word. -/
def slackTotal (cores : DpsCore → CorePerf) : Nat := (List.ofFn fun i => (cores i).slack.accumulator.toNat).sum

def activeTotal (cores : DpsCore → CorePerf) : Nat := (List.ofFn fun i => (cores i).active.accumulator.toNat).sum

/-- The request is inside the range of the policy. -/
def InPolicy (p : DpsPolicy) (s : DpsControl) : Prop := p.minSpeed ≤ s.utilSpeedRequest ∧ s.utilSpeedRequest ≤ maxSpeed

/-- What a tick does to the request. -/
structure ControlLaw (p : DpsPolicy) (s : DpsControl) (cores : DpsCore → CorePerf) : Prop where
  range : InPolicy p (s.amecDpsMain p cores)
  notLowered : p.params.alphaUp ≤ levelOf cores → s.utilSpeedRequest ≤ (s.amecDpsMain p cores).utilSpeedRequest
  notRaised : levelOf cores ≤ p.params.alphaDown → (s.amecDpsMain p cores).utilSpeedRequest ≤ s.utilSpeedRequest
  noUnderflow : levelOf cores ≤ p.params.alphaUp → levelOf cores < p.params.alphaDown →
    p.params.stepDown ≤ s.utilSpeedRequest
  noOverflow : slackTotal cores * 2 ^ 14 < 2 ^ 32

/-- A step down is at most the request, and at the upper threshold there is nothing below it; nothing is above the request
where a level that is not above the lower threshold is above the upper one; and the slack fits 18 bits. -/
structure ControlOk (p : DpsPolicy) (s : DpsControl) (cores : DpsCore → CorePerf) : Prop where
  down : levelOf cores ≤ p.params.alphaUp → levelOf cores < p.params.alphaDown →
    p.params.stepDown ≤ s.utilSpeedRequest ∧ (levelOf cores = p.params.alphaUp → s.utilSpeedRequest = p.minSpeed)
  up : p.params.alphaUp < levelOf cores → levelOf cores ≤ p.params.alphaDown → s.utilSpeedRequest = maxSpeed
  slack : slackTotal cores < 2 ^ 18

section
variable {p : DpsPolicy} {s : DpsControl} {cores : DpsCore → CorePerf}

theorem utilSpeedRequest_alg {alg : DpsAlg} (htype : alg.type = 41) (minSpeed fmax : BitVec 16) :
    (s.amecDpsPartitionAlg alg minSpeed fmax).utilSpeedRequest =
      limitSpeed minSpeed (utilSpeed alg (utilLevel s.util2msslack) s.utilSpeedRequest) := by
  have hnot : ¬alg.type = 0 := by
    rw [htype]
    decide
  unfold DpsControl.amecDpsPartitionAlg
  rw [if_neg hnot, if_pos htype]

theorem utilSpeedRequest_main : (s.amecDpsMain p cores).utilSpeedRequest =
    limitSpeed p.minSpeed (utilSpeed p.params.dpsalg (levelOf cores) s.utilSpeedRequest) := by
  have htype : p.params.dpsalg.type = 41 := rfl
  unfold DpsControl.amecDpsMain DpsControl.amecDpsPartitionUpdateSensors levelOf
  generalize utilSlackPerc cores = slackPerc
  exact utilSpeedRequest_alg htype p.minSpeed p.fmax

theorem toNat_limitSpeed {minSpeed : BitVec 16} (hmin : minSpeed ≤ maxSpeed) (speed : BitVec 16) :
    (limitSpeed minSpeed speed).toNat = max minSpeed.toNat (min 1000 speed.toNat) := by
  have hmin : minSpeed.toNat ≤ 1000 := hmin
  have hmax : maxSpeed.toNat = 1000 := rfl
  unfold limitSpeed
  dsimp only
  by_cases hhigh : maxSpeed < speed
  · have hnat : maxSpeed.toNat < speed.toNat := hhigh
    have hnot : ¬maxSpeed < minSpeed := fun hlt => absurd (show maxSpeed.toNat < minSpeed.toNat from hlt) (by omega)
    rw [if_pos hhigh, if_neg hnot, hmax]
    omega
  · have hnat : speed.toNat ≤ maxSpeed.toNat := Nat.not_lt.1 hhigh
    rw [if_neg hhigh]
    by_cases hlow : speed < minSpeed
    · have : speed.toNat < minSpeed.toNat := hlow
      rw [if_pos hlow]
      omega
    · have : minSpeed.toNat ≤ speed.toNat := Nat.not_lt.1 hlow
      rw [if_neg hlow]
      omega

theorem inPolicy_main : InPolicy p (s.amecDpsMain p cores) := by
  have hmin : p.minSpeed.toNat ≤ 1000 := p.minSpeed_le
  have hmax : maxSpeed.toNat = 1000 := rfl
  have hspeed := toNat_limitSpeed p.minSpeed_le (utilSpeed p.params.dpsalg (levelOf cores) s.utilSpeedRequest)
  unfold InPolicy
  rw [utilSpeedRequest_main]
  constructor
  · show p.minSpeed.toNat ≤ (limitSpeed _ _).toNat
    omega
  · show (limitSpeed _ _).toNat ≤ maxSpeed.toNat
    omega

/-- The request of a tick: raised, lowered, wrapped and cut to the maximum, or kept. -/
theorem toNat_utilSpeedRequest_main (hs : InPolicy p s) :
    (p.params.alphaUp < levelOf cores ∧
        (s.amecDpsMain p cores).utilSpeedRequest.toNat = min 1000 (s.utilSpeedRequest.toNat + p.params.stepUp.toNat)) ∨
      ¬p.params.alphaUp < levelOf cores ∧
        (levelOf cores < p.params.alphaDown ∧
            (p.params.stepDown.toNat ≤ s.utilSpeedRequest.toNat ∧ (s.amecDpsMain p cores).utilSpeedRequest.toNat =
                max p.minSpeed.toNat (s.utilSpeedRequest.toNat - p.params.stepDown.toNat) ∨
              s.utilSpeedRequest.toNat < p.params.stepDown.toNat ∧
                (s.amecDpsMain p cores).utilSpeedRequest.toNat = 1000) ∨
          ¬levelOf cores < p.params.alphaDown ∧
            (s.amecDpsMain p cores).utilSpeedRequest.toNat = s.utilSpeedRequest.toNat) := by
  obtain ⟨hlow, hhigh⟩ := hs
  have hlow : p.minSpeed.toNat ≤ s.utilSpeedRequest.toNat := hlow
  have hhigh : s.utilSpeedRequest.toNat ≤ 1000 := hhigh
  obtain ⟨-, -, ⟨-, hup⟩, hpos, hdown⟩ := p.admitted.bounds
  rw [utilSpeedRequest_main, toNat_limitSpeed p.minSpeed_le]
  unfold utilSpeed
  by_cases habove : p.params.alphaUp < levelOf cores
  · refine .inl ⟨habove, ?_⟩
    rw [if_pos (show p.params.dpsalg.alphaUp < levelOf cores from habove), BitVec.toNat_add]
    have hup : p.params.dpsalg.stepUp.toNat ≤ 1000 := hup
    show max _ (min 1000 (_ % 65536)) = min 1000 (_ + p.params.dpsalg.stepUp.toNat)
    omega
  refine .inr ⟨habove, ?_⟩
  rw [if_neg (show ¬p.params.dpsalg.alphaUp < levelOf cores from habove)]
  by_cases hbelow : levelOf cores < p.params.alphaDown
  · refine .inl ⟨hbelow, ?_⟩
    rw [if_pos (show levelOf cores < p.params.dpsalg.alphaDown from hbelow), BitVec.toNat_sub]
    show _ ∧ max _ (min 1000 ((65536 - p.params.stepDown.toNat + _) % 65536)) = _ ∨
      _ ∧ max _ (min 1000 ((65536 - p.params.stepDown.toNat + _) % 65536)) = _
    omega
  · refine .inr ⟨hbelow, ?_⟩
    rw [if_neg (show ¬levelOf cores < p.params.dpsalg.alphaDown from hbelow)]
    omega

/-- A tick meets the law if and only if it meets the condition. -/
theorem controlLaw_iff (hs : InPolicy p s) : ControlLaw p s cores ↔ ControlOk p s cores := by
  have hcases := @toNat_utilSpeedRequest_main p s cores hs
  obtain ⟨hlow, hhigh⟩ := hs
  have hlow : p.minSpeed.toNat ≤ s.utilSpeedRequest.toNat := hlow
  have hhigh : s.utilSpeedRequest.toNat ≤ 1000 := hhigh
  have hmax : maxSpeed.toNat = 1000 := rfl
  obtain ⟨-, -, ⟨hupPos, -⟩, hdownPos, -⟩ := p.admitted.bounds
  have hslack : slackTotal cores * 2 ^ 14 < 2 ^ 32 ↔ slackTotal cores < 2 ^ 18 := by omega
  constructor
  · rintro ⟨-, hnotLowered, hnotRaised, hnoUnderflow, hnoOverflow⟩
    refine ⟨?_, ?_, hslack.1 hnoOverflow⟩
    · rintro hle hlt
      have hstep := hnoUnderflow hle hlt
      refine ⟨hstep, fun heq => BitVec.eq_of_toNat_eq ?_⟩
      have hkept := hnotLowered (heq ▸ BitVec.le_refl _)
      simp only [BitVec.le_def, BitVec.lt_def] at hle hlt hstep hkept hcases
      omega
    · rintro hlt hle
      have hkept := hnotRaised hle
      refine BitVec.eq_of_toNat_eq ?_
      simp only [BitVec.le_def, BitVec.lt_def] at hle hlt hkept hcases
      omega
  · rintro ⟨hdown, hup, htotal⟩
    refine ⟨inPolicy_main, ?_, ?_, fun hle hlt => (hdown hle hlt).1, hslack.2 htotal⟩
    · rintro hle
      by_cases hbelow : levelOf cores ≤ p.params.alphaUp ∧ levelOf cores < p.params.alphaDown
      · -- at the upper threshold the request cannot go down
        obtain ⟨-, hmin⟩ := hdown hbelow.1 hbelow.2
        have hmin := congrArg BitVec.toNat (hmin (BitVec.le_antisymm hbelow.1 hle))
        simp only [BitVec.le_def, BitVec.lt_def] at hle hbelow hcases ⊢
        omega
      · simp only [BitVec.le_def, BitVec.lt_def] at hle hbelow hcases ⊢
        omega
    · rintro hle
      by_cases habove : p.params.alphaUp < levelOf cores
      · have hmost := congrArg BitVec.toNat (hup habove hle)
        simp only [BitVec.le_def, BitVec.lt_def] at hle habove hcases ⊢
        omega
      · by_cases hbelow : levelOf cores < p.params.alphaDown
        · obtain ⟨hstep, -⟩ := hdown (Nat.not_lt.1 habove) hbelow
          simp only [BitVec.le_def, BitVec.lt_def] at hle habove hbelow hstep hcases ⊢
          omega
        · simp only [BitVec.le_def, BitVec.lt_def] at hle habove hbelow hcases ⊢
          omega

end

/-! ## The level -/

theorem toNat_sum (xs : List (BitVec 32)) : xs.sum.toNat = (xs.map BitVec.toNat).sum % 2 ^ 32 := by
  induction xs with
  | nil => rfl
  | cons x xs ih => rw [List.sum_cons, BitVec.toNat_add, ih, List.map_cons, List.sum_cons, Nat.add_mod_mod]

theorem toNat_groupSum (f : DpsCore → BitVec 32) :
    (groupSum f).toNat = (List.ofFn fun i => (f i).toNat).sum % 2 ^ 32 := by
  unfold groupSum
  rw [toNat_sum, List.map_ofFn]
  rfl

theorem toNat_utilLevel {perc : BitVec 16} (hperc : perc.toNat ≤ 2 ^ 14) :
    (utilLevel perc).toNat = 10000 - perc.toNat * 2 ^ 15 / 53687 := by
  have hdivisor : (53687 : BitVec 32).toNat = 53687 := rfl
  have hfull : (10000 : BitVec 16).toNat = 10000 := rfl
  have hshift : (perc.setWidth 32 <<< 15).toNat = perc.toNat * 2 ^ 15 := by
    rw [BitVec.toNat_shiftLeft, BitVec.toNat_setWidth, Nat.shiftLeft_eq]
    omega
  have hpart : ((perc.setWidth 32 <<< 15 / 53687).setWidth 16).toNat = perc.toNat * 2 ^ 15 / 53687 := by
    rw [BitVec.toNat_setWidth, BitVec.toNat_udiv, hshift, hdivisor]
    omega
  unfold utilLevel
  rw [BitVec.toNat_sub, hpart, hfull]
  omega

section
variable {t : DpsState} {h : Samples}

theorem slackTotal_le (hlaw : WindowLaw t h) : slackTotal t.cores ≤ activeTotal t.cores := by
  unfold slackTotal activeTotal
  rw [List.sum_ofFn, List.sum_ofFn]
  exact Finset.sum_le_sum fun i _ => hlaw.slack_le i

theorem activeTotal_lt (hlaw : WindowLaw t h) : activeTotal t.cores < 2 ^ 32 := by
  have hle : ∀ i ∈ (Finset.univ : Finset DpsCore), (t.cores i).active.accumulator.toNat ≤ 65535 * 255 := by
    rintro i -
    have hcount := t.dpsalg.sampleCountUtil.isLt
    rw [hlaw.active i]
    exact lastSum_le.trans (Nat.mul_le_mul_right 255 (by omega))
  have hsum := Finset.sum_le_card_nsmul Finset.univ _ _ hle
  have hcard : (Finset.univ : Finset DpsCore).card = 24 := Finset.card_fin 24
  unfold activeTotal
  rw [List.sum_ofFn]
  rw [hcard, smul_eq_mul] at hsum
  exact hsum.trans_lt (by decide)

/-- With the windows' law the level is the share of the readings without slack. -/
theorem levelOf_eq (hlaw : WindowLaw t h) (hslack : slackTotal t.cores < 2 ^ 18) (hactive : 0 < activeTotal t.cores) :
    (levelOf t.cores).toNat = 10000 - slackTotal t.cores * 2 ^ 14 / activeTotal t.cores * 2 ^ 15 / 53687 := by
  have hle := slackTotal_le hlaw
  have hlt := activeTotal_lt hlaw
  have hactiveSum : (groupSum fun i => (t.cores i).active.accumulator).toNat = activeTotal t.cores := by
    rw [toNat_groupSum]
    exact Nat.mod_eq_of_lt hlt
  have hslackSum : (groupSum fun i => (t.cores i).slack.accumulator).toNat = slackTotal t.cores := by
    rw [toNat_groupSum]
    exact Nat.mod_eq_of_lt (by unfold slackTotal at hslack; omega)
  have hquot : slackTotal t.cores * 2 ^ 14 / activeTotal t.cores ≤ 2 ^ 14 :=
    Nat.div_le_of_le_mul (Nat.mul_le_mul_right _ hle)
  have hne : ¬(groupSum fun i => (t.cores i).active.accumulator) = 0 := by
    rintro hzero
    rw [hzero] at hactiveSum
    exact absurd hactiveSum (Nat.ne_of_lt hactive)
  have hperc : (utilSlackPerc t.cores).toNat = slackTotal t.cores * 2 ^ 14 / activeTotal t.cores := by
    unfold utilSlackPerc
    dsimp only
    rw [if_neg hne, BitVec.toNat_setWidth, BitVec.toNat_udiv, hactiveSum, BitVec.toNat_shiftLeft, hslackSum, Nat.shiftLeft_eq,
      Nat.mod_eq_of_lt (a := slackTotal t.cores * 2 ^ 14) (by omega)]
    exact Nat.mod_eq_of_lt (by omega)
  unfold levelOf
  rw [toNat_utilLevel (hperc.trans_le hquot), hperc]

end

/-! ## Runs -/

/-- A run from a request inside the range has the law in all its steps if and only if all its steps meet the condition. -/
theorem controlLaw_run (p : DpsPolicy) {s t : DpsControl} {es : List (DpsCore → CorePerf)} (hs : InPolicy p s) :
    Run (Guarded (ControlLaw p) (StepOf (controlStep p))) s es t ↔
      Run (Guarded (ControlOk p) (StepOf (controlStep p))) s es t := by
  refine run_guarded_congr (P := InPolicy p) ?_ (fun s cores t hs _ => controlLaw_iff hs) hs
  rintro s cores t hs ⟨⟩
  exact inPolicy_main

/-- Steps up of the least size, and steps down of the largest one that the tunable table admits. -/
def wideStepDown : DpsPolicy where
  params := tunableParams (Vector.ofFn fun i =>
    getElem (#v[980, 980, 16, 1, 1000, 18, 980, 0, 10, 1] : Vector (BitVec 16) 10) i (tunable_lt i) *
      (getElem mstTunableParameterTable i (tunable_lt i)).multiplier)
  minSpeed := 400
  fmax := 3000
  admitted := ⟨#v[980, 980, 16, 1, 1000, 18, 980, 0, 10, 1], by decide, rfl⟩
  minSpeed_le := by decide

/-- Cores that were active in all readings, with slack in the given number of them. -/
def idleCores (slack : BitVec 32) (_ : DpsCore) : CorePerf :=
  { CorePerf.zero with slack := { UtilWindow.zero with accumulator := slack }
                       active := { UtilWindow.zero with accumulator := 16 } }

def controlAt (request : BitVec 16) : DpsControl := ⟨request, 0xFFFF, 0, fun _ => 0xFFFF⟩

theorem inPolicy_wideStepDown : InPolicy wideStepDown (controlAt 500) := ⟨by decide, by decide⟩

theorem levelOf_busy : levelOf (idleCores 0) = 10000 := by decide

theorem slackTotal_busy : slackTotal (idleCores 0) < 2 ^ 18 := by decide

theorem controlOk_busy (request : BitVec 16) : ControlOk wideStepDown (controlAt request) (idleCores 0) := by
  refine ⟨?_, ?_, slackTotal_busy⟩
  · rintro - hlt
    rw [levelOf_busy] at hlt
    exact absurd hlt (by decide)
  · rintro - hle
    rw [levelOf_busy] at hle
    exact absurd hle (by decide)

/-- A tick of cores without slack takes one step up. -/
theorem controlLaw_run_busy : ∃ t, t.utilSpeedRequest = 501 ∧
    Run (Guarded (ControlLaw wideStepDown) (StepOf (controlStep wideStepDown))) (controlAt 500) [idleCores 0] t :=
  ⟨(controlAt 500).amecDpsMain wideStepDown (idleCores 0), by decide,
    (controlLaw_run wideStepDown inPolicy_wideStepDown).2 (.single ⟨controlOk_busy 500, rfl⟩)⟩

/-- A step down from 500 wraps, and the group without load gets the highest speed. -/
theorem lowered_to_max : InPolicy wideStepDown (controlAt 500) ∧
    ((controlAt 500).amecDpsMain wideStepDown (idleCores 8)).utilSpeedRequest = 1000 ∧
    ¬ControlLaw wideStepDown (controlAt 500) (idleCores 8) := by
  refine ⟨inPolicy_wideStepDown, by decide, ?_⟩
  rintro ⟨-, -, -, hnoUnderflow, -⟩
  exact absurd (hnoUnderflow (by decide) (by decide)) (by decide)

end Occ.Amec.Dps
