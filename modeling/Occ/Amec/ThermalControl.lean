/-
The thermal controllers (`amec_controller.c`): proportional control of the speeds of processor and memory, with a residue that
is kept between the ticks.
-/
import Occ.Lib.Exact
import Occ.Lib.Residue
import Occ.Lib.Transition

namespace Occ.Amec.Thermal

open Transition (Run Guarded)

/-! ## Model -/

/-- The limits of a speed, and of one change of it. -/
structure Actuator where
  minSpeed : BitVec 16
  maxSpeed : BitVec 16
  speedStep : BitVec 16
  speedStepLimit : BitVec 16
  ordered : minSpeed.toNat ≤ maxSpeed.toNat
  step_pos : 1 ≤ speedStep.toNat
  limit_pos : 1 ≤ speedStepLimit.toNat
  fits : maxSpeed.toNat + (speedStepLimit.toNat + 1) * speedStep.toNat < 2 ^ 15

/-- The values that `amec_init_gamec_struct` sets once. -/
def cpuActuator : Actuator := ⟨400, 1000, 10, 65535 / 4 / 10, by decide, by decide, by decide, by decide⟩

/-- `AMEC_MEMORY_MIN_STEP` and the others -/
def memActuator : Actuator := ⟨10, 1000, 10, 65535 / 4 / 10, by decide, by decide, by decide, by decide⟩

/-- `speed_request` and `total_res` -/
structure Vote where
  speedRequest : BitVec 16
  totalRes : BitVec 16
deriving DecidableEq, Repr

/-- What a controller reads: a set point in 0.1 C, a gain and a temperature in C. -/
structure Reading where
  setpoint : BitVec 16
  pgain : BitVec 16
  sample : BitVec 16
deriving DecidableEq, Repr

def Reading.thermalWinner (r : Reading) : BitVec 16 := r.sample * 10

/-- The 16 high bits of the throttle, limited. -/
def throttleChg (a : Actuator) (throttle : BitVec 32) : BitVec 16 :=
  let chg := (throttle.sshiftRight 16).setWidth 16
  if a.speedStepLimit.slt chg then a.speedStepLimit
  else if chg.slt (-a.speedStepLimit) then -a.speedStepLimit
  else chg

/-- The actuator saturation limits, for a signed speed. -/
def saturate (a : Actuator) (speed : BitVec 16) : BitVec 16 :=
  let speed := if a.maxSpeed.toNat < speed.toInt then a.maxSpeed else speed
  if speed.toInt < a.minSpeed.toNat then a.minSpeed else speed

/-- What the controllers have in common. -/
def proportional (a : Actuator) (pgain setpoint winner : BitVec 16) (s : Vote) : Vote :=
  let throttle := (setpoint - winner).signExtend 32 * pgain.setWidth 32
  let speed := s.speedRequest + throttleChg a throttle * a.speedStep
  let totalRes := s.totalRes + throttle.setWidth 16
  ⟨saturate a (if totalRes < s.totalRes then speed + a.speedStep else speed), totalRes⟩

/-- `amec_controller_speed2freq` -/
def amecControllerSpeed2freq (a : Actuator) (speed fmax : BitVec 16) : BitVec 16 :=
  if a.maxSpeed ≤ speed then 0xFFFF else (speed.setWidth 32 * fmax.setWidth 32 / 1000).setWidth 16

/-- The control loops. -/
inductive Loop
  | proc | vdd | dimm | mcdimm | pmic | mcext | membuf
deriving DecidableEq, Repr

def Loop.actuator : Loop → Actuator
  | proc | vdd => cpuActuator
  | _ => memActuator

/-- The votes of the loops, the frequency requests of the first two, and `PROCOTTHROT` and `MEMOTTHROT`. -/
structure State where
  vote : Loop → Vote
  procFreq : BitVec 16
  vddFreq : BitVec 16
  procOtThrot : Bool
  memOtThrot : Bool

namespace State

def setVote (s : State) (k : Loop) (v : Vote) : State := { s with vote := Function.update s.vote k v }

end State

/-- `amec_controller_proc_thermal` -/
def amecControllerProcThermal (r : Reading) (fmax : BitVec 16) (s : State) : State :=
  if r.setpoint = r.thermalWinner then s
  else
    let v := proportional cpuActuator r.pgain r.setpoint r.thermalWinner (s.vote .proc)
    let freq := amecControllerSpeed2freq cpuActuator v.speedRequest fmax
    { s.setVote .proc v with procFreq := freq, procOtThrot := freq < fmax }

/-- `amec_controller_vrm_vdd_thermal`; `G_vrm_vdd_temp_expired` is not read. -/
def amecControllerVrmVddThermal (r : Reading) (_expired : Bool) (fmax : BitVec 16) (s : State) : State :=
  let v := proportional cpuActuator r.pgain r.setpoint r.thermalWinner (s.vote .vdd)
  { s.setVote .vdd v with vddFreq := amecControllerSpeed2freq cpuActuator v.speedRequest fmax }

/-- What `amec_controller_dimm_thermal` reads: whether memory is of `MEM_TYPE_OCM`, whether any bit of
`G_dimm_temp_expired_bitmap` is set, and `G_ocm_dts_type_expired_bitmap`. -/
structure DimmInput where
  ocm : Bool
  dimmTempExpired : Bool
  ocmDtsTypeExpired : BitVec 8
  reading : Loop → Reading

/-- `l_dimm_types`, with the bits of the types -/
def dimmTypes : List (Loop × BitVec 8) := [(.dimm, 0x01), (.mcdimm, 0x02), (.pmic, 0x04), (.mcext, 0x08)]

/-- `l_timeout` -/
def DimmInput.timeout (i : DimmInput) (k : Loop) (mask : BitVec 8) : Bool :=
  match k with
  | .dimm => i.dimmTempExpired && (!i.ocm || i.ocmDtsTypeExpired &&& mask ≠ 0)
  | _ => i.ocmDtsTypeExpired &&& mask ≠ 0

/-- The temperature of a reading that may have timed out: 1 degree too much then. -/
def Reading.winnerOr (r : Reading) (timeout : Bool) : BitVec 16 := if timeout then r.setpoint + 10 else r.thermalWinner

/-- One type of `amec_controller_dimm_thermal`. -/
def dimmType (i : DimmInput) (s : State) (type : Loop × BitVec 8) : State :=
  let r := i.reading type.1
  let winner := r.winnerOr (i.timeout type.1 type.2)
  if winner = 0 ∨ r.setpoint = winner then s
  else s.setVote type.1 (proportional memActuator r.pgain r.setpoint winner (s.vote type.1))

/-- `amec_controller_dimm_thermal` -/
def amecControllerDimmThermal (i : DimmInput) (s : State) : State :=
  let s := (dimmTypes.take (if i.ocm then 4 else 1)).foldl (dimmType i) s
  { s with memOtThrot := dimmTypes.any fun type => (s.vote type.1).speedRequest < memActuator.maxSpeed }

/-- `amec_controller_membuf_thermal`; `expired` is whether a bit of `G_cent_temp_expired_bitmap` is set. -/
def amecControllerMembufThermal (r : Reading) (expired : Bool) (s : State) : State :=
  let winner := r.winnerOr expired
  if r.setpoint = winner then s
  else s.setVote .membuf (proportional memActuator r.pgain r.setpoint winner (s.vote .membuf))

/-- A call of a controller. -/
inductive Tick
  | proc (r : Reading) (fmax : BitVec 16)
  | vdd (r : Reading) (expired : Bool) (fmax : BitVec 16)
  | dimm (i : DimmInput)
  | membuf (r : Reading) (expired : Bool)

def tick (s : State) : Tick → State
  | .proc r fmax => amecControllerProcThermal r fmax s
  | .vdd r expired fmax => amecControllerVrmVddThermal r expired fmax s
  | .dimm i => amecControllerDimmThermal i s
  | .membuf r expired => amecControllerMembufThermal r expired s

def step (s : State) (e : Tick) (t : State) : Prop := t = tick s e

/-- What `amec_init_gamec_struct` sets. -/
def init : State := ⟨fun _ => ⟨1000, 0⟩, 0xFFFF, 0xFFFF, false, false⟩

/-! ## The controllers on integers -/

/-- 65536 units of throttle are a step. -/
def Actuator.follower (a : Actuator) : Residue.Follower where
  scale := 65536
  step := a.speedStep.toNat
  limit := a.speedStepLimit.toNat
  low := a.minSpeed.toNat
  high := a.maxSpeed.toNat
  scale_pos := by decide
  step_nonneg := Int.natCast_nonneg _
  limit_pos := by exact_mod_cast a.limit_pos
  ordered := by exact_mod_cast a.ordered

def Vote.position (v : Vote) : Residue.Position := ⟨v.speedRequest.toNat, v.totalRes.toNat⟩

section
variable {a : Actuator} {v : Vote}

theorem Actuator.small (a : Actuator) : a.speedStepLimit.toNat < 2 ^ 15 ∧ a.speedStepLimit.toNat * a.speedStep.toNat < 2 ^ 15 ∧
    a.speedStep.toNat < 2 ^ 15 ∧ a.maxSpeed.toNat < 2 ^ 15 := by
  have hfits := a.fits
  have hmul : a.speedStepLimit.toNat * 1 ≤ a.speedStepLimit.toNat * a.speedStep.toNat := Nat.mul_le_mul_left _ a.step_pos
  rw [Nat.succ_mul] at hfits
  omega

/-- The limited change of the speed. -/
theorem toInt_throttleChg (a : Actuator) {throttle : BitVec 32} {z : Int} (h : throttle.toInt = z) :
    (throttleChg a throttle).toInt = max (-(a.speedStepLimit.toNat : Int)) (min (a.speedStepLimit.toNat : Int) (z / 65536)) := by
  have hlow := BitVec.le_toInt throttle
  have hhigh := BitVec.toInt_lt (x := throttle)
  have hlimit := (a.small).1
  have hlimit' : a.speedStepLimit.toInt = a.speedStepLimit.toNat := BitVec.toInt_eq_toNat_of_lt (by omega)
  have hneg : (-a.speedStepLimit).toInt = -a.speedStepLimit.toNat := by
    rw [BitVec.toInt_neg_of_ne_intMin, hlimit']
    intro hmin
    rw [hmin] at hlimit
    exact absurd hlimit (by decide)
  have hshift : Wraps (throttle.sshiftRight 16) (z / 65536) := by
    have hsigned := wraps_toInt (throttle.sshiftRight 16)
    rw [BitVec.toInt_sshiftRight, h, Int.shiftRight_eq_div_pow] at hsigned
    exact hsigned
  have hchg : ((throttle.sshiftRight 16).setWidth 16).toInt = z / 65536 :=
    (hshift.cut (by decide)).toInt_eq (by omega) (by omega)
  unfold throttleChg
  simp only [BitVec.slt_iff_toInt_lt, hchg, hlimit', hneg]
  split_ifs with habove hbelow
  · rw [hlimit']
    omega
  · rw [hneg]
    omega
  · rw [hchg]
    omega

theorem toNat_saturate (a : Actuator) (speed : BitVec 16) :
    ((saturate a speed).toNat : Int) = max (a.minSpeed.toNat : Int) (min (a.maxSpeed.toNat : Int) speed.toInt) := by
  have hmax := (a.small).2.2.2
  have hordered := a.ordered
  have hmax' : a.maxSpeed.toInt = a.maxSpeed.toNat := BitVec.toInt_eq_toNat_of_lt (by omega)
  have hspeed := BitVec.toInt_eq_toNat_cond speed
  have hlt := speed.isLt
  unfold saturate
  dsimp only
  split_ifs with habove hbelow
  · omega
  · omega
  · omega
  · split at hspeed <;> omega

/-- A controller is the same on integers. -/
theorem proportional_spec (pgain setpoint winner : BitVec 16) (hv : v.position.Inside a.follower) :
    (proportional a pgain setpoint winner v).position =
      Residue.next a.follower v.position ((setpoint - winner).toInt * pgain.toNat) := by
  obtain ⟨hstepLimit, hmul, hstep, hmax⟩ := a.small
  have hfits := a.fits
  rw [Nat.succ_mul] at hfits
  have hlow := BitVec.le_toInt (setpoint - winner)
  have hhigh := BitVec.toInt_lt (x := setpoint - winner)
  have hgain := pgain.isLt
  have hgain' := Int.natCast_nonneg pgain.toNat
  obtain ⟨throttle, hthrottle⟩ : ∃ throttle, (setpoint - winner).signExtend 32 * pgain.setWidth 32 = throttle := ⟨_, rfl⟩
  obtain ⟨z, hz⟩ : ∃ z : Int, (setpoint - winner).toInt * pgain.toNat = z := ⟨_, rfl⟩
  have hwraps : Wraps throttle z := by
    rw [← hthrottle, ← hz]
    exact (wraps_signExtend _ (by decide)).mul (exact_extend pgain (by decide)).wraps
  have hsigned : throttle.toInt = z := by
    refine hwraps.toInt_eq ?_ ?_
    · have hdown : -32768 * (pgain.toNat : Int) ≤ z := hz ▸ Int.mul_le_mul_of_nonneg_right hlow hgain'
      omega
    · have hup : z ≤ 32767 * (pgain.toNat : Int) := hz ▸ Int.mul_le_mul_of_nonneg_right (by omega) hgain'
      omega
  have hchg := toInt_throttleChg a hsigned
  have hres : ((throttle.setWidth 16).toNat : Int) = z % 65536 := (hwraps.cut (by decide)).toNat_eq
  have hpos := hv.low
  have hpos' := hv.high
  obtain ⟨c, hc⟩ : ∃ c : Int, max (-(a.speedStepLimit.toNat : Int)) (min (a.speedStepLimit.toNat : Int) (z / 65536)) = c := ⟨_, rfl⟩
  rw [hc] at hchg
  have hchgMul : -(a.speedStepLimit.toNat * a.speedStep.toNat : Int) ≤ c * a.speedStep.toNat ∧
      c * a.speedStep.toNat ≤ a.speedStepLimit.toNat * a.speedStep.toNat := by
    constructor
    · rw [← Int.neg_mul]
      exact Int.mul_le_mul_of_nonneg_right (by omega) (Int.natCast_nonneg _)
    · exact Int.mul_le_mul_of_nonneg_right (by omega) (Int.natCast_nonneg _)
  have hspeed : Wraps (v.speedRequest + throttleChg a throttle * a.speedStep)
      (v.speedRequest.toNat + c * a.speedStep.toNat) := by
    have hsum := (exact_toNat v.speedRequest).wraps.add ((wraps_toInt (throttleChg a throttle)).mul (exact_toNat a.speedStep).wraps)
    rwa [hchg] at hsum
  have hcarry : Residue.carry a.follower v.position z = if v.totalRes + throttle.setWidth 16 < v.totalRes then 1 else 0 := by
    have hold := v.totalRes.isLt
    have hnew := (throttle.setWidth 16).isLt
    have hsum := BitVec.toNat_add v.totalRes (throttle.setWidth 16)
    show ((v.totalRes.toNat : Int) + z % 65536) / 65536 = _
    rw [← hres]
    split_ifs with hlt
    · rw [BitVec.lt_def] at hlt
      omega
    · rw [BitVec.lt_def] at hlt
      omega
  have htarget : (if v.totalRes + throttle.setWidth 16 < v.totalRes then
      v.speedRequest + throttleChg a throttle * a.speedStep + a.speedStep
      else v.speedRequest + throttleChg a throttle * a.speedStep).toInt = Residue.target a.follower v.position z c := by
    have hpos : v.position.pos = v.speedRequest.toNat := rfl
    have hmin : a.follower.low = a.minSpeed.toNat := rfl
    have hmax' : a.follower.high = a.maxSpeed.toNat := rfl
    have hstep' : a.follower.step = a.speedStep.toNat := rfl
    unfold Residue.target
    rw [hcarry, hpos, hstep', Int.mul_comm]
    split_ifs with hlt
    · have hnext := hspeed.add (exact_toNat a.speedStep).wraps
      rw [Int.add_mul, Int.one_mul, ← Int.add_assoc]
      exact hnext.toInt_eq (by omega) (by omega)
    · rw [Int.add_zero]
      exact hspeed.toInt_eq (by omega) (by omega)
  have hsat := toNat_saturate a (if v.totalRes + throttle.setWidth 16 < v.totalRes then
    v.speedRequest + throttleChg a throttle * a.speedStep + a.speedStep
    else v.speedRequest + throttleChg a throttle * a.speedStep)
  have htotal := ((exact_toNat v.totalRes).wraps.add (hwraps.cut (v := 16) (by decide))).toNat_eq
  rw [htarget, ← hc] at hsat
  unfold proportional
  dsimp only
  rw [hthrottle, hz]
  exact congrArg₂ Residue.Position.mk hsat htotal

end

/-! ## The law -/

/-- The reading that a loop goes by in a tick, and whether it timed out; there is none for a type of DIMM that is not looked at. -/
def Tick.input : Tick → Loop → Option (Reading × Bool)
  | .proc r _, .proc => some (r, false)
  | .vdd r expired _, .vdd => some (r, expired)
  | .dimm i, .dimm => some (i.reading .dimm, i.timeout .dimm 0x01)
  | .dimm i, .mcdimm => if i.ocm then some (i.reading .mcdimm, i.timeout .mcdimm 0x02) else none
  | .dimm i, .pmic => if i.ocm then some (i.reading .pmic, i.timeout .pmic 0x04) else none
  | .dimm i, .mcext => if i.ocm then some (i.reading .mcext, i.timeout .mcext 0x08) else none
  | .membuf r expired, .membuf => some (r, expired)
  | _, _ => none

/-- A loop for a type of DIMM. -/
def Loop.isDimm : Loop → Bool
  | dimm | mcdimm | pmic | mcext => true
  | _ => false

section
variable (k : Loop) (r : Reading) (expired : Bool)

/-- The temperature in 0.1 C that a loop goes by: 1 degree too much for a reading of memory that timed out. -/
def temperature : Int := if expired ∧ k ≠ .vdd then r.setpoint.toNat + 10 else 10 * r.sample.toNat

/-- The proportional term, in 1/65536 of a step; none for a type of DIMM that is not there. -/
def term : Int :=
  if k.isDimm ∧ temperature k r expired = 0 then 0 else (r.setpoint.toNat - temperature k r expired) * r.pgain.toNat

/-- A tick of a loop: the speed is in its range, is not raised when it is too hot or not known how hot, and not lowered when it
is not, and the words are what the same controller gives on integers. -/
structure LoopLaw (v v' : Vote) : Prop where
  range : k.actuator.minSpeed ≤ v'.speedRequest ∧ v'.speedRequest ≤ k.actuator.maxSpeed
  notRaised : expired ∨ (r.setpoint.toNat : Int) < 10 * r.sample.toNat → v'.speedRequest ≤ v.speedRequest
  notLowered : ¬expired → 10 * (r.sample.toNat : Int) < r.setpoint.toNat → v.speedRequest ≤ v'.speedRequest
  exact : v'.position = Residue.next k.actuator.follower v.position (term k r expired)

/-- The condition: the temperature fits into 16 bits and its difference to the set point into 16 bits with sign, and the
reading of the VRM does not time out while it is below its set point. -/
structure LoopOk : Prop where
  temperature : temperature k r expired < 2 ^ 16
  error : -2 ^ 15 ≤ r.setpoint.toNat - Thermal.temperature k r expired ∧ r.setpoint.toNat - Thermal.temperature k r expired < 2 ^ 15
  vdd : k = .vdd → expired → (r.setpoint.toNat : Int) ≤ 10 * r.sample.toNat

end

def TickOk (_ : State) (e : Tick) : Prop := ∀ k r expired, e.input k = some (r, expired) → LoopOk k r expired

/-- What a tick asks of a loop. -/
def Tick.term (e : Tick) (k : Loop) : Int := (e.input k).elim 0 fun i => Thermal.term k i.1 i.2

/-- A tick that hits no limit of a loop, nor the bounds of a word. -/
structure Unclamped (k : Loop) (s : State) (e : Tick) : Prop where
  ok : TickOk s e
  free : Residue.Free k.actuator.follower (s.vote k).position (e.term k)

/-- The law of a state: the speeds are in their ranges, the next tick obeys the law of each loop, and over runs that hit no
limit the speed and the residue make up for all that was asked. -/
structure ThermalLaw (s : State) : Prop where
  range : ∀ k : Loop, k.actuator.minSpeed ≤ (s.vote k).speedRequest ∧ (s.vote k).speedRequest ≤ k.actuator.maxSpeed
  tick : ∀ e t, TickOk s e → step s e t → ∀ k,
    (∀ r expired, e.input k = some (r, expired) → LoopLaw k r expired (s.vote k) (t.vote k)) ∧
      (e.input k = none → t.vote k = s.vote k)
  conserved : ∀ k es t, Run (Guarded (Unclamped k) step) s es t →
    k.actuator.speedStep.toNat * (es.map fun e => e.term k).sum =
      65536 * ((t.vote k).speedRequest.toNat - (s.vote k).speedRequest.toNat : Int) +
        k.actuator.speedStep.toNat * ((t.vote k).totalRes.toNat - (s.vote k).totalRes.toNat : Int)

/-! ## A tick -/

/-- All votes are within the limits. -/
def Inside (s : State) : Prop := ∀ k, (s.vote k).position.Inside k.actuator.follower

section
variable {k : Loop} {r : Reading} {expired : Bool} {v : Vote}

theorem winner_eq (hok : LoopOk k r expired) (hk : k ≠ .vdd) : ((r.winnerOr expired).toNat : Int) = temperature k r expired := by
  have hlt := hok.temperature
  have hten : (10 : BitVec 16).toNat = 10 := rfl
  have hcond : (expired = true ∧ k ≠ .vdd) ↔ expired = true := and_iff_left hk
  unfold temperature Reading.winnerOr Reading.thermalWinner at *
  rw [if_congr hcond rfl rfl] at hlt ⊢
  cases expired with
  | true =>
    rw [if_pos rfl] at hlt ⊢
    rw [if_pos rfl, BitVec.toNat_add, hten]
    omega
  | false =>
    rw [if_neg Bool.false_ne_true] at hlt ⊢
    rw [if_neg Bool.false_ne_true, BitVec.toNat_mul, hten]
    omega

theorem error_eq {winner : BitVec 16} {x : Int} (hwinner : (winner.toNat : Int) = x)
    (hlow : -2 ^ 15 ≤ (r.setpoint.toNat : Int) - x) (hhigh : (r.setpoint.toNat : Int) - x < 2 ^ 15) :
    (r.setpoint - winner).toInt = r.setpoint.toNat - x := by
  have hwraps := (exact_toNat r.setpoint).wraps.sub (exact_toNat winner).wraps
  rw [hwinner] at hwraps
  exact hwraps.toInt_eq (by omega) (by omega)

theorem term_at_setpoint {winner : BitVec 16} (hwinner : (winner.toNat : Int) = temperature k r expired)
    (h : r.setpoint = winner) : term k r expired = 0 := by
  unfold term
  rw [← hwinner, h, Int.sub_self, Int.zero_mul, ite_self]

theorem position_skip (hv : v.position.Inside k.actuator.follower) (hterm : term k r expired = 0) :
    v.position = Residue.next k.actuator.follower v.position (term k r expired) := by
  rw [hterm]
  exact (Residue.next_zero hv).symm

theorem position_proportional {winner : BitVec 16} (hok : LoopOk k r expired)
    (hwinner : (winner.toNat : Int) = temperature k r expired) (hused : ¬(k.isDimm ∧ temperature k r expired = 0))
    (hv : v.position.Inside k.actuator.follower) :
    (proportional k.actuator r.pgain r.setpoint winner v).position =
      Residue.next k.actuator.follower v.position (term k r expired) := by
  rw [proportional_spec r.pgain r.setpoint winner hv, error_eq hwinner hok.error.1 hok.error.2]
  unfold term
  rw [if_neg hused]

theorem vdd_winner (hok : LoopOk .vdd r expired) : (r.thermalWinner.toNat : Int) = temperature .vdd r expired := by
  have hlt := hok.temperature
  have hten : (10 : BitVec 16).toNat = 10 := rfl
  have hcond : ¬(expired = true ∧ Loop.vdd ≠ .vdd) := fun h => h.2 rfl
  unfold temperature Reading.thermalWinner at *
  rw [if_neg hcond] at hlt ⊢
  rw [BitVec.toNat_mul, hten]
  omega

end

/-- The vote of a type of DIMM. -/
def dimmVote (i : DimmInput) (type : Loop × BitVec 8) (v : Vote) : Vote :=
  let r := i.reading type.1
  let winner := r.winnerOr (i.timeout type.1 type.2)
  if winner = 0 ∨ r.setpoint = winner then v else proportional memActuator r.pgain r.setpoint winner v

theorem vote_dimmType (i : DimmInput) (s : State) (type : Loop × BitVec 8) :
    (dimmType i s type).vote = Function.update s.vote type.1 (dimmVote i type (s.vote type.1)) := by
  unfold dimmType dimmVote
  dsimp only
  split
  · exact (Function.update_eq_self type.1 s.vote).symm
  · rfl

theorem vote_amecControllerDimmThermal (i : DimmInput) (s : State) (k : Loop) :
    (amecControllerDimmThermal i s).vote k = match k with
      | .dimm => dimmVote i (.dimm, 0x01) (s.vote .dimm)
      | .mcdimm => if i.ocm then dimmVote i (.mcdimm, 0x02) (s.vote .mcdimm) else s.vote .mcdimm
      | .pmic => if i.ocm then dimmVote i (.pmic, 0x04) (s.vote .pmic) else s.vote .pmic
      | .mcext => if i.ocm then dimmVote i (.mcext, 0x08) (s.vote .mcext) else s.vote .mcext
      | k => s.vote k := by
  unfold amecControllerDimmThermal dimmTypes
  cases i.ocm with
  | true =>
    simp only [if_true, List.take_succ_cons, List.take_zero, List.foldl_cons, List.foldl_nil, vote_dimmType]
    cases k <;> rfl
  | false =>
    simp only [Bool.false_eq_true, if_false, List.take_succ_cons, List.take_zero, List.foldl_cons, List.foldl_nil, vote_dimmType]
    cases k <;> rfl

theorem position_dimmVote {i : DimmInput} {type : Loop × BitVec 8} {v : Vote} (hdimm : type.1.isDimm)
    (hok : LoopOk type.1 (i.reading type.1) (i.timeout type.1 type.2)) (hv : v.position.Inside type.1.actuator.follower) :
    (dimmVote i type v).position =
      Residue.next type.1.actuator.follower v.position (term type.1 (i.reading type.1) (i.timeout type.1 type.2)) := by
  have hvdd : type.1 ≠ .vdd := fun h => absurd (h ▸ hdimm) (by decide)
  have hact : memActuator = type.1.actuator := by
    obtain ⟨k, mask⟩ := type
    cases k with
    | dimm | mcdimm | pmic | mcext => rfl
    | proc | vdd | membuf => exact absurd hdimm Bool.false_ne_true
  have hwinner := winner_eq hok hvdd
  unfold dimmVote
  rw [hact]
  dsimp only
  split_ifs with hskip
  · refine position_skip hv ?_
    obtain hzero | hset := hskip
    · rw [hzero] at hwinner
      unfold term
      rw [if_pos ⟨hdimm, hwinner.symm⟩]
    · exact term_at_setpoint hwinner hset
  · refine position_proportional hok hwinner (fun hunused => hskip (.inl ?_)) hv
    apply BitVec.eq_of_toNat_eq
    have hzero := hwinner.trans hunused.2
    exact_mod_cast hzero

theorem vote_proc (r : Reading) (fmax : BitVec 16) (s : State) : (amecControllerProcThermal r fmax s).vote =
    Function.update s.vote .proc (if r.setpoint = r.winnerOr false then s.vote .proc
      else proportional Loop.proc.actuator r.pgain r.setpoint (r.winnerOr false) (s.vote .proc)) := by
  have hwinner : r.winnerOr false = r.thermalWinner := rfl
  unfold amecControllerProcThermal
  rw [hwinner]
  split_ifs with hset
  · exact (Function.update_eq_self Loop.proc s.vote).symm
  · rfl

theorem vote_membuf (r : Reading) (expired : Bool) (s : State) : (amecControllerMembufThermal r expired s).vote =
    Function.update s.vote .membuf (if r.setpoint = r.winnerOr expired then s.vote .membuf
      else proportional Loop.membuf.actuator r.pgain r.setpoint (r.winnerOr expired) (s.vote .membuf)) := by
  unfold amecControllerMembufThermal
  dsimp only
  split_ifs with hset
  · exact (Function.update_eq_self Loop.membuf s.vote).symm
  · rfl

theorem position_controlled {k : Loop} {r : Reading} {expired : Bool} {v : Vote} (hok : LoopOk k r expired) (hk : k ≠ .vdd)
    (hdimm : k.isDimm = false) (hv : v.position.Inside k.actuator.follower) :
    (if r.setpoint = r.winnerOr expired then v
      else proportional k.actuator r.pgain r.setpoint (r.winnerOr expired) v).position =
        Residue.next k.actuator.follower v.position (term k r expired) := by
  have hwinner := winner_eq hok hk
  split_ifs with hset
  · exact position_skip hv (term_at_setpoint hwinner hset)
  · exact position_proportional hok hwinner (fun h => absurd (hdimm.symm.trans h.1) Bool.false_ne_true) hv

/-- The vote of a loop that a tick does not call stays. -/
theorem vote_of_no_input {e : Tick} {k : Loop} (h : e.input k = none) (s : State) : (tick s e).vote k = s.vote k := by
  cases e with
  | proc r fmax =>
    show (amecControllerProcThermal r fmax s).vote k = _
    rw [vote_proc]
    refine Function.update_of_ne ?_ _ _
    rintro rfl
    exact absurd h nofun
  | vdd r expired fmax =>
    refine Function.update_of_ne ?_ _ _
    rintro rfl
    exact absurd h nofun
  | dimm i =>
    show (amecControllerDimmThermal i s).vote k = _
    rw [vote_amecControllerDimmThermal]
    cases k with
    | dimm => exact absurd h nofun
    | proc | vdd | membuf => rfl
    | mcdimm | pmic | mcext =>
      obtain ⟨-, h⟩ | ⟨hocm, -⟩ := ite_eq_iff.1 h
      · exact absurd h nofun
      · exact if_neg hocm
  | membuf r expired =>
    show (amecControllerMembufThermal r expired s).vote k = _
    rw [vote_membuf]
    refine Function.update_of_ne ?_ _ _
    rintro rfl
    exact absurd h nofun

/-- What a tick does to a loop that it calls, on integers. -/
theorem position_of_input {s : State} {e : Tick} {k : Loop} {r : Reading} {expired : Bool} (h : e.input k = some (r, expired))
    (hok : LoopOk k r expired) (hv : (s.vote k).position.Inside k.actuator.follower) :
    ((tick s e).vote k).position = Residue.next k.actuator.follower (s.vote k).position (term k r expired) := by
  cases e with
  | proc r' fmax =>
    cases k with
    | proc =>
      obtain ⟨rfl, rfl⟩ := Prod.mk.inj (Option.some.inj h)
      show ((amecControllerProcThermal r' fmax s).vote .proc).position = _
      rw [vote_proc, Function.update_self]
      exact position_controlled hok (by decide) rfl hv
    | _ => exact absurd h nofun
  | vdd r' expired' fmax =>
    cases k with
    | vdd =>
      obtain ⟨rfl, rfl⟩ := Prod.mk.inj (Option.some.inj h)
      have hvote : (amecControllerVrmVddThermal r' expired' fmax s).vote .vdd =
          proportional Loop.vdd.actuator r'.pgain r'.setpoint r'.thermalWinner (s.vote .vdd) :=
        @Function.update_self _ _ _ Loop.vdd _ s.vote
      show ((amecControllerVrmVddThermal r' expired' fmax s).vote .vdd).position = _
      rw [hvote]
      exact position_proportional hok (vdd_winner hok) (fun h => absurd h.1 Bool.false_ne_true) hv
    | _ => exact absurd h nofun
  | dimm i =>
    show ((amecControllerDimmThermal i s).vote k).position = _
    rw [vote_amecControllerDimmThermal]
    cases k with
    | dimm =>
      obtain ⟨rfl, rfl⟩ := Prod.mk.inj (Option.some.inj h)
      exact @position_dimmVote i (.dimm, 0x01) _ rfl hok hv
    | proc | vdd | membuf => exact absurd h nofun
    | mcdimm =>
      obtain ⟨hocm, h⟩ | ⟨-, h⟩ := ite_eq_iff.1 h
      · obtain ⟨rfl, rfl⟩ := Prod.mk.inj (Option.some.inj h)
        dsimp only
        rw [if_pos hocm]
        exact @position_dimmVote i (.mcdimm, 0x02) _ rfl hok hv
      · exact absurd h nofun
    | pmic =>
      obtain ⟨hocm, h⟩ | ⟨-, h⟩ := ite_eq_iff.1 h
      · obtain ⟨rfl, rfl⟩ := Prod.mk.inj (Option.some.inj h)
        dsimp only
        rw [if_pos hocm]
        exact @position_dimmVote i (.pmic, 0x04) _ rfl hok hv
      · exact absurd h nofun
    | mcext =>
      obtain ⟨hocm, h⟩ | ⟨-, h⟩ := ite_eq_iff.1 h
      · obtain ⟨rfl, rfl⟩ := Prod.mk.inj (Option.some.inj h)
        dsimp only
        rw [if_pos hocm]
        exact @position_dimmVote i (.mcext, 0x08) _ rfl hok hv
      · exact absurd h nofun
  | membuf r' expired' =>
    cases k with
    | membuf =>
      obtain ⟨rfl, rfl⟩ := Prod.mk.inj (Option.some.inj h)
      show ((amecControllerMembufThermal r' expired' s).vote .membuf).position = _
      rw [vote_membuf, Function.update_self]
      exact position_controlled hok (by decide) rfl hv
    | _ => exact absurd h nofun

theorem position_tick {s : State} {e : Tick} (hs : Inside s) (hok : TickOk s e) (k : Loop) :
    ((tick s e).vote k).position = Residue.next k.actuator.follower (s.vote k).position (e.term k) := by
  unfold Tick.term
  cases h : e.input k with
  | none =>
    rw [vote_of_no_input h]
    exact (Residue.next_zero (hs k)).symm
  | some i => exact position_of_input h (hok k i.1 i.2 h) (hs k)

theorem inside_tick {s : State} {e : Tick} (hs : Inside s) (hok : TickOk s e) : Inside (tick s e) := by
  intro k
  rw [position_tick hs hok k]
  exact Residue.inside_next _ _ _

theorem inside_range {s : State} (hs : Inside s) (k : Loop) : k.actuator.minSpeed ≤ (s.vote k).speedRequest ∧
    (s.vote k).speedRequest ≤ k.actuator.maxSpeed := by
  obtain ⟨hlow, hhigh, -, -⟩ := hs k
  exact ⟨Int.ofNat_le.1 hlow, Int.ofNat_le.1 hhigh⟩

/-- A tick obeys the law of a loop. -/
theorem loopLaw_of_input {s : State} {e : Tick} {k : Loop} {r : Reading} {expired : Bool} (hs : Inside s)
    (h : e.input k = some (r, expired)) (hok : LoopOk k r expired) : LoopLaw k r expired (s.vote k) ((tick s e).vote k) := by
  have hexact := position_of_input h hok (hs k)
  have hpos : (((tick s e).vote k).speedRequest.toNat : Int) =
      (Residue.next k.actuator.follower (s.vote k).position (term k r expired)).pos := congrArg Residue.Position.pos hexact
  have hinside := Residue.inside_next k.actuator.follower (s.vote k).position (term k r expired)
  have hgain : (0 : Int) ≤ r.pgain.toNat := Int.natCast_nonneg _
  refine ⟨?_, ?_, ?_, hexact⟩
  · rw [← hexact] at hinside
    exact ⟨Int.ofNat_le.1 hinside.low, Int.ofNat_le.1 hinside.high⟩
  · intro hhot
    have hneg : (r.setpoint.toNat - temperature k r expired : Int) ≤ 0 := by
      unfold temperature
      split_ifs with hexpired
      · omega
      · obtain rfl | hhot := hhot
        · obtain rfl : k = .vdd := not_not.1 fun hk => hexpired ⟨rfl, hk⟩
          have := hok.vdd rfl rfl
          omega
        · omega
    have hterm : term k r expired ≤ 0 := by
      unfold term
      split_ifs
      · exact Int.le_refl 0
      · exact Int.mul_nonpos_of_nonpos_of_nonneg hneg hgain
    exact Int.ofNat_le.1 (hpos.trans_le (Residue.next_le (hs k) hterm))
  · intro hknown hcold
    have hterm : 0 ≤ term k r expired := by
      have htemp : temperature k r expired = 10 * r.sample.toNat := if_neg fun h => hknown h.1
      unfold term
      rw [htemp]
      split_ifs
      · exact Int.le_refl 0
      · exact Int.mul_nonneg (by omega) hgain
    exact Int.ofNat_le.1 ((Residue.le_next (hs k) hterm).trans_eq hpos.symm)

/-! ## Runs -/

theorem inside_init : Inside init := by
  intro k
  cases k <;> exact ⟨by decide, by decide, by decide, by decide⟩

theorem inside_run {s t : State} {es : List Tick} (h : Run (Guarded TickOk step) s es t) (hs : Inside s) : Inside t := by
  refine h.invariant ?_ hs
  rintro s e t hs ⟨hok, rfl⟩
  exact inside_tick hs hok

theorem conserved_run {k : Loop} {s t : State} {es : List Tick} (h : Run (Guarded (Unclamped k) step) s es t) (hs : Inside s) :
    k.actuator.speedStep.toNat * (es.map fun e => e.term k).sum =
      65536 * ((t.vote k).speedRequest.toNat - (s.vote k).speedRequest.toNat : Int) +
        k.actuator.speedStep.toNat * ((t.vote k).totalRes.toNat - (s.vote k).totalRes.toNat : Int) := by
  induction h with
  | nil s =>
    rw [List.map_nil, List.sum_nil, Int.sub_self, Int.sub_self, Int.mul_zero, Int.mul_zero]
    rfl
  | @cons s t u e es hstep hrun ih =>
    obtain ⟨⟨hok, hfree⟩, rfl⟩ := hstep
    have ih := ih (inside_tick hs hok)
    have hone : (k.actuator.speedStep.toNat : Int) * e.term k =
        65536 * (((tick s e).vote k).speedRequest.toNat - (s.vote k).speedRequest.toNat : Int) +
          k.actuator.speedStep.toNat * (((tick s e).vote k).totalRes.toNat - (s.vote k).totalRes.toNat : Int) := by
      have hfollower := Residue.conserved hfree
      rwa [← position_tick hs hok k] at hfollower
    rw [List.map_cons, List.sum_cons, Int.mul_add, ih, hone]
    ring

/-- In every run whose ticks meet the condition the law holds of every state. -/
theorem thermalLaw_run {s : State} {es : List Tick} (h : Run (Guarded TickOk step) init es s) : ThermalLaw s := by
  have hs := inside_run h inside_init
  refine ⟨inside_range hs, ?_, fun k es t hrun => conserved_run hrun hs⟩
  rintro e t hok rfl k
  constructor
  · intro r expired hinput
    exact loopLaw_of_input hs hinput (hok k r expired hinput)
  · intro hinput
    exact vote_of_no_input hinput s

/-- The set point and the gain after `amec_init_gamec_struct`, and a temperature. -/
def atSample (sample : BitVec 16) : Reading := ⟨850, 1000, sample⟩

/-- The law after a tick at 95 C. -/
theorem thermalLaw_hot : ThermalLaw (tick init (.proc (atSample 95) 4000)) :=
  thermalLaw_run (.single ⟨fun k r expired h => by
    cases k with
    | proc =>
      obtain ⟨rfl, rfl⟩ := Prod.mk.inj (Option.some.inj h)
      exact ⟨by decide, by decide, nofun⟩
    | _ => exact absurd h nofun, rfl⟩)

/-- After a tick at 95 C the VRM is not read any more, at 20 C, and its speed goes up; it does as well at 6553 C. -/
theorem vdd_raised : ∃ s es, Run step init es s ∧
    (¬LoopLaw .vdd (atSample 20) true (s.vote .vdd) ((tick s (.vdd (atSample 20) true 4000)).vote .vdd)) ∧
      ¬LoopLaw .vdd (atSample 6553) false (s.vote .vdd) ((tick s (.vdd (atSample 6553) false 4000)).vote .vdd) := by
  refine ⟨tick init (.vdd (atSample 95) false 4000), [.vdd (atSample 95) false 4000], .single rfl, ?_, ?_⟩
  · rintro ⟨-, hraised, -, -⟩
    exact absurd (hraised (.inl rfl)) (by decide)
  · rintro ⟨-, hraised, -, -⟩
    exact absurd (hraised (.inr (by decide))) (by decide)

end Occ.Amec.Thermal
