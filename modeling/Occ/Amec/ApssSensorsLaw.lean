/-
The power sensors of the APSS against the packet that assigns its channels: each is the sum over the channels of its functions, as long
as the values and the 32-bit sums do not wrap.
-/
import Occ.Amec.ApssSensors
import Occ.Cmdh.ApssConfigLaw
import Occ.Lib.Exact
import Mathlib.Algebra.BigOperators.Fin
import Mathlib.Algebra.Order.BigOperators.Group.Finset
import Mathlib.Data.Nat.Bitwise
import Occ.Lib.Literals

namespace Occ.Amec.Power

open Cmdh (AdcChannel AdcFunction AdcPlace Apss ApssConfig AdcInv dataStoreApssConfig)
open Sensor (SensorState)

attribute [local instance] neZero_four

/-! ## Exact power -/

/-- The value of a channel: half of its reading with the offset, which is not below 0, by the gain, and 0 for a reading of 0. -/
def calibrated (reading : Nat) (offset : Int) (gain : Nat) : Nat :=
  if reading = 0 then 0 else (((reading / 2 : Nat) : Int) + offset).toNat * gain / 1000

/-- `ROUND_POWER` -/
def watts (n : Nat) : Nat := (n + 500000) / 1000000

/-- The functions of GPUs that use the second voltage, and those of all channels that do. -/
def isGpuVolt2 : AdcFunction → Bool
  | .gpuVolt2 .. => true
  | _ => false

def usesVolt2 : AdcFunction → Bool
  | .gpuVolt2 .. | .totalSysCurrent2 => true
  | _ => false

/-- The functions whose channels have a sensor of their own, and those that are part of the system power. -/
def isSensed : AdcFunction → Bool
  | .sense12v | .voltSense2 | .gndRemoteSense | .standbyCurrent12v => false
  | _ => true

/-- The functions of a processor, of its memory, with the memory cache where it is not supported by FSP, and of its GPUs. -/
def ofProc (proc : Fin 4) : AdcFunction → Bool
  | .vddProc q | .vcsVioVpcieProc q => q = proc
  | _ => false

def ofMemory (proc : Fin 4) (fspSupported : Bool) : AdcFunction → Bool
  | .memoryProc q => q = proc
  | .memoryProc0 _ => proc = 0
  | .memCache => !fspSupported
  | _ => false

def ofGpus (proc : Fin 4) : AdcFunction → Bool
  | .gpu q _ | .gpuVolt2 q _ => q.val = proc.val
  | _ => false

/-- The functions that make up the system power, when the total of the first or the second voltage is provided. -/
def ofSystem (total1 total2 : Bool) (f : AdcFunction) : Bool :=
  match total1, total2 with
  | true, true => f = .totalSysCurrent ∨ f = .totalSysCurrent2
  | true, false => f = .totalSysCurrent ∨ isGpuVolt2 f
  | false, true => isSensed f && !isGpuVolt2 f
  | false, false => isSensed f

section
variable (cmd : ApssConfig) (adc : AdcChannel → BitVec 16)

/-- The value of a channel with the calibration of the packet. -/
def exactValue (chan : AdcChannel) : Nat :=
  calibrated ((adc chan).toNat % 4096) (cmd.adc chan).offset.toInt (cmd.adc chan).gain.toNat

/-- The sum over the channels whose function is one of a kind. -/
def sumOver (amount : AdcChannel → Nat) (kind : AdcFunction → Bool) : Nat :=
  ∑ chan, if kind (cmd.functionOf chan) then amount chan else 0

/-- What the channel of a function says, 0 for a function without a channel. -/
def valueOf (f : AdcFunction) : Nat := sumOver cmd (exactValue cmd adc) (· = f)

/-- The voltage of a channel. -/
def voltageOf (chan : AdcChannel) : Nat :=
  if usesVolt2 (cmd.functionOf chan) then valueOf cmd adc .voltSense2 else valueOf cmd adc .sense12v

/-- The power of a channel in microwatts. -/
def powerOf (chan : AdcChannel) : Nat := voltageOf cmd adc chan * exactValue cmd adc chan

def totalPower (kind : AdcFunction → Bool) : Nat := sumOver cmd (powerOf cmd adc) kind

def systemPower : Nat :=
  totalPower cmd adc (ofSystem (totalPower cmd adc (· = .totalSysCurrent) ≠ 0) (totalPower cmd adc (· = .totalSysCurrent2) ≠ 0))

end

/-! ## The law -/

/-- A sensor is updated with a number of watts, if that fits. -/
def Gets (old new : SensorState) (tod : BitVec 64) (n : Nat) : Prop := ∃ v, new = old.update tod v ∧ (n < 2 ^ 16 → v.toNat = n)

/-- A 32-bit sum does not wrap on the way to a number of watts that fits. -/
def Sums (sum : BitVec 32) (n : Nat) : Prop := watts n < 2 ^ 16 → sum.toNat = n

/-- The sensors are updated in this call. -/
def Updates (apss : Apss) (p : PowerSensors) (call : ApssCall) : Prop :=
  p.slvInboxReceived = true ∧ apss.pwrReadingType = Cmdh.pwrReadingTypeApss ∧ call.recoveryInProgress = 0 ∧ call.gpioEpow = false

/-- What a call that updates the sensors leaves: values and sums of the channels with the functions of the packet. -/
structure Measured (cmd : ApssConfig) (apss : Apss) (call : ApssCall) (p q : PowerSensors) : Prop where
  values : ∀ chan, (q.lastValidAdcValue chan).toNat = exactValue cmd call.adc chan
  channels : call.master = true → ∀ chan, isSensed (cmd.functionOf chan) = true →
    Gets (p.pwrApssCh chan) (q.pwrApssCh chan) call.tod (watts (powerOf cmd call.adc chan))
  proc : (∃ chan, ofProc call.proc (cmd.functionOf chan) = true) →
    Gets p.pwrProc q.pwrProc call.tod (watts (totalPower cmd call.adc (ofProc call.proc)))
  memory : Gets p.pwrMem q.pwrMem call.tod (watts (totalPower cmd call.adc (ofMemory call.proc call.fspSupported)))
  gpu : ∀ h : call.proc.val < 2, Gets p.pwrGpu q.pwrGpu call.tod (watts (totalPower cmd call.adc (ofGpus call.proc))) ∧
    Sums (gpuPower apss q.lastValidAdcValue ⟨call.proc.val, h⟩) (totalPower cmd call.adc (ofGpus call.proc))
  system : Gets p.pwrSys q.pwrSys call.tod (watts (systemPower cmd call.adc)) ∧
    Sums (sysPower apss q.lastValidAdcValue) (systemPower cmd call.adc)

/-- The law of a call: it measures, or leaves everything as it was. -/
structure ApssPowerLaw (cmd : ApssConfig) (apss : Apss) (p : PowerSensors) (call : ApssCall) : Prop where
  measured : Updates apss p call → Measured cmd apss call p (p.amecUpdateApssSensors apss call).1
  kept : ¬Updates apss p call → (p.amecUpdateApssSensors apss call).1 = p

/-- The condition on a channel: of half the reading with the offset, nothing is lost in 16 bits, and with the gain nothing in 32, or
what is lost makes no difference. -/
def ChannelOk (reading : Nat) (offset : Int) (gain : Nat) : Prop :=
  if reading / 2 = 0 then reading = 0 ∨ offset ≤ 0 ∨ offset * gain < 1000
  else if (2 : Int) ^ 15 ≤ (reading / 2 : Nat) + offset then gain = 0
  else if ((reading / 2 : Nat) : Int) + offset < -2 ^ 15 then
    2 ^ 15 ≤ (((reading / 2 : Nat) : Int) + offset) % 2 ^ 16 ∨ (((reading / 2 : Nat) : Int) + offset) % 2 ^ 16 * gain % 2 ^ 32 < 1000
  else (((reading / 2 : Nat) : Int) + offset).toNat * gain < 2 ^ 32

instance (reading : Nat) (offset : Int) (gain : Nat) : Decidable (ChannelOk reading offset gain) := by
  unfold ChannelOk
  infer_instance

/-- The condition: on every channel, and on the power of the GPUs and of the system, which a 32-bit number of microwatts holds or
16 bits of watts do not. -/
structure ApssOk (cmd : ApssConfig) (call : ApssCall) : Prop where
  channels : ∀ chan, ChannelOk ((call.adc chan).toNat % 4096) (cmd.adc chan).offset.toInt (cmd.adc chan).gain.toNat
  gpu : call.proc.val < 2 → totalPower cmd call.adc (ofGpus call.proc) < 2 ^ 32 ∨
    2 ^ 16 ≤ watts (totalPower cmd call.adc (ofGpus call.proc))
  system : systemPower cmd call.adc < 2 ^ 32 ∨ 2 ^ 16 ≤ watts (systemPower cmd call.adc)

/-! ## Channels -/

section
variable {r g : Nat} {off x : Int}

/-- What 16 bits keep of the sum, which is 0 when it looks negative, and 32 bits of its product with the gain. -/
def kept (x : Int) (g : Nat) : Nat := (if 2 ^ 15 ≤ x % 2 ^ 16 then 0 else (x % 2 ^ 16).toNat) * g % 2 ^ 32 / 1000

theorem kept_eq_iff : kept x g = x.toNat * g / 1000 ↔
    if 2 ^ 15 ≤ x then g = 0
    else if x < -2 ^ 15 then 2 ^ 15 ≤ x % 2 ^ 16 ∨ x % 2 ^ 16 * g % 2 ^ 32 < 1000
    else x.toNat * g < 2 ^ 32 := by
  unfold kept
  split_ifs with hsign hlarge hsmall hlarge hsmall
  · -- the sum is too large, and counts as negative
    rw [Nat.zero_mul, Nat.zero_mod, Nat.zero_div]
    constructor
    · intro h
      by_contra hpos
      have hthousand : 1000 ≤ x.toNat * g := by
        calc 1000 ≤ 2 ^ 15 * 1 := by decide
          _ ≤ x.toNat * g := Nat.mul_le_mul (by omega) (by omega)
      omega
    · rintro rfl
      rw [Nat.mul_zero, Nat.zero_div]
  · rw [Nat.zero_mul, Nat.zero_mod, Nat.zero_div, show x.toNat = 0 by omega, Nat.zero_mul]
    exact iff_of_true (Nat.zero_div _).symm (.inl hsign)
  · rw [Nat.zero_mul, Nat.zero_mod, Nat.zero_div, show x.toNat = 0 by omega, Nat.zero_mul]
    exact iff_of_true (Nat.zero_div _).symm (by decide)
  · -- the sum is too large, and what is left of it is smaller
    constructor
    · intro h
      by_contra hpos
      have hless : ((x % 2 ^ 16).toNat * g % 2 ^ 32 + 1000) ≤ x.toNat * g := by
        have hmod := Nat.mod_le ((x % 2 ^ 16).toNat * g) (2 ^ 32)
        have hstep : ((x % 2 ^ 16).toNat + 1000) * g ≤ x.toNat * g := Nat.mul_le_mul_right g (by omega)
        have := Nat.le_mul_of_pos_right 1000 (Nat.pos_of_ne_zero hpos)
        rw [Nat.add_mul] at hstep
        omega
      have := Nat.div_le_div_right (c := 1000) hless
      omega
    · rintro rfl
      rw [Nat.mul_zero, Nat.mul_zero, Nat.zero_mod]
  · rw [show x.toNat = 0 by omega, Nat.zero_mul, Nat.zero_div]
    have hcast : (x % 2 ^ 16 * g % 2 ^ 32 : Int) = (((x % 2 ^ 16).toNat * g % 2 ^ 32 : Nat) : Int) := by
      rw [Int.natCast_mod, Int.natCast_mul, Int.toNat_of_nonneg (by omega)]
      rfl
    rw [hcast]
    omega
  · have hsame : (x % 2 ^ 16).toNat = x.toNat := by omega
    rw [hsame, mod_div_eq_iff (by decide) (by decide)]

theorem calibrated_eq_iff {reading : Nat} :
    (if reading / 2 = 0 then 0 else kept (((reading / 2 : Nat) : Int) + off) g) = calibrated reading off g ↔
      ChannelOk reading off g := by
  unfold calibrated ChannelOk
  by_cases hhalf : reading / 2 = 0
  · rw [if_pos hhalf, if_pos hhalf, hhalf]
    by_cases hzero : reading = 0
    · rw [if_pos hzero]
      exact iff_of_true rfl (.inl hzero)
    · rw [if_neg hzero, Int.natCast_zero, Int.zero_add]
      obtain hneg | hpos := Int.le_total off 0
      · rw [show off.toNat = 0 by omega, Nat.zero_mul]
        exact iff_of_true (Nat.zero_div _).symm (.inr (.inl hneg))
      · have hcast : off * g = ((off.toNat * g : Nat) : Int) := by
          rw [Int.natCast_mul, Int.toNat_of_nonneg hpos]
        have hzeros : off ≤ 0 → off.toNat * g = 0 := fun h => by rw [show off.toNat = 0 by omega, Nat.zero_mul]
        rw [hcast]
        omega
  · have hzero : reading ≠ 0 := by
      rintro rfl
      exact hhalf rfl
    rw [if_neg hhalf, if_neg hhalf, if_neg hzero, kept_eq_iff]

theorem and_sign_ne_zero_iff (x : BitVec 16) : x &&& 0x8000 ≠ 0 ↔ 2 ^ 15 ≤ x.toNat := by
  have hand : (x &&& 0x8000).toNat = x.toNat &&& 2 ^ 15 := rfl
  have hbit : x.toNat.testBit 15 = decide (2 ^ 15 ≤ x.toNat) := by
    rw [Nat.testBit_eq_decide_div_mod_eq]
    have := x.isLt
    refine decide_eq_decide.2 ?_
    omega
  rw [ne_eq, ← BitVec.toNat_inj, hand, Nat.and_two_pow, hbit]
  simp

/-- The value of a channel as the code computes it. -/
theorem amecValue_toNat (apss : Apss) (adc : AdcChannel → BitVec 16) (chan : AdcChannel) :
    (amecValueFromApssAdc apss adc chan).toNat =
      if (adc chan).toNat % 4096 / 2 = 0 then 0
      else kept ((((adc chan).toNat % 4096 / 2 : Nat) : Int) + (apss.cal chan).offset.toInt) (apss.cal chan).gain.toNat := by
  have hraw : ((adc chan &&& 0x0fff) / 2 : BitVec 16).toNat = (adc chan).toNat % 4096 / 2 := by
    rw [BitVec.toNat_udiv, BitVec.toNat_and]
    exact congrArg (· / 2) (Nat.and_two_pow_sub_one_eq_mod _ 12)
  unfold amecValueFromApssAdc
  generalize ((adc chan &&& 0x0fff) / 2 : BitVec 16) = raw at *
  generalize (apss.cal chan).offset = offset
  generalize (apss.cal chan).gain = gain
  have hoffset : (if offset &&& 0x80000000 ≠ 0 then raw - (~~~offset + 1).setWidth 16 else raw + offset.setWidth 16) =
      raw + offset.setWidth 16 := by
    rw [show ~~~offset + 1 = -offset from (BitVec.neg_eq_not_add offset).symm]
    split_ifs
    · bv_omega
    · rfl
  have hscaled : ∀ a : BitVec 16, (a.setWidth 32 * gain / 1000 : BitVec 32).toNat = a.toNat * gain.toNat % 2 ^ 32 / 1000 := by
    intro a
    rw [BitVec.toNat_udiv, BitVec.toNat_mul, BitVec.toNat_setWidth, Nat.mod_eq_of_lt (a := a.toNat) (by omega)]
    rfl
  dsimp only
  rw [hoffset, hscaled, ← hraw]
  by_cases hzero : raw = 0
  · rw [hzero, if_neg (not_not.2 rfl), ite_self]
    show 0 * _ % _ / _ = 0
    rw [Nat.zero_mul, Nat.zero_mod, Nat.zero_div]
  · have hne : raw.toNat ≠ 0 := fun h => hzero (BitVec.toNat_inj.1 h)
    have hsum : (((raw + offset.setWidth 16).toNat : Nat) : Int) = (raw.toNat + offset.toInt) % 2 ^ 16 := by
      rw [BitVec.toNat_add, BitVec.toNat_setWidth, BitVec.toInt_eq_toNat_cond]
      split_ifs <;> omega
    rw [if_pos hzero, if_neg hne, kept, ← hsum, Int.toNat_natCast]
    have hsign : (if raw + offset.setWidth 16 &&& 0x8000 ≠ 0 then 0 else raw + offset.setWidth 16).toNat =
        if 2 ^ 15 ≤ (((raw + offset.setWidth 16).toNat : Nat) : Int) then 0 else (raw + offset.setWidth 16).toNat := by
      rw [apply_ite BitVec.toNat]
      exact if_congr ((and_sign_ne_zero_iff _).trans (by omega)) rfl rfl
    rw [hsign]

end

/-! ## Assignment -/

/-- The maps are those of the packet: for all channels, and with their calibration. -/
structure Assigned (cmd : ApssConfig) (apss : Apss) : Prop where
  isAt_iff : ∀ place chan, isAt apss place chan = true ↔ (cmd.functionOf chan).place = some place
  range : ∀ place, apss.adcMap place = Cmdh.sysCfgInvalidAdcChan ∨ ∃ chan : AdcChannel, apss.adcMap place = BitVec.ofNat 8 chan
  volt : ∀ chan gpu volt, (cmd.functionOf chan).volt = some (gpu, volt) → apss.gpuVoltType gpu = volt
  cal : ∀ chan, apss.cal chan = (cmd.adc chan).cal

theorem assigned_of_accepted {chipId : BitVec 8} {cmd : ApssConfig} {s apss : Apss}
    (h : dataStoreApssConfig chipId s cmd = (apss, none)) (hpwr : apss.pwrReadingType = Cmdh.pwrReadingTypeApss) :
    Assigned cmd apss := by
  have hst := Cmdh.dataStoreApssConfig_ok h
  have htype : cmd.type = Cmdh.pwrReadingTypeApss := by
    by_contra hother
    have hcmd := hst.pwrReadingType
    rw [hpwr, ApssConfig.pwrReadingType, if_neg hother] at hcmd
    exact hother hcmd.symm
  have hall : cmd.channels = List.finRange 16 := by
    rw [ApssConfig.channels, htype]
    decide
  have hfunction : ∀ chan, cmd.functionOf chan = cmd.fn chan := by
    intro chan
    rw [ApssConfig.functionOf, hall, if_pos (List.mem_finRange chan)]
    rfl
  have hfresh := hst.adc.fresh
  have hvolt := hst.adc.volt
  rw [hall] at hfresh hvolt
  refine ⟨fun place chan => ?_, fun place => ?_, fun chan gpu volt hv => ?_, fun chan => ?_⟩
  · rw [isAt, beq_iff_eq, eq_comm, hfresh.apply_eq_iff (Cmdh.ofNat_ne_invalid chan), hfunction, List.mem_flatMap]
    constructor
    · rintro ⟨chan', -, hw⟩
      obtain ⟨hplace, heq⟩ := Cmdh.mem_adcWrites.1 hw
      rw [Cmdh.ofNat_inj heq]
      exact hplace
    · intro hplace
      exact ⟨chan, List.mem_finRange chan, Cmdh.mem_adcWrites.2 ⟨hplace, rfl⟩⟩
  · by_cases hfree : apss.adcMap place = Cmdh.sysCfgInvalidAdcChan
    · exact .inl hfree
    · obtain ⟨chan, -, hw⟩ := List.mem_flatMap.1 ((hfresh.apply_eq_iff hfree).1 rfl)
      exact .inr ⟨chan, (Cmdh.mem_adcWrites.1 hw).2⟩
  · rw [hfunction] at hv
    exact hvolt chan (List.mem_finRange chan) gpu volt hv
  · obtain ⟨u, hu, heq⟩ := hst.channels
    have hcal : apss.cal = u.cal := by rw [heq]
    rw [hcal, hu.cal, hall]
    refine Writes.puts_apply_of_mem (List.mem_map.2 ⟨chan, List.mem_finRange chan, rfl⟩) fun cal hw => ?_
    obtain ⟨chan', -, heq'⟩ := List.mem_map.1 hw
    cases heq'
    rfl

theorem isGpuVolt2_iff {f : AdcFunction} : isGpuVolt2 f = true ↔ ∃ proc i, f = .gpuVolt2 proc i := by
  cases f <;> simp [isGpuVolt2]

namespace Assigned

variable {cmd : ApssConfig} {apss : Apss} (ha : Assigned cmd apss)
include ha

theorem unique {chan chan' : AdcChannel} {place : AdcPlace} (h : (cmd.functionOf chan).place = some place)
    (h' : (cmd.functionOf chan').place = some place) : chan = chan' := by
  have hmap := (ha.isAt_iff place chan).2 h
  have hmap' := (ha.isAt_iff place chan').2 h'
  rw [isAt, beq_iff_eq] at hmap hmap'
  exact Cmdh.ofNat_inj (hmap.trans hmap'.symm)

theorem valueAt_toNat (values : AdcChannel → BitVec 32) (place : AdcPlace) : (valueAt apss values place).toNat =
    ∑ chan, if (cmd.functionOf chan).place = some place then (values chan).toNat else 0 := by
  unfold valueAt adcConvertedValue
  obtain hfree | ⟨chan, hchan⟩ := ha.range place
  · have hnone : ∀ chan, (cmd.functionOf chan).place ≠ some place := by
      intro chan hplace
      have hmap := (ha.isAt_iff place chan).2 hplace
      rw [isAt, beq_iff_eq, hfree] at hmap
      exact Cmdh.ofNat_ne_invalid chan hmap
    rw [hfree, dif_neg (by decide), Finset.sum_eq_zero fun chan _ => if_neg (hnone chan)]
    rfl
  · have hlt : (BitVec.ofNat 8 chan.val).toNat = chan.val := Nat.mod_eq_of_lt (by omega)
    have hplace : (cmd.functionOf chan).place = some place :=
      (ha.isAt_iff place chan).1 (by rw [isAt, beq_iff_eq, hchan])
    rw [Finset.sum_eq_single chan (fun chan' _ hne => if_neg fun h => hne (ha.unique h hplace))
      (fun h => absurd (Finset.mem_univ chan) h), if_pos hplace]
    simp only [hchan, hlt]
    rw [dif_pos chan.isLt]

theorem gpu_volt2_iff (chan : AdcChannel) (proc i : Fin 2) :
    (isAt apss (.gpu proc i.castSucc) chan && apss.gpuVoltType (proc, i.castSucc) == .volt2) = true ↔
      cmd.functionOf chan = .gpuVolt2 proc i := by
  rw [Bool.and_eq_true, ha.isAt_iff, beq_iff_eq]
  constructor
  · rintro ⟨hplace, htype⟩
    have hsame : (cmd.functionOf chan).place = (AdcFunction.gpuVolt2 proc i).place := hplace
    have hgpu := Cmdh.volt_of_place hsame
    refine Cmdh.eq_of_place hsame ?_
    cases hvolt : (cmd.functionOf chan).volt with
    | none =>
      rw [hvolt] at hgpu
      cases hgpu
    | some v =>
      obtain ⟨gpu, volt⟩ := v
      rw [hvolt] at hgpu
      obtain rfl : gpu = (proc, i.castSucc) := Option.some.inj hgpu
      rw [← ha.volt chan _ _ hvolt, htype]
      rfl
  · intro hf
    rw [hf]
    exact ⟨rfl, ha.volt chan _ _ (by rw [hf]; rfl)⟩

theorem gpuUsingVolt2_eq (chan : AdcChannel) : gpuUsingVolt2 apss chan = isGpuVolt2 (cmd.functionOf chan) := by
  have hfour := fun proc i => ha.gpu_volt2_iff chan proc i
  have hiff : gpuUsingVolt2 apss chan = true ↔ isGpuVolt2 (cmd.functionOf chan) = true := by
    unfold gpuUsingVolt2
    rw [Bool.or_eq_true, Bool.or_eq_true, Bool.or_eq_true]
    refine (or_congr (or_congr (or_congr (hfour 0 0) (hfour 0 1)) (hfour 1 0)) (hfour 1 1)).trans ?_
    constructor
    · rintro (((h | h) | h) | h) <;> rw [h] <;> rfl
    · intro h
      obtain ⟨proc, i, hf⟩ := isGpuVolt2_iff.1 h
      rw [hf]
      match proc, i with
      | 0, 0 => exact .inl (.inl (.inl rfl))
      | 0, 1 => exact .inl (.inl (.inr rfl))
      | 1, 0 => exact .inl (.inr rfl)
      | 1, 1 => exact .inr rfl
  exact Bool.eq_iff_iff.2 hiff

end Assigned

/-! ## Sums -/

section
variable {cmd : ApssConfig} {apss : Apss} {adc : AdcChannel → BitVec 16} {values : AdcChannel → BitVec 32}
  {amount : AdcChannel → Nat} {kind kind' : AdcFunction → Bool}

theorem sumOver_congr (h : ∀ f, kind f = kind' f) : sumOver cmd amount kind = sumOver cmd amount kind' :=
  congrArg (sumOver cmd amount) (funext h)

theorem sumOver_or (h : ∀ f, kind f = true → kind' f = false) :
    sumOver cmd amount (fun f => kind f || kind' f) = sumOver cmd amount kind + sumOver cmd amount kind' := by
  unfold sumOver
  rw [← Finset.sum_add_distrib]
  refine Finset.sum_congr rfl fun chan _ => ?_
  have hchan := h (cmd.functionOf chan)
  show (if (kind (cmd.functionOf chan) || kind' (cmd.functionOf chan)) = true then _ else _) = _
  cases hk : kind (cmd.functionOf chan) with
  | true => rw [hchan hk]; rfl
  | false => rw [Bool.false_or, if_neg Bool.false_ne_true, Nat.zero_add]

theorem sumOver_mono (h : ∀ f, kind f = true → kind' f = true) : sumOver cmd amount kind ≤ sumOver cmd amount kind' := by
  refine Finset.sum_le_sum fun chan _ => ?_
  split_ifs with hk hk'
  · exact Nat.le_refl _
  · exact absurd (h _ hk) hk'
  · exact Nat.zero_le _
  · exact Nat.le_refl _

/-- The kind of the functions in a place, and that of the functions in one of several places. -/
def inPlace (place : AdcPlace) (f : AdcFunction) : Bool := f.place = some place

def inPlaces (places : List AdcPlace) (f : AdcFunction) : Bool := places.any fun place => inPlace place f

theorem sumOver_inPlaces {places : List AdcPlace} (h : places.Nodup) :
    sumOver cmd amount (inPlaces places) = (places.map fun place => sumOver cmd amount (inPlace place)).sum := by
  induction places with
  | nil => exact Finset.sum_eq_zero fun _ _ => rfl
  | cons place places ih =>
    obtain ⟨hnew, hrest⟩ := List.nodup_cons.1 h
    rw [List.map_cons, List.sum_cons, ← ih hrest]
    refine sumOver_or fun f hf => ?_
    rw [Bool.eq_false_iff]
    intro hany
    obtain ⟨place', hmem, hplace'⟩ := List.any_eq_true.1 hany
    have heq := (of_decide_eq_true hf).symm.trans (of_decide_eq_true hplace')
    rw [Option.some.inj heq] at hnew
    exact hnew hmem

theorem ofProc_eq (proc : Fin 4) (f : AdcFunction) : ofProc proc f = inPlaces [.vcsVioVpcie proc, .vdd proc] f := by
  cases f <;> simp [ofProc, inPlaces, inPlace, AdcFunction.place]

theorem ofMemory_eq (proc : Fin 4) (fsp : Bool) (f : AdcFunction) : ofMemory proc fsp f =
    inPlaces ([.memory proc 0, .memory proc 1, .memory proc 2, .memory proc 3] ++ if fsp then [] else [.memCache]) f := by
  cases fsp <;> cases f <;> simp [ofMemory, inPlaces, inPlace, AdcFunction.place]
  case false.memoryProc0 i => revert proc i; decide
  case true.memoryProc0 i => revert proc i; decide

theorem ofGpus_eq (proc : Fin 4) (h : proc.val < 2) (f : AdcFunction) :
    ofGpus proc f = inPlaces [.gpu ⟨proc.val, h⟩ 0, .gpu ⟨proc.val, h⟩ 1, .gpu ⟨proc.val, h⟩ 2] f := by
  cases f <;> simp [ofGpus, inPlaces, inPlace, AdcFunction.place]
  case gpu q i => revert proc q i; decide
  case gpuVolt2 q i => revert proc q i; decide

end

/-! ## Power -/

section
variable {cmd : ApssConfig} {apss : Apss} {adc : AdcChannel → BitVec 16} {values : AdcChannel → BitVec 32}

/-- The values that the sensors are computed from are exact, and no larger than what is left of 32 bits by 1000. -/
structure ExactValues (cmd : ApssConfig) (adc : AdcChannel → BitVec 16) (values : AdcChannel → BitVec 32) : Prop where
  toNat_eq : ∀ chan, (values chan).toNat = exactValue cmd adc chan
  le : ∀ chan, (values chan).toNat ≤ 4294967

namespace Assigned

variable (ha : Assigned cmd apss) (hv : ExactValues cmd adc values)
include ha hv

theorem valueAt_eq (place : AdcPlace) (f : AdcFunction) (hf : ∀ g : AdcFunction, g.place = some place ↔ g = f) :
    (valueAt apss values place).toNat = valueOf cmd adc f := by
  unfold valueOf sumOver
  rw [ha.valueAt_toNat]
  refine Finset.sum_congr rfl fun chan _ => ?_
  rw [hv.toNat_eq]
  by_cases h : cmd.functionOf chan = f
  · rw [if_pos ((hf _).2 h), if_pos (decide_eq_true h)]
  · rw [if_neg (mt (hf _).1 h), if_neg fun heq => h (of_decide_eq_true heq)]

variable (apss) in
omit ha in
theorem valueAt_le (place : AdcPlace) : (valueAt apss values place).toNat ≤ 4294967 := by
  unfold valueAt adcConvertedValue
  split_ifs with h
  · exact hv.le _
  · exact Nat.zero_le _

theorem bulkVoltage_toNat : (bulkVoltage apss values).toNat = valueOf cmd adc .sense12v ∧
    (bulkVoltage2 apss values).toNat = valueOf cmd adc .voltSense2 := by
  have hsense := ha.valueAt_eq hv .sense12v .sense12v fun g => by cases g <;> simp [AdcFunction.place]
  have hsense2 := ha.valueAt_eq hv .senseVolt2 .voltSense2 fun g => by cases g <;> simp [AdcFunction.place]
  unfold bulkVoltage bulkVoltage2
  rw [BitVec.toNat_setWidth_of_le (by decide), BitVec.toNat_setWidth_of_le (by decide)]
  exact ⟨hsense, hsense2⟩

variable (apss) in
omit ha in
theorem bulkVoltage_le : (bulkVoltage apss values).toNat ≤ 4294967 ∧ (bulkVoltage2 apss values).toNat ≤ 4294967 := by
  unfold bulkVoltage bulkVoltage2
  rw [BitVec.toNat_setWidth_of_le (by decide), BitVec.toNat_setWidth_of_le (by decide)]
  exact ⟨valueAt_le apss hv _, valueAt_le apss hv _⟩

theorem channelVoltage_toNat (chan : AdcChannel) : (channelVoltage apss values chan).toNat = voltageOf cmd adc chan := by
  have htotal : isAt apss .totalCurrentVolt2 chan = decide (cmd.functionOf chan = .totalSysCurrent2) := by
    rw [Bool.eq_iff_iff, ha.isAt_iff, decide_eq_true_iff]
    cases cmd.functionOf chan <;> simp [AdcFunction.place]
  have huses : usesVolt2 (cmd.functionOf chan) =
      (isGpuVolt2 (cmd.functionOf chan) || decide (cmd.functionOf chan = .totalSysCurrent2)) := by
    cases cmd.functionOf chan <;> simp [usesVolt2, isGpuVolt2]
  unfold channelVoltage voltageOf
  rw [ha.gpuUsingVolt2_eq, htotal, huses, ← (ha.bulkVoltage_toNat hv).1, ← (ha.bulkVoltage_toNat hv).2]
  exact apply_ite BitVec.toNat _ _ _

theorem power_inPlace {place : AdcPlace} {voltage : Nat}
    (h : ∀ chan, (cmd.functionOf chan).place = some place → voltage = voltageOf cmd adc chan) :
    voltage * (valueAt apss values place).toNat = sumOver cmd (powerOf cmd adc) (inPlace place) := by
  rw [ha.valueAt_toNat, Finset.mul_sum]
  refine Finset.sum_congr rfl fun chan _ => ?_
  unfold inPlace
  by_cases hplace : (cmd.functionOf chan).place = some place
  · rw [if_pos hplace, if_pos (decide_eq_true hplace), h chan hplace, hv.toNat_eq]
    rfl
  · rw [if_neg hplace, if_neg (fun h => hplace (of_decide_eq_true h)), Nat.mul_zero]

theorem power_volt1 (place : AdcPlace) (h : ∀ f : AdcFunction, f.place = some place → usesVolt2 f = false) :
    (bulkVoltage apss values).toNat * (valueAt apss values place).toNat = sumOver cmd (powerOf cmd adc) (inPlace place) := by
  refine ha.power_inPlace hv fun chan hplace => ?_
  unfold voltageOf
  rw [h _ hplace, (ha.bulkVoltage_toNat hv).1]
  rfl

theorem power_gpu (proc i : Fin 2) : (gpuVoltage apss values proc i).toNat * (valueAt apss values (.gpu proc i.castSucc)).toNat =
    sumOver cmd (powerOf cmd adc) (inPlace (.gpu proc i.castSucc)) := by
  refine ha.power_inPlace hv fun chan hplace => ?_
  have hiff := ha.gpu_volt2_iff chan proc i
  rw [Bool.and_eq_true, ha.isAt_iff, beq_iff_eq] at hiff
  unfold gpuVoltage voltageOf
  by_cases htype : apss.gpuVoltType (proc, i.castSucc) = .volt2
  · rw [if_pos htype, hiff.1 ⟨hplace, htype⟩, (ha.bulkVoltage_toNat hv).2]
    rfl
  · have hother : usesVolt2 (cmd.functionOf chan) = false := by
      have hne : ∀ q j, cmd.functionOf chan ≠ .gpuVolt2 q j := by
        intro q j hf
        rw [hf] at hplace
        obtain ⟨rfl, hj⟩ := AdcPlace.gpu.inj (Option.some.inj hplace)
        rw [Fin.castSucc_injective 2 hj] at hf
        exact htype (hiff.2 hf).2
      cases hf : cmd.functionOf chan <;> rw [hf] at hplace hne <;> first | rfl | cases hplace | exact absurd rfl (hne _ _)
    rw [if_neg htype, hother, (ha.bulkVoltage_toNat hv).1]
    rfl

theorem procPower_total (proc : Fin 4) :
    ((valueAt apss values (.vcsVioVpcie proc) + valueAt apss values (.vdd proc)).setWidth 64 * bulkVoltage apss values).toNat =
      totalPower cmd adc (ofProc proc) := by
  have hvcs := ha.power_volt1 hv (.vcsVioVpcie proc) fun f hf => by cases f <;> first | rfl | cases hf
  have hvdd := ha.power_volt1 hv (.vdd proc) fun f hf => by cases f <;> first | rfl | cases hf
  have hle := valueAt_le apss hv (.vcsVioVpcie proc)
  have hle' := valueAt_le apss hv (.vdd proc)
  have hbound := (bulkVoltage_le apss hv).1
  unfold totalPower
  rw [sumOver_congr (ofProc_eq proc), sumOver_inPlaces (by simp), List.map_cons, List.map_cons, List.map_nil, List.sum_cons,
    List.sum_cons, List.sum_nil, ← hvcs, ← hvdd, BitVec.toNat_mul, BitVec.toNat_setWidth_of_le (by decide), BitVec.toNat_add]
  generalize (valueAt apss values (.vcsVioVpcie proc)).toNat = a at *
  generalize (valueAt apss values (.vdd proc)).toNat = b at *
  generalize (bulkVoltage apss values).toNat = v at *
  have hprod : (a + b) * v ≤ 8589934 * 4294967 := Nat.mul_le_mul (by omega) hbound
  rw [Nat.mod_eq_of_lt (a := a + b) (by omega), Nat.mod_eq_of_lt (by omega), Nat.add_zero, Nat.mul_comm, Nat.mul_add]

/-- The memory of a processor, with the memory cache or without it. -/
theorem memPower_total (proc : Fin 4) (fsp : Bool) :
    ((if fsp then memCurrent apss values proc else memCurrent apss values proc + valueAt apss values .memCache).setWidth 64 *
      bulkVoltage apss values).toNat = totalPower cmd adc (ofMemory proc fsp) := by
  have hmem : ∀ i, (bulkVoltage apss values).toNat * (valueAt apss values (.memory proc i)).toNat =
      sumOver cmd (powerOf cmd adc) (inPlace (.memory proc i)) :=
    fun i => ha.power_volt1 hv _ fun f hf => by cases f <;> first | rfl | cases hf
  have hcache := ha.power_volt1 hv .memCache fun f hf => by cases f <;> first | rfl | cases hf
  have hle := fun i => valueAt_le apss hv (.memory proc i)
  have hle' := valueAt_le apss hv .memCache
  have hbound := (bulkVoltage_le apss hv).1
  have h0 := hle 0
  have h1 := hle 1
  have h2 := hle 2
  have h3 := hle 3
  have hcurrent : (memCurrent apss values proc).toNat = (valueAt apss values (.memory proc 0)).toNat +
      (valueAt apss values (.memory proc 1)).toNat + (valueAt apss values (.memory proc 2)).toNat +
      (valueAt apss values (.memory proc 3)).toNat := by
    unfold memCurrent
    bv_omega
  have hsum : (if fsp then memCurrent apss values proc else memCurrent apss values proc + valueAt apss values .memCache).toNat =
      (memCurrent apss values proc).toNat + if fsp then 0 else (valueAt apss values .memCache).toNat := by
    cases fsp
    · show (memCurrent apss values proc + _).toNat = _
      rw [BitVec.toNat_add]
      exact Nat.mod_eq_of_lt (by omega)
    · rfl
  have hplaces : (if fsp then memCurrent apss values proc else memCurrent apss values proc + valueAt apss values .memCache).toNat ≤
      5 * 4294967 := by
    rw [hsum]
    split_ifs <;> omega
  have hnodup : ([.memory proc 0, .memory proc 1, .memory proc 2, .memory proc 3] ++ if fsp then [] else [.memCache] :
      List AdcPlace).Nodup := by
    cases fsp <;> simp
  have hprod := Nat.mul_le_mul hplaces hbound
  unfold totalPower
  rw [sumOver_congr (ofMemory_eq proc fsp), sumOver_inPlaces hnodup, BitVec.toNat_mul,
    BitVec.toNat_setWidth_of_le (by decide), Nat.mod_eq_of_lt (by omega), hsum, hcurrent, Nat.mul_comm]
  simp only [Nat.mul_add, hmem, List.map_append, List.map_cons, List.map_nil, List.sum_append, List.sum_cons, List.sum_nil]
  cases fsp
  · rw [if_neg Bool.false_ne_true, if_neg Bool.false_ne_true, hcache]
    simp only [List.map_cons, List.map_nil, List.sum_cons, List.sum_nil]
    omega
  · rw [if_pos rfl, if_pos rfl]
    simp only [List.map_nil, List.sum_nil]
    omega

end Assigned

theorem addPower_toNat (sum : BitVec 32) (voltage : BitVec 64) (current : BitVec 32) :
    (addPower sum voltage current).toNat = (sum.toNat + voltage.toNat * current.toNat) % 2 ^ 32 := by
  unfold addPower
  rw [BitVec.toNat_setWidth, BitVec.toNat_add, BitVec.toNat_mul, BitVec.toNat_setWidth_of_le (by decide),
    BitVec.toNat_setWidth_of_le (by decide)]
  generalize voltage.toNat * current.toNat = power
  omega

theorem sumChannels_toNat (test : AdcChannel → Bool) (voltage : AdcChannel → BitVec 64) (start : BitVec 32) :
    (sumChannels values test voltage start).toNat =
      (start.toNat + ∑ chan, if test chan then (voltage chan).toNat * (values chan).toNat else 0) % 2 ^ 32 := by
  have hlist : ∀ (chans : List AdcChannel) (sum : BitVec 32),
      (chans.foldl (fun temp chan => if test chan then addPower temp (voltage chan) (values chan) else temp) sum).toNat =
        (sum.toNat + (chans.map fun chan => if test chan then (voltage chan).toNat * (values chan).toNat else 0).sum) % 2 ^ 32 := by
    intro chans
    induction chans with
    | nil => intro sum; exact (Nat.mod_eq_of_lt sum.isLt).symm
    | cons chan chans ih =>
      intro sum
      rw [List.foldl_cons, ih, List.map_cons, List.sum_cons, ← Nat.add_assoc]
      by_cases htest : test chan = true
      · rw [if_pos htest, if_pos htest, addPower_toNat, Nat.mod_add_mod]
      · rw [if_neg htest, if_neg htest, Nat.add_zero]
  unfold sumChannels
  rw [hlist, Fin.sum_univ_def]

namespace Assigned

variable (ha : Assigned cmd apss) (hv : ExactValues cmd adc values)
include ha hv

theorem gpuPower_total (proc : Fin 4) (h : proc.val < 2) :
    (gpuPower apss values ⟨proc.val, h⟩).toNat = totalPower cmd adc (ofGpus proc) % 2 ^ 32 := by
  have h0 := ha.power_gpu hv ⟨proc.val, h⟩ 0
  have h1 := ha.power_gpu hv ⟨proc.val, h⟩ 1
  have h2 := ha.power_volt1 hv (.gpu ⟨proc.val, h⟩ 2) fun f hf => by
    cases f with
    | gpuVolt2 q i => exact absurd (AdcPlace.gpu.inj (Option.some.inj hf)).2 (Fin.castSucc_ne_last i)
    | _ => first | rfl | cases hf
  unfold totalPower gpuPower
  rw [sumOver_congr (ofGpus_eq proc h), sumOver_inPlaces (by simp), addPower_toNat, addPower_toNat, addPower_toNat]
  simp only [List.map_cons, List.map_nil, List.sum_cons, List.sum_nil, ← h2]
  rw [show AdcPlace.gpu ⟨proc.val, h⟩ 0 = .gpu ⟨proc.val, h⟩ (Fin.castSucc 0) from rfl,
    show AdcPlace.gpu ⟨proc.val, h⟩ 1 = .gpu ⟨proc.val, h⟩ (Fin.castSucc 1) from rfl, ← h0, ← h1]
  have hzero : (0 : BitVec 32).toNat = 0 := rfl
  omega

theorem sysPwrVolt_total :
    (sysPwrVolt1 apss values).toNat = totalPower cmd adc (· = .totalSysCurrent) % 2 ^ 32 ∧
      (sysPwrVolt2 apss values).toNat = totalPower cmd adc (· = .totalSysCurrent2) % 2 ^ 32 := by
  have h1 := ha.power_volt1 hv .totalCurrent12v fun f hf => by cases f <;> first | rfl | cases hf
  have h2 : (bulkVoltage2 apss values).toNat * (valueAt apss values .totalCurrentVolt2).toNat =
      sumOver cmd (powerOf cmd adc) (inPlace .totalCurrentVolt2) := by
    refine ha.power_inPlace hv fun chan hplace => ?_
    have huses : usesVolt2 (cmd.functionOf chan) = true := by
      cases hf : cmd.functionOf chan <;> rw [hf] at hplace <;> first | rfl | cases hplace
    unfold voltageOf
    rw [huses, (ha.bulkVoltage_toNat hv).2]
    rfl
  have hzero : (0 : BitVec 32).toNat = 0 := rfl
  unfold sysPwrVolt1 sysPwrVolt2 totalPower
  rw [addPower_toNat, addPower_toNat, h1, h2, hzero, Nat.zero_add, Nat.zero_add]
  constructor
  · refine congrArg (· % 2 ^ 32) (sumOver_congr fun f => ?_)
    cases f <;> simp [inPlace, AdcFunction.place]
  · refine congrArg (· % 2 ^ 32) (sumOver_congr fun f => ?_)
    cases f <;> simp [inPlace, AdcFunction.place]

omit ha in
theorem sumChannels_total {test : AdcChannel → Bool} {voltage : AdcChannel → BitVec 64} {kind : AdcFunction → Bool}
    (htest : ∀ chan, test chan = kind (cmd.functionOf chan))
    (hvoltage : ∀ chan, kind (cmd.functionOf chan) = true → (voltage chan).toNat = voltageOf cmd adc chan) (start : BitVec 32) :
    (sumChannels values test voltage start).toNat = (start.toNat + totalPower cmd adc kind) % 2 ^ 32 := by
  unfold totalPower sumOver
  rw [sumChannels_toNat]
  refine congrArg (fun n => (start.toNat + n) % 2 ^ 32) (Finset.sum_congr rfl fun chan _ => ?_)
  rw [htest]
  by_cases hkind : kind (cmd.functionOf chan) = true
  · rw [if_pos hkind, if_pos hkind, hvoltage chan hkind, hv.toNat_eq]
    rfl
  · rw [if_neg hkind, if_neg hkind]

omit hv in
theorem isLoad_eq (chan : AdcChannel) : isLoad apss chan = isSensed (cmd.functionOf chan) := by
  have hplace : ∀ place, isAt apss place chan = decide ((cmd.functionOf chan).place = some place) := fun place =>
    Bool.eq_iff_iff.2 ((ha.isAt_iff place chan).trans decide_eq_true_iff.symm)
  unfold isLoad
  rw [hplace, hplace, hplace, hplace]
  cases cmd.functionOf chan <;> simp [isSensed, AdcFunction.place]

omit ha hv in
theorem totalPower_ofSystem : totalPower cmd adc (ofSystem true true) =
      totalPower cmd adc (· = .totalSysCurrent) + totalPower cmd adc (· = .totalSysCurrent2) ∧
    totalPower cmd adc (ofSystem true false) = totalPower cmd adc (· = .totalSysCurrent) + totalPower cmd adc isGpuVolt2 := by
  unfold totalPower
  constructor
  · rw [← sumOver_or fun f hf => by rw [of_decide_eq_true hf]; rfl]
    exact sumOver_congr fun f => by simp [ofSystem]
  · rw [← sumOver_or fun f hf => by rw [of_decide_eq_true hf]; rfl]
    exact sumOver_congr fun f => by simp [ofSystem]

/-- The system power, by what the 32 bits hold of the totals that are provided. -/
theorem sysPower_toNat : (sysPower apss values).toNat = totalPower cmd adc (ofSystem
    (totalPower cmd adc (· = .totalSysCurrent) % 2 ^ 32 ≠ 0) (totalPower cmd adc (· = .totalSysCurrent2) % 2 ^ 32 ≠ 0)) % 2 ^ 32 := by
  obtain ⟨h1, h2⟩ := ha.sysPwrVolt_total hv
  have hgpus : ∀ chan, isGpuVolt2 (cmd.functionOf chan) = true → (bulkVoltage2 apss values).toNat = voltageOf cmd adc chan := by
    intro chan hgpu
    obtain ⟨proc, i, hf⟩ := isGpuVolt2_iff.1 hgpu
    unfold voltageOf
    rw [hf, (ha.bulkVoltage_toNat hv).2]
    rfl
  have hne : ∀ b : BitVec 32, (0 ≠ b) ↔ b.toNat ≠ 0 := by
    intro b
    rw [ne_comm, ne_eq, ne_eq, ← BitVec.toNat_inj]
    rfl
  have hdecide2 : decide (0 ≠ sysPwrVolt2 apss values) = decide (totalPower cmd adc (· = .totalSysCurrent2) % 2 ^ 32 ≠ 0) :=
    decide_eq_decide.2 (by rw [hne, h2])
  unfold sysPower
  dsimp only
  rw [hdecide2]
  by_cases hv1 : 0 ≠ sysPwrVolt1 apss values
  · rw [if_pos hv1, decide_eq_true (show totalPower cmd adc (· = .totalSysCurrent) % 2 ^ 32 ≠ 0 by rwa [← h1, ← hne])]
    by_cases hv2 : 0 ≠ sysPwrVolt2 apss values
    · rw [if_pos hv2, decide_eq_true (show totalPower cmd adc (· = .totalSysCurrent2) % 2 ^ 32 ≠ 0 by rwa [← h2, ← hne]),
        totalPower_ofSystem.1, BitVec.toNat_add, h1, h2, ← Nat.add_mod]
    · rw [if_neg hv2, decide_eq_false (show ¬totalPower cmd adc (· = .totalSysCurrent2) % 2 ^ 32 ≠ 0 by rwa [← h2, ← hne]),
        totalPower_ofSystem.2, sumChannels_total hv (fun chan => ha.gpuUsingVolt2_eq chan) hgpus, h1, Nat.mod_add_mod]
  · rw [if_neg hv1, decide_eq_false (show ¬totalPower cmd adc (· = .totalSysCurrent) % 2 ^ 32 ≠ 0 by rwa [← h1, ← hne])]
    generalize decide (totalPower cmd adc (· = .totalSysCurrent2) % 2 ^ 32 ≠ 0) = total2
    have htest : ∀ chan, (!(total2 && gpuUsingVolt2 apss chan) && isLoad apss chan) = ofSystem false total2 (cmd.functionOf chan) := by
      intro chan
      rw [ha.gpuUsingVolt2_eq, ha.isLoad_eq]
      cases total2
      · rfl
      · exact Bool.and_comm _ _
    rw [sumChannels_total hv htest fun chan _ => ha.channelVoltage_toNat hv chan]
    exact congrArg (· % 2 ^ 32) (Nat.zero_add _)

theorem sysPower_of_lt (h : systemPower cmd adc < 2 ^ 32) : (sysPower apss values).toNat = systemPower cmd adc := by
  have hprovided : ∀ total2, totalPower cmd adc (· = .totalSysCurrent) ≤ totalPower cmd adc (ofSystem true total2) := fun total2 =>
    sumOver_mono fun f hf => by
      rw [of_decide_eq_true hf]
      cases total2 <;> rfl
  have hprovided2 : ∀ total1, totalPower cmd adc (· = .totalSysCurrent2) ≤ totalPower cmd adc (ofSystem total1 true) := fun total1 =>
    sumOver_mono fun f hf => by
      rw [of_decide_eq_true hf]
      cases total1 <;> rfl
  rw [ha.sysPower_toNat hv]
  unfold systemPower at h ⊢
  have h1 : totalPower cmd adc (· = .totalSysCurrent) % 2 ^ 32 = totalPower cmd adc (· = .totalSysCurrent) := by
    by_cases hzero : totalPower cmd adc (· = .totalSysCurrent) = 0
    · rw [hzero, Nat.zero_mod]
    · rw [decide_eq_true (show totalPower cmd adc (· = .totalSysCurrent) ≠ 0 from hzero)] at h
      exact Nat.mod_eq_of_lt (Nat.lt_of_le_of_lt (hprovided _) h)
  have h2 : totalPower cmd adc (· = .totalSysCurrent2) % 2 ^ 32 = totalPower cmd adc (· = .totalSysCurrent2) := by
    by_cases hzero : totalPower cmd adc (· = .totalSysCurrent2) = 0
    · rw [hzero, Nat.zero_mod]
    · rw [decide_eq_true (show totalPower cmd adc (· = .totalSysCurrent2) ≠ 0 from hzero)] at h
      exact Nat.mod_eq_of_lt (Nat.lt_of_le_of_lt (hprovided2 _) h)
  rw [h1, h2]
  exact Nat.mod_eq_of_lt h

theorem powerOf_le (chan : AdcChannel) : powerOf cmd adc chan ≤ 4294967 * 4294967 := by
  obtain ⟨hvolt1, hvolt2⟩ := bulkVoltage_le apss hv
  unfold powerOf
  rw [← ha.channelVoltage_toNat hv, ← hv.toNat_eq]
  refine Nat.mul_le_mul ?_ (hv.le chan)
  unfold channelVoltage
  split_ifs
  · exact hvolt2
  · exact hvolt1

theorem totalPower_lt (kind : AdcFunction → Bool) : totalPower cmd adc kind < 2 ^ 63 := by
  have hle : ∀ chan ∈ Finset.univ, (if kind (cmd.functionOf chan) then powerOf cmd adc chan else 0) ≤ 4294967 * 4294967 := by
    intro chan _
    split_ifs
    · exact ha.powerOf_le hv chan
    · exact Nat.zero_le _
  have hsum := Finset.sum_le_card_nsmul Finset.univ _ _ hle
  unfold totalPower sumOver
  exact Nat.lt_of_le_of_lt hsum (by decide)

omit hv in
theorem hasProcChannel_iff (proc : Fin 4) :
    PowerSensors.hasProcChannel apss proc = true ↔ ∃ chan, ofProc proc (cmd.functionOf chan) = true := by
  have hused : ∀ place, apss.adcMap place ≠ Cmdh.sysCfgInvalidAdcChan ↔ ∃ chan, (cmd.functionOf chan).place = some place := by
    intro place
    constructor
    · intro hne
      obtain ⟨chan, hchan⟩ := (ha.range place).resolve_left hne
      exact ⟨chan, (ha.isAt_iff place chan).1 (by rw [isAt, beq_iff_eq, hchan])⟩
    · rintro ⟨chan, hplace⟩ hfree
      have hmap := (ha.isAt_iff place chan).2 hplace
      rw [isAt, beq_iff_eq, hfree] at hmap
      exact Cmdh.ofNat_ne_invalid chan hmap
  unfold PowerSensors.hasProcChannel
  rw [Bool.or_eq_true, bne_iff_ne, bne_iff_ne, hused, hused, ← exists_or]
  refine exists_congr fun chan => ?_
  cases cmd.functionOf chan <;> simp [ofProc, AdcFunction.place]

end Assigned

end

/-! ## Calls -/

section
variable {old : SensorState} {tod : BitVec 64} {n : Nat}

theorem gets_roundPower {value : BitVec 64} (h : value.toNat = n) (hn : n < 2 ^ 63) :
    Gets old (old.update tod ((roundPower value).setWidth 16)) tod (watts n) := by
  refine ⟨_, rfl, fun hfits => ?_⟩
  have hround : (roundPower value).toNat = watts n := by
    unfold roundPower watts
    rw [BitVec.toNat_udiv, BitVec.toNat_add, h]
    show (n + 500000) % 2 ^ 64 / 1000000 = _
    rw [Nat.mod_eq_of_lt (by omega)]
  rw [BitVec.toNat_setWidth, hround]
  exact Nat.mod_eq_of_lt hfits

theorem gets_of_sums {sum : BitVec 32} (h : Sums sum n) :
    Gets old (old.update tod ((roundPower (sum.setWidth 64)).setWidth 16)) tod (watts n) := by
  refine ⟨_, rfl, fun hfits => ?_⟩
  have hsum := sum.isLt
  obtain ⟨v, hv, hwatts⟩ := @gets_roundPower old tod _ (sum.setWidth 64) (BitVec.toNat_setWidth_of_le (by decide)) (by omega)
  rw [h hfits] at hwatts
  rw [← hwatts hfits]
  exact congrArg (fun sensor => sensor.sample.toNat) hv

theorem sums_iff {sum : BitVec 32} (h : n < 2 ^ 32 → sum.toNat = n) : Sums sum n ↔ n < 2 ^ 32 ∨ 2 ^ 16 ≤ watts n := by
  have hsum := sum.isLt
  unfold Sums
  constructor
  · intro hsums
    by_cases hfits : watts n < 2 ^ 16
    · exact .inl (by rw [← hsums hfits]; exact hsum)
    · exact .inr (Nat.le_of_not_lt hfits)
  · rintro (hlt | hlarge) hfits
    · exact h hlt
    · exact absurd hfits (Nat.not_lt.2 hlarge)

end

section
variable {cmd : ApssConfig} {apss : Apss} {p : PowerSensors} {call : ApssCall}

theorem values_iff (ha : Assigned cmd apss) (adc : AdcChannel → BitVec 16) (chan : AdcChannel) :
    (amecValueFromApssAdc apss adc chan).toNat = exactValue cmd adc chan ↔
      ChannelOk ((adc chan).toNat % 4096) (cmd.adc chan).offset.toInt (cmd.adc chan).gain.toNat := by
  rw [amecValue_toNat, ha.cal]
  exact calibrated_eq_iff

theorem exactValues_of_ok {adc : AdcChannel → BitVec 16}
    (h : ∀ chan, (amecValueFromApssAdc apss adc chan).toNat = exactValue cmd adc chan) :
    ExactValues cmd adc (amecValueFromApssAdc apss adc) := by
  refine ⟨h, fun chan => ?_⟩
  rw [amecValue_toNat]
  unfold kept
  split_ifs <;> omega

theorem update_of_updates (h : Updates apss p call) :
    let values := amecValueFromApssAdc apss call.adc
    let q := (p.amecUpdateApssSensors apss call).1
    q.lastValidAdcValue = values ∧
      (call.master = true → q.pwrApssCh = (p.updateChannels apss call values).pwrApssCh) ∧
      q.pwrProc = (if PowerSensors.hasProcChannel apss call.proc then
        p.pwrProc.update call.tod ((procPower apss values call.proc).setWidth 16) else p.pwrProc) ∧
      q.pwrMem = p.pwrMem.update call.tod ((memPower apss values (if call.fspSupported then memCurrent apss values call.proc
        else memCurrent apss values call.proc + valueAt apss values .memCache)).setWidth 16) ∧
      (∀ h : call.proc.val < 2, q.pwrGpu =
        p.pwrGpu.update call.tod ((roundPower ((gpuPower apss values ⟨call.proc.val, h⟩).setWidth 64)).setWidth 16)) ∧
      q.pwrSys = p.pwrSys.update call.tod ((roundPower ((sysPower apss values).setWidth 64)).setWidth 16) := by
  obtain ⟨hreceived, htype, hrecovery, hepow⟩ := h
  have hguard : (p.slvInboxReceived && (apss.pwrReadingType == Cmdh.pwrReadingTypeApss && call.recoveryInProgress == 0)) = true := by
    rw [hreceived, htype, hrecovery]
    rfl
  intro values q
  have hq : q = (p.amecUpdateApssSensors apss call).1 := rfl
  unfold PowerSensors.amecUpdateApssSensors at hq
  rw [if_pos hguard, hepow, if_neg Bool.false_ne_true] at hq
  rw [hq]
  cases hmaster : call.master with
  | true => exact ⟨rfl, fun _ => rfl, rfl, rfl, fun h => dif_pos h, rfl⟩
  | false => exact ⟨rfl, fun h => absurd h Bool.false_ne_true, rfl, rfl, fun h => dif_pos h, rfl⟩

/-- A call that updates the sensors measures if and only if the condition holds. -/
theorem measured_iff (ha : Assigned cmd apss) (h : Updates apss p call) :
    Measured cmd apss call p (p.amecUpdateApssSensors apss call).1 ↔ ApssOk cmd call := by
  obtain ⟨hvalues, hchannels, hproc, hmem, hgpu, hsys⟩ := update_of_updates h
  constructor
  · rintro ⟨hexact, -, -, -, hgpus, -, hsums⟩
    rw [hvalues] at hexact hsums
    have hv := exactValues_of_ok hexact
    refine ⟨fun chan => (values_iff ha call.adc chan).1 (hexact chan), fun hlt => ?_, ?_⟩
    · obtain ⟨-, hsum⟩ := hgpus hlt
      rw [hvalues] at hsum
      exact (sums_iff fun hfits => by rw [ha.gpuPower_total hv, Nat.mod_eq_of_lt hfits]).1 hsum
    · exact (sums_iff (ha.sysPower_of_lt hv)).1 hsums
  · rintro ⟨hok, hgpus, hsystem⟩
    have hexact := fun chan => (values_iff ha call.adc chan).2 (hok chan)
    have hv := exactValues_of_ok hexact
    have hsums := (sums_iff (ha.sysPower_of_lt hv)).2 hsystem
    refine ⟨?_, fun hmaster chan hsensed => ?_, fun hsome => ?_, ?_, fun hlt => ?_, ?_⟩
    · rw [hvalues]
      exact hexact
    · rw [hchannels hmaster]
      have hload := ha.isLoad_eq chan
      rw [hsensed, isLoad, Bool.and_eq_true, Bool.and_eq_true, Bool.and_eq_true, Bool.not_eq_true', Bool.not_eq_true',
        Bool.not_eq_true', Bool.not_eq_true'] at hload
      obtain ⟨⟨⟨h12v, hgnd⟩, hstby⟩, hvolt2⟩ := hload
      have hpower : (((amecValueFromApssAdc apss call.adc chan).setWidth 64 *
          channelVoltage apss (amecValueFromApssAdc apss call.adc) chan : BitVec 64)).toNat = powerOf cmd call.adc chan := by
        rw [BitVec.toNat_mul, BitVec.toNat_setWidth_of_le (by decide), ha.channelVoltage_toNat hv, hexact, Nat.mul_comm]
        exact Nat.mod_eq_of_lt (Nat.lt_of_le_of_lt (ha.powerOf_le hv chan) (by decide))
      unfold PowerSensors.updateChannels
      dsimp only
      rw [hstby, h12v, hvolt2, hgnd, if_neg Bool.false_ne_true]
      exact gets_roundPower hpower (Nat.lt_of_le_of_lt (ha.powerOf_le hv chan) (by decide))
    · rw [hproc, if_pos ((ha.hasProcChannel_iff call.proc).2 hsome)]
      exact gets_roundPower (ha.procPower_total hv call.proc) (ha.totalPower_lt hv _)
    · rw [hmem]
      exact gets_roundPower (ha.memPower_total hv call.proc call.fspSupported) (ha.totalPower_lt hv _)
    · have hsum : Sums (gpuPower apss (amecValueFromApssAdc apss call.adc) ⟨call.proc.val, hlt⟩)
          (totalPower cmd call.adc (ofGpus call.proc)) :=
        (sums_iff fun hfits => by rw [ha.gpuPower_total hv, Nat.mod_eq_of_lt hfits]).2 (hgpus hlt)
      rw [hgpu hlt, hvalues]
      exact ⟨gets_of_sums hsum, hsum⟩
    · rw [hsys, hvalues]
      exact ⟨gets_of_sums hsums, hsums⟩

/-- With the channels of an accepted packet, every call keeps the law if and only if the condition holds when it updates the sensors. -/
theorem apssPowerLaw_iff {chipId : BitVec 8} {s : Apss} (h : dataStoreApssConfig chipId s cmd = (apss, none)) :
    ApssPowerLaw cmd apss p call ↔ (Updates apss p call → ApssOk cmd call) := by
  constructor
  · rintro ⟨hmeasured, -⟩ hupdates
    exact (measured_iff (assigned_of_accepted h hupdates.2.1) hupdates).1 (hmeasured hupdates)
  · intro hok
    refine ⟨fun hupdates => (measured_iff (assigned_of_accepted h hupdates.2.1) hupdates).2 (hok hupdates), fun hidle => ?_⟩
    unfold PowerSensors.amecUpdateApssSensors
    by_cases hguard : (p.slvInboxReceived && (apss.pwrReadingType == Cmdh.pwrReadingTypeApss && call.recoveryInProgress == 0)) = true
    · rw [if_pos hguard]
      rw [Bool.and_eq_true, Bool.and_eq_true, beq_iff_eq, beq_iff_eq] at hguard
      obtain ⟨hreceived, htype, hrecovery⟩ := hguard
      have hepow : call.gpioEpow = true := by
        cases hcase : call.gpioEpow with
        | true => rfl
        | false => exact absurd ⟨hreceived, htype, hrecovery, hcase⟩ hidle
      rw [if_pos hepow]
    · rw [if_neg hguard]

/-- A packet with the 12V sense and the total system current, at 6 V/V and 200 A/V, and the maps after it. -/
def totalConfig : ApssConfig where
  dataLength := BitVec.ofNat 16 Cmdh.apssV20DataSize
  version := Cmdh.dataApssVersion20
  type := Cmdh.pwrReadingTypeApss
  adc chan := match chan with
    | 0 => ⟨0x14, 0, 0, 6000, 0⟩
    | 1 => ⟨0x16, 0, 0, 200000, 0⟩
    | _ => ⟨0, 0, 0, 1000, 0⟩
  gpio _ := ⟨0, fun _ => 0⟩

def totalMaps : Apss := (dataStoreApssConfig 0 .boot totalConfig).1

theorem totalConfig_accepted : dataStoreApssConfig 0 .boot totalConfig = (totalMaps, none) :=
  Prod.ext rfl (by decide)

/-- New sensors, and a call of the master on the first processor with these readings of the two channels. -/
def newSensors : PowerSensors :=
  let sensor := Sensor.sensorInit 0 none
  ⟨fun _ => 0, fun _ => sensor, sensor, sensor, sensor, sensor, sensor, fun _ => 0, fun _ => 0, true⟩

def totalCall (volts current : BitVec 16) : ApssCall :=
  ⟨fun chan => if chan = 0 then volts else if chan = 1 then current else 0, 0, false, true, false, 0, 0⟩

theorem totalCall_updates (volts current : BitVec 16) : Updates totalMaps newSensors (totalCall volts current) :=
  ⟨rfl, by decide, rfl, rfl⟩

/-- 12 V and 205 A are 2.5 kW. -/
theorem apssPowerLaw_iff_kilowatts : ApssPowerLaw totalConfig totalMaps newSensors (totalCall 0xFA0 0x800) := by
  refine (apssPowerLaw_iff totalConfig_accepted).2 fun _ => ⟨fun chan => ?_, fun _ => ?_, ?_⟩
  · revert chan
    decide
  · decide
  · decide

/-- 12.3 V and 409 A are 5028 W, of which the sensor gets 733. -/
theorem system_power_wraps : dataStoreApssConfig 0 .boot totalConfig = (totalMaps, none) ∧
    watts (systemPower totalConfig (totalCall 0xFFF 0xFFF).adc) = 5028 ∧
    (newSensors.amecUpdateApssSensors totalMaps (totalCall 0xFFF 0xFFF)).1.pwrSys.sample = 733 ∧
    ¬ApssPowerLaw totalConfig totalMaps newSensors (totalCall 0xFFF 0xFFF) := by
  have hwatts : watts (systemPower totalConfig (totalCall 0xFFF 0xFFF).adc) = 5028 := by decide
  have hsum : ¬(systemPower totalConfig (totalCall 0xFFF 0xFFF).adc < 2 ^ 32) := by decide
  refine ⟨totalConfig_accepted, hwatts, by decide, fun hlaw => ?_⟩
  have hupdates := totalCall_updates 0xFFF 0xFFF
  have hok := (measured_iff (assigned_of_accepted totalConfig_accepted hupdates.2.1) hupdates).1 (hlaw.measured hupdates)
  obtain hlt | hlarge := hok.system
  · exact hsum hlt
  · rw [hwatts] at hlarge
    exact absurd hlarge (by decide)

end

end Occ.Amec.Power
