/-
The ratio of effective capacitances (`wof.c`): it is what the formula says as long as its steps fit into 32 bits, grows with
the current, goes down with the voltage and the frequency, and is limited where it is used.
-/
import Occ.Wof.Leakage
import Occ.Wof.OverCurrent

namespace Occ.Wof

/-! ## Model -/

/-- What an effective capacitance is calculated from: an AC current in 10 mA, a voltage in 100 uV and a frequency in MHz. -/
structure CeffInput where
  iac : BitVec 32
  volt : BitVec 32
  freq : BitVec 32
deriving DecidableEq, Repr

/-- `v_exp_1_dot_3`: V^1.3, nearly -/
def vExp13 (volt : BitVec 32) : BitVec 32 := (21374 * volt - 50615296) >>> 10

/-- `calculate_effective_capacitance`; 0 is to disable WOF. -/
def calculateEffectiveCapacitance (t : CeffInput) : BitVec 32 :=
  if t.freq = 0 ∨ t.volt = 0 then 0
  else if vExp13 t.volt = 0 then 0
  else ((t.iac <<< 14) / vExp13 t.volt) <<< 14 / t.freq

/-- `multiply_ratio` -/
def multiplyRatio (operatingPoint ratio : BitVec 32) : BitVec 32 := ratio * 10000 / 0xFFFF * operatingPoint / 10000

/-- An entry of `operating_points`. -/
structure OperatingPoint where
  vddMv : BitVec 32
  frequencyMhz : BitVec 32
deriving DecidableEq, Repr

/-- What the OPPB says of nominal and turbo, with the AC currents in 10 mA. -/
structure VddPoints where
  nominal : OperatingPoint
  turbo : OperatingPoint
  lacTdpVddNominal : BitVec 16
  lacTdpVddTurbo : BitVec 16
deriving DecidableEq, Repr

/-- What the PGPE and the sensors say; `tracking` is off when `INT_FLAG_DISABLE_CEFF_TRACKING` is set or the PGPE has no
readings. -/
structure VddReading where
  tracking : Bool
  vRatio : BitVec 16
  fRatio : BitVec 16
  ratioFreq : BitVec 32
  iac : BitVec 32
  volt : BitVec 32
  clipFreq : BitVec 32
deriving DecidableEq, Repr

/-- What the capacitance at TDP is calculated from. -/
def tdpInput (p : VddPoints) (r : VddReading) : CeffInput where
  iac :=
    if ¬r.tracking then multiplyRatio (p.lacTdpVddTurbo.setWidth 32) (r.vRatio.setWidth 32)
    else if r.ratioFreq ≤ p.nominal.frequencyMhz then p.lacTdpVddNominal.setWidth 32
    else if p.turbo.frequencyMhz ≤ r.ratioFreq then p.lacTdpVddTurbo.setWidth 32
    else interpolateLinear r.ratioFreq p.nominal.frequencyMhz p.turbo.frequencyMhz (p.lacTdpVddNominal.setWidth 32)
      (p.lacTdpVddTurbo.setWidth 32)
  -- the voltage of turbo in all cases
  volt := p.turbo.vddMv * 10
  freq :=
    if ¬r.tracking then p.turbo.frequencyMhz * r.fRatio.setWidth 32
    else if r.ratioFreq ≤ p.nominal.frequencyMhz then p.nominal.frequencyMhz
    else if p.turbo.frequencyMhz ≤ r.ratioFreq then p.turbo.frequencyMhz
    else r.ratioFreq

/-- The ratio of the two capacitances, with four decimals; none for a capacitance of 0 at TDP. -/
def rawCeffRatio (now tdp : CeffInput) : Option (BitVec 32) :=
  if calculateEffectiveCapacitance tdp = 0 then none
  else some (calculateEffectiveCapacitance now * 10000 / calculateEffectiveCapacitance tdp)

/-- What `calculate_ceff_ratio_vdd` does with the ratio. -/
inductive CeffRatioVdd
  | zero
  | divideByZero
  | limited (rawRatio : BitVec 32)
deriving DecidableEq, Repr

/-- `calculate_ceff_ratio_vdd`: a ratio goes on to `prevent_over_current`. -/
def calculateCeffRatioVdd (p : VddPoints) (r : VddReading) : CeffRatioVdd :=
  if r.vRatio = 0 then .zero
  else match rawCeffRatio ⟨r.iac, r.volt, r.clipFreq⟩ (tdpInput p r) with
    | none => .divideByZero
    | some rawRatio => .limited rawRatio

/-! ## The law -/

/-- V^1.3 of a voltage in 100 uV -/
def vExp (v : Nat) : Nat := (21374 * v - 50615296) / 1024

/-- The capacitance without limits to numbers. -/
def ceff (iac volt freq : Nat) : Nat := iac * 2 ^ 14 / vExp volt * 2 ^ 14 / freq

/-- The steps of the capacitance of `t` without wraps, and a divisor that is not 0. -/
structure CeffExact (t : CeffInput) : Prop where
  product : (21374 * t.volt).toNat = 21374 * t.volt.toNat
  difference : ((21374 * t.volt - 50615296).toNat : Int) = (21374 * t.volt).toNat - 50615296
  current : (t.iac <<< 14).toNat = t.iac.toNat * 2 ^ 14
  divisor : vExp13 t.volt ≠ 0
  quotient : (((t.iac <<< 14) / vExp13 t.volt) <<< 14).toNat = ((t.iac <<< 14) / vExp13 t.volt).toNat * 2 ^ 14

/-- The steps of the ratio without wraps. -/
structure RatioExact (now tdp : CeffInput) : Prop where
  first : CeffExact now
  second : CeffExact tdp
  product : calculateEffectiveCapacitance tdp ≠ 0 →
    (calculateEffectiveCapacitance now * 10000).toNat = (calculateEffectiveCapacitance now).toNat * 10000

/-- There is a voltage and a frequency, which the code looks at first. -/
def CeffInput.Admitted (t : CeffInput) : Prop := t.volt ≠ 0 ∧ t.freq ≠ 0

instance (t : CeffInput) : Decidable t.Admitted := inferInstanceAs (Decidable (_ ∧ _))

/-- More current, at no more voltage and frequency. -/
structure CeffInput.Heavier (t t' : CeffInput) : Prop where
  iac : t.iac ≤ t'.iac
  volt : t'.volt ≤ t.volt
  freq : t'.freq ≤ t.freq

/-- The ratio of `now` to `tdp`; `prevent_over_current` limits it, and so does the step that is made of it. -/
structure CeffLaw (now tdp : CeffInput) : Prop where
  exact : RatioExact now tdp
  value : ∀ ratio ∈ rawCeffRatio now tdp, ratio.toNat = ceff now.iac.toNat now.volt.toNat now.freq.toNat * 10000 /
    ceff tdp.iac.toNat tdp.volt.toNat tdp.freq.toNat
  grows : ∀ now' : CeffInput, now'.Admitted → RatioExact now' tdp → ∀ ratio ∈ rawCeffRatio now tdp,
    ∀ ratio' ∈ rawCeffRatio now' tdp,
      (now.Heavier now' → ratio ≤ ratio') ∧ (now'.Heavier now → ratio' ≤ ratio)
  limited : ∀ c w i, OcsInv c w → c.Fits → i.Fits c → i.ceffRatio ∈ rawCeffRatio now tdp →
    (w.preventOverCurrent c i).1 ≤ if i.p10Ocs then c.maxCeffRatio else maxCeffRatio
  step : ∀ ratio ∈ rawCeffRatio now tdp, ∀ stepSize minCeff maxStep, maxStep ≠ 0 →
    calculateStepFromStart (ratio.setWidth 16) stepSize minCeff maxStep < maxStep

/-! ## The condition -/

/-- The voltage is 236.9 mV at least, and below 20.1 V, and the current is below 16 times V^1.3 and 2621.44 A. -/
structure CeffInput.Fits (t : CeffInput) : Prop where
  volt_low : 2369 ≤ t.volt.toNat
  volt_high : t.volt.toNat ≤ 200943
  iac : t.iac.toNat < 2 ^ 18
  iac_volt : t.iac.toNat < 16 * vExp t.volt.toNat

structure CeffOk (now tdp : CeffInput) : Prop where
  first : now.Fits
  second : tdp.Fits
  ratio : ceff tdp.iac.toNat tdp.volt.toNat tdp.freq.toNat ≠ 0 →
    ceff now.iac.toNat now.volt.toNat now.freq.toNat * 10000 < 2 ^ 32

/-! ## One capacitance -/

section
variable {t : CeffInput}

theorem shiftLeft_exact_iff (x : BitVec 32) : (x <<< 14).toNat = x.toNat * 2 ^ 14 ↔ x.toNat < 2 ^ 18 := by
  have hx := x.isLt
  rw [BitVec.toNat_shiftLeft, Nat.shiftLeft_eq]
  omega

theorem toNat_vExp13 {volt : BitVec 32} (hlow : 2369 ≤ volt.toNat) (hhigh : volt.toNat ≤ 200943) :
    (21374 * volt).toNat = 21374 * volt.toNat ∧ (21374 * volt - 50615296).toNat = 21374 * volt.toNat - 50615296 ∧
      (vExp13 volt).toNat = vExp volt.toNat ∧ 0 < vExp volt.toNat := by
  have hfactor : (21374 : BitVec 32).toNat = 21374 := rfl
  have hoffset : (50615296 : BitVec 32).toNat = 50615296 := rfl
  have hmul : (21374 * volt).toNat = 21374 * volt.toNat := by
    rw [BitVec.toNat_mul, hfactor]
    exact Nat.mod_eq_of_lt (by omega)
  have hsub : (21374 * volt - 50615296).toNat = 21374 * volt.toNat - 50615296 := by
    rw [BitVec.toNat_sub_of_le (by rw [BitVec.le_def]; omega), hmul, hoffset]
  refine ⟨hmul, hsub, ?_, ?_⟩
  · unfold vExp13 vExp
    rw [BitVec.toNat_ushiftRight, hsub, Nat.shiftRight_eq_div_pow]
  · unfold vExp
    omega

/-- The steps of a capacitance do not wrap if and only if the voltage and the current are in range. -/
theorem ceffExact_iff : CeffExact t ↔ t.Fits := by
  have hfactor : (21374 : BitVec 32).toNat = 21374 := rfl
  have hoffset : (50615296 : BitVec 32).toNat = 50615296 := rfl
  constructor
  · rintro ⟨hproduct, hdifference, hcurrent, -, hquotient⟩
    have hlt := (21374 * t.volt).isLt
    have hlow : 2369 ≤ t.volt.toNat := by omega
    have hhigh : t.volt.toNat ≤ 200943 := by omega
    obtain ⟨-, -, hexp, hpos⟩ := toNat_vExp13 hlow hhigh
    rw [shiftLeft_exact_iff] at hcurrent hquotient
    refine ⟨hlow, hhigh, hcurrent, ?_⟩
    rw [BitVec.toNat_udiv, hexp, (shiftLeft_exact_iff t.iac).2 hcurrent, Nat.div_lt_iff_lt_mul hpos] at hquotient
    omega
  · rintro ⟨hlow, hhigh, hiac, hvolt⟩
    obtain ⟨hmul, hsub, hexp, hpos⟩ := toNat_vExp13 hlow hhigh
    refine ⟨hmul, by omega, (shiftLeft_exact_iff _).2 hiac, ?_, (shiftLeft_exact_iff _).2 ?_⟩
    · intro hzero
      rw [hzero] at hexp
      have hnat : (0 : BitVec 32).toNat = 0 := rfl
      omega
    · rw [BitVec.toNat_udiv, hexp, (shiftLeft_exact_iff t.iac).2 hiac, Nat.div_lt_iff_lt_mul hpos]
      omega

theorem toNat_calculateEffectiveCapacitance (h : t.Fits) (hadmitted : t.Admitted) :
    (calculateEffectiveCapacitance t).toNat = ceff t.iac.toNat t.volt.toNat t.freq.toNat := by
  obtain ⟨hvolt, hfreq⟩ := hadmitted
  obtain ⟨-, -, hcurrent, hdivisor, hquotient⟩ := ceffExact_iff.2 h
  obtain ⟨-, -, hexp, -⟩ := toNat_vExp13 h.volt_low h.volt_high
  unfold calculateEffectiveCapacitance
  rw [if_neg (not_or.2 ⟨hfreq, hvolt⟩), if_neg hdivisor, BitVec.toNat_udiv, hquotient, BitVec.toNat_udiv, hcurrent, hexp]
  rfl

theorem vExp_mono {v v' : Nat} (h : v ≤ v') : vExp v ≤ vExp v' := by
  unfold vExp
  omega

theorem ceff_mono {i i' v v' f f' : Nat} (hi : i ≤ i') (hv : v' ≤ v) (hf : f' ≤ f) (hpos : 0 < vExp v') (hpos' : 0 < f') :
    ceff i v f ≤ ceff i' v' f' := by
  unfold ceff
  apply Nat.div_le_div _ hf (by omega)
  apply Nat.mul_le_mul_right
  exact Nat.div_le_div (Nat.mul_le_mul_right _ hi) (vExp_mono hv) (by omega)

end

/-! ## The ratio -/

section
variable {now now' tdp : CeffInput}

theorem ratioExact_iff (hnow : now.Admitted) (htdp : tdp.Admitted) : RatioExact now tdp ↔ CeffOk now tdp := by
  have hten : (10000 : BitVec 32).toNat = 10000 := rfl
  have hprod : now.Fits → tdp.Fits → ((calculateEffectiveCapacitance tdp ≠ 0 →
      (calculateEffectiveCapacitance now * 10000).toNat = (calculateEffectiveCapacitance now).toNat * 10000) ↔
      (ceff tdp.iac.toNat tdp.volt.toNat tdp.freq.toNat ≠ 0 →
        ceff now.iac.toNat now.volt.toNat now.freq.toNat * 10000 < 2 ^ 32)) := by
    intro hfits hfits'
    rw [← toNat_calculateEffectiveCapacitance hfits hnow, ← toNat_calculateEffectiveCapacitance hfits' htdp]
    refine imp_congr (not_congr ?_) ?_
    · constructor
      · intro hzero
        rw [hzero]
        rfl
      · exact fun hzero => BitVec.eq_of_toNat_eq hzero
    · rw [BitVec.toNat_mul, hten]
      constructor
      · intro heq
        rw [← heq]
        exact Nat.mod_lt _ (by decide)
      · exact Nat.mod_eq_of_lt
  constructor
  · rintro ⟨h, h', hproduct⟩
    exact ⟨ceffExact_iff.1 h, ceffExact_iff.1 h', (hprod (ceffExact_iff.1 h) (ceffExact_iff.1 h')).1 hproduct⟩
  · rintro ⟨h, h', hratio⟩
    exact ⟨ceffExact_iff.2 h, ceffExact_iff.2 h', (hprod h h').2 hratio⟩

theorem rawCeffRatio_mem {ratio : BitVec 32} (h : ratio ∈ rawCeffRatio now tdp) : calculateEffectiveCapacitance tdp ≠ 0 ∧
    ratio = calculateEffectiveCapacitance now * 10000 / calculateEffectiveCapacitance tdp := by
  unfold rawCeffRatio at h
  split_ifs at h with hzero
  · exact absurd h nofun
  · exact ⟨hzero, (Option.some.inj h).symm⟩

theorem toNat_rawCeffRatio (hnow : now.Admitted) (htdp : tdp.Admitted) (h : RatioExact now tdp) {ratio : BitVec 32}
    (hratio : ratio ∈ rawCeffRatio now tdp) : ratio.toNat =
      ceff now.iac.toNat now.volt.toNat now.freq.toNat * 10000 / ceff tdp.iac.toNat tdp.volt.toNat tdp.freq.toNat := by
  obtain ⟨hne, rfl⟩ := rawCeffRatio_mem hratio
  rw [BitVec.toNat_udiv, h.product hne, toNat_calculateEffectiveCapacitance (ceffExact_iff.1 h.first) hnow,
    toNat_calculateEffectiveCapacitance (ceffExact_iff.1 h.second) htdp]

theorem rawCeffRatio_mono (hnow : now.Admitted) (hnow' : now'.Admitted) (htdp : tdp.Admitted) (h : RatioExact now tdp)
    (h' : RatioExact now' tdp) (hheavier : now.Heavier now') {ratio ratio' : BitVec 32}
    (hratio : ratio ∈ rawCeffRatio now tdp) (hratio' : ratio' ∈ rawCeffRatio now' tdp) : ratio ≤ ratio' := by
  have hfits' := ceffExact_iff.1 h'.first
  have hpos := (toNat_vExp13 hfits'.volt_low hfits'.volt_high).2.2.2
  have hfreq : 0 < now'.freq.toNat := by
    have hzero : now'.freq.toNat ≠ 0 := fun hzero => hnow'.2 (BitVec.eq_of_toNat_eq hzero)
    omega
  rw [BitVec.le_def, toNat_rawCeffRatio hnow htdp h hratio, toNat_rawCeffRatio hnow' htdp h' hratio']
  apply Nat.div_le_div_right
  apply Nat.mul_le_mul_right
  exact ceff_mono hheavier.iac hheavier.volt hheavier.freq hpos hfreq

theorem calculateStepFromStart_lt (ratio stepSize minCeff : BitVec 16) {maxStep : BitVec 16} (h : maxStep ≠ 0) :
    calculateStepFromStart ratio stepSize minCeff maxStep < maxStep := by
  have hpos : maxStep.toNat ≠ 0 := fun hzero => h (BitVec.eq_of_toNat_eq hzero)
  rw [BitVec.lt_def, calculateStepFromStart_toNat h]
  exact stepsUp_lt _ _ _ (Nat.pos_of_ne_zero hpos)

/-- The ratio is calculated as it should be if and only if the voltages and currents are in range. -/
theorem ceffLaw_iff (now tdp : CeffInput) (hnow : now.Admitted) (htdp : tdp.Admitted) :
    CeffLaw now tdp ↔ CeffOk now tdp := by
  constructor
  · intro hlaw
    exact (ratioExact_iff hnow htdp).1 hlaw.exact
  · intro hok
    have hexact := (ratioExact_iff hnow htdp).2 hok
    refine ⟨hexact, ?_, ?_, ?_, ?_⟩
    · intro ratio hratio
      exact toNat_rawCeffRatio hnow htdp hexact hratio
    · intro now' hnow' hexact' ratio hratio ratio' hratio'
      constructor
      · intro hheavier
        exact rawCeffRatio_mono hnow hnow' htdp hexact hexact' hheavier hratio hratio'
      · intro hheavier
        exact rawCeffRatio_mono hnow' hnow htdp hexact' hexact hheavier hratio' hratio
    · intro c w i hinv hfits hi _
      exact (callLaw hfits hinv hi).bound
    · intro ratio _ stepSize minCeff maxStep hmax
      exact calculateStepFromStart_lt _ stepSize minCeff hmax

/-- 150 A at 0.9 V and 3 GHz, with 200 A at 1 V and 3.3 GHz at TDP. -/
theorem ceffLaw_usual : CeffLaw ⟨15000, 9000, 3000⟩ ⟨20000, 10000, 3300⟩ := by
  refine (ceffLaw_iff ⟨15000, 9000, 3000⟩ ⟨20000, 10000, 3300⟩ (by decide) (by decide)).2 ⟨?_, ?_, fun _ => ?_⟩
  · exact ⟨by decide, by decide, by decide, by decide⟩
  · exact ⟨by decide, by decide, by decide, by decide⟩
  · decide

/-- At 200 mV the difference of the voltage wraps. -/
theorem low_voltage_wraps : ¬CeffLaw ⟨1000, 2000, 2000⟩ ⟨20000, 10000, 3300⟩ := by
  intro hlaw
  exact absurd hlaw.exact.first.difference (by decide)

/-- The ratio that goes on to `prevent_over_current`. -/
theorem calculateCeffRatioVdd_limited {p : VddPoints} {r : VddReading} {ratio : BitVec 32}
    (h : calculateCeffRatioVdd p r = .limited ratio) (hnow : CeffInput.Admitted ⟨r.iac, r.volt, r.clipFreq⟩)
    (htdp : (tdpInput p r).Admitted) (hok : CeffOk ⟨r.iac, r.volt, r.clipFreq⟩ (tdpInput p r)) :
    ratio.toNat = ceff r.iac.toNat r.volt.toNat r.clipFreq.toNat * 10000 /
      ceff (tdpInput p r).iac.toNat (tdpInput p r).volt.toNat (tdpInput p r).freq.toNat := by
  have hmem : ratio ∈ rawCeffRatio ⟨r.iac, r.volt, r.clipFreq⟩ (tdpInput p r) := by
    unfold calculateCeffRatioVdd at h
    split_ifs at h
    split at h
    · cases h
    · cases h
      assumption
  exact toNat_rawCeffRatio hnow htdp ((ratioExact_iff hnow htdp).2 hok) hmem

end

end Occ.Wof
