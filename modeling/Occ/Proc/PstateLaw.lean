/-
Frequency to pstate and back: for which parameter blocks every frequency of the range gets the pstate next above it, every
pstate comes back from its frequency, and higher frequencies never get higher pstates.
-/
import Occ.Proc.Pstate

namespace Occ.Proc

/-! ## The law -/

namespace Oppb

variable (oppb : Oppb)

def minKhz : Nat := oppb.frequencyMinKhz.toNat
def maxKhz : Nat := oppb.frequencyMaxKhz.toNat
def stepKhz : Nat := oppb.frequencyStepKhz.toNat
def pMin : Nat := oppb.pstateMin.toNat

/-- The minimum pstate is the number of steps between the limits. -/
def Derived : Prop := oppb.pMin = (oppb.maxKhz - oppb.minKhz) / oppb.stepKhz

instance : Decidable oppb.Derived := inferInstanceAs (Decidable (_ = _))

/-- A frequency in MHz lies between the limits. -/
def InRange (freqMhz : BitVec 32) : Prop := oppb.minKhz ≤ freqMhz.toNat * 1000 ∧ freqMhz.toNat * 1000 ≤ oppb.maxKhz

instance (freqMhz : BitVec 32) : Decidable (oppb.InRange freqMhz) := inferInstanceAs (Decidable (_ ∧ _))

end Oppb

/-- The conversions as they should be: `bracket` puts the frequency of the pstate that was found less than a step above
the frequency asked for, and never below it. -/
structure PstateLaw (oppb : Oppb) (minFrequency : BitVec 16) : Prop where
  legal : ∀ freq, oppb.InRange freq → (procFreq2pstate oppb minFrequency freq).toNat ≤ oppb.pMin
  bracket : ∀ freq, oppb.InRange freq →
    freq.toNat * 1000 ≤ (procPstate2freq oppb (procFreq2pstate oppb minFrequency freq)).toNat ∧
      (procPstate2freq oppb (procFreq2pstate oppb minFrequency freq)).toNat < freq.toNat * 1000 + oppb.stepKhz
  roundTrip : ∀ pstate : BitVec 8, pstate.toNat ≤ oppb.pMin →
    procFreq2pstate oppb minFrequency (procPstate2freq oppb pstate / 1000) = pstate
  antitone : ∀ low high, oppb.InRange low → oppb.InRange high → low ≤ high →
    procFreq2pstate oppb minFrequency high ≤ procFreq2pstate oppb minFrequency low

/-! ## The condition -/

namespace Oppb

variable (oppb : Oppb)

/-- The first whole number of MHz above the minimum, in kHz. -/
def firstKhz : Nat := (oppb.minKhz / 1000 + 1) * 1000

/-- The signed words do not change the number of steps in an excess: where the excess or the step does not fit in 31 bits,
few cases are left. -/
def SignedOk (excess : Nat) : Prop :=
  if oppb.stepKhz < 2 ^ 31 then 2 ^ 31 ≤ excess → oppb.pMin * oppb.stepKhz ≤ excess ∧ excess + oppb.stepKhz ≤ 2 ^ 32
  else (excess < 2 ^ 31 → excess + oppb.stepKhz < 2 ^ 32) ∧ (2 ^ 31 ≤ excess → excess = oppb.stepKhz)

end Oppb

/-- The condition on a parameter block and the minimum frequency of the modes: there are at most 128 steps; the frequency
of each pstate but the last is less than a step above a whole number of MHz; the minimum frequency of the modes has the
pstate of the lowest frequencies; and the signed words hold the excess of each frequency. -/
structure PstateOk (oppb : Oppb) (minFrequency : BitVec 16) : Prop where
  narrow : oppb.pMin ≤ 128
  whole : ∀ pstate < oppb.pMin, (oppb.maxKhz - pstate * oppb.stepKhz) % 1000 < oppb.stepKhz
  minimum : oppb.firstKhz < minFrequency.toNat * 1000 → oppb.firstKhz ≤ oppb.maxKhz →
    (oppb.maxKhz - oppb.firstKhz) / oppb.stepKhz =
      (oppb.maxKhz - min oppb.maxKhz (minFrequency.toNat * 1000)) / oppb.stepKhz
  signed : ∀ freq : BitVec 32, oppb.minKhz < freq.toNat * 1000 → minFrequency.toNat * 1000 ≤ freq.toNat * 1000 →
    freq.toNat * 1000 ≤ oppb.maxKhz → oppb.SignedOk (oppb.maxKhz - freq.toNat * 1000)

/-! ## The steps below the maximum -/

section Steps

variable {oppb : Oppb} {excess : BitVec 32}

/-- The low byte of the quotient of two words that are taken as signed, in natural numbers. -/
def sdivByte (x y : Nat) : Nat :=
  if x < 2 ^ 31 then if y < 2 ^ 31 then x / y % 256 else (256 - x / (2 ^ 32 - y) % 256) % 256
  else if y < 2 ^ 31 then (256 - (2 ^ 32 - x) / y % 256) % 256
  else (2 ^ 32 - x) / (2 ^ 32 - y) % 256

theorem sdivByte_of_lt_of_ge {x y : Nat} (hx : x < 2 ^ 31) (hy : 2 ^ 31 ≤ y) :
    sdivByte x y = (256 - x / (2 ^ 32 - y) % 256) % 256 := by
  rw [sdivByte, if_pos hx, if_neg (by omega)]

theorem sdivByte_of_ge_of_ge {x y : Nat} (hx : 2 ^ 31 ≤ x) (hy : 2 ^ 31 ≤ y) :
    sdivByte x y = (2 ^ 32 - x) / (2 ^ 32 - y) % 256 := by
  rw [sdivByte, if_neg (by omega), if_neg (by omega)]

theorem msb_iff (x : BitVec 32) : x.msb = true ↔ 2 ^ 31 ≤ x.toNat := by
  rw [BitVec.msb_eq_decide, decide_eq_true_iff]

theorem toNat_sdiv_byte (x y : BitVec 32) : ((x.sdiv y).setWidth 8).toNat = sdivByte x.toNat y.toNat := by
  unfold sdivByte
  have hneg : ∀ z : BitVec 32, 2 ^ 31 ≤ z.toNat → (-z).toNat = 2 ^ 32 - z.toNat := by
    intro z hz
    have := z.isLt
    rw [BitVec.toNat_neg]
    omega
  have hlow : ∀ q : BitVec 32, (-q).toNat % 256 = (256 - q.toNat % 256) % 256 := by
    intro q
    have := q.isLt
    rw [BitVec.toNat_neg]
    omega
  rw [BitVec.toNat_setWidth, BitVec.toNat_sdiv]
  rcases hx : x.msb with _ | _ <;> rcases hy : y.msb with _ | _
  · have hx' : ¬2 ^ 31 ≤ x.toNat := fun h => by simp [(msb_iff x).2 h] at hx
    have hy' : ¬2 ^ 31 ≤ y.toNat := fun h => by simp [(msb_iff y).2 h] at hy
    rw [if_pos (by omega), if_pos (by omega)]
    rfl
  · have hx' : ¬2 ^ 31 ≤ x.toNat := fun h => by simp [(msb_iff x).2 h] at hx
    have hy' := (msb_iff y).1 hy
    rw [if_pos (by omega), if_neg (by omega), ← hneg y hy']
    exact hlow _
  · have hx' := (msb_iff x).1 hx
    have hy' : ¬2 ^ 31 ≤ y.toNat := fun h => by simp [(msb_iff y).2 h] at hy
    rw [if_neg (by omega), if_pos (by omega), ← hneg x hx']
    exact hlow _
  · have hx' := (msb_iff x).1 hx
    have hy' := (msb_iff y).1 hy
    rw [if_neg (by omega), if_neg (by omega), ← hneg x hx', ← hneg y hy']
    rfl

theorem toNat_signExtend_byte (b : BitVec 8) :
    (b.signExtend 32).toNat = if b.toNat < 128 then b.toNat else b.toNat + (2 ^ 32 - 2 ^ 8) := by
  rw [BitVec.toNat_signExtend, BitVec.toNat_setWidth, BitVec.msb_eq_decide]
  have := b.isLt
  by_cases h : b.toNat < 128
  · rw [if_pos h, if_neg (by simpa using h)]
    omega
  · rw [if_neg h, if_pos (by simpa using h)]
    omega

/-- The byte of the steps, unless it is out of the range. -/
theorem stepsBelow_eq (h : oppb.pMin ≤ 128) : (oppb.stepsBelow excess).toNat =
    if sdivByte excess.toNat oppb.stepKhz < 128 ∧ sdivByte excess.toNat oppb.stepKhz ≤ oppb.pMin then
      sdivByte excess.toNat oppb.stepKhz
    else oppb.pMin := by
  have hbyte : ((excess.sdiv oppb.frequencyStepKhz).setWidth 8).toNat = sdivByte excess.toNat oppb.stepKhz :=
    toNat_sdiv_byte _ _
  rw [← hbyte]
  unfold Oppb.stepsBelow
  generalize (excess.sdiv oppb.frequencyStepKhz).setWidth 8 = b
  have hb := b.isLt
  have hext := toNat_signExtend_byte b
  have hmin : (oppb.pstateMin.setWidth 8).toNat = oppb.pMin := by
    have hle : oppb.pstateMin.toNat ≤ 128 := h
    rw [BitVec.toNat_setWidth, Nat.mod_eq_of_lt (by omega)]
    rfl
  have hgt : b.signExtend 32 > oppb.pstateMin ↔ oppb.pMin < (b.signExtend 32).toNat := Iff.rfl
  by_cases hfit : b.toNat < 128 ∧ b.toNat ≤ oppb.pMin
  · rw [if_pos hfit, if_neg]
    rw [hgt, hext, if_pos hfit.1]
    omega
  · rw [if_neg hfit, if_pos, hmin]
    rw [hgt, hext]
    split <;> omega

/-- With at most 128 steps in the range, the words count the steps of an excess that they hold. -/
theorem stepsBelow_exact (hstep : 0 < oppb.stepKhz) (hpmin : oppb.pMin ≤ 128)
    (hle : excess.toNat / oppb.stepKhz ≤ oppb.pMin) (hsigned : oppb.SignedOk excess.toNat) :
    (oppb.stepsBelow excess).toNat = excess.toNat / oppb.stepKhz := by
  have hexcess := excess.isLt
  rw [stepsBelow_eq hpmin]
  unfold Oppb.SignedOk at hsigned
  unfold sdivByte
  generalize excess.toNat = d at *
  have hs : oppb.stepKhz < 2 ^ 32 := oppb.frequencyStepKhz.isLt
  generalize oppb.stepKhz = s at *
  generalize oppb.pMin = p at *
  split at hsigned
  case isTrue hsmall =>
    simp only [if_pos hsmall]
    by_cases hd : d < 2 ^ 31
    · simp only [if_pos hd]
      generalize d / s = q at *
      split <;> omega
    · obtain ⟨hp, hsum⟩ := hsigned (by omega)
      simp only [if_neg hd]
      have hquot : d / s = p := le_antisymm hle ((Nat.le_div_iff_mul_le hstep).2 hp)
      have hone : 1 ≤ (2 ^ 32 - d) / s := (Nat.le_div_iff_mul_le hstep).2 (by omega)
      have hless : (2 ^ 32 - d) / s ≤ d / s := Nat.div_le_div_right (by omega)
      rw [if_neg (by omega), hquot]
  case isFalse hlarge =>
    simp only [if_neg hlarge]
    by_cases hd : d < 2 ^ 31
    · have hsum := hsigned.1 hd
      simp only [if_pos hd]
      rw [Nat.div_eq_of_lt (show d < 2 ^ 32 - s by omega), Nat.div_eq_of_lt (show d < s by omega)]
      rw [if_pos (by omega)]
    · obtain rfl := hsigned.2 (by omega)
      simp only [if_neg hd]
      rw [Nat.div_self (by omega)] at hle ⊢
      rw [Nat.div_self (by omega), if_pos (by omega)]

/-- Where the step fits in 31 bits, the words count only what the condition names. -/
theorem signedOk_of_exact_small (hsmall : oppb.stepKhz < 2 ^ 31) (hstep : 0 < oppb.stepKhz) (hpmin : oppb.pMin ≤ 128)
    (hle : excess.toNat / oppb.stepKhz ≤ oppb.pMin)
    (hexact : (oppb.stepsBelow excess).toNat = excess.toNat / oppb.stepKhz) : oppb.SignedOk excess.toNat := by
  have hexcess := excess.isLt
  rw [stepsBelow_eq hpmin] at hexact
  unfold Oppb.SignedOk
  unfold sdivByte at hexact
  simp only [if_pos hsmall] at hexact ⊢
  intro hd
  simp only [if_neg (show ¬excess.toNat < 2 ^ 31 by omega)] at hexact
  generalize excess.toNat = d at *
  generalize oppb.stepKhz = s at *
  generalize oppb.pMin = p at *
  have hone : 1 ≤ d / s := (Nat.le_div_iff_mul_le hstep).2 (by omega)
  have hless : (2 ^ 32 - d) / s ≤ d / s := Nat.div_le_div_right (by omega)
  have hpos : 1 ≤ (2 ^ 32 - d) / s := by
    by_contra hzero
    rw [Nat.lt_one_iff.1 (Nat.not_le.1 hzero), if_pos (by omega)] at hexact
    omega
  have hquot : p = d / s := by
    rw [if_neg (by omega)] at hexact
    exact hexact
  constructor
  · rw [hquot]
    exact Nat.div_mul_le_self d s
  · have := (Nat.le_div_iff_mul_le hstep).1 hpos
    omega

theorem not_both_zero {r t : Nat} (hpos : 0 < t) (hlt : t < 1000) (hr : r / t % 256 = 0) :
    (r + 1000) / t % 256 ≠ 0 := by
  rcases (show t = 1 ∨ t = 2 ∨ t = 3 ∨ 4 ≤ t by omega) with rfl | rfl | rfl | hfour
  · omega
  · omega
  · omega
  · have hadd := @Nat.add_div r 1000 t hpos
    have hlow : 1 ≤ 1000 / t := (Nat.le_div_iff_mul_le hpos).2 (by omega)
    have hhigh : 1000 / t ≤ 250 := (Nat.div_le_div_left hfour (by decide)).trans (by decide)
    generalize r / t = x at *
    generalize (r + 1000) / t = y at *
    generalize 1000 / t = z at *
    split at hadd <;> omega

/-- Where the step does not fit in 31 bits, the words count the excesses of a range only when there are few of them. -/
theorem signedOk_of_exact_large {top r : Nat} (hlarge : 2 ^ 31 ≤ oppb.stepKhz) (hpmin : oppb.pMin = 1)
    (hexcess : excess.toNat ≤ top) (htop : 2000 ≤ top) (hr : excess.toNat % 1000 = r)
    (hexact : ∀ d : BitVec 32, d.toNat ≤ top → d.toNat % 1000 = r →
      (oppb.stepsBelow d).toNat = d.toNat / oppb.stepKhz) : oppb.SignedOk excess.toNat := by
  have hs : oppb.stepKhz < 2 ^ 32 := oppb.frequencyStepKhz.isLt
  have hsize := excess.isLt
  -- an excess below 2^31 has no step, so the quotient by the complement of the step is a multiple of 256
  have hzero : ∀ d < 2 ^ 31, d ≤ top → d % 1000 = r → d / (2 ^ 32 - oppb.stepKhz) % 256 = 0 := by
    intro d hd hdtop hdr
    have hnat : (BitVec.ofNat 32 d).toNat = d := by
      rw [BitVec.toNat_ofNat, Nat.mod_eq_of_lt (by omega)]
    have h := hexact (BitVec.ofNat 32 d) (by omega) (by omega)
    rw [stepsBelow_eq (by omega), hnat, hpmin, sdivByte_of_lt_of_ge hd hlarge,
      Nat.div_eq_of_lt (show d < oppb.stepKhz by omega)] at h
    generalize d / (2 ^ 32 - oppb.stepKhz) = q at *
    split at h <;> omega
  have hbig : 1000 ≤ 2 ^ 32 - oppb.stepKhz := by
    by_contra hlt
    have hfirst := hzero r (by omega) (by omega) (by omega)
    have hsecond := hzero (r + 1000) (by omega) (by omega) (by omega)
    exact not_both_zero (by omega) (by omega) hfirst hsecond
  have hsum : ∀ d < 2 ^ 31, d ≤ top → d % 1000 = r → d + oppb.stepKhz < 2 ^ 32 := by
    intro d hd hdtop hdr
    by_contra hge
    generalize ht : 2 ^ 32 - oppb.stepKhz = t at *
    -- the least excess of the range that is not below the complement
    have h := hzero (d - (d - t) / 1000 * 1000) (by omega) (by omega) (by omega)
    have hone : (d - (d - t) / 1000 * 1000) / t = 1 := by
      rw [Nat.div_eq_iff (by omega)]
      omega
    rw [hone] at h
    omega
  unfold Oppb.SignedOk
  rw [if_neg (by omega)]
  constructor
  · intro hd
    exact hsum _ hd hexcess hr
  · intro hd
    -- the greatest excess of the range below 2^31 shows how close to 2^31 the step is
    have hnear := hsum (excess.toNat - ((excess.toNat - 2 ^ 31) / 1000 + 1) * 1000) (by omega) (by omega) (by omega)
    have h := hexact excess hexcess hr
    rw [stepsBelow_eq (by omega), hpmin, sdivByte_of_ge_of_ge hd hlarge] at h
    by_cases hle : excess.toNat ≤ oppb.stepKhz
    · have hone : (2 ^ 32 - excess.toNat) / (2 ^ 32 - oppb.stepKhz) = 1 := by
        rw [Nat.div_eq_iff (by omega)]
        omega
      rw [hone] at h
      by_contra hne
      rw [Nat.div_eq_of_lt (show excess.toNat < oppb.stepKhz by omega)] at h
      simp at h
    · have hzero' : (2 ^ 32 - excess.toNat) / (2 ^ 32 - oppb.stepKhz) = 0 := Nat.div_eq_of_lt (by omega)
      have hpos : 1 ≤ excess.toNat / oppb.stepKhz := (Nat.le_div_iff_mul_le (by omega)).2 (by omega)
      rw [hzero'] at h
      simp at h
      omega

end Steps

/-! ## The conversions in numbers -/

section Conversions

variable {oppb : Oppb} {minFrequency : BitVec 16} {freq : BitVec 32}

/-- The excess that is converted for a frequency: that of the minimum frequency of the modes when it is higher. -/
def Oppb.excess (oppb : Oppb) (minFrequency : BitVec 16) (freqKhz : Nat) : Nat :=
  oppb.maxKhz - min oppb.maxKhz (max freqKhz (minFrequency.toNat * 1000))

theorem toNat_khz (h : freq.toNat * 1000 ≤ oppb.maxKhz) : (freq * 1000).toNat = freq.toNat * 1000 := by
  have hmax : oppb.maxKhz < 2 ^ 32 := oppb.frequencyMaxKhz.isLt
  rw [BitVec.toNat_mul]
  exact Nat.mod_eq_of_lt (show freq.toNat * 1000 < 2 ^ 32 by omega)

theorem stepsBelow_zero : oppb.stepsBelow 0 = 0 := by
  unfold Oppb.stepsBelow
  have hzero : ((0 : BitVec 32).sdiv oppb.frequencyStepKhz).setWidth 8 = 0 := by
    rw [show (0 : BitVec 32) = 0#32 from rfl, BitVec.zero_sdiv]
    rfl
  rw [hzero]
  exact if_neg (Nat.not_lt_zero _)

theorem procFreq2pstate_min (h : freq.toNat * 1000 ≤ oppb.maxKhz) (hmin : freq.toNat * 1000 ≤ oppb.minKhz) :
    procFreq2pstate oppb minFrequency freq = oppb.pstateMin.setWidth 8 := by
  have hle : freq * 1000 ≤ oppb.frequencyMinKhz := by
    rw [BitVec.le_def, toNat_khz h]
    exact hmin
  exact if_pos hle

/-- Above the minimum the excess is converted. -/
theorem procFreq2pstate_excess (h : freq.toNat * 1000 ≤ oppb.maxKhz)
    (hmin : oppb.minKhz < freq.toNat * 1000) :
    procFreq2pstate oppb minFrequency freq =
      oppb.stepsBelow (BitVec.ofNat 32 (oppb.excess minFrequency (freq.toNat * 1000))) := by
  have hmax : oppb.frequencyMaxKhz.toNat < 2 ^ 32 := oppb.frequencyMaxKhz.isLt
  have hmode := minFrequency.isLt
  have hnot : ¬freq * 1000 ≤ oppb.frequencyMinKhz := by
    rw [BitVec.le_def, toNat_khz h]
    exact Nat.not_le.2 hmin
  have hlow : freq < minFrequency.setWidth 32 ↔ freq.toNat < minFrequency.toNat := by
    rw [BitVec.lt_def, BitVec.toNat_setWidth_of_le (by decide)]
  -- the frequency that is compared with the maximum
  have hkhz : (if freq < minFrequency.setWidth 32 then minFrequency.setWidth 32 * 1000 else freq * 1000).toNat =
      max (freq.toNat * 1000) (minFrequency.toNat * 1000) := by
    split
    case isTrue hlt =>
      have hmul : (minFrequency.setWidth 32 * 1000 : BitVec 32).toNat = minFrequency.toNat * 1000 := by
        rw [BitVec.toNat_mul, BitVec.toNat_setWidth_of_le (by decide)]
        exact Nat.mod_eq_of_lt (show minFrequency.toNat * 1000 < 2 ^ 32 by omega)
      have := hlow.1 hlt
      rw [hmul]
      omega
    case isFalse hlt =>
      have := mt hlow.2 hlt
      rw [toNat_khz h]
      omega
  unfold procFreq2pstate Oppb.excess
  rw [if_neg hnot]
  simp only
  generalize (if freq < minFrequency.setWidth 32 then minFrequency.setWidth 32 * 1000 else freq * 1000) = khz at *
  rw [← hkhz]
  by_cases hbelow : khz < oppb.frequencyMaxKhz
  · have hbelow' : khz.toNat < oppb.frequencyMaxKhz.toNat := hbelow
    rw [if_pos hbelow]
    congr 1
    apply BitVec.eq_of_toNat_eq
    rw [BitVec.toNat_sub_of_le hbelow'.le, BitVec.toNat_ofNat, Oppb.maxKhz]
    omega
  · have hbelow' : ¬khz.toNat < oppb.frequencyMaxKhz.toNat := hbelow
    have hzero : oppb.maxKhz - min oppb.maxKhz khz.toNat = 0 := by
      unfold Oppb.maxKhz
      omega
    rw [if_neg hbelow, hzero]
    exact stepsBelow_zero.symm

theorem toNat_procPstate2freq {pstate : BitVec 8} (hle : oppb.pMin * oppb.stepKhz ≤ oppb.maxKhz)
    (hlegal : pstate.toNat ≤ oppb.pMin) :
    (procPstate2freq oppb pstate).toNat = oppb.maxKhz - pstate.toNat * oppb.stepKhz := by
  have hmul := Nat.mul_le_mul_right oppb.stepKhz hlegal
  have hmax : oppb.maxKhz < 2 ^ 32 := oppb.frequencyMaxKhz.isLt
  have hwidth : (pstate.setWidth 32).toNat = pstate.toNat := BitVec.toNat_setWidth_of_le (by decide)
  have hnot : ¬pstate.setWidth 32 > oppb.pstateMin := by
    intro hgt
    have : oppb.pMin < (pstate.setWidth 32).toNat := hgt
    omega
  have hprod : (pstate.setWidth 32 * oppb.frequencyStepKhz).toNat = pstate.toNat * oppb.stepKhz := by
    rw [BitVec.toNat_mul, hwidth]
    exact Nat.mod_eq_of_lt (show pstate.toNat * oppb.stepKhz < 2 ^ 32 by omega)
  unfold procPstate2freq
  rw [if_neg hnot, BitVec.toNat_sub_of_le, hprod]
  · rfl
  · rw [BitVec.le_def, hprod]
    exact hmul.trans hle

theorem Oppb.Derived.bounds (hderived : oppb.Derived) (hstep : 0 < oppb.stepKhz) (hle : oppb.minKhz ≤ oppb.maxKhz) :
    oppb.minKhz + oppb.pMin * oppb.stepKhz ≤ oppb.maxKhz ∧
      oppb.maxKhz < oppb.minKhz + oppb.pMin * oppb.stepKhz + oppb.stepKhz := by
  unfold Oppb.Derived at hderived
  have hlow := Nat.div_mul_le_self (oppb.maxKhz - oppb.minKhz) oppb.stepKhz
  have hhigh := @Nat.lt_div_mul_add (oppb.maxKhz - oppb.minKhz) oppb.stepKhz hstep
  rw [← hderived] at hlow hhigh
  constructor <;> omega

end Conversions

/-! ## The law and the numbers of steps -/

section Exact

variable {oppb : Oppb} {minFrequency : BitVec 16}

/-- The number of steps between the maximum and each frequency of the range is its pstate. -/
def StepsExact (oppb : Oppb) (minFrequency : BitVec 16) : Prop :=
  ∀ freq, oppb.InRange freq →
    (procFreq2pstate oppb minFrequency freq).toNat = (oppb.maxKhz - freq.toNat * 1000) / oppb.stepKhz

theorem PstateLaw.stepsExact (hlaw : PstateLaw oppb minFrequency) (hle : oppb.pMin * oppb.stepKhz ≤ oppb.maxKhz) :
    StepsExact oppb minFrequency := by
  intro freq hfreq
  obtain ⟨hlow, hhigh⟩ := hlaw.bracket freq hfreq
  have hlegal := hlaw.legal freq hfreq
  have hmul := Nat.mul_le_mul_right oppb.stepKhz hlegal
  rw [toNat_procPstate2freq hle hlegal] at hlow hhigh
  symm
  apply Nat.div_eq_of_lt_le
  · omega
  · rw [Nat.succ_mul]
    omega

/-- Numbers of steps that are exact give the law, with the round trip. -/
theorem StepsExact.law (hexact : StepsExact oppb minFrequency) (hstep : 0 < oppb.stepKhz)
    (hle : oppb.minKhz ≤ oppb.maxKhz) (hderived : oppb.Derived)
    (hround : ∀ pstate : BitVec 8, pstate.toNat ≤ oppb.pMin →
      procFreq2pstate oppb minFrequency (procPstate2freq oppb pstate / 1000) = pstate) :
    PstateLaw oppb minFrequency := by
  obtain ⟨hlow, -⟩ := hderived.bounds hstep hle
  have hlegal : ∀ freq, oppb.InRange freq → (procFreq2pstate oppb minFrequency freq).toNat ≤ oppb.pMin := by
    intro freq hfreq
    have hmin := hfreq.1
    rw [hexact freq hfreq, hderived]
    exact Nat.div_le_div_right (by omega)
  constructor
  case legal => exact hlegal
  case bracket =>
    intro freq hfreq
    rw [toNat_procPstate2freq (by omega) (hlegal freq hfreq), hexact freq hfreq]
    have hfloor := Nat.div_mul_le_self (oppb.maxKhz - freq.toNat * 1000) oppb.stepKhz
    have hnext := @Nat.lt_div_mul_add (oppb.maxKhz - freq.toNat * 1000) oppb.stepKhz hstep
    have hmax := hfreq.2
    constructor <;> omega
  case roundTrip => exact hround
  case antitone =>
    intro low high hlowRange hhighRange hlh
    have hlh' : low.toNat ≤ high.toNat := hlh
    rw [BitVec.le_def, hexact low hlowRange, hexact high hhighRange]
    exact Nat.div_le_div_right (by omega)

end Exact

/-! ## The condition is enough -/

section Enough

variable {oppb : Oppb} {minFrequency : BitVec 16}

theorem firstKhz_le {freq : Nat} (h : oppb.minKhz < freq * 1000) : oppb.firstKhz ≤ freq * 1000 := by
  unfold Oppb.firstKhz
  omega

theorem lt_firstKhz : oppb.minKhz < oppb.firstKhz := by
  unfold Oppb.firstKhz
  omega

theorem signedOk_zero : oppb.SignedOk 0 := by
  have hs : oppb.stepKhz < 2 ^ 32 := oppb.frequencyStepKhz.isLt
  unfold Oppb.SignedOk
  split
  · omega
  · constructor <;> omega

/-- What is converted for a frequency has its number of steps, and the signed words hold it. -/
theorem PstateOk.excess_ok (hok : PstateOk oppb minFrequency) {freq : BitVec 32}
    (hmin : oppb.minKhz < freq.toNat * 1000) (hmax : freq.toNat * 1000 ≤ oppb.maxKhz) :
    oppb.excess minFrequency (freq.toNat * 1000) / oppb.stepKhz = (oppb.maxKhz - freq.toNat * 1000) / oppb.stepKhz ∧
      oppb.SignedOk (oppb.excess minFrequency (freq.toNat * 1000)) := by
  unfold Oppb.excess
  have hfirst := firstKhz_le hmin
  by_cases hmode : minFrequency.toNat * 1000 ≤ freq.toNat * 1000
  · rw [max_eq_left hmode, min_eq_right hmax]
    exact ⟨rfl, hok.signed freq hmin hmode hmax⟩
  · have hminimum := hok.minimum (by omega) (by omega)
    rw [max_eq_right (by omega)]
    constructor
    · apply le_antisymm
      · exact Nat.div_le_div_right (by omega)
      · rw [← hminimum]
        exact Nat.div_le_div_right (by omega)
    · by_cases hbelow : minFrequency.toNat * 1000 ≤ oppb.maxKhz
      · have hwidth : (minFrequency.setWidth 32).toNat = minFrequency.toNat := BitVec.toNat_setWidth_of_le (by decide)
        have hsigned := hok.signed (minFrequency.setWidth 32)
        rw [hwidth] at hsigned
        rw [min_eq_right hbelow]
        exact hsigned (hmin.trans (Nat.not_le.1 hmode)) le_rfl hbelow
      · rw [min_eq_left (by omega), Nat.sub_self]
        exact signedOk_zero

theorem PstateOk.exact_above (hok : PstateOk oppb minFrequency) (hstep : 0 < oppb.stepKhz) (hderived : oppb.Derived)
    {freq : BitVec 32} (hmin : oppb.minKhz < freq.toNat * 1000) (hmax : freq.toNat * 1000 ≤ oppb.maxKhz) :
    (procFreq2pstate oppb minFrequency freq).toNat = (oppb.maxKhz - freq.toNat * 1000) / oppb.stepKhz := by
  obtain ⟨hquot, hsigned⟩ := hok.excess_ok hmin hmax
  have hsize : oppb.maxKhz < 2 ^ 32 := oppb.frequencyMaxKhz.isLt
  have hnat : (BitVec.ofNat 32 (oppb.excess minFrequency (freq.toNat * 1000))).toNat =
      oppb.excess minFrequency (freq.toNat * 1000) := by
    rw [BitVec.toNat_ofNat]
    exact Nat.mod_eq_of_lt (by unfold Oppb.excess; omega)
  have hle : (oppb.maxKhz - freq.toNat * 1000) / oppb.stepKhz ≤ oppb.pMin := by
    rw [hderived]
    exact Nat.div_le_div_right (by omega)
  rw [procFreq2pstate_excess hmax hmin, stepsBelow_exact hstep hok.narrow, hnat, hquot]
  · rw [hnat, hquot]
    exact hle
  · rw [hnat]
    exact hsigned

theorem PstateOk.toNat_pMin (hok : PstateOk oppb minFrequency) : (oppb.pstateMin.setWidth 8).toNat = oppb.pMin := by
  have hle : oppb.pstateMin.toNat ≤ 128 := hok.narrow
  rw [BitVec.toNat_setWidth, Nat.mod_eq_of_lt (by omega)]
  rfl

theorem PstateOk.stepsExact (hok : PstateOk oppb minFrequency) (hstep : 0 < oppb.stepKhz) (hderived : oppb.Derived) :
    StepsExact oppb minFrequency := by
  rintro freq ⟨hlow, hhigh⟩
  by_cases hmin : freq.toNat * 1000 ≤ oppb.minKhz
  · rw [procFreq2pstate_min hhigh hmin, hok.toNat_pMin, hderived]
    congr 2
    omega
  · exact hok.exact_above hstep hderived (by omega) hhigh

/-- Every pstate comes back from its frequency in whole MHz. -/
theorem PstateOk.roundTrip (hok : PstateOk oppb minFrequency) (hstep : 0 < oppb.stepKhz)
    (hle : oppb.minKhz ≤ oppb.maxKhz) (hderived : oppb.Derived) {pstate : BitVec 8} (hlegal : pstate.toNat ≤ oppb.pMin) :
    procFreq2pstate oppb minFrequency (procPstate2freq oppb pstate / 1000) = pstate := by
  obtain ⟨hlow, hhigh⟩ := hderived.bounds hstep hle
  have hmul := Nat.mul_le_mul_right oppb.stepKhz hlegal
  have hmhz : (procPstate2freq oppb pstate / 1000).toNat = (oppb.maxKhz - pstate.toNat * oppb.stepKhz) / 1000 := by
    rw [BitVec.toNat_udiv, toNat_procPstate2freq (by omega) hlegal]
    rfl
  generalize procPstate2freq oppb pstate / 1000 = freq at *
  apply BitVec.eq_of_toNat_eq
  -- every pstate but the last is a step above the minimum
  have hlast : pstate.toNat < oppb.pMin →
      pstate.toNat * oppb.stepKhz + oppb.stepKhz ≤ oppb.pMin * oppb.stepKhz ∧
        (oppb.maxKhz - pstate.toNat * oppb.stepKhz) % 1000 < oppb.stepKhz := by
    intro hlt
    constructor
    · rw [← Nat.succ_mul]
      exact Nat.mul_le_mul_right _ hlt
    · exact hok.whole _ hlt
  by_cases hmin : freq.toNat * 1000 ≤ oppb.minKhz
  · rw [procFreq2pstate_min (by omega) hmin, hok.toNat_pMin]
    by_contra hne
    have := hlast (by omega)
    omega
  · have hmax : freq.toNat * 1000 ≤ oppb.maxKhz := by omega
    rw [hok.exact_above hstep hderived (by omega) hmax]
    apply Nat.div_eq_of_lt_le
    · omega
    · rw [Nat.succ_mul]
      rcases Nat.lt_or_eq_of_le hlegal with hlt | heq
      · have := hlast hlt
        omega
      · rw [heq]
        omega

end Enough

/-! ## The condition is needed -/

section Needed

variable {oppb : Oppb} {minFrequency : BitVec 16}

theorem procFreq2pstate_cases (freq : BitVec 32) :
    procFreq2pstate oppb minFrequency freq = oppb.pstateMin.setWidth 8 ∨
      ∃ excess, procFreq2pstate oppb minFrequency freq = oppb.stepsBelow excess := by
  unfold procFreq2pstate
  by_cases hmin : freq * 1000 ≤ oppb.frequencyMinKhz
  · exact .inl (if_pos hmin)
  · right
    simp only [if_neg hmin]
    generalize (if freq < minFrequency.setWidth 32 then minFrequency.setWidth 32 * 1000 else freq * 1000) = khz
    by_cases hmax : khz < oppb.frequencyMaxKhz
    · exact ⟨_, if_pos hmax⟩
    · exact ⟨0, (if_neg hmax).trans stepsBelow_zero.symm⟩

theorem stepsBelow_cases (excess : BitVec 32) : oppb.stepsBelow excess = oppb.pstateMin.setWidth 8 ∨
    ((oppb.stepsBelow excess).signExtend 32).toNat ≤ oppb.pMin := by
  unfold Oppb.stepsBelow
  generalize (excess.sdiv oppb.frequencyStepKhz).setWidth 8 = byte
  by_cases hgt : byte.signExtend 32 > oppb.pstateMin
  · exact .inl (if_pos hgt)
  · right
    rw [if_neg hgt]
    exact Nat.not_lt.1 hgt

theorem procFreq2pstate_high {freq : BitVec 32} (hpmin : oppb.pMin < 2 ^ 32 - 128)
    (hhigh : 128 ≤ (procFreq2pstate oppb minFrequency freq).toNat) :
    (procFreq2pstate oppb minFrequency freq).toNat = oppb.pMin % 256 := by
  have hmin : (oppb.pstateMin.setWidth 8).toNat = oppb.pMin % 256 := BitVec.toNat_setWidth _ _
  rcases @procFreq2pstate_cases oppb minFrequency freq with h | ⟨excess, h⟩
  · rw [h, hmin]
  · rw [h] at hhigh ⊢
    rcases @stepsBelow_cases oppb excess with h | h
    · rw [h, hmin]
    · rw [toNat_signExtend_byte, if_neg (by omega)] at h
      omega

/-- More than 128 steps: pstates 128 and 129 do not both come back. -/
theorem PstateLaw.narrow (hlaw : PstateLaw oppb minFrequency) (hstep : 0 < oppb.stepKhz)
    (hle : oppb.minKhz ≤ oppb.maxKhz) (hderived : oppb.Derived) : oppb.pMin ≤ 128 := by
  obtain ⟨hlow, hhigh⟩ := hderived.bounds hstep hle
  have hsize : oppb.maxKhz < 2 ^ 32 := oppb.frequencyMaxKhz.isLt
  by_contra hwide
  by_cases hlast : oppb.pMin < 2 ^ 32 - 128
  · have h128 := hlaw.roundTrip 128 (by change 128 ≤ oppb.pMin; omega)
    have h129 := hlaw.roundTrip 129 (by change 129 ≤ oppb.pMin; omega)
    have hfirst := procFreq2pstate_high hlast (by rw [h128]; decide)
    have hsecond := procFreq2pstate_high hlast (by rw [h129]; decide)
    rw [h128] at hfirst
    rw [h129] at hsecond
    have : (128 : BitVec 8).toNat = (129 : BitVec 8).toNat := hfirst.trans hsecond.symm
    exact absurd this (by decide)
  · -- steps of 1 kHz: two of the first three pstates have the same whole number of MHz
    have hone : oppb.stepKhz = 1 := by
      by_contra hne
      have := Nat.mul_le_mul_left oppb.pMin (show 2 ≤ oppb.stepKhz by omega)
      omega
    rw [hone] at hlow
    have hfreq : ∀ pstate : BitVec 8, (procPstate2freq oppb pstate / 1000).toNat = (oppb.maxKhz - pstate.toNat) / 1000 := by
      intro pstate
      have := pstate.isLt
      rw [BitVec.toNat_udiv, toNat_procPstate2freq (by rw [hone]; omega) (by omega), hone, Nat.mul_one]
      rfl
    have hsame : ∀ p q : BitVec 8, (oppb.maxKhz - p.toNat) / 1000 = (oppb.maxKhz - q.toNat) / 1000 → p = q := by
      intro p q hpq
      have hp := p.isLt
      have hq := q.isLt
      have heq : procPstate2freq oppb p / 1000 = procPstate2freq oppb q / 1000 := by
        apply BitVec.eq_of_toNat_eq
        rw [hfreq, hfreq, hpq]
      rw [← hlaw.roundTrip p (by omega), ← hlaw.roundTrip q (by omega), heq]
    by_cases hfirst : oppb.maxKhz % 1000 = 0
    · have h := hsame 1 2 (by change (oppb.maxKhz - 1) / 1000 = (oppb.maxKhz - 2) / 1000; omega)
      exact absurd h (by decide)
    · have h := hsame 0 1 (by change (oppb.maxKhz - 0) / 1000 = (oppb.maxKhz - 1) / 1000; omega)
      exact absurd h (by decide)

/-- A pstate that comes back is less than a step above a whole number of MHz. -/
theorem PstateLaw.whole (hlaw : PstateLaw oppb minFrequency) (hstep : 0 < oppb.stepKhz)
    (hle : oppb.minKhz ≤ oppb.maxKhz) (hderived : oppb.Derived) :
    ∀ pstate < oppb.pMin, (oppb.maxKhz - pstate * oppb.stepKhz) % 1000 < oppb.stepKhz := by
  intro pstate hlt
  obtain ⟨hlow, hhigh⟩ := hderived.bounds hstep hle
  have hnarrow := hlaw.narrow hstep hle hderived
  have hexact := hlaw.stepsExact (by omega)
  have hmul := Nat.mul_le_mul_right oppb.stepKhz hlt
  rw [Nat.succ_mul] at hmul
  have hnat : (BitVec.ofNat 8 pstate).toNat = pstate := by
    rw [BitVec.toNat_ofNat]
    exact Nat.mod_eq_of_lt (by omega)
  have hback := hlaw.roundTrip (BitVec.ofNat 8 pstate) (by omega)
  have hmhz : (procPstate2freq oppb (BitVec.ofNat 8 pstate) / 1000).toNat =
      (oppb.maxKhz - pstate * oppb.stepKhz) / 1000 := by
    rw [BitVec.toNat_udiv, toNat_procPstate2freq (by omega) (by omega), hnat]
    rfl
  generalize procPstate2freq oppb (BitVec.ofNat 8 pstate) / 1000 = freq at *
  by_cases hmin : freq.toNat * 1000 ≤ oppb.minKhz
  · -- at the minimum the last pstate is given out, which is another one
    rw [procFreq2pstate_min (by omega) hmin] at hback
    have heq : (oppb.pstateMin.setWidth 8).toNat = oppb.pMin := by
      have hpmin : oppb.pstateMin.toNat ≤ 128 := hnarrow
      rw [BitVec.toNat_setWidth, Nat.mod_eq_of_lt (by omega)]
      rfl
    rw [hback, hnat] at heq
    omega
  · have hsteps := hexact freq ⟨by omega, by omega⟩
    rw [hback, hnat] at hsteps
    have hnext := @Nat.lt_div_mul_add (oppb.maxKhz - freq.toNat * 1000) oppb.stepKhz hstep
    rw [← hsteps] at hnext
    omega

theorem exists_freq {freqKhz : Nat} (hdvd : freqKhz % 1000 = 0) (hmin : oppb.minKhz ≤ freqKhz)
    (hmax : freqKhz ≤ oppb.maxKhz) : ∃ freq : BitVec 32, freq.toNat * 1000 = freqKhz ∧ oppb.InRange freq := by
  have hsize : oppb.maxKhz < 2 ^ 32 := oppb.frequencyMaxKhz.isLt
  have hfreq : (BitVec.ofNat 32 (freqKhz / 1000)).toNat * 1000 = freqKhz := by
    rw [BitVec.toNat_ofNat]
    omega
  refine ⟨_, hfreq, ?_⟩
  unfold Oppb.InRange
  rw [hfreq]
  exact ⟨hmin, hmax⟩

theorem StepsExact.excess (hexact : StepsExact oppb minFrequency) {freqKhz : Nat} (hdvd : freqKhz % 1000 = 0)
    (hmin : oppb.minKhz < freqKhz) (hmax : freqKhz ≤ oppb.maxKhz) :
    (oppb.stepsBelow (BitVec.ofNat 32 (oppb.excess minFrequency freqKhz))).toNat =
      (oppb.maxKhz - freqKhz) / oppb.stepKhz := by
  obtain ⟨freq, rfl, hfreq⟩ := exists_freq hdvd hmin.le hmax
  rw [← procFreq2pstate_excess hmax hmin]
  exact hexact freq hfreq

theorem StepsExact.minimum (hexact : StepsExact oppb minFrequency) :
    oppb.firstKhz < minFrequency.toNat * 1000 → oppb.firstKhz ≤ oppb.maxKhz →
      (oppb.maxKhz - oppb.firstKhz) / oppb.stepKhz =
        (oppb.maxKhz - min oppb.maxKhz (minFrequency.toNat * 1000)) / oppb.stepKhz := by
  intro hmode hmax
  have hlow := @lt_firstKhz oppb
  have hfirst := hexact.excess (by unfold Oppb.firstKhz; omega) hlow hmax
  rw [Oppb.excess, max_eq_right hmode.le] at hfirst
  rw [← hfirst]
  by_cases hbelow : minFrequency.toNat * 1000 ≤ oppb.maxKhz
  · have hsecond := hexact.excess (by omega) (hlow.trans hmode) hbelow
    rw [Oppb.excess, max_self] at hsecond
    rw [hsecond, min_eq_right hbelow]
  · rw [min_eq_left (by omega), Nat.sub_self, Nat.zero_div]
    exact congrArg BitVec.toNat (@stepsBelow_zero oppb)

/-- The signed words hold the excess of every frequency. -/
theorem StepsExact.signed (hexact : StepsExact oppb minFrequency) (hstep : 0 < oppb.stepKhz)
    (hle : oppb.minKhz ≤ oppb.maxKhz) (hderived : oppb.Derived) (hpos : 0 < oppb.pMin) (hnarrow : oppb.pMin ≤ 128)
    {freq : BitVec 32} (hmin : oppb.minKhz < freq.toNat * 1000)
    (hmode : minFrequency.toNat * 1000 ≤ freq.toNat * 1000) (hmax : freq.toNat * 1000 ≤ oppb.maxKhz) :
    oppb.SignedOk (oppb.maxKhz - freq.toNat * 1000) := by
  have hsize : oppb.maxKhz < 2 ^ 32 := oppb.frequencyMaxKhz.isLt
  have hnat : ∀ d ≤ oppb.maxKhz, (BitVec.ofNat 32 d).toNat = d := by
    intro d hd
    rw [BitVec.toNat_ofNat]
    exact Nat.mod_eq_of_lt (by omega)
  -- the excesses of the frequencies above both minima
  have hbelow : ∀ d : BitVec 32, d.toNat % 1000 = oppb.maxKhz % 1000 →
      d.toNat ≤ oppb.maxKhz - max (oppb.minKhz + 1) (minFrequency.toNat * 1000) →
      (oppb.stepsBelow d).toNat = d.toNat / oppb.stepKhz := by
    intro d hd hdtop
    have hsteps := @StepsExact.excess oppb minFrequency hexact (oppb.maxKhz - d.toNat) (by omega) (by omega) (by omega)
    have hexcess : oppb.excess minFrequency (oppb.maxKhz - d.toNat) = d.toNat := by
      unfold Oppb.excess
      omega
    rw [hexcess, BitVec.ofNat_toNat, BitVec.setWidth_eq] at hsteps
    rw [hsteps]
    congr 1
    omega
  have hself := hnat (oppb.maxKhz - freq.toNat * 1000) (by omega)
  generalize BitVec.ofNat 32 (oppb.maxKhz - freq.toNat * 1000) = excess at hself
  rw [← hself]
  have hrest : excess.toNat % 1000 = oppb.maxKhz % 1000 := by omega
  by_cases hsmall : oppb.stepKhz < 2 ^ 31
  · refine signedOk_of_exact_small hsmall hstep hnarrow ?_ (hbelow excess hrest (by omega))
    rw [hderived]
    exact Nat.div_le_div_right (by omega)
  · obtain ⟨hlow, -⟩ := hderived.bounds hstep hle
    have hmode' := minFrequency.isLt
    have hone : oppb.pMin = 1 := by
      by_contra hne
      have := Nat.mul_le_mul_right oppb.stepKhz (show 2 ≤ oppb.pMin by omega)
      omega
    rw [hone] at hlow
    refine @signedOk_of_exact_large oppb excess (oppb.maxKhz - max (oppb.minKhz + 1) (minFrequency.toNat * 1000))
      (oppb.maxKhz % 1000) (by omega) hone (by omega) (by omega) hrest ?_
    intro d hdtop hd
    exact hbelow d hd hdtop

end Needed

/-! ## Accepted blocks -/

/-- A block that `read_oppb_params` accepts, with a minimum pstate derived from its frequencies and its step, keeps the
law exactly when the condition holds. -/
theorem pstateLaw_iff_pstateOk {createRc scheduleRc wofDisabled : BitVec 32} {oppb : Oppb} {globals : OppbGlobals}
    {minFrequency : BitVec 16} (h : readOppbParams createRc scheduleRc wofDisabled oppb = .ok globals)
    (hderived : oppb.Derived) : PstateLaw oppb minFrequency ↔ PstateOk oppb minFrequency := by
  obtain ⟨hstep, hpos, hle⟩ := readOppbParams_ok h
  constructor
  · intro hlaw
    obtain ⟨hlow, -⟩ := hderived.bounds hstep hle
    have hnarrow := hlaw.narrow hstep hle hderived
    have hexact := hlaw.stepsExact (Nat.le_trans (Nat.le_add_left _ _) hlow)
    constructor
    case narrow => exact hnarrow
    case whole => exact hlaw.whole hstep hle hderived
    case minimum => exact hexact.minimum
    case signed =>
      intro freq hmin hmode hmax
      exact hexact.signed hstep hle hderived hpos hnarrow hmin hmode hmax
  · intro hok
    apply (hok.stepsExact hstep hderived).law hstep hle hderived
    intro pstate hlegal
    exact hok.roundTrip hstep hle hderived hlegal

/-! ## A block of a processor, and one with too many steps -/

/-- Steps of 16.667 MHz below 4000 MHz, down to a minimum. -/
def steppedOppb (minKhz pstateMin : BitVec 32) : Oppb := ⟨oppbMagicNumber10, minKhz, 4000000, 16667, pstateMin, true⟩

theorem steppedOppb_ok : PstateOk (steppedOppb 2000000 119) 2000 := by
  have hmax : (steppedOppb 2000000 119).maxKhz = 4000000 := rfl
  have hstep : (steppedOppb 2000000 119).stepKhz = 16667 := rfl
  constructor
  case narrow => decide
  case whole =>
    intro pstate _
    have := Nat.mod_lt ((steppedOppb 2000000 119).maxKhz - pstate * (steppedOppb 2000000 119).stepKhz) (show 0 < 1000 by decide)
    omega
  case minimum =>
    intro hlt
    exact absurd hlt (by decide)
  case signed =>
    intro freq hmin hmode hle
    unfold Oppb.SignedOk
    rw [hmax, hstep, if_pos (by decide)]
    omega

/-- The block with a minimum of 2000 MHz keeps the law. -/
theorem pstateLaw_iff_pstateOk_stepped : PstateLaw (steppedOppb 2000000 119) 2000 :=
  (@pstateLaw_iff_pstateOk 0 0 0 (steppedOppb 2000000 119) ⟨4000, 16, 0⟩ 2000 (by decide) (by decide)).2 steppedOppb_ok

/-- With a minimum of 1800 MHz, 131 steps below, a frequency of 1866 MHz, 128 steps below, gets pstate 131, whose frequency
lies below it. -/
theorem wide_range_lowered : readOppbParams 0 0 0 (steppedOppb 1800000 131) = .ok ⟨4000, 16, 0⟩ ∧
    (steppedOppb 1800000 131).Derived ∧ (steppedOppb 1800000 131).InRange 1866 ∧
    procFreq2pstate (steppedOppb 1800000 131) 1800 1866 = 131 ∧
    procPstate2freq (steppedOppb 1800000 131) 131 = 1816623 ∧ (1816623 : Nat) < 1866 * 1000 ∧
    procFreq2pstate (steppedOppb 1800000 131) 1800 (procPstate2freq (steppedOppb 1800000 131) 128 / 1000) ≠ 128 := by
  decide

end Occ.Proc
