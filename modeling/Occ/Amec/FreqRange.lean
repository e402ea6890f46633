/-
The frequency range of a mode (`amec_set_freq_range` in `amec_freq.c`): where the range is good and the error log is not
lost.
-/
import Occ.Amec.VotingBox

namespace Occ.Amec.FreqRange

/-! ## Model -/

/-- `i_mode`: one of the modes of the table, or a number from `OCC_MODE_COUNT` on. -/
inductive Mode
  | valid (mode : OccMode)
  | other (value : BitVec 8)
deriving DecidableEq, Repr

/-- What the range is chosen from: `sys_mode_freq.table`, `G_proc_fmax_mhz`, whether WOF is disabled or not
`WOF_ENABLED`, and the system type. -/
structure Config where
  table : OccMode → BitVec 16
  procFmaxMhz : BitVec 16
  wofOff : Bool
  kvm : Bool

/-- `amec_mode_freq_t` -/
structure ModeFreq where
  fmin : BitVec 16
  fmax : BitVec 16
  minSpeed : BitVec 16
deriving DecidableEq, Repr

/-- The internal modes that `part_mode_freq` is set for; the entries of the others are 0. -/
inductive InternalMode
  | nom | dps | dpsMp | other
deriving DecidableEq, Repr

/-- `sys.fmin`, `sys.fmax` and `part_mode_freq` -/
structure Range where
  fmin : BitVec 16
  fmax : BitVec 16
  partModeFreq : InternalMode → ModeFreq

/-- The log of `ERC_FW_ZERO_FREQ_LIMIT`, with its callout of the firmware. -/
structure ErrorLog where
  mode : Mode
deriving DecidableEq, Repr

/-- What a call leaves behind: the range, the log that it created and the one that it returned. -/
structure Outcome where
  range : Range
  created : Option ErrorLog
  returned : Option ErrorLog

/-- The modes that go up to the highest frequency there is. -/
def usesFmax : OccMode → Bool
  | .nochange | .nomPerformance | .maxPerformance | .fmf | .dynPowerSave | .dynPowerSaveFp => true
  | _ => false

/-- `l_freq_min` -/
def freqMin (c : Config) : Mode → BitVec 16
  | .valid _ => c.table .minFrequency
  | .other _ => 0

/-- `l_freq_max` -/
def freqMax (c : Config) : Mode → BitVec 16
  | .valid mode =>
    if usesFmax mode then if c.wofOff then c.table .turbo else c.procFmaxMhz
    else c.table mode
  | .other _ => 0

/-- An entry for a policy of dynamic power save. -/
def dpsFreq (c : Config) (mode : OccMode) : ModeFreq where
  fmin := c.table .minFrequency
  fmax := c.table mode
  minSpeed := ((c.table .minFrequency).setWidth 32 * 1000 / (c.table mode).setWidth 32).setWidth 16

/-- `l_ppm_freq` -/
def ppmFreq (c : Config) : InternalMode → ModeFreq
  | .nom => ⟨c.table .minFrequency, c.table .nominal, 0⟩
  | .dps => dpsFreq c .dynPowerSave
  | .dpsMp => dpsFreq c .dynPowerSaveFp
  | .other => ⟨0, 0, 0⟩

/-- `amec_set_freq_range`; there is no result for a division by 0. -/
def amecSetFreqRange (c : Config) (mode : Mode) (range : Range) : Option Outcome :=
  if freqMin c mode = 0 ∨ freqMax c mode = 0 then
    -- the log is assigned to a variable of the inner block, and the one outside stays NULL
    some ⟨range, if c.kvm then none else some ⟨mode⟩, none⟩
  else if c.table .dynPowerSave = 0 ∨ c.table .dynPowerSaveFp = 0 then none
  else some ⟨⟨freqMin c mode, freqMax c mode, ppmFreq c⟩, none, none⟩

/-! ## The law -/

/-- The range is updated and in order, and there is no error. -/
structure Updated (c : Config) (mode : Mode) (o : Outcome) : Prop where
  fmin : o.range.fmin = freqMin c mode
  fmax : o.range.fmax = freqMax c mode
  ordered : o.range.fmin ≤ o.range.fmax
  returned : o.returned = none

/-- The call divides by no zero; the range is updated, or there is no range to update to and it stays as it is; and the log
that was created is returned. -/
structure RangeLaw (c : Config) (mode : Mode) (range : Range) (o : Outcome) : Prop where
  done : amecSetFreqRange c mode range = some o
  effect : Updated c mode o ∨ (freqMin c mode = 0 ∨ freqMax c mode = 0) ∧ o.range = range
  notLost : o.returned = o.created

/-- The condition: a range is in order, and there are frequencies for dynamic power save; and there is no range only in a system
that logs no error for that. -/
structure RangeOk (c : Config) (mode : Mode) : Prop where
  none : freqMin c mode = 0 ∨ freqMax c mode = 0 → c.kvm = true
  ordered : ¬(freqMin c mode = 0 ∨ freqMax c mode = 0) → freqMin c mode ≤ freqMax c mode
  dps : ¬(freqMin c mode = 0 ∨ freqMax c mode = 0) → ¬(c.table .dynPowerSave = 0 ∨ c.table .dynPowerSaveFp = 0)

/-- The law holds if and only if the condition does. -/
theorem rangeLaw_iff (c : Config) (mode : Mode) (range : Range) : (∃ o, RangeLaw c mode range o) ↔ RangeOk c mode := by
  constructor
  · rintro ⟨o, hdone, heffect, hlost⟩
    unfold amecSetFreqRange at hdone
    obtain ⟨hzero, h⟩ | ⟨hzero, h⟩ := ite_eq_iff.1 hdone
    · refine ⟨fun _ => ?_, fun h => absurd hzero h, fun h => absurd hzero h⟩
      obtain rfl := Option.some.inj h
      obtain hkvm | hpowervm := Bool.eq_false_or_eq_true c.kvm
      · exact hkvm
      · have hcreated : none = if c.kvm then none else some (ErrorLog.mk mode) := hlost
        rw [hpowervm] at hcreated
        exact absurd hcreated nofun
    · obtain ⟨-, h⟩ | ⟨hdps, h⟩ := ite_eq_iff.1 h
      · exact absurd h nofun
      · obtain rfl := Option.some.inj h
        obtain ⟨-, -, hordered, -⟩ | ⟨hnone, -⟩ := heffect
        · exact ⟨fun h => absurd h hzero, fun _ => hordered, fun _ => hdps⟩
        · exact absurd hnone hzero
  · rintro ⟨hnone, hordered, hdps⟩
    by_cases hzero : freqMin c mode = 0 ∨ freqMax c mode = 0
    · refine ⟨⟨range, none, none⟩, ?_, .inr ⟨hzero, rfl⟩, rfl⟩
      unfold amecSetFreqRange
      rw [if_pos hzero, hnone hzero]
      rfl
    · refine ⟨⟨⟨freqMin c mode, freqMax c mode, ppmFreq c⟩, none, none⟩, ?_, .inl ⟨rfl, rfl, hordered hzero, rfl⟩, rfl⟩
      unfold amecSetFreqRange
      rw [if_neg hzero, if_neg (hdps hzero)]

/-- With frequencies for dynamic power save there is no division by 0, and the scaled minimum speeds of a range in order are
at most that of the maximum. -/
theorem minSpeed_le {c : Config} {mode : OccMode} (hfmax : c.table mode ≠ 0) (h : c.table .minFrequency ≤ c.table mode) :
    (dpsFreq c mode).minSpeed.toNat ≤ 1000 := by
  have hpos : 0 < (c.table mode).toNat := Nat.pos_of_ne_zero fun hzero => hfmax (BitVec.eq_of_toNat_eq hzero)
  have hle : (c.table .minFrequency).toNat ≤ (c.table mode).toNat := h
  have hmin := (c.table .minFrequency).isLt
  have hthousand : (1000 : BitVec 32).toNat = 1000 := rfl
  have hmul : ((c.table .minFrequency).setWidth 32 * 1000).toNat = (c.table .minFrequency).toNat * 1000 := by
    rw [BitVec.toNat_mul, BitVec.toNat_setWidth_of_le (by decide), hthousand]
    omega
  have hquot : (c.table .minFrequency).toNat * 1000 / (c.table mode).toNat ≤ 1000 :=
    Nat.div_le_of_le_mul (Nat.mul_le_mul_right 1000 hle)
  show (BitVec.setWidth 16 _).toNat ≤ 1000
  rw [BitVec.toNat_setWidth, BitVec.toNat_udiv, hmul, BitVec.toNat_setWidth_of_le (by decide)]
  exact Nat.le_trans (Nat.mod_le _ _) hquot

/-- A system without a frequency for FFO mode, as it may be stored. -/
def noFfo : Config where
  table := fun mode => if mode = .ffo then 0 else 3000
  procFmaxMhz := 3500
  wofOff := false
  kvm := false

theorem ffo_lost (range : Range) : amecSetFreqRange noFfo (.valid .ffo) range =
    some ⟨range, some ⟨.valid .ffo⟩, none⟩ := rfl

theorem not_rangeLaw_ffo : ¬∃ o, RangeLaw noFfo (.valid .ffo) ⟨2000, 4000, fun _ => ⟨0, 0, 0⟩⟩ o := by
  rintro ⟨o, hdone, -, hlost⟩
  rw [ffo_lost] at hdone
  obtain rfl := Option.some.inj hdone
  exact absurd hlost nofun

end Occ.Amec.FreqRange
