/-
Pstates and frequencies (`proc_pstate.c`) under the OCC pstate parameter block that `read_oppb_params` (`main.c`)
accepts. The higher the pstate, the lower the frequency; pstate 0 is the maximum.
-/
import Mathlib.Data.BitVec
import Mathlib.Tactic.Common

namespace Occ.Proc

/-! ## The parameter block -/

/-- `OCCPstateParmBlock`, as far as it is read here. -/
structure Oppb where
  magic : BitVec 64
  frequencyMinKhz : BitVec 32
  frequencyMaxKhz : BitVec 32
  frequencyStepKhz : BitVec 32
  pstateMin : BitVec 32
  wofEnabled : Bool
deriving DecidableEq, Repr

def oppbMagicNumber10 : BitVec 64 := 0x4F43435050423030
def wofRcOppbWofDisabled : BitVec 32 := 0x00040000

/-- The errors of `read_oppb_params`, with their user data. -/
inductive OppbErrl
  | requestCreate (rc : BitVec 32)
  | requestSchedule (rc : BitVec 32)
  | invalidMagicNumber (high low : BitVec 32)
  | invalidFrequency (userdata1 userdata2 : BitVec 32)
deriving DecidableEq, Repr

/-- What an accepted block sets: `G_proc_fmax_mhz`, `G_mhz_per_pstate`, and the reason that disables WOF. -/
structure OppbGlobals where
  procFmaxMhz : BitVec 16
  mhzPerPstate : BitVec 32
  wofDisabled : BitVec 32
deriving DecidableEq, Repr

/-- `read_oppb_params`, with the return codes of the block copy engine and the block that it has copied. -/
def readOppbParams (createRc scheduleRc wofDisabled : BitVec 32) (oppb : Oppb) : Except OppbErrl OppbGlobals :=
  if createRc ≠ 0 then .error (.requestCreate (-createRc))
  else if scheduleRc ≠ 0 then .error (.requestSchedule (-scheduleRc))
  else if oppb.magic ≠ oppbMagicNumber10 then
    .error (.invalidMagicNumber ((oppb.magic >>> 32).setWidth 32) (oppb.magic.setWidth 32))
  else if oppb.frequencyMinKhz = 0 ∨ oppb.frequencyMaxKhz = 0 ∨ oppb.frequencyStepKhz = 0 ∨ oppb.pstateMin = 0 ∨
      oppb.frequencyMinKhz > oppb.frequencyMaxKhz then
    .error (.invalidFrequency (((oppb.frequencyMinKhz / 1000) <<< 16) ||| (oppb.frequencyMaxKhz / 1000))
      (((oppb.frequencyStepKhz / 1000) <<< 16) ||| oppb.pstateMin))
  else
    .ok {
      procFmaxMhz := (oppb.frequencyMaxKhz / 1000).setWidth 16
      mhzPerPstate := oppb.frequencyStepKhz / 1000
      wofDisabled := if oppb.wofEnabled then wofDisabled else wofDisabled ||| wofRcOppbWofDisabled }

/-! ## The conversions -/

/-- `proc_pstate2freq`, in kHz. -/
def procPstate2freq (oppb : Oppb) (pstate : BitVec 8) : BitVec 32 :=
  let pstate := if pstate.setWidth 32 > oppb.pstateMin then oppb.pstateMin.setWidth 8 else pstate
  oppb.frequencyMaxKhz - pstate.setWidth 32 * oppb.frequencyStepKhz

/-- The pstate that is `tempFreqKhz` below the maximum: the steps are counted in `int32_t` and kept in `int8_t`, which is
compared with the minimum as an unsigned number. -/
def Oppb.stepsBelow (oppb : Oppb) (tempFreqKhz : BitVec 32) : BitVec 8 :=
  let tempPstate := (tempFreqKhz.sdiv oppb.frequencyStepKhz).setWidth 8
  if tempPstate.signExtend 32 > oppb.pstateMin then oppb.pstateMin.setWidth 8 else tempPstate

/-- `proc_freq2pstate`, with the minimum frequency of the modes. -/
def procFreq2pstate (oppb : Oppb) (minFrequency : BitVec 16) (freqMhz : BitVec 32) : BitVec 8 :=
  let freqKhz := freqMhz * 1000
  if freqKhz ≤ oppb.frequencyMinKhz then oppb.pstateMin.setWidth 8
  else
    let freqKhz := if freqMhz < minFrequency.setWidth 32 then minFrequency.setWidth 32 * 1000 else freqKhz
    if freqKhz < oppb.frequencyMaxKhz then oppb.stepsBelow (oppb.frequencyMaxKhz - freqKhz)
    else 0

/-! ## Accepted blocks -/

theorem readOppbParams_ok {createRc scheduleRc wofDisabled : BitVec 32} {oppb : Oppb} {globals : OppbGlobals}
    (h : readOppbParams createRc scheduleRc wofDisabled oppb = .ok globals) :
    0 < oppb.frequencyStepKhz.toNat ∧ 0 < oppb.pstateMin.toNat ∧
      oppb.frequencyMinKhz.toNat ≤ oppb.frequencyMaxKhz.toNat := by
  unfold readOppbParams at h
  rcases ite_eq_iff.1 h with ⟨-, h⟩ | ⟨-, h⟩
  · cases h
  rcases ite_eq_iff.1 h with ⟨-, h⟩ | ⟨-, h⟩
  · cases h
  rcases ite_eq_iff.1 h with ⟨-, h⟩ | ⟨-, h⟩
  · cases h
  rcases ite_eq_iff.1 h with ⟨-, h⟩ | ⟨hfrequency, h⟩
  · cases h
  simp only [not_or, gt_iff_lt, BitVec.not_lt] at hfrequency
  obtain ⟨-, -, hstep, hmin, hle⟩ := hfrequency
  refine ⟨Nat.pos_of_ne_zero fun hz => hstep (BitVec.eq_of_toNat_eq hz), Nat.pos_of_ne_zero fun hz =>
    hmin (BitVec.eq_of_toNat_eq hz), hle⟩

end Occ.Proc
