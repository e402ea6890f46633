/-
The GPUs' caps: over every run of ticks that meet a condition on their data, each GPU's cap is its share of the
power that the caps in force leave for the GPUs, clipped to its limits.
-/
import Occ.Amec.PowerCap
import Occ.Lib.Literals

namespace Occ.Amec.Pcap

open Occ Transition

attribute [local instance] neZero_three

/-! ## The law -/

/-- The watts that a cap leaves for all GPUs, with `drop` given to them. -/
def room (pcap nonGpu drop : Nat) : Nat := if nonGpu < pcap then pcap - nonGpu + drop else 0

namespace Env

variable (env : Env)

/-- The total for the cap of the system, in oversubscription or not. -/
def systemTotal (oversub : Bool) : Nat :=
  room (if oversub then env.ovsNodePcap else env.systemPcap).toNat env.totalNonGpuMaxPwrWatts.toNat
    env.totalProcMemPwrDropWatts.toNat

/-- The total for the active cap, with the PSR's part of the power that is dropped. -/
def psrTotal : Nat :=
  room env.activeNodePcap.toNat env.totalNonGpuMaxPwrWatts.toNat
    (env.psr.toNat * env.totalProcMemPwrDropWatts.toNat / 100)

/-- The watts of one GPU. -/
def share : Nat := min (env.systemTotal env.oversub) env.psrTotal / env.firstNumGpusSys.toNat

end Env

/-- Milliwatts within the limits of a GPU. -/
def GpuLimits.clamp (l : GpuLimits) (mw : Nat) : Nat :=
  if mw < l.gpuMinPcapMw.toNat then l.gpuMinPcapMw.toNat
  else if l.gpuMaxPcapMw.toNat < mw then l.gpuMaxPcapMw.toNat
  else mw

/-- The cap of every GPU whose limits are known, after a tick that found GPUs. -/
def GpuCapLaw (env : Env) (g : GpuPcap) : Prop :=
  env.firstProcGpuConfig ≠ 0 → ∀ i, (env.gpu i).present = true → (env.gpu i).pwrLimitsRead = true →
    (g.gpuDesiredPcapMw i).toNat = (env.gpu i).clamp (1000 * env.share)

/-! ## Runs with the data of the calculations -/

/-- The state, with the data that the first run found and those of the last calculation. -/
structure Sized where
  state : State
  first : Option Env
  last : Option Env

def Sized.boot : Sized := ⟨.boot, none, none⟩

/-- The tick finds GPUs, and calculates the totals: at the first run, and when the active cap or the PSR has
changed. -/
def Sized.Calculates (w : Sized) (env : Env) : Prop :=
  env.firstProcGpuConfig ≠ 0 ∧
    (w.state.gpu.firstRun = true ∨ w.state.prevNodePcap ≠ env.activeNodePcap ∨ w.state.gpu.psr ≠ env.psr)

instance (w : Sized) (env : Env) : Decidable (w.Calculates env) := inferInstanceAs (Decidable (_ ∧ _))

def Sized.tick (w : Sized) (env : Env) : Sized where
  state := w.state.amecPcapCalc env
  first := if env.firstProcGpuConfig ≠ 0 then some (w.first.getD env) else w.first
  last := if w.Calculates env then some env else w.last

def Sized.Step (w : Sized) (env : Env) (w' : Sized) : Prop := w' = w.tick env

/-- The PSR takes all of the dropped power or so little of it that it makes no watt, or the total of the system is
the lower one without it. -/
def Env.PsrExact (env : Env) : Prop :=
  (env.psr.toNat = 100 ∧ env.psrTotal < 2 ^ 16) ∨
  (env.psr.toNat < 100 ∧ (env.psr.toNat * env.totalProcMemPwrDropWatts.toNat < 100 ∨
    env.activeNodePcap ≤ env.totalNonGpuMaxPwrWatts ∨
    env.systemTotal env.oversub ≤ env.activeNodePcap.toNat - env.totalNonGpuMaxPwrWatts.toNat))

/-- A calculation finds the totals of the system as the first run did, in 16 bits, and a PSR that it can take; a tick
without one finds the same share as the last calculation. -/
structure GpuOk (w : Sized) (env : Env) : Prop where
  system : w.Calculates env → (w.first.getD env).systemTotal env.oversub = env.systemTotal env.oversub
  fits : w.Calculates env → env.systemTotal env.oversub < 2 ^ 16
  psr : w.Calculates env → env.PsrExact
  kept : env.firstProcGpuConfig ≠ 0 → ¬w.Calculates env → ∀ l, w.last = some l → l.share = env.share

/-! ## Watts in 16 bits -/

theorem gpuTotal_toNat (pcap nonGpu drop : BitVec 16) :
    (gpuTotal pcap nonGpu drop).toNat = room pcap.toNat nonGpu.toNat drop.toNat % 2 ^ 16 := by
  unfold gpuTotal room
  by_cases h : nonGpu < pcap
  · rw [if_pos h, if_pos (BitVec.lt_def.1 h), BitVec.toNat_add, BitVec.toNat_sub_of_le (BitVec.le_of_lt h)]
  · rw [if_neg h, if_neg fun hn => h (BitVec.lt_def.2 hn)]
    rfl

theorem psrDrop_toNat {env : Env} (h : env.psr.toNat ≤ 100) :
    (GpuPcap.psrDrop env).toNat = if env.psr.toNat = 100 then env.totalProcMemPwrDropWatts.toNat else 0 := by
  have hdiv : (env.psr / 100).toNat = env.psr.toNat / 100 := by
    rw [BitVec.toNat_udiv]
    rfl
  have hd := env.totalProcMemPwrDropWatts.isLt
  unfold GpuPcap.psrDrop
  rw [BitVec.toNat_mul, BitVec.toNat_setWidth_of_le (by decide), hdiv]
  split_ifs with hpsr
  · rw [hpsr, Nat.div_self (by decide), Nat.one_mul, Nat.mod_eq_of_lt hd]
  · rw [Nat.div_eq_of_lt (by omega), Nat.zero_mul, Nat.zero_mod]

/-- The lower of the two totals is what it should be, although the PSR's part of the dropped power is lost. -/
theorem min_total {env : Env} {system : BitVec 16} (hsystem : system.toNat = env.systemTotal env.oversub)
    (h : env.PsrExact) :
    min system.toNat (gpuTotal env.activeNodePcap env.totalNonGpuMaxPwrWatts (GpuPcap.psrDrop env)).toNat =
      min (env.systemTotal env.oversub) env.psrTotal := by
  have hcap := env.activeNodePcap.isLt
  rw [hsystem, gpuTotal_toNat]
  rcases h with ⟨hall, hfits⟩ | ⟨hpart, h⟩
  · have hdrop : (GpuPcap.psrDrop env).toNat = env.psr.toNat * env.totalProcMemPwrDropWatts.toNat / 100 := by
      rw [psrDrop_toNat hall.le, if_pos hall, hall, Nat.mul_div_cancel_left _ (by decide)]
    rw [hdrop]
    exact congrArg _ (Nat.mod_eq_of_lt hfits)
  · rw [psrDrop_toNat hpart.le, if_neg hpart.ne]
    unfold Env.psrTotal room
    rcases h with hsmall | hless | hlow
    · rw [Nat.div_eq_of_lt hsmall]
      split_ifs
      · rw [Nat.mod_eq_of_lt (by omega)]
      · rfl
    · have hno : ¬env.totalNonGpuMaxPwrWatts.toNat < env.activeNodePcap.toNat := not_lt.2 (BitVec.le_def.1 hless)
      rw [if_neg hno, if_neg hno]
      rfl
    · split_ifs
      · rw [Nat.mod_eq_of_lt (by omega), min_eq_left (by omega), min_eq_left (by omega)]
      · rfl

theorem toNat_min (a b : BitVec 16) : (if a < b then a else b).toNat = min a.toNat b.toNat := by
  split_ifs with h
  · exact (min_eq_left (le_of_lt (BitVec.lt_def.1 h))).symm
  · exact (min_eq_right (BitVec.le_def.1 (BitVec.not_lt.1 h))).symm

theorem share_toNat (total : BitVec 16) (n : BitVec 32) :
    (if n ≠ 0 then (total.setWidth 32 / n).setWidth 16 else 0 : BitVec 16).toNat = total.toNat / n.toNat := by
  have ht := total.isLt
  split_ifs with hn
  · rw [BitVec.toNat_setWidth, BitVec.toNat_udiv, BitVec.toNat_setWidth_of_le (by decide)]
    exact Nat.mod_eq_of_lt ((Nat.div_le_self _ _).trans_lt ht)
  · rw [not_not.1 hn]
    exact (Nat.div_zero _).symm

theorem clip_toNat (l : GpuLimits) (per : BitVec 16) :
    (GpuPcap.clip l (per.setWidth 32 * 1000)).toNat = l.clamp (1000 * per.toNat) := by
  have hp := per.isLt
  have hmw : (per.setWidth 32 * 1000).toNat = 1000 * per.toNat := by
    rw [BitVec.toNat_mul, BitVec.toNat_setWidth_of_le (by decide), Nat.mul_comm]
    have hthousand : (1000 : BitVec 32).toNat = 1000 := rfl
    rw [hthousand]
    exact Nat.mod_eq_of_lt (by omega)
  unfold GpuPcap.clip GpuLimits.clamp
  simp only [BitVec.lt_def, hmw]
  split_ifs
  · rfl
  · rfl
  · exact hmw

/-! ## One tick -/

section Tick

variable {w : Sized} {env : Env}

/-- The statics are those of the first run and of the last calculation. -/
structure GpuInv (w : Sized) : Prop where
  first : w.state.gpu.firstRun = true ↔ w.first = none
  last : w.state.gpu.firstRun = true ↔ w.last = none
  nMode : ∀ f, w.first = some f → w.state.gpu.nModeGpuTotalPcap.toNat = f.systemTotal true % 2 ^ 16
  nPlus1Mode : ∀ f, w.first = some f → w.state.gpu.nPlus1ModeGpuTotalPcap.toNat = f.systemTotal false % 2 ^ 16
  share : ∀ l, w.last = some l → w.state.gpu.perGpuPcap.toNat = l.share

theorem gpuInv_boot : GpuInv .boot where
  first := iff_of_true rfl rfl
  last := iff_of_true rfl rfl
  nMode := fun _ h => nomatch h
  nPlus1Mode := fun _ h => nomatch h
  share := fun _ h => nomatch h

theorem gpu_amecPcapCalc (s : State) (env : Env) : (s.amecPcapCalc env).gpu =
    if env.firstProcGpuConfig ≠ 0 then
      s.gpu.amecGpuPcap env env.activeNodePcap (s.prevNodePcap ≠ env.activeNodePcap)
    else s.gpu := by
  have hmem : ((s.nodeCap env).memLevel env).1.gpu = (s.nodeCap env).gpu := by
    unfold State.memLevel
    dsimp only
    split_ifs <;> rfl
  have hproc : (s.amecPcapCalc env).gpu = ((s.nodeCap env).memLevel env).1.gpu := by
    unfold State.amecPcapCalc State.procCap
    dsimp only
    split_ifs <;> rfl
  rw [hproc, hmem]
  rfl

theorem GpuInv.systemTotals (h : GpuInv w) (env : Env) :
    (w.state.gpu.systemTotals env).firstRun = w.state.gpu.firstRun ∧
    (w.state.gpu.systemTotals env).psr = w.state.gpu.psr ∧
    (w.state.gpu.systemTotals env).perGpuPcap = w.state.gpu.perGpuPcap ∧
    (w.state.gpu.systemTotals env).nModeGpuTotalPcap.toNat = (w.first.getD env).systemTotal true % 2 ^ 16 ∧
    (w.state.gpu.systemTotals env).nPlus1ModeGpuTotalPcap.toNat = (w.first.getD env).systemTotal false % 2 ^ 16 := by
  unfold GpuPcap.systemTotals
  by_cases hfirst : w.state.gpu.firstRun = true
  · rw [if_pos hfirst, h.first.1 hfirst]
    exact ⟨rfl, rfl, rfl, gpuTotal_toNat _ _ _, gpuTotal_toNat _ _ _⟩
  · rw [if_neg hfirst]
    obtain ⟨f, hf⟩ := Option.ne_none_iff_exists'.1 fun hnone => hfirst (h.first.2 hnone)
    rw [hf]
    exact ⟨rfl, rfl, rfl, h.nMode f hf, h.nPlus1Mode f hf⟩

/-- What a tick that finds GPUs leaves: the statics for the data found, the share in force, and the caps. -/
structure GpuTick (w : Sized) (env : Env) (g : GpuPcap) : Prop where
  firstRun : g.firstRun = false
  nMode : g.nModeGpuTotalPcap.toNat = (w.first.getD env).systemTotal true % 2 ^ 16
  nPlus1Mode : g.nPlus1ModeGpuTotalPcap.toNat = (w.first.getD env).systemTotal false % 2 ^ 16
  share : g.perGpuPcap.toNat = env.share
  desired : ∀ i, (env.gpu i).present = true → (env.gpu i).pwrLimitsRead = true →
    (g.gpuDesiredPcapMw i).toNat = (env.gpu i).clamp (1000 * g.perGpuPcap.toNat)

theorem activeTotal_share (h : GpuInv w) (hok : GpuOk w env) (hcalc : w.Calculates env) :
    ((w.state.gpu.systemTotals env).activeTotal env env.activeNodePcap).perGpuPcap.toNat = env.share := by
  obtain ⟨-, -, -, hn, hn1⟩ := h.systemTotals env
  have hsystem : (if env.oversub then (w.state.gpu.systemTotals env).nModeGpuTotalPcap
      else (w.state.gpu.systemTotals env).nPlus1ModeGpuTotalPcap).toNat = env.systemTotal env.oversub := by
    have hmod : ((w.first.getD env).systemTotal env.oversub) % 2 ^ 16 = env.systemTotal env.oversub := by
      rw [hok.system hcalc]
      exact Nat.mod_eq_of_lt (hok.fits hcalc)
    cases hover : env.oversub with
    | true =>
      rw [hover] at hmod
      exact hn.trans hmod
    | false =>
      rw [hover] at hmod
      exact hn1.trans hmod
  unfold GpuPcap.activeTotal
  dsimp only
  rw [share_toNat, toNat_min, min_total hsystem (hok.psr hcalc)]
  rfl

theorem gpuTick_amecGpuPcap (h : GpuInv w) (hok : GpuOk w env) (hcfg : env.firstProcGpuConfig ≠ 0) :
    GpuTick w env (w.state.amecPcapCalc env).gpu := by
  obtain ⟨hfirst, hpsr, hper, hn, hn1⟩ := h.systemTotals env
  have hcond : ((w.state.gpu.systemTotals env).firstRun = true ∨
      decide (w.state.prevNodePcap ≠ env.activeNodePcap) = true ∨ (w.state.gpu.systemTotals env).psr ≠ env.psr) ↔
      w.Calculates env := by
    rw [hfirst, hpsr, decide_eq_true_eq]
    exact (and_iff_right hcfg).symm
  rw [gpu_amecPcapCalc, if_pos hcfg]
  unfold GpuPcap.amecGpuPcap
  dsimp only
  by_cases hcalc : w.Calculates env
  · rw [if_pos (hcond.2 hcalc)]
    refine ⟨rfl, hn, hn1, activeTotal_share h hok hcalc, fun i hi hread => ?_⟩
    dsimp only
    rw [if_pos ⟨hi, hread⟩]
    exact clip_toNat _ _
  · rw [if_neg fun hc => hcalc (hcond.1 hc)]
    refine ⟨rfl, hn, hn1, ?_, fun i hi hread => ?_⟩
    · have hran : ¬w.state.gpu.firstRun = true := fun hf => hcalc ⟨hcfg, .inl hf⟩
      obtain ⟨l, hl⟩ := Option.ne_none_iff_exists'.1 fun hnone => hran (h.last.2 hnone)
      exact (congrArg BitVec.toNat hper).trans ((h.share l hl).trans (hok.kept hcfg hcalc l hl))
    · dsimp only
      rw [if_pos ⟨hi, hread⟩]
      exact clip_toNat _ _

theorem gpuCapLaw_tick (h : GpuInv w) (hok : GpuOk w env) : GpuCapLaw env (w.tick env).state.gpu := by
  intro hcfg i hi hread
  have htick := gpuTick_amecGpuPcap h hok hcfg
  rw [← htick.share]
  exact htick.desired i hi hread

theorem GpuInv.tick (h : GpuInv w) (hok : GpuOk w env) : GpuInv (w.tick env) := by
  by_cases hcfg : env.firstProcGpuConfig ≠ 0
  · have htick := gpuTick_amecGpuPcap h hok hcfg
    have hfirst : (w.tick env).first = some (w.first.getD env) := if_pos hcfg
    have hno : ¬(w.tick env).state.gpu.firstRun = true := Bool.eq_false_iff.1 htick.firstRun
    have hlast : ∃ l, (w.tick env).last = some l ∧ l.share = env.share := by
      by_cases hcalc : w.Calculates env
      · exact ⟨env, if_pos hcalc, rfl⟩
      · have hran : ¬w.state.gpu.firstRun = true := fun hf => hcalc ⟨hcfg, .inl hf⟩
        obtain ⟨l, hl⟩ := Option.ne_none_iff_exists'.1 fun hnone => hran (h.last.2 hnone)
        exact ⟨l, (if_neg hcalc).trans hl, hok.kept hcfg hcalc l hl⟩
    obtain ⟨l, hl, hshare⟩ := hlast
    constructor
    · exact iff_of_false hno (by rw [hfirst]; exact Option.some_ne_none _)
    · exact iff_of_false hno (by rw [hl]; exact Option.some_ne_none _)
    · intro f hf
      cases hfirst.symm.trans hf
      exact htick.nMode
    · intro f hf
      cases hfirst.symm.trans hf
      exact htick.nPlus1Mode
    · intro l' hl'
      cases hl.symm.trans hl'
      exact htick.share.trans hshare.symm
  · have hgpu : (w.tick env).state.gpu = w.state.gpu := by
      show (w.state.amecPcapCalc env).gpu = _
      rw [gpu_amecPcapCalc, if_neg hcfg]
    have hfirst : (w.tick env).first = w.first := if_neg hcfg
    have hlast : (w.tick env).last = w.last := if_neg fun hc => hcfg hc.1
    exact ⟨by rw [hgpu, hfirst]; exact h.first, by rw [hgpu, hlast]; exact h.last,
      by rw [hgpu, hfirst]; exact h.nMode, by rw [hgpu, hfirst]; exact h.nPlus1Mode,
      by rw [hgpu, hlast]; exact h.share⟩

end Tick

/-! ## Runs -/

theorem gpuInv_run {w : Sized} {es : List Env} (h : Run (Guarded GpuOk Sized.Step) .boot es w) : GpuInv w := by
  apply Run.invariant (P := GpuInv) _ h gpuInv_boot
  rintro w env _ hw ⟨hok, rfl⟩
  exact hw.tick hok

/-- In every run whose ticks meet the condition, every tick leaves each GPU with its share. -/
theorem gpuCapLaw_of_gpuOk {w : Sized} {es : List Env} {env : Env} (h : Run (Guarded GpuOk Sized.Step) .boot es w)
    (hok : GpuOk w env) : GpuCapLaw env (w.tick env).state.gpu :=
  gpuCapLaw_tick (gpuInv_run h) hok

/-- One GPU in a node with a cap of 1000 W, of which 500 W are for the rest of the node and 100 W are dropped. -/
def gpuEnv : Env where
  oversub := false
  ovsNodePcap := 1000
  normNodePcap := 1000
  currentPcap := 0
  systemPcap := 2000
  maxPcap := 2000
  pwrSys := 50
  pwrProc := 20
  modeNominal := true
  nominalMemPwr := 30
  turboMemPwr := 30
  pcap1MemPwr := 20
  ppbFmax := 2000
  fmin := 2000
  freqMinFrequency := 2000
  freqNominal := 3000
  firstProcGpuConfig := 1
  firstNumGpusSys := 1
  totalNonGpuMaxPwrWatts := 500
  totalProcMemPwrDropWatts := 100
  psr := 100
  gpu := fun i => ⟨i = 0, i = 0, 100000, 900000⟩

theorem gpuCapLaw_of_gpuOk_first : GpuCapLaw gpuEnv (Sized.boot.tick gpuEnv).state.gpu := by
  apply gpuCapLaw_of_gpuOk (.nil _)
  refine ⟨fun _ => rfl, fun _ => by decide, fun _ => .inl (by decide), fun _ hno => ?_⟩
  exact absurd (by decide) hno

/-- With a PSR of 50 percent the GPU gets none of the dropped power. -/
theorem psr_half_lost : ¬GpuCapLaw { gpuEnv with psr := 50 } (Sized.boot.tick { gpuEnv with psr := 50 }).state.gpu := by
  intro h
  have hcap := h (by decide) 0 rfl rfl
  exact absurd hcap (by decide)

end Occ.Amec.Pcap
