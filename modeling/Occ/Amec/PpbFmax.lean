/-
The performance preserving bound (`amec_ppb_fmax_calc` of `amec_pcap.c`): the frequency limit of the node that its
master lowers while the power is at the cap or above, and raises slowly while there is power to spare.
-/
import Occ.Lib.Transition
import Mathlib.Tactic.Linarith

namespace Occ.Amec.Ppb

open Occ Transition

/-! ## The code -/

/-- `PDROP_THRESH`, in watts. -/
def pdropThresh : Int := 10

/-- `PROC_MHZ_PER_WATT` -/
def procMhzPerWatt : Nat := 7

/-- What stays during a run: the minimum frequency of the modes, `G_proc_fmax_mhz`, and the step of the OPPB. -/
structure Config where
  fmin : BitVec 16
  procFmaxMhz : BitVec 16
  frequencyStepKhz : BitVec 32
deriving DecidableEq, Repr

/-- `G_mhz_per_pstate`, as `read_oppb_params` sets it. -/
def Config.mhzPerPstate (cfg : Config) : BitVec 32 := cfg.frequencyStepKhz / 1000

/-- What a tick reads: whether the OCC is the master, the processors present, the active cap of the node and the sample
of PWRSYS. -/
structure Tick where
  master : Bool
  sysNumProcPresent : BitVec 8
  activeNodePcap : BitVec 16
  pwrSys : BitVec 16
deriving DecidableEq, Repr

/-- `NODE_MHZ_PER_WATT` -/
def nodeMhzPerWatt (sysNumProcPresent : BitVec 8) : Nat :=
  if sysNumProcPresent = 0 then 1
  else if procMhzPerWatt / sysNumProcPresent.toNat = 0 then 1
  else procMhzPerWatt / sysNumProcPresent.toNat

/-- `l_power_avail` -/
def Tick.powerAvail (tick : Tick) : Int := tick.activeNodePcap.toNat - tick.pwrSys.toNat

/-- `l_drop`, before it is made a step at least. -/
def Tick.drop (tick : Tick) : BitVec 32 := BitVec.ofInt 32 (nodeMhzPerWatt tick.sysNumProcPresent * -tick.powerAvail)

/-- `amec_ppb_fmax_calc`, on `master_ppb_fmax`. -/
def amecPpbFmaxCalc (cfg : Config) (masterPpbFmax : BitVec 32) (tick : Tick) : BitVec 32 :=
  if tick.master then
    let ppbFmax :=
      if tick.powerAvail ≤ 0 then
        let drop := if tick.drop < cfg.mhzPerPstate then cfg.mhzPerPstate else tick.drop
        if drop < masterPpbFmax then masterPpbFmax - drop else cfg.fmin.setWidth 32
      else if tick.powerAvail > pdropThresh then masterPpbFmax + cfg.mhzPerPstate
      else masterPpbFmax
    let ppbFmax := if ppbFmax > cfg.procFmaxMhz.setWidth 32 then cfg.procFmaxMhz.setWidth 32 else ppbFmax
    if ppbFmax < cfg.fmin.setWidth 32 then cfg.fmin.setWidth 32 else ppbFmax
  else masterPpbFmax

/-! ## The walk on integers -/

/-- The megahertz to give up for the power above the cap, at least those of a pstate. -/
def Config.excess (cfg : Config) (tick : Tick) : Int :=
  max (nodeMhzPerWatt tick.sysNumProcPresent * -tick.powerAvail) cfg.mhzPerPstate.toNat

/-- The limit before it is clamped. -/
def Config.moved (cfg : Config) (tick : Tick) (limit : Int) : Int :=
  if tick.powerAvail ≤ 0 then if cfg.excess tick < limit then limit - cfg.excess tick else cfg.fmin.toNat
  else if pdropThresh < tick.powerAvail then limit + cfg.mhzPerPstate.toNat
  else limit

/-- A tick without any bound on the numbers. -/
def Config.walk (cfg : Config) (tick : Tick) (limit : Int) : Int :=
  if tick.master then max (cfg.fmin.toNat : Int) (min (cfg.procFmaxMhz.toNat : Int) (cfg.moved tick limit)) else limit

/-- `master_ppb_fmax` lies within the limits. -/
def Config.Within (cfg : Config) (ppbFmax : BitVec 32) : Prop :=
  cfg.fmin.toNat ≤ ppbFmax.toNat ∧ ppbFmax.toNat ≤ cfg.procFmaxMhz.toNat

instance (cfg : Config) (ppbFmax : BitVec 32) : Decidable (cfg.Within ppbFmax) :=
  inferInstanceAs (Decidable (_ ∧ _))

/-- A tick from one limit to the next: `exact` and `fits` say that no operation of it wraps, and that the limit is not cut
by the 16 bits that it is sent in. -/
structure Law (cfg : Config) (tick : Tick) (s t : BitVec 32) : Prop where
  within : cfg.Within t
  lowered : tick.master = true → tick.activeNodePcap ≤ tick.pwrSys →
    t = cfg.fmin.setWidth 32 ∨ t.toNat + cfg.mhzPerPstate.toNat ≤ s.toNat
  raised : s < t → t.toNat ≤ s.toNat + cfg.mhzPerPstate.toNat ∧ pdropThresh < tick.powerAvail
  slave : tick.master = false → t = s
  exact : (t.toNat : Int) = cfg.walk tick s.toNat
  fits : (t.setWidth 16).toNat = t.toNat

/-! ## One tick -/

section Tick

variable {cfg : Config} {tick : Tick} {s : BitVec 32}

theorem nodeMhzPerWatt_le (procs : BitVec 8) : nodeMhzPerWatt procs ≤ procMhzPerWatt := by
  unfold nodeMhzPerWatt
  split_ifs
  · decide
  · decide
  · exact Nat.div_le_self _ _

theorem mhzPerPstate_lt : cfg.mhzPerPstate.toNat < 4294968 := by
  have := cfg.frequencyStepKhz.isLt
  have hdiv : cfg.mhzPerPstate.toNat = cfg.frequencyStepKhz.toNat / 1000 := BitVec.toNat_udiv
  omega

theorem toNat_drop (h : tick.powerAvail ≤ 0) :
    (tick.drop.toNat : Int) = nodeMhzPerWatt tick.sysNumProcPresent * -tick.powerAvail := by
  have hcap := tick.activeNodePcap.isLt
  have hpwr := tick.pwrSys.isLt
  have hle := nodeMhzPerWatt_le tick.sysNumProcPresent
  obtain ⟨watts, hwatts⟩ : ∃ watts : Nat, -tick.powerAvail = watts := ⟨(-tick.powerAvail).toNat, by omega⟩
  have hbound : watts < 65536 := by
    unfold Tick.powerAvail at hwatts
    omega
  have hprod : nodeMhzPerWatt tick.sysNumProcPresent * watts ≤ 7 * 65536 := Nat.mul_le_mul hle hbound.le
  rw [Tick.drop, hwatts, ← Nat.cast_mul, BitVec.ofInt_natCast, BitVec.toNat_ofNat, Nat.mod_eq_of_lt (by omega)]

theorem toNat_excess (h : tick.powerAvail ≤ 0) :
    ((if tick.drop < cfg.mhzPerPstate then cfg.mhzPerPstate else tick.drop).toNat : Int) = cfg.excess tick := by
  have hdrop := toNat_drop h
  rw [Config.excess, ← hdrop]
  split
  case isTrue hlt =>
    have : tick.drop.toNat < cfg.mhzPerPstate.toNat := hlt
    omega
  case isFalse hlt =>
    have : ¬tick.drop.toNat < cfg.mhzPerPstate.toNat := hlt
    omega

theorem toNat_clamp (low high ppbFmax : BitVec 32) :
    ((if (if ppbFmax > high then high else ppbFmax) < low then low else if ppbFmax > high then high else ppbFmax).toNat) =
      max low.toNat (min high.toNat ppbFmax.toNat) := by
  have hhigh : (if ppbFmax > high then high else ppbFmax).toNat = min high.toNat ppbFmax.toNat := by
    split
    case isTrue h =>
      have : high.toNat < ppbFmax.toNat := h
      omega
    case isFalse h =>
      have : ¬high.toNat < ppbFmax.toNat := h
      omega
  rw [← hhigh]
  generalize (if ppbFmax > high then high else ppbFmax) = limit
  split
  case isTrue h =>
    have : limit.toNat < low.toNat := h
    omega
  case isFalse h =>
    have : ¬limit.toNat < low.toNat := h
    omega

/-- A tick from a limit that fits in 16 bits computes on words what the walk does on integers. -/
theorem calc_eq_walk (hs : s.toNat < 65536) :
    ((amecPpbFmaxCalc cfg s tick).toNat : Int) = cfg.walk tick s.toNat := by
  have hstep := @mhzPerPstate_lt cfg
  have hlow : (cfg.fmin.setWidth 32).toNat = cfg.fmin.toNat := BitVec.toNat_setWidth_of_le (by decide)
  have hhigh : (cfg.procFmaxMhz.setWidth 32).toNat = cfg.procFmaxMhz.toNat := BitVec.toNat_setWidth_of_le (by decide)
  unfold amecPpbFmaxCalc Config.walk
  rcases hm : tick.master with _ | _
  · rfl
  simp only [if_true, toNat_clamp, hlow, hhigh, Nat.cast_max, Nat.cast_min]
  congr 2
  unfold Config.moved
  by_cases havail : tick.powerAvail ≤ 0
  · rw [if_pos havail, if_pos havail, ← toNat_excess havail]
    generalize (if tick.drop < cfg.mhzPerPstate then cfg.mhzPerPstate else tick.drop) = drop
    by_cases hlt : drop < s
    · have hlt' : drop.toNat < s.toNat := hlt
      rw [if_pos hlt, if_pos (by exact_mod_cast hlt'), BitVec.toNat_sub_of_le hlt'.le]
      omega
    · have hlt' : ¬drop.toNat < s.toNat := hlt
      rw [if_neg hlt, if_neg (by exact_mod_cast hlt'), hlow]
  · rw [if_neg havail, if_neg havail]
    by_cases hspare : pdropThresh < tick.powerAvail
    · rw [if_pos hspare, if_pos hspare, BitVec.toNat_add, Nat.mod_eq_of_lt (by omega), Nat.cast_add]
    · rw [if_neg hspare, if_neg hspare]

theorem walk_within {limit : Int} (hlow : cfg.fmin.toNat ≤ limit) (hhigh : limit ≤ cfg.procFmaxMhz.toNat) :
    cfg.fmin.toNat ≤ cfg.walk tick limit ∧ cfg.walk tick limit ≤ cfg.procFmaxMhz.toNat := by
  unfold Config.walk
  split <;> constructor <;> omega

theorem step_le_excess : (cfg.mhzPerPstate.toNat : Int) ≤ cfg.excess tick := le_max_right _ _

theorem walk_lowered {limit : Int} (hmaster : tick.master = true) (havail : tick.powerAvail ≤ 0)
    (hlow : cfg.fmin.toNat ≤ limit) (hhigh : limit ≤ cfg.procFmaxMhz.toNat) :
    cfg.walk tick limit = cfg.fmin.toNat ∨ cfg.walk tick limit + cfg.mhzPerPstate.toNat ≤ limit := by
  have hstep := @step_le_excess cfg tick
  rw [Config.walk, if_pos hmaster, Config.moved, if_pos havail]
  split <;> omega

theorem walk_raised {limit : Int} (hlow : cfg.fmin.toNat ≤ limit) (hraised : limit < cfg.walk tick limit) :
    cfg.walk tick limit ≤ limit + cfg.mhzPerPstate.toNat ∧ pdropThresh < tick.powerAvail := by
  have hstep := @step_le_excess cfg tick
  unfold Config.walk at hraised ⊢
  split at hraised
  case isFalse => omega
  case isTrue hmaster =>
    rw [if_pos hmaster]
    unfold Config.moved at hraised ⊢
    split at hraised
    case isTrue havail =>
      split at hraised <;> omega
    case isFalse havail =>
      rw [if_neg havail]
      split at hraised
      case isTrue hspare =>
        rw [if_pos hspare]
        constructor <;> omega
      case isFalse hspare => omega

/-- One tick keeps the law. -/
theorem law_calc (hs : cfg.Within s) : Law cfg tick s (amecPpbFmaxCalc cfg s tick) := by
  obtain ⟨hlow, hhigh⟩ := hs
  have hsize := cfg.procFmaxMhz.isLt
  have hexact := @calc_eq_walk cfg tick s (by omega)
  obtain ⟨hlow', hhigh'⟩ := @walk_within cfg tick s.toNat (by exact_mod_cast hlow) (by exact_mod_cast hhigh)
  rw [← hexact] at hlow' hhigh'
  constructor
  case within => exact ⟨by exact_mod_cast hlow', by exact_mod_cast hhigh'⟩
  case lowered =>
    intro hmaster hcap
    have hcap' : tick.activeNodePcap.toNat ≤ tick.pwrSys.toNat := hcap
    have havail : tick.powerAvail ≤ 0 := by
      unfold Tick.powerAvail
      omega
    have hwalk := @walk_lowered cfg tick s.toNat hmaster havail (by exact_mod_cast hlow) (by exact_mod_cast hhigh)
    rw [← hexact] at hwalk
    rcases hwalk with hmin | hless
    · left
      apply BitVec.eq_of_toNat_eq
      rw [BitVec.toNat_setWidth_of_le (by decide)]
      exact_mod_cast hmin
    · right
      exact_mod_cast hless
  case raised =>
    intro hraised
    have hraised' : s.toNat < (amecPpbFmaxCalc cfg s tick).toNat := hraised
    have hwalk := @walk_raised cfg tick s.toNat (by exact_mod_cast hlow) (by omega)
    rw [← hexact] at hwalk
    exact ⟨by exact_mod_cast hwalk.1, hwalk.2⟩
  case slave =>
    intro hslave
    rw [amecPpbFmaxCalc, hslave]
    rfl
  case exact => exact hexact
  case fits =>
    rw [BitVec.toNat_setWidth, Nat.mod_eq_of_lt (by omega)]

end Tick

/-! ## Runs of ticks -/

/-- A tick as a step of a run. -/
def Step (cfg : Config) (s : BitVec 32) (tick : Tick) (t : BitVec 32) : Prop := t = amecPpbFmaxCalc cfg s tick

theorem run_within {cfg : Config} {s t : BitVec 32} {ticks : List Tick} (hrun : Run (Step cfg) s ticks t)
    (hs : cfg.Within s) : cfg.Within t := by
  apply hrun.invariant _ hs
  rintro u tick _ hu rfl
  exact (law_calc hu).within

/-- Every tick of every run that starts within the limits keeps the law. -/
theorem walk_law {cfg : Config} {s t u : BitVec 32} {ticks : List Tick} {tick : Tick} (hs : cfg.Within s)
    (hrun : Run (Step cfg) s ticks t) (hstep : Step cfg t tick u) : Law cfg tick t u := by
  obtain rfl := hstep
  exact law_calc (run_within hrun hs)

/-! ## A node at its cap -/

/-- Limits of 2000 MHz and 4000 MHz with a step of 16.667 MHz. -/
def plainConfig : Config := ⟨2000, 4000, 16667⟩

/-- Four processors, a cap of 1000 W, and 1000 W in use. -/
def Tick.atCap (master : Bool) : Tick := ⟨master, 4, 1000, 1000⟩

/-- A master at its cap drops a step from 3000 MHz, and another at the next tick. -/
theorem walk_law_atCap : Law plainConfig (.atCap true) 2984 2968 :=
  @walk_law plainConfig 3000 2984 2968 [.atCap true] (.atCap true) (by decide) (Run.single (by rfl)) (by rfl)

/-- An OCC that is not the master does not drop, although the node is at its cap. -/
theorem slave_not_lowered : (Tick.atCap false).activeNodePcap ≤ (Tick.atCap false).pwrSys ∧ plainConfig.Within 3000 ∧
    amecPpbFmaxCalc plainConfig 3000 (.atCap false) = 3000 ∧
    ¬(3000 = plainConfig.fmin.toNat ∨ 3000 + plainConfig.mhzPerPstate.toNat ≤ 3000) := by
  decide

end Occ.Amec.Ppb
