/-
Throttled memory: over every run of ticks in which no tick with too little available power leaves an earlier one
counted, memory is un-throttled after enough ticks in a row, and throttled only when the frequency is at its
minimum.
-/
import Occ.Amec.PowerCap

namespace Occ.Amec.Pcap

open Occ Transition

/-! ## The law -/

/-- The available power covers the difference between the memory power of the mode and that of the cap. -/
def Env.Covers (env : Env) : Prop :=
  ((if env.modeNominal then env.nominalMemPwr else env.turboMemPwr).toNat : Int) - env.pcap1MemPwr.toNat ≤ env.availPower

instance (env : Env) : Decidable env.Covers := inferInstanceAs (Decidable (_ ≤ _))

/-- The state, and in how many of the last ticks in a row the available power covered the difference. -/
structure Watched where
  state : State
  covered : Nat

def Watched.boot : Watched := ⟨.boot, 0⟩

def Watched.tick (w : Watched) (env : Env) : Watched :=
  ⟨w.state.amecPcapCalc env, if env.Covers then w.covered + 1 else 0⟩

/-- Memory is un-throttled after ticks in a row that cover the difference, throttled when the frequency cannot be
lowered any more, and else keeps its level. -/
def MemLevelLaw (w : Watched) (env : Env) : Prop :=
  (w.state.activeMemLevel ≠ 0 ∧ (w.tick env).state.activeMemLevel = 0 ∧
    unthrottleMemoryDelay.toNat ≤ (w.tick env).covered) ∨
  (w.state.activeMemLevel = 0 ∧ (w.tick env).state.activeMemLevel = 1 ∧ env.ppbFmax = env.fmin ∧ env.availPower < 0) ∨
  (w.tick env).state.activeMemLevel = w.state.activeMemLevel

/-- A tick of throttled memory with an earlier one counted covers the difference too, or starts the count over. -/
def MemOk (w : Watched) (env : Env) : Prop :=
  w.state.activeMemLevel ≠ 0 → w.state.ticksMemPwrAvailable ≠ 0 →
    env.Covers ∨ env.availPower < 0

/-! ## One tick -/

section Tick

variable (s : State) (env : Env)

theorem procCap_frame (avail : Int) : (s.procCap env avail).activeMemLevel = s.activeMemLevel ∧
    (s.procCap env avail).ticksMemPwrAvailable = s.ticksMemPwrAvailable ∧ (s.procCap env avail).gpu = s.gpu := by
  unfold State.procCap
  split_ifs <;> exact ⟨rfl, rfl, rfl⟩

/-- What a tick does to the level of memory and to the count. -/
inductive MemStep (s : State) (env : Env) (t : State) : Prop
  | unthrottle (hlevel : s.activeMemLevel ≠ 0) (hpower : (env.memPwrDiff.toNat : Int) ≤ env.availPower)
      (hcount : s.ticksMemPwrAvailable + 1 = unthrottleMemoryDelay) (hlevel' : t.activeMemLevel = 0)
      (hcount' : t.ticksMemPwrAvailable = 0)
  | count (hlevel : s.activeMemLevel ≠ 0) (hpower : (env.memPwrDiff.toNat : Int) ≤ env.availPower)
      (hcount : s.ticksMemPwrAvailable + 1 ≠ unthrottleMemoryDelay) (hlevel' : t.activeMemLevel = s.activeMemLevel)
      (hcount' : t.ticksMemPwrAvailable = s.ticksMemPwrAvailable + 1)
  | throttle (hlevel : s.activeMemLevel = 0) (hpower : env.availPower < 0) (hfreq : env.ppbFmax = env.fmin)
      (hlevel' : t.activeMemLevel = 1) (hcount' : t.ticksMemPwrAvailable = 0)
  | restart (hpower : env.availPower < 0) (hlevel' : t.activeMemLevel = s.activeMemLevel)
      (hcount' : t.ticksMemPwrAvailable = 0)
  | stay (hpower : 0 ≤ env.availPower) (hlevel' : t.activeMemLevel = s.activeMemLevel)
      (hcount' : t.ticksMemPwrAvailable = s.ticksMemPwrAvailable)

theorem memStep_memLevel : MemStep s env (s.memLevel env).1 := by
  unfold State.memLevel
  dsimp only
  by_cases hsys : env.pwrSys = 0
  · rw [if_pos hsys]
    refine .stay ?_ rfl rfl
    unfold Env.availPower
    rw [hsys]
    exact Int.sub_nonneg_of_le (Int.natCast_nonneg _)
  rw [if_neg hsys]
  by_cases hmore : 0 < env.availPower ∧ s.activeMemLevel ≠ 0
  · rw [if_pos hmore]
    by_cases hdiff : (env.memPwrDiff.toNat : Int) ≤ env.availPower
    · rw [if_pos hdiff]
      by_cases hcount : s.ticksMemPwrAvailable + 1 = unthrottleMemoryDelay
      · rw [if_pos hcount]
        exact .unthrottle hmore.2 hdiff hcount rfl rfl
      · rw [if_neg hcount]
        exact .count hmore.2 hdiff hcount rfl rfl
    · rw [if_neg hdiff]
      exact .stay (le_of_lt hmore.1) rfl rfl
  rw [if_neg hmore]
  by_cases hless : env.availPower < 0
  · rw [if_pos hless]
    by_cases hmin : s.activeMemLevel = 0 ∧ env.ppbFmax = env.fmin
    · exact .throttle hmin.1 hless hmin.2 (if_pos hmin) rfl
    · exact .restart hless (if_neg hmin) rfl
  · rw [if_neg hless]
    exact .stay (not_lt.1 hless) rfl rfl

theorem memStep_amecPcapCalc : MemStep s env (s.amecPcapCalc env) := by
  have hstep := memStep_memLevel (s.nodeCap env) env
  obtain ⟨hlevel, hcount, -⟩ := procCap_frame ((s.nodeCap env).memLevel env).1 env ((s.nodeCap env).memLevel env).2
  have heq : s.amecPcapCalc env =
      ((s.nodeCap env).memLevel env).1.procCap env ((s.nodeCap env).memLevel env).2 := rfl
  rw [← heq] at hlevel hcount
  cases hstep with
  | unthrottle h₁ h₂ h₃ h₄ h₅ => exact .unthrottle h₁ h₂ h₃ (hlevel.trans h₄) (hcount.trans h₅)
  | count h₁ h₂ h₃ h₄ h₅ => exact .count h₁ h₂ h₃ (hlevel.trans h₄) (hcount.trans h₅)
  | throttle h₁ h₂ h₃ h₄ h₅ => exact .throttle h₁ h₂ h₃ (hlevel.trans h₄) (hcount.trans h₅)
  | restart h₁ h₂ h₃ => exact .restart h₁ (hlevel.trans h₂) (hcount.trans h₃)
  | stay h₁ h₂ h₃ => exact .stay h₁ (hlevel.trans h₂) (hcount.trans h₃)

end Tick

theorem covers_of_memPwrDiff {env : Env} (h : (env.memPwrDiff.toNat : Int) ≤ env.availPower) : env.Covers := by
  unfold Env.memPwrDiff at h
  unfold Env.Covers
  generalize (if env.modeNominal then env.nominalMemPwr else env.turboMemPwr) = m at *
  have hm := m.isLt
  have hp := env.pcap1MemPwr.isLt
  rw [BitVec.toNat_sub] at h
  omega

/-! ## Runs -/

/-- Every tick that is counted was one of the last ones in a row. -/
structure MemInv (w : Watched) : Prop where
  count : w.state.ticksMemPwrAvailable.toNat < 2
  covered : w.state.ticksMemPwrAvailable.toNat ≤ w.covered
  level : w.state.activeMemLevel = 0 → w.state.ticksMemPwrAvailable = 0

theorem memInv_boot : MemInv .boot := ⟨by decide, Nat.le_refl _, fun _ => rfl⟩

section Runs

variable {w : Watched} {env : Env} {es : List Env}

theorem covered_tick (hcovers : env.Covers) : (w.tick env).covered = w.covered + 1 := if_pos hcovers

theorem MemInv.tick (h : MemInv w) (hok : MemOk w env) : MemInv (w.tick env) := by
  obtain ⟨hcount, hcovered, hlevel⟩ := h
  -- a count that stays is of ticks in a row, as this tick covers the difference or nothing is counted
  have hstay : (w.tick env).state.activeMemLevel = w.state.activeMemLevel →
      (w.tick env).state.ticksMemPwrAvailable = w.state.ticksMemPwrAvailable →
      0 ≤ env.availPower → MemInv (w.tick env) := by
    intro hl hc hp
    refine ⟨by rw [hc]; exact hcount, ?_, fun h0 => by rw [hc]; exact hlevel (hl.symm.trans h0)⟩
    rw [hc]
    by_cases hz : w.state.ticksMemPwrAvailable = 0
    · rw [hz]
      exact Nat.zero_le _
    · have hthrottled : w.state.activeMemLevel ≠ 0 := fun h0 => hz (hlevel h0)
      rcases hok hthrottled hz with hcovers | hneg
      · rw [covered_tick hcovers]
        exact Nat.le_succ_of_le hcovered
      · exact absurd hneg (not_lt.2 hp)
  have hzero : (w.tick env).state.ticksMemPwrAvailable = 0 → MemInv (w.tick env) := by
    intro hc
    refine ⟨?_, ?_, fun _ => hc⟩ <;> rw [hc]
    · decide
    · exact Nat.zero_le _
  cases memStep_amecPcapCalc w.state env with
  | unthrottle _ _ _ _ hcount' => exact hzero hcount'
  | throttle _ _ _ _ hcount' => exact hzero hcount'
  | restart _ _ hcount' => exact hzero hcount'
  | stay hp hlevel' hcount' => exact hstay hlevel' hcount' hp
  | count hl hpower hne hlevel' hcount' =>
    have hc : (w.tick env).state.ticksMemPwrAvailable = w.state.ticksMemPwrAvailable + 1 := hcount'
    have hsum : (w.state.ticksMemPwrAvailable + 1).toNat = w.state.ticksMemPwrAvailable.toNat + 1 := by
      rw [BitVec.toNat_add]
      exact Nat.mod_eq_of_lt (by have : (1 : BitVec 32).toNat = 1 := rfl; omega)
    have hlt : w.state.ticksMemPwrAvailable.toNat + 1 ≠ 2 := by
      rw [← hsum]
      exact fun h2 => hne (BitVec.eq_of_toNat_eq h2)
    refine ⟨?_, ?_, fun h0 => absurd (hlevel'.symm.trans h0) hl⟩
    · rw [hc, hsum]
      omega
    · rw [hc, hsum, covered_tick (covers_of_memPwrDiff hpower)]
      exact Nat.succ_le_succ hcovered

def Watched.Step (w : Watched) (env : Env) (w' : Watched) : Prop := w' = w.tick env

theorem memInv_run (h : Run (Guarded MemOk Watched.Step) .boot es w) : MemInv w := by
  apply Run.invariant (P := MemInv) _ h memInv_boot
  rintro w env _ hw ⟨hok, rfl⟩
  exact hw.tick hok

theorem memLevelLaw_of_inv (h : MemInv w) : MemLevelLaw w env := by
  cases memStep_amecPcapCalc w.state env with
  | unthrottle hlevel hpower hcount hlevel' _ =>
    refine .inl ⟨hlevel, hlevel', ?_⟩
    have hone : w.state.ticksMemPwrAvailable.toNat = 1 := by
      have hlt := h.count
      have h2 := congrArg BitVec.toNat hcount
      rw [BitVec.toNat_add] at h2
      have : unthrottleMemoryDelay.toNat = 2 := rfl
      have : (1 : BitVec 32).toNat = 1 := rfl
      omega
    rw [covered_tick (covers_of_memPwrDiff hpower)]
    exact Nat.succ_le_succ (hone.symm.trans_le h.covered)
  | throttle hlevel hpower hfreq hlevel' _ => exact .inr (.inl ⟨hlevel, hlevel', hfreq, hpower⟩)
  | count _ _ _ hlevel' _ => exact .inr (.inr hlevel')
  | restart _ hlevel' _ => exact .inr (.inr hlevel')
  | stay _ hlevel' _ => exact .inr (.inr hlevel')

/-- In every run whose ticks keep the count of ticks in a row, memory changes its level as it should. -/
theorem memLevelLaw_of_memOk (h : Run (Guarded MemOk Watched.Step) .boot es w) (env : Env) : MemLevelLaw w env :=
  memLevelLaw_of_inv (memInv_run h)

/-! ## The condition is exact -/

/-- A node with a cap of 100 W and 10 W of memory power between the throttles. -/
def sampleEnv : Env where
  oversub := false
  ovsNodePcap := 100
  normNodePcap := 100
  currentPcap := 0
  systemPcap := 100
  maxPcap := 100
  pwrSys := 50
  pwrProc := 20
  modeNominal := true
  nominalMemPwr := 30
  turboMemPwr := 30
  pcap1MemPwr := 20
  ppbFmax := 2000
  fmin := 2000
  freqMinFrequency := 2000
  freqNominal := 3000
  firstProcGpuConfig := 0
  firstNumGpusSys := 0
  totalNonGpuMaxPwrWatts := 50
  totalProcMemPwrDropWatts := 30
  psr := 100
  gpu := fun _ => ⟨false, false, 0, 0⟩

theorem unthrottle_sampleEnv (hlevel : w.state.activeMemLevel ≠ 0)
    (hcount : w.state.ticksMemPwrAvailable + 1 = unthrottleMemoryDelay) :
    (w.tick sampleEnv).state.activeMemLevel = 0 := by
  have hmore : 0 < sampleEnv.availPower ∧ (w.state.nodeCap sampleEnv).activeMemLevel ≠ 0 := ⟨by decide, hlevel⟩
  have hlast : (w.state.nodeCap sampleEnv).ticksMemPwrAvailable + 1 = unthrottleMemoryDelay := hcount
  have hmem : ((w.state.nodeCap sampleEnv).memLevel sampleEnv).1.activeMemLevel = 0 := by
    unfold State.memLevel
    dsimp only
    rw [if_neg (by decide : sampleEnv.pwrSys ≠ 0), if_pos hmore, if_pos (by decide), if_pos hlast]
  exact (procCap_frame _ sampleEnv _).1.trans hmem

/-- A tick that does not meet the condition is one after which memory can be un-throttled too early. -/
theorem memOk_iff (h : MemInv w) : MemOk w env ↔ ∀ env', MemLevelLaw (w.tick env) env' := by
  constructor
  · exact fun hok env' => memLevelLaw_of_inv (h.tick hok)
  · intro hlaw hlevel hcount
    by_contra hnot
    obtain ⟨hcovers, hpower⟩ := not_or.1 hnot
    have hcovered : (w.tick env).covered = 0 := if_neg hcovers
    have hkept : (w.tick env).state.activeMemLevel = w.state.activeMemLevel ∧
        (w.tick env).state.ticksMemPwrAvailable = w.state.ticksMemPwrAvailable := by
      cases memStep_amecPcapCalc w.state env with
      | unthrottle _ hdiff _ _ _ => exact absurd (covers_of_memPwrDiff hdiff) hcovers
      | count _ hdiff _ _ _ => exact absurd (covers_of_memPwrDiff hdiff) hcovers
      | throttle _ hneg _ _ _ => exact absurd hneg hpower
      | restart hneg _ _ => exact absurd hneg hpower
      | stay _ hlevel' hcount' => exact ⟨hlevel', hcount'⟩
    have hone : (w.tick env).state.ticksMemPwrAvailable + 1 = unthrottleMemoryDelay := by
      rw [hkept.2]
      have hlt := h.count
      have hne : w.state.ticksMemPwrAvailable.toNat ≠ 0 := fun h0 => hcount (BitVec.eq_of_toNat_eq h0)
      have : w.state.ticksMemPwrAvailable = 1 := BitVec.eq_of_toNat_eq (by
        have : (1 : BitVec 32).toNat = 1 := rfl
        omega)
      rw [this]
      rfl
    have hthrottled : (w.tick env).state.activeMemLevel ≠ 0 := by rw [hkept.1]; exact hlevel
    have hfree := unthrottle_sampleEnv hthrottled hone
    rcases hlaw sampleEnv with ⟨-, -, hlong⟩ | ⟨hzero, -⟩ | hsame
    · rw [covered_tick (by decide : sampleEnv.Covers), hcovered] at hlong
      exact absurd hlong (by decide)
    · exact hthrottled hzero
    · exact hthrottled (hsame.symm.trans hfree)

end Runs

/-- Power 1 W above the cap; 10 W below it; and 5 W below it, which does not cover the difference. -/
def overEnv : Env := { sampleEnv with pwrSys := 101 }
def coverEnv : Env := { sampleEnv with pwrSys := 90 }
def shortEnv : Env := { sampleEnv with pwrSys := 95 }

theorem memLevelLaw_of_memOk_throttled :
    MemLevelLaw ((Watched.boot.tick overEnv).tick coverEnv) coverEnv := by
  have hrun : Run (Guarded MemOk Watched.Step) .boot [overEnv, coverEnv]
      ((Watched.boot.tick overEnv).tick coverEnv) := by
    refine .cons ⟨?_, rfl⟩ (.cons ⟨?_, rfl⟩ (.nil _))
    · exact fun h => absurd rfl h
    · exact fun _ _ => .inl (by decide)
  exact memLevelLaw_of_memOk hrun coverEnv

/-- A tick in between that does not cover the difference does not start the count over. -/
theorem unthrottled_after_gap :
    ¬MemLevelLaw (((Watched.boot.tick overEnv).tick coverEnv).tick shortEnv) coverEnv := by
  unfold MemLevelLaw
  decide

end Occ.Amec.Pcap
