/-
The moving windows of the core group over whole runs: the two accumulators of every core are the sums of its last samples, as
long as no sample falls out of the buffer before it is as old as the sample count, and no counter wraps between two ticks.
-/
import Occ.Amec.Dps
import Occ.Lib.Transition
import Occ.Lib.Literals

namespace Occ.Amec.Dps

open Occ.MovingSum Transition

attribute [local instance] neZero_twentyFour

/-! ## One window -/

/-- The number of samples that the window really has. -/
def window (sampleCount : BitVec 16) : Nat := (sampleCount.toNat + 63) % 64 + 1

/-- The sum of the last samples of a history. -/
def lastSum (n : Nat) (samples : List (BitVec 8)) : Nat := recent n (samples.map BitVec.toNat)

/-- A window keeps a history from its put pointer on. -/
structure Keeps (m put : Nat) (w : UtilWindow) (samples : List (BitVec 8)) : Prop where
  buffer : Holds 64 0 w.avgBuffer put samples
  sum : w.accumulator.toNat = lastSum m samples

section
variable {w : UtilWindow} {samples : List (BitVec 8)} {m n put : Nat} {x : BitVec 8}

theorem getD_map_toNat (k : Nat) : (samples.map BitVec.toNat).getD k 0 = (samples.getD k 0).toNat :=
  List.getD_map samples 0 BitVec.toNat

theorem lastSum_cons (hm : 0 < m) :
    lastSum m (x :: samples) + (samples.getD (m - 1) 0).toNat = lastSum m samples + x.toNat := by
  have h := @recent_cons (samples.map BitVec.toNat) x.toNat m hm
  rw [getD_map_toNat] at h
  exact h

theorem lastSum_eq_iff (hmn : m ≤ n) :
    lastSum m samples = lastSum n samples ↔ ∀ k, m ≤ k → k < n → samples.getD k 0 = 0 := by
  unfold lastSum
  rw [recent_eq_iff hmn]
  refine forall_congr' fun k => forall_congr' fun _ => forall_congr' fun _ => ?_
  rw [getD_map_toNat]
  exact BitVec.toNat_inj (y := 0)

theorem lastSum_le : lastSum m samples ≤ m * 255 := by
  refine recent_le ?_
  rintro x hx
  obtain ⟨b, -, rfl⟩ := List.mem_map.1 hx
  have := b.isLt
  omega

theorem toNat_getD_le (hm : 0 < m) : (samples.getD (m - 1) 0).toNat ≤ lastSum m samples := by
  rw [← getD_map_toNat]
  exact getD_le_recent (by omega)

theorem Keeps.zero : Keeps m put .zero [] where
  buffer := Holds.empty fun _ _ => rfl
  sum := by
    unfold lastSum recent
    rw [List.map_nil, List.take_nil]
    rfl

/-- A tick takes the counter in and the oldest sample of the window out. -/
theorem Keeps.update (h : Keeps m put w samples) (hm : 0 < m) (hmax : m ≤ 64) {oldest : Nat}
    (holdest : oldest = (put + (m - 1)) % 64) :
    Keeps m (pred 64 put) (w.updateUtil (pred 64 put) oldest) (w.coreCounter :: samples) where
  buffer := h.buffer.push (by decide)
  sum := by
    have hread : w.avgBuffer oldest = samples.getD (m - 1) 0 := by
      rw [holdest]
      exact h.buffer (m - 1) (by omega)
    have hcons := @lastSum_cons samples m w.coreCounter hm
    have hpart := @toNat_getD_le samples m hm
    have hbound := @lastSum_le samples m
    have hcounter := w.coreCounter.isLt
    have hold := (samples.getD (m - 1) 0).isLt
    have hsum := h.sum
    unfold UtilWindow.updateUtil
    dsimp only
    rw [hread, BitVec.toNat_add, BitVec.toNat_sub, BitVec.toNat_setWidth, BitVec.toNat_setWidth, hsum]
    generalize lastSum m samples = total at *
    generalize lastSum m (w.coreCounter :: samples) = total' at *
    generalize (samples.getD (m - 1) 0).toNat = old at *
    have hmul : m * 255 ≤ 64 * 255 := Nat.mul_le_mul_right 255 hmax
    omega

end

/-! ## A core -/

theorem toNat_and_63 (x : BitVec 16) : (x &&& 63).toNat = x.toNat % 64 := by
  rw [BitVec.toNat_and]
  exact Nat.and_two_pow_sub_one_eq_mod x.toNat 6

section
variable {c : CorePerf}

theorem toNat_nextPut (h : c.ptrPutUtilslack.toNat < 64) : c.nextPut.toNat = pred 64 c.ptrPutUtilslack.toNat := by
  have hone : (1 : BitVec 16).toNat = 1 := rfl
  have hmax : twoToThePowerOfFifteen.toNat = 32768 := rfl
  unfold CorePerf.nextPut pred
  dsimp only
  by_cases hwrap : twoToThePowerOfFifteen < c.ptrPutUtilslack - 1
  · rw [if_pos hwrap, toNat_and_63, BitVec.toNat_sub, hone]
    omega
  · rw [if_neg hwrap]
    have hle : (c.ptrPutUtilslack - 1).toNat ≤ twoToThePowerOfFifteen.toNat := Nat.not_lt.1 hwrap
    rw [BitVec.toNat_sub, hone] at hle ⊢
    omega

theorem window_pos (n : BitVec 16) : 0 < window n := Nat.succ_pos _

theorem window_le (n : BitVec 16) : window n ≤ 64 := Nat.mod_lt _ (by decide)

theorem window_eq {n : BitVec 16} (hpos : 0 < n.toNat) (h : n.toNat ≤ 64) : window n = n.toNat := by
  unfold window
  omega

theorem oldest_eq (h : c.ptrPutUtilslack.toNat < 64) (n : BitVec 16) :
    c.oldest n = (c.ptrPutUtilslack.toNat + (window n - 1)) % 64 := by
  have hlt := n.isLt
  unfold CorePerf.oldest window
  rw [toNat_and_63, BitVec.toNat_add, toNat_nextPut h]
  unfold pred
  omega

end

/-- A core keeps a history of its slack and active samples, each slack sample at most the active one. -/
structure CoreKeeps (m : Nat) (c : CorePerf) (samples : List (BitVec 8 × BitVec 8)) : Prop where
  put : c.ptrPutUtilslack.toNat < 64
  slack : Keeps m c.ptrPutUtilslack.toNat c.slack (samples.map Prod.fst)
  active : Keeps m c.ptrPutUtilslack.toNat c.active (samples.map Prod.snd)
  samples_le : ∀ p ∈ samples, p.1 ≤ p.2
  counters_le : c.slack.coreCounter ≤ c.active.coreCounter

section
variable {c : CorePerf} {samples : List (BitVec 8 × BitVec 8)} {m : Nat} {n : BitVec 16}

theorem CoreKeeps.zero : CoreKeeps m .zero [] :=
  ⟨by decide, Keeps.zero, Keeps.zero, nofun, BitVec.le_refl 0⟩

theorem CoreKeeps.update (h : CoreKeeps (window n) c samples) :
    CoreKeeps (window n) (c.updateUtil n) ((c.slack.coreCounter, c.active.coreCounter) :: samples) := by
  have hput := toNat_nextPut h.put
  have holdest := oldest_eq h.put n
  obtain ⟨hlt, hslack, hactive, hsamples, hcounters⟩ := h
  constructor
  · show c.nextPut.toNat < 64
    rw [hput]
    exact pred_lt (by decide)
  · show Keeps _ c.nextPut.toNat (c.slack.updateUtil c.nextPut.toNat _) _
    rw [hput]
    exact hslack.update (window_pos n) (window_le n) holdest
  · show Keeps _ c.nextPut.toNat (c.active.updateUtil c.nextPut.toNat _) _
    rw [hput]
    exact hactive.update (window_pos n) (window_le n) holdest
  · rintro p hp
    obtain rfl | hp := List.mem_cons.1 hp
    · exact hcounters
    · exact hsamples p hp
  · exact BitVec.le_refl 0

/-- A reading in which the core is active. -/
def Counts (alg : Dcom.DpsAlg) (utilization : BitVec 16) : Prop :=
  (alg.tlutil.toNat : Int) - alg.epsilonPerc.toNat < utilization.toNat

instance (alg : Dcom.DpsAlg) (utilization : BitVec 16) : Decidable (Counts alg utilization) :=
  inferInstanceAs (Decidable (_ < _))

/-- A reading counts one more slack sample only with one more active sample. -/
theorem CoreKeeps.calc (h : CoreKeeps m c samples) (alg : Dcom.DpsAlg) (utilization : BitVec 16)
    (hroom : Counts alg utilization → c.active.coreCounter ≠ 255) :
    CoreKeeps m (c.calcDpsUtilCounters alg utilization) samples := by
  obtain ⟨hlt, hslack, hactive, hsamples, hcounters⟩ := h
  have hnat : c.slack.coreCounter.toNat ≤ c.active.coreCounter.toNat := hcounters
  have hone : (1 : BitVec 8).toNat = 1 := rfl
  unfold CorePerf.calcDpsUtilCounters
  dsimp only
  by_cases hcounts : (alg.tlutil.toNat : Int) - alg.epsilonPerc.toNat < utilization.toNat
  · rw [if_pos hcounts]
    have hbelow : c.active.coreCounter.toNat < 255 := by
      have hlt := c.active.coreCounter.isLt
      have hne : c.active.coreCounter.toNat ≠ 255 := fun heq => hroom hcounts (BitVec.eq_of_toNat_eq heq)
      omega
    have hsucc : (c.active.coreCounter + 1).toNat = c.active.coreCounter.toNat + 1 := by
      rw [BitVec.toNat_add, hone]
      omega
    split_ifs
    · refine ⟨hlt, ⟨hslack.buffer, hslack.sum⟩, ⟨hactive.buffer, hactive.sum⟩, hsamples, ?_⟩
      show (c.slack.coreCounter + 1).toNat ≤ (c.active.coreCounter + 1).toNat
      rw [hsucc, BitVec.toNat_add, hone]
      omega
    · refine ⟨hlt, hslack, ⟨hactive.buffer, hactive.sum⟩, hsamples, ?_⟩
      show c.slack.coreCounter.toNat ≤ (c.active.coreCounter + 1).toNat
      omega
  · rw [if_neg hcounts]
    exact ⟨hlt, hslack, hactive, hsamples, hcounters⟩

end

/-! ## The law -/

/-- The slack and active samples of every core since its windows were last reset, the newest first. -/
abbrev Samples := DpsCore → List (BitVec 8 × BitVec 8)

def historyStep (s : DpsState) (h : Samples) : DpsEvent → Samples
  | .sensors .. => h
  | .update enabled =>
    if s.noUpdateFlag then h
    else fun i => if enabled i then ((s.cores i).slack.coreCounter, (s.cores i).active.coreCounter) :: h i else h i
  | .overwrite .. => fun _ => []
  | .policy mode _ => if mode = .dynPowerSave ∨ mode = .dynPowerSaveFp then fun _ => [] else h

/-- A step of the windows with their samples. -/
def dpsStep (t : DpsState × Samples) (e : DpsEvent) : Option (DpsState × Samples) :=
  some (t.1.step e, historyStep t.1 t.2 e)

/-- The accumulators are the sums of the last samples, as many as the sample count says. -/
structure WindowLaw (s : DpsState) (h : Samples) : Prop where
  slack : ∀ i, (s.cores i).slack.accumulator.toNat = lastSum s.dpsalg.sampleCountUtil.toNat ((h i).map Prod.fst)
  active : ∀ i, (s.cores i).active.accumulator.toNat = lastSum s.dpsalg.sampleCountUtil.toNat ((h i).map Prod.snd)
  noUnderflow : ∀ i,
    ((s.cores i).slack.avgBuffer ((s.cores i).oldest s.dpsalg.sampleCountUtil)).toNat ≤ (s.cores i).slack.accumulator.toNat ∧
      ((s.cores i).active.avgBuffer ((s.cores i).oldest s.dpsalg.sampleCountUtil)).toNat ≤
        (s.cores i).active.accumulator.toNat
  slack_le : ∀ i, (s.cores i).slack.accumulator ≤ (s.cores i).active.accumulator

/-- The sample that an update takes off is as old as the sample count says, or it is 0. -/
def TakesOff (n : BitVec 16) (c : CorePerf) : Prop :=
  n.toNat ≤ 64 ∨ c.slack.avgBuffer (c.oldest n) = 0 ∧ c.active.avgBuffer (c.oldest n) = 0

instance (n : BitVec 16) (c : CorePerf) : Decidable (TakesOff n c) := inferInstanceAs (Decidable (_ ∨ _))

/-- No counter wraps, no sample is taken off early, and the sample counts are those that the tunable table admits. -/
def StepOk (s : DpsState) : DpsEvent → Prop
  | .sensors core utilization => Counts s.dpsalg utilization → (s.cores core).active.coreCounter ≠ 255
  | .update enabled => ∀ i, enabled i = true → TakesOff s.dpsalg.sampleCountUtil (s.cores i)
  | .overwrite p _ => 1 ≤ p.sampleCountUtil.toNat ∧ p.sampleCountUtil.toNat ≤ 1024
  | .policy .. => True

instance (s : DpsState) : (e : DpsEvent) → Decidable (StepOk s e)
  | .sensors core utilization =>
    inferInstanceAs (Decidable (Counts s.dpsalg utilization → (s.cores core).active.coreCounter ≠ 255))
  | .update enabled => inferInstanceAs (Decidable (∀ i, enabled i = true → TakesOff s.dpsalg.sampleCountUtil (s.cores i)))
  | .overwrite p _ => inferInstanceAs (Decidable (1 ≤ p.sampleCountUtil.toNat ∧ p.sampleCountUtil.toNat ≤ 1024))
  | .policy .. => isTrue trivial

/-- What the states of a run have: every core keeps its samples, and those too old for the buffer are 0. -/
structure WindowInv (s : DpsState) (h : Samples) : Prop where
  count_pos : 0 < s.dpsalg.sampleCountUtil.toNat
  keeps : ∀ i, CoreKeeps (window s.dpsalg.sampleCountUtil) (s.cores i) (h i)
  old : s.dpsalg.sampleCountUtil.toNat ≤ 64 ∨
    ∀ i k, window s.dpsalg.sampleCountUtil ≤ k → (h i).getD k (0, 0) = (0, 0)

section
variable {s : DpsState} {h : Samples}

theorem WindowInv.zero (hpos : 0 < s.dpsalg.sampleCountUtil.toNat) : WindowInv s.resetPerf fun _ => [] where
  count_pos := hpos
  keeps _ := .zero
  old := .inr fun _ _ _ => rfl

theorem getD_map_fst (samples : List (BitVec 8 × BitVec 8)) (k : Nat) :
    (samples.map Prod.fst).getD k 0 = (samples.getD k (0, 0)).1 := List.getD_map samples (0, 0) Prod.fst

theorem getD_map_snd (samples : List (BitVec 8 × BitVec 8)) (k : Nat) :
    (samples.map Prod.snd).getD k 0 = (samples.getD k (0, 0)).2 := List.getD_map samples (0, 0) Prod.snd

theorem CoreKeeps.oldest_sample {c : CorePerf} {samples : List (BitVec 8 × BitVec 8)} {n : BitVec 16}
    (hc : CoreKeeps (window n) c samples) :
    (c.slack.avgBuffer (c.oldest n), c.active.avgBuffer (c.oldest n)) = samples.getD (window n - 1) (0, 0) := by
  have hlt : window n - 1 < 64 := by
    have := window_le n
    have := window_pos n
    omega
  rw [oldest_eq hc.put n]
  refine Prod.ext ?_ ?_
  · exact (hc.slack.buffer _ hlt).trans (getD_map_fst samples _)
  · exact (hc.active.buffer _ hlt).trans (getD_map_snd samples _)

theorem WindowInv.lastSum_eq (hinv : WindowInv s h) (i : DpsCore) :
    lastSum (window s.dpsalg.sampleCountUtil) ((h i).map Prod.fst) =
        lastSum s.dpsalg.sampleCountUtil.toNat ((h i).map Prod.fst) ∧
      lastSum (window s.dpsalg.sampleCountUtil) ((h i).map Prod.snd) =
        lastSum s.dpsalg.sampleCountUtil.toNat ((h i).map Prod.snd) := by
  obtain ⟨hpos, -, hfits | hold⟩ := hinv
  · rw [window_eq hpos hfits]
    exact ⟨rfl, rfl⟩
  · have hle : window s.dpsalg.sampleCountUtil ≤ s.dpsalg.sampleCountUtil.toNat := by
      unfold window
      omega
    constructor
    · refine (lastSum_eq_iff hle).2 fun k hk _ => ?_
      rw [getD_map_fst, hold i k hk]
    · refine (lastSum_eq_iff hle).2 fun k hk _ => ?_
      rw [getD_map_snd, hold i k hk]

theorem WindowInv.law (hinv : WindowInv s h) : WindowLaw s h where
  slack i := (hinv.keeps i).slack.sum.trans (hinv.lastSum_eq i).1
  active i := (hinv.keeps i).active.sum.trans (hinv.lastSum_eq i).2
  noUnderflow i := by
    have hc := hinv.keeps i
    have holdest := hc.oldest_sample
    obtain ⟨hslack, hactive⟩ := Prod.mk.inj (holdest.trans Prod.mk.eta.symm)
    rw [hc.slack.sum, hc.active.sum, hslack, hactive, ← getD_map_fst, ← getD_map_snd]
    exact ⟨toNat_getD_le (window_pos _), toNat_getD_le (window_pos _)⟩
  slack_le i := by
    have hc := hinv.keeps i
    show (s.cores i).slack.accumulator.toNat ≤ (s.cores i).active.accumulator.toNat
    rw [hc.slack.sum, hc.active.sum]
    refine recent_mono ?_
    rw [List.map_map, List.map_map, List.forall₂_map_left_iff, List.forall₂_map_right_iff, List.forall₂_same]
    exact hc.samples_le

theorem WindowInv.update (hinv : WindowInv s h) (enabled : DpsCore → Bool) (hok : StepOk s (.update enabled)) :
    WindowInv (s.step (.update enabled)) (historyStep s h (.update enabled)) := by
  obtain ⟨hpos, hkeeps, hold⟩ := hinv
  unfold DpsState.step DpsState.amecDpsUpdateCoreUtil historyStep
  dsimp only
  by_cases hflag : s.noUpdateFlag = true
  · rw [if_pos hflag, if_pos hflag]
    exact ⟨hpos, hkeeps, hold⟩
  rw [if_neg hflag, if_neg hflag]
  refine ⟨hpos, fun i => ?_, ?_⟩
  · show CoreKeeps _ (if enabled i = true then _ else _) (if enabled i = true then _ else _)
    by_cases hi : enabled i = true
    · rw [if_pos hi, if_pos hi]
      exact (hkeeps i).update
    · rw [if_neg hi, if_neg hi]
      exact hkeeps i
  · obtain hfits | hold := hold
    · exact .inl hfits
    refine or_iff_not_imp_left.2 fun hlong i k hk => ?_
    have hk : window s.dpsalg.sampleCountUtil ≤ k := hk
    show (if enabled i = true then _ else _ : List (BitVec 8 × BitVec 8)).getD k (0, 0) = (0, 0)
    by_cases hi : enabled i = true
    · rw [if_pos hi]
      have hwindow := window_pos s.dpsalg.sampleCountUtil
      obtain ⟨j, rfl⟩ : ∃ j, k = j + 1 := ⟨k - 1, by omega⟩
      rw [List.getD_cons_succ]
      obtain hedge | hpast : j = window s.dpsalg.sampleCountUtil - 1 ∨ window s.dpsalg.sampleCountUtil ≤ j := by omega
      · -- the sample that has just left the window was 0
        obtain hfits | ⟨hslack, hactive⟩ := hok i hi
        · exact absurd hfits hlong
        · rw [hedge, ← (hkeeps i).oldest_sample, hslack, hactive]
      · exact hold i j hpast
    · rw [if_neg hi]
      exact hold i k hk

theorem WindowInv.sensors (hinv : WindowInv s h) (core : DpsCore) (utilization : BitVec 16)
    (hok : StepOk s (.sensors core utilization)) :
    WindowInv (s.step (.sensors core utilization)) h := by
  refine ⟨hinv.count_pos, fun i => ?_, hinv.old⟩
  show CoreKeeps _ (Function.update s.cores core _ i) (h i)
  by_cases hi : i = core
  · rw [hi, Function.update_self]
    exact (hinv.keeps core).calc s.dpsalg utilization hok
  · rw [Function.update_of_ne hi]
    exact hinv.keeps i

theorem WindowInv.policy (hinv : WindowInv s h) (mode : SysMode) (single : Bool) :
    WindowInv (s.step (.policy mode single)) (historyStep s h (.policy mode single)) := by
  have hreset : ∀ esPolicy, WindowInv (({ s with esPolicy := esPolicy }).amecPartUpdateDpsParameters single).resetPerf
      fun _ => [] := by
    intro esPolicy
    refine .zero ?_
    unfold DpsState.amecPartUpdateDpsParameters
    split_ifs
    · exact hinv.count_pos
    · show 0 < (favorPerformance single).sampleCountUtil.toNat
      exact Nat.one_pos
    · show 0 < (favorEnergy 41).sampleCountUtil.toNat
      decide
  have hkept : ∀ esPolicy, WindowInv { s with esPolicy := esPolicy } h := fun _ => ⟨hinv.count_pos, hinv.keeps, hinv.old⟩
  cases mode with
  | nominal => exact hkept .nom
  | dynPowerSave => exact hreset .dps
  | dynPowerSaveFp => exact hreset .dpsMp
  | other => exact hkept .undefined

theorem WindowInv.step (hinv : WindowInv s h) (e : DpsEvent) (hok : StepOk s e) :
    WindowInv (s.step e) (historyStep s h e) := by
  cases e with
  | sensors core utilization => exact hinv.sensors core utilization hok
  | update enabled => exact hinv.update enabled hok
  | overwrite p request =>
    obtain ⟨hpos, hkeeps, hold⟩ :=
      @WindowInv.zero { s with dpsalg := p.dpsalg } (show 0 < p.sampleCountUtil.toNat from hok.1)
    exact ⟨hpos, hkeeps, hold⟩
  | policy mode single => exact hinv.policy mode single

/-- In every run whose steps meet the condition, every state has the law. -/
theorem windowLaw_run {es : List DpsEvent}
    (hrun : Run (Guarded (fun t e => StepOk t.1 e) (StepOf dpsStep)) (.boot, fun _ => []) es (s, h)) : WindowLaw s h := by
  have hboot : WindowInv DpsState.boot fun _ => [] := WindowInv.zero (s := .boot) (by decide)
  have hinv := hrun.invariant (P := fun t => WindowInv t.1 t.2) (fun s e t hs hstep => by
    obtain ⟨hok, hnext⟩ := hstep
    cases hnext
    exact hs.step e hok) hboot
  exact hinv.law

end

/-- A reading of the first core, and a tick for it. -/
def tick (utilization : BitVec 16) : List DpsEvent := [.sensors 0 utilization, .update fun _ => true]

theorem windowLaw_run_tick : ∃ s h, WindowLaw s h ∧ h 0 = [(1, 1)] :=
  ⟨_, _, @windowLaw_run _ _ (tick 9000) (.cons ⟨fun _ => by decide, rfl⟩ (.single ⟨fun _ _ => .inl (by decide), rfl⟩)), rfl⟩

/-- A sample count that the tunable table admits and the buffer has no room for. -/
def longCount : Dcom.TunableParams where
  alphaUp := 9800
  alphaDown := 9800
  sampleCountUtil := 65
  stepUp := 8
  stepDown := 8
  epsilonPerc := 1800
  tlutil := 9800
  wofEnable := 1

/-- With 65 samples to sum, the second tick takes off the sample of the first one. -/
theorem sample_taken_off_early :
    ∃ s h, exec dpsStep (.boot, fun _ => []) (.overwrite longCount 1 :: (tick 9900 ++ tick 9900)) = some (s, h) ∧
      (s.cores 0).active.accumulator.toNat = 1 ∧
      lastSum s.dpsalg.sampleCountUtil.toNat ((h 0).map Prod.snd) = 2 :=
  ⟨_, _, rfl, by decide, by decide⟩

end Occ.Amec.Dps
