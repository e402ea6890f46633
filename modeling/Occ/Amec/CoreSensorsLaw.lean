/-
The activity sensors of a core over whole runs: no division by zero, frequency and utilization from the deltas of one interval,
averages between the samples that entered them, and the normalized utilization without a wrap.
-/
import Occ.Amec.CoreSensors
import Occ.Lib.Exact
import Occ.Lib.MovingSum
import Occ.Lib.Transition
import Occ.Sensor.SensorLaw

namespace Occ.Amec.Core

open Gpe0 (CoreData)
open MovingSum (rolling)
open Sensor (SensorState)
open Transition (Run Guarded)

/-! ## The law -/

namespace CoreCall

variable (e : CoreCall)

/-- The call has data of the core. -/
def fresh : Bool := e.present && e.updated

/-- The sensors are computed from the data. -/
def collects : Bool := e.fresh && (!e.empathError && !e.offline)

/-- The core is offline, with no data. -/
def idles : Bool := !e.fresh && e.offline

end CoreCall

/-- A core with the data that the next deltas are taken from, that of the last call without an error for the core and that of the
last call for its threads, and the samples that entered the averages, the newest first. -/
structure CoreRun where
  core : AmecCore
  base : CoreData
  threadBase : CoreData
  utils : List Nat
  freqs : List Nat

def CoreRun.init : CoreRun := ⟨.init, .zero, .zero, [], []⟩

/-- A value that is 0 for a core that is stop-gated. -/
def unlessGated (d : CoreData) (n : Nat) : Nat := if gated d then 0 else n

/-- Run cycles by raw cycles in 0.01 %, both without their last eight bits. -/
def ratio (run raw : Nat) : Nat := run / 256 * 10000 / (raw / 256)

namespace CoreRun

variable (t : TickRate) (fnom : BitVec 16) (s : CoreRun) (e : CoreCall)

def next : CoreRun where
  core := (s.core.updateProcCoreSensors t.interval fnom e).getD s.core
  base := if e.fresh && !e.empathError then e.data else s.base
  threadBase := if e.fresh then e.data else s.threadBase
  utils := if e.collects then (s.core.utilSample e.data).toNat :: s.utils else if e.idles then 0 :: s.utils else s.utils
  freqs := if e.collects then (s.core.freqSample e.data e.tod).1.toNat :: s.freqs else if e.idles then 0 :: s.freqs else s.freqs

/-! The deltas of the counters since the data they are taken from. -/

def rawDelta : Nat := (e.data.rawCycles - s.base.rawCycles).toNat

def runDelta : Nat := (e.data.runCycles - s.base.runCycles).toNat

def tickDelta : Nat := (e.data.tod2mhz - s.base.tod2mhz).toNat

def threadRawDelta : Nat := (e.data.rawCycles - s.threadBase.rawCycles).toNat

def threadRunDelta (i : Fin 4) : Nat := ((e.data.perThread i).runCycles - (s.threadBase.perThread i).runCycles).toNat

/-- The frequency: twice the cycles by the ticks, of which two are a microsecond, with 0 for no ticks. -/
def mhz : Nat := 2 * s.rawDelta e / s.tickDelta e

end CoreRun

/-- An average of enough samples is between the smallest and the largest of them, with two more decimal places. -/
def Between (t : TickRate) (samples : List Nat) (avg : BitVec 32) : Prop :=
  t.interval.toNat ≤ samples.length → ∀ lo hi, (∀ x ∈ samples, lo ≤ x ∧ x ≤ hi) → lo * 100 ≤ avg.toNat ∧ avg.toNat ≤ hi * 100

/-- The utilization at the nominal frequency, from the averages at the resolution of the sensors. -/
def atNominal (fnom : BitVec 16) (avgUtil avgFreq : Nat) : Nat := avgUtil / 100 * 100000 / (avgFreq / 100) * fnom.toNat / 100000

/-- What a call does to the sensors, from the core before and after it. -/
structure Published (fnom : BitVec 16) (s : CoreRun) (e : CoreCall) (c : AmecCore) : Prop where
  frequency : (c.freqa = s.core.freqa ∧ 6000 ≤ s.mhz e) ∨
    ∃ v, c.freqa = s.core.freqa.update e.tod v ∧ v.toNat = unlessGated e.data (s.mhz e)
  utilization : ∃ v, c.util = s.core.util.update e.tod v ∧ v.toNat ≤ 10000 ∧
    v.toNat = unlessGated e.data (ratio (s.runDelta e) (s.rawDelta e))
  threads : ∀ i, (c.util4msThread i).toNat ≤ 10000 ∧
    (c.util4msThread i).toNat = unlessGated e.data (ratio (s.threadRunDelta e i) (s.threadRawDelta e))
  normalized : c.avgFreq ≠ 0 → ∃ v, c.nutil3s = s.core.nutil3s.update e.tod v ∧
    v.toNat = unlessGated e.data (atNominal fnom c.avgUtil.toNat c.avgFreq.toNat)
  unnormalized : c.avgFreq = 0 → c.nutil3s = s.core.nutil3s

/-- The law of a call: it does not divide by zero, what it computes from data is right, a core that is offline publishes 0, every
other call leaves the sensors alone, and both averages stay between their samples. -/
structure CoreLaw (t : TickRate) (fnom : BitVec 16) (s : CoreRun) (e : CoreCall) : Prop where
  divides : s.core.updateProcCoreSensors t.interval fnom e ≠ none
  published : e.collects = true → Published fnom s e (s.next t fnom e).core
  idle : e.idles = true → (s.next t fnom e).core.freqa = s.core.freqa.update e.tod 0 ∧
    (s.next t fnom e).core.util = s.core.util.update e.tod 0 ∧ (s.next t fnom e).core.nutil3s = s.core.nutil3s.update e.tod 0
  quiet : e.collects = false → e.idles = false → (s.next t fnom e).core.freqa = s.core.freqa ∧
    (s.next t fnom e).core.util = s.core.util ∧ (s.next t fnom e).core.nutil3s = s.core.nutil3s
  averages : Between t (s.next t fnom e).utils (s.next t fnom e).core.avgUtil ∧
    Between t (s.next t fnom e).freqs (s.next t fnom e).core.avgFreq

/-- The run cycles are at most the raw cycles, in units of 256 cycles and with 0.01 % to spare, and 10000 times their number fits. -/
def Measures (run raw : Nat) : Prop := raw / 256 = 0 ∨ run / 256 ≤ 429496 ∧ run / 256 * 10000 < 10001 * (raw / 256)

namespace CoreRun

variable (t : TickRate) (fnom : BitVec 16) (s : CoreRun) (e : CoreCall)

/-- The averages with the samples of a call: a frequency that is out of range enters as 0. -/
def nextUtil : Nat := rolling t.interval.toNat 100 (unlessGated e.data (ratio (s.runDelta e) (s.rawDelta e)) :: s.utils)

def nextFreq : Nat :=
  rolling t.interval.toNat 100 (unlessGated e.data (if s.mhz e < 6000 then s.mhz e else 0) :: s.freqs)

/-- The condition, on the data of a call and the samples before it: unless the core is stop-gated, twice the cycles do not wrap, or are
out of range even so, and the run cycles are at most the raw cycles; the average frequency is 0 or at least 1 MHz; and the normalized
utilization does not wrap. -/
structure CoreOk : Prop where
  frequency : gated e.data = true ∨ s.tickDelta e = 0 ∨ s.rawDelta e < 2 ^ 31 ∨
    6000 ≤ (2 * s.rawDelta e - 2 ^ 32) / s.tickDelta e
  utilization : gated e.data = true ∨ Measures (s.runDelta e) (s.rawDelta e)
  threads : gated e.data = true ∨ ∀ i, Measures (s.threadRunDelta e i) (s.threadRawDelta e)
  average : s.nextFreq t e = 0 ∨ 100 ≤ s.nextFreq t e
  normalized : gated e.data = true ∨ s.nextFreq t e = 0 ∨
    s.nextUtil t e / 100 * 100000 / (s.nextFreq t e / 100) * fnom.toNat < 2 ^ 32

end CoreRun

/-! ## Arithmetic -/

section
variable {x n k r : Nat}

theorem frequency_iff (hn : n < 2 ^ 32) (hk : k < 2 ^ 32) :
    (2 * n % 2 ^ 32 / k < 6000 → 2 * n % 2 ^ 32 / k = 2 * n / k) ↔ k = 0 ∨ n < 2 ^ 31 ∨ 6000 ≤ (2 * n - 2 ^ 32) / k := by
  obtain rfl | hpos := Nat.eq_zero_or_pos k
  · simp
  rw [mod_div_eq_iff hpos (Nat.le_of_lt hk)]
  obtain hlt | hge := Nat.lt_or_ge n (2 ^ 31)
  · exact iff_of_true (fun _ => by omega) (.inr (.inl hlt))
  · rw [show 2 * n % 2 ^ 32 = 2 * n - 2 ^ 32 by omega]
    omega

theorem lt_limit_iff (h : 2 * n % 2 ^ 32 / k < 6000 → 2 * n % 2 ^ 32 / k = 2 * n / k) :
    2 * n % 2 ^ 32 / k < 6000 ↔ 2 * n / k < 6000 := by
  constructor
  · intro hlt
    rw [← h hlt]
    exact hlt
  · exact Nat.lt_of_le_of_lt (Nat.div_le_div_right (Nat.mod_le _ _))

/-- A ratio of 32-bit counters as the code computes it. -/
theorem measures_iff (hr : r < 2 ^ 32) :
    (n / 256 * 10000 % 2 ^ 32 / (r / 256) % 2 ^ 16 ≤ 10000 ∧
      n / 256 * 10000 % 2 ^ 32 / (r / 256) % 2 ^ 16 = ratio n r) ↔ Measures n r := by
  unfold ratio Measures
  obtain hzero | hpos := Nat.eq_zero_or_pos (r / 256)
  · rw [hzero]
    simp
  have hwrap := @mod_div_eq_iff (n / 256 * 10000) (r / 256) (2 ^ 32) hpos (by omega)
  have hle : n / 256 * 10000 % 2 ^ 32 / (r / 256) ≤ n / 256 * 10000 / (r / 256) := Nat.div_le_div_right (Nat.mod_le _ _)
  have hlimit : n / 256 * 10000 / (r / 256) ≤ 10000 ↔ n / 256 * 10000 < 10001 * (r / 256) := by
    rw [← Nat.div_lt_iff_lt_mul hpos]
    omega
  constructor
  · rintro ⟨hsmall, heq⟩
    rw [heq] at hsmall
    rw [Nat.mod_eq_of_lt (by omega), hwrap] at heq
    exact .inr ⟨by omega, hlimit.1 hsmall⟩
  · rintro (hnone | ⟨hfits, hbelow⟩)
    · omega
    · have heq := hwrap.2 (by omega)
      have hsmall := hlimit.2 hbelow
      rw [heq, Nat.mod_eq_of_lt (by omega)]
      exact ⟨hsmall, rfl⟩

theorem nominal_iff : x % 2 ^ 32 / 100000 % 2 ^ 16 = x / 100000 ↔ x < 2 ^ 32 := by
  rw [Nat.mod_eq_of_lt (by omega)]
  exact mod_div_eq_iff (by decide) (by decide)

end

/-! ## Averages -/

section
variable {t : TickRate} {samples : List Nat} {sensor : SensorState} {tod : BitVec 64} {x : BitVec 16}

theorem interval_toNat (t : TickRate) : t.interval.toNat = 375 ∨ t.interval.toNat = 9 := by
  cases t
  · exact .inl rfl
  · exact .inr rfl

/-- The accumulator of a sensor is the sum of the samples. -/
structure Accumulates (sensor : SensorState) (samples : List Nat) : Prop where
  sum : sensor.accumulator = BitVec.ofNat 64 samples.sum
  opened : sensor.opened.accumulator = sensor.accumulator

theorem Accumulates.update (h : Accumulates sensor samples) (tod : BitVec 64) : Accumulates (sensor.update tod x) (x.toNat :: samples) where
  sum := by
    rw [Sensor.accumulator_update, h.opened, h.sum, List.sum_cons, Nat.add_comm, BitVec.ofNat_add, BitVec.ofNat_toNat]
  opened := by
    unfold SensorState.opened
    rw [Sensor.resetPending_update]
    rfl

theorem Accumulates.skip (h : Accumulates sensor samples) : Accumulates sensor (0 :: samples) where
  sum := by rw [List.sum_cons, Nat.zero_add]; exact h.sum
  opened := h.opened

/-- The number of samples as the code counts them. -/
def counted (samples : List Nat) : Nat := min samples.length 65535

theorem countSample_toNat {c : AmecCore} (h : c.sampleCount.toNat = counted samples) {y : Nat} :
    c.countSample.toNat = counted (y :: samples) := by
  unfold AmecCore.countSample counted at *
  rw [List.length_cons]
  have hmax : (0xFFFF : BitVec 16).toNat = 65535 := rfl
  split_ifs with hlt
  · rw [BitVec.lt_def, hmax] at hlt
    rw [BitVec.toNat_add]
    show (c.sampleCount.toNat + 1) % 65536 = _
    omega
  · rw [BitVec.lt_def, hmax] at hlt
    omega

theorem divide_of_pos {a b : BitVec 32} (h : 0 < b.toNat) : divide a b = some (a / b) := by
  refine if_neg fun heq => ?_
  rw [heq] at h
  exact Nat.lt_irrefl 0 h

/-- The code's average is the rolling average of the samples: nothing wraps. -/
theorem rollAverage_spec {count : BitVec 16} {avg : BitVec 32} (hcount : count.toNat = counted (x.toNat :: samples))
    (hsum : Accumulates sensor (x.toNat :: samples)) (havg : avg.toNat = rolling t.interval.toNat 100 samples)
    (hle : ∀ y ∈ samples, y ≤ 65535) :
    ∃ a, rollAverage t.interval count sensor avg x = some a ∧ a.toNat = rolling t.interval.toNat 100 (x.toNat :: samples) := by
  have hx : x.toNat ≤ 65535 := by omega
  have hN := interval_toNat t
  have hwide : (t.interval.setWidth 32).toNat = t.interval.toNat := by
    rw [BitVec.toNat_setWidth]
    exact Nat.mod_eq_of_lt (by omega)
  unfold counted at hcount
  rw [List.length_cons] at hcount
  unfold rollAverage
  split_ifs with heq hmore
  · have hlen : (x.toNat :: samples).length = t.interval.toNat := by
      rw [heq] at hcount
      rw [List.length_cons]
      omega
    have hbound : (x.toNat :: samples).sum ≤ 375 * 65535 := by
      have hmean : ∀ b, (∀ y ∈ x.toNat :: samples, y ≤ b) → (x.toNat :: samples).sum ≤ (x.toNat :: samples).length * b :=
        List.sum_le_card_nsmul _
      rw [hlen] at hmean
      exact Nat.le_trans (hmean 65535 (List.forall_mem_cons.2 ⟨hx, hle⟩)) (Nat.mul_le_mul_right _ (by omega))
    rw [heq, divide_of_pos (by omega)]
    refine ⟨_, rfl, ?_⟩
    rw [BitVec.toNat_udiv, hwide, MovingSum.rolling_of_length hlen, BitVec.toNat_mul, BitVec.toNat_setWidth, hsum.sum,
      BitVec.toNat_ofNat]
    generalize (x.toNat :: samples).sum = total at *
    show total % 2 ^ 64 % 2 ^ 32 * 100 % 2 ^ 32 / _ = _
    rw [Nat.mod_eq_of_lt (a := total) (by omega), Nat.mod_eq_of_lt (a := total) (by omega), Nat.mod_eq_of_lt (by omega)]
  · have hlen : t.interval.toNat ≤ samples.length := by
      rw [BitVec.lt_def] at hmore
      omega
    have hprev : avg.toNat ≤ 65535 * 100 := by
      rw [havg]
      exact MovingSum.rolling_le (by omega) hle
    rw [divide_of_pos (by omega)]
    refine ⟨_, rfl, ?_⟩
    have hpred : (t.interval.setWidth 32 - 1 : BitVec 32).toNat = t.interval.toNat - 1 := by
      cases t <;> rfl
    have hsample : (x.setWidth 32).toNat = x.toNat := by
      rw [BitVec.toNat_setWidth]
      exact Nat.mod_eq_of_lt (by omega)
    rw [MovingSum.rolling_cons hlen, ← havg, BitVec.toNat_udiv, hwide, BitVec.toNat_add, BitVec.toNat_mul, BitVec.toNat_mul,
      hpred, hsample]
    show (avg.toNat * (t.interval.toNat - 1) % 2 ^ 32 + x.toNat * 100 % 2 ^ 32) % 2 ^ 32 / _ = _
    have hprod : avg.toNat * (t.interval.toNat - 1) ≤ 65535 * 100 * 374 := Nat.mul_le_mul hprev (by omega)
    rw [Nat.mod_eq_of_lt (a := avg.toNat * (t.interval.toNat - 1)) (by omega), Nat.mod_eq_of_lt (a := x.toNat * 100) (by omega),
      Nat.mod_eq_of_lt (by omega)]
    rfl
  · have hlen : samples.length + 1 < t.interval.toNat := by
      rw [BitVec.lt_def] at hmore
      have hne : count.toNat ≠ t.interval.toNat := fun h => heq (BitVec.toNat_inj.1 h)
      omega
    refine ⟨avg, rfl, ?_⟩
    rw [havg, MovingSum.rolling_of_lt (Nat.lt_of_succ_lt hlen), MovingSum.rolling_of_lt (by rw [List.length_cons]; exact hlen)]

end

/-! ## A call with data -/

/-- The invariant: sensors and averages are those of the samples, and the counters that are saved those of the data that the deltas
are taken from. -/
structure CoreInv (t : TickRate) (s : CoreRun) : Prop where
  count : s.core.sampleCount.toNat = counted s.utils
  lengths : s.freqs.length = s.utils.length
  utils : ∀ x ∈ s.utils, x ≤ 10000
  freqs : ∀ x ∈ s.freqs, x ≤ 65535
  util : Accumulates s.core.util s.utils
  freqa : Accumulates s.core.freqa s.freqs
  avgUtil : s.core.avgUtil.toNat = rolling t.interval.toNat 100 s.utils
  avgFreq : s.core.avgFreq.toNat = rolling t.interval.toNat 100 s.freqs
  base : s.core.prevRawCycles = s.base.rawCycles ∧ s.core.prevRunCycles = s.base.runCycles ∧ s.core.prevTod2mhz = s.base.tod2mhz
  threadBase : s.core.prevRawThCycles = s.threadBase.rawCycles ∧
    ∀ i, s.core.prevRunThCycles i = (s.threadBase.perThread i).runCycles

section
variable {t : TickRate} {fnom : BitVec 16} {s : CoreRun} {e : CoreCall} {c : AmecCore} {u f : BitVec 32}

theorem cyclesPerTick_toNat (cycles ticks : BitVec 32) :
    (cyclesPerTick cycles ticks).toNat = 2 * cycles.toNat % 2 ^ 32 / ticks.toNat := by
  unfold cyclesPerTick
  split_ifs with hzero
  · rw [← hzero]
    exact (Nat.div_zero _).symm
  · rw [BitVec.toNat_udiv, BitVec.toNat_mul]
    rfl

theorem utilization_toNat (run raw : BitVec 32) :
    (utilization run raw).toNat = run.toNat / 256 * 10000 % 2 ^ 32 / (raw.toNat / 256) := by
  have hshift : ∀ a : BitVec 32, (a >>> 8).toNat = a.toNat / 256 := fun a => by
    rw [BitVec.toNat_ushiftRight, Nat.shiftRight_eq_div_pow]
  unfold utilization
  split_ifs with hzero
  · rw [← hshift raw, ← hzero]
    exact (Nat.div_zero _).symm
  · rw [BitVec.toNat_udiv, BitVec.toNat_mul, hshift, hshift]
    rfl

theorem toNat_gated (d : CoreData) (x : BitVec 16) : (if gated d then 0 else x).toNat = unlessGated d x.toNat :=
  apply_ite BitVec.toNat _ _ _

/-- The frequency of a call as the code computes it. -/
def CoreRun.wrapped (s : CoreRun) (e : CoreCall) : Nat := 2 * s.rawDelta e % 2 ^ 32 / s.tickDelta e

theorem freqSample_spec (hs : CoreInv t s) :
    (s.core.freqSample e.data e.tod).1.toNat = unlessGated e.data (if s.wrapped e < 6000 then s.wrapped e else 0) ∧
      (s.core.freqSample e.data e.tod).2 =
        if s.wrapped e < 6000 then s.core.freqa.update e.tod (s.core.freqSample e.data e.tod).1 else s.core.freqa := by
  have hfreq : (cyclesPerTick (e.data.rawCycles - s.core.prevRawCycles) (e.data.tod2mhz - s.core.prevTod2mhz)).toNat =
      s.wrapped e := by
    rw [cyclesPerTick_toNat, hs.base.1, hs.base.2.2]
    rfl
  unfold AmecCore.freqSample
  dsimp only
  generalize cyclesPerTick (e.data.rawCycles - s.core.prevRawCycles) (e.data.tod2mhz - s.core.prevTod2mhz) = freq at *
  have hlimit : freq < 6000 ↔ s.wrapped e < 6000 := by
    rw [BitVec.lt_def, hfreq]
    rfl
  by_cases hlt : s.wrapped e < 6000
  · rw [if_pos (hlimit.2 hlt), if_pos hlt, if_pos hlt, toNat_gated, BitVec.toNat_setWidth, hfreq, Nat.mod_eq_of_lt (by omega)]
    exact ⟨rfl, rfl⟩
  · rw [if_neg fun h => hlt (hlimit.1 h), if_neg hlt, if_neg hlt]
    exact ⟨(ite_self _).symm, rfl⟩

theorem accumulates_freqSample (hs : CoreInv t s) :
    Accumulates (s.core.freqSample e.data e.tod).2 ((s.core.freqSample e.data e.tod).1.toNat :: s.freqs) := by
  obtain ⟨hvalue, hsensor⟩ := @freqSample_spec t s e hs
  rw [hsensor]
  split_ifs at hvalue ⊢ with hlt
  · exact hs.freqa.update _
  · rw [hvalue, unlessGated, ite_self]
    exact hs.freqa.skip

theorem utilSample_spec (hs : CoreInv t s) : (s.core.utilSample e.data).toNat =
    unlessGated e.data (s.runDelta e / 256 * 10000 % 2 ^ 32 / (s.rawDelta e / 256) % 2 ^ 16) := by
  unfold AmecCore.utilSample
  rw [toNat_gated, BitVec.toNat_setWidth, utilization_toNat, hs.base.1, hs.base.2.1]
  rfl

theorem threadSample_spec (hs : CoreInv t s) (i : Fin 4) : (s.core.threadSample e.data i).toNat =
    unlessGated e.data (s.threadRunDelta e i / 256 * 10000 % 2 ^ 32 / (s.threadRawDelta e / 256) % 2 ^ 16) := by
  unfold AmecCore.threadSample
  rw [toNat_gated, BitVec.toNat_setWidth, utilization_toNat, hs.threadBase.1, hs.threadBase.2 i]
  rfl

theorem unlessGated_iff {d : CoreData} {m n : Nat} :
    unlessGated d m ≤ 10000 ∧ unlessGated d m = unlessGated d n ↔ gated d = true ∨ m ≤ 10000 ∧ m = n := by
  unfold unlessGated
  cases gated d <;> simp

theorem normalized_spec (fnom : BitVec 16) (u f : BitVec 32) :
    (f.toNat < 100 → normalized fnom u f = none) ∧ (100 ≤ f.toNat → ∃ n, normalized fnom u f = some n ∧
      (u.toNat ≤ 10000 * 100 →
        n.toNat = u.toNat / 100 * 100000 / (f.toNat / 100) * fnom.toNat % 2 ^ 32 / 100000)) := by
  have hhundred : ∀ a : BitVec 32, (a / 100).toNat = a.toNat / 100 := fun a => BitVec.toNat_udiv
  unfold normalized
  constructor
  · intro hlt
    have hzero : f / 100 = 0 := by
      rw [← BitVec.toNat_inj, hhundred]
      exact Nat.div_eq_of_lt hlt
    rw [hzero]
    rfl
  · intro hge
    rw [divide_of_pos (by rw [hhundred]; omega)]
    refine ⟨_, rfl, fun hu => ?_⟩
    rw [BitVec.toNat_udiv, BitVec.toNat_mul, BitVec.toNat_udiv, BitVec.toNat_mul, hhundred, hhundred, BitVec.toNat_setWidth]
    show u.toNat / 100 * 100000 % 2 ^ 32 / _ * (fnom.toNat % 2 ^ 32) % 2 ^ 32 / 100000 = _
    rw [Nat.mod_eq_of_lt (a := u.toNat / 100 * 100000) (by omega), Nat.mod_eq_of_lt (a := fnom.toNat) (by omega)]

/-- The core after a call with data, with its averages and its sensor of the normalized utilization. -/
def collected (s : CoreRun) (e : CoreCall) (u f : BitVec 32) (nutil : SensorState) : AmecCore :=
  ({ s.core with
      freqa := (s.core.freqSample e.data e.tod).2
      util := s.core.util.update e.tod (s.core.utilSample e.data)
      nutil3s := nutil
      util4msThread := s.core.threadSample e.data
      sampleCount := s.core.countSample
      avgUtil := u
      avgFreq := f }.calcIpsSensors e.data e.tod).savePrevious e.data false

/-- A call with data computes both averages, and divides by the second one at the resolution of the sensors. -/
theorem update_collects (hs : CoreInv t s) (he : e.collects = true) :
    ∃ u f : BitVec 32, u.toNat = rolling t.interval.toNat 100 ((s.core.utilSample e.data).toNat :: s.utils) ∧
      f.toNat = rolling t.interval.toNat 100 ((s.core.freqSample e.data e.tod).1.toNat :: s.freqs) ∧
      (f = 0 → s.core.updateProcCoreSensors t.interval fnom e = some (collected s e u f s.core.nutil3s)) ∧
      (f ≠ 0 → s.core.updateProcCoreSensors t.interval fnom e = (normalized fnom u f).map fun n =>
        collected s e u f (s.core.nutil3s.update e.tod (if gated e.data then 0 else n.setWidth 16))) := by
  have hfreqa := @accumulates_freqSample t s e hs
  have hcount := fun y => countSample_toNat hs.count (y := y)
  obtain ⟨u, hu, hutil⟩ := rollAverage_spec (hcount _) (hs.util.update e.tod) hs.avgUtil
    fun y hy => Nat.le_trans (hs.utils y hy) (by decide)
  have hcount' : s.core.countSample.toNat = counted ((s.core.freqSample e.data e.tod).1.toNat :: s.freqs) := by
    unfold counted at *
    rw [List.length_cons, hs.lengths]
    exact hcount 0
  obtain ⟨f, hf, hfreq⟩ := rollAverage_spec hcount' hfreqa hs.avgFreq hs.freqs
  obtain ⟨hfresh, hclean⟩ := Bool.and_eq_true_iff.1 he
  have hnoerror : e.empathError = false := by
    cases herror : e.empathError
    · rfl
    · rw [herror] at hclean
      exact absurd hclean Bool.false_ne_true
  have hupdate : s.core.updateProcCoreSensors t.interval fnom e =
      (s.core.calcFreqAndUtilSensors e.data t.interval fnom e.tod).map fun c =>
        (c.calcIpsSensors e.data e.tod).savePrevious e.data e.empathError := by
    unfold AmecCore.updateProcCoreSensors
    rw [show (e.present && e.updated) = true from hfresh, if_pos rfl, if_pos hclean]
    cases s.core.calcFreqAndUtilSensors e.data t.interval fnom e.tod <;> rfl
  refine ⟨u, f, hutil, hfreq, ?_⟩
  rw [hupdate]
  unfold AmecCore.calcFreqAndUtilSensors
  dsimp only
  rw [hu, hf, hnoerror]
  simp only [Option.bind_eq_bind, Option.bind_some]
  constructor
  · intro hzero
    rw [if_neg (not_not.2 hzero)]
    rfl
  · intro hne
    rw [if_pos hne]
    cases normalized fnom u f <;> rfl

theorem frequency_published_iff (hs : CoreInv t s) (hc : c.freqa = (s.core.freqSample e.data e.tod).2) :
    ((c.freqa = s.core.freqa ∧ 6000 ≤ s.mhz e) ∨
      ∃ v, c.freqa = s.core.freqa.update e.tod v ∧ v.toNat = unlessGated e.data (s.mhz e)) ↔
      gated e.data = true ∨ (s.wrapped e < 6000 → s.wrapped e = s.mhz e) := by
  obtain ⟨hvalue, hsensor⟩ := @freqSample_spec t s e hs
  rw [hsensor] at hc
  by_cases hlt : s.wrapped e < 6000
  · rw [if_pos hlt] at hc hvalue
    constructor
    · rintro (⟨hsame, -⟩ | ⟨v, hv, hright⟩)
      · have htag := congrArg (fun sensor => sensor.updateTag) (hc.symm.trans hsame)
        rw [Sensor.updateTag_update] at htag
        bv_omega
      · have hsample : (s.core.freqSample e.data e.tod).1 = v := congrArg (fun sensor => sensor.sample) (hc.symm.trans hv)
        rw [← hsample, hvalue] at hright
        unfold unlessGated at hright
        cases hgated : gated e.data with
        | true => exact .inl rfl
        | false =>
          rw [hgated] at hright
          exact .inr fun _ => hright
    · intro hok
      refine .inr ⟨_, hc, hvalue.trans ?_⟩
      obtain hgated | heq := hok
      · rw [unlessGated, unlessGated, hgated]
        rfl
      · rw [heq hlt]
  · rw [if_neg hlt] at hc
    have hmhz : s.wrapped e ≤ s.mhz e := Nat.div_le_div_right (Nat.mod_le _ _)
    exact iff_of_true (.inl ⟨hc, by omega⟩) (.inr fun h => absurd h hlt)

theorem freqSample_eq (hs : CoreInv t s) (hok : gated e.data = true ∨ (s.wrapped e < 6000 → s.wrapped e = s.mhz e)) :
    (s.core.freqSample e.data e.tod).1.toNat = unlessGated e.data (if s.mhz e < 6000 then s.mhz e else 0) := by
  rw [(freqSample_spec hs).1]
  obtain hgated | heq := hok
  · rw [unlessGated, unlessGated, hgated]
    rfl
  · have hlimit : s.wrapped e < 6000 ↔ s.mhz e < 6000 := lt_limit_iff heq
    by_cases hlt : s.wrapped e < 6000
    · rw [if_pos hlt, if_pos (hlimit.1 hlt), heq hlt]
    · rw [if_neg hlt, if_neg fun h => hlt (hlimit.2 h)]

theorem utilSample_iff (hs : CoreInv t s) : ((s.core.utilSample e.data).toNat ≤ 10000 ∧
    (s.core.utilSample e.data).toNat = unlessGated e.data (ratio (s.runDelta e) (s.rawDelta e))) ↔
    gated e.data = true ∨ Measures (s.runDelta e) (s.rawDelta e) := by
  rw [utilSample_spec hs, unlessGated_iff]
  exact or_congr_right (measures_iff (BitVec.isLt _))

theorem threadSample_iff (hs : CoreInv t s) : (∀ i, (s.core.threadSample e.data i).toNat ≤ 10000 ∧
    (s.core.threadSample e.data i).toNat = unlessGated e.data (ratio (s.threadRunDelta e i) (s.threadRawDelta e))) ↔
    gated e.data = true ∨ ∀ i, Measures (s.threadRunDelta e i) (s.threadRawDelta e) := by
  rw [← forall_or_left]
  refine forall_congr' fun i => ?_
  rw [threadSample_spec hs, unlessGated_iff]
  exact or_congr_right (measures_iff (BitVec.isLt _))

theorem published_iff (hs : CoreInv t s) {nutil : SensorState} : Published fnom s e (collected s e u f nutil) ↔
    (gated e.data = true ∨ (s.wrapped e < 6000 → s.wrapped e = s.mhz e)) ∧
    (gated e.data = true ∨ Measures (s.runDelta e) (s.rawDelta e)) ∧
    (gated e.data = true ∨ ∀ i, Measures (s.threadRunDelta e i) (s.threadRawDelta e)) ∧
    (f ≠ 0 → ∃ v, nutil = s.core.nutil3s.update e.tod v ∧
      v.toNat = unlessGated e.data (atNominal fnom u.toNat f.toNat)) ∧ (f = 0 → nutil = s.core.nutil3s) := by
  have hfreq := @frequency_published_iff t s e (collected s e u f nutil) hs rfl
  have hutil := @utilSample_iff t s e hs
  have hthreads := @threadSample_iff t s e hs
  constructor
  · rintro ⟨hf, ⟨v, hv, hvalue⟩, ht, hn, hnone⟩
    have hsample : s.core.utilSample e.data = v := congrArg (fun sensor => sensor.sample) hv
    rw [← hsample] at hvalue
    exact ⟨hfreq.1 hf, hutil.1 hvalue, hthreads.1 ht, hn, hnone⟩
  · rintro ⟨hf, hu, ht, hn, hnone⟩
    exact ⟨hfreq.2 hf, ⟨_, rfl, hutil.2 hu⟩, hthreads.2 ht, hn, hnone⟩

theorem nextFreq_eq (hs : CoreInv t s) (hok : gated e.data = true ∨ (s.wrapped e < 6000 → s.wrapped e = s.mhz e))
    (hf : f.toNat = rolling t.interval.toNat 100 ((s.core.freqSample e.data e.tod).1.toNat :: s.freqs)) :
    f.toNat = s.nextFreq t e := by
  rw [hf, freqSample_eq hs hok]
  rfl

theorem nextUtil_eq (hs : CoreInv t s) (hok : gated e.data = true ∨ Measures (s.runDelta e) (s.rawDelta e))
    (hu : u.toNat = rolling t.interval.toNat 100 ((s.core.utilSample e.data).toNat :: s.utils)) :
    u.toNat = s.nextUtil t e ∧ u.toNat ≤ 10000 * 100 := by
  obtain ⟨hsmall, hvalue⟩ := (utilSample_iff hs).2 hok
  have hN := interval_toNat t
  constructor
  · rw [hu, hvalue]
    rfl
  · rw [hu]
    exact MovingSum.rolling_le (by omega) (List.forall_mem_cons.2 ⟨hsmall, hs.utils⟩)

theorem between_rolling {samples : List Nat} {avg : BitVec 32} (h : avg.toNat = rolling t.interval.toNat 100 samples) :
    Between t samples avg := by
  intro hlen lo hi hall
  have hN := interval_toNat t
  rw [h]
  exact MovingSum.rolling_bounds (by omega) hlen hall

/-- The law of a call with data: what is left of it when the core is known. -/
theorem coreLaw_collects_iff (he : e.collects = true) {nutil : SensorState}
    (hu : u.toNat = rolling t.interval.toNat 100 ((s.core.utilSample e.data).toNat :: s.utils))
    (hf : f.toNat = rolling t.interval.toNat 100 ((s.core.freqSample e.data e.tod).1.toNat :: s.freqs))
    (hcall : s.core.updateProcCoreSensors t.interval fnom e = some (collected s e u f nutil)) :
    CoreLaw t fnom s e ↔ Published fnom s e (collected s e u f nutil) := by
  have hnext : (s.next t fnom e).core = collected s e u f nutil := by
    unfold CoreRun.next
    rw [hcall]
    rfl
  have hutils : (s.next t fnom e).utils = (s.core.utilSample e.data).toNat :: s.utils := if_pos he
  have hfreqs : (s.next t fnom e).freqs = (s.core.freqSample e.data e.tod).1.toNat :: s.freqs := if_pos he
  have hbusy : e.idles = false := by
    unfold CoreCall.idles
    rw [(Bool.and_eq_true_iff.1 he).1]
    rfl
  constructor
  · rintro ⟨-, hpublished, -⟩
    rw [← hnext]
    exact hpublished he
  · intro hpublished
    refine ⟨?_, fun _ => ?_, fun hidle => ?_, fun hquiet => ?_, ?_⟩
    · rw [hcall]
      exact Option.some_ne_none _
    · rw [hnext]
      exact hpublished
    · rw [hbusy] at hidle
      exact absurd hidle Bool.false_ne_true
    · rw [he] at hquiet
      exact absurd hquiet.symm Bool.false_ne_true
    · rw [hutils, hfreqs, hnext]
      exact ⟨between_rolling hu, between_rolling hf⟩

theorem coreLaw_iff_collects (hs : CoreInv t s) (he : e.collects = true) : CoreLaw t fnom s e ↔ s.CoreOk t fnom e := by
  obtain ⟨u, f, hu, hf, hzero, hdivided⟩ := @update_collects t fnom s e hs he
  have hfrequency : (s.wrapped e < 6000 → s.wrapped e = s.mhz e) ↔ s.tickDelta e = 0 ∨ s.rawDelta e < 2 ^ 31 ∨
      6000 ≤ (2 * s.rawDelta e - 2 ^ 32) / s.tickDelta e := frequency_iff (BitVec.isLt _) (BitVec.isLt _)
  by_cases hnone : f = 0
  · rw [coreLaw_collects_iff he hu hf (hzero hnone), published_iff hs, hfrequency]
    have hfzero : f.toNat = 0 := congrArg BitVec.toNat hnone
    constructor
    · rintro ⟨hfreq, hutil, hthreads, -⟩
      have hnext := nextFreq_eq hs (hfreq.imp_right hfrequency.2) hf
      rw [hfzero] at hnext
      exact ⟨hfreq, hutil, hthreads, .inl hnext.symm, .inr (.inl hnext.symm)⟩
    · rintro ⟨hfreq, hutil, hthreads, -, -⟩
      exact ⟨hfreq, hutil, hthreads, fun hne => absurd hnone hne, fun _ => rfl⟩
  · have hfpos : f.toNat ≠ 0 := fun h => hnone (BitVec.toNat_inj.1 h)
    obtain ⟨hlow, hhigh⟩ := normalized_spec fnom u f
    obtain hlt | hge := Nat.lt_or_ge f.toNat 100
    · -- the division by zero: the condition fails too
      constructor
      · rintro ⟨hdivides, -⟩
        rw [hdivided hnone, hlow hlt] at hdivides
        exact absurd rfl hdivides
      · rintro ⟨hfreq, -, -, haverage, -⟩
        rw [← nextFreq_eq hs (hfreq.imp_right hfrequency.2) hf] at haverage
        omega
    · obtain ⟨n, hn, hvalue⟩ := hhigh hge
      have hcall := hdivided hnone
      rw [hn] at hcall
      rw [coreLaw_collects_iff he hu hf hcall, published_iff hs, hfrequency]
      have hnorm : (gated e.data = true ∨ Measures (s.runDelta e) (s.rawDelta e)) →
          ((if gated e.data then (0 : BitVec 16) else n.setWidth 16).toNat = unlessGated e.data (atNominal fnom u.toNat f.toNat) ↔
            gated e.data = true ∨ u.toNat / 100 * 100000 / (f.toNat / 100) * fnom.toNat < 2 ^ 32) := by
        intro hutil
        rw [toNat_gated, BitVec.toNat_setWidth, hvalue (nextUtil_eq hs hutil hu).2, ← nominal_iff]
        unfold unlessGated atNominal
        cases gated e.data <;> simp
      constructor
      · rintro ⟨hfreq, hutil, hthreads, hnormal, -⟩
        obtain ⟨v, hv, hright⟩ := hnormal hnone
        have hsample : (if gated e.data then (0 : BitVec 16) else n.setWidth 16) = v := congrArg (fun sensor => sensor.sample) hv
        rw [← hsample, hnorm hutil, nextFreq_eq hs (hfreq.imp_right hfrequency.2) hf, (nextUtil_eq hs hutil hu).1] at hright
        rw [nextFreq_eq hs (hfreq.imp_right hfrequency.2) hf] at hge
        exact ⟨hfreq, hutil, hthreads, .inr hge, hright.imp_right .inr⟩
      · rintro ⟨hfreq, hutil, hthreads, -, hfits⟩
        rw [← nextFreq_eq hs (hfreq.imp_right hfrequency.2) hf, ← (nextUtil_eq hs hutil hu).1] at hfits
        refine ⟨hfreq, hutil, hthreads, fun _ => ⟨_, rfl, (hnorm hutil).2 ?_⟩, fun h => absurd h hnone⟩
        exact hfits.imp_right fun h => h.resolve_left hfpos

end

/-! ## A call without data -/

section
variable {t : TickRate} {fnom : BitVec 16} {s : CoreRun} {e : CoreCall}

/-- The core after a call that finds it offline. -/
def offline (s : CoreRun) (e : CoreCall) (u f : BitVec 32) : AmecCore :=
  { s.core with
    freqa := s.core.freqa.update e.tod 0
    util := s.core.util.update e.tod 0
    nutil3s := s.core.nutil3s.update e.tod 0
    ips4ms := s.core.ips4ms.update e.tod 0
    util4msThread := fun _ => 0
    sampleCount := s.core.countSample
    avgUtil := u
    avgFreq := f }

theorem idles_iff : e.idles = true ↔ e.fresh = false ∧ e.offline = true := by
  unfold CoreCall.idles
  rw [Bool.and_eq_true, Bool.not_eq_true']

theorem update_idles (hs : CoreInv t s) (he : e.idles = true) :
    ∃ u f : BitVec 32, u.toNat = rolling t.interval.toNat 100 (0 :: s.utils) ∧
      f.toNat = rolling t.interval.toNat 100 (0 :: s.freqs) ∧
      s.core.updateProcCoreSensors t.interval fnom e = some (offline s e u f) := by
  have hcount : s.core.countSample.toNat = counted (0 :: s.utils) := countSample_toNat hs.count
  have hcount' : s.core.countSample.toNat = counted (0 :: s.freqs) := by
    rw [hcount, counted, counted, List.length_cons, List.length_cons, hs.lengths]
  obtain ⟨u, hu, hutil⟩ := rollAverage_spec (x := 0) hcount (hs.util.update e.tod) hs.avgUtil
    fun y hy => Nat.le_trans (hs.utils y hy) (by decide)
  obtain ⟨f, hf, hfreq⟩ := rollAverage_spec (x := 0) hcount' (hs.freqa.update e.tod) hs.avgFreq hs.freqs
  obtain ⟨hstale, hoffline⟩ := idles_iff.1 he
  refine ⟨u, f, hutil, hfreq, ?_⟩
  unfold AmecCore.updateProcCoreSensors
  rw [show (e.present && e.updated) = false from hstale, if_neg Bool.false_ne_true, if_pos hoffline]
  unfold AmecCore.updateOffline
  dsimp only
  rw [hu, hf]
  rfl

theorem update_quiet (hc : e.collects = false) (hi : e.idles = false) : s.core.updateProcCoreSensors t.interval fnom e =
    some (if e.fresh then s.core.savePrevious e.data e.empathError else s.core) := by
  unfold AmecCore.updateProcCoreSensors
  unfold CoreCall.collects at hc
  unfold CoreCall.idles at hi
  show (if e.fresh = true then _ else _) = _
  cases hfresh : e.fresh with
  | true =>
    rw [hfresh, Bool.true_and] at hc
    rw [if_pos rfl, if_pos rfl, if_neg (by rw [hc]; exact Bool.false_ne_true)]
  | false =>
    rw [hfresh] at hi
    rw [if_neg Bool.false_ne_true, if_neg Bool.false_ne_true, if_neg (by rw [show e.offline = false from hi]; exact Bool.false_ne_true)]

/-- A call that computes nothing from data keeps the law as it is. -/
theorem coreLaw_of_not_collects (hs : CoreInv t s) (hc : e.collects = false) : CoreLaw t fnom s e := by
  cases hi : e.idles with
  | true =>
    obtain ⟨u, f, hu, hf, hcall⟩ := @update_idles t fnom s e hs hi
    have hnext : (s.next t fnom e).core = offline s e u f := by
      unfold CoreRun.next
      rw [hcall]
      rfl
    have hlists : (s.next t fnom e).utils = 0 :: s.utils ∧ (s.next t fnom e).freqs = 0 :: s.freqs := by
      unfold CoreRun.next
      rw [hc, hi]
      exact ⟨rfl, rfl⟩
    refine ⟨?_, fun h => ?_, fun _ => ?_, fun _ h => ?_, ?_⟩
    · rw [hcall]
      exact Option.some_ne_none _
    · rw [hc] at h
      exact absurd h Bool.false_ne_true
    · rw [hnext]
      exact ⟨rfl, rfl, rfl⟩
    · rw [hi] at h
      exact absurd h.symm Bool.false_ne_true
    · rw [hlists.1, hlists.2, hnext]
      exact ⟨between_rolling hu, between_rolling hf⟩
  | false =>
    have hcall := @update_quiet t fnom s e hc hi
    have hnext : (s.next t fnom e).core = if e.fresh then s.core.savePrevious e.data e.empathError else s.core := by
      unfold CoreRun.next
      rw [hcall]
      rfl
    have hlists : (s.next t fnom e).utils = s.utils ∧ (s.next t fnom e).freqs = s.freqs := by
      unfold CoreRun.next
      rw [hc, hi]
      exact ⟨rfl, rfl⟩
    have hkept : (s.next t fnom e).core.freqa = s.core.freqa ∧ (s.next t fnom e).core.util = s.core.util ∧
        (s.next t fnom e).core.nutil3s = s.core.nutil3s ∧ (s.next t fnom e).core.avgUtil = s.core.avgUtil ∧
        (s.next t fnom e).core.avgFreq = s.core.avgFreq := by
      rw [hnext]
      cases e.fresh <;> exact ⟨rfl, rfl, rfl, rfl, rfl⟩
    refine ⟨?_, fun h => ?_, fun h => ?_, fun _ _ => ⟨hkept.1, hkept.2.1, hkept.2.2.1⟩, ?_⟩
    · rw [hcall]
      exact Option.some_ne_none _
    · rw [hc] at h
      exact absurd h Bool.false_ne_true
    · rw [hi] at h
      exact absurd h Bool.false_ne_true
    · rw [hlists.1, hlists.2, hkept.2.2.2.1, hkept.2.2.2.2]
      exact ⟨between_rolling hs.avgUtil, between_rolling hs.avgFreq⟩

end

/-! ## Runs -/

section
variable {t : TickRate} {fnom : BitVec 16} {s : CoreRun} {e : CoreCall}

def CoreRun.Step (t : TickRate) (fnom : BitVec 16) (s : CoreRun) (e : CoreCall) (s' : CoreRun) : Prop := s' = s.next t fnom e

theorem coreInv_init : CoreInv t .init := by
  have haccumulates : Accumulates (Sensor.sensorInit 0 none) [] := ⟨rfl, rfl⟩
  exact ⟨rfl, rfl, fun _ h => absurd h List.not_mem_nil, fun _ h => absurd h List.not_mem_nil, haccumulates, haccumulates, rfl, rfl,
    ⟨rfl, rfl, rfl⟩, rfl, fun _ => rfl⟩

/-- The condition of a call: what it computes from data. -/
def CoreRun.Fine (t : TickRate) (fnom : BitVec 16) (s : CoreRun) (e : CoreCall) : Prop := e.collects = true → s.CoreOk t fnom e

theorem coreLaw_iff (hs : CoreInv t s) : CoreLaw t fnom s e ↔ s.Fine t fnom e := by
  cases hc : e.collects with
  | true =>
    rw [coreLaw_iff_collects hs hc]
    exact ⟨fun h _ => h, fun h => h hc⟩
  | false => exact iff_of_true (coreLaw_of_not_collects hs hc) fun h => absurd (hc.symm.trans h) Bool.false_ne_true

theorem update_of_law (hs : CoreInv t s) (he : e.collects = true) (hlaw : CoreLaw t fnom s e) :
    ∃ u f : BitVec 32, u.toNat = rolling t.interval.toNat 100 ((s.core.utilSample e.data).toNat :: s.utils) ∧
      f.toNat = rolling t.interval.toNat 100 ((s.core.freqSample e.data e.tod).1.toNat :: s.freqs) ∧
      ∃ nutil, s.core.updateProcCoreSensors t.interval fnom e = some (collected s e u f nutil) := by
  obtain ⟨u, f, hu, hf, hzero, hdivided⟩ := @update_collects t fnom s e hs he
  refine ⟨u, f, hu, hf, ?_⟩
  by_cases hnone : f = 0
  · exact ⟨_, hzero hnone⟩
  · have hcall := hdivided hnone
    cases hn : normalized fnom u f with
    | none =>
      rw [hn] at hcall
      exact absurd hcall hlaw.divides
    | some n =>
      rw [hn] at hcall
      exact ⟨_, hcall⟩

theorem coreInv_next (hs : CoreInv t s) (hok : s.Fine t fnom e) : CoreInv t (s.next t fnom e) := by
  cases hc : e.collects with
  | true =>
    obtain ⟨u, f, hu, hf, nutil, hcall⟩ := update_of_law hs hc ((coreLaw_iff hs).2 hok)
    obtain ⟨hsmall, -⟩ := (utilSample_iff hs).2 (hok hc).utilization
    obtain ⟨hfresh, hclean⟩ := Bool.and_eq_true_iff.1 hc
    obtain ⟨hnoerror, -⟩ := Bool.and_eq_true_iff.1 hclean
    have hnext : s.next t fnom e = ⟨collected s e u f nutil, e.data, e.data, (s.core.utilSample e.data).toNat :: s.utils,
        (s.core.freqSample e.data e.tod).1.toNat :: s.freqs⟩ := by
      unfold CoreRun.next
      rw [hcall, hc, hfresh, hnoerror]
      rfl
    rw [hnext]
    exact ⟨countSample_toNat hs.count, congrArg Nat.succ hs.lengths, List.forall_mem_cons.2 ⟨hsmall, hs.utils⟩,
      List.forall_mem_cons.2 ⟨Nat.le_of_lt_succ (BitVec.isLt _), hs.freqs⟩, hs.util.update _, accumulates_freqSample hs, hu, hf,
      ⟨rfl, rfl, rfl⟩, rfl, fun _ => rfl⟩
  | false =>
    cases hi : e.idles with
    | true =>
      obtain ⟨u, f, hu, hf, hcall⟩ := @update_idles t fnom s e hs hi
      have hstale : e.fresh = false := (idles_iff.1 hi).1
      have hnext : s.next t fnom e = ⟨offline s e u f, s.base, s.threadBase, 0 :: s.utils, 0 :: s.freqs⟩ := by
        unfold CoreRun.next
        rw [hcall, hc, hi, hstale]
        rfl
      rw [hnext]
      exact ⟨countSample_toNat hs.count, congrArg Nat.succ hs.lengths, List.forall_mem_cons.2 ⟨Nat.zero_le _, hs.utils⟩,
        List.forall_mem_cons.2 ⟨Nat.zero_le _, hs.freqs⟩, hs.util.update _, hs.freqa.update _, hu, hf, hs.base, hs.threadBase⟩
    | false =>
      have hcall := @update_quiet t fnom s e hc hi
      have hnext : s.next t fnom e = ⟨if e.fresh then s.core.savePrevious e.data e.empathError else s.core,
          if e.fresh && !e.empathError then e.data else s.base, if e.fresh then e.data else s.threadBase, s.utils, s.freqs⟩ := by
        unfold CoreRun.next
        rw [hcall, hc, hi]
        rfl
      rw [hnext]
      obtain ⟨hcount, hlengths, hutils, hfreqs, hutil, hfreqa, havgUtil, havgFreq, hbase, hthread⟩ := hs
      cases e.fresh with
      | true =>
        refine ⟨hcount, hlengths, hutils, hfreqs, hutil, hfreqa, havgUtil, havgFreq, ?_, rfl, fun _ => rfl⟩
        cases e.empathError with
        | true => exact hbase
        | false => exact ⟨rfl, rfl, rfl⟩
      | false => exact ⟨hcount, hlengths, hutils, hfreqs, hutil, hfreqa, havgUtil, havgFreq, hbase, hthread⟩

/-- All calls of a run keep the law if and only if they all meet the condition. -/
theorem coreLaw_run {calls : List CoreCall} : Run (Guarded (CoreLaw t fnom) (CoreRun.Step t fnom)) .init calls s ↔
    Run (Guarded (CoreRun.Fine t fnom) (CoreRun.Step t fnom)) .init calls s := by
  refine Transition.run_guarded_congr_of (P := CoreInv t) ?_ (fun _ _ _ hs _ => coreLaw_iff hs) coreInv_init
  rintro s e s' hs hok rfl
  exact coreInv_next hs hok

/-- A call that finds the core offline, the one that finds it back, and the next one, 8 ms later, for which the core ran at 37 MHz. -/
def idleCall : CoreCall := ⟨true, false, false, true, .zero, 0⟩

def wakeCall : CoreCall := ⟨true, true, false, true, .zero, 0⟩

def slowCall : CoreCall := ⟨true, true, false, false, { CoreData.zero with rawCycles := 296000, tod2mhz := 16000 }, 0⟩

theorem run_idle (k : Nat) : ∃ s, Run (CoreRun.Step .hw 3000) .init (List.replicate k idleCall) s ∧ CoreInv .hw s ∧
    s.freqs = List.replicate k 0 := by
  induction k with
  | zero => exact ⟨_, .nil _, coreInv_init, rfl⟩
  | succ k ih =>
    obtain ⟨s, hrun, hs, hfreqs⟩ := ih
    refine ⟨s.next .hw 3000 idleCall, ?_, coreInv_next hs fun h => absurd h Bool.false_ne_true, ?_⟩
    · rw [List.replicate_succ']
      exact hrun.append (.single rfl)
    · exact congrArg (0 :: ·) hfreqs

/-- A core that is offline for 3 s and then runs for a short time has an average below 1 MHz, which the code divides by. -/
theorem average_divides_by_zero :
    ∃ s, Run (CoreRun.Step .hw 3000) .init (List.replicate 374 idleCall ++ [wakeCall]) s ∧
      s.core.updateProcCoreSensors TickRate.hw.interval 3000 slowCall = none ∧ ¬CoreLaw .hw 3000 s slowCall := by
  obtain ⟨s, hrun, hs, hfreqs⟩ := run_idle 374
  have hwoken := @coreInv_next .hw 3000 s wakeCall hs fun h => absurd h Bool.false_ne_true
  have hfreqs' : (s.next .hw 3000 wakeCall).freqs = List.replicate 374 0 := hfreqs
  obtain ⟨u, f, -, hf, -, hdivided⟩ := @update_collects .hw 3000 _ slowCall hwoken rfl
  have hwrapped : (s.next .hw 3000 wakeCall).wrapped slowCall = 37 := by
    have hbase : (s.next .hw 3000 wakeCall).base = .zero := rfl
    unfold CoreRun.wrapped CoreRun.rawDelta CoreRun.tickDelta
    rw [hbase]
    decide
  have hsample : ((s.next .hw 3000 wakeCall).core.freqSample slowCall.data slowCall.tod).1.toNat = 37 := by
    rw [(@freqSample_spec .hw _ slowCall hwoken).1, hwrapped]
    rfl
  have hfnine : f.toNat = 9 := by
    rw [hf, hsample, hfreqs']
    refine (MovingSum.rolling_of_length (congrArg Nat.succ List.length_replicate)).trans ?_
    rw [List.sum_cons, List.sum_replicate]
    rfl
  have hne : f ≠ 0 := by
    rintro rfl
    exact absurd hfnine (by decide)
  have hnone : (s.next .hw 3000 wakeCall).core.updateProcCoreSensors TickRate.hw.interval 3000 slowCall = none := by
    rw [hdivided hne, (normalized_spec 3000 u f).1 (by omega)]
    rfl
  exact ⟨_, hrun.append (.single rfl), hnone, fun hlaw => hlaw.divides hnone⟩

end

end Occ.Amec.Core
