/-
The idle power saver (`amec_mst_ips_main` in `amec_master_smh.c`): the master counts the evaluations in which all cores of the
OCCs that are present are idle, and, while it is active, those in which a core is not. Between the evaluations new settings and
frequencies can come, and OCCs can show up; none is ever removed from those that are present.

The idle power saver over whole runs: what its counts count, and so what it becomes active and inactive after.
-/
import Occ.Amec.OverCap
import Occ.Proc.Pstate
import Occ.Lib.Transition
import Mathlib.Logic.Function.Basic
import Mathlib.Data.List.Nodup
import Mathlib.Data.List.FinRange
import Occ.Lib.Literals

namespace Occ.Amec.Ips

open Occ.Proc Transition
open Function (update)

/-! ## Model -/

/-- Where the OCC runs, and the frequencies of its PGPE, in MHz of 16 bits. -/
structure System where
  simics : Bool
  oppb : Oppb
  mhz : 1000 ≤ oppb.frequencyMinKhz.toNat ∧ oppb.frequencyMinKhz.toNat < 65536000

/-- `AMEC_DPS_SAMPLING_RATE` -/
def samplingRate (c : System) : Nat := 1000000 / (micsPerTick c.simics * 16)

/-- `l_time_interval`: the samples of 3 seconds. -/
def timeInterval (c : System) : BitVec 16 := BitVec.ofNat 16 (samplingRate c * 3)

/-- A core of an OCC. -/
abbrev Place := Fin 8 × Fin 24

/-- `amec_ips_t` -/
structure IpsParms where
  enable : BitVec 8
  active : Bool
  freqRequest : BitVec 16
  entryThreshold : BitVec 16
  exitThreshold : BitVec 16
  entryDelay : BitVec 32
  exitDelay : BitVec 32

/-- `cmdh_ips_config_data_t` -/
structure IpsConfigData where
  ipsEnabled : BitVec 8
  delayTimeforEntry : BitVec 16
  utilizationForEntry : BitVec 8
  delayTimeforExit : BitVec 16
  utilizationForExit : BitVec 8
deriving DecidableEq, Repr

structure IpsState where
  parms : IpsParms
  /-- `G_ips_entry_count` and `G_ips_exit_count` -/
  entryCount : BitVec 32
  exitCount : Place → BitVec 32
  isOccPresent : BitVec 8
  /-- `sys_mode_freq.table[OCC_MODE_MIN_FREQUENCY]` -/
  minFrequency : BitVec 16

def IpsState.boot : IpsState where
  parms := ⟨0, false, 0, 0, 0, 0, 0⟩
  entryCount := 0
  exitCount _ := 0
  isOccPresent := 0
  minFrequency := 2575

namespace IpsState

variable (c : System) (s : IpsState)

/-- `G_sysConfigData.is_occ_present & (1<<i)` -/
def present (i : Fin 8) : Bool := s.isOccPresent.getLsbD i

/-- The cores of the OCCs that are present, in the order of the loops. -/
def places : List Place :=
  ((List.finRange 8).filter s.present).flatMap fun i => (List.finRange 24).map fun j => (i, j)

/-- The loops over the cores of an active saver, with whether a core has met the exit criteria. -/
def exitLoop (p : IpsParms) (nutil : Place → BitVec 16) : List Place → (Place → BitVec 32) → (Place → BitVec 32) × Bool
  | [], count => (count, false)
  | i :: is, count =>
    if p.exitThreshold ≤ nutil i then
      let count := update count i (count i + (timeInterval c).setWidth 32)
      if p.exitDelay ≤ count i then (count, true) else exitLoop p nutil is count
    else exitLoop p nutil is (update count i 0)

/-- A saver that is active. -/
def checkExit (nutil : Place → BitVec 16) : IpsState :=
  let r := exitLoop c s.parms nutil s.places s.exitCount
  let s := { s with exitCount := r.1 }
  if r.2 then { s with parms := { s.parms with active := false, freqRequest := 0 }, entryCount := 0 } else s

/-- The cores whose utilization is below the threshold: `l_entry_core_count` is their number. -/
def entryCores (nutil : Place → BitVec 16) : List Place :=
  s.places.filter fun i => decide (nutil i < s.parms.entryThreshold)

/-- A saver that is not active. -/
def checkEntry (nutil : Place → BitVec 16) : IpsState :=
  let entryCount := if s.places.any fun i => decide (¬nutil i < s.parms.entryThreshold) then 0 else s.entryCount
  if (s.entryCores nutil).length = s.places.length then
    let entryCount := entryCount + (timeInterval c).setWidth 32
    if s.parms.entryDelay ≤ entryCount then
      { s with
        parms := { s.parms with active := true, freqRequest := s.minFrequency }
        entryCount := entryCount
        exitCount := fun i => if s.present i.1 then 0 else s.exitCount i }
    else { s with entryCount := entryCount }
  else { s with entryCount := entryCount }

/-- `amec_mst_ips_main` -/
def amecMstIpsMain (nutil : Place → BitVec 16) : IpsState :=
  if s.parms.enable = 0 then
    { s with parms := { s.parms with active := false, freqRequest := 0 }, entryCount := 0 }
  else if s.parms.active then s.checkExit c nutil
  else s.checkEntry c nutil

/-- `AMEC_data_write_ips_cnfg` -/
def amecDataWriteIpsCnfg (d : IpsConfigData) : IpsState :=
  { s with
    parms := { s.parms with
      entryDelay := d.delayTimeforEntry.setWidth 32 * BitVec.ofNat 32 (samplingRate c)
      exitDelay := d.delayTimeforExit.setWidth 32 * BitVec.ofNat 32 (samplingRate c)
      entryThreshold := d.utilizationForEntry.setWidth 16 * 100
      exitThreshold := d.utilizationForExit.setWidth 16 * 100
      enable := d.ipsEnabled } }

/-- The minimum frequency of `data_store_freq_data`, which is not below that of the PGPE. -/
def storeMinFrequency (freq : BitVec 16) : IpsState :=
  { s with
    minFrequency :=
      if freq.setWidth 32 * 1000 < c.oppb.frequencyMinKhz then (c.oppb.frequencyMinKhz / 1000).setWidth 16 else freq }

/-- OCCs that respond; those that are present are only set and never cleared. -/
def respond (mask : BitVec 8) : IpsState := { s with isOccPresent := s.isOccPresent ||| mask }

end IpsState

/-! ## Runs -/

inductive IpsEvent
  | config (d : IpsConfigData)
  | frequency (freq : BitVec 16)
  | respond (mask : BitVec 8)
  /-- `nutil3sp0cy` of all OCCs -/
  | evaluate (nutil : Place → BitVec 16)

/-- An evaluation: the state it finds, and the utilizations. -/
structure Evaluation where
  state : IpsState
  nutil : Place → BitVec 16

def IpsState.step (c : System) (s : IpsState) : IpsEvent → IpsState
  | .config d => s.amecDataWriteIpsCnfg c d
  | .frequency freq => s.storeMinFrequency c freq
  | .respond mask => s.respond mask
  | .evaluate nutil => s.amecMstIpsMain c nutil

/-- A step, with the evaluations so far, the latest first. -/
def ipsStep (c : System) (t : IpsState × List Evaluation) (e : IpsEvent) : Option (IpsState × List Evaluation) :=
  some (t.1.step c e, match e with
    | .evaluate nutil => ⟨t.1, nutil⟩ :: t.2
    | _ => t.2)

end Occ.Amec.Ips

namespace Occ.Amec.Ips

open Occ.Proc Transition
open Function (update)

attribute [local instance] neZero_eight neZero_twentyFour

/-! ## The law -/

/-- All cores of the OCCs that are present are below the entry utilization. -/
def Idle (e : Evaluation) : Prop :=
  e.state.parms.enable ≠ 0 ∧ ∀ p : Place, e.state.present p.1 = true → e.nutil p < e.state.parms.entryThreshold

/-- A core is at or above the exit utilization. -/
def BusyAt (p : Place) (e : Evaluation) : Prop :=
  e.state.parms.enable ≠ 0 ∧ e.state.present p.1 = true ∧ e.state.parms.exitThreshold ≤ e.nutil p

/-- Some core is above the exit utilization. -/
def SomeAbove (e : Evaluation) : Prop :=
  e.state.parms.enable ≠ 0 ∧ ∃ p : Place, e.state.present p.1 = true ∧ e.state.parms.exitThreshold < e.nutil p

/-- Some core is at or above the exit utilization. -/
def SomeAtOrAbove (e : Evaluation) : Prop := ∃ p, BusyAt p e

/-- The latest evaluations, at least one and all of one kind, cover a delay. -/
def Covers (c : System) (delay : BitVec 32) (P : Evaluation → Prop) (h : List Evaluation) : Prop :=
  ∃ k ≤ h.length, 0 < k ∧ delay.toNat ≤ k * (timeInterval c).toNat ∧ ∀ e ∈ h.take k, P e

/-- What a step does to the saver; `exits` are the evaluations that count for the exit. -/
structure IpsLaw (c : System) (exits : Evaluation → Prop) (t t' : IpsState × List Evaluation) : Prop where
  entry : t.1.parms.active = false → t'.1.parms.active = true → Covers c t.1.parms.entryDelay Idle t'.2
  exit : t.1.parms.active = true → t'.1.parms.active = false →
    t.1.parms.enable = 0 ∨ Covers c t.1.parms.exitDelay exits t'.2
  request : t'.1.parms.freqRequest ≠ 0 ↔ t'.1.parms.active = true

/-! ## Counts -/

/-- A count of samples is at most that of the latest evaluations of one kind. -/
def Counted (c : System) (count : BitVec 32) (P : Evaluation → Prop) (h : List Evaluation) : Prop :=
  ∃ k ≤ h.length, count.toNat ≤ k * (timeInterval c).toNat ∧ ∀ e ∈ h.take k, P e

section
variable {c : System} {count delay : BitVec 32} {P Q : Evaluation → Prop} {h : List Evaluation} {e : Evaluation}

theorem Counted.zero : Counted c 0 P h := ⟨0, Nat.zero_le _, Nat.zero_le _, fun e he => absurd he (by simp)⟩

theorem take_succ_all {k : Nat} (he : P e) (hall : ∀ f ∈ h.take k, P f) : ∀ f ∈ (e :: h).take (k + 1), P f := by
  rw [List.take_succ_cons]
  rintro f hf
  obtain rfl | hf := List.mem_cons.1 hf
  · exact he
  · exact hall f hf

theorem toNat_add_timeInterval_le {k : Nat} (hle : count.toNat ≤ k * (timeInterval c).toNat) :
    (count + (timeInterval c).setWidth 32).toNat ≤ (k + 1) * (timeInterval c).toNat := by
  rw [BitVec.toNat_add, BitVec.toNat_setWidth_of_le (by decide), Nat.succ_mul]
  exact (Nat.mod_le _ _).trans (Nat.add_le_add_right hle _)

theorem Counted.succ (hcount : Counted c count P h) (he : P e) :
    Counted c (count + (timeInterval c).setWidth 32) P (e :: h) := by
  obtain ⟨k, hk, hle, hall⟩ := hcount
  exact ⟨k + 1, Nat.succ_le_succ hk, toNat_add_timeInterval_le hle, take_succ_all he hall⟩

theorem Counted.covers (hcount : Counted c count P h) (he : P e) (hdelay : delay ≤ count + (timeInterval c).setWidth 32)
    (hPQ : ∀ e, P e → Q e) : Covers c delay Q (e :: h) := by
  obtain ⟨k, hk, hle, hall⟩ := hcount
  exact ⟨k + 1, Nat.succ_le_succ hk, Nat.succ_pos k, Nat.le_trans hdelay (toNat_add_timeInterval_le hle),
    fun f hf => hPQ f (take_succ_all he hall f hf)⟩

end

/-! ## The loops -/

section
variable {c : System} {s : IpsState} {nutil : Place → BitVec 16} {p : Place}

theorem mem_places : p ∈ s.places ↔ s.present p.1 = true := by
  obtain ⟨i, j⟩ := p
  unfold IpsState.places
  rw [List.mem_flatMap]
  constructor
  · rintro ⟨a, ha, hp⟩
    obtain ⟨b, -, heq⟩ := List.mem_map.1 hp
    obtain ⟨rfl, rfl⟩ := Prod.mk.inj heq
    exact (List.mem_filter.1 ha).2
  · rintro hi
    exact ⟨i, List.mem_filter.2 ⟨List.mem_finRange i, hi⟩, List.mem_map.2 ⟨j, List.mem_finRange j, rfl⟩⟩

theorem nodup_places : s.places.Nodup := by
  unfold IpsState.places
  rw [List.nodup_flatMap]
  refine ⟨fun i _ => (List.nodup_finRange 24).map fun _ _ h => (Prod.mk.inj h).2, ?_⟩
  refine ((List.nodup_finRange 8).filter _).imp ?_
  rintro i k hne
  refine List.disjoint_left.2 fun q hi hk => ?_
  obtain ⟨j, -, rfl⟩ := List.mem_map.1 hi
  obtain ⟨l, -, heq⟩ := List.mem_map.1 hk
  exact hne (Prod.mk.inj heq).1.symm

/-- The loops find a core whose count reaches the delay, or else count or clear all; the other cores they leave alone. -/
structure ExitLoop (c : System) (parms : IpsParms) (nutil : Place → BitVec 16) (is : List Place) (count : Place → BitVec 32)
    (r : (Place → BitVec 32) × Bool) : Prop where
  others : ∀ p ∉ is, r.1 p = count p
  found : r.2 = true →
    ∃ p ∈ is, parms.exitThreshold ≤ nutil p ∧ parms.exitDelay ≤ count p + (timeInterval c).setWidth 32
  all : r.2 = false → ∀ p ∈ is,
    parms.exitThreshold ≤ nutil p ∧ r.1 p = count p + (timeInterval c).setWidth 32 ∨ r.1 p = 0

theorem exitLoop_spec (parms : IpsParms) {is : List Place} (hnodup : is.Nodup) (count : Place → BitVec 32) :
    ExitLoop c parms nutil is count (IpsState.exitLoop c parms nutil is count) := by
  induction is generalizing count with
  | nil => exact ⟨fun _ _ => rfl, nofun, fun _ => nofun⟩
  | cons i is ih =>
    obtain ⟨hi, hnodup⟩ := List.nodup_cons.1 hnodup
    -- what the rest of the list leaves to say, for a count that differs at the first core only
    have hrest : ∀ value, (parms.exitThreshold ≤ nutil i ∧ value = count i + (timeInterval c).setWidth 32 ∨ value = 0) →
        ExitLoop c parms nutil (i :: is) count (IpsState.exitLoop c parms nutil is (update count i value)) := by
      rintro value hvalue
      obtain ⟨hothers, hfound, hall⟩ := ih hnodup (update count i value)
      have hne : ∀ p ∈ is, p ≠ i := fun p hp heq => hi (heq ▸ hp)
      refine ⟨fun p hp => ?_, fun htrue => ?_, fun hfalse p hp => ?_⟩
      · obtain ⟨hpi, hp⟩ := not_or.1 (mt List.mem_cons.2 hp)
        rw [hothers p hp, Function.update_of_ne hpi]
      · obtain ⟨p, hp, hbusy⟩ := hfound htrue
        rw [Function.update_of_ne (hne p hp)] at hbusy
        exact ⟨p, List.mem_cons_of_mem i hp, hbusy⟩
      · obtain rfl | hp := List.mem_cons.1 hp
        · rw [hothers p hi, Function.update_self]
          exact hvalue
        · have hone := hall hfalse p hp
          rw [Function.update_of_ne (hne p hp)] at hone
          exact hone
    unfold IpsState.exitLoop
    by_cases hbusy : parms.exitThreshold ≤ nutil i
    · rw [if_pos hbusy]
      dsimp only
      rw [Function.update_self]
      by_cases hdelay : parms.exitDelay ≤ count i + (timeInterval c).setWidth 32
      · rw [if_pos hdelay]
        refine ⟨fun p hp => ?_, fun _ => ⟨i, List.mem_cons_self, hbusy, hdelay⟩, nofun⟩
        obtain ⟨hpi, -⟩ := not_or.1 (mt List.mem_cons.2 hp)
        exact Function.update_of_ne hpi _ _
      · rw [if_neg hdelay]
        exact hrest _ (.inl ⟨hbusy, rfl⟩)
    · rw [if_neg hbusy]
      exact hrest 0 (.inr rfl)

theorem length_entryCores_iff : (s.entryCores nutil).length = s.places.length ↔
    ∀ p : Place, s.present p.1 = true → nutil p < s.parms.entryThreshold := by
  unfold IpsState.entryCores
  rw [List.length_filter_eq_length_iff]
  constructor
  · rintro hall p hp
    exact of_decide_eq_true (hall p (mem_places.2 hp))
  · rintro hall p hp
    exact decide_eq_true (hall p (mem_places.1 hp))

end

/-! ## Runs -/

/-- What the states of a run have: each count that is in use is that of evaluations of its kind. -/
structure IpsInv (c : System) (s : IpsState) (h : List Evaluation) : Prop where
  entry : s.parms.active = false → Counted c s.entryCount Idle h
  exit : s.parms.active = true → ∀ p, Counted c (s.exitCount p) (BusyAt p) h
  absent : ∀ p : Place, s.present p.1 = false → s.exitCount p = 0
  request : s.parms.freqRequest ≠ 0 ↔ s.parms.active = true
  minFrequency : s.minFrequency ≠ 0

section
variable {c : System} {s : IpsState} {h : List Evaluation}

theorem ipsInv_boot : IpsInv c .boot [] where
  entry _ := .zero
  exit := nofun
  absent _ _ := rfl
  request := ⟨fun hne => absurd rfl hne, nofun⟩
  minFrequency := by decide

/-- An active saver that is enabled: it counts and goes on, or it finds a core that covers the delay. -/
theorem IpsInv.checkExit (hinv : IpsInv c s h) (henable : s.parms.enable ≠ 0) (hactive : s.parms.active = true)
    (nutil : Place → BitVec 16) :
    IpsInv c (s.checkExit c nutil) (⟨s, nutil⟩ :: h) ∧ ((s.checkExit c nutil).parms.active = false →
      Covers c s.parms.exitDelay SomeAtOrAbove (⟨s, nutil⟩ :: h)) := by
  obtain ⟨-, hexit, habsent, hrequest, hmin⟩ := hinv
  obtain ⟨hothers, hfound, hall⟩ := @exitLoop_spec c nutil s.parms s.places nodup_places s.exitCount
  have hleft : ∀ p : Place, s.present p.1 = false →
      (IpsState.exitLoop c s.parms nutil s.places s.exitCount).1 p = 0 := by
    rintro p hp
    rw [hothers p fun hmem => absurd (mem_places.1 hmem) (by rw [hp]; decide)]
    exact habsent p hp
  unfold IpsState.checkExit
  dsimp only
  generalize IpsState.exitLoop c s.parms nutil s.places s.exitCount = r at *
  obtain ⟨count, _ | _⟩ := r
  · rw [if_neg Bool.false_ne_true]
    refine ⟨⟨fun hno => absurd hactive (by rw [hno]; decide), fun _ p => ?_, hleft, hrequest, hmin⟩,
      fun hno => absurd hactive (by rw [hno]; decide)⟩
    show Counted c ((count, false).1 p) _ _
    obtain hp | hp := Bool.eq_false_or_eq_true (s.present p.1)
    · obtain ⟨hbusy, hcount⟩ | hzero := hall rfl p (mem_places.2 hp)
      · rw [hcount]
        exact (hexit hactive p).succ ⟨henable, hp, hbusy⟩
      · rw [hzero]
        exact .zero
    · rw [hleft p hp]
      exact .zero
  · rw [if_pos rfl]
    refine ⟨⟨fun _ => .zero, nofun, hleft, ⟨fun hne => absurd rfl hne, nofun⟩, hmin⟩, fun _ => ?_⟩
    obtain ⟨p, hp, hbusy, hdelay⟩ := hfound rfl
    exact (hexit hactive p).covers ⟨henable, mem_places.1 hp, hbusy⟩ hdelay fun e he => ⟨p, he⟩

/-- A saver that is enabled and not active: it clears its count, or it counts, and becomes active when the count covers the
delay. -/
theorem IpsInv.checkEntry (hinv : IpsInv c s h) (henable : s.parms.enable ≠ 0) (hactive : s.parms.active = false)
    (nutil : Place → BitVec 16) :
    IpsInv c (s.checkEntry c nutil) (⟨s, nutil⟩ :: h) ∧ ((s.checkEntry c nutil).parms.active = true →
      Covers c s.parms.entryDelay Idle (⟨s, nutil⟩ :: h)) := by
  obtain ⟨hentry, -, habsent, hrequest, hmin⟩ := hinv
  have hstill : ¬s.parms.active = true := by
    rw [hactive]
    decide
  unfold IpsState.checkEntry
  dsimp only
  by_cases hidle : (s.entryCores nutil).length = s.places.length
  · have hbelow := length_entryCores_iff.1 hidle
    have hany : ¬(s.places.any fun i => decide (¬nutil i < s.parms.entryThreshold)) = true := by
      rw [List.any_eq_true]
      rintro ⟨p, hp, hnot⟩
      exact of_decide_eq_true hnot (hbelow p (mem_places.1 hp))
    have hnow : Idle ⟨s, nutil⟩ := ⟨henable, hbelow⟩
    rw [if_pos hidle, if_neg hany]
    by_cases hdelay : s.parms.entryDelay ≤ s.entryCount + (timeInterval c).setWidth 32
    · rw [if_pos hdelay]
      have hcleared : ∀ p : Place, (if s.present p.1 then 0 else s.exitCount p) = 0 := by
        rintro p
        obtain hp | hp := Bool.eq_false_or_eq_true (s.present p.1)
        · rw [if_pos hp]
        · rw [if_neg (by rw [hp]; decide), habsent p hp]
      refine ⟨⟨nofun, fun _ p => ?_, fun p _ => hcleared p, ⟨fun _ => rfl, fun _ => hmin⟩, hmin⟩, fun _ => ?_⟩
      · show Counted c (if s.present p.1 then 0 else s.exitCount p) _ _
        rw [hcleared p]
        exact .zero
      · exact (hentry hactive).covers hnow hdelay fun _ he => he
    · rw [if_neg hdelay]
      exact ⟨⟨fun _ => (hentry hactive).succ hnow, fun hon => absurd hon hstill, habsent, hrequest, hmin⟩, fun hon => absurd hon hstill⟩
  · have hany : (s.places.any fun i => decide (¬nutil i < s.parms.entryThreshold)) = true := by
      rw [List.any_eq_true]
      obtain ⟨p, hp⟩ := not_forall.1 (mt length_entryCores_iff.2 hidle)
      obtain ⟨hpresent, hnot⟩ := Classical.not_imp.1 hp
      exact ⟨p, mem_places.2 hpresent, decide_eq_true hnot⟩
    rw [if_neg hidle, if_pos hany]
    exact ⟨⟨fun _ => .zero, fun hon => absurd hon hstill, habsent, hrequest, hmin⟩, fun hon => absurd hon hstill⟩

theorem storeMinFrequency_ne (freq : BitVec 16) : (s.storeMinFrequency c freq).minFrequency ≠ 0 := by
  obtain ⟨hlow, hhigh⟩ := c.mhz
  have hthousand : (1000 : BitVec 32).toNat = 1000 := rfl
  have hfreq := freq.isLt
  unfold IpsState.storeMinFrequency
  dsimp only
  split_ifs with hclip
  · rintro hzero
    have hnat := congrArg BitVec.toNat hzero
    rw [BitVec.toNat_setWidth, BitVec.toNat_udiv, hthousand] at hnat
    have hsmall : c.oppb.frequencyMinKhz.toNat / 1000 < 2 ^ 16 := by omega
    rw [Nat.mod_eq_of_lt hsmall] at hnat
    have hzero' : c.oppb.frequencyMinKhz.toNat / 1000 = 0 := hnat
    omega
  · rintro rfl
    have hle : c.oppb.frequencyMinKhz.toNat ≤ ((0 : BitVec 16).setWidth 32 * 1000).toNat := Nat.not_lt.1 hclip
    have hnone : ((0 : BitVec 16).setWidth 32 * 1000).toNat = 0 := rfl
    omega

theorem present_respond (mask : BitVec 8) {i : Fin 8} (hi : (s.respond mask).present i = false) : s.present i = false := by
  unfold IpsState.present IpsState.respond at hi
  dsimp only at hi
  rw [BitVec.getLsbD_or, Bool.or_eq_false_iff] at hi
  exact hi.1

/-- One step keeps the invariant and has the law. -/
theorem IpsInv.step (hinv : IpsInv c s h) {e : IpsEvent} {t' : IpsState × List Evaluation}
    (hstep : ipsStep c (s, h) e = some t') : IpsInv c t'.1 t'.2 ∧ IpsLaw c SomeAtOrAbove (s, h) t' := by
  obtain rfl := Option.some.inj hstep
  have hsame : ∀ s' : IpsState, s'.parms.active = s.parms.active → s'.parms.freqRequest = s.parms.freqRequest →
      IpsLaw c SomeAtOrAbove (s, h) (s', h) := by
    rintro s' hactive hrequest
    refine ⟨fun hoff hon => ?_, fun hon hoff => ?_, ?_⟩
    · exact absurd (hactive.symm.trans hon) (by rw [show s.parms.active = false from hoff]; decide)
    · exact absurd (hactive.symm.trans hoff) (by rw [show s.parms.active = true from hon]; decide)
    · show s'.parms.freqRequest ≠ 0 ↔ s'.parms.active = true
      rw [hactive, hrequest]
      exact hinv.request
  cases e with
  | config d => exact ⟨⟨hinv.entry, hinv.exit, hinv.absent, hinv.request, hinv.minFrequency⟩, hsame _ rfl rfl⟩
  | frequency freq =>
    exact ⟨⟨hinv.entry, hinv.exit, hinv.absent, hinv.request, storeMinFrequency_ne freq⟩, hsame _ rfl rfl⟩
  | respond mask =>
    exact ⟨⟨hinv.entry, hinv.exit, fun p hp => hinv.absent p (present_respond mask hp), hinv.request, hinv.minFrequency⟩,
      hsame _ rfl rfl⟩
  | evaluate nutil =>
    show IpsInv c (s.amecMstIpsMain c nutil) (⟨s, nutil⟩ :: h) ∧
      IpsLaw c SomeAtOrAbove (s, h) (s.amecMstIpsMain c nutil, ⟨s, nutil⟩ :: h)
    unfold IpsState.amecMstIpsMain
    by_cases henable : s.parms.enable = 0
    · rw [if_pos henable]
      have hoff : (0 : BitVec 16) ≠ 0 ↔ false = true := ⟨fun hne => absurd rfl hne, nofun⟩
      exact ⟨⟨fun _ => .zero, nofun, hinv.absent, hoff, hinv.minFrequency⟩, nofun, fun _ _ => .inl henable, hoff⟩
    · rw [if_neg henable]
      obtain hactive | hactive := Bool.eq_false_or_eq_true s.parms.active
      · rw [if_pos hactive]
        obtain ⟨hnext, hleave⟩ := hinv.checkExit henable hactive nutil
        exact ⟨hnext, fun hoff => absurd hactive (by rw [show s.parms.active = false from hoff]; decide),
          fun _ hoff => .inr (hleave hoff), hnext.request⟩
      · rw [if_neg (by rw [hactive]; decide)]
        obtain ⟨hnext, henter⟩ := hinv.checkEntry henable hactive nutil
        exact ⟨hnext, fun _ hon => henter hon,
          fun hon => absurd hactive (by rw [show s.parms.active = true from hon]; decide), hnext.request⟩

/-- After every run, a step has the law. -/
theorem ipsLaw_run {es : List IpsEvent} {t t' : IpsState × List Evaluation} {e : IpsEvent}
    (hrun : Run (StepOf (ipsStep c)) (.boot, []) es t) (hstep : StepOf (ipsStep c) t e t') :
    IpsLaw c SomeAtOrAbove t t' := by
  have hinv : IpsInv c t.1 t.2 := hrun.invariant (P := fun t : IpsState × List Evaluation => IpsInv c t.1 t.2)
    (fun _ _ _ hinv hstep => (hinv.step hstep).1) ipsInv_boot
  exact (hinv.step hstep).2

end

/-- A system on the hardware, with a minimum of 2 GHz. -/
def system : System where
  simics := false
  oppb := ⟨oppbMagicNumber10, 2000000, 4000000, 16666, 120, true⟩
  mhz := by decide

/-- Both thresholds are 10 %, and the delays 3 seconds. -/
def threeSeconds : IpsConfigData := ⟨1, 3, 10, 3, 10⟩

/-- The first core of the first OCC, and no other, has a utilization. -/
def firstCore (utilization : BitVec 16) : Place → BitVec 16 := fun p => if p = (0, 0) then utilization else 0

/-- The saver becomes active after an evaluation of idle cores. -/
def idleRun : List IpsEvent := [.config threeSeconds, .respond 1, .evaluate (firstCore 0)]

def idleState : IpsState × List Evaluation :=
  (((IpsState.boot.amecDataWriteIpsCnfg system threeSeconds).respond 1).amecMstIpsMain system (firstCore 0),
    [⟨(IpsState.boot.amecDataWriteIpsCnfg system threeSeconds).respond 1, firstCore 0⟩])

theorem run_idle : Run (StepOf (ipsStep system)) (.boot, []) idleRun idleState :=
  .cons rfl (.cons rfl (.single rfl))

/-- One core of 11 % for 3 seconds makes it inactive again. -/
theorem ipsLaw_run_idle : ∃ t', ipsStep system idleState (.evaluate (firstCore 1100)) = some t' ∧
    t'.1.parms.active = false ∧ IpsLaw system SomeAtOrAbove idleState t' :=
  ⟨_, rfl, by decide, ipsLaw_run run_idle rfl⟩

/-- A core that is at the exit utilization makes it inactive as well, without one above it. -/
theorem inactive_at_threshold : Run (StepOf (ipsStep system)) (.boot, []) idleRun idleState ∧
    idleState.1.parms.active = true ∧ idleState.1.parms.enable = 1 ∧
      ∃ t', StepOf (ipsStep system) idleState (.evaluate (firstCore 1000)) t' ∧ t'.1.parms.active = false ∧
        ¬IpsLaw system SomeAbove idleState t' := by
  have hactive : idleState.1.parms.active = true := by decide
  refine ⟨run_idle, hactive, rfl, _, rfl, by decide, ?_⟩
  rintro ⟨-, hexit, -⟩
  obtain hoff | ⟨k, -, hpos, -, hall⟩ := hexit hactive (by decide)
  · exact absurd hoff (by decide)
  · obtain ⟨n, rfl⟩ : ∃ n, k = n + 1 := ⟨k - 1, by omega⟩
    obtain ⟨-, p, -, habove⟩ := hall ⟨idleState.1, firstCore 1000⟩ List.mem_cons_self
    have hle : firstCore 1000 p ≤ idleState.1.parms.exitThreshold := by
      unfold firstCore
      split_ifs
      · decide
      · exact Nat.zero_le _
    exact absurd habove (Nat.not_lt.2 hle)

end Occ.Amec.Ips
