/-
Persistent power over the cap (`amec_master_smh.c`): the master counts the ticks in a row at which all that can
be done has been done and the power is still over a hard cap, and requests a reset at a threshold. The count is
a byte, and the threshold with GPUs is two seconds of ticks.
-/
import Mathlib.Tactic.Common

namespace Occ.Amec

/-! ## `amec_mst_check_under_pcap` -/

/-- `MICS_PER_TICK`, on the hardware and in a simulation. -/
def micsPerTick (simics : Bool) : Nat := if simics then 20000 else 500

def pcapFailureThreshold : Nat := 32
def pcapGpuFailureThreshold (simics : Bool) : Nat := 2000000 / micsPerTick simics

/-- What a call finds. -/
structure PcapTick where
  ppbFmax : BitVec 16
  fmin : BitVec 16
  pwrsys : BitVec 16
  activeNodePcap : BitVec 16
  hardMinPcap : BitVec 16
  activeMemLevel : BitVec 8
  ignorePgpeError : Bool
  firstNumGpusSys : BitVec 32
deriving DecidableEq, Repr

/-- The user data of the log that comes with the request of a reset. -/
structure PcapErrl where
  activeNodePcap : BitVec 16
  pwrsys : BitVec 16
deriving DecidableEq, Repr

structure OverCap where
  /-- `G_over_cap_count` -/
  overCapCount : BitVec 8
  /-- the error history of `ERRH_OVER_PCAP_IGNORED` -/
  overPcapIgnored : BitVec 8
deriving DecidableEq, Repr

/-- Everything has been done to shed power, which is over a hard cap. -/
def PcapTick.overPower (t : PcapTick) : Bool :=
  t.ppbFmax == t.fmin && decide (t.activeNodePcap < t.pwrsys) && decide (t.hardMinPcap ≤ t.activeNodePcap) &&
    t.activeMemLevel != 0

/-- The threshold of the system. -/
def PcapTick.threshold (simics : Bool) (t : PcapTick) : Nat :=
  if t.firstNumGpusSys = 0 then pcapFailureThreshold else pcapGpuFailureThreshold simics

/-- `amec_mst_check_under_pcap`, with the log of the reset that it requests. -/
def OverCap.check (simics : Bool) (k : OverCap) (t : PcapTick) : OverCap × Option PcapErrl :=
  if t.overPower then
    if t.ignorePgpeError then
      ({ overCapCount := 0
         overPcapIgnored := if k.overPcapIgnored.toNat < 255 then k.overPcapIgnored + 1 else k.overPcapIgnored }, none)
    else
      let k := { k with overCapCount := k.overCapCount + 1 }
      if (t.firstNumGpusSys = 0 ∧ pcapFailureThreshold ≤ k.overCapCount.toNat) ∨
          (t.firstNumGpusSys ≠ 0 ∧ pcapGpuFailureThreshold simics ≤ k.overCapCount.toNat) then
        (k, some ⟨t.activeNodePcap, t.pwrsys⟩)
      else (k, none)
  else ({ k with overCapCount := 0 }, none)

/-- After some calls, the latest first. -/
def OverCap.after (simics : Bool) : List PcapTick → OverCap
  | [] => ⟨0, 0⟩
  | t :: ts => ((OverCap.after simics ts).check simics t).1

/-! ## Ticks in a row -/

/-- The over-cap condition, unless PGPE errors are ignored. -/
def PcapTick.overCap (t : PcapTick) : Bool := t.overPower && !t.ignorePgpeError

/-- How many of the latest ticks in a row had the condition. -/
def streak (ts : List PcapTick) : Nat := (ts.takeWhile PcapTick.overCap).length

theorem streak_cons (t : PcapTick) (ts : List PcapTick) : streak (t :: ts) = if t.overCap then streak ts + 1 else 0 := by
  unfold streak
  cases h : t.overCap <;> simp [h]

theorem threshold_pos (simics : Bool) (t : PcapTick) : 0 < t.threshold simics := by
  unfold PcapTick.threshold
  split
  · decide
  · cases simics <;> decide

variable {simics : Bool}

theorem check_of_not_overCap {k : OverCap} {t : PcapTick} (h : t.overCap = false) :
    (k.check simics t).1.overCapCount = 0 ∧ (k.check simics t).2 = none := by
  unfold PcapTick.overCap at h
  unfold OverCap.check
  by_cases hp : t.overPower = true
  · have hi : t.ignorePgpeError = true := by simpa [hp] using h
    rw [if_pos hp, if_pos hi]
    exact ⟨rfl, rfl⟩
  · rw [if_neg hp]
    exact ⟨rfl, rfl⟩

/-- A call with the condition counts, and compares the count with the threshold. -/
theorem check_of_overCap {k : OverCap} {t : PcapTick} (h : t.overCap = true) :
    (k.check simics t).1.overCapCount = k.overCapCount + 1 ∧
      ((k.check simics t).2.isSome ↔ t.threshold simics ≤ (k.overCapCount + 1).toNat) := by
  unfold PcapTick.overCap at h
  rw [Bool.and_eq_true, Bool.not_eq_true'] at h
  unfold OverCap.check PcapTick.threshold
  rw [if_pos h.1, if_neg (by simp [h.2])]
  dsimp only
  generalize k.overCapCount + 1 = count
  by_cases hg : t.firstNumGpusSys = 0
  · rw [if_pos hg]
    by_cases hle : pcapFailureThreshold ≤ count.toNat
    · rw [if_pos (.inl ⟨hg, hle⟩)]
      exact ⟨rfl, fun _ => hle, fun _ => rfl⟩
    · rw [if_neg (by rintro (⟨-, h⟩ | ⟨h, -⟩); exacts [hle h, h hg])]
      exact ⟨rfl, by simp [hle]⟩
  · rw [if_neg hg]
    by_cases hle : pcapGpuFailureThreshold simics ≤ count.toNat
    · rw [if_pos (.inr ⟨hg, hle⟩)]
      exact ⟨rfl, fun _ => hle, fun _ => rfl⟩
    · rw [if_neg (by rintro (⟨h, -⟩ | ⟨-, h⟩); exacts [hg h, hle h])]
      exact ⟨rfl, by simp [hle]⟩

theorem count_eq (ts : List PcapTick) : (OverCap.after simics ts).overCapCount.toNat = streak ts % 256 := by
  induction ts with
  | nil => rfl
  | cons t ts ih =>
    rw [OverCap.after, streak_cons]
    cases h : t.overCap with
    | false => simp [(check_of_not_overCap h).1]
    | true =>
      rw [(check_of_overCap h).1, BitVec.toNat_add, ih]
      show (streak ts % 256 + 1) % 256 = _
      simp [Nat.add_mod]

/-! ## The reset -/

/-- The latest call requests a reset exactly when the condition has held for the threshold's number of ticks in a
row, and clears the count when it does not hold. -/
def PersistentOverCap (simics : Bool) (t : PcapTick) (ts : List PcapTick) : Prop :=
  (((OverCap.after simics ts).check simics t).2.isSome ↔ t.threshold simics ≤ streak (t :: ts)) ∧
    (t.overCap = false → (OverCap.after simics (t :: ts)).overCapCount = 0)

theorem isSome_iff (t : PcapTick) (ts : List PcapTick) :
    ((OverCap.after simics ts).check simics t).2.isSome ↔ t.threshold simics ≤ streak (t :: ts) % 256 := by
  rw [streak_cons]
  cases h : t.overCap with
  | false =>
    rw [(check_of_not_overCap h).2]
    simp [Nat.ne_of_gt (threshold_pos simics t)]
  | true =>
    rw [(check_of_overCap h).2, BitVec.toNat_add, count_eq]
    simp [Nat.add_mod]

/-- A byte is enough for the ticks in a row, or has counted to the threshold again. -/
theorem persistentOverCap_iff (t : PcapTick) (ts : List PcapTick) : PersistentOverCap simics t ts ↔
    (t.threshold simics ≤ streak (t :: ts) → t.threshold simics ≤ streak (t :: ts) % 256) := by
  unfold PersistentOverCap
  rw [isSome_iff]
  constructor
  · rintro ⟨hiff, -⟩
    exact hiff.2
  · intro hle
    refine ⟨⟨fun h => Nat.le_trans h (Nat.mod_le _ _), hle⟩, fun hno => ?_⟩
    exact (check_of_not_overCap hno).1

/-- A tick over the cap, with GPUs. -/
def overCapTick : PcapTick := ⟨0x0400, 0x0400, 2000, 1000, 500, 1, false, 4⟩

theorem streak_replicate (n : Nat) : streak (List.replicate n overCapTick) = n := by
  induction n with
  | zero => rfl
  | succ n ih =>
    rw [List.replicate_succ, streak_cons, if_pos (by decide), ih]

/-- Two seconds over the cap on the hardware, with GPUs, and no request of a reset. -/
theorem not_persistentOverCap_gpus : streak (overCapTick :: List.replicate 3999 overCapTick) = overCapTick.threshold false ∧
    ((OverCap.after false (List.replicate 3999 overCapTick)).check false overCapTick).2 = none ∧
    ¬PersistentOverCap false overCapTick (List.replicate 3999 overCapTick) := by
  have hstreak : streak (overCapTick :: List.replicate 3999 overCapTick) = 4000 := streak_replicate 4000
  have hthr : overCapTick.threshold false = 4000 := by decide
  have hnone : ¬((OverCap.after false (List.replicate 3999 overCapTick)).check false overCapTick).2.isSome := by
    rw [isSome_iff, hstreak, hthr]
    decide
  refine ⟨hstreak.trans hthr.symm, Option.not_isSome_iff_eq_none.1 hnone, fun h => hnone (h.1.2 ?_)⟩
  exact Nat.le_of_eq (hthr.trans hstreak.symm)

end Occ.Amec
