/-
Runs of the memory voting box: what a tick does with and without slewing, how often the slewing turns, and that the request stays
between the ends when the votes do.
-/
import Occ.Amec.MemVotingBox
import Occ.Lib.Transition
import Mathlib

namespace Occ.Amec.MemVoting

open Transition (Run)

/-! ## The law -/

section
variable (i : Input) (b b' : Box)

/-- A tick that counts the votes. -/
structure VotedLaw : Prop where
  request : b'.memSpeedRequest.toNat = min 1000 (min (i.speedRequest .cent).toNat (min (i.speedRequest .dimm).toNat
    (min (i.speedRequest .mcdimm).toNat (min (i.speedRequest .pmic).toNat (i.speedRequest .mcext).toNat))))
  not_above : ∀ k, b'.memSpeedRequest.toNat ≤ (i.speedRequest k).toNat
  reason : Names i b'.memThrottleReason
  slewing : b'.memAutoslew = b.memAutoslew ∧ b'.memSlewCounter = b.memSlewCounter ∧ b'.slewStep = b.slewStep

/-- The request is at an end, where the slewing counts. -/
def AtEnd : Prop := 1000 ≤ b.memSpeedRequest.toNat ∨ b.memSpeedRequest.toNat ≤ 10

instance : Decidable (AtEnd b) := inferInstanceAs (Decidable (_ ∨ _))

/-- The request is at an end, and the slewing already goes away from it. -/
def Leaves : Prop :=
  (1000 ≤ b.memSpeedRequest.toNat ∧ b.slewStep = -stepSize) ∨ (b.memSpeedRequest.toNat ≤ 10 ∧ b.slewStep = stepSize)

instance : Decidable (Leaves b) := inferInstanceAs (Decidable (_ ∨ _))

/-- A tick that slews: one step from the request before, down from the high end, up from the low one, and the way it went
before in between. -/
structure SlewedLaw : Prop where
  reason : b'.memThrottleReason = .slew
  one_step : b'.slewStep.toInt = 10 ∨ b'.slewStep.toInt = -10
  moves : (b'.memSpeedRequest.toNat : Int) = b.memSpeedRequest.toNat + b'.slewStep.toInt
  down : 1000 ≤ b.memSpeedRequest.toNat → b'.slewStep.toInt = -10
  up : b.memSpeedRequest.toNat ≤ 10 → b'.slewStep.toInt = 10
  onward : ¬AtEnd b → b'.slewStep = b.slewStep
  counts : b'.memSlewCounter = if AtEnd b then b.memSlewCounter + 1 else b.memSlewCounter
  range : 1 ≤ b'.memSpeedRequest.toNat ∧ b'.memSpeedRequest.toNat ≤ 1009
  slewing : b'.memAutoslew = b.memAutoslew

end

/-- A command is carried out. -/
def SlewCmd.Accepted (c : SlewCmd) : Prop :=
  c.action = slewStop ∨ (c.action = slewStart ∧ c.active = true ∧ c.memoryControlRunnable = true)

instance (c : SlewCmd) : Decidable c.Accepted := inferInstanceAs (Decidable (_ ∨ _))

/-- A command: the count starts anew, and the request and its direction stay. -/
structure CommandLaw (c : SlewCmd) (b : Box) : Prop where
  accepted : c.Accepted → (cmdhMnfgMemSlew c b).1.rc = .success ∧
    (cmdhMnfgMemSlew c b).2 = { b with memAutoslew := decide (c.action = slewStart), memSlewCounter := 0 }
  answered : c.action = slewStop → (cmdhMnfgMemSlew c b).1.slewCount.map BitVec.toNat = some (min b.memSlewCounter.toNat 0xFFFF)
  refused : ¬c.Accepted → (cmdhMnfgMemSlew c b).1.rc ≠ .success ∧ (cmdhMnfgMemSlew c b).2 = b

/-- A speed that the thermal loops vote for: whole steps between the ends. -/
structure OnGrid (speed : BitVec 16) : Prop where
  low : 10 ≤ speed.toNat
  high : speed.toNat ≤ 1000
  whole : 10 ∣ speed.toNat

/-- A tick, or a command. -/
inductive Event
  | tick (i : Input)
  | command (c : SlewCmd)

/-- The votes of a tick are on the grid. -/
def Event.OnGrid : Event → Prop
  | .tick i => ∀ k, MemVoting.OnGrid (i.speedRequest k)
  | .command _ => True

/-- The voting box, with how many ticks there were, how often the slewing reversed its direction since the count was zeroed, and in
how many ticks it set out from an end that it already goes away from; `moving` is whether the last tick slewed, from another
request than 0. -/
structure History where
  box : Box
  ticks : Nat
  reversals : Nat
  departures : Nat
  moving : Bool

def History.start : History := ⟨.boot, 0, 0, 0, false⟩

def History.next (s : History) : Event → History
  | .tick i =>
    let b := amecSlvMemVotingBox i s.box
    if s.box.memAutoslew then
      { box := b
        ticks := s.ticks + 1
        reversals := if b.slewStep ≠ s.box.slewStep then s.reversals + 1 else s.reversals
        departures := if s.moving = false ∧ Leaves s.box then s.departures + 1 else s.departures
        moving := s.box.memSpeedRequest ≠ 0 }
    else { s with box := b, ticks := s.ticks + 1, moving := false }
  | .command c =>
    if c.Accepted then { s with box := (cmdhMnfgMemSlew c s.box).2, reversals := 0, departures := 0 } else s

def step (s : History) (e : Event) (t : History) : Prop := t = s.next e

/-- What holds after the events `es`. -/
structure BoxLaw (es : List Event) (s : History) : Prop where
  voted : ∀ i, s.box.memAutoslew = false → VotedLaw i s.box (amecSlvMemVotingBox i s.box)
  slewed : ∀ i, s.box.memAutoslew = true → SlewedLaw s.box (amecSlvMemVotingBox i s.box)
  command : ∀ c, CommandLaw c s.box
  counter : s.box.memSlewCounter.toNat = (s.reversals + s.departures) % 2 ^ 32
  grid : (∀ e ∈ es, e.OnGrid) → 0 < s.ticks → OnGrid s.box.memSpeedRequest

/-! ## Slewing -/

section
variable {b : Box}

theorem toInt_stepSize : stepSize.toInt = 10 ∧ (-stepSize).toInt = -10 := by decide

theorem slewTurn_cases (b : Box) :
    (1000 ≤ b.memSpeedRequest.toNat ∧
        slewTurn b = { b with memSlewCounter := b.memSlewCounter + 1, slewStep := -stepSize }) ∨
      (b.memSpeedRequest.toNat ≤ 10 ∧
        slewTurn b = { b with memSlewCounter := b.memSlewCounter + 1, slewStep := stepSize }) ∨
      (10 < b.memSpeedRequest.toNat ∧ b.memSpeedRequest.toNat < 1000 ∧ slewTurn b = b) := by
  have hmax : maxStep.toNat = 1000 := by decide
  have hmin : minStep.toNat = 10 := by decide
  unfold slewTurn
  simp only [BitVec.le_def, hmax, hmin]
  split_ifs with hhigh hlow
  · exact .inl ⟨hhigh, rfl⟩
  · exact .inr (.inl ⟨hlow, rfl⟩)
  · exact .inr (.inr ⟨Nat.lt_of_not_le hlow, Nat.lt_of_not_le hhigh, rfl⟩)

theorem toNat_up {x : BitVec 16} (h : x.toNat ≤ 1009) : (x + stepSize).toNat = x.toNat + 10 := by
  have hstep : stepSize.toNat = 10 := by decide
  rw [BitVec.toNat_add, hstep]
  omega

theorem toNat_down {x : BitVec 16} (h : 10 ≤ x.toNat) : (x + -stepSize).toNat = x.toNat - 10 := by
  have hstep : (-stepSize).toNat = 65526 := by decide
  have hlt := x.isLt
  rw [BitVec.toNat_add, hstep]
  omega

/-- Where a tick that slews goes: down from the high end, up from the low one, or on. -/
inductive Slews (b b' : Box) : Prop
  | down (high : 1000 ≤ b.memSpeedRequest.toNat) (dir : b'.slewStep = -stepSize)
      (moves : b'.memSpeedRequest.toNat + 10 = b.memSpeedRequest.toNat) (counts : b'.memSlewCounter = b.memSlewCounter + 1)
  | up (low : b.memSpeedRequest.toNat ≤ 10) (dir : b'.slewStep = stepSize)
      (moves : b'.memSpeedRequest.toNat = b.memSpeedRequest.toNat + 10) (counts : b'.memSlewCounter = b.memSlewCounter + 1)
  | onDown (low : 10 < b.memSpeedRequest.toNat) (high : b.memSpeedRequest.toNat < 1000) (dir : b.slewStep = -stepSize)
      (same : b'.slewStep = b.slewStep) (moves : b'.memSpeedRequest.toNat + 10 = b.memSpeedRequest.toNat)
      (counts : b'.memSlewCounter = b.memSlewCounter)
  | onUp (low : 10 < b.memSpeedRequest.toNat) (high : b.memSpeedRequest.toNat < 1000) (dir : b.slewStep = stepSize)
      (same : b'.slewStep = b.slewStep) (moves : b'.memSpeedRequest.toNat = b.memSpeedRequest.toNat + 10)
      (counts : b'.memSlewCounter = b.memSlewCounter)

theorem slews_tick (i : Input) (h : b.memAutoslew = true) (hdir : b.slewStep = stepSize ∨ b.slewStep = -stepSize) :
    Slews b (amecSlvMemVotingBox i b) := by
  rw [amecSlvMemVotingBox_slewed i b h]
  obtain ⟨hhigh, hturn⟩ | ⟨hlow, hturn⟩ | ⟨hlow, hhigh, hturn⟩ := slewTurn_cases b
  · have hmove := @toNat_down b.memSpeedRequest (Nat.le_trans (by decide) hhigh)
    refine .down hhigh ?_ ?_ ?_
    · simp only [slewStep_store, hturn]
    · simp only [memSpeedRequest_store, hturn, hmove]
      omega
    · simp only [memSlewCounter_store, hturn]
  · have hmove := @toNat_up b.memSpeedRequest (Nat.le_trans hlow (by decide))
    refine .up hlow ?_ ?_ ?_
    · simp only [slewStep_store, hturn]
    · simp only [memSpeedRequest_store, hturn, hmove]
    · simp only [memSlewCounter_store, hturn]
  · obtain hdir | hdir := hdir
    · have hmove := @toNat_up b.memSpeedRequest (by omega)
      refine .onUp hlow hhigh hdir ?_ ?_ ?_
      · simp only [slewStep_store, hturn]
      · simp only [memSpeedRequest_store, hturn, hdir, hmove]
      · simp only [memSlewCounter_store, hturn]
    · have hmove := @toNat_down b.memSpeedRequest (by omega)
      refine .onDown hlow hhigh hdir ?_ ?_ ?_
      · simp only [slewStep_store, hturn]
      · simp only [memSpeedRequest_store, hturn, hdir, hmove]
        omega
      · simp only [memSlewCounter_store, hturn]

theorem memAutoslew_tick (i : Input) (b : Box) : (amecSlvMemVotingBox i b).memAutoslew = b.memAutoslew := by
  cases h : b.memAutoslew with
  | false => rw [amecSlvMemVotingBox_voted i b h, memAutoslew_store, h]
  | true =>
    rw [amecSlvMemVotingBox_slewed i b h, memAutoslew_store]
    obtain ⟨-, hturn⟩ | ⟨-, hturn⟩ | ⟨-, -, hturn⟩ := slewTurn_cases b <;> rw [hturn, h]

theorem slewedLaw (i : Input) (h : b.memAutoslew = true) (hdir : b.slewStep = stepSize ∨ b.slewStep = -stepSize)
    (hhigh : b.memSpeedRequest.toNat ≤ 1009) : SlewedLaw b (amecSlvMemVotingBox i b) := by
  obtain ⟨hup, hdown⟩ := toInt_stepSize
  have hreason : (amecSlvMemVotingBox i b).memThrottleReason = .slew := by
    rw [amecSlvMemVotingBox_slewed i b h, memThrottleReason_store]
  have hslew := memAutoslew_tick i b
  have hmove := slews_tick i h hdir
  generalize amecSlvMemVotingBox i b = b' at hreason hslew hmove
  cases hmove with
  | down hend hdir' hmoves hcounts =>
    refine ⟨hreason, .inr (hdir' ▸ hdown), ?_, fun _ => hdir' ▸ hdown, ?_, ?_, ?_, by omega, hslew⟩
    · rw [hdir', hdown]
      omega
    · intro hlow
      omega
    · intro hmid
      exact absurd (.inl hend) hmid
    · rw [hcounts, if_pos (show AtEnd b from .inl hend)]
  | up hend hdir' hmoves hcounts =>
    refine ⟨hreason, .inl (hdir' ▸ hup), ?_, ?_, fun _ => hdir' ▸ hup, ?_, ?_, by omega, hslew⟩
    · rw [hdir', hup]
      omega
    · intro hbeyond
      omega
    · intro hmid
      exact absurd (.inr hend) hmid
    · rw [hcounts, if_pos (show AtEnd b from .inr hend)]
  | onDown hlow hbelow hdir' hsame hmoves hcounts =>
    have hmid : ¬AtEnd b := by
      rintro (hbeyond | hbeyond) <;> omega
    rw [hdir'] at hsame
    refine ⟨hreason, .inr (hsame ▸ hdown), ?_, ?_, ?_, fun _ => hsame.trans hdir'.symm, ?_, by omega, hslew⟩
    · rw [hsame, hdown]
      omega
    · intro hbeyond
      omega
    · intro hbeyond
      omega
    · rw [hcounts, if_neg hmid]
  | onUp hlow hbelow hdir' hsame hmoves hcounts =>
    have hmid : ¬AtEnd b := by
      rintro (hbeyond | hbeyond) <;> omega
    rw [hdir'] at hsame
    refine ⟨hreason, .inl (hsame ▸ hup), ?_, ?_, ?_, fun _ => hsame.trans hdir'.symm, ?_, by omega, hslew⟩
    · rw [hsame, hup]
      omega
    · intro hbeyond
      omega
    · intro hbeyond
      omega
    · rw [hcounts, if_neg hmid]

theorem stepSize_ne : stepSize ≠ -stepSize := by decide

theorem Slews.counted {b' : Box} (h : Slews b b') (hdir : b.slewStep = stepSize ∨ b.slewStep = -stepSize) :
    (b'.slewStep ≠ b.slewStep ∧ ¬Leaves b ∧ b'.memSlewCounter = b.memSlewCounter + 1) ∨
      (b'.slewStep = b.slewStep ∧ Leaves b ∧ b'.memSlewCounter = b.memSlewCounter + 1) ∨
      (b'.slewStep = b.slewStep ∧ ¬Leaves b ∧ b'.memSlewCounter = b.memSlewCounter) := by
  cases h with
  | down hend hdir' _ hcounts =>
    obtain hold | hold := hdir
    · refine .inl ⟨?_, ?_, hcounts⟩
      · rw [hdir', hold]
        exact stepSize_ne.symm
      · rintro (⟨-, hback⟩ | ⟨hlow, -⟩)
        · exact stepSize_ne (hold.symm.trans hback)
        · omega
    · exact .inr (.inl ⟨hdir'.trans hold.symm, .inl ⟨hend, hold⟩, hcounts⟩)
  | up hend hdir' _ hcounts =>
    obtain hold | hold := hdir
    · exact .inr (.inl ⟨hdir'.trans hold.symm, .inr ⟨hend, hold⟩, hcounts⟩)
    · refine .inl ⟨?_, ?_, hcounts⟩
      · rw [hdir', hold]
        exact stepSize_ne
      · rintro (⟨hhigh, -⟩ | ⟨-, hback⟩)
        · omega
        · exact stepSize_ne (hback.symm.trans hold)
  | onDown hlow hhigh _ hsame _ hcounts | onUp hlow hhigh _ hsame _ hcounts =>
    refine .inr (.inr ⟨hsame, ?_, hcounts⟩)
    rintro (⟨hend, -⟩ | ⟨hend, -⟩) <;> omega

theorem Slews.not_leaves {b' : Box} (h : Slews b b') (hzero : b.memSpeedRequest.toNat ≠ 0) (hhigh : b.memSpeedRequest.toNat ≤ 1009) :
    ¬Leaves b' := by
  cases h with
  | down _ hdir hmoves =>
    rintro (⟨hend, -⟩ | ⟨-, hback⟩)
    · omega
    · exact stepSize_ne (hback.symm.trans hdir)
  | up _ hdir hmoves =>
    rintro (⟨-, hback⟩ | ⟨hend, -⟩)
    · exact stepSize_ne (hdir.symm.trans hback)
    · omega
  | onDown _ _ hdir hsame hmoves =>
    rintro (⟨hend, -⟩ | ⟨-, hback⟩)
    · omega
    · exact stepSize_ne (hback.symm.trans (hsame.trans hdir))
  | onUp _ _ hdir hsame hmoves =>
    rintro (⟨-, hback⟩ | ⟨hend, -⟩)
    · exact stepSize_ne ((hsame.trans hdir).symm.trans hback)
    · omega

theorem Slews.dir {b' : Box} (h : Slews b b') : b'.slewStep = stepSize ∨ b'.slewStep = -stepSize := by
  cases h with
  | down _ hdir | up _ hdir => simp only [hdir, true_or, or_true]
  | onDown _ _ hdir hsame | onUp _ _ hdir hsame => simp only [hsame, hdir, true_or, or_true]

theorem Slews.onGrid {b' : Box} (h : Slews b b') (hgrid : OnGrid b.memSpeedRequest) : OnGrid b'.memSpeedRequest := by
  obtain ⟨hlow, hhigh, hwhole⟩ := hgrid
  cases h with
  | down hend _ hmoves _ => exact ⟨by omega, by omega, by omega⟩
  | up hend _ hmoves _ => exact ⟨by omega, by omega, by omega⟩
  | onDown hmin _ _ _ hmoves _ => exact ⟨by omega, by omega, by omega⟩
  | onUp _ hmax _ _ hmoves _ => exact ⟨by omega, by omega, by omega⟩

end

/-! ## Voting -/

section
variable {i : Input} {b : Box}

theorem votedLaw (h : b.memAutoslew = false) : VotedLaw i b (amecSlvMemVotingBox i b) := by
  have hmin := toNat_thermalVote i
  rw [amecSlvMemVotingBox_voted i b h]
  refine ⟨?_, ?_, ?_, memAutoslew_store _ _ _, memSlewCounter_store _ _ _, slewStep_store _ _ _⟩
  · rw [memSpeedRequest_store, hmin]
  · intro k
    rw [memSpeedRequest_store, hmin]
    cases k <;> omega
  · rw [memThrottleReason_store]
    exact names_thermalVote i

theorem VotedLaw.onGrid {b' : Box} (h : VotedLaw i b b') (hvotes : ∀ k, OnGrid (i.speedRequest k)) :
    OnGrid b'.memSpeedRequest := by
  obtain ⟨hreq, -, -, -⟩ := h
  obtain ⟨hcent, -, hcent'⟩ := hvotes .cent
  obtain ⟨hdimm, -, hdimm'⟩ := hvotes .dimm
  obtain ⟨hmcdimm, -, hmcdimm'⟩ := hvotes .mcdimm
  obtain ⟨hpmic, -, hpmic'⟩ := hvotes .pmic
  obtain ⟨hmcext, -, hmcext'⟩ := hvotes .mcext
  exact ⟨by omega, by omega, by omega⟩

end

/-! ## The command -/

theorem commandLaw (c : SlewCmd) (b : Box) : CommandLaw c b := by
  have hstart : slewStart ≠ slewStop := by decide
  have hstop : ¬slewStop < slewStop := by decide
  refine ⟨?_, ?_, ?_⟩
  · rintro (hc | ⟨hc, hactive, hrunnable⟩)
    · unfold cmdhMnfgMemSlew
      rw [hc, if_neg hstop, if_pos rfl]
      exact ⟨rfl, rfl⟩
    · have hlow : ¬slewStop < slewStart := by decide
      unfold cmdhMnfgMemSlew
      rw [hc, if_neg hlow, if_neg hstart, hactive, hrunnable]
      exact ⟨rfl, rfl⟩
  · intro hc
    have hsat : (slewCount b.memSlewCounter).toNat = min b.memSlewCounter.toNat 0xFFFF := by
      have hlimit : (0x0000FFFF : BitVec 32).toNat = 65535 := by decide
      unfold slewCount
      split_ifs with hbig
      · rw [BitVec.lt_def, hlimit] at hbig
        exact (Nat.min_eq_right (Nat.le_of_lt hbig)).symm
      · rw [BitVec.lt_def, hlimit] at hbig
        rw [BitVec.toNat_setWidth]
        omega
    unfold cmdhMnfgMemSlew
    rw [hc, if_neg hstop, if_pos rfl]
    exact congrArg some hsat
  · intro hc
    unfold cmdhMnfgMemSlew
    split_ifs with hbig haction hactive hrunnable
    · exact ⟨nofun, rfl⟩
    · exact absurd (.inl haction) hc
    · exact ⟨nofun, rfl⟩
    · exact ⟨nofun, rfl⟩
    · refine absurd (.inr ⟨?_, by simpa using hactive, by simpa using hrunnable⟩) hc
      have hstop' : slewStop.toNat = 1 := by decide
      have hstart' : slewStart.toNat = 0 := by decide
      rw [BitVec.lt_def, hstop'] at hbig
      have hne : c.action.toNat ≠ 1 := fun h => haction (BitVec.eq_of_toNat_eq (h.trans hstop'.symm))
      exact BitVec.eq_of_toNat_eq (by omega)

/-! ## Runs -/

/-- The direction is one of the two, a tick leaves the request at most 9 above the high end, a slewing that moves has left its end,
and the counter has counted what it should. -/
structure Inv (s : History) : Prop where
  dir : s.box.slewStep = stepSize ∨ s.box.slewStep = -stepSize
  high : s.box.memSpeedRequest.toNat ≤ 1009
  moving : s.moving = true → ¬Leaves s.box
  counter : s.box.memSlewCounter.toNat = (s.reversals + s.departures) % 2 ^ 32

theorem inv_start : Inv .start := ⟨.inl rfl, by decide, nofun, by decide⟩

theorem toNat_succ {x : BitVec 32} {n : Nat} (h : x.toNat = n % 2 ^ 32) : (x + 1).toNat = (n + 1) % 2 ^ 32 := by
  rw [BitVec.toNat_add, h]
  exact Nat.mod_add_mod _ _ _

theorem inv_voted {s : History} (i : Input) (h : Inv s) (hoff : s.box.memAutoslew = false) : Inv (s.next (.tick i)) := by
  have hvoted := @votedLaw i s.box hoff
  obtain ⟨-, hcounter, hdir⟩ := hvoted.slewing
  have hreq := hvoted.request
  unfold History.next
  simp only [hoff, Bool.false_eq_true, if_false]
  refine ⟨?_, ?_, nofun, ?_⟩
  · rw [hdir]
    exact h.dir
  · show (amecSlvMemVotingBox i s.box).memSpeedRequest.toNat ≤ 1009
    omega
  · rw [hcounter]
    exact h.counter

theorem inv_slewed {s : History} (i : Input) (h : Inv s) (hon : s.box.memAutoslew = true) : Inv (s.next (.tick i)) := by
  have hlaw := slewedLaw i hon h.dir h.high
  have hmove := slews_tick i hon h.dir
  have hcounter := h.counter
  unfold History.next
  simp only [hon, if_true]
  generalize amecSlvMemVotingBox i s.box = b' at hlaw hmove
  refine ⟨hmove.dir, hlaw.range.2, ?_, ?_⟩
  · intro hmoving
    have hne : s.box.memSpeedRequest ≠ 0 := of_decide_eq_true hmoving
    exact hmove.not_leaves (fun h => hne (BitVec.eq_of_toNat_eq h)) h.high
  · obtain ⟨hturns, hleaves, hcounts⟩ | ⟨hsame, hleaves, hcounts⟩ | ⟨hsame, hleaves, hcounts⟩ := hmove.counted h.dir
    · have hnot : ¬(s.moving = false ∧ Leaves s.box) := fun h => hleaves h.2
      dsimp only
      rw [if_pos hturns, if_neg hnot, hcounts, Nat.add_right_comm]
      exact toNat_succ hcounter
    · have hset : s.moving = false ∧ Leaves s.box := ⟨Bool.eq_false_iff.2 fun hmoving => h.moving hmoving hleaves, hleaves⟩
      dsimp only
      rw [if_neg (not_not.2 hsame), if_pos hset, hcounts, ← Nat.add_assoc]
      exact toNat_succ hcounter
    · have hnot : ¬(s.moving = false ∧ Leaves s.box) := fun h => hleaves h.2
      dsimp only
      rw [if_neg (not_not.2 hsame), if_neg hnot, hcounts]
      exact hcounter

theorem inv_command {s : History} (c : SlewCmd) (h : Inv s) : Inv (s.next (.command c)) := by
  unfold History.next
  dsimp only
  split_ifs with hc
  · rw [((commandLaw c s.box).accepted hc).2]
    exact ⟨h.dir, h.high, h.moving, rfl⟩
  · exact h

theorem inv_next {s : History} (h : Inv s) (e : Event) : Inv (s.next e) := by
  cases e with
  | tick i =>
    cases hslew : s.box.memAutoslew with
    | false => exact inv_voted i h hslew
    | true => exact inv_slewed i h hslew
  | command c => exact inv_command c h

/-- Before the first tick the request is 0, after it the request is on the grid. -/
def GridInv (s : History) : Prop :=
  (s.ticks = 0 ∧ s.box.memSpeedRequest.toNat = 0) ∨ OnGrid s.box.memSpeedRequest

theorem gridInv_next {s : History} {e : Event} (h : Inv s) (hgrid : GridInv s) (he : e.OnGrid) : GridInv (s.next e) := by
  cases e with
  | tick i =>
    right
    cases hslew : s.box.memAutoslew with
    | false =>
      have hvoted := (@votedLaw i s.box hslew).onGrid he
      unfold History.next
      simpa only [hslew, Bool.false_eq_true, if_false] using hvoted
    | true =>
      have hmove := slews_tick i hslew h.dir
      have hslewed : OnGrid (amecSlvMemVotingBox i s.box).memSpeedRequest := by
        obtain ⟨-, hzero⟩ | hgrid := hgrid
        · generalize amecSlvMemVotingBox i s.box = b' at hmove
          cases hmove with
          | up _ _ hmoves => exact ⟨by omega, by omega, by omega⟩
          | down hend | onDown hend | onUp hend => omega
        · exact hmove.onGrid hgrid
      unfold History.next
      simpa only [hslew, if_true] using hslewed
  | command c =>
    unfold History.next
    dsimp only
    split_ifs with hc
    · unfold GridInv
      rw [((commandLaw c s.box).accepted hc).2]
      exact hgrid
    · exact hgrid

theorem gridInv_run {s t : History} {es : List Event} (h : Run step s es t) (hs : Inv s) (hgrid : GridInv s)
    (hes : ∀ e ∈ es, e.OnGrid) : GridInv t := by
  induction h with
  | nil s => exact hgrid
  | cons hstep _ ih =>
    obtain rfl := hstep
    exact ih (inv_next hs _) (gridInv_next hs hgrid (hes _ List.mem_cons_self)) fun e he => hes e (List.mem_cons_of_mem _ he)

/-- The law holds after every run. -/
theorem boxLaw_run {es : List Event} {s : History} (h : Run step .start es s) : BoxLaw es s := by
  have hs : Inv s := by
    refine h.invariant ?_ inv_start
    rintro s e t hs rfl
    exact inv_next hs e
  refine ⟨fun i hoff => votedLaw hoff, fun i hon => slewedLaw i hon hs.dir hs.high, fun c => commandLaw c s.box, hs.counter, ?_⟩
  intro hes hticks
  obtain ⟨hnone, -⟩ | hgrid := gridInv_run h inv_start (.inl ⟨rfl, rfl⟩) hes
  · omega
  · exact hgrid

/-- The same speed for every loop. -/
def allAt (speed : BitVec 16) : Input := ⟨fun _ => speed, 0, false⟩

/-- The command that starts the slewing. -/
def startSlew : SlewCmd := ⟨slewStart, true, true⟩

/-- The law after a tick with votes at the top, the start of the slewing and a tick that slews. -/
theorem boxLaw_slewing : BoxLaw [.tick (allAt 1000), .command startSlew, .tick (allAt 1000)]
    (((History.start.next (.tick (allAt 1000))).next (.command startSlew)).next (.tick (allAt 1000))) :=
  boxLaw_run (.cons rfl (.cons rfl (.single rfl)))

/-- Votes of 500 are passed by while the memory is slewed, votes of 995 make it slew above the highest step, and a slewing that starts
before the first tick counts without a reversal. -/
theorem slew_passes_votes :
    (∃ s, Run step .start [.tick (allAt 500), .command startSlew, .tick (allAt 500)] s ∧ 500 < s.box.memSpeedRequest) ∧
      (∃ s, Run step .start [.tick (allAt 995), .command startSlew, .tick (allAt 995)] s ∧ maxStep < s.box.memSpeedRequest) ∧
      ∃ s, Run step .start [.command startSlew, .tick (allAt 1000)] s ∧ s.box.memSlewCounter = 1 ∧ s.reversals = 0 := by
  refine ⟨⟨_, .cons rfl (.cons rfl (.single rfl)), ?_⟩, ⟨_, .cons rfl (.cons rfl (.single rfl)), ?_⟩,
    ⟨_, .cons rfl (.single rfl), ?_, ?_⟩⟩
  · decide
  · decide
  · decide
  · decide

/-! ## With the thermal loops -/

/-- The vote of a loop is on the grid, and its residue is one. -/
structure VoteOnGrid (v : Thermal.Vote) : Prop where
  inside : v.position.Inside Thermal.memActuator.follower
  whole : 10 ∣ v.speedRequest.toNat

theorem VoteOnGrid.onGrid {v : Thermal.Vote} (h : VoteOnGrid v) : OnGrid v.speedRequest :=
  ⟨Int.ofNat_le.1 h.inside.low, Int.ofNat_le.1 h.inside.high, h.whole⟩

theorem VoteOnGrid.proportional {v : Thermal.Vote} (h : VoteOnGrid v) (pgain setpoint winner : BitVec 16) :
    VoteOnGrid (Thermal.proportional Thermal.memActuator pgain setpoint winner v) := by
  have hspec := Thermal.proportional_spec pgain setpoint winner h.inside
  have hwhole : (10 : Int) ∣ v.speedRequest.toNat := by exact_mod_cast h.whole
  refine ⟨?_, ?_⟩
  · rw [hspec]
    exact Residue.inside_next _ _ _
  · have hpos : ((Thermal.proportional Thermal.memActuator pgain setpoint winner v).speedRequest.toNat : Int) = _ :=
      congrArg Residue.Position.pos hspec
    generalize (setpoint - winner).toInt * pgain.toNat = a at hpos
    have hlow : Thermal.memActuator.follower.low = 10 := rfl
    have hhigh : Thermal.memActuator.follower.high = 1000 := rfl
    have hstep : Thermal.memActuator.follower.step = 10 := rfl
    have hold : v.position.pos = v.speedRequest.toNat := rfl
    unfold Residue.next Residue.target at hpos
    dsimp only at hpos
    rw [hlow, hhigh, hstep, hold] at hpos
    omega

theorem VoteOnGrid.dimmVote {v : Thermal.Vote} (h : VoteOnGrid v) (i : Thermal.DimmInput) (type : Thermal.Loop × BitVec 8) :
    VoteOnGrid (Thermal.dimmVote i type v) := by
  unfold Thermal.dimmVote
  dsimp only
  split_ifs
  · exact h
  · exact h.proportional _ _ _

/-- A controller keeps the votes for the memory on the grid. -/
theorem voteOnGrid_tick {s : Thermal.State} (h : ∀ k : Source, VoteOnGrid (s.vote k.loop)) (e : Thermal.Tick) (k : Source) :
    VoteOnGrid ((Thermal.tick s e).vote k.loop) := by
  cases e with
  | proc r fmax =>
    show VoteOnGrid ((Thermal.amecControllerProcThermal r fmax s).vote k.loop)
    rw [Thermal.vote_proc, Function.update_of_ne (by cases k <;> nofun)]
    exact h k
  | vdd r expired fmax =>
    have hother : (Thermal.tick s (.vdd r expired fmax)).vote k.loop = s.vote k.loop :=
      Function.update_of_ne (by cases k <;> nofun) _ _
    rw [hother]
    exact h k
  | dimm i =>
    show VoteOnGrid ((Thermal.amecControllerDimmThermal i s).vote k.loop)
    rw [Thermal.vote_amecControllerDimmThermal]
    cases k with
    | cent => exact h .cent
    | dimm => exact (h .dimm).dimmVote i _
    | mcdimm =>
      show VoteOnGrid (if i.ocm then _ else _)
      split_ifs
      · exact (h .mcdimm).dimmVote i _
      · exact h .mcdimm
    | pmic =>
      show VoteOnGrid (if i.ocm then _ else _)
      split_ifs
      · exact (h .pmic).dimmVote i _
      · exact h .pmic
    | mcext =>
      show VoteOnGrid (if i.ocm then _ else _)
      split_ifs
      · exact (h .mcext).dimmVote i _
      · exact h .mcext
  | membuf r expired =>
    show VoteOnGrid ((Thermal.amecControllerMembufThermal r expired s).vote k.loop)
    rw [Thermal.vote_membuf]
    cases k with
    | cent =>
      show VoteOnGrid (Function.update s.vote .membuf _ .membuf)
      rw [Function.update_self]
      split_ifs
      · exact h .cent
      · exact (h .cent).proportional _ _ _
    | dimm => exact h .dimm
    | mcdimm => exact h .mcdimm
    | pmic => exact h .pmic
    | mcext => exact h .mcext

/-- The thermal loops and the voting box. -/
structure System where
  loops : Thermal.State
  history : History

/-- A controller, the voting box, or the command. -/
inductive SystemEvent
  | control (e : Thermal.Tick)
  | vote (activeMemLevel : BitVec 8) (kvm : Bool)
  | command (c : SlewCmd)

def System.start : System := ⟨Thermal.init, .start⟩

/-- What the voting box reads of the loops. -/
def System.input (s : System) (activeMemLevel : BitVec 8) (kvm : Bool) : Input :=
  ⟨fun k => (s.loops.vote k.loop).speedRequest, activeMemLevel, kvm⟩

def System.next (s : System) : SystemEvent → System
  | .control e => { s with loops := Thermal.tick s.loops e }
  | .vote level kvm => { s with history := s.history.next (.tick (s.input level kvm)) }
  | .command c => { s with history := s.history.next (.command c) }

/-- The votes are on the grid, and so is the request after the first tick. -/
structure SystemInv (s : System) : Prop where
  votes : ∀ k : Source, VoteOnGrid (s.loops.vote k.loop)
  box : Inv s.history
  request : GridInv s.history

theorem systemInv_start : SystemInv .start := by
  refine ⟨fun k => ⟨Thermal.inside_init .dimm, ?_⟩, inv_start, .inl ⟨rfl, rfl⟩⟩
  show 10 ∣ (1000#16).toNat
  decide

theorem systemInv_next {s : System} (h : SystemInv s) (e : SystemEvent) : SystemInv (s.next e) := by
  cases e with
  | control e => exact ⟨voteOnGrid_tick h.votes e, h.box, h.request⟩
  | vote level kvm =>
    have hgrid : (Event.tick (s.input level kvm)).OnGrid := fun k => (h.votes k).onGrid
    exact ⟨h.votes, inv_next h.box (.tick _), gridInv_next h.box h.request hgrid⟩
  | command c =>
    have hgrid : (Event.command c).OnGrid := trivial
    exact ⟨h.votes, inv_next h.box (.command c), gridInv_next h.box h.request hgrid⟩

/-- Whatever is read and in whatever order the controllers, the voting box and the command run, the request is between the ends. -/
theorem system_onGrid {es : List SystemEvent} {s : System} (h : Run (fun s e t => t = System.next s e) .start es s)
    (hticks : 0 < s.history.ticks) : OnGrid s.history.box.memSpeedRequest := by
  have hs : SystemInv s := by
    refine h.invariant ?_ systemInv_start
    rintro s e t hs rfl
    exact systemInv_next hs e
  obtain ⟨hnone, -⟩ | hgrid := hs.request
  · omega
  · exact hgrid

end Occ.Amec.MemVoting
