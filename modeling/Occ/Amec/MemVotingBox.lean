/-
The memory voting box of the AMEC slave (`amec_slv_mem_voting_box`) and the manufacturing command that slews the memory
(`cmdh_mnfg_mem_slew`): the votes of the five thermal loops for the memory, or a request that goes down and up between the ends.
-/
import Occ.Amec.ThermalControl
import Occ.Lib.Ballot

namespace Occ.Amec.MemVoting

/-! ## Votes and reasons -/

/-- `AMEC_MEMORY_MAX_STEP` -/
def maxStep : BitVec 16 := 1000

/-- `AMEC_MEMORY_MIN_STEP` -/
def minStep : BitVec 16 := 10

/-- `AMEC_MEMORY_STEP_SIZE` -/
def stepSize : BitVec 16 := 10

/-- The loops that vote. -/
inductive Source
  | cent | dimm | mcdimm | pmic | mcext
deriving DecidableEq, Repr

namespace Source

/-- In the order in which the votes are checked. -/
def all : List Source := [cent, dimm, mcdimm, pmic, mcext]

/-- The place of a vote in that order. -/
def place : Source → Nat
  | cent => 0
  | dimm => 1
  | mcdimm => 2
  | pmic => 3
  | mcext => 4

/-- The loop whose `speed_request` is the vote. -/
def loop : Source → Thermal.Loop
  | cent => .membuf
  | dimm => .dimm
  | mcdimm => .mcdimm
  | pmic => .pmic
  | mcext => .mcext

end Source

/-- `amec_mem_voting_reason_t` -/
inductive Reason
  | init | cent | dimm | slew | mcdimm | pmic | mcExt
deriving DecidableEq, Repr

def Source.reason : Source → Reason
  | cent => .cent
  | dimm => .dimm
  | mcdimm => .mcdimm
  | pmic => .pmic
  | mcext => .mcExt

/-- `opal_mem_voting_reason_t` -/
inductive OpalReason
  | noMemThrottle | powerCap | memoryOverTemp
deriving DecidableEq, Repr

/-- What the voting box keeps: `mem_speed_request`, `mem_throttle_reason` and the `mnfg_parms` of `g_amec`, its statics
`l_slew_step` and `L_throttle_traced`, and `G_amec_opal_mem_throt_reason` with the posts of `G_dcomThreadWakeupSem`. -/
structure Box where
  memSpeedRequest : BitVec 16
  memThrottleReason : Reason
  memAutoslew : Bool
  memSlewCounter : BitVec 32
  slewStep : BitVec 16
  throttleTraced : Bool
  opalMemThrotReason : OpalReason
  dcomWakeups : Nat
deriving DecidableEq, Repr

/-- The globals as the image initialises them. -/
def Box.boot : Box := ⟨0, .init, false, 0, stepSize, false, .noMemThrottle, 0⟩

/-- What a tick reads: the speed requests of the loops, `pcap.active_mem_level` and `system_type.kvm`. -/
structure Input where
  speedRequest : Source → BitVec 16
  activeMemLevel : BitVec 8
  kvm : Bool

/-! ## The voting box -/

/-- `l_vote`, `l_reason` and `kvm_reason` -/
structure Running where
  vote : BitVec 16
  reason : Reason
  kvmReason : OpalReason
deriving DecidableEq, Repr

def Running.start (i : Input) : Running :=
  ⟨maxStep, .init, if i.activeMemLevel ≠ 0 then .powerCap else .noMemThrottle⟩

/-- Check the vote of a loop. -/
def Running.check (i : Input) (w : Running) (k : Source) : Running :=
  if i.speedRequest k < w.vote then ⟨i.speedRequest k, k.reason, .memoryOverTemp⟩ else w

/-- The votes of the thermal loops. -/
def thermalVote (i : Input) : Running := Source.all.foldl (Running.check i) (.start i)

/-- The direction of the slewing, and the count of the turns. -/
def slewTurn (b : Box) : Box :=
  if maxStep ≤ b.memSpeedRequest then { b with memSlewCounter := b.memSlewCounter + 1, slewStep := -stepSize }
  else if b.memSpeedRequest ≤ minStep then { b with memSlewCounter := b.memSlewCounter + 1, slewStep := stepSize }
  else b

/-- Store the vote, trace a change, and tell the dcom thread of a new reason. -/
def store (i : Input) (w : Running) (b : Box) : Box :=
  let b := { b with memThrottleReason := w.reason, memSpeedRequest := w.vote, throttleTraced := w.reason ≠ .init }
  if i.kvm ∧ w.kvmReason ≠ b.opalMemThrotReason then
    { b with opalMemThrotReason := w.kvmReason, dcomWakeups := b.dcomWakeups + 1 }
  else b

/-- `amec_slv_mem_voting_box` -/
def amecSlvMemVotingBox (i : Input) (b : Box) : Box :=
  let w := thermalVote i
  if b.memAutoslew then
    let b := slewTurn b
    store i { w with vote := b.memSpeedRequest + b.slewStep, reason := .slew } b
  else store i w b

/-! ## The command -/

/-- `MNFG_INTF_SLEW_START` -/
def slewStart : BitVec 8 := 0x00

/-- `MNFG_INTF_SLEW_STOP` -/
def slewStop : BitVec 8 := 0x01

/-- `ERRL_RC_SUCCESS`, `ERRL_RC_INVALID_DATA`, `ERRL_RC_INVALID_STATE` and `ERRL_RC_INTERNAL_FAIL` -/
inductive SlewRc
  | success | invalidData | invalidState | internalFail
deriving DecidableEq, Repr

/-- A command, with whether the OCC is active and the memory control task may run. -/
structure SlewCmd where
  action : BitVec 8
  active : Bool
  memoryControlRunnable : Bool
deriving DecidableEq, Repr

/-- What the command answers: the return code, the count when one is written, and `data_length`. -/
structure SlewRsp where
  rc : SlewRc
  slewCount : Option (BitVec 16)
  dataLength : BitVec 16
deriving DecidableEq, Repr

/-- The count of the turns in 16 bits. -/
def slewCount (counter : BitVec 32) : BitVec 16 := if 0x0000FFFF < counter then 0xFFFF else counter.setWidth 16

/-- `cmdh_mnfg_mem_slew`; the data has `MNFG_INTF_MEM_SLEW_RSP_SIZE` bytes in every case. -/
def cmdhMnfgMemSlew (c : SlewCmd) (b : Box) : SlewRsp × Box :=
  if slewStop < c.action then (⟨.invalidData, none, 2⟩, b)
  else if c.action = slewStop then
    (⟨.success, some (slewCount b.memSlewCounter), 2⟩, { b with memAutoslew := false, memSlewCounter := 0 })
  else if !c.active then (⟨.invalidState, none, 2⟩, b)
  else if !c.memoryControlRunnable then (⟨.internalFail, none, 2⟩, b)
  else (⟨.success, some 0, 2⟩, { b with memSlewCounter := 0, memAutoslew := true })

/-! ## The votes -/

section
variable (i : Input) (b : Box)

/-- The running vote with its tags. -/
def Running.ballot (w : Running) : Ballot.Vote Nat (Reason × OpalReason) := ⟨w.vote.toNat, w.reason, w.kvmReason⟩

/-- The vote of a loop with its tags. -/
def Input.ballot (k : Source) : Ballot.Vote Nat (Reason × OpalReason) :=
  ⟨(i.speedRequest k).toNat, k.reason, .memoryOverTemp⟩

theorem limit_ballot (w : Running) : w.ballot.limit = w.vote.toNat := rfl

theorem tag_ballot (w : Running) : w.ballot.tag = (w.reason, w.kvmReason) := rfl

theorem ballot_check (w : Running) (k : Source) : (w.check i k).ballot = Ballot.lower w.ballot (i.ballot k) := by
  unfold Running.check Ballot.lower
  split_ifs with hbelow hnat hnat
  · rfl
  · exact absurd (BitVec.lt_def.1 hbelow) hnat
  · exact absurd (BitVec.lt_def.2 hnat) hbelow
  · rfl

theorem ballot_thermalVote : (thermalVote i).ballot = Ballot.tally (Running.start i).ballot (Source.all.map i.ballot) := by
  unfold thermalVote Ballot.tally
  rw [List.foldl_map]
  exact (List.foldl_hom Running.ballot (fun w k => (ballot_check i w k).symm)).symm

/-- The last vote to lower the request: below the highest step and every vote before it, and no vote after it is below it. -/
structure LowersLast (k : Source) : Prop where
  below_max : (i.speedRequest k).toNat < 1000
  below_before : ∀ j, j.place < k.place → (i.speedRequest k).toNat < (i.speedRequest j).toNat
  not_below : ∀ j, k.place < j.place → (i.speedRequest k).toNat ≤ (i.speedRequest j).toNat

/-- What the reason of a vote names: the last vote to lower the request, if any. -/
def Names (r : Reason) : Prop :=
  (r = .init ∧ ∀ k, 1000 ≤ (i.speedRequest k).toNat) ∨ ∃ k, r = k.reason ∧ LowersLast i k

theorem limit_start : (Running.start i).ballot.limit = 1000 := by
  show maxStep.toNat = 1000
  decide

theorem mem_all (k : Source) : k ∈ Source.all := by
  cases k <;> decide

theorem place_ascending : Source.all.Pairwise fun j k => j.place < k.place := by decide

theorem toNat_thermalVote : (thermalVote i).vote.toNat = min 1000 (min (i.speedRequest .cent).toNat (min (i.speedRequest .dimm).toNat
    (min (i.speedRequest .mcdimm).toNat (min (i.speedRequest .pmic).toNat (i.speedRequest .mcext).toNat)))) := by
  rw [← limit_ballot, ballot_thermalVote]
  simp only [ Source.all, List.map_cons, List.map_nil, Ballot.tally_cons, Ballot.tally_nil, Ballot.limit_lower, limit_start,
    Input.ballot, Nat.min_assoc]

/-- Its reason names the last vote that lowered it. -/
theorem names_thermalVote : Names i (thermalVote i).reason := by
  have htag : (thermalVote i).reason = (Ballot.tally (Running.start i).ballot (Source.all.map i.ballot)).tag.1 := by
    rw [← ballot_thermalVote, tag_ballot]
  obtain ⟨hstays, hvotes⟩ | ⟨before, after, hsplit, hlast⟩ :=
    Ballot.tally_cases (Running.start i).ballot (Source.all.map i.ballot)
  · rw [limit_start] at hvotes
    have hinit : (thermalVote i).reason = .init := by
      rw [htag, hstays]
      rfl
    have hmax : ∀ k, 1000 ≤ (i.ballot k).limit := fun k => hvotes _ (List.mem_map_of_mem (mem_all k))
    exact .inl ⟨hinit, hmax⟩
  · refine .inr ?_
    obtain ⟨early, rest, hall, rfl, hrest⟩ := List.map_eq_append_iff.1 hsplit
    obtain ⟨k, late, rfl, hk, rfl⟩ := List.map_eq_cons_iff.1 hrest
    rw [← hk] at hlast
    have hsorted := place_ascending
    rw [hall, List.pairwise_append, List.pairwise_cons] at hsorted
    obtain ⟨-, ⟨hafter, -⟩, hbefore⟩ := hsorted
    have hwhere : ∀ j, j ∈ early ∨ j = k ∨ j ∈ late := by
      intro j
      have hj := mem_all j
      rwa [hall, List.mem_append, List.mem_cons] at hj
    have hmax : (i.speedRequest k).toNat < 1000 := by
      have hbelow := hlast.below_start
      rwa [limit_start] at hbelow
    refine ⟨k, ?_, hmax, ?_, ?_⟩
    · rw [htag, ← hk]
      rfl
    · intro j hlt
      obtain hj | rfl | hj := hwhere j
      · exact hlast.below_before (i.ballot j) (List.mem_map_of_mem hj)
      · exact absurd hlt (Nat.lt_irrefl _)
      · exact absurd hlt (Nat.lt_asymm (hafter j hj))
    · intro j hlt
      obtain hj | rfl | hj := hwhere j
      · exact absurd hlt (Nat.lt_asymm (hbefore j hj k List.mem_cons_self))
      · exact absurd hlt (Nat.lt_irrefl _)
      · exact hlast.not_below (i.ballot j) (List.mem_map_of_mem hj)

end

/-! ## The fields -/

section
variable (i : Input) (w : Running) (b : Box)

@[simp] theorem memSpeedRequest_store : (store i w b).memSpeedRequest = w.vote := by
  unfold store
  dsimp only
  split_ifs <;> rfl

@[simp] theorem memThrottleReason_store : (store i w b).memThrottleReason = w.reason := by
  unfold store
  dsimp only
  split_ifs <;> rfl

@[simp] theorem memAutoslew_store : (store i w b).memAutoslew = b.memAutoslew := by
  unfold store
  dsimp only
  split_ifs <;> rfl

@[simp] theorem memSlewCounter_store : (store i w b).memSlewCounter = b.memSlewCounter := by
  unfold store
  dsimp only
  split_ifs <;> rfl

@[simp] theorem slewStep_store : (store i w b).slewStep = b.slewStep := by
  unfold store
  dsimp only
  split_ifs <;> rfl

theorem amecSlvMemVotingBox_voted (h : b.memAutoslew = false) : amecSlvMemVotingBox i b = store i (thermalVote i) b := by
  unfold amecSlvMemVotingBox
  rw [h]
  rfl

theorem amecSlvMemVotingBox_slewed (h : b.memAutoslew = true) : amecSlvMemVotingBox i b =
    store i ⟨(slewTurn b).memSpeedRequest + (slewTurn b).slewStep, .slew, (thermalVote i).kvmReason⟩ (slewTurn b) := by
  unfold amecSlvMemVotingBox
  rw [h]
  rfl

end

end Occ.Amec.MemVoting
