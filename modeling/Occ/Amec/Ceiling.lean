/-
The floor and ceiling law of the voting box, for every set of votes, every delegation and DPS
setting and every set of online cores, with no override in force. The floor always holds. The
ceiling holds exactly when the soft minimum, cut by the IPS request, is not above the emergency
ceilings on a core where the vote that won is one the soft minimum does not look at: OVERSUB, VRM_N
and APSS_PMAX are missing from the reasons that block it.
-/
import Occ.Amec.VotingBox

namespace Occ.Amec

open Occ.Ballot

/-! ## Active emergency ceilings -/

section Spec

variable (g : Inputs)

/-- The limits that are ceilings only while they are asserted and have a frequency defined. -/
def assertedLimits : List Nat :=
  (if oversubActive g then [g.table .oversub] else []) ++ (if vrmNActive g then [g.table .vrmN] else [])

/-- The minimum of all active emergency ceilings: the asserted ones and the five power and thermal
votes that are always in force. -/
def emergencyCeiling : Nat :=
  (assertedLimits g).foldl min
    (min (min (min g.ppbFmax g.pmaxClipFreq) g.apssPmaxClipFreq)
      (min g.thermalprocFreqRequest g.thermalvddFreqRequest))

/-- The lowest chip vote is one whose reason does not block the soft minimum: the system maximum,
OVERSUB or VRM_N come first and are not undercut by PPB, PMAX or a thermal vote, or the APSS limit
undercuts PPB and PMAX and no thermal vote undercuts it. -/
def LowestVoteUnguarded : Prop :=
  (assertedLimits g).foldl min g.fmax ≤
      min (min g.ppbFmax g.pmaxClipFreq) (min g.thermalprocFreqRequest g.thermalvddFreqRequest) ∨
    g.apssPmaxClipFreq < min g.ppbFmax g.pmaxClipFreq ∧
      g.apssPmaxClipFreq ≤ min g.thermalprocFreqRequest g.thermalvddFreqRequest

/-- A frequency after the IPS request of the master. -/
def ipsCut (freq : Nat) : Nat :=
  if g.slvIpsFreqRequest = 0 then freq else min g.slvIpsFreqRequest freq

/-- No master, pstate table or per-core override applies to core `k`. -/
structure NoOverride (k : Nat) : Prop where
  master : g.foverrideEnable = true → g.foverride = 0
  pstate : g.pstateFoverrideEnable = true → g.pstateFoverride = 0
  parm : g.parmFOverrideEnable = true → g.parmFOverride k = 0

/-- Where the soft minimum can be enforced on core `k` over an emergency, it is below the ceilings
anyway. -/
def SoftMinBelowCeiling (k : Nat) : Prop :=
  g.kvm = false → LowestVoteUnguarded g → ∀ p, g.amecPartFindByCore k = some p →
    ipsCut g p.softFmin ≤ max g.fmin (emergencyCeiling g)

end Spec

/-! ## The chip vote -/

section Chip

variable (g : Inputs)

theorem castIf_eq (active : Bool) (w v : ChipVote) :
    castIf active w v = if active then lower w v else w := by
  cases active <;> simp [castIf, lower]

theorem limit_castIf (active : Bool) (w v : ChipVote) :
    (castIf active w v).limit = if active then min w.limit v.limit else w.limit := by
  rw [castIf_eq]
  split
  · exact limit_lower w v
  · rfl

/-- The chip vote after the asserted emergencies. -/
def assertedVote : ChipVote :=
  let w : ChipVote := ⟨g.fmax, .init, .noThrottle⟩
  let w := castIf (oversubActive g) w (oversubVote g w.tag.throt)
  castIf (vrmNActive g) w (vrmNVote g w.tag.throt)

theorem chipVote_eq_tally :
    chipVote g =
      tally (tally (tally (assertedVote g) [ppbFmaxVote g, pmaxClipFreqVote g]) [apssPmaxClipFreqVote g])
        [thermalprocVote g, thermalvddVote g] := by
  simp only [chipVote, assertedVote, castIf_eq, if_true, tally_cons, tally_nil]

theorem limit_assertedVote : (assertedVote g).limit = (assertedLimits g).foldl min g.fmax := by
  simp only [assertedVote, limit_castIf, assertedLimits]
  cases oversubActive g <;> cases vrmNActive g <;> rfl

theorem foldl_min_assoc (a b : Nat) (l : List Nat) : l.foldl min (min a b) = min a (l.foldl min b) := by
  induction l generalizing b with
  | nil => rfl
  | cons x l ih => rw [List.foldl_cons, List.foldl_cons, min_assoc, ih]

theorem limit_chipVote : (chipVote g).limit = min g.fmax (emergencyCeiling g) := by
  rw [chipVote_eq_tally, emergencyCeiling, ← foldl_min_assoc, min_comm g.fmax, foldl_min_assoc]
  simp only [tally_cons, tally_nil, limit_lower, limit_assertedVote, ppbFmaxVote, pmaxClipFreqVote,
    apssPmaxClipFreqVote, thermalprocVote, thermalvddVote]
  ac_rfl

section Reason

theorem not_blocks_assertedVote : ¬ (assertedVote g).tag.Blocks := by
  have hcast : ∀ (active : Bool) (w v : ChipVote), ¬ w.tag.Blocks → ¬ v.tag.Blocks →
      ¬ (castIf active w v).tag.Blocks := by
    intro active w v hw hv
    unfold castIf
    split
    · exact hv
    · exact hw
  refine hcast _ _ _ (hcast _ _ _ ?_ ?_) ?_
  · show ¬ VotingReason.init &&& VotingReason.softMinBlockers ≠ 0
    decide
  · show ¬ VotingReason.oversub &&& VotingReason.softMinBlockers ≠ 0
    decide
  · show ¬ VotingReason.vrmN &&& VotingReason.softMinBlockers ≠ 0
    decide

theorem ppbFmaxVote_blocks : (ppbFmaxVote g).tag.Blocks := by
  show VotingReason.ppb &&& VotingReason.softMinBlockers ≠ 0
  decide

theorem pmaxClipFreqVote_blocks : (pmaxClipFreqVote g).tag.Blocks := by
  show VotingReason.pmax &&& VotingReason.softMinBlockers ≠ 0
  decide

theorem not_blocks_apssPmaxClipFreqVote : ¬ (apssPmaxClipFreqVote g).tag.Blocks := by
  show ¬ VotingReason.apssPmax &&& VotingReason.softMinBlockers ≠ 0
  decide

theorem thermalprocVote_blocks : (thermalprocVote g).tag.Blocks := by
  show VotingReason.procThrm &&& VotingReason.softMinBlockers ≠ 0
  decide

theorem thermalvddVote_blocks : (thermalvddVote g).tag.Blocks := by
  show VotingReason.vddThrm &&& VotingReason.softMinBlockers ≠ 0
  decide

theorem chipVote_blocks_iff : (chipVote g).tag.Blocks ↔ ¬ LowestVoteUnguarded g := by
  have hpower := tag_tally_iff_or (P := ChipTag.Blocks) (assertedVote g)
    [ppbFmaxVote g, pmaxClipFreqVote g] (by simp [ppbFmaxVote_blocks, pmaxClipFreqVote_blocks])
  have happs := tag_tally_iff_and (P := ChipTag.Blocks) (tally (assertedVote g) [ppbFmaxVote g, pmaxClipFreqVote g])
    [apssPmaxClipFreqVote g] (by simp [not_blocks_apssPmaxClipFreqVote])
  have hthermal := tag_tally_iff_or (P := ChipTag.Blocks)
    (tally (tally (assertedVote g) [ppbFmaxVote g, pmaxClipFreqVote g]) [apssPmaxClipFreqVote g])
    [thermalprocVote g, thermalvddVote g] (by simp [thermalprocVote_blocks, thermalvddVote_blocks])
  rw [chipVote_eq_tally, hthermal, happs, hpower]
  simp only [not_blocks_assertedVote, tally_cons, tally_nil, limit_lower, limit_assertedVote, LowestVoteUnguarded,
    ppbFmaxVote, pmaxClipFreqVote, apssPmaxClipFreqVote, thermalprocVote, thermalvddVote]
  clear hpower happs hthermal
  generalize (assertedLimits g).foldl min g.fmax = a
  rw [false_or]
  omega

end Reason

end Chip

/-! ## The vote of a core -/

section Core

variable (g : Inputs) (k : Nat)

theorem freq_voteDps_le (c : CoreVote) : (voteDps g k c).freq ≤ c.freq := by
  unfold voteDps
  split
  · rename_i h; exact h.le
  · exact le_rfl

theorem freq_voteIps (c : CoreVote) : (voteIps g c).freq = ipsCut g c.freq := by
  unfold voteIps ipsCut
  by_cases h0 : g.slvIpsFreqRequest = 0
  · simp [h0]
  · by_cases hlt : g.slvIpsFreqRequest < c.freq
    · simp [h0, hlt, hlt.le]
    · simp [h0, hlt, not_lt.1 hlt]

theorem ipsCut_le (f : Nat) : ipsCut g f ≤ f := by
  unfold ipsCut
  split
  · exact le_rfl
  · exact min_le_right _ _

theorem freq_clampSysFmin (c : CoreVote) : (clampSysFmin g c).freq = max g.fmin c.freq := by
  unfold clampSysFmin
  split
  · rename_i h; exact (max_eq_left h.le).symm
  · rename_i h; exact (max_eq_right (not_lt.1 h)).symm

theorem overrideIf_eq_self {enable : Bool} {freq : Nat} (h : enable = true → freq = 0) (r : VotingReason)
    (c : CoreVote) : overrideIf enable freq r c = c := by
  unfold overrideIf
  cases enable
  · rfl
  · rw [h rfl]; rfl

/-- The core's vote before the IPS request: the chip vote, and outside KVM the DPS request and the
soft bounds on top of it. -/
def delegatedVote (w : ChipVote) : CoreVote :=
  if g.kvm then ⟨w.limit, w.tag.reason⟩
  else voteSoftBounds w.tag (g.amecPartFindByCore k) (voteDps g k ⟨w.limit, w.tag.reason⟩)

variable {g k}

theorem freq_coreVote (h : NoOverride g k) (w : ChipVote) :
    (coreVote g k w).freq = max g.fmin (ipsCut g (delegatedVote g k w).freq) := by
  unfold coreVote
  rw [overrideIf_eq_self h.parm, freq_clampSysFmin, overrideIf_eq_self h.pstate, overrideIf_eq_self h.master,
    freq_voteIps]
  rfl

theorem freq_voteSoftBounds_le {t : ChipTag} {p : AmecPart} {c : CoreVote}
    (h : t.Blocks ∨ p.softFmin ≤ c.freq) : (voteSoftBounds t (some p) c).freq ≤ c.freq := by
  unfold voteSoftBounds
  simp only
  split
  · rename_i hlt
    rw [if_pos (h.resolve_right (not_le.2 hlt))]
  · split
    · rename_i hmax; exact hmax.le
    · exact le_rfl

theorem freq_voteSoftBounds_raised {t : ChipTag} {p : AmecPart} {c : CoreVote}
    (ht : ¬ t.Blocks) (hlt : c.freq < p.softFmin) : (voteSoftBounds t (some p) c).freq = p.softFmin := by
  simp [voteSoftBounds, hlt, ht]

/-- One core meets the ceiling exactly when its soft minimum cannot lift it over an emergency. -/
theorem freq_coreVote_le_iff (h : NoOverride g k) :
    (coreVote g k (chipVote g)).freq ≤ max g.fmin (emergencyCeiling g) ↔ SoftMinBelowCeiling g k := by
  have hchip : (chipVote g).limit ≤ emergencyCeiling g := (limit_chipVote g).trans_le (min_le_right _ _)
  -- a delegated vote at or below the chip vote meets the ceiling
  have hlow : ∀ f ≤ (chipVote g).limit, max g.fmin (ipsCut g f) ≤ max g.fmin (emergencyCeiling g) :=
    fun f hf => max_le_max le_rfl ((ipsCut_le g f).trans (hf.trans hchip))
  rw [freq_coreVote h, delegatedVote]
  by_cases hkvm : g.kvm = true
  · rw [if_pos hkvm]
    exact ⟨fun _ hk => absurd (hk ▸ hkvm) (by decide), fun _ => hlow _ le_rfl⟩
  rw [if_neg hkvm]
  have hdps := freq_voteDps_le g k ⟨(chipVote g).limit, (chipVote g).tag.reason⟩
  cases hp : g.amecPartFindByCore k with
  | none => exact ⟨fun _ _ _ p hp' => (nomatch hp.symm.trans hp'), fun _ => hlow _ hdps⟩
  | some p =>
    by_cases hraise : ¬ (chipVote g).tag.Blocks ∧
        (voteDps g k ⟨(chipVote g).limit, (chipVote g).tag.reason⟩).freq < p.softFmin
    · rw [freq_voteSoftBounds_raised hraise.1 hraise.2]
      have hun : LowestVoteUnguarded g := by
        by_contra hn; exact hraise.1 ((chipVote_blocks_iff g).2 hn)
      constructor
      · rintro hle _ _ q hq
        cases hp.symm.trans hq
        exact (le_max_right _ _).trans hle
      · intro hs
        exact max_le (le_max_left _ _) (hs (by simpa using hkvm) hun p hp)
    · rw [not_and_or, not_not, not_lt] at hraise
      constructor
      · rintro _ _ hun q hq
        cases hp.symm.trans hq
        have hmin := hraise.resolve_left fun hb => (chipVote_blocks_iff g).1 hb hun
        exact (ipsCut_le g _).trans ((hmin.trans (hdps.trans hchip)).trans (le_max_right _ _))
      · exact fun _ => hlow _ ((freq_voteSoftBounds_le hraise).trans hdps)

end Core

/-! ## The core loop -/

section CoreLoop

variable (g : Inputs) (w : ChipVote)

theorem fRequest_voteCore (l : Loop) (j : Nat) :
    (voteCore g w l j).state.fRequest =
      Function.update l.state.fRequest j (if g.coreOnline j then (coreVote g j w).freq else 0) := by
  unfold voteCore
  split <;> rfl

theorem fRequest_foldl_voteCore (l : Loop) (n k : Nat) :
    ((List.range n).foldl (voteCore g w) l).state.fRequest k =
      if k < n then if g.coreOnline k then (coreVote g k w).freq else 0 else l.state.fRequest k := by
  induction n with
  | zero => rfl
  | succ n ih =>
    rw [List.range_succ, List.foldl_append, List.foldl_cons, List.foldl_nil, fRequest_voteCore]
    by_cases hk : k = n
    · subst hk; simp
    · rw [Function.update_of_ne hk, ih]
      have : k < n + 1 ↔ k < n := by omega
      simp only [this]

@[simp] theorem fRequest_updateCoreMax (l : Loop) (s : VotingState) :
    (updateCoreMax l s).fRequest = s.fRequest := by
  unfold updateCoreMax; split <;> rfl

@[simp] theorem fRequest_updateThrot (t : ThrotReason) (s : VotingState) :
    (updateThrot g t s).fRequest = s.fRequest := by
  unfold updateThrot; simp only; split <;> rfl

@[simp] theorem fRequest_updateClip (l : Loop) (s : VotingState) :
    (updateClip g l s).fRequest = s.fRequest := by
  unfold updateClip
  simp only
  split
  · split
    · split <;> rfl
    · rfl
  · rfl

theorem fRequest_amecSlvProcVotingBox (s : VotingState) {k : Nat} (hk : k < maxNumCores) :
    (amecSlvProcVotingBox g s).fRequest k =
      if g.coreOnline k then (coreVote g k (chipVote g)).freq else 0 := by
  simp only [amecSlvProcVotingBox, voteCores, fRequest_updateClip, fRequest_updateThrot, fRequest_updateCoreMax]
  rw [fRequest_foldl_voteCore, if_pos hk]

end CoreLoop

/-! ## The law -/

/-- The request of core `k` is at least the system minimum and at most the larger of that minimum
and the lowest active emergency ceiling. -/
def FRequestInBounds (g : Inputs) (s : VotingState) (k : Nat) : Prop :=
  g.fmin ≤ s.fRequest k ∧ s.fRequest k ≤ max g.fmin (emergencyCeiling g)

/-- With no override in force, every online core is in bounds exactly when on none of them the soft
minimum is enforced above an emergency ceiling it does not look at. -/
theorem fRequest_inBounds_iff (g : Inputs) (s : VotingState)
    (h : ∀ k < maxNumCores, g.coreOnline k = true → NoOverride g k) :
    (∀ k < maxNumCores, g.coreOnline k = true → FRequestInBounds g (amecSlvProcVotingBox g s) k) ↔
      ∀ k < maxNumCores, g.coreOnline k = true → SoftMinBelowCeiling g k := by
  refine forall_congr' fun k => forall_congr' fun hk => forall_congr' fun hon => ?_
  unfold FRequestInBounds
  rw [fRequest_amecSlvProcVotingBox g s hk, if_pos hon, freq_coreVote_le_iff (h k hk hon)]
  have hfloor : g.fmin ≤ (coreVote g k (chipVote g)).freq := by
    rw [freq_coreVote (h k hk hon)]; exact le_max_left _ _
  exact and_iff_right hfloor

/-- Core 0 is online in a partition with soft minimum 2700 while the APSS limit is 2400. -/
def apssBelowSoftMin : Inputs where
  fmax := 3000
  fmin := 2000
  table := fun _ => 3000
  currentMode := .nominal
  kvm := false
  reportDvfsNom := true
  nonRedundPs := false
  oversubPinLive := false
  emulateOversub := false
  vrmFaultStatus := false
  ppbFmax := 3000
  pmaxClipFreq := 3000
  apssPmaxClipFreq := 2400
  thermalprocFreqRequest := 3000
  thermalvddFreqRequest := 3000
  presentCores := 0x80000000
  coreOfflineMask := 0
  core2part := fun _ => 0
  partList := fun _ => ⟨true, 2700, 3000⟩
  dpsFreqRequest := fun _ => 3000
  slvIpsFreqRequest := 0
  foverrideEnable := false
  foverride := 0
  pstateFoverrideEnable := false
  pstateFoverride := 0
  parmFOverrideEnable := false
  parmFOverride := fun _ => 0

theorem noOverride_apssBelowSoftMin (k : Nat) : NoOverride apssBelowSoftMin k :=
  ⟨nofun, nofun, nofun⟩

theorem fRequest_inBounds_iff_apssBelowSoftMin :
    (∀ k < maxNumCores, apssBelowSoftMin.coreOnline k = true →
        FRequestInBounds apssBelowSoftMin (amecSlvProcVotingBox apssBelowSoftMin .boot) k) ↔
      ∀ k < maxNumCores, apssBelowSoftMin.coreOnline k = true → SoftMinBelowCeiling apssBelowSoftMin k :=
  fRequest_inBounds_iff apssBelowSoftMin .boot fun k _ _ => noOverride_apssBelowSoftMin k

/-- The soft minimum lifts core 0 to 2700 over the active APSS limit of 2400. -/
theorem softMin_over_apss_limit :
    (∀ k < maxNumCores, NoOverride apssBelowSoftMin k) ∧ apssBelowSoftMin.coreOnline 0 = true ∧
      ¬ FRequestInBounds apssBelowSoftMin (amecSlvProcVotingBox apssBelowSoftMin .boot) 0 := by
  refine ⟨fun k _ => noOverride_apssBelowSoftMin k, by decide, ?_⟩
  unfold FRequestInBounds
  decide

end Occ.Amec
