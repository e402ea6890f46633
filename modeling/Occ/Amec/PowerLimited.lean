/-
The power-limited indication of the voting box: which core it is taken from, and that it tells whether any core is
power limited when the online cores agree on that.
-/
import Occ.Amec.Ceiling

namespace Occ.Amec

/-! ## The law -/

/-- The reason is one of `NON_DPS_POWER_LIMITED`. -/
def VotingReason.IsPower (r : VotingReason) : Prop := r &&& nonDpsPowerLimited ≠ 0

instance (r : VotingReason) : Decidable r.IsPower := inferInstanceAs (Decidable (_ ≠ _))

/-- The indication after the voting box has left `s`: in the modes that have one, it tells whether the request of any
online core has a power reason, which then has lowered the request below the mode frequency or to the system
minimum; and another order of the cores gives the same. -/
structure PowerLimitedLaw (g : Inputs) (s₀ s : VotingState) : Prop where
  flag : s.nonDpsPowerLimited = true ↔ modeExcluded g.currentMode = false ∧
    ∃ k < maxNumCores, g.coreOnline k = true ∧ (s.fReason k).IsPower
  below : ∀ k < maxNumCores, g.coreOnline k = true → (s.fReason k).IsPower →
    s.fRequest k < g.fmax ∨ s.fRequest k = g.fmin
  order : ∀ order : List Nat, order.Perm (List.range maxNumCores) →
    (order.foldl (voteCore g (chipVote g)) ⟨s₀, 0, g.fmax, 0, (chipVote g).tag.throt⟩).state.nonDpsPowerLimited =
      s.nonDpsPowerLimited

/-- Some core is online, and the online cores agree on whether they are power limited. -/
structure CoresAgree (g : Inputs) : Prop where
  some : ∃ k < maxNumCores, g.coreOnline k = true
  agree : ∀ j < maxNumCores, ∀ k < maxNumCores, g.coreOnline j = true → g.coreOnline k = true →
    ((coreVote g j (chipVote g)).reason.IsPower ↔ (coreVote g k (chipVote g)).reason.IsPower)

/-! ## The core loop -/

section CoreLoop

variable (g : Inputs) (w : ChipVote)

/-- What core `k` sets the indication to. -/
def indication (k : Nat) : Bool := !modeExcluded g.currentMode && decide (coreVote g k w).reason.IsPower

theorem fReason_voteCore (l : Loop) (j : Nat) :
    (voteCore g w l j).state.fReason =
      Function.update l.state.fReason j (if g.coreOnline j then (coreVote g j w).reason else 0) := by
  unfold voteCore
  split <;> rfl

theorem fReason_foldl_voteCore (l : Loop) (n k : Nat) :
    ((List.range n).foldl (voteCore g w) l).state.fReason k =
      if k < n then if g.coreOnline k then (coreVote g k w).reason else 0 else l.state.fReason k := by
  induction n with
  | zero => simp
  | succ n ih =>
    rw [List.range_succ, List.foldl_append, List.foldl_cons, List.foldl_nil, fReason_voteCore]
    by_cases hk : k = n
    · subst hk
      rw [Function.update_self, if_pos (Nat.lt_succ_self k)]
    · rw [Function.update_of_ne hk, ih]
      have hlt : k < n + 1 ↔ k < n := by omega
      simp only [hlt]

theorem nonDpsPowerLimited_foldl (order : List Nat) (l : Loop) :
    (order.foldl (voteCore g w) l).state.nonDpsPowerLimited =
      ((order.filter g.coreOnline).getLast?.elim l.state.nonDpsPowerLimited (indication g w)) := by
  induction order using List.reverseRecOn with
  | nil => rfl
  | append_singleton order k ih =>
    rw [List.foldl_append, List.foldl_cons, List.foldl_nil, List.filter_append]
    unfold voteCore
    by_cases hon : g.coreOnline k = true
    · rw [if_pos hon, List.filter_cons_of_pos hon, List.filter_nil, List.getLast?_concat]
      exact congrArg (!modeExcluded g.currentMode && ·) (Bool.eq_iff_iff.2 (bne_iff_ne.trans decide_eq_true_iff.symm))
    · rw [if_neg hon, List.filter_cons_of_neg hon, List.filter_nil, List.append_nil]
      exact ih

theorem bookkeeping_frame (g : Inputs) (l : Loop) (t : ThrotReason) (s : VotingState) :
    (updateClip g l (updateThrot g t (updateCoreMax l s))).nonDpsPowerLimited = s.nonDpsPowerLimited ∧
    (updateClip g l (updateThrot g t (updateCoreMax l s))).fReason = s.fReason := by
  have hmax : (updateCoreMax l s).nonDpsPowerLimited = s.nonDpsPowerLimited ∧
      (updateCoreMax l s).fReason = s.fReason := by
    unfold updateCoreMax
    split <;> exact ⟨rfl, rfl⟩
  have hthrot : ∀ s : VotingState, (updateThrot g t s).nonDpsPowerLimited = s.nonDpsPowerLimited ∧
      (updateThrot g t s).fReason = s.fReason := by
    intro s
    unfold updateThrot
    dsimp only
    split <;> exact ⟨rfl, rfl⟩
  have hclip : ∀ s : VotingState, (updateClip g l s).nonDpsPowerLimited = s.nonDpsPowerLimited ∧
      (updateClip g l s).fReason = s.fReason := by
    intro s
    unfold updateClip
    dsimp only
    split_ifs <;> exact ⟨rfl, rfl⟩
  exact ⟨(hclip _).1.trans ((hthrot _).1.trans hmax.1), (hclip _).2.trans ((hthrot _).2.trans hmax.2)⟩

theorem fReason_amecSlvProcVotingBox (s : VotingState) {k : Nat} (hk : k < maxNumCores) :
    (amecSlvProcVotingBox g s).fReason k =
      if g.coreOnline k then (coreVote g k (chipVote g)).reason else 0 := by
  unfold amecSlvProcVotingBox
  dsimp only
  rw [(bookkeeping_frame g _ _ _).2, voteCores, fReason_foldl_voteCore, if_pos hk]

theorem nonDpsPowerLimited_amecSlvProcVotingBox (s : VotingState) :
    (amecSlvProcVotingBox g s).nonDpsPowerLimited =
      ((List.range maxNumCores).filter g.coreOnline).getLast?.elim s.nonDpsPowerLimited
        (indication g (chipVote g)) := by
  unfold amecSlvProcVotingBox
  dsimp only
  rw [(bookkeeping_frame g _ _ _).1, voteCores, nonDpsPowerLimited_foldl]
  split_ifs <;> rfl

end CoreLoop

/-! ## What a power reason says -/

section Reason

variable (g : Inputs)

/-- A chip vote is at most the mode frequency, and below it when a power vote has lowered it. -/
structure Lowered (v : ChipVote) : Prop where
  le : v.limit ≤ g.fmax
  lt : v.tag.reason.IsPower → v.limit < g.fmax

variable {g} in
theorem Lowered.castIf {w : ChipVote} (h : Lowered g w) (active : Bool) (v : ChipVote) :
    Lowered g (castIf active w v) := by
  unfold Amec.castIf
  split_ifs with hc
  · have hlt : v.limit < w.limit := of_decide_eq_true (Bool.and_eq_true_iff.1 hc).2
    exact ⟨(hlt.trans_le h.le).le, fun _ => hlt.trans_le h.le⟩
  · exact h

theorem lowered_chipVote : Lowered g (chipVote g) := by
  unfold chipVote
  dsimp only
  have hstart : Lowered g ⟨g.fmax, .init, .noThrottle⟩ := ⟨le_rfl, fun h => absurd h (by decide : ¬VotingReason.init.IsPower)⟩
  exact ((((((hstart.castIf _ _).castIf _ _).castIf _ _).castIf _ _).castIf _ _).castIf _ _).castIf _ _

variable {g} {k : Nat} {c : CoreVote}

theorem voteDps_isPower (h : (voteDps g k c).reason.IsPower) : voteDps g k c = c := by
  unfold voteDps at *
  split_ifs at *
  · exact absurd h (by decide : ¬VotingReason.util.IsPower)
  · rfl

theorem voteSoftBounds_isPower {t : ChipTag} {p : Option AmecPart} (h : (voteSoftBounds t p c).reason.IsPower) :
    voteSoftBounds t p c = c := by
  unfold voteSoftBounds at *
  cases p with
  | none => rfl
  | some p =>
    dsimp only at *
    split_ifs at *
    · rfl
    · exact absurd h (by decide : ¬VotingReason.softMin.IsPower)
    · exact absurd h (by decide : ¬VotingReason.softMax.IsPower)
    · rfl

theorem voteIps_isPower (h : (voteIps g c).reason.IsPower) : voteIps g c = c := by
  unfold voteIps at *
  split_ifs at *
  · exact absurd h (by decide : ¬VotingReason.ips.IsPower)
  · rfl

theorem overrideIf_isPower {enable : Bool} {freq : Nat} {r : VotingReason} (hr : ¬r.IsPower)
    (h : (overrideIf enable freq r c).reason.IsPower) : overrideIf enable freq r c = c := by
  unfold overrideIf at *
  split_ifs at *
  · exact absurd h hr
  · rfl

theorem reason_clampSysFmin (c : CoreVote) : (clampSysFmin g c).reason = c.reason := by
  unfold clampSysFmin
  split_ifs <;> rfl

/-- A core with a power reason has the chip vote, lifted to the system minimum. -/
theorem coreVote_isPower {w : ChipVote} (h : (coreVote g k w).reason.IsPower) :
    w.tag.reason.IsPower ∧ (coreVote g k w).freq = max g.fmin w.limit := by
  unfold coreVote at *
  dsimp only at *
  have hcore := overrideIf_isPower (by decide) h
  rw [hcore] at h ⊢
  rw [reason_clampSysFmin] at h
  rw [freq_clampSysFmin]
  have hpstate := overrideIf_isPower (by decide) h
  rw [hpstate] at h ⊢
  have hmaster := overrideIf_isPower (by decide) h
  rw [hmaster] at h ⊢
  have hips := voteIps_isPower h
  rw [hips] at h ⊢
  split_ifs at * with hkvm
  · exact ⟨h, rfl⟩
  · have hsoft := voteSoftBounds_isPower h
    rw [hsoft] at h ⊢
    have hdps := voteDps_isPower h
    rw [hdps] at h ⊢
    exact ⟨h, rfl⟩

end Reason

/-! ## The indication -/

section Indication

variable {g : Inputs}

theorem indication_iff {k : Nat} : indication g (chipVote g) k = true ↔
    modeExcluded g.currentMode = false ∧ (coreVote g k (chipVote g)).reason.IsPower := by
  rw [indication, Bool.and_eq_true_iff, Bool.not_eq_true', decide_eq_true_eq]

theorem foldl_indication (h : CoresAgree g) {order : List Nat} (hperm : order.Perm (List.range maxNumCores))
    {l : Loop} : (order.foldl (voteCore g (chipVote g)) l).state.nonDpsPowerLimited = true ↔
      modeExcluded g.currentMode = false ∧
        ∃ k < maxNumCores, g.coreOnline k = true ∧ (coreVote g k (chipVote g)).reason.IsPower := by
  obtain ⟨j, hj, hon⟩ := h.some
  have hmem : j ∈ order.filter g.coreOnline := List.mem_filter.2 ⟨hperm.mem_iff.2 (List.mem_range.2 hj), hon⟩
  have hne : order.filter g.coreOnline ≠ [] := List.ne_nil_of_mem hmem
  have hlast := List.getLast_mem hne
  obtain ⟨hin, honline⟩ := List.mem_filter.1 hlast
  have hlt := List.mem_range.1 (hperm.mem_iff.1 hin)
  rw [nonDpsPowerLimited_foldl, List.getLast?_eq_getLast_of_ne_nil hne, Option.elim_some, indication_iff]
  apply and_congr_right
  intro _
  constructor
  · exact fun hp => ⟨_, hlt, honline, hp⟩
  · rintro ⟨k, hk, honk, hp⟩
    exact (h.agree k hk _ hlt honk honline).1 hp

/-- When the online cores agree, the indication tells whether any of them is power limited. -/
theorem powerLimitedLaw_of_agree (g : Inputs) (s : VotingState) (h : CoresAgree g) :
    PowerLimitedLaw g s (amecSlvProcVotingBox g s) := by
  have hreason : ∀ k < maxNumCores, g.coreOnline k = true →
      (amecSlvProcVotingBox g s).fReason k = (coreVote g k (chipVote g)).reason := by
    intro k hk hon
    rw [fReason_amecSlvProcVotingBox g s hk, if_pos hon]
  have hsame : (amecSlvProcVotingBox g s).nonDpsPowerLimited =
      ((List.range maxNumCores).foldl (voteCore g (chipVote g))
        ⟨s, 0, g.fmax, 0, (chipVote g).tag.throt⟩).state.nonDpsPowerLimited := by
    rw [nonDpsPowerLimited_amecSlvProcVotingBox, nonDpsPowerLimited_foldl]
  refine ⟨?_, fun k hk hon hp => ?_, fun order hperm => ?_⟩
  · rw [hsame, foldl_indication h (List.Perm.refl _)]
    apply and_congr_right
    intro _
    constructor
    · rintro ⟨k, hk, hon, hp⟩
      exact ⟨k, hk, hon, by rw [hreason k hk hon]; exact hp⟩
    · rintro ⟨k, hk, hon, hp⟩
      exact ⟨k, hk, hon, by rw [← hreason k hk hon]; exact hp⟩
  · rw [hreason k hk hon] at hp
    obtain ⟨htag, hfreq⟩ := coreVote_isPower hp
    rw [fRequest_amecSlvProcVotingBox g s hk, if_pos hon, hfreq]
    rcases le_total g.fmin (chipVote g).limit with hle | hle
    · rw [max_eq_right hle]
      exact .inl ((lowered_chipVote g).lt htag)
    · exact .inr (max_eq_left hle)
  · rw [hsame]
    exact Bool.eq_iff_iff.2 ((foldl_indication h hperm).trans (foldl_indication h (List.Perm.refl _)).symm)

end Indication

/-- Core 0 is limited to 2400 by PPB. -/
def ppbLimited : Inputs := { apssBelowSoftMin with apssPmaxClipFreq := 3000, ppbFmax := 2400, kvm := true }

/-- Core 0 is limited to 2400 by the temperature of the processor. -/
def thermalLimited : Inputs :=
  { apssBelowSoftMin with apssPmaxClipFreq := 3000, thermalprocFreqRequest := 2400, kvm := true }

theorem powerLimitedLaw_of_agree_ppb : PowerLimitedLaw ppbLimited .boot (amecSlvProcVotingBox ppbLimited .boot) := by
  apply powerLimitedLaw_of_agree
  constructor
  · exact ⟨0, by decide, by decide⟩
  · decide

/-- A thermal limit is no power limit: core 0 runs below the mode frequency, and the indication is off. -/
theorem thermal_not_indicated : thermalLimited.coreOnline 0 = true ∧
    (amecSlvProcVotingBox thermalLimited .boot).fReason 0 = .procThrm ∧
    (amecSlvProcVotingBox thermalLimited .boot).fRequest 0 < thermalLimited.fmax ∧
    modeExcluded thermalLimited.currentMode = false ∧
    (amecSlvProcVotingBox thermalLimited .boot).nonDpsPowerLimited = false := by
  decide

end Occ.Amec
