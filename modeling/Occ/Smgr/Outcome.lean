/-
What `SMGR_set_state` answers and what it has done: it returns no error when the OCC is in the requested state, and an error when
it is not, but for a failure of a handler that has been reported before.
-/
import Occ.Smgr.RunMask

namespace Occ.Smgr

open Occ Occ.Transition

/-! ## Handlers that report once -/

/-- The handlers that keep in an `L_error_logged` that they have reported a failure. -/
inductive Handler
  | standbyToObservation | observationToCharacterization | observationToActive
deriving DecidableEq, Repr

/-- `L_error_logged` -/
def Globals.logged (s : Globals) : Handler → Bool
  | .standbyToObservation => s.stbToObsLogged
  | .observationToCharacterization => s.obsToChrLogged
  | .observationToActive => s.obsToActLogged

/-- The handlers that a transition function goes through. -/
def TransFunc.handlers : TransFunc → List Handler
  | .standbyToObservation => [.standbyToObservation]
  | .standbyToActive => [.standbyToObservation, .observationToActive]
  | .observationToCharacterization => [.observationToCharacterization]
  | .observationToActive | .characterizationToActive => [.observationToActive]
  | _ => []

/-- The pstate status that is read after the wait for it is the one that the wait ended with. -/
def Steady (env : Env) : Prop :=
  env.hwpstateEnabled (env.waitHwpstateEnabled env.pollsBeforeTimeout 0).2 =
    (env.waitHwpstateEnabled env.pollsBeforeTimeout 0).1

instance (env : Env) : Decidable (Steady env) := inferInstanceAs (Decidable (_ = _))

section
variable (env : Env) (s : Globals)

/-! ## The PGPE parts keep the flags -/

theorem logged_pgpeStartChar : (pgpeStartChar env s).1.logged = s.logged := by
  unfold pgpeStartChar
  simp only
  repeat' split
  all_goals rfl

theorem logged_charRc : (charRc env s).1.logged = s.logged := by
  unfold charRc
  split
  · exact logged_pgpeStartChar env s
  · rfl

theorem logged_pgpeStopChar : (pgpeStopChar env s).1.logged = s.logged := by
  unfold pgpeStopChar
  simp only
  repeat' split
  all_goals rfl

theorem logged_startPstates : (startPstates env s).1.logged = s.logged := by
  unfold startPstates
  simp only
  repeat' split
  all_goals rfl

theorem logged_pgpeStopActive : (pgpeStopActive env s).1.logged = s.logged := by
  unfold pgpeStopActive
  simp only
  repeat' split
  all_goals rfl

theorem logged_pgpeActiveToChar : (pgpeActiveToChar env s).1.logged = s.logged := by
  unfold pgpeActiveToChar
  simp only
  repeat' split
  all_goals rfl

/-! ## One handler -/

theorem standbyToObservation_none (h : (smgrStandbyToObservation env s).2 = none) :
    (smgrStandbyToObservation env s).1.currentState = .observation ∨
      s.stbToObsLogged ∧ (smgrStandbyToObservation env s).1 = s := by
  unfold smgrStandbyToObservation at *
  split_ifs at h ⊢ with hready hlogged
  · exact .inl rfl
  · exact .inr ⟨hlogged, rfl⟩

theorem standbyToObservation_some (h : (smgrStandbyToObservation env s).2 ≠ none) :
    (smgrStandbyToObservation env s).1.currentState = s.currentState := by
  unfold smgrStandbyToObservation at *
  split_ifs at h ⊢ with hready hlogged
  · exact absurd rfl h
  · exact absurd rfl h
  · rfl

theorem logged_standbyToObservation {k : Handler} (h : (smgrStandbyToObservation env s).1.logged k) :
    s.logged k ∨ k = .standbyToObservation ∧ (smgrStandbyToObservation env s).2 ≠ none := by
  unfold smgrStandbyToObservation at *
  split_ifs at h ⊢ with hready hlogged
  · cases k with
    | standbyToObservation => exact absurd h Bool.false_ne_true
    | observationToCharacterization | observationToActive => exact .inl h
  · exact .inl h
  · cases k with
    | standbyToObservation => exact .inr ⟨rfl, nofun⟩
    | observationToCharacterization | observationToActive => exact .inl h

/-- The part with cores: the OCC is active exactly when there is no failure, and the flag is kept by a failure. -/
theorem observationToActiveCores_outcome (hsteady : Steady env) :
    (observationToActiveCores env s).2 = none ∧ (observationToActiveCores env s).1.currentState = .active ∨
      (observationToActiveCores env s).2 ≠ none ∧ (observationToActiveCores env s).1.currentState = s.currentState ∧
        (observationToActiveCores env s).1.logged = s.logged := by
  have hview := view_startPstates (s.call (.setClipFreq (activeClipFreq env))) env
  have hlogged := logged_startPstates env (s.call (.setClipFreq (activeClipFreq env)))
  have hstate : (startPstates env (s.call (.setClipFreq (activeClipFreq env)))).1.currentState = s.currentState :=
    congrArg View.state hview
  unfold observationToActiveCores
  simp only
  by_cases hclip : env.clipRc ≠ 0
  · rw [if_pos hclip]
    exact .inr ⟨nofun, rfl, rfl⟩
  rw [if_neg hclip]
  by_cases hstart : (startPstates env (s.call (.setClipFreq (activeClipFreq env)))).2 ≠ 0
  · rw [if_pos hstart]
    exact .inr ⟨nofun, hstate, hlogged⟩
  rw [if_neg hstart]
  unfold Steady at hsteady
  rw [hsteady]
  cases (env.waitHwpstateEnabled env.pollsBeforeTimeout 0).1 with
  | true => exact .inl ⟨rfl, rfl⟩
  | false => exact .inr ⟨nofun, hstate, hlogged⟩

theorem observationToActiveBody_outcome (r : Nat) (hsteady : Steady env) :
    (observationToActiveBody env r s).2 = none ∧ (observationToActiveBody env r s).1.currentState = .active ∨
      (observationToActiveBody env r s).2 ≠ none ∧ (observationToActiveBody env r s).1.currentState = s.currentState ∧
        (observationToActiveBody env r s).1.logged = s.logged := by
  unfold observationToActiveBody
  by_cases hready : env.activeReady r = true
  · rw [if_pos hready]
    by_cases hcores : env.presentCores = 0
    · exact .inl ⟨by rw [if_pos hcores], by rw [if_pos hcores]; rfl⟩
    · rw [if_neg hcores]
      exact observationToActiveCores_outcome env (s.clearWofDisabled wofRcStateChange) hsteady
  · rw [if_neg hready]
    exact .inr ⟨nofun, rfl, rfl⟩

theorem logActiveFailure_outcome {t : Globals × Option ActiveFailure} (h : t.2 ≠ none) :
    (logActiveFailure t).1.currentState = t.1.currentState ∧ ((logActiveFailure t).2 = none ↔ t.1.obsToActLogged) := by
  obtain ⟨t, failure⟩ := t
  cases failure with
  | none => exact absurd rfl h
  | some failure =>
    unfold logActiveFailure
    dsimp only
    split_ifs with hlogged
    · exact ⟨rfl, iff_of_true rfl hlogged⟩
    · exact ⟨rfl, iff_of_false nofun hlogged⟩

theorem observationToActive_none (r : Nat) (hsteady : Steady env) (h : (smgrObservationToActive env r s).2 = none) :
    (smgrObservationToActive env r s).1.currentState = .active ∨ s.obsToActLogged := by
  unfold smgrObservationToActive at *
  obtain ⟨hnone, hstate⟩ | ⟨hsome, -, hlogged⟩ := observationToActiveBody_outcome env
    { s with mnfgQuadPstate := fun q => if q < 6 then 0xFF else s.mnfgQuadPstate q } r hsteady
  · refine .inl ?_
    unfold logActiveFailure
    rw [hnone]
    exact hstate
  · obtain ⟨-, hiff⟩ := logActiveFailure_outcome hsome
    have hkept := congrFun hlogged .observationToActive
    exact .inr (hkept.symm.trans (hiff.1 h))

theorem observationToActive_some (r : Nat) (hsteady : Steady env) (h : (smgrObservationToActive env r s).2 ≠ none) :
    (smgrObservationToActive env r s).1.currentState = s.currentState := by
  unfold smgrObservationToActive at *
  obtain ⟨hnone, -⟩ | ⟨hsome, hstate, -⟩ := observationToActiveBody_outcome env
    { s with mnfgQuadPstate := fun q => if q < 6 then 0xFF else s.mnfgQuadPstate q } r hsteady
  · exact absurd (logActiveFailure_none hnone) h
  · exact (logActiveFailure_outcome hsome).1.trans hstate

theorem logged_observationToActiveCores {k : Handler} (h : (observationToActiveCores env s).1.logged k) : s.logged k := by
  have hstart : (startPstates env (s.call (.setClipFreq (activeClipFreq env)))).1.logged k = s.logged k :=
    congrFun (logged_startPstates env (s.call (.setClipFreq (activeClipFreq env)))) k
  unfold observationToActiveCores at h
  dsimp only at h
  by_cases hclip : env.clipRc ≠ 0
  · rw [if_pos hclip] at h
    exact h
  rw [if_neg hclip] at h
  by_cases hrc : (startPstates env (s.call (.setClipFreq (activeClipFreq env)))).2 ≠ 0
  · rw [if_pos hrc] at h
    exact hstart.symm.trans h
  rw [if_neg hrc] at h
  by_cases henabled : env.hwpstateEnabled (env.waitHwpstateEnabled env.pollsBeforeTimeout 0).2 = true
  · rw [if_pos henabled] at h
    -- pstates are up: a success, which resets the flag
    cases k with
    | observationToActive => exact absurd h Bool.false_ne_true
    | standbyToObservation | observationToCharacterization => exact hstart.symm.trans h
  · rw [if_neg henabled] at h
    exact hstart.symm.trans h

theorem logged_observationToActiveBody {k : Handler} (r : Nat) (h : (observationToActiveBody env r s).1.logged k) :
    s.logged k := by
  unfold observationToActiveBody at h
  by_cases hready : env.activeReady r = true
  · rw [if_pos hready] at h
    by_cases hcores : env.presentCores = 0
    · rw [if_pos hcores] at h
      exact h
    · rw [if_neg hcores] at h
      exact logged_observationToActiveCores env (s.clearWofDisabled wofRcStateChange) h
  · rw [if_neg hready] at h
    exact h

theorem logged_observationToActive {k : Handler} (r : Nat) (h : (smgrObservationToActive env r s).1.logged k) :
    s.logged k ∨ k = .observationToActive ∧ (smgrObservationToActive env r s).2 ≠ none := by
  unfold smgrObservationToActive logActiveFailure at *
  have hbody := fun h => @logged_observationToActiveBody env
    { s with mnfgQuadPstate := fun q => if q < 6 then 0xFF else s.mnfgQuadPstate q } k r h
  generalize observationToActiveBody env r
    { s with mnfgQuadPstate := fun q => if q < 6 then 0xFF else s.mnfgQuadPstate q } = t at *
  obtain ⟨t, failure⟩ := t
  cases failure with
  | none => exact .inl (hbody h)
  | some failure =>
    dsimp only at h ⊢
    split_ifs at h ⊢
    · exact .inl (hbody h)
    · cases k with
      | observationToActive => exact .inr ⟨rfl, nofun⟩
      | standbyToObservation | observationToCharacterization => exact .inl (hbody h)

/-! ## The other handlers -/

theorem standbyToCharacterization_none (h : (smgrStandbyToCharacterization env s).2 = none) :
    (smgrStandbyToCharacterization env s).1.currentState = .characterization := by
  unfold smgrStandbyToCharacterization at *
  dsimp only at h ⊢
  by_cases hrc : (charRc env (resetStbToChrLogged env s)).2 = 0
  · rw [if_pos hrc]
    rfl
  rw [if_neg hrc] at h ⊢
  -- a code other than 0 comes from the PGPE part, before which the flag was reset
  have hready : env.activeReady 0 = true := by
    by_contra hnot
    refine hrc ?_
    unfold charRc
    rw [if_neg hnot]
    rfl
  have hkept : (charRc env (resetStbToChrLogged env s)).1.stbToChrLogged = false := by
    unfold charRc resetStbToChrLogged
    rw [if_pos hready, if_pos hready]
    unfold pgpeStartChar
    dsimp only
    repeat' split
    all_goals rfl
  rw [if_neg (by rw [hkept]; exact Bool.false_ne_true)] at h
  exact absurd h nofun

theorem standbyToCharacterization_some (h : (smgrStandbyToCharacterization env s).2 ≠ none) :
    (smgrStandbyToCharacterization env s).1.currentState = s.currentState := by
  obtain ⟨hnone, -⟩ | hview := standbyToCharacterization_cases env s
  · exact absurd hnone h
  · exact congrArg View.state hview

theorem logged_standbyToCharacterization {k : Handler} (h : (smgrStandbyToCharacterization env s).1.logged k) :
    s.logged k := by
  have hkept : (charRc env (resetStbToChrLogged env s)).1.logged k = s.logged k := by
    rw [logged_charRc]
    unfold resetStbToChrLogged
    split <;> rfl
  unfold smgrStandbyToCharacterization at h
  dsimp only at h
  split_ifs at h
  all_goals exact hkept.symm.trans h

theorem observationToCharacterization_none (h : (smgrObservationToCharacterization env s).2 = none) :
    (smgrObservationToCharacterization env s).1.currentState = .characterization ∨ s.obsToChrLogged := by
  have hkept := congrFun (logged_charRc env s) .observationToCharacterization
  unfold smgrObservationToCharacterization at *
  dsimp only at h ⊢
  split_ifs at h ⊢ with hrc hlogged
  · exact .inl rfl
  · exact .inr (hkept.symm.trans hlogged)

theorem observationToCharacterization_some (h : (smgrObservationToCharacterization env s).2 ≠ none) :
    (smgrObservationToCharacterization env s).1.currentState = s.currentState := by
  obtain ⟨hnone, -⟩ | hview := observationToCharacterization_cases env s
  · exact absurd hnone h
  · exact congrArg View.state hview

theorem logged_observationToCharacterization {k : Handler} (h : (smgrObservationToCharacterization env s).1.logged k) :
    s.logged k ∨ k = .observationToCharacterization ∧ (smgrObservationToCharacterization env s).2 ≠ none := by
  have hkept := congrFun (logged_charRc env s) k
  unfold smgrObservationToCharacterization at *
  dsimp only at h ⊢
  split_ifs at h ⊢ with hrc hlogged
  · exact .inl (hkept.symm.trans h)
  · exact .inl (hkept.symm.trans h)
  · cases k with
    | observationToCharacterization => exact .inr ⟨rfl, nofun⟩
    | standbyToObservation | observationToActive => exact .inl (hkept.symm.trans h)

theorem characterizationToObservation_answer :
    ((smgrCharacterizationToObservation env s).2 = none ∧
        (smgrCharacterizationToObservation env s).1.currentState = .observation) ∨
      ((smgrCharacterizationToObservation env s).2 ≠ none ∧
        (smgrCharacterizationToObservation env s).1.currentState = s.currentState) := by
  have hview := congrArg View.state (view_pgpeStopChar s env)
  unfold smgrCharacterizationToObservation
  dsimp only
  split_ifs with hrc
  · exact .inr ⟨nofun, hview⟩
  · exact .inl ⟨rfl, rfl⟩

theorem activeToObservation_answer :
    ((smgrActiveToObservation env s).2 = none ∧ (smgrActiveToObservation env s).1.currentState = .observation) ∨
      ((smgrActiveToObservation env s).2 ≠ none ∧ (smgrActiveToObservation env s).1.currentState = s.currentState) := by
  have hview : (pgpeStopActive env (s.setWofDisabled wofRcStateChange)).1.currentState = s.currentState :=
    congrArg View.state (view_pgpeStopActive (s.setWofDisabled wofRcStateChange) env)
  unfold smgrActiveToObservation
  dsimp only
  split
  · exact .inr ⟨nofun, hview⟩
  · exact .inl ⟨rfl, rfl⟩

theorem activeToCharacterization_answer :
    ((smgrActiveToCharacterization env s).2 = none ∧
        (smgrActiveToCharacterization env s).1.currentState = .characterization) ∨
      ((smgrActiveToCharacterization env s).2 ≠ none ∧
        (smgrActiveToCharacterization env s).1.currentState = s.currentState) := by
  have hview : (pgpeActiveToChar env (s.setWofDisabled wofRcStateChange)).1.currentState = s.currentState :=
    congrArg View.state (view_pgpeActiveToChar (s.setWofDisabled wofRcStateChange) env)
  unfold smgrActiveToCharacterization
  dsimp only
  split_ifs with hrc
  · exact .inr ⟨nofun, hview⟩
  · exact .inl ⟨rfl, rfl⟩

theorem standbyToActive_none (hsteady : Steady env) (h : (smgrStandbyToActive env s).2 = none) :
    (smgrStandbyToActive env s).1.currentState = .active ∨ s.obsToActLogged := by
  unfold smgrStandbyToActive at *
  dsimp only at h ⊢
  cases hfirst : (smgrStandbyToObservation env s).2 with
  | some e => rw [hfirst] at h; cases h
  | none =>
    rw [hfirst] at h
    obtain hactive | hlogged := observationToActive_none env (smgrStandbyToObservation env s).1 1 hsteady h
    · exact .inl hactive
    · obtain hbefore | ⟨hne, -⟩ := @logged_standbyToObservation env s .observationToActive hlogged
      · exact .inr hbefore
      · cases hne

theorem standbyToActive_some (hsteady : Steady env) (hs : s.currentState = .standby)
    (h : (smgrStandbyToActive env s).2 ≠ none) : (smgrStandbyToActive env s).1.currentState ≠ .active := by
  have hfirst : (smgrStandbyToObservation env s).1.currentState ≠ .active := by
    obtain ⟨-, -, hview⟩ | ⟨-, hview⟩ := standbyToObservation_cases env s
    · rw [show (smgrStandbyToObservation env s).1.currentState = .observation from congrArg View.state hview]
      exact nofun
    · rw [show (smgrStandbyToObservation env s).1.currentState = s.currentState from congrArg View.state hview, hs]
      exact nofun
  unfold smgrStandbyToActive at *
  dsimp only at h ⊢
  cases hanswer : (smgrStandbyToObservation env s).2 with
  | some e => exact hfirst
  | none =>
    rw [hanswer] at h
    dsimp only at h ⊢
    rw [observationToActive_some env (smgrStandbyToObservation env s).1 1 hsteady h]
    exact hfirst

theorem logged_standbyToActive {k : Handler} (h : (smgrStandbyToActive env s).1.logged k) :
    s.logged k ∨ k ∈ TransFunc.standbyToActive.handlers ∧ (smgrStandbyToActive env s).2 ≠ none := by
  unfold smgrStandbyToActive at *
  dsimp only at h ⊢
  cases hfirst : (smgrStandbyToObservation env s).2 with
  | some e =>
    rw [hfirst] at h
    obtain hbefore | ⟨rfl, -⟩ := logged_standbyToObservation env s h
    · exact .inl hbefore
    · exact .inr ⟨List.mem_cons_self, nofun⟩
  | none =>
    rw [hfirst] at h
    dsimp only at h ⊢
    obtain hbefore | ⟨rfl, hsome⟩ := logged_observationToActive env (smgrStandbyToObservation env s).1 1 h
    · obtain hbefore | ⟨-, hsome⟩ := logged_standbyToObservation env s hbefore
      · exact .inl hbefore
      · exact absurd hfirst hsome
    · exact .inr ⟨List.mem_cons_of_mem _ List.mem_cons_self, hsome⟩

theorem logged_allToSafe : (smgrAllToSafe env s).1.logged = s.logged := by
  unfold smgrAllToSafe
  dsimp only
  split <;> rfl

end

/-! ## A transition -/

/-- What a transition to `target` answers, from a state where `logged` says what has been reported. -/
structure Answers (logged : Handler → Bool) (handlers : List Handler) (target : OccState)
    (r : Globals × Option Errl) : Prop where
  reached : r.2 = none → r.1.currentState = target ∨ ∃ k ∈ handlers, logged k
  failed : r.2 ≠ none → r.1.currentState ≠ target

section
variable {env : Env} {s : Globals}

theorem Answers.of_answer {logged : Handler → Bool} {handlers : List Handler} {target source : OccState}
    {r : Globals × Option Errl} (hne : source ≠ target)
    (h : (r.2 = none ∧ r.1.currentState = target) ∨ (r.2 ≠ none ∧ r.1.currentState = source)) :
    Answers logged handlers target r := by
  obtain ⟨hnone, hstate⟩ | ⟨hsome, hstate⟩ := h
  · exact ⟨fun _ => .inl hstate, fun hsome => absurd hnone hsome⟩
  · exact ⟨fun hnone => absurd hnone hsome, fun _ => hstate.trans_ne hne⟩

theorem Answers.observationToActive (hsteady : Steady env) (hs : s.currentState ≠ .active) (r : Nat) :
    Answers s.logged [.observationToActive] .active (smgrObservationToActive env r s) where
  reached h := (observationToActive_none env s r hsteady h).imp_right fun h => ⟨_, List.mem_cons_self, h⟩
  failed h := (observationToActive_some env s r hsteady h).trans_ne hs

/-- Every transition function answers so, from the state it starts from. -/
theorem TransFunc.answers {f : TransFunc} (hsteady : Steady env)
    (hsource : f.source = some s.currentState ∨ f.source = none) :
    Answers s.logged f.handlers f.target (f.run env s) := by
  have hsrc := TransFunc.state_eq hsource
  cases f with
  | standbyToObservation =>
    have hs : s.currentState ≠ .observation := (hsrc _ rfl).trans_ne nofun
    constructor
    · rintro h
      obtain hstate | ⟨hlogged, -⟩ := standbyToObservation_none env s h
      · exact .inl hstate
      · exact .inr ⟨_, List.mem_cons_self, hlogged⟩
    · rintro h
      exact (standbyToObservation_some env s h).trans_ne hs
  | standbyToCharacterization =>
    have hs : s.currentState ≠ .characterization := (hsrc _ rfl).trans_ne nofun
    constructor
    · exact fun h => .inl (standbyToCharacterization_none env s h)
    · exact fun h => (standbyToCharacterization_some env s h).trans_ne hs
  | standbyToActive =>
    constructor
    · rintro h
      obtain hstate | hlogged := standbyToActive_none env s hsteady h
      · exact .inl hstate
      · exact .inr ⟨_, List.mem_cons_of_mem _ List.mem_cons_self, hlogged⟩
    · exact standbyToActive_some env s hsteady (hsrc _ rfl)
  | observationToCharacterization =>
    have hs : s.currentState ≠ .characterization := (hsrc _ rfl).trans_ne nofun
    constructor
    · rintro h
      obtain hstate | hlogged := observationToCharacterization_none env s h
      · exact .inl hstate
      · exact .inr ⟨_, List.mem_cons_self, hlogged⟩
    · rintro h
      exact (observationToCharacterization_some env s h).trans_ne hs
  | observationToActive => exact .observationToActive hsteady ((hsrc _ rfl).trans_ne nofun) 0
  | characterizationToActive => exact .observationToActive hsteady ((hsrc _ rfl).trans_ne nofun) 0
  | characterizationToObservation =>
    exact .of_answer ((hsrc _ rfl).trans_ne nofun) (characterizationToObservation_answer env s)
  | activeToObservation => exact .of_answer ((hsrc _ rfl).trans_ne nofun) (activeToObservation_answer env s)
  | activeToCharacterization => exact .of_answer ((hsrc _ rfl).trans_ne nofun) (activeToCharacterization_answer env s)
  | allToStandby => exact ⟨fun _ => .inl rfl, fun h => absurd rfl h⟩
  | allToSafe => exact ⟨fun _ => .inl rfl, fun h => absurd rfl h⟩

/-- Only an error that is returned sets a flag, and one of a handler of the transition. -/
theorem TransFunc.reported {f : TransFunc} {k : Handler} (h : (f.run env s).1.logged k) :
    s.logged k ∨ k ∈ f.handlers ∧ (f.run env s).2 ≠ none := by
  cases f with
  | standbyToObservation => exact (logged_standbyToObservation env s h).imp_right (And.imp_left List.mem_singleton.2)
  | standbyToCharacterization => exact .inl (logged_standbyToCharacterization env s h)
  | standbyToActive => exact logged_standbyToActive env s h
  | observationToCharacterization =>
    exact (logged_observationToCharacterization env s h).imp_right (And.imp_left List.mem_singleton.2)
  | observationToActive | characterizationToActive =>
    exact (logged_observationToActive env s 0 h).imp_right (And.imp_left List.mem_singleton.2)
  | characterizationToObservation =>
    have hkept := congrFun (logged_pgpeStopChar env s) k
    unfold TransFunc.run smgrCharacterizationToObservation at h
    dsimp only at h
    split_ifs at h
    all_goals exact .inl (hkept.symm.trans h)
  | activeToObservation =>
    have hkept := congrFun (logged_pgpeStopActive env (s.setWofDisabled wofRcStateChange)) k
    unfold TransFunc.run smgrActiveToObservation at h
    dsimp only at h
    split at h
    all_goals exact .inl (hkept.symm.trans h)
  | activeToCharacterization =>
    have hkept := congrFun (logged_pgpeActiveToChar env (s.setWofDisabled wofRcStateChange)) k
    unfold TransFunc.run smgrActiveToCharacterization at h
    dsimp only at h
    split_ifs at h
    all_goals exact .inl (hkept.symm.trans h)
  | allToStandby => exact .inl h
  | allToSafe => exact .inl ((congrFun (logged_allToSafe env s) k).symm.trans h)

end

/-! ## A call -/

/-- The handlers that a request goes through. -/
def requestHandlers (s : Globals) (new : OccState) : List Handler :=
  match findTrans s.currentState new with
  | none => []
  | some row => row.transFunc.handlers

/-- A call that is refused before any handler runs: without the lock, or without a row for the transition. -/
def Refused (env : Env) (new : OccState) (s : Globals) : Prop :=
  env.pendRc ≠ 0 ∨ findTrans s.currentState new = none

theorem logged_finishTransition (env : Env) (s : Globals) : (finishTransition env s).logged = s.logged := by
  unfold finishTransition
  dsimp only
  split <;> rfl

theorem currentState_finishTransition (env : Env) (s : Globals) :
    (finishTransition env s).currentState = s.currentState :=
  congrArg View.state (view_finishTransition s env)

section
variable {env : Env} {new : OccState} {s : Globals}

theorem smgrSetState_answer :
    (smgrSetState env new s).1 = s ∧
        ((smgrSetState env new s).2 ≠ none ∧ Refused env new s ∨ (smgrSetState env new s).2 = none ∧ new = .nochange) ∨
      ∃ row, findTrans s.currentState new = some row ∧
        smgrSetState env new s =
          (finishTransition env (row.transFunc.run env { s with stateTransitionOccuring := true }).1,
            (row.transFunc.run env { s with stateTransitionOccuring := true }).2) := by
  unfold smgrSetState
  by_cases hpend : env.pendRc ≠ 0
  · rw [if_pos hpend]
    exact .inl ⟨rfl, .inl ⟨nofun, .inl hpend⟩⟩
  rw [if_neg hpend]
  by_cases hnew : new = .nochange
  · rw [if_pos hnew]
    exact .inl ⟨rfl, .inr ⟨rfl, hnew⟩⟩
  rw [if_neg hnew]
  cases hrow : findTrans s.currentState new with
  | none => exact .inl ⟨rfl, .inl ⟨nofun, .inr hrow⟩⟩
  | some row => exact .inr ⟨row, rfl, rfl⟩

theorem mem_requestHandlers {row : StateTrans} {k : Handler} (hrow : findTrans s.currentState new = some row) :
    k ∈ requestHandlers s new ↔ k ∈ row.transFunc.handlers := by
  unfold requestHandlers
  rw [hrow]

theorem smgrSetState_reported {k : Handler} (h : (smgrSetState env new s).1.logged k) :
    s.logged k ∨ k ∈ requestHandlers s new ∧ (smgrSetState env new s).2 ≠ none := by
  obtain ⟨hsame, -⟩ | ⟨row, hrow, hcall⟩ := @smgrSetState_answer env new s
  · rw [hsame] at h
    exact .inl h
  · rw [hcall] at h ⊢
    rw [mem_requestHandlers hrow]
    exact TransFunc.reported ((congrFun (logged_finishTransition env _) k).symm.trans h)

theorem smgrSetState_none (hsteady : Steady env) (h : (smgrSetState env new s).2 = none) :
    (smgrSetState env new s).1.currentState = new ∨ new = .nochange ∧ (smgrSetState env new s).1 = s ∨
      ∃ k ∈ requestHandlers s new, s.logged k := by
  obtain ⟨hsame, ⟨hsome, -⟩ | ⟨-, hnew⟩⟩ | ⟨row, hrow, hcall⟩ := @smgrSetState_answer env new s
  · exact absurd h hsome
  · exact .inr (.inl ⟨hnew, hsame⟩)
  · obtain ⟨hsource, rfl⟩ := findTrans_some hrow
    rw [hcall] at h ⊢
    rw [currentState_finishTransition]
    obtain hstate | ⟨k, hk, hlogged⟩ :=
      (@TransFunc.answers env { s with stateTransitionOccuring := true } _ hsteady hsource).reached h
    · exact .inl hstate
    · exact .inr (.inr ⟨k, (mem_requestHandlers hrow).2 hk, hlogged⟩)

theorem smgrSetState_some (hsteady : Steady env) (h : (smgrSetState env new s).2 ≠ none) :
    (smgrSetState env new s).1.currentState ≠ new ∨ Refused env new s ∧ (smgrSetState env new s).1 = s := by
  obtain ⟨hsame, ⟨-, hrefused⟩ | ⟨hnone, -⟩⟩ | ⟨row, hrow, hcall⟩ := @smgrSetState_answer env new s
  · exact .inr ⟨hrefused, hsame⟩
  · exact absurd hnone h
  · obtain ⟨hsource, rfl⟩ := findTrans_some hrow
    rw [hcall] at h ⊢
    rw [currentState_finishTransition]
    exact .inl ((@TransFunc.answers env { s with stateTransitionOccuring := true } _ hsteady hsource).failed h)

end

/-! ## Every history -/

/-- In the history `rs` from `s` a call has returned an error of a transition that goes through the handler. -/
inductive Reported (k : Handler) : Globals → List Request → Prop
  | here {s : Globals} {r : Request} (rs : List Request) (hmem : k ∈ requestHandlers s r.2)
      (herr : (smgrSetState r.1 r.2 s).2 ≠ none) : Reported k s (r :: rs)
  | later {s : Globals} {r : Request} {rs : List Request} (h : Reported k (smgrSetState r.1 r.2 s).1 rs) :
      Reported k s (r :: rs)

theorem reported_run {s t : Globals} {rs : List Request} {k : Handler} (h : Run (StepOf smgrStep) s rs t)
    (hk : t.logged k) : s.logged k ∨ Reported k s rs := by
  induction h with
  | nil s => exact .inl hk
  | @cons s u t r rs hstep _ ih =>
    cases hstep
    obtain hu | hlater := ih hk
    · obtain hs | ⟨hmem, herr⟩ := smgrSetState_reported hu
      · exact .inl hs
      · exact .inr (.here rs hmem herr)
    · exact .inr (.later hlater)

/-- In every history from boot a call returns no error only when the OCC is in the requested state, no change was
requested, or a handler of the transition has reported a failure before; with an error the OCC is not in the requested
state, or the call was refused and did nothing. -/
theorem setState_outcome {s : Globals} {rs : List Request} (h : Run (StepOf smgrStep) .boot rs s) (env : Env)
    (hsteady : Steady env) (new : OccState) :
    ((smgrSetState env new s).2 = none →
        (smgrSetState env new s).1.currentState = new ∨ new = .nochange ∧ (smgrSetState env new s).1 = s ∨
          ∃ k ∈ requestHandlers s new, s.logged k ∧ Reported k .boot rs) ∧
      ((smgrSetState env new s).2 ≠ none →
        (smgrSetState env new s).1.currentState ≠ new ∨ Refused env new s ∧ (smgrSetState env new s).1 = s) := by
  constructor
  · rintro hnone
    obtain hstate | hsame | ⟨k, hk, hlogged⟩ := smgrSetState_none hsteady hnone
    · exact .inl hstate
    · exact .inr (.inl hsame)
    · obtain hboot | hreported := reported_run h hlogged
      · cases k <;> cases hboot
      · exact .inr (.inr ⟨k, hk, hlogged, hreported⟩)
  · exact smgrSetState_some hsteady

/-- An OCC without its configuration data. -/
def unconfiguredEnv : Env := { readyEnv with presentCnfgdata := fun _ => 0 }

theorem setState_outcome_quiet :
    (smgrSetState unconfiguredEnv .observation (smgrSetState unconfiguredEnv .observation .boot).1).1.currentState ≠
        .observation ∧
      ∃ k ∈ requestHandlers (smgrSetState unconfiguredEnv .observation .boot).1 .observation,
        (smgrSetState unconfiguredEnv .observation .boot).1.logged k ∧
          Reported k .boot [(unconfiguredEnv, .observation)] := by
  have hquiet := (setState_outcome (.single (e := (unconfiguredEnv, .observation)) rfl) unconfiguredEnv (by decide)
    .observation).1 (by decide)
  refine ⟨by decide, ?_⟩
  obtain hstate | ⟨hnew, -⟩ | hk := hquiet
  · exact absurd hstate (by decide)
  · exact absurd hnew (by decide)
  · exact hk

/-- A second request for observation without the configuration data returns no error, and the OCC stays in standby. -/
theorem second_failure_unreported :
    (smgrSetState unconfiguredEnv .observation (smgrSetState unconfiguredEnv .observation .boot).1).2 = none ∧
      (smgrSetState unconfiguredEnv .observation (smgrSetState unconfiguredEnv .observation .boot).1).1.currentState =
        .standby := by
  decide

end Occ.Smgr
