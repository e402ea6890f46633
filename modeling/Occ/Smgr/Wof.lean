/-
Failed transitions and the WOF_RC_STATE_CHANGE disable bit. A call that returns an error leaves the
state, the run mask and the bit as they were, up to the transitions in and out of ACTIVE: those
write the bit before the steps that can fail, the transition from STANDBY goes through OBSERVATION,
and pstates that come up after the wait for them has timed out still complete the transition. Over
runs in which no transition in or out of ACTIVE is left unfinished, the bit is on exactly while the
OCC is not ACTIVE, once it is.
-/
import Occ.Smgr.RunMask

namespace Occ.Smgr

open Occ Occ.Transition

/-! ## Failed calls -/

/-- The ready check of the transition to ACTIVE is passed; from STANDBY it is the second check. -/
def StartsActive (env : Env) : OccState → Prop
  | .standby => env.activeReady 1 = true
  | .observation | .characterization => env.activeReady 0 = true
  | _ => False

/-- The request takes the OCC out of ACTIVE, but not to STANDBY or SAFE. -/
def LeavesActive (st new : OccState) : Prop :=
  st = .active ∧ (new = .observation ∨ new = .characterization)

/-- What a call with an error leaves as it was, from the view before it to the one after it. -/
structure FailedCall (env : Env) (new : OccState) (v w : View) : Prop where
  /-- the state and the run mask, when the call is not a two-step transition and pstates are not late -/
  kept : (new = .active → v.state ≠ .standby ∧ ¬ LateEnable env) → w.state = v.state ∧ w.mask = v.mask
  /-- the first of two steps may have been taken -/
  twoStep : ¬ LateEnable env → (w.state = v.state ∧ w.mask = v.mask) ∨
    (new = .active ∧ v.state = .standby ∧ w.state = .observation ∧
      w.mask = (v.moveTo RtlFlags.standby RtlFlags.obs .observation).mask)
  /-- the WOF disable word, outside the transitions in and out of ACTIVE -/
  wof : ¬ (new = .active ∧ StartsActive env v.state) → ¬ LeavesActive v.state new → w.wof = v.wof

section Failed

variable {env : Env} {new : OccState} {s : Globals} {v w : View}

theorem FailedCall.refl : FailedCall env new v v := ⟨fun _ => ⟨rfl, rfl⟩, fun _ => .inl ⟨rfl, rfl⟩, fun _ _ => rfl⟩

theorem FailedCall.of_wof (h : w = v.clrWof ∨ w = v.setWof)
    (hwof : new = .active ∧ StartsActive env v.state ∨ LeavesActive v.state new) : FailedCall env new v w := by
  have hkept : w.state = v.state ∧ w.mask = v.mask := by rcases h with rfl | rfl <;> exact ⟨rfl, rfl⟩
  exact ⟨fun _ => hkept, fun _ => .inl hkept, fun h₁ h₂ => absurd hwof (not_or.2 ⟨h₁, h₂⟩)⟩

theorem FailedCall.observationToActive
    (hst : s.view.state = .observation ∨ s.view.state = .characterization)
    (herr : (smgrObservationToActive env 0 s).2 ≠ none) :
    FailedCall env .active s.view (smgrObservationToActive env 0 s).1.view := by
  have hstart : env.activeReady 0 = true → StartsActive env s.view.state := by
    intro hready
    rcases hst with h | h <;> rw [h] <;> exact hready
  rcases observationToActive_cases env s 0 with ⟨-, hv⟩ | ⟨hready, ⟨-, hlate⟩ | hv⟩
  · rw [hv]; exact .refl
  · have hl := hlate.resolve_left herr
    exact ⟨fun h => absurd hl (h rfl).2, fun h => absurd hl h, fun h => absurd ⟨rfl, hstart hready⟩ h⟩
  · exact .of_wof (.inl hv) (.inl ⟨rfl, hstart hready⟩)

theorem FailedCall.standbyToActive (hst : s.view.state = .standby)
    (herr : (smgrStandbyToActive env s).2 ≠ none) :
    FailedCall env .active s.view (smgrStandbyToActive env s).1.view := by
  have hstart : env.activeReady 1 = true → StartsActive env s.view.state := fun h => by rw [hst]; exact h
  unfold smgrStandbyToActive at herr ⊢
  simp only at herr ⊢
  -- the state and the mask after the first step, and the WOF word, which it does not touch
  have hfirst : (smgrStandbyToObservation env s).1.view = s.view ∨
      (smgrStandbyToObservation env s).1.view = s.view.moveTo RtlFlags.standby RtlFlags.obs .observation :=
    (standbyToObservation_cases env s).elim (fun h => .inr h.2.2) fun h => .inl h.2
  have htwo : ∀ w : View, w.state = (smgrStandbyToObservation env s).1.view.state →
      w.mask = (smgrStandbyToObservation env s).1.view.mask →
      (w.state = s.view.state ∧ w.mask = s.view.mask) ∨
        (OccState.active = .active ∧ s.view.state = .standby ∧ w.state = .observation ∧
          w.mask = (s.view.moveTo RtlFlags.standby RtlFlags.obs .observation).mask) := by
    intro w hs hm
    rcases hfirst with hv | hv <;> rw [hv] at hs hm
    · exact .inl ⟨hs, hm⟩
    · exact .inr ⟨rfl, hst, hs, hm⟩
  have hwof : (smgrStandbyToObservation env s).1.view.wof = s.view.wof := by
    rcases hfirst with hv | hv <;> rw [hv]; rfl
  have hnot : (OccState.active = .active → s.view.state ≠ .standby ∧ ¬ LateEnable env) → False :=
    fun h => (h rfl).1 hst
  split at herr
  · rcases observationToActive_cases env (smgrStandbyToObservation env s).1 1 with
      ⟨-, hv⟩ | ⟨hready, ⟨-, hlate⟩ | hv⟩
    · rw [hv]
      exact ⟨fun h => (hnot h).elim, fun _ => htwo _ rfl rfl, fun _ _ => hwof⟩
    · have hl := hlate.resolve_left herr
      exact ⟨fun h => (hnot h).elim, fun h => absurd hl h, fun h => absurd ⟨rfl, hstart hready⟩ h⟩
    · rw [hv]
      exact ⟨fun h => (hnot h).elim, fun _ => htwo _ rfl rfl, fun h => absurd ⟨rfl, hstart hready⟩ h⟩
  · exact ⟨fun h => (hnot h).elim, fun _ => htwo _ rfl rfl, fun _ _ => hwof⟩

/-- Every transition function that returns an error. -/
theorem FailedCall.transFunc {f : TransFunc} (hsrc : f.source = some s.view.state ∨ f.source = none)
    (herr : (f.run env s).2 ≠ none) : FailedCall env f.target s.view (f.run env s).1.view := by
  have hstate := TransFunc.state_eq hsrc
  -- a function that fails without having moved anything
  have hkept : ∀ {w : View}, (f.run env s).2 = none ∧ (f.run env s).1.view = w ∨
      (f.run env s).1.view = s.view → FailedCall env f.target s.view (f.run env s).1.view := by
    rintro w (⟨hn, -⟩ | hv)
    · exact absurd hn herr
    · rw [hv]; exact .refl
  cases f with
  | standbyToObservation =>
    exact hkept ((standbyToObservation_cases env s).imp And.right And.right)
  | standbyToCharacterization => exact hkept (standbyToCharacterization_cases env s)
  | standbyToActive => exact .standbyToActive (hstate _ rfl) herr
  | observationToCharacterization => exact hkept (observationToCharacterization_cases env s)
  | observationToActive => exact .observationToActive (.inl (hstate _ rfl)) herr
  | characterizationToObservation => exact hkept (characterizationToObservation_cases env s)
  | characterizationToActive => exact .observationToActive (.inr (hstate _ rfl)) herr
  | activeToObservation =>
    exact .of_wof (.inr ((activeToObservation_cases env s).resolve_left fun h => herr h.1))
      (.inr ⟨hstate _ rfl, .inl rfl⟩)
  | activeToCharacterization =>
    exact .of_wof (.inr ((activeToCharacterization_cases env s).resolve_left fun h => herr h.1))
      (.inr ⟨hstate _ rfl, .inr rfl⟩)
  | allToStandby => exact absurd rfl herr
  | allToSafe => exact absurd rfl herr

theorem FailedCall.smgrSetState (herr : (smgrSetState env new s).2 ≠ none) :
    FailedCall env new s.view (smgrSetState env new s).1.view := by
  rcases smgrSetState_cases env new s with hv | ⟨row, s', -, hrow, hview, hv, he⟩
  · rw [hv]; exact .refl
  · obtain ⟨hsrc, rfl⟩ := findTrans_some hrow
    rw [he] at herr
    rw [hv, ← hview]
    exact .transFunc (by rw [hview]; exact hsrc) herr

end Failed

/-! ## The WOF bit over runs -/

/-- The state change bit disables WOF exactly while the OCC is not ACTIVE. -/
def WofAgrees (v : View) : Prop := Mask.Has v.wof wofRcStateChange ↔ v.state ≠ .active

/-- A call that takes the OCC past the ready check of ACTIVE, or out of ACTIVE, gets where it was
sent. -/
structure Completes (s : Globals) (r : Request) : Prop where
  enters : r.1.pendRc = 0 → r.2 = .active → StartsActive r.1 s.currentState →
    (smgrSetState r.1 r.2 s).1.currentState = .active
  leaves : r.1.pendRc = 0 → LeavesActive s.currentState r.2 → (smgrSetState r.1 r.2 s).1.currentState = r.2

section Runs

variable {env : Env} {s : Globals} {v w : View}

theorem WofAgrees.of_set (hw : w.wof = v.setWof.wof) (hst : w.state ≠ .active) : WofAgrees w :=
  ⟨fun _ => hst, fun _ => by rw [hw]; exact Mask.has_set _ _⟩

theorem WofAgrees.of_clr (hw : w.wof = v.clrWof.wof) (hst : w.state = .active) : WofAgrees w :=
  ⟨fun h => absurd (hw ▸ h) (Mask.not_has_clr (by decide)), fun h => absurd hst h⟩

theorem WofAgrees.of_eq (h : WofAgrees v) (hw : w.wof = v.wof) (hv : v.state ≠ .active) (hst : w.state ≠ .active) :
    WofAgrees w :=
  ⟨fun _ => hst, fun _ => by rw [hw]; exact h.2 hv⟩

theorem WofAgrees.observationToActive {r : Nat} (h : WofAgrees s.view) (hne : s.view.state ≠ .active)
    (hfin : env.activeReady r = true → (smgrObservationToActive env r s).1.view.state = .active) :
    WofAgrees (smgrObservationToActive env r s).1.view := by
  rcases observationToActive_cases env s r with ⟨-, hv⟩ | ⟨hready, ⟨hv, -⟩ | hv⟩
  · rwa [hv]
  · rw [hv]; exact .of_clr rfl rfl
  · have hact := hfin hready
    rw [hv] at hact
    exact absurd hact hne

theorem WofAgrees.standbyToActive (h : WofAgrees s.view) (hst : s.view.state = .standby)
    (hfin : env.activeReady 1 = true → (smgrStandbyToActive env s).1.view.state = .active) :
    WofAgrees (smgrStandbyToActive env s).1.view := by
  have hne : s.view.state ≠ .active := by rw [hst]; decide
  have hobs : (smgrStandbyToObservation env s).1.view.state ≠ .active ∧
      WofAgrees (smgrStandbyToObservation env s).1.view := by
    rcases standbyToObservation_cases env s with ⟨-, -, hv⟩ | ⟨-, hv⟩ <;> rw [hv]
    · exact ⟨nofun, h.of_eq rfl hne nofun⟩
    · exact ⟨hne, h⟩
  unfold smgrStandbyToActive at hfin ⊢
  simp only at hfin ⊢
  split
  · rename_i hnone
    rw [hnone] at hfin
    exact hobs.2.observationToActive hobs.1 hfin
  · exact hobs.2

/-- A transition function that finishes what it starts keeps the agreement. -/
theorem WofAgrees.transFunc {f : TransFunc} (h : WofAgrees s.view)
    (hsrc : f.source = some s.view.state ∨ f.source = none)
    (henter : f.target = .active → StartsActive env s.view.state → (f.run env s).1.view.state = .active)
    (hleave : LeavesActive s.view.state f.target → (f.run env s).1.view.state = f.target) :
    WofAgrees (f.run env s).1.view := by
  have hstate := TransFunc.state_eq hsrc
  -- the functions between states other than ACTIVE
  have hother : ∀ {st : OccState} {w : View}, ((f.run env s).2 = none ∧ (f.run env s).1.view = w ∨
        (f.run env s).1.view = s.view) → f.source = some st → st ≠ .active → w.wof = s.view.wof →
      w.state ≠ .active → WofAgrees (f.run env s).1.view := by
    rintro st w (⟨-, hv⟩ | hv) hf hst hw hne <;> rw [hv]
    · exact h.of_eq hw (by rw [hstate st hf]; exact hst) hne
    · exact h
  cases f with
  | standbyToObservation =>
    exact hother ((standbyToObservation_cases env s).imp And.right And.right) rfl nofun rfl nofun
  | standbyToCharacterization => exact hother (standbyToCharacterization_cases env s) rfl nofun rfl nofun
  | standbyToActive =>
    exact h.standbyToActive (hstate _ rfl) fun hr => henter rfl (by rw [hstate _ rfl]; exact hr)
  | observationToCharacterization => exact hother (observationToCharacterization_cases env s) rfl nofun rfl nofun
  | observationToActive =>
    exact h.observationToActive (by rw [hstate _ rfl]; decide) fun hr =>
      henter rfl (by rw [hstate _ rfl]; exact hr)
  | characterizationToObservation => exact hother (characterizationToObservation_cases env s) rfl nofun rfl nofun
  | characterizationToActive =>
    exact h.observationToActive (by rw [hstate _ rfl]; decide) fun hr =>
      henter rfl (by rw [hstate _ rfl]; exact hr)
  | activeToObservation =>
    have hend := hleave ⟨hstate _ rfl, .inl rfl⟩
    refine .of_set (v := s.view) ?_ (by rw [hend]; decide)
    show (smgrActiveToObservation env s).1.view.wof = _
    obtain ⟨-, hv⟩ | hv := activeToObservation_cases env s
    · rw [hv]
      rfl
    · rw [hv]
  | activeToCharacterization =>
    have hend := hleave ⟨hstate _ rfl, .inr rfl⟩
    refine .of_set (v := s.view) ?_ (by rw [hend]; decide)
    show (smgrActiveToCharacterization env s).1.view.wof = _
    obtain ⟨-, hv⟩ | hv := activeToCharacterization_cases env s
    · rw [hv]
      rfl
    · rw [hv]
  | allToStandby => exact .of_set (v := s.view) rfl nofun
  | allToSafe =>
    show WofAgrees (smgrAllToSafe env s).1.view
    rw [view_smgrAllToSafe]
    exact .of_set (v := s.view) rfl nofun

theorem WofAgrees.smgrSetState {new : OccState} (h : WofAgrees s.view) (hc : Completes s (env, new)) :
    WofAgrees (smgrSetState env new s).1.view := by
  have henter : env.pendRc = 0 → new = .active → StartsActive env s.view.state →
      (Smgr.smgrSetState env new s).1.view.state = .active := hc.enters
  have hleave : env.pendRc = 0 → LeavesActive s.view.state new →
      (Smgr.smgrSetState env new s).1.view.state = new := hc.leaves
  rcases smgrSetState_cases env new s with hv | ⟨row, s', hpend, hrow, hview, hv, -⟩
  · rwa [hv]
  · obtain ⟨hsrc, rfl⟩ := findTrans_some hrow
    rw [hv, ← hview] at henter hleave
    rw [hv]
    exact .transFunc (hview ▸ h) (by rw [hview]; exact hsrc) (henter hpend) (hleave hpend)

theorem WofAgrees.run {t : Globals} {rs : List Request} (hs : WofAgrees s.view)
    (h : Run (Guarded Completes (StepOf smgrStep)) s rs t) : WofAgrees t.view := by
  refine h.invariant (P := fun s => WofAgrees s.view) ?_ hs
  rintro s r t hs ⟨hc, hnext⟩
  cases hnext
  exact hs.smgrSetState hc

end Runs

/-- A call that returns an error leaves the state, the run mask and the WOF disable word as they
were, up to the transitions in and out of ACTIVE; and over runs that finish these, the state change
bit stays on exactly while the OCC is not ACTIVE. -/
theorem failed_call_kept_and_wof_run :
    (∀ (env : Env) (new : OccState) (s : Globals), (smgrSetState env new s).2 ≠ none →
        FailedCall env new s.view (smgrSetState env new s).1.view) ∧
      ∀ (s t : Globals) (rs : List Request), WofAgrees s.view →
        Run (Guarded Completes (StepOf smgrStep)) s rs t → WofAgrees t.view :=
  ⟨fun _ _ _ herr => .smgrSetState herr, fun _ _ _ hs h => hs.run h⟩

/-- An OCC with cores whose PGPE refuses to set a clip. -/
def clipFailsEnv : Env := { readyEnv with presentCores := 0xFFFFFF00, clipRc := 1 }

theorem failed_call_kept_and_wof_run_active :
    FailedCall clipFailsEnv .observation (smgrSetState readyEnv .active .boot).1.view
        (smgrSetState clipFailsEnv .observation (smgrSetState readyEnv .active .boot).1).1.view ∧
      WofAgrees (smgrSetState readyEnv .observation (smgrSetState readyEnv .active .boot).1).1.view :=
  ⟨failed_call_kept_and_wof_run.1 clipFailsEnv .observation _ (by decide),
    failed_call_kept_and_wof_run.2 (smgrSetState readyEnv .active .boot).1 _ [(readyEnv, .observation)]
      (by unfold WofAgrees; decide)
      (.cons ⟨⟨fun _ h => absurd h (by decide), fun _ _ => by decide⟩, rfl⟩ (.nil _))⟩

/-- From boot the bit is off in STANDBY, and a failed transition out of ACTIVE leaves it on there. -/
theorem wof_bit_changed_by_failed_call :
    ¬ WofAgrees Globals.boot.view ∧
      (smgrSetState clipFailsEnv .observation (smgrSetState readyEnv .active .boot).1).2 ≠ none ∧
      (smgrSetState clipFailsEnv .observation (smgrSetState readyEnv .active .boot).1).1.currentState = .active ∧
      ¬ Mask.Has (smgrSetState readyEnv .active .boot).1.wofDisabled wofRcStateChange ∧
      Mask.Has (smgrSetState clipFailsEnv .observation (smgrSetState readyEnv .active .boot).1).1.wofDisabled
        wofRcStateChange := by
  refine ⟨by unfold WofAgrees; decide, by decide, by decide, by decide, by decide⟩

end Occ.Smgr
