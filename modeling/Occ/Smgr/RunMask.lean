/-
The run mask agrees with the state after every call of `SMGR_set_state`, for every sequence of
requests and every outcome of the transition functions: exactly one of the STANDBY, OBS and ACTIVE
flags is on and it names the state, and none of them in SAFE, where RST_REQ is on. RST_REQ is never
cleared, and only a request for STANDBY leaves SAFE.

A transition from STANDBY to ACTIVE checks the readiness twice. The results are about calls in which
the OCC is not found active ready by the second check after the first found it not even ready for
observation.
-/
import Occ.Smgr.Handlers
import Occ.Lib.Transition

namespace Occ.Smgr

open Occ Occ.Transition

/-! ## Agreement of the flags -/

/-- The operating flags of a state; none for the values that are not states of the OCC. -/
def stateFlags : OccState → Option RtlFlags
  | .standby => some RtlFlags.standby
  | .observation => some RtlFlags.obs
  | .characterization => some RtlFlags.obs
  | .active => some RtlFlags.active
  | .safe => some 0
  | _ => none

/-- The run mask agrees with the state. -/
structure FlagsAgree (v : View) : Prop where
  flags : stateFlags v.state = some (v.mask &&& RtlFlags.states)
  rstReq : v.state = .safe → Mask.Has v.mask RtlFlags.rstReq

theorem FlagsAgree.boot : FlagsAgree Globals.boot.view := ⟨by decide, nofun⟩

section Moves

variable {v : View} {old new f : RtlFlags} {st : OccState}

theorem View.moveTo_states (v : View) (old new : RtlFlags) (st : OccState) :
    (v.moveTo old new st).mask &&& RtlFlags.states =
      Mask.set (Mask.clr (v.mask &&& RtlFlags.states) (Mask.clr old RtlFlags.run)) (new &&& RtlFlags.states) := by
  unfold View.moveTo
  rw [Mask.set_and, Mask.clr_and]

theorem FlagsAgree.of_moveTo (hf : v.mask &&& RtlFlags.states = f)
    (hst : stateFlags st = some (Mask.set (Mask.clr f (Mask.clr old RtlFlags.run)) (new &&& RtlFlags.states)))
    (hsafe : st = .safe → Mask.Has (v.moveTo old new st).mask RtlFlags.rstReq) :
    FlagsAgree (v.moveTo old new st) where
  flags := by rw [View.moveTo_states, hf]; exact hst
  rstReq := hsafe

theorem FlagsAgree.setWof (h : FlagsAgree v) : FlagsAgree v.setWof := ⟨h.flags, h.rstReq⟩

theorem FlagsAgree.clrWof (h : FlagsAgree v) : FlagsAgree v.clrWof := ⟨h.flags, h.rstReq⟩

theorem FlagsAgree.mask_eq (h : FlagsAgree v) (hst : stateFlags v.state = some f) :
    v.mask &&& RtlFlags.states = f :=
  (Option.some.inj (hst.symm.trans h.flags)).symm

theorem has_rstReq_moveTo (h : Mask.Has v.mask RtlFlags.rstReq)
    (hold : RtlFlags.rstReq &&& Mask.clr old RtlFlags.run = 0) :
    Mask.Has (v.moveTo old new st).mask RtlFlags.rstReq :=
  (h.clr hold).set new

theorem FlagsAgree.mask_cases (h : FlagsAgree v) :
    v.mask &&& RtlFlags.states = RtlFlags.standby ∨ v.mask &&& RtlFlags.states = RtlFlags.obs ∨
      v.mask &&& RtlFlags.states = RtlFlags.active ∨ v.mask &&& RtlFlags.states = 0 := by
  have hf := h.flags
  cases hst : v.state <;> rw [hst] at hf <;> simp only [stateFlags, Option.some.injEq, reduceCtorEq] at hf
  · exact .inl hf.symm
  · exact .inr (.inl hf.symm)
  · exact .inr (.inr (.inl hf.symm))
  · exact .inr (.inr (.inr hf.symm))
  · exact .inr (.inl hf.symm)

end Moves

/-! ## Each transition function -/

/-- The OCC is not found active ready after it was found not ready for observation. -/
def NoLateReady (env : Env) : Prop := env.activeReady 1 = true → env.observationReady 0 = true

section Functions

variable {env : Env} {s : Globals}

theorem FlagsAgree.standbyToObservation (h : FlagsAgree s.view) (hst : s.currentState = .standby) :
    FlagsAgree (smgrStandbyToObservation env s).1.view := by
  rcases standbyToObservation_cases env s with ⟨-, -, hv⟩ | ⟨-, hv⟩
  · rw [hv]
    exact .of_moveTo (h.mask_eq (f := RtlFlags.standby) (by rw [show s.view.state = _ from hst]; rfl))
      (by decide) nofun
  · rwa [hv]

theorem FlagsAgree.observationToActive (h : FlagsAgree s.view) (r : Nat)
    (hst : stateFlags s.currentState = some RtlFlags.obs) :
    FlagsAgree (smgrObservationToActive env r s).1.view := by
  rcases observationToActive_cases env s r with ⟨-, hv⟩ | ⟨-, ⟨hv, -⟩ | hv⟩
  · rwa [hv]
  · rw [hv]
    exact .of_moveTo (h.clrWof.mask_eq (f := RtlFlags.obs) hst) (by decide) nofun
  · rw [hv]; exact h.clrWof

theorem FlagsAgree.standbyToActive (h : FlagsAgree s.view) (hst : s.currentState = .standby)
    (hlate : NoLateReady env) : FlagsAgree (smgrStandbyToActive env s).1.view := by
  have hobs : FlagsAgree (smgrStandbyToObservation env s).1.view := h.standbyToObservation hst
  unfold smgrStandbyToActive
  simp only
  split
  · rcases standbyToObservation_cases env s with ⟨-, -, hv⟩ | ⟨hready, hv⟩
    · refine hobs.observationToActive 1 ?_
      rw [show (smgrStandbyToObservation env s).1.currentState = .observation from congrArg View.state hv]
      rfl
    · rcases observationToActive_cases env (smgrStandbyToObservation env s).1 1 with ⟨-, hv'⟩ | ⟨hact, -⟩
      · rw [hv']; exact hobs
      · exact absurd (hlate hact) (by simp [hready])
  · exact hobs

theorem FlagsAgree.activeTo {st : OccState} {t : View} (h : FlagsAgree s.view) (hst : s.currentState = .active)
    (hobs : stateFlags st = some RtlFlags.obs)
    (ht : t = s.view.setWof.moveTo RtlFlags.active RtlFlags.obs st ∨ t = s.view.setWof) : FlagsAgree t := by
  rcases ht with rfl | rfl
  · refine .of_moveTo (h.setWof.mask_eq (f := RtlFlags.active) ?_) (by rw [hobs]; decide) ?_
    · rw [show s.view.setWof.state = _ from hst]; rfl
    · rintro rfl; exact absurd hobs (by decide)
  · exact h.setWof

theorem FlagsAgree.allToStandby (h : FlagsAgree s.view) : FlagsAgree (smgrAllToStandby s).1.view := by
  rw [view_smgrAllToStandby]
  rcases h.setWof.mask_cases with hf | hf | hf | hf <;> exact .of_moveTo hf (by decide) nofun

theorem FlagsAgree.allToSafe (h : FlagsAgree s.view) : FlagsAgree (smgrAllToSafe env s).1.view := by
  rw [view_smgrAllToSafe]
  rcases h.setWof.mask_cases with hf | hf | hf | hf <;>
    exact .of_moveTo hf (by decide) fun _ => Mask.has_set _ _

/-- A transition function that starts from the current state, or from any, keeps the agreement. -/
theorem FlagsAgree.transFunc (h : FlagsAgree s.view) {f : TransFunc}
    (hst : f.source = some s.currentState ∨ f.source = none) (hlate : NoLateReady env) :
    FlagsAgree (f.run env s).1.view := by
  have hsrc := TransFunc.state_eq hst
  cases f with
  | standbyToObservation => exact h.standbyToObservation (hsrc _ rfl)
  | standbyToCharacterization =>
    rcases standbyToCharacterization_cases env s with ⟨-, hv⟩ | hv
    · show FlagsAgree (smgrStandbyToCharacterization env s).1.view
      rw [hv]
      refine .of_moveTo (h.mask_eq (f := RtlFlags.standby) ?_) (by decide) nofun
      rw [show s.view.state = _ from hsrc _ rfl]; rfl
    · exact hv ▸ h
  | standbyToActive => exact h.standbyToActive (hsrc _ rfl) hlate
  | observationToCharacterization =>
    rcases observationToCharacterization_cases env s with ⟨-, hv⟩ | hv
    · show FlagsAgree (smgrObservationToCharacterization env s).1.view
      rw [hv]
      refine ⟨?_, nofun⟩
      rw [← h.flags, show s.view.state = _ from hsrc _ rfl]; rfl
    · exact hv ▸ h
  | observationToActive => exact h.observationToActive 0 (by rw [hsrc _ rfl]; rfl)
  | characterizationToObservation =>
    rcases characterizationToObservation_cases env s with ⟨-, hv⟩ | hv
    · show FlagsAgree (smgrCharacterizationToObservation env s).1.view
      rw [hv]
      refine ⟨?_, nofun⟩
      rw [← h.flags, show s.view.state = _ from hsrc _ rfl]; rfl
    · exact hv ▸ h
  | characterizationToActive => exact h.observationToActive 0 (by rw [hsrc _ rfl]; rfl)
  | activeToObservation =>
    exact h.activeTo (hsrc _ rfl) rfl ((activeToObservation_cases env s).imp_left And.right)
  | activeToCharacterization =>
    exact h.activeTo (hsrc _ rfl) rfl ((activeToCharacterization_cases env s).imp_left And.right)
  | allToStandby => exact h.allToStandby
  | allToSafe => exact h.allToSafe

theorem has_rstReq_observationToActive (h : Mask.Has s.view.mask RtlFlags.rstReq) (r : Nat) :
    Mask.Has (smgrObservationToActive env r s).1.view.mask RtlFlags.rstReq := by
  rcases observationToActive_cases env s r with ⟨-, hv⟩ | ⟨-, ⟨hv, -⟩ | hv⟩ <;> rw [hv]
  · exact h
  · exact has_rstReq_moveTo h (by decide)
  · exact h

theorem has_rstReq_standbyToObservation (h : Mask.Has s.view.mask RtlFlags.rstReq) :
    Mask.Has (smgrStandbyToObservation env s).1.view.mask RtlFlags.rstReq := by
  rcases standbyToObservation_cases env s with ⟨-, -, hv⟩ | ⟨-, hv⟩ <;> rw [hv]
  · exact has_rstReq_moveTo h (by decide)
  · exact h

/-- No transition function clears RST_REQ. -/
theorem has_rstReq_transFunc (h : Mask.Has s.view.mask RtlFlags.rstReq) (f : TransFunc) :
    Mask.Has (f.run env s).1.view.mask RtlFlags.rstReq := by
  cases f with
  | standbyToObservation => exact has_rstReq_standbyToObservation h
  | standbyToCharacterization =>
    rcases standbyToCharacterization_cases env s with ⟨-, hv⟩ | hv
    · show Mask.Has (smgrStandbyToCharacterization env s).1.view.mask _
      rw [hv]; exact has_rstReq_moveTo h (by decide)
    · exact hv ▸ h
  | standbyToActive =>
    show Mask.Has (smgrStandbyToActive env s).1.view.mask _
    unfold smgrStandbyToActive
    simp only
    split
    · exact has_rstReq_observationToActive (has_rstReq_standbyToObservation h) 1
    · exact has_rstReq_standbyToObservation h
  | observationToCharacterization =>
    rcases observationToCharacterization_cases env s with ⟨-, hv⟩ | hv <;>
      exact (congrArg View.mask hv).symm ▸ h
  | observationToActive => exact has_rstReq_observationToActive h 0
  | characterizationToObservation =>
    rcases characterizationToObservation_cases env s with ⟨-, hv⟩ | hv <;>
      exact (congrArg View.mask hv).symm ▸ h
  | characterizationToActive => exact has_rstReq_observationToActive h 0
  | activeToObservation =>
    rcases activeToObservation_cases env s with ⟨-, hv⟩ | hv
    · show Mask.Has (smgrActiveToObservation env s).1.view.mask _
      rw [hv]; exact has_rstReq_moveTo h (by decide)
    · exact (congrArg View.mask hv).symm ▸ h
  | activeToCharacterization =>
    rcases activeToCharacterization_cases env s with ⟨-, hv⟩ | hv
    · show Mask.Has (smgrActiveToCharacterization env s).1.view.mask _
      rw [hv]; exact has_rstReq_moveTo h (by decide)
    · exact (congrArg View.mask hv).symm ▸ h
  | allToStandby => exact has_rstReq_moveTo (v := s.view.setWof) h (by decide)
  | allToSafe =>
    show Mask.Has (smgrAllToSafe env s).1.view.mask _
    rw [view_smgrAllToSafe]; exact has_rstReq_moveTo (v := s.view.setWof) h (by decide)

end Functions

/-! ## Calls and runs -/

/-- One request: the environment it runs in and the state it asks for. -/
abbrev Request := Env × OccState

/-- The state manager's globals after one request. -/
def smgrStep (s : Globals) (r : Request) : Option Globals := some (smgrSetState r.1 r.2 s).1

theorem FlagsAgree.smgrSetState {env : Env} {new : OccState} {s : Globals} (h : FlagsAgree s.view)
    (hlate : NoLateReady env) : FlagsAgree (smgrSetState env new s).1.view := by
  rcases smgrSetState_cases env new s with hv | ⟨row, s', -, hrow, hview, hv, -⟩
  · rwa [hv]
  · rw [hv]
    refine FlagsAgree.transFunc (hview ▸ h) ?_ hlate
    rw [show s'.currentState = s.currentState from congrArg View.state hview]
    exact (findTrans_some hrow).1

theorem has_rstReq_smgrSetState {env : Env} {new : OccState} {s : Globals}
    (h : Mask.Has s.view.mask RtlFlags.rstReq) :
    Mask.Has (smgrSetState env new s).1.view.mask RtlFlags.rstReq := by
  rcases smgrSetState_cases env new s with hv | ⟨row, s', -, -, hview, hv, -⟩ <;> rw [hv]
  · exact h
  · exact has_rstReq_transFunc (hview ▸ h) row.transFunc

theorem safe_of_smgrSetState {env : Env} {new : OccState} {s : Globals} (h : s.currentState = .safe)
    (hnew : new ≠ .standby) : (smgrSetState env new s).1.currentState = .safe := by
  show (smgrSetState env new s).1.view.state = .safe
  rcases smgrSetState_cases env new s with hv | ⟨row, s', -, hrow, -, hv, -⟩ <;> rw [hv]
  · exact h
  · obtain ⟨hsrc, htgt⟩ := findTrans_some hrow
    rw [h] at hsrc
    cases hf : row.transFunc <;> rw [hf] at hsrc htgt <;>
      simp only [TransFunc.source, reduceCtorEq, Option.some.injEq, or_self, or_true] at hsrc
    · exact absurd htgt.symm hnew
    · rfl

/-- What holds after every run of requests: the flags name the state, RST_REQ stays on once it is,
and SAFE is left by a request for STANDBY only. -/
theorem run_flagsAgree {s t : Globals} {rs : List Request} (hs : FlagsAgree s.view)
    (h : Run (Guarded (fun _ r => NoLateReady r.1) (StepOf smgrStep)) s rs t) :
    FlagsAgree t.view ∧ (Mask.Has s.runMaskDeferred RtlFlags.rstReq → Mask.Has t.runMaskDeferred RtlFlags.rstReq) ∧
      (s.currentState = .safe → (∀ r ∈ rs, r.2 ≠ .standby) → t.currentState = .safe) := by
  induction h with
  | nil s => exact ⟨hs, id, fun h _ => h⟩
  | @cons s u t r rs hstep _ ih =>
    obtain ⟨hlate, hnext⟩ := hstep
    cases hnext
    obtain ⟨hagree, hrst, hsafe⟩ := ih (hs.smgrSetState hlate)
    refine ⟨hagree, fun hm => hrst (has_rstReq_smgrSetState hm), fun hst hr => ?_⟩
    exact hsafe (safe_of_smgrSetState hst (hr r (by simp))) fun q hq => hr q (by simp [hq])

/-- An OCC with all its configuration data and no cores, whose PGPE answers every request. -/
def readyEnv : Env where
  pendRc := 0
  presentCnfgdata := fun _ => 0xFFFFFFFF
  presentCores := 0
  kvm := false
  occMaster := false
  turboFreq := 3000
  nominalFreq := 2500
  procFmaxMhz := 3500
  pmcrOwner := .occ
  clipRc := 0
  nominalRc := 0
  startSuspendRc := 0
  pstateStatus := fun _ => .enabled
  pollsBeforeTimeout := 10
  micsPerTick := 500
  occflg := 0

theorem run_flagsAgree_boot :
    FlagsAgree Globals.boot.view ∧
      FlagsAgree (smgrSetState readyEnv .safe (smgrSetState readyEnv .active .boot).1).1.view :=
  ⟨.boot, (run_flagsAgree .boot
    (.cons (e := (readyEnv, .active)) ⟨by unfold NoLateReady; decide, rfl⟩
      (.cons (e := (readyEnv, .safe)) ⟨by unfold NoLateReady; decide, rfl⟩ (.nil _)))).1⟩

/-- A request for STANDBY takes the OCC out of SAFE through the row for any state, with RST_REQ on. -/
theorem safe_left_by_standby_request :
    (smgrSetState readyEnv .safe .boot).1.currentState = .safe ∧
      (smgrSetState readyEnv .standby (smgrSetState readyEnv .safe .boot).1).1.currentState = .standby ∧
      (smgrSetState readyEnv .standby (smgrSetState readyEnv .safe .boot).1).1.runMaskDeferred &&&
        (RtlFlags.states ||| RtlFlags.rstReq) = RtlFlags.standby ||| RtlFlags.rstReq := by
  decide

end Occ.Smgr
