/-
What each transition handler can do to the state, the run mask and the WOF disable word, one lemma
a handler, and from them what one call of `SMGR_set_state` can do. Every later result about the
state manager is derived from these, not from the handlers' bodies.
-/
import Occ.Smgr.State

namespace Occ.Smgr

open Occ

/-! ## The view of a state -/

/-- The part of the state the transitions are about. -/
@[ext] structure View where
  state : OccState
  mask : RtlFlags
  wof : BitVec 32

namespace View

variable (v : View)

/-- Leave the operating state named by `old` for `state`, whose flag is `new`. -/
def moveTo (old new : RtlFlags) (state : OccState) : View :=
  { v with state := state, mask := Mask.set (Mask.clr v.mask (Mask.clr old RtlFlags.run)) new }

def setWof : View := { v with wof := Mask.set v.wof wofRcStateChange }

def clrWof : View := { v with wof := Mask.clr v.wof wofRcStateChange }

end View

/-- The state, the run mask and the WOF disable word. -/
def Globals.view (s : Globals) : View := ⟨s.currentState, s.runMaskDeferred, s.wofDisabled⟩

section Simp

variable (s : Globals)

@[simp] theorem view_moveTo (old new : RtlFlags) (st : OccState) :
    (s.moveTo old new st).view = s.view.moveTo old new st := rfl

@[simp] theorem view_setWofDisabled : (s.setWofDisabled wofRcStateChange).view = s.view.setWof := rfl

@[simp] theorem view_clearWofDisabled : (s.clearWofDisabled wofRcStateChange).view = s.view.clrWof := rfl

@[simp] theorem view_setCurrentState (st : OccState) :
    (s.setCurrentState st).view = { s.view with state := st } := rfl

@[simp] theorem view_call (c : PgpeCall) : (s.call c).view = s.view := rfl

@[simp] theorem view_enterActive :
    (enterActive s).view = s.view.moveTo RtlFlags.obs RtlFlags.active .active := rfl

@[simp] theorem view_finishTransition (env : Env) : (finishTransition env s).view = s.view := by
  unfold finishTransition Globals.view
  simp only
  split <;> rfl

@[simp] theorem view_resetStbToChrLogged (env : Env) : (resetStbToChrLogged env s).view = s.view := by
  unfold resetStbToChrLogged
  split <;> rfl

@[simp] theorem view_charRc (env : Env) : (charRc env s).1.view = s.view := by
  unfold charRc pgpeStartChar
  simp only
  repeat' split
  all_goals rfl

@[simp] theorem view_pgpeStopChar (env : Env) : (pgpeStopChar env s).1.view = s.view := by
  unfold pgpeStopChar
  simp only
  repeat' split
  all_goals rfl

@[simp] theorem view_pgpeStopActive (env : Env) : (pgpeStopActive env s).1.view = s.view := by
  unfold pgpeStopActive
  simp only
  repeat' split
  all_goals rfl

@[simp] theorem view_pgpeActiveToChar (env : Env) : (pgpeActiveToChar env s).1.view = s.view := by
  unfold pgpeActiveToChar
  simp only
  repeat' split
  all_goals rfl

@[simp] theorem view_startPstates (env : Env) : (startPstates env s).1.view = s.view := by
  unfold startPstates
  simp only
  repeat' split
  all_goals rfl

@[simp] theorem view_logActiveFailure (t : Globals × Option ActiveFailure) :
    (logActiveFailure t).1.view = t.1.view := by
  unfold logActiveFailure
  split
  · rfl
  · split <;> rfl

theorem logActiveFailure_none {t : Globals × Option ActiveFailure} (h : t.2 = none) :
    (logActiveFailure t).2 = none := by
  unfold logActiveFailure
  rw [h]

end Simp

/-! ## One lemma a handler -/

section Handlers

variable (env : Env) (s : Globals)

theorem standbyToObservation_cases :
    (env.observationReady 0 = true ∧ (smgrStandbyToObservation env s).2 = none ∧
        (smgrStandbyToObservation env s).1.view = s.view.moveTo RtlFlags.standby RtlFlags.obs .observation) ∨
      (env.observationReady 0 = false ∧ (smgrStandbyToObservation env s).1.view = s.view) := by
  unfold smgrStandbyToObservation
  split
  · rename_i h; exact .inl ⟨h, rfl, rfl⟩
  · rename_i h
    refine .inr ⟨by simpa using h, ?_⟩
    split <;> rfl

theorem standbyToCharacterization_cases :
    ((smgrStandbyToCharacterization env s).2 = none ∧
        (smgrStandbyToCharacterization env s).1.view =
          s.view.moveTo RtlFlags.standby RtlFlags.obs .characterization) ∨
      (smgrStandbyToCharacterization env s).1.view = s.view := by
  unfold smgrStandbyToCharacterization
  have hview : (charRc env (resetStbToChrLogged env s)).1.view = s.view := by simp
  simp only
  split
  · exact .inl ⟨rfl, by rw [view_moveTo, hview]⟩
  · split <;> exact .inr hview

theorem characterizationToObservation_cases :
    ((smgrCharacterizationToObservation env s).2 = none ∧
        (smgrCharacterizationToObservation env s).1.view = { s.view with state := .observation }) ∨
      (smgrCharacterizationToObservation env s).1.view = s.view := by
  unfold smgrCharacterizationToObservation
  simp only
  split
  · exact .inr (view_pgpeStopChar s env)
  · exact .inl ⟨rfl, by simp⟩

theorem observationToCharacterization_cases :
    ((smgrObservationToCharacterization env s).2 = none ∧
        (smgrObservationToCharacterization env s).1.view = { s.view with state := .characterization }) ∨
      (smgrObservationToCharacterization env s).1.view = s.view := by
  unfold smgrObservationToCharacterization
  simp only
  split
  · exact .inl ⟨rfl, by simp⟩
  · split <;> exact .inr (view_charRc s env)

/-- Pstates come up after the wait for them has timed out. -/
def LateEnable : Prop :=
  (env.waitHwpstateEnabled env.pollsBeforeTimeout 0).1 = false ∧
    env.hwpstateEnabled (env.waitHwpstateEnabled env.pollsBeforeTimeout 0).2 = true

theorem observationToActiveCores_cases :
    ((observationToActiveCores env s).1.view = s.view.moveTo RtlFlags.obs RtlFlags.active .active ∧
        ((observationToActiveCores env s).2 = none ∨ LateEnable env)) ∨
      (observationToActiveCores env s).1.view = s.view := by
  have hview := view_startPstates (s.call (.setClipFreq (activeClipFreq env))) env
  unfold observationToActiveCores
  simp only
  split
  · exact .inr rfl
  · split
    · exact .inr hview
    · split
      · rename_i henabled
        refine .inl ⟨congrArg (View.moveTo · RtlFlags.obs RtlFlags.active .active) hview, ?_⟩
        cases hw : (env.waitHwpstateEnabled env.pollsBeforeTimeout 0).1 with
        | true => exact .inl (by simp)
        | false => exact .inr ⟨hw, henabled⟩
      · exact .inr hview

/-- Not ready: nothing moves. Ready: the WOF bit is cleared, and active is entered or not. -/
theorem observationToActive_cases (r : Nat) :
    (env.activeReady r = false ∧ (smgrObservationToActive env r s).1.view = s.view) ∨
      (env.activeReady r = true ∧
        (((smgrObservationToActive env r s).1.view =
              s.view.clrWof.moveTo RtlFlags.obs RtlFlags.active .active ∧
            ((smgrObservationToActive env r s).2 = none ∨ LateEnable env)) ∨
          (smgrObservationToActive env r s).1.view = s.view.clrWof)) := by
  unfold smgrObservationToActive
  rw [view_logActiveFailure]
  unfold observationToActiveBody
  split
  · rename_i hready
    refine .inr ⟨hready, ?_⟩
    simp only
    split
    · exact .inl ⟨rfl, .inl rfl⟩
    · rcases observationToActiveCores_cases env (Globals.clearWofDisabled
        { s with mnfgQuadPstate := fun q => if q < 6 then 0xFF else s.mnfgQuadPstate q } wofRcStateChange)
        with ⟨hview, hfail⟩ | hview
      · exact .inl ⟨hview, hfail.imp_left logActiveFailure_none⟩
      · exact .inr hview
  · rename_i hready
    exact .inl ⟨by simpa using hready, rfl⟩

theorem activeToObservation_cases :
    ((smgrActiveToObservation env s).2 = none ∧
        (smgrActiveToObservation env s).1.view =
          s.view.setWof.moveTo RtlFlags.active RtlFlags.obs .observation) ∨
      (smgrActiveToObservation env s).1.view = s.view.setWof := by
  unfold smgrActiveToObservation
  simp only
  split
  · exact .inr (by simp)
  · exact .inl ⟨rfl, by simp⟩

theorem activeToCharacterization_cases :
    ((smgrActiveToCharacterization env s).2 = none ∧
        (smgrActiveToCharacterization env s).1.view =
          s.view.setWof.moveTo RtlFlags.active RtlFlags.obs .characterization) ∨
      (smgrActiveToCharacterization env s).1.view = s.view.setWof := by
  unfold smgrActiveToCharacterization
  simp only
  split
  · exact .inr (by simp)
  · exact .inl ⟨rfl, by simp⟩

theorem view_smgrAllToStandby :
    (smgrAllToStandby s).1.view =
      s.view.setWof.moveTo (RtlFlags.active ||| RtlFlags.obs) RtlFlags.standby .standby := rfl

theorem view_smgrAllToSafe :
    (smgrAllToSafe env s).1.view =
      s.view.setWof.moveTo (RtlFlags.active ||| RtlFlags.obs ||| RtlFlags.standby) RtlFlags.rstReq .safe := by
  unfold smgrAllToSafe
  simp only
  split <;> rfl

end Handlers

/-! ## One call -/

/-- The state a transition function starts from; none when it starts from any state. -/
def TransFunc.source : TransFunc → Option OccState
  | .standbyToObservation | .standbyToCharacterization | .standbyToActive => some .standby
  | .observationToCharacterization | .observationToActive => some .observation
  | .characterizationToObservation | .characterizationToActive => some .characterization
  | .activeToObservation | .activeToCharacterization => some .active
  | .allToStandby | .allToSafe => none

/-- The state a transition function leads to. -/
def TransFunc.target : TransFunc → OccState
  | .standbyToObservation | .characterizationToObservation | .activeToObservation => .observation
  | .standbyToCharacterization | .observationToCharacterization | .activeToCharacterization => .characterization
  | .standbyToActive | .observationToActive | .characterizationToActive => .active
  | .allToStandby => .standby
  | .allToSafe => .safe

theorem smgrStateTrans_wf : ∀ row ∈ smgrStateTrans,
    row.oldState = row.transFunc.source.getD .all ∧ row.newState = row.transFunc.target := by
  decide

theorem findTrans_some {current new : OccState} {row : StateTrans} (h : findTrans current new = some row) :
    (row.transFunc.source = some current ∨ row.transFunc.source = none) ∧ row.transFunc.target = new := by
  obtain ⟨hold, hnew⟩ := smgrStateTrans_wf row (List.mem_of_find?_eq_some h)
  have hp := List.find?_some h
  simp only [Bool.and_eq_true, Bool.or_eq_true, beq_iff_eq] at hp
  refine ⟨?_, hnew.symm.trans hp.2⟩
  rw [hold] at hp
  cases hf : row.transFunc <;> rw [hf] at hp <;>
    simp_all [TransFunc.source]

theorem TransFunc.state_eq {f : TransFunc} {current : OccState}
    (h : f.source = some current ∨ f.source = none) (st : OccState) (hf : f.source = some st) : current = st := by
  rcases h with hs | hs <;> rw [hf] at hs
  · exact (Option.some.inj hs).symm
  · cases hs

theorem smgrSetState_cases (env : Env) (new : OccState) (s : Globals) :
    (smgrSetState env new s).1.view = s.view ∨
      ∃ row s', env.pendRc = 0 ∧ findTrans s.currentState new = some row ∧ s'.view = s.view ∧
        (smgrSetState env new s).1.view = (row.transFunc.run env s').1.view ∧
        (smgrSetState env new s).2 = (row.transFunc.run env s').2 := by
  unfold smgrSetState
  split
  · exact .inl rfl
  · rename_i hpend
    split
    · exact .inl rfl
    · split
      · exact .inl rfl
      · rename_i row hrow
        exact .inr ⟨row, { s with stateTransitionOccuring := true }, not_not.1 hpend, hrow, rfl, by simp, rfl⟩

end Occ.Smgr
