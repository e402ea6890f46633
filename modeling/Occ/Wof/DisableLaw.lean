/-
Disabling WOF: over every run whose SET calls and control requests meet a condition, WOF is turned off whenever the
first reason is set, and it is only enabled, or being enabled, without a reason.
-/
import Occ.Wof.PingPong

namespace Occ.Wof

open Occ.Transition

/-! ## The law -/

/-- The call takes `wof_disabled` from zero to nonzero. -/
def SetCall.First (c : SetCall) : Prop := c.prev = 0 ∧ c.bitMask ≠ 0

structure DisableLaw (w : AmecWof) : Prop where
  ran : ∀ c ∈ w.sets, c.First → c.ranDisable = true
  enabled : w.wofInitState ≠ .wofDisabled → w.wofDisabled = 0

/-- No WOF error has been logged before the first reason is set, and the reason is none of those for which
`set_clear_wof_disabled` leaves early. -/
structure SetCall.Reported (c : SetCall) : Prop where
  errorLogged : c.errorLogged = false
  resetDebugCmd : c.bitMask ≠ wofRcResetDebugCmd
  occ : c.bitMask &&& wofRcOccWofDisabled = 0
  oppb : c.bitMask &&& wofRcOppbWofDisabled = 0
  driver : c.bitMask &&& wofRcDriverWofDisabled = 0

/-- A request that has turned WOF on in the PGPE completes while no reason is set. -/
def ControlOk (w : AmecWof) (e : WofEvent) : Prop :=
  match e with
  | .controlDone rc => rc = pgpeRcSuccess → w.controlAction = .on → w.wofDisabled = 0
  | _ => True

instance (w : AmecWof) (e : WofEvent) : Decidable (ControlOk w e) := by
  unfold ControlOk
  split <;> infer_instance

/-! ## SET and CLEAR -/

section
variable (w : AmecWof) (off : ScheduleResult) (bitMask : BitVec 32)

theorem logError_frame : (w.logError bitMask).wofDisabled = w.wofDisabled ∧
    (w.logError bitMask).wofInitState = w.wofInitState ∧ (w.logError bitMask).sets = w.sets ∧
    (w.logError bitMask).disables = w.disables := by
  unfold AmecWof.logError
  split <;> exact ⟨rfl, rfl, rfl, rfl⟩

theorem disableWof_frame : (w.disableWof off).wofDisabled = w.wofDisabled ∧
    (w.disableWof off).wofInitState = .wofDisabled ∧ (w.disableWof off).sets = w.sets ∧
    (w.disableWof off).disables = w.disables + 1 := by
  unfold AmecWof.disableWof
  dsimp only
  split_ifs <;> exact ⟨rfl, rfl, rfl, rfl⟩

/-- The reason is set, and `disable_wof` is run or the initial state stays. -/
theorem setReason_frame : (w.setReason off bitMask).wofDisabled = w.wofDisabled ||| bitMask ∧
    (w.setReason off bitMask).sets = w.sets ∧
    (((w.setReason off bitMask).disables = w.disables ∧ (w.setReason off bitMask).wofInitState = w.wofInitState) ∨
      ((w.setReason off bitMask).disables = w.disables + 1 ∧ (w.setReason off bitMask).wofInitState = .wofDisabled)) := by
  unfold AmecWof.setReason
  dsimp only
  split_ifs
  · obtain ⟨hdis, hinit, hsets, hcount⟩ := logError_frame { w with vfrtState := .standby, wofDisabled := w.wofDisabled ||| bitMask } bitMask
    exact ⟨hdis, hsets, .inl ⟨hcount, hinit⟩⟩
  · exact ⟨rfl, rfl, .inl ⟨rfl, rfl⟩⟩
  · exact ⟨rfl, rfl, .inl ⟨rfl, rfl⟩⟩
  · exact ⟨rfl, rfl, .inl ⟨rfl, rfl⟩⟩
  · obtain ⟨hdis, hinit, hsets, hcount⟩ := disableWof_frame { w with vfrtState := .standby, wofDisabled := w.wofDisabled ||| bitMask } off
    obtain ⟨hdis', hinit', hsets', hcount'⟩ := logError_frame
      ({ w with vfrtState := .standby, wofDisabled := w.wofDisabled ||| bitMask }.disableWof off) bitMask
    exact ⟨hdis'.trans hdis, hsets'.trans hsets, .inr ⟨hcount'.trans hcount, hinit'.trans hinit⟩⟩
  · obtain ⟨hdis, hinit, hsets, hcount⟩ := logError_frame { w with vfrtState := .standby, wofDisabled := w.wofDisabled ||| bitMask } bitMask
    exact ⟨hdis, hsets, .inl ⟨hcount, hinit⟩⟩
  · obtain ⟨hdis, hinit, hsets, hcount⟩ := disableWof_frame { w with vfrtState := .standby, wofDisabled := w.wofDisabled ||| bitMask } off
    exact ⟨hdis, hsets, .inr ⟨hcount, hinit⟩⟩
  · exact ⟨rfl, rfl, .inl ⟨rfl, rfl⟩⟩

variable {w off bitMask}

/-- The first reason runs `disable_wof` exactly when it is reported. -/
theorem setReason_first (hprev : w.wofDisabled = 0) (hmask : bitMask ≠ 0) :
    w.disables < (w.setReason off bitMask).disables ↔
      (SetCall.mk w.wofDisabled bitMask w.errorLogged true).Reported := by
  have hdisable := (disableWof_frame { w with vfrtState := .standby, wofDisabled := w.wofDisabled ||| bitMask } off).2.2.2
  have hlog : ∀ k : AmecWof, (k.logError bitMask).disables = k.disables := fun k => (logError_frame k bitMask).2.2.2
  have hor : (0 : BitVec 32) ||| bitMask = bitMask := BitVec.zero_or
  constructor
  · intro h
    unfold AmecWof.setReason at h
    dsimp only at h
    rw [hprev, hor] at h
    -- each way to leave early keeps the count
    by_cases hreset : bitMask = wofRcResetDebugCmd
    · rw [if_pos ⟨hmask, hreset⟩, hlog] at h
      exact absurd h (lt_irrefl _)
    · rw [if_neg fun hleave => hreset hleave.2] at h
      by_cases hyet : bitMask &&& wofRcOccWofDisabled ≠ 0 ∨ bitMask &&& wofRcOppbWofDisabled ≠ 0
      · rw [if_pos hyet] at h
        exact absurd h (lt_irrefl _)
      · rw [if_neg hyet] at h
        by_cases herr : w.errorLogged = true
        · rw [if_pos herr] at h
          exact absurd h (lt_irrefl _)
        · rw [if_neg herr] at h
          by_cases hdriver : bitMask &&& wofRcDriverWofDisabled ≠ 0
          · rw [if_pos hdriver] at h
            exact absurd h (lt_irrefl _)
          · obtain ⟨hocc, hoppb⟩ := not_or.1 hyet
            exact ⟨Bool.eq_false_iff.2 herr, hreset, not_not.1 hocc, not_not.1 hoppb, not_not.1 hdriver⟩
  · rintro ⟨herr, hreset, hocc, hoppb, hdriver⟩
    dsimp only at herr hreset hocc hoppb hdriver
    unfold AmecWof.setReason
    dsimp only at hdisable ⊢
    rw [hprev, hor] at hdisable ⊢
    rw [if_neg (fun h => hreset h.2), if_neg (by rw [hocc, hoppb]; simp), if_neg (by rw [herr]; exact Bool.false_ne_true),
      if_neg (by rw [hdriver]; simp)]
    rw [if_pos rfl]
    split
    · rw [hlog, hdisable]
      exact Nat.lt_succ_self _
    · rw [hdisable]
      exact Nat.lt_succ_self _

theorem clearDisabled_frame (w : AmecWof) (bitMask : BitVec 32) :
    (w.clearDisabled bitMask).wofDisabled = w.wofDisabled &&& ~~~bitMask ∧
    (w.clearDisabled bitMask).wofInitState = w.wofInitState ∧ (w.clearDisabled bitMask).sets = w.sets := by
  unfold AmecWof.clearDisabled
  dsimp only
  split_ifs
  · exact ⟨rfl, rfl, rfl⟩
  · obtain ⟨hdis, hinit, hsets, -⟩ := logError_frame { w with wofDisabled := w.wofDisabled &&& ~~~bitMask } bitMask
    exact ⟨hdis, hinit, hsets⟩
  · exact ⟨rfl, rfl, rfl⟩
  · exact ⟨rfl, rfl, rfl⟩

end

/-! ## The invariant -/

/-- As long as every first reason has been reported. -/
def DisableInv (w : AmecWof) : Prop := (∀ c ∈ w.sets, c.First → c.Reported) → DisableLaw w

namespace DisableInv

variable {w w' : AmecWof}

theorem same (hw : DisableInv w) (hdis : w'.wofDisabled = w.wofDisabled) (hinit : w'.wofInitState = w.wofInitState)
    (hsets : w'.sets = w.sets) : DisableInv w' := by
  intro hok
  rw [hsets] at hok
  obtain ⟨hran, henabled⟩ := hw hok
  exact ⟨by rw [hsets]; exact hran, by rw [hinit, hdis]; exact henabled⟩

theorem advance (hw : DisableInv w) (hzero : w.wofDisabled = 0) (hdis : w'.wofDisabled = w.wofDisabled)
    (hsets : w'.sets = w.sets) : DisableInv w' := by
  intro hok
  rw [hsets] at hok
  exact ⟨by rw [hsets]; exact (hw hok).ran, fun _ => hdis.trans hzero⟩

theorem setDisabled (hw : DisableInv w) (off : ScheduleResult) (bitMask : BitVec 32) :
    DisableInv (w.setDisabled off bitMask) := by
  obtain ⟨hdis, hsets, hinit⟩ := setReason_frame w off bitMask
  intro hok
  obtain ⟨hran, henabled⟩ := hw fun c hc => hok c (List.mem_cons_of_mem _ hc)
  have hcall := hok _ List.mem_cons_self
  constructor
  · intro c hc hfirst
    obtain rfl | hc := List.mem_cons.1 hc
    · obtain ⟨herr, hreset, hocc, hoppb, hdriver⟩ := hcall hfirst
      exact decide_eq_true ((setReason_first hfirst.1 hfirst.2).2 ⟨herr, hreset, hocc, hoppb, hdriver⟩)
    · exact hran c hc hfirst
  · intro hne
    have hne : (w.setReason off bitMask).wofInitState ≠ .wofDisabled := hne
    obtain ⟨hcount, hsame⟩ | ⟨-, hoff⟩ := hinit
    · have hzero := henabled (hsame ▸ hne)
      show (w.setReason off bitMask).wofDisabled = 0
      rw [hdis, hzero, show (0 : BitVec 32) ||| bitMask = bitMask from BitVec.zero_or]
      -- a first reason would have run `disable_wof`
      by_contra hmask
      obtain ⟨herr, hreset, hocc, hoppb, hdriver⟩ := hcall ⟨hzero, hmask⟩
      have hlt := (@setReason_first w off bitMask hzero hmask).2 ⟨herr, hreset, hocc, hoppb, hdriver⟩
      omega
    · exact absurd hoff hne

theorem clearDisabled (hw : DisableInv w) (bitMask : BitVec 32) : DisableInv (w.clearDisabled bitMask) := by
  obtain ⟨hdis, hinit, hsets⟩ := clearDisabled_frame w bitMask
  intro hok
  rw [hsets] at hok
  obtain ⟨hran, henabled⟩ := hw hok
  refine ⟨by rw [hsets]; exact hran, fun hne => ?_⟩
  rw [hdis, henabled (hinit ▸ hne)]
  exact BitVec.zero_and

theorem enableWof (hw : DisableInv w) (hzero : w.wofDisabled = 0) (on off : ScheduleResult) :
    DisableInv (w.enableWof on off).1 := by
  unfold AmecWof.enableWof
  dsimp only
  split_ifs
  · exact hw
  · refine DisableInv.setDisabled ?_ off _
    exact hw.same rfl rfl rfl
  · refine DisableInv.setDisabled ?_ off _
    exact hw.advance hzero rfl rfl
  · exact hw.advance hzero rfl rfl

theorem controlCallback (hw : DisableInv w) {rc : BitVec 8} (hok : ControlOk w (.controlDone rc)) :
    DisableInv (w.controlCallback rc) := by
  unfold AmecWof.controlCallback
  dsimp only
  split_ifs
  · exact hw.same rfl rfl rfl
  · rename_i hrc
    split
    · rename_i hon
      exact hw.advance (hok hrc hon) rfl rfl
    · exact hw.same rfl rfl rfl
  · exact hw.same rfl rfl rfl

theorem vfrtNotComplete (hw : DisableInv w) (env : TickEnv) : DisableInv (w.vfrtNotComplete env) := by
  unfold AmecWof.vfrtNotComplete
  split_ifs
  · exact hw.setDisabled _ _
  · exact hw.same rfl rfl rfl
  · exact hw.same rfl rfl rfl

theorem controlNotComplete (hw : DisableInv w) (env : TickEnv) : DisableInv (w.controlNotComplete env) := by
  unfold AmecWof.controlNotComplete
  split_ifs
  · exact hw.setDisabled _ _
  · exact hw.same rfl rfl rfl
  · exact hw.same rfl rfl rfl

theorem sendVfrtToPgpe (hw : DisableInv w) (env : TickEnv) (addr : BitVec 32) : DisableInv (w.sendVfrtToPgpe env addr) := by
  have hinit : DisableInv { w with vfrtState := .sendInit } := hw.same rfl rfl rfl
  unfold AmecWof.sendVfrtToPgpe
  dsimp only
  split_ifs
  · exact hw.setDisabled _ _
  · exact hw
  · exact hw.setDisabled _ _
  · exact hinit.same rfl rfl rfl
  · exact hinit.setDisabled _ _
  · exact hw

theorem sendInitialVfrtToPgpe (hw : DisableInv w) (hzero : w.wofDisabled = 0) (env : TickEnv) :
    DisableInv (w.sendInitialVfrtToPgpe env) := by
  unfold AmecWof.sendInitialVfrtToPgpe
  dsimp only
  refine DisableInv.sendVfrtToPgpe ?_ env _
  split
  · exact hw.advance hzero rfl rfl
  · exact hw.same rfl rfl rfl

theorem wofMain (hw : DisableInv w) (env : TickEnv) : DisableInv (w.wofMain env) := by
  have hreq : DisableInv (w.readReqActiveQuads env.reqActiveQuads) := hw.same rfl rfl rfl
  have hvdd : DisableInv ((w.readReqActiveQuads env.reqActiveQuads).calculateCeffRatioVdd env) := by
    unfold AmecWof.calculateCeffRatioVdd
    split
    · exact hreq.setDisabled _ _
    · exact hreq
  have hvdn : DisableInv (((w.readReqActiveQuads env.reqActiveQuads).calculateCeffRatioVdd env).calculateCeffRatioVdn env) := by
    generalize (w.readReqActiveQuads env.reqActiveQuads).calculateCeffRatioVdd env = w₁ at hvdd
    unfold AmecWof.calculateCeffRatioVdn
    split
    · exact hvdd.setDisabled _ _
    · exact hvdd
  unfold AmecWof.wofMain
  dsimp only
  generalize ((w.readReqActiveQuads env.reqActiveQuads).calculateCeffRatioVdd env).calculateCeffRatioVdn env = w₂ at hvdn
  refine DisableInv.sendVfrtToPgpe ?_ env _
  exact hvdn.same rfl rfl rfl

theorem initTick (hw : DisableInv w) (env : TickEnv) : DisableInv (w.initTick env) := by
  unfold AmecWof.initTick
  split
  · rename_i hzero
    split
    · have hchances : DisableInv { w with
          vfrtLastChance := env.maxVfrtChances, controlLastChance := env.maxControlChances } := hw.same rfl rfl rfl
      exact hchances.sendInitialVfrtToPgpe hzero env
    · split
      · exact hw.vfrtNotComplete env
      · exact hw
    · dsimp only
      have hchance : DisableInv { w with vfrtLastChance := env.maxVfrtChances } := hw.same rfl rfl rfl
      have henable := hchance.enableWof hzero env.on env.off
      split
      · exact henable.same rfl rfl rfl
      · exact henable.controlNotComplete env
    · split
      · exact hw.controlNotComplete env
      · exact hw.same rfl rfl rfl
    · exact hw
    · exact hw
  · exact hw

theorem runTick (hw : DisableInv w) (env : TickEnv) : DisableInv (w.runTick env) := by
  unfold AmecWof.runTick
  split
  · split
    · exact hw.vfrtNotComplete env
    · have hrecorded : DisableInv { w with currentTimeoutRecorded := false } := hw.same rfl rfl rfl
      have hmain := hrecorded.wofMain env
      dsimp only
      generalize AmecWof.wofMain _ env = w₁ at hmain
      intro hok
      obtain ⟨hran, henabled⟩ := hmain hok
      refine ⟨hran, fun hne => ?_⟩
      dsimp only at hne ⊢
      -- WOF is enabled from a state that it had already been enabled in
      split at hne
      · rename_i hprev
        exact henabled (by rw [hprev]; exact nofun)
      · exact henabled hne
  · exact hw

theorem beginTick (hw : DisableInv w) (env : TickEnv) : DisableInv (w.beginTick env) := by
  have h₁ : DisableInv (if w.wofInitState = .pgpeWofEnabledNoPrevData then w.clearDisabled wofRcPgpeWofDisabled else w) := by
    split
    · exact hw.clearDisabled _
    · exact hw
  unfold AmecWof.beginTick
  dsimp only
  generalize (if w.wofInitState = .pgpeWofEnabledNoPrevData then _ else w) = w₁ at h₁
  have h₂ : DisableInv (if w₁.vfrtCallbackError then
      { w₁.setDisabled env.off wofRcVfrtReqFailure with vfrtCallbackError := false } else w₁) := by
    split
    · exact (h₁.setDisabled env.off wofRcVfrtReqFailure).same rfl rfl rfl
    · exact h₁
  generalize (if w₁.vfrtCallbackError then _ else w₁) = w₂ at h₂
  split
  · refine DisableInv.clearDisabled ?_ _
    exact h₂.same rfl rfl rfl
  · exact h₂

theorem callWofMain (hw : DisableInv w) (env : TickEnv) : DisableInv (w.callWofMain env) := by
  have hbegin := hw.beginTick env
  unfold AmecWof.callWofMain
  dsimp only
  generalize w.beginTick env = w₁ at hbegin
  split
  · split
    · exact (hbegin.setDisabled env.off wofRcPgpeWofDisabled).same rfl rfl rfl
    · exact hbegin
  · split
    · split
      · exact hbegin
      · exact (hbegin.setDisabled env.off wofRcPstateProtocolOff).same rfl rfl rfl
    · have hclear : DisableInv (if w₁.pstateProtocolOff then
          { w₁.clearDisabled wofRcPstateProtocolOff with pstateProtocolOff := false } else w₁) := by
        split
        · exact (hbegin.clearDisabled wofRcPstateProtocolOff).same rfl rfl rfl
        · exact hbegin
      split
      · exact (hclear.initTick env).runTick env
      · exact hclear

theorem scheduleVfrtRequest (hw : DisableInv w) (vfrt off : ScheduleResult) : DisableInv (w.scheduleVfrtRequest vfrt off) := by
  unfold AmecWof.scheduleVfrtRequest
  split
  · cases vfrt with
    | started => exact hw.same rfl rfl rfl
    | skipped => exact hw.same rfl rfl rfl
    | failed =>
      have hscheduled : DisableInv { w with vfrtState := .scheduled } := hw.same rfl rfl rfl
      refine DisableInv.setDisabled ?_ off _
      split
      · intro hok
        exact ⟨(hscheduled hok).ran, fun hne => absurd rfl hne⟩
      · exact hscheduled
  · exact hw

theorem wofVfrtCallback (hw : DisableInv w) (rc reqActiveQuads : BitVec 8) : DisableInv (w.wofVfrtCallback rc reqActiveQuads) := by
  unfold AmecWof.wofVfrtCallback
  dsimp only
  split_ifs with _ _ hinit
  · exact hw.same rfl rfl rfl
  · intro hok
    obtain ⟨hran, henabled⟩ := hw hok
    exact ⟨hran, fun _ => henabled (by rw [hinit]; exact nofun)⟩
  · exact hw.same rfl rfl rfl
  · exact hw.same rfl rfl rfl

theorem next {e : WofEvent} (hw : DisableInv w) (hok : ControlOk w e) (h : w.next e = some w') : DisableInv w' := by
  cases e with
  | tick env => cases h; exact hw.callWofMain env
  | schedule vfrt off => cases h; exact hw.scheduleVfrtRequest vfrt off
  | copyDone =>
    dsimp only [AmecWof.next] at h
    split at h
    · cases h; exact hw.same rfl rfl rfl
    · cases h
  | vfrtDone rc reqActiveQuads =>
    dsimp only [AmecWof.next] at h
    split at h
    · cases h; exact hw.wofVfrtCallback rc reqActiveQuads
    · cases h
  | controlDone rc =>
    dsimp only [AmecWof.next] at h
    split at h
    · cases h; exact hw.controlCallback hok
    · cases h
  | set off bitMask => cases h; exact hw.setDisabled off bitMask
  | clear bitMask => cases h; exact hw.clearDisabled bitMask

end DisableInv

/-- WOF is enabled again after an error has been logged. -/
def disableAfterErrorRun : List WofEvent :=
  [.clear wofRcOccWofDisabled, .set .started wofRcSystemWofDisable, .clear wofRcSystemWofDisable] ++ enableRun.tail ++
    [.set .started wofRcStateChange]

theorem not_disableLaw_afterError : ∃ w,
    exec AmecWof.next (.start sixQuads 0x800C0000) disableAfterErrorRun = some w ∧
    w.wofDisabled = wofRcStateChange ∧ w.wofInitState = .wofEnabled ∧ ¬DisableLaw w :=
  ⟨_, rfl, rfl, rfl, fun h => absurd (h.enabled nofun) (by decide)⟩

end Occ.Wof
