/-
The two buffers of VFRTs: in every run in which a block copy is scheduled only while no block copy and no IPC request
is outstanding, a VFRT is never copied to the buffer that the PGPE uses or has been told to use.
-/
import Occ.Lib.Transition
import Occ.Wof.Vfrt

namespace Occ.Wof

open Occ.Transition

/-! ## Safe copies -/

/-- The copy goes to a buffer that the PGPE does not use and is not told to use, and `G_wof_vfrt_parms`, which it
rewrites, is not in flight. -/
structure CopyCall.Safe (c : CopyCall) : Prop where
  notCurr : c.curr ≠ some c.buffer
  notInFlight : ∀ p, c.inFlight = some p → p.homerVfrtPtr ≠ some c.buffer
  parms : c.inFlight = none

/-- Every copy was safe, and the parameters in flight are those that were sent. -/
structure VfrtSafe (w : AmecWof) : Prop where
  copied : ∀ c ∈ w.copied, c.Safe
  parms : w.vfrtBusy = true → w.vfrtParms = w.vfrtSent

/-- Nothing is outstanding when the block copy is scheduled. -/
def SendCall.Alone (s : SendCall) : Prop := s.copies = 0 ∧ s.vfrtBusy = false

/-! ## The invariant -/

structure VfrtCore (w : AmecWof) : Prop where
  copies : w.copies ≤ 1
  flight : w.vfrtBusy = true → w.copies = 0 ∧ w.vfrtParms = w.vfrtSent
  /-- the copy is complete once its request is to be scheduled -/
  settled : w.vfrtState = .needToSchedule → w.copies = 0
  copied : ∀ c ∈ w.copied, c.Safe

/-- As long as every block copy has been scheduled alone. -/
def VfrtInv (w : AmecWof) : Prop := (∀ s ∈ w.sends, s.Alone) → VfrtCore w

/-- What the copies and the IPC request depend on is left alone, but for a state that goes to standby. -/
structure Quiet (w w' : AmecWof) : Prop where
  copies : w'.copies = w.copies
  vfrtBusy : w'.vfrtBusy = w.vfrtBusy
  vfrtParms : w'.vfrtParms = w.vfrtParms
  vfrtSent : w'.vfrtSent = w.vfrtSent
  sends : w'.sends = w.sends
  copied : w'.copied = w.copied
  vfrtState : w'.vfrtState = w.vfrtState ∨ w'.vfrtState = .standby

namespace Quiet

variable {w w' w'' : AmecWof}

theorem refl (w : AmecWof) : Quiet w w := ⟨rfl, rfl, rfl, rfl, rfl, rfl, .inl rfl⟩

theorem trans (h : Quiet w w') (h' : Quiet w' w'') : Quiet w w'' where
  copies := h'.copies.trans h.copies
  vfrtBusy := h'.vfrtBusy.trans h.vfrtBusy
  vfrtParms := h'.vfrtParms.trans h.vfrtParms
  vfrtSent := h'.vfrtSent.trans h.vfrtSent
  sends := h'.sends.trans h.sends
  copied := h'.copied.trans h.copied
  vfrtState := by
    obtain h' | h' := h'.vfrtState
    · rw [h']; exact h.vfrtState
    · exact .inr h'

theorem after (h' : Quiet w' w'') (h : Quiet w w') : Quiet w w'' := h.trans h'

theorem inv (h : Quiet w w') (hw : VfrtInv w) : VfrtInv w' := by
  intro halone
  rw [h.sends] at halone
  have hc := hw halone
  constructor
  · rw [h.copies]; exact hc.copies
  · rw [h.vfrtBusy, h.copies, h.vfrtParms, h.vfrtSent]; exact hc.flight
  · intro hs
    rw [h.copies]
    obtain hst | hst := h.vfrtState
    · exact hc.settled (hst ▸ hs)
    · rw [hst] at hs
      cases hs
  · rw [h.copied]; exact hc.copied

theorem logError (w : AmecWof) (bitMask : BitVec 32) : Quiet w (w.logError bitMask) := by
  unfold AmecWof.logError
  split
  · exact refl w
  · exact ⟨rfl, rfl, rfl, rfl, rfl, rfl, .inl rfl⟩

theorem disableWof (w : AmecWof) (off : ScheduleResult) : Quiet w (w.disableWof off) := by
  unfold AmecWof.disableWof
  dsimp only
  split_ifs <;> exact ⟨rfl, rfl, rfl, rfl, rfl, rfl, .inl rfl⟩

theorem setDisabled (w : AmecWof) (off : ScheduleResult) (bitMask : BitVec 32) : Quiet w (w.setDisabled off bitMask) := by
  have hset : Quiet w { w with vfrtState := .standby, wofDisabled := w.wofDisabled ||| bitMask } :=
    ⟨rfl, rfl, rfl, rfl, rfl, rfl, .inr rfl⟩
  have hreason : Quiet w (w.setReason off bitMask) := by
    unfold AmecWof.setReason
    dsimp only
    split_ifs
    · exact hset.trans (logError _ bitMask)
    · exact hset
    · exact hset
    · exact hset
    · exact hset.trans ((disableWof _ off).trans (logError _ bitMask))
    · exact hset.trans (logError _ bitMask)
    · exact hset.trans (disableWof _ off)
    · exact hset
  exact hreason.trans ⟨rfl, rfl, rfl, rfl, rfl, rfl, .inl rfl⟩

theorem clearDisabled (w : AmecWof) (bitMask : BitVec 32) : Quiet w (w.clearDisabled bitMask) := by
  have hclear : Quiet w { w with wofDisabled := w.wofDisabled &&& ~~~bitMask } :=
    ⟨rfl, rfl, rfl, rfl, rfl, rfl, .inl rfl⟩
  unfold AmecWof.clearDisabled
  dsimp only
  split_ifs
  · exact hclear
  · exact hclear.trans (logError _ bitMask)
  · exact hclear
  · exact hclear

theorem enableWof (w : AmecWof) (on off : ScheduleResult) : Quiet w (w.enableWof on off).1 := by
  unfold AmecWof.enableWof
  dsimp only
  split_ifs
  · exact refl w
  · exact (setDisabled _ off _).after ⟨rfl, rfl, rfl, rfl, rfl, rfl, .inl rfl⟩
  · exact (setDisabled _ off _).after ⟨rfl, rfl, rfl, rfl, rfl, rfl, .inl rfl⟩
  · exact ⟨rfl, rfl, rfl, rfl, rfl, rfl, .inl rfl⟩

theorem controlCallback (w : AmecWof) (rc : BitVec 8) : Quiet w (w.controlCallback rc) := by
  unfold AmecWof.controlCallback
  dsimp only
  split_ifs
  · exact ⟨rfl, rfl, rfl, rfl, rfl, rfl, .inl rfl⟩
  · split <;> exact ⟨rfl, rfl, rfl, rfl, rfl, rfl, .inl rfl⟩
  · exact ⟨rfl, rfl, rfl, rfl, rfl, rfl, .inl rfl⟩

theorem vfrtNotComplete (w : AmecWof) (env : TickEnv) : Quiet w (w.vfrtNotComplete env) := by
  unfold AmecWof.vfrtNotComplete
  split_ifs
  · exact setDisabled w _ _
  · exact ⟨rfl, rfl, rfl, rfl, rfl, rfl, .inl rfl⟩
  · exact ⟨rfl, rfl, rfl, rfl, rfl, rfl, .inl rfl⟩

theorem controlNotComplete (w : AmecWof) (env : TickEnv) : Quiet w (w.controlNotComplete env) := by
  unfold AmecWof.controlNotComplete
  split_ifs
  · exact setDisabled w _ _
  · exact ⟨rfl, rfl, rfl, rfl, rfl, rfl, .inl rfl⟩
  · exact ⟨rfl, rfl, rfl, rfl, rfl, rfl, .inl rfl⟩

theorem beginTick (w : AmecWof) (env : TickEnv) : Quiet w (w.beginTick env) := by
  have h₁ : Quiet w (if w.wofInitState = .pgpeWofEnabledNoPrevData then w.clearDisabled wofRcPgpeWofDisabled else w) := by
    split
    · exact clearDisabled w _
    · exact refl w
  unfold AmecWof.beginTick
  dsimp only
  generalize (if w.wofInitState = .pgpeWofEnabledNoPrevData then _ else w) = w₁ at h₁
  have h₂ : Quiet w₁ (if w₁.vfrtCallbackError then
      { w₁.setDisabled env.off wofRcVfrtReqFailure with vfrtCallbackError := false } else w₁) := by
    split
    · refine (setDisabled w₁ env.off wofRcVfrtReqFailure).trans ?_
      exact ⟨rfl, rfl, rfl, rfl, rfl, rfl, .inl rfl⟩
    · exact refl w₁
  generalize (if w₁.vfrtCallbackError then _ else w₁) = w₂ at h₂
  refine h₁.trans (h₂.trans ?_)
  split
  · exact (clearDisabled _ _).after ⟨rfl, rfl, rfl, rfl, rfl, rfl, .inl rfl⟩
  · exact refl w₂

end Quiet

/-! ## Steps -/

namespace VfrtInv

variable {w : AmecWof}

theorem sendVfrtToPgpe (hw : VfrtInv w) (env : TickEnv) (addr : BitVec 32) : VfrtInv (w.sendVfrtToPgpe env addr) := by
  unfold AmecWof.sendVfrtToPgpe
  dsimp only
  split_ifs
  · exact (Quiet.setDisabled w _ _).inv hw
  · exact hw
  · exact (Quiet.setDisabled w _ _).inv hw
  · intro halone
    obtain ⟨hcopies, hbusy⟩ := halone _ List.mem_cons_self
    have hc := hw fun s hs => halone s (List.mem_cons_of_mem _ hs)
    dsimp only at hcopies hbusy
    exact ⟨by dsimp only; omega, fun h => (Bool.false_ne_true (hbusy ▸ h)).elim, nofun, hc.copied⟩
  · -- the copy could not be scheduled
    refine (Quiet.setDisabled _ _ _).inv fun halone => ?_
    have hc := hw halone
    exact ⟨hc.copies, hc.flight, nofun, hc.copied⟩
  · exact hw

theorem sendInitialVfrtToPgpe (hw : VfrtInv w) (env : TickEnv) : VfrtInv (w.sendInitialVfrtToPgpe env) := by
  unfold AmecWof.sendInitialVfrtToPgpe
  dsimp only
  refine VfrtInv.sendVfrtToPgpe (Quiet.inv ?_ hw) env _
  split <;> exact ⟨rfl, rfl, rfl, rfl, rfl, rfl, .inl rfl⟩

theorem wofMain (hw : VfrtInv w) (env : TickEnv) : VfrtInv (w.wofMain env) := by
  have hvdd : Quiet w ((w.readReqActiveQuads env.reqActiveQuads).calculateCeffRatioVdd env) := by
    unfold AmecWof.calculateCeffRatioVdd
    split
    · exact (Quiet.setDisabled _ _ _).after ⟨rfl, rfl, rfl, rfl, rfl, rfl, .inl rfl⟩
    · exact ⟨rfl, rfl, rfl, rfl, rfl, rfl, .inl rfl⟩
  have hvdn : Quiet w (((w.readReqActiveQuads env.reqActiveQuads).calculateCeffRatioVdd env).calculateCeffRatioVdn env) := by
    refine hvdd.trans ?_
    unfold AmecWof.calculateCeffRatioVdn
    split
    · exact Quiet.setDisabled _ _ _
    · exact .refl _
  refine VfrtInv.sendVfrtToPgpe (w := { AmecWof.calculateSteps _ env with nextVfrtMainMemAddr := _ }) ?_ env _
  refine Quiet.inv (hvdn.trans ?_) hw
  exact ⟨rfl, rfl, rfl, rfl, rfl, rfl, .inl rfl⟩

theorem initTick (hw : VfrtInv w) (env : TickEnv) : VfrtInv (w.initTick env) := by
  unfold AmecWof.initTick
  split
  · split
    · refine sendInitialVfrtToPgpe (Quiet.inv ?_ hw) env
      exact ⟨rfl, rfl, rfl, rfl, rfl, rfl, .inl rfl⟩
    · split
      · exact (Quiet.vfrtNotComplete w env).inv hw
      · exact hw
    · dsimp only
      have henable : Quiet w ({ w with vfrtLastChance := env.maxVfrtChances }.enableWof env.on env.off).1 :=
        (Quiet.enableWof _ _ _).after ⟨rfl, rfl, rfl, rfl, rfl, rfl, .inl rfl⟩
      split
      · refine Quiet.inv (henable.trans ?_) hw
        exact ⟨rfl, rfl, rfl, rfl, rfl, rfl, .inl rfl⟩
      · exact (henable.trans (Quiet.controlNotComplete _ env)).inv hw
    · split
      · exact (Quiet.controlNotComplete w env).inv hw
      · refine Quiet.inv ?_ hw
        exact ⟨rfl, rfl, rfl, rfl, rfl, rfl, .inl rfl⟩
    · exact hw
    · exact hw
  · exact hw

theorem runTick (hw : VfrtInv w) (env : TickEnv) : VfrtInv (w.runTick env) := by
  unfold AmecWof.runTick
  split
  · split
    · exact (Quiet.vfrtNotComplete w env).inv hw
    · have hrecorded : VfrtInv { w with currentTimeoutRecorded := false } := by
        refine Quiet.inv ?_ hw
        exact ⟨rfl, rfl, rfl, rfl, rfl, rfl, .inl rfl⟩
      have hmain := hrecorded.wofMain env
      refine Quiet.inv ?_ hmain
      exact ⟨rfl, rfl, rfl, rfl, rfl, rfl, .inl rfl⟩
  · exact hw

theorem callWofMain (hw : VfrtInv w) (env : TickEnv) : VfrtInv (w.callWofMain env) := by
  have hbegin := (Quiet.beginTick w env).inv hw
  unfold AmecWof.callWofMain
  dsimp only
  generalize w.beginTick env = w₁ at hbegin
  split
  · split
    · refine Quiet.inv ((Quiet.setDisabled w₁ env.off wofRcPgpeWofDisabled).trans ?_) hbegin
      exact ⟨rfl, rfl, rfl, rfl, rfl, rfl, .inl rfl⟩
    · exact hbegin
  · split
    · split
      · exact hbegin
      · refine Quiet.inv ((Quiet.setDisabled w₁ env.off wofRcPstateProtocolOff).trans ?_) hbegin
        exact ⟨rfl, rfl, rfl, rfl, rfl, rfl, .inl rfl⟩
    · have hclear : Quiet w₁ (if w₁.pstateProtocolOff then
          { w₁.clearDisabled wofRcPstateProtocolOff with pstateProtocolOff := false } else w₁) := by
        split
        · refine (Quiet.clearDisabled w₁ wofRcPstateProtocolOff).trans ?_
          exact ⟨rfl, rfl, rfl, rfl, rfl, rfl, .inl rfl⟩
        · exact .refl w₁
      split
      · exact ((hclear.inv hbegin).initTick env).runTick env
      · exact hclear.inv hbegin

theorem scheduleVfrtRequest (hw : VfrtInv w) (vfrt off : ScheduleResult) : VfrtInv (w.scheduleVfrtRequest vfrt off) := by
  unfold AmecWof.scheduleVfrtRequest
  split
  · rename_i hneed
    have hscheduled : VfrtInv { w with vfrtState := .scheduled } := fun halone =>
      have hc := hw halone
      ⟨hc.copies, hc.flight, nofun, hc.copied⟩
    cases vfrt with
    | started =>
      intro halone
      have hc := hw halone
      exact ⟨hc.copies, fun _ => ⟨hc.settled hneed.1, rfl⟩, nofun, hc.copied⟩
    | skipped => exact hscheduled
    | failed =>
      refine (Quiet.setDisabled _ off _).inv ?_
      split
      · refine Quiet.inv ?_ hscheduled
        exact ⟨rfl, rfl, rfl, rfl, rfl, rfl, .inl rfl⟩
      · exact hscheduled
  · exact hw

theorem copyVfrtToSramCallback (hw : VfrtInv w) (hcopies : w.copies ≠ 0) : VfrtInv w.copyVfrtToSramCallback := by
  intro halone
  have hc := hw halone
  have hidle : w.vfrtBusy = false := Bool.eq_false_iff.2 fun hbusy => hcopies (hc.flight hbusy).1
  have hle := hc.copies
  refine ⟨?_, ?_, fun _ => ?_, fun c hmem => ?_⟩
  · show w.copies - 1 ≤ 1
    omega
  · intro hbusy
    exact (Bool.false_ne_true (hidle ▸ hbusy)).elim
  · show w.copies - 1 = 0
    omega
  · obtain rfl | hmem := List.mem_cons.1 hmem
    · rw [if_neg (by rw [hidle]; exact Bool.false_ne_true)]
      refine ⟨?_, nofun, rfl⟩
      -- the copy goes to the other buffer
      dsimp only [AmecWof.otherBuffer]
      split
      · rename_i hping
        rw [hping]
        exact nofun
      · assumption
    · exact hc.copied c hmem

theorem wofVfrtCallback (hw : VfrtInv w) (rc reqActiveQuads : BitVec 8) : VfrtInv (w.wofVfrtCallback rc reqActiveQuads) := by
  intro halone
  have hsends : (w.wofVfrtCallback rc reqActiveQuads).sends = w.sends := by
    unfold AmecWof.wofVfrtCallback
    dsimp only
    split_ifs <;> rfl
  have hc := hw (hsends ▸ halone)
  unfold AmecWof.wofVfrtCallback
  dsimp only
  split_ifs <;> exact ⟨hc.copies, nofun, nofun, hc.copied⟩

theorem next {w' : AmecWof} {e : WofEvent} (hw : VfrtInv w) (h : w.next e = some w') : VfrtInv w' := by
  cases e with
  | tick env => cases h; exact hw.callWofMain env
  | schedule vfrt off => cases h; exact hw.scheduleVfrtRequest vfrt off
  | copyDone =>
    dsimp only [AmecWof.next] at h
    split at h
    · rename_i hcopies
      cases h
      exact hw.copyVfrtToSramCallback hcopies
    · cases h
  | vfrtDone rc reqActiveQuads =>
    dsimp only [AmecWof.next] at h
    split at h
    · cases h; exact hw.wofVfrtCallback rc reqActiveQuads
    · cases h
  | controlDone rc =>
    dsimp only [AmecWof.next] at h
    split at h
    · cases h; exact (Quiet.controlCallback w rc).inv hw
    · cases h
  | set off bitMask => cases h; exact (Quiet.setDisabled w off bitMask).inv hw
  | clear bitMask => cases h; exact (Quiet.clearDisabled w bitMask).inv hw

end VfrtInv

theorem vfrtInv_start (header : WofHeader) (addr : BitVec 32) : VfrtInv (.start header addr) :=
  fun _ => ⟨Nat.zero_le 1, nofun, nofun, nofun⟩

/-- In a run in which every block copy is scheduled while nothing is outstanding, every copy is safe. -/
theorem run_vfrtSafe {header : WofHeader} {addr : BitVec 32} {w : AmecWof} {es : List WofEvent}
    (h : Run (StepOf AmecWof.next) (.start header addr) es w) (halone : ∀ s ∈ w.sends, s.Alone) : VfrtSafe w := by
  have hc := h.invariant (P := VfrtInv) (fun _ _ _ hw he => hw.next he) (vfrtInv_start header addr) halone
  exact ⟨hc.copied, fun hbusy => (hc.flight hbusy).2⟩

/-- A tick of an active OCC with pstates. -/
def activeTick : TickEnv :=
  { pstatesEnabled := true
    active := true
    ignorePgpeError := false
    maxVfrtChances := 16
    maxControlChances := 16
    charTest := false
    activeQuadUpdate := false
    reqActiveQuads := 0xFC
    ceffRatioVdd := 6000
    ceffRatioVdn := 0
    divideByZeroVdd := false
    divideByZeroVdn := false
    bceCreated := true
    bceScheduled := true
    on := .started
    off := .started }

/-- A header of tables for six quads. -/
def sixQuads : WofHeader :=
  { activeQuadsSize := 6, vdnStart := 2500, vdnStep := 1250, vdnSize := 8, vddStart := 0, vddStep := 500, vddSize := 21 }

/-- WOF gets enabled, and its first tick has a second VFRT copied. -/
def enableRun : List WofEvent :=
  [.clear wofRcOccWofDisabled, .tick activeTick, .copyDone, .schedule .started .started, .vfrtDone pgpeRcSuccess 0xFC,
    .tick activeTick, .controlDone pgpeRcSuccess, .tick activeTick, .copyDone, .schedule .started .started]

theorem run_vfrtSafe_enable : ∃ w, exec AmecWof.next (.start sixQuads 0x800C0000) enableRun = some w ∧
    w.copied.length = 2 ∧ w.vfrtBusy = true ∧ VfrtSafe w := by
  have hrun : exec AmecWof.next (.start sixQuads 0x800C0000) enableRun = some _ := rfl
  refine ⟨_, hrun, rfl, rfl, run_vfrtSafe (exec_eq_some_iff.1 hrun) ?_⟩
  unfold SendCall.Alone
  decide

/-- WOF is disabled and enabled again while the IPC request for its first VFRT is in flight. -/
def disableInFlightRun : List WofEvent :=
  [.clear wofRcOccWofDisabled, .tick activeTick, .copyDone, .schedule .started .started, .set .started wofRcModeChange,
    .clear wofRcModeChange, .tick activeTick, .copyDone]

/-- The next VFRT is copied to the buffer that the request in flight names. -/
theorem not_vfrtSafe_disableInFlight : ∃ w,
    exec AmecWof.next (.start sixQuads 0x800C0000) disableInFlightRun = some w ∧
    w.copied.head? = some ⟨.ping, none, some ⟨some .ping, 0⟩⟩ ∧ w.vfrtBusy = true ∧ ¬VfrtSafe w :=
  ⟨_, rfl, rfl, rfl, fun h => (h.copied _ List.mem_cons_self).notInFlight _ rfl rfl⟩

end Occ.Wof
