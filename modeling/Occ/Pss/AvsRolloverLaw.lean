/-
The roll-over of the Vdd current: over every run of the task with a roll-over point, what is published of each reading of the current, and
that the over-current warning it is corrected by is the one of its own read, as long as no reading is held over from a read before the last.
-/
import Occ.Pss.AvsReadLaw

namespace Occ.Pss

open Transition
open Cmdh (AvsbusConfig dataStoreAvsbusConfig storeVdd storeVdn)

/-! ## Readings -/

/-- What has been published to CURVDD, with the last one first. -/
def Avs.curvdd (s : Avs) : List Nat := s.updates.filterMap fun u => if u.1 = .curvdd then some u.2.toNat else none

/-- The Vdd current in a response, of which 0 is none. -/
def currentReading (w : BusWords) : Option (BitVec 16) := if Good w ∧ w.data ≠ 0 then some w.data else none

/-- The status in a response, of which 0xFFFF is none. -/
def statusReading (w : BusWords) : Option (BitVec 16) := if Good w ∧ w.data ≠ avsbusStatusReadError then some w.data else none

/-- IOUT_OC_WARNING -/
def overCurrent (status : BitVec 16) : Bool := status.setWidth 32 &&& avsbusStatusOverCurrentMask ≠ 0

/-- The state in which a tick finds the task. -/
def Avs.found (s : Avs) : AvsbusState := if s.safeStateRequested then .disabled else s.avsbusState

def Avs.ReadsCurrent (s : Avs) : Prop := s.found = .processCurrent ∧ s.config.vdd.monitoring = true

def Avs.ReadsStatus (s : Avs) : Prop := s.found = .processStatus ∧ s.config.vdd.monitoring = true

instance (s : Avs) : Decidable s.ReadsCurrent := inferInstanceAs (Decidable (_ ∧ _))
instance (s : Avs) : Decidable s.ReadsStatus := inferInstanceAs (Decidable (_ ∧ _))

/-! ## Runs -/

/-- The state, the reading of the last Vdd current read while its status has not been read and the next read has not been started, and the
over-current warning of the Vdd rail, which stays raised until it is cleared. -/
structure Rollover where
  avs : Avs
  due : Option (BitVec 16)
  warning : Bool

/-- A tick, before which the warning may be raised. -/
structure RolloverTick where
  tick : AvsTick
  raised : Bool

/-- The state after a tick: when it has started a read of the current, the warning has been cleared before. -/
def Rollover.next (shared : Bool) (p : Rollover) (e : RolloverTick) : Rollover :=
  let avs := amecUpdateAvsbusSensors shared e.tick p.avs
  let starts := avs.avsbusState = .processCurrent
  { avs := avs
    due :=
      if starts then none
      else if p.avs.ReadsCurrent then currentReading (e.tick.words .vdd)
      else if p.avs.ReadsStatus ∧ (statusReading (e.tick.words .vdd)).isSome then none
      else p.due
    warning := !starts && (p.warning || e.raised) }

/-- A Vdd status that is read shows the warning. -/
def ShowsWarning (p : Rollover) (e : RolloverTick) : Prop :=
  p.avs.ReadsStatus → (statusReading (e.tick.words .vdd)).all (fun status => overCurrent status == (p.warning || e.raised)) = true

instance (p : Rollover) (e : RolloverTick) : Decidable (ShowsWarning p e) := inferInstanceAs (Decidable (_ → _ = true))

/-- The steps of the task with a slave that shows the warning. -/
def Rollover.step (shared : Bool) (p : Rollover) (e : RolloverTick) : Option Rollover :=
  if ShowsWarning p e then some (p.next shared e) else none

/-- What is published of a reading. -/
def publishedOf (s : Avs) (warning : Bool) (reading : BitVec 16) : Nat :=
  if warning = true ∧ reading.toNat + s.config.vddCurrentRollover10mA.toNat ≤ s.config.vddMaxCurrent10mA.toNat then
    reading.toNat + s.config.vddCurrentRollover10mA.toNat
  else reading.toNat

/-- A tick publishes the reading that is due when it reads the status, and nothing else. -/
def RolloverLaw (shared : Bool) (p : Rollover) (e : RolloverTick) : Prop :=
  (p.next shared e).avs.curvdd =
    (if p.avs.ReadsStatus ∧ (statusReading (e.tick.words .vdd)).isSome then
      (p.due.map (publishedOf p.avs (p.warning || e.raised))).toList else []) ++ p.avs.curvdd

/-- When a tick reads the status, a reading that is held is the one that is due. -/
def RolloverOk (p : Rollover) (e : RolloverTick) : Prop :=
  p.avs.ReadsStatus → (statusReading (e.tick.words .vdd)).isSome → p.due = none → p.avs.checkVddCurrent10mAForRollover = 0

instance (shared : Bool) (p : Rollover) (e : RolloverTick) : Decidable (RolloverLaw shared p e) := inferInstanceAs (Decidable (_ = _))

instance (p : Rollover) (e : RolloverTick) : Decidable (RolloverOk p e) := inferInstanceAs (Decidable (_ → _ → _ → _))

/-! ## What a tick leaves alone -/

/-- What is published and held, and the roll-over point, stay as they are. -/
structure Quiet (s t : Avs) : Prop where
  curvdd : t.curvdd = s.curvdd
  check : t.checkVddCurrent10mAForRollover = s.checkVddCurrent10mAForRollover
  rollover : t.config.vddCurrentRollover10mA = s.config.vddCurrentRollover10mA
  max : t.config.vddMaxCurrent10mA = s.config.vddMaxCurrent10mA

section
variable {s t u : Avs} {type : Rail} {cmdtype : Quantity} {words : Rail → BusWords}

theorem Quiet.refl (s : Avs) : Quiet s s := ⟨rfl, rfl, rfl, rfl⟩

theorem Quiet.trans (h : Quiet s t) (h' : Quiet t u) : Quiet s u :=
  ⟨h'.curvdd.trans h.curvdd, h'.check.trans h.check, h'.rollover.trans h.rollover, h'.max.trans h.max⟩

theorem Quiet.ite {P : Prop} [Decidable P] (h : Quiet s t) (h' : Quiet s u) : Quiet s (if P then t else u) := by
  split_ifs
  · exact h
  · exact h'

theorem quiet_out (rail : Rail) (bus : BitVec 8) (word : BitVec 32) : Quiet s (s.out rail bus word) := ⟨rfl, rfl, rfl, rfl⟩

theorem quiet_goto (state : AvsbusState) : Quiet s (s.goto state) := ⟨rfl, rfl, rfl, rfl⟩

theorem quiet_sensorUpdate (sensor : AvsSensor) (h : sensor ≠ .curvdd) (sample : BitVec 16) : Quiet s (s.sensorUpdate sensor sample) := by
  refine ⟨?_, rfl, rfl, rfl⟩
  unfold Avs.curvdd Avs.sensorUpdate
  rw [List.filterMap_cons, if_neg h]

theorem quiet_read (w : BusWords) : Quiet s (avsbusRead type cmdtype w s).1 := by
  unfold avsbusRead
  split
  · exact .refl s
  · split
    · rename_i reading _
      have htemp : Quiet s (if cmdtype = .temperature then s.sensorUpdate .tempvdd (reading / 10) else s) :=
        (quiet_sensorUpdate .tempvdd nofun _).ite (.refl s)
      exact ⟨htemp.curvdd, htemp.check, htemp.rollover, htemp.max⟩
    · simp only []
      split <;> exact ⟨rfl, rfl, rfl, rfl⟩

theorem quiet_readStart : Quiet s (avsbusReadStart type cmdtype s) := (Quiet.refl s).ite (quiet_out _ _ _)

theorem quiet_initiate : Quiet s (initiateAvsbusReads cmdtype s) := by
  have hvdd : Quiet s (if s.config.vdd.monitoring then avsbusReadStart .vdd cmdtype s else s) := quiet_readStart.ite (.refl s)
  exact hvdd.trans (quiet_readStart.ite (.refl _))

theorem quiet_startTemperature : Quiet s (startTemperature s) := quiet_readStart.trans (quiet_goto _)

theorem quiet_startVoltages : Quiet s (startVoltages s) := quiet_initiate.trans (quiet_goto _)

theorem quiet_startCurrents : Quiet s (startCurrents s) := by
  have hclear : Quiet s (clearForRollover s) := (quiet_out _ _ _).ite (.refl s)
  exact (hclear.trans quiet_initiate).trans (quiet_goto _)

theorem quiet_startStatus : Quiet s (startStatus s) := by
  have hvdd : Quiet s (if s.config.vdd.monitoring ∧ s.config.vdd.bus ≠ 0xFF then s.out .vdd s.config.vdd.bus readStatusCommand else s) :=
    (quiet_out _ _ _).ite (.refl s)
  have hread : Quiet s (initiateAvsbusReadStatus s) := (Quiet.refl s).ite (hvdd.trans ((quiet_out _ _ _).ite (.refl _)))
  exact hread.trans (quiet_goto _)

theorem quiet_voltage : Quiet s (processAvsbusVoltage words s) := by
  have hrail : ∀ (s : Avs) (type : Rail) (sensor : AvsSensor), sensor ≠ .curvdd →
      Quiet s (if (avsbusRead type .voltage (words type) s).2 ≠ 0 then
        (avsbusRead type .voltage (words type) s).1.sensorUpdate sensor ((avsbusRead type .voltage (words type) s).2 * 10)
        else (avsbusRead type .voltage (words type) s).1) :=
    fun s type sensor h => (quiet_read (words type)).trans ((quiet_sensorUpdate sensor h _).ite (.refl _))
  have hvdd := (hrail s .vdd .voltvdd (by decide)).ite (P := s.config.vdd.monitoring = true) (.refl s)
  exact hvdd.trans ((hrail _ .vdn .voltvdn (by decide)).ite (.refl _))

theorem quiet_avsbusReadStatus (w : BusWords) : Quiet s (avsbusReadStatus type w s).1 := by
  unfold avsbusReadStatus
  split_ifs
  · exact .refl s
  · split <;> exact ⟨rfl, rfl, rfl, rfl⟩

theorem quiet_processVdnStatus (status : BitVec 16) : Quiet s (processVdnStatus status s) := by
  unfold processVdnStatus
  simp only []
  split_ifs <;> exact ⟨rfl, rfl, rfl, rfl⟩

/-! ## Readings of a tick -/

theorem avsbusRead_value (hsafe : s.safeStateRequested = false) (w : BusWords) :
    (avsbusRead type cmdtype w s).2 = if Good w then w.data else 0 := by
  by_cases hgood : Good w
  · rw [if_pos hgood]
    exact (avsbusRead_good hsafe hgood).1
  · rw [if_neg hgood]
    by_cases h : s.errorCount type cmdtype + 1 = maxReadAttempts
    · exact (avsbusRead_last hsafe hgood h).1
    · exact (avsbusRead_retry hsafe hgood h).1

theorem avsbusReadStatus_value (hsafe : s.safeStateRequested = false) (w : BusWords) :
    (avsbusReadStatus type w s).2 = if Good w then w.data else avsbusStatusReadError := by
  unfold avsbusReadStatus
  rw [if_neg (by rw [hsafe]; exact Bool.false_ne_true)]
  by_cases hgood : Good w
  · rw [if_pos hgood, checkResponse_good hgood]
  · obtain ⟨failure, hfailure⟩ := checkResponse_not_good hgood
    rw [if_neg hgood, hfailure]

/-- A good reading is held, in the place of what was held. -/
theorem processCurrent_spec (hsafe : s.safeStateRequested = false) (hvdd : s.config.vdd.monitoring = true)
    (hroll : s.config.vddCurrentRollover10mA ≠ 0xFFFF) :
    Quiet { s with checkVddCurrent10mAForRollover :=
      ((currentReading (words .vdd)).map (BitVec.setWidth 32)).getD s.checkVddCurrent10mAForRollover } (processAvsbusCurrent words s) := by
  have hread : Quiet s (avsbusRead .vdd .current (words .vdd) s).1 := quiet_read _
  have hvalue : (avsbusRead .vdd .current (words .vdd) s).2 = _ := avsbusRead_value hsafe (words .vdd)
  unfold processAvsbusCurrent
  rw [if_pos hvdd]
  generalize avsbusRead .vdd .current (words .vdd) s = r at hread hvalue ⊢
  obtain ⟨t, current⟩ := r
  have hheld : Quiet { s with checkVddCurrent10mAForRollover :=
      ((currentReading (words .vdd)).map (BitVec.setWidth 32)).getD s.checkVddCurrent10mAForRollover } (processVddCurrent current t) := by
    have hroll' : t.config.vddCurrentRollover10mA ≠ 0xFFFF := by rw [hread.rollover]; exact hroll
    unfold processVddCurrent currentReading
    by_cases h : Good (words .vdd) ∧ (words .vdd).data ≠ 0
    · rw [show current = (words .vdd).data from hvalue.trans (if_pos h.1), if_pos h.2, if_pos hroll', if_pos h]
      exact ⟨hread.curvdd, rfl, hread.rollover, hread.max⟩
    · have hzero : current = 0 := by
        refine hvalue.trans ?_
        split_ifs with hgood
        · exact not_not.1 fun hne => h ⟨hgood, hne⟩
        · rfl
      rw [if_neg (not_not.2 hzero), if_neg h]
      exact ⟨hread.curvdd, hread.check, hread.rollover, hread.max⟩
  exact hheld.trans (((quiet_read (words .vdn)).trans ((quiet_sensorUpdate .curvdn nofun _).ite (.refl _))).ite (.refl _))

/-- What a status makes of the reading that is held. -/
def rolled (s : Avs) (oc : Bool) : BitVec 32 :=
  if oc then
    if s.config.vddMaxCurrent10mA < s.checkVddCurrent10mAForRollover + s.config.vddCurrentRollover10mA then s.checkVddCurrent10mAForRollover
    else s.checkVddCurrent10mAForRollover + s.config.vddCurrentRollover10mA
  else s.checkVddCurrent10mAForRollover

/-- What is left and published when a status has been read. -/
structure Published (s t : Avs) (status : BitVec 16) : Prop where
  curvdd : t.curvdd =
    (if s.checkVddCurrent10mAForRollover ≠ 0 then [((rolled s (overCurrent status)).setWidth 16 : BitVec 16).toNat] else []) ++ s.curvdd
  check : t.checkVddCurrent10mAForRollover = 0
  rollover : t.config.vddCurrentRollover10mA = s.config.vddCurrentRollover10mA
  max : t.config.vddMaxCurrent10mA = s.config.vddMaxCurrent10mA

theorem processVddStatus_published (h : Quiet s t) (status : BitVec 16) : Published s (processVddStatus status t) status := by
  unfold processVddStatus
  by_cases hcheck : s.checkVddCurrent10mAForRollover = 0
  · simp only []
    rw [if_neg (not_not.2 (h.check.trans hcheck))]
    refine ⟨?_, h.check.trans hcheck, h.rollover, h.max⟩
    rw [if_neg (not_not.2 hcheck), List.nil_append]
    exact h.curvdd
  · simp only []
    rw [if_pos (fun hzero => hcheck (h.check.symm.trans hzero))]
    refine ⟨?_, rfl, h.rollover, h.max⟩
    rw [if_pos hcheck]
    show _ :: t.curvdd = _
    rw [h.curvdd, h.check, h.rollover, h.max]
    rfl

/-- A status publishes what is held. -/
theorem processStatus_spec (hsafe : s.safeStateRequested = false) (hvdd : s.config.vdd.monitoring = true) :
    match statusReading (words .vdd) with
    | some status => Published s (processAvsbusStatus words s) status
    | none => Quiet s (processAvsbusStatus words s) := by
  have hread : Quiet s (avsbusReadStatus .vdd (words .vdd) s).1 := quiet_avsbusReadStatus _
  have hvalue : (avsbusReadStatus .vdd (words .vdd) s).2 = _ := avsbusReadStatus_value hsafe (words .vdd)
  have hvdn : ∀ t, Quiet t (if t.config.vdn.monitoring then
      if (avsbusReadStatus .vdn (words .vdn) t).2 ≠ avsbusStatusReadError then
        processVdnStatus (avsbusReadStatus .vdn (words .vdn) t).2 (avsbusReadStatus .vdn (words .vdn) t).1
      else (avsbusReadStatus .vdn (words .vdn) t).1
      else t) := fun t => ((quiet_avsbusReadStatus _).trans ((quiet_processVdnStatus _).ite (.refl _))).ite (.refl t)
  unfold processAvsbusStatus
  rw [if_pos hvdd]
  generalize avsbusReadStatus .vdd (words .vdd) s = r at hread hvalue ⊢
  obtain ⟨t, status⟩ := r
  unfold statusReading
  by_cases h : Good (words .vdd) ∧ (words .vdd).data ≠ avsbusStatusReadError
  · rw [if_pos h]
    have hstatus : status = (words .vdd).data := hvalue.trans (if_pos h.1)
    simp only [hstatus, if_pos h.2]
    have hpub := processVddStatus_published hread (words .vdd).data
    have hquiet := hvdn (processVddStatus (words .vdd).data t)
    exact ⟨hquiet.curvdd.trans hpub.curvdd, hquiet.check.trans hpub.check, hquiet.rollover.trans hpub.rollover, hquiet.max.trans hpub.max⟩
  · rw [if_neg h]
    have hstatus : status = avsbusStatusReadError := by
      refine hvalue.trans ?_
      split_ifs with hgood
      · exact not_not.1 fun hne => h ⟨hgood, hne⟩
      · rfl
    simp only [hstatus, ne_eq, not_true_eq_false, if_false]
    exact hread.trans (hvdn t)

/-! ## A tick -/

theorem amecUpdate_of_safe (hsafe : s.safeStateRequested = true) (shared : Bool) (t : AvsTick) :
    amecUpdateAvsbusSensors shared t s = s.stopMonitoring.goto .disabled := by
  unfold amecUpdateAvsbusSensors
  rw [if_pos hsafe]
  rfl

theorem found_of_not_safe (hsafe : s.safeStateRequested = false) : s.found = s.avsbusState := by
  unfold Avs.found
  rw [hsafe]
  rfl

theorem not_safe_of_found (h : s.found ≠ .disabled) : s.safeStateRequested = false := by
  unfold Avs.found at h
  refine Bool.eq_false_iff.2 fun hsafe => ?_
  rw [if_pos hsafe] at h
  exact h rfl

theorem tick_current (h : s.ReadsCurrent) (hroll : s.config.vddCurrentRollover10mA ≠ 0xFFFF) (shared : Bool) (t : AvsTick) :
    Quiet { s with checkVddCurrent10mAForRollover :=
      ((currentReading (t.words .vdd)).map (BitVec.setWidth 32)).getD s.checkVddCurrent10mAForRollover }
      (amecUpdateAvsbusSensors shared t s) := by
  have hsafe := not_safe_of_found (by rw [h.1]; exact nofun)
  have hstate := (found_of_not_safe hsafe).symm.trans h.1
  have htick : amecUpdateAvsbusSensors shared t s = startStatus (processAvsbusCurrent t.words s) := by
    unfold amecUpdateAvsbusSensors
    rw [if_neg (by rw [hsafe]; exact Bool.false_ne_true)]
    simp only [hstate]
  rw [htick]
  exact (processCurrent_spec hsafe h.2 hroll).trans quiet_startStatus

theorem tick_status (h : s.ReadsStatus) (shared : Bool) (t : AvsTick) :
    match statusReading (t.words .vdd) with
    | some status => Published s (amecUpdateAvsbusSensors shared t s) status
    | none => Quiet s (amecUpdateAvsbusSensors shared t s) := by
  have hsafe := not_safe_of_found (by rw [h.1]; exact nofun)
  have hstate := (found_of_not_safe hsafe).symm.trans h.1
  have hread := @processStatus_spec s t.words hsafe h.2
  have hstart : Quiet (processAvsbusStatus t.words s) (amecUpdateAvsbusSensors shared t s) := by
    unfold amecUpdateAvsbusSensors
    rw [if_neg (by rw [hsafe]; exact Bool.false_ne_true)]
    simp only [hstate]
    exact quiet_startTemperature
  split at hread
  · exact ⟨hstart.curvdd.trans hread.curvdd, hstart.check.trans hread.check, hstart.rollover.trans hread.rollover,
      hstart.max.trans hread.max⟩
  · exact hread.trans hstart

theorem tick_quiet (hcurrent : ¬ s.ReadsCurrent) (hstatus : ¬ s.ReadsStatus) (shared : Bool) (t : AvsTick) :
    Quiet s (amecUpdateAvsbusSensors shared t s) := by
  cases hsafe : s.safeStateRequested with
  | true =>
    rw [amecUpdate_of_safe hsafe]
    exact ⟨rfl, rfl, rfl, rfl⟩
  | false =>
    have hfound := found_of_not_safe hsafe
    unfold amecUpdateAvsbusSensors
    rw [if_neg (by rw [hsafe]; exact Bool.false_ne_true)]
    simp only []
    split
    · exact (quiet_startTemperature.ite (quiet_startVoltages.ite ((Quiet.refl s).ite quiet_startTemperature))).ite
        (quiet_startCurrents.ite quiet_startTemperature)
    · exact (quiet_read _).trans (quiet_startVoltages.ite (quiet_startCurrents.ite quiet_startStatus))
    · exact quiet_voltage.trans quiet_startCurrents
    · rename_i hstate
      have hvdd : s.config.vdd.monitoring ≠ true := fun hvdd => hcurrent ⟨hfound.trans hstate, hvdd⟩
      have hread : Quiet s (processAvsbusCurrent t.words s) := by
        unfold processAvsbusCurrent
        rw [if_neg hvdd]
        exact ((quiet_read (t.words .vdn)).trans ((quiet_sensorUpdate .curvdn nofun _).ite (.refl _))).ite (.refl s)
      exact hread.trans quiet_startStatus
    · rename_i hstate
      have hvdd : s.config.vdd.monitoring ≠ true := fun hvdd => hstatus ⟨hfound.trans hstate, hvdd⟩
      have hread : Quiet s (processAvsbusStatus t.words s) := by
        unfold processAvsbusStatus
        rw [if_neg hvdd]
        exact ((quiet_avsbusReadStatus _).trans ((quiet_processVdnStatus _).ite (.refl _))).ite (.refl s)
      exact hread.trans quiet_startTemperature
    · exact .refl s

end

/-! ## Law -/

/-- A reading that is due is held, and the roll-over point and the maximum are those of a packet. -/
structure RolloverInv (p : Rollover) : Prop where
  configured : p.avs.config.vddCurrentRollover10mA ≠ 0xFFFF
  rollover : p.avs.config.vddCurrentRollover10mA.toNat < 2 ^ 16
  max : p.avs.config.vddMaxCurrent10mA.toNat < 2 ^ 16
  held : ∀ reading, p.due = some reading → reading ≠ 0 ∧ p.avs.checkVddCurrent10mAForRollover = reading.setWidth 32

section
variable {shared : Bool} {p q : Rollover} {e : RolloverTick}

theorem currentReading_ne_zero {w : BusWords} {reading : BitVec 16} (h : currentReading w = some reading) : reading ≠ 0 := by
  unfold currentReading at h
  split_ifs at h with hgood
  cases h
  exact hgood.2

theorem step_cases (h : StepOf (Rollover.step shared) p e q) : ShowsWarning p e ∧ q = p.next shared e := by
  unfold StepOf Rollover.step at h
  split_ifs at h with hshows
  exact ⟨hshows, (Option.some.inj h).symm⟩

/-- What is published of the reading that is due. -/
theorem RolloverInv.rolled_toNat (hinv : RolloverInv p) {reading : BitVec 16} (hdue : p.due = some reading) (warning : Bool) :
    ((rolled p.avs warning).setWidth 16 : BitVec 16).toNat = publishedOf p.avs warning reading := by
  have hmax := hinv.max
  have hroll := hinv.rollover
  have hlt := reading.isLt
  have hcheck : p.avs.checkVddCurrent10mAForRollover.toNat = reading.toNat := by
    rw [(hinv.held reading hdue).2, BitVec.toNat_setWidth_of_le (by decide)]
  have hsum : (p.avs.checkVddCurrent10mAForRollover + p.avs.config.vddCurrentRollover10mA).toNat =
      reading.toNat + p.avs.config.vddCurrentRollover10mA.toNat := by
    rw [BitVec.toNat_add, hcheck, Nat.mod_eq_of_lt (by omega)]
  have hover_iff : p.avs.config.vddMaxCurrent10mA < p.avs.checkVddCurrent10mAForRollover + p.avs.config.vddCurrentRollover10mA ↔
      p.avs.config.vddMaxCurrent10mA.toNat < reading.toNat + p.avs.config.vddCurrentRollover10mA.toNat := by
    rw [BitVec.lt_def, hsum]
  unfold rolled publishedOf
  cases warning with
  | false =>
    rw [if_neg Bool.false_ne_true, if_neg fun h => Bool.false_ne_true h.1, BitVec.toNat_setWidth, hcheck]
    exact Nat.mod_eq_of_lt hlt
  | true =>
    rw [if_pos rfl]
    by_cases hle : reading.toNat + p.avs.config.vddCurrentRollover10mA.toNat ≤ p.avs.config.vddMaxCurrent10mA.toNat
    · rw [if_neg fun hover => absurd (hover_iff.1 hover) (by omega), if_pos ⟨rfl, hle⟩, BitVec.toNat_setWidth, hsum]
      exact Nat.mod_eq_of_lt (by omega)
    · rw [if_pos (hover_iff.2 (by omega)), if_neg fun h => hle h.2, BitVec.toNat_setWidth, hcheck]
      exact Nat.mod_eq_of_lt hlt

/-- A tick meets the law exactly when a reading that is held at a status is the one that is due. -/
theorem rolloverLaw_iff (hinv : RolloverInv p) (hstep : StepOf (Rollover.step shared) p e q) : RolloverLaw shared p e ↔ RolloverOk p e := by
  unfold RolloverLaw RolloverOk
  by_cases hstatus : p.avs.ReadsStatus
  · have htick := tick_status hstatus shared e.tick
    cases hread : statusReading (e.tick.words .vdd) with
    | none =>
      rw [hread] at htick
      rw [if_neg fun h => Bool.false_ne_true h.2]
      exact iff_of_true htick.curvdd fun _ h => absurd h Bool.false_ne_true
    | some status =>
      rw [hread] at htick
      have hcurvdd : (p.next shared e).avs.curvdd = _ := htick.curvdd
      have hshows := (step_cases hstep).1 hstatus
      rw [hread] at hshows
      rw [if_pos ⟨hstatus, rfl⟩, hcurvdd, ← eq_of_beq hshows]
      cases hdue : p.due with
      | none =>
        by_cases hcheck : p.avs.checkVddCurrent10mAForRollover = 0
        · rw [if_neg (not_not.2 hcheck)]
          exact iff_of_true rfl fun _ _ _ => hcheck
        · rw [if_pos hcheck]
          refine iff_of_false (fun h => ?_) fun h => hcheck (h hstatus rfl rfl)
          exact absurd (congrArg List.length h) (by simp)
      | some reading =>
        obtain ⟨hne, hheld⟩ := hinv.held reading hdue
        have hcheck : p.avs.checkVddCurrent10mAForRollover ≠ 0 := by
          rw [hheld]
          intro hzero
          refine hne (BitVec.toNat_inj.1 ?_)
          have hnat := congrArg BitVec.toNat hzero
          rw [BitVec.toNat_setWidth_of_le (by decide)] at hnat
          exact hnat
        rw [if_pos hcheck, hinv.rolled_toNat hdue]
        exact iff_of_true rfl fun _ _ h => nomatch h
  · rw [if_neg fun h => hstatus h.1]
    refine iff_of_true ?_ fun h => absurd h hstatus
    by_cases hcurrent : p.avs.ReadsCurrent
    · exact (tick_current hcurrent hinv.configured shared e.tick).curvdd
    · exact (tick_quiet hcurrent hstatus shared e.tick).curvdd

theorem RolloverInv.step (hinv : RolloverInv p) (hstep : StepOf (Rollover.step shared) p e q) : RolloverInv q := by
  obtain ⟨-, rfl⟩ := step_cases hstep
  have hfixed : (p.next shared e).avs.config.vddCurrentRollover10mA = p.avs.config.vddCurrentRollover10mA ∧
      (p.next shared e).avs.config.vddMaxCurrent10mA = p.avs.config.vddMaxCurrent10mA := by
    by_cases hcurrent : p.avs.ReadsCurrent
    · have htick := tick_current hcurrent hinv.configured shared e.tick
      exact ⟨htick.rollover, htick.max⟩
    · by_cases hstatus : p.avs.ReadsStatus
      · have htick := tick_status hstatus shared e.tick
        split at htick
        · exact ⟨htick.rollover, htick.max⟩
        · exact ⟨htick.rollover, htick.max⟩
      · have htick := tick_quiet hcurrent hstatus shared e.tick
        exact ⟨htick.rollover, htick.max⟩
  refine ⟨by rw [hfixed.1]; exact hinv.configured, by rw [hfixed.1]; exact hinv.rollover, by rw [hfixed.2]; exact hinv.max, ?_⟩
  intro reading hdue
  have hdue' : (if (p.next shared e).avs.avsbusState = .processCurrent then none
      else if p.avs.ReadsCurrent then currentReading (e.tick.words .vdd)
      else if p.avs.ReadsStatus ∧ (statusReading (e.tick.words .vdd)).isSome then none
      else p.due) = some reading := hdue
  split_ifs at hdue' with _ hcurrent hstatus
  · refine ⟨currentReading_ne_zero hdue', ?_⟩
    rw [show (p.next shared e).avs.checkVddCurrent10mAForRollover = _ from (tick_current hcurrent hinv.configured shared e.tick).check, hdue']
    rfl
  · obtain ⟨hne, hheld⟩ := hinv.held reading hdue'
    refine ⟨hne, Eq.trans ?_ hheld⟩
    by_cases hread : p.avs.ReadsStatus
    · have htick := tick_status hread shared e.tick
      cases hvalue : statusReading (e.tick.words .vdd) with
      | none =>
        rw [hvalue] at htick
        exact htick.check
      | some status => exact absurd ⟨hread, by rw [hvalue]; rfl⟩ hstatus
    · exact (tick_quiet hcurrent hread shared e.tick).check

end

/-- The task after a packet, before its first tick. -/
def Rollover.start (shared : Bool) (cmd : AvsbusConfig) (wofDisabled : BitVec 32) : Rollover :=
  ⟨storeAvsbusConfig shared cmd (.init wofDisabled), none, false⟩

theorem quiet_avsbusInit {s : Avs} : Quiet s (avsbusInit s) := by
  have hbus : ∀ (bus : BitVec 8) (s : Avs), Quiet s (avsbusInitBus bus s) := by
    intro bus s
    unfold avsbusInitBus
    exact ((quiet_out _ _ _).trans (quiet_out _ _ _)).ite (((quiet_out _ _ _).trans (quiet_out _ _ _)).ite (.refl s))
  exact (hbus 0 s).trans (hbus 1 _)

/-- The roll-over point and the maximum come from 16 bits of a packet. -/
theorem dataStoreAvsbusConfig_small (shared : Bool) (s : Cmdh.Avsbus) (wofDisabled : BitVec 32) (cmd : AvsbusConfig)
    (hroll : s.vddCurrentRollover10mA.toNat < 2 ^ 16) (hmax : s.vddMaxCurrent10mA.toNat < 2 ^ 16) :
    (dataStoreAvsbusConfig shared s wofDisabled cmd).1.1.vddCurrentRollover10mA.toNat < 2 ^ 16 ∧
      (dataStoreAvsbusConfig shared s wofDisabled cmd).1.1.vddMaxCurrent10mA.toNat < 2 ^ 16 := by
  have hvdd : (storeVdd s cmd).1.vddCurrentRollover10mA = s.vddCurrentRollover10mA ∧
      (storeVdd s cmd).1.vddMaxCurrent10mA = s.vddMaxCurrent10mA := by
    unfold storeVdd
    split_ifs <;> exact ⟨rfl, rfl⟩
  have hvdn : ∀ s : Cmdh.Avsbus, (storeVdn shared s cmd).1.vddCurrentRollover10mA = s.vddCurrentRollover10mA ∧
      (storeVdn shared s cmd).1.vddMaxCurrent10mA = s.vddMaxCurrent10mA := by
    intro s
    unfold storeVdn
    split_ifs <;> exact ⟨rfl, rfl⟩
  have hfield : ∀ x : BitVec 16, (if cmd.version = 0x02 then x.setWidth 32 else (0xFFFF : BitVec 32)).toNat < 2 ^ 16 := by
    intro x
    split_ifs
    · rw [BitVec.toNat_setWidth_of_le (by decide)]
      exact x.isLt
    · decide
  unfold dataStoreAvsbusConfig
  simp only []
  by_cases hversion : (cmd.version = 0x01 ∧ cmd.dataLength.toNat = 10) ∨ (cmd.version = 0x02 ∧ cmd.dataLength.toNat = 14)
  · rw [if_pos hversion]
    split
    · simp only []
      rw [(hvdn _).1, (hvdn _).2, hvdd.1, hvdd.2]
      exact ⟨hroll, hmax⟩
    · exact ⟨hfield _, hfield _⟩
  · rw [if_neg hversion, if_pos (Or.inl rfl)]
    exact ⟨hroll, hmax⟩

theorem rolloverInv_start (shared : Bool) (cmd : AvsbusConfig) (wofDisabled : BitVec 32)
    (h : (Rollover.start shared cmd wofDisabled).avs.config.vddCurrentRollover10mA ≠ 0xFFFF) :
    RolloverInv (Rollover.start shared cmd wofDisabled) := by
  have hinit : Quiet ({ Avs.init wofDisabled with
      config := (dataStoreAvsbusConfig shared (Avs.init wofDisabled).config wofDisabled cmd).1.1
      wofDisabled := (dataStoreAvsbusConfig shared (Avs.init wofDisabled).config wofDisabled cmd).1.2 })
      (storeAvsbusConfig shared cmd (.init wofDisabled)) := by
    unfold storeAvsbusConfig
    simp only []
    split
    · exact quiet_avsbusInit
    · exact .refl _
  have hnone : (0xFFFF : BitVec 32).toNat < 2 ^ 16 := by decide
  have hsmall := dataStoreAvsbusConfig_small shared (Avs.init wofDisabled).config wofDisabled cmd hnone hnone
  refine ⟨h, ?_, ?_, nofun⟩
  · rw [show (Rollover.start shared cmd wofDisabled).avs.config.vddCurrentRollover10mA = _ from hinit.rollover]
    exact hsmall.1
  · rw [show (Rollover.start shared cmd wofDisabled).avs.config.vddMaxCurrent10mA = _ from hinit.max]
    exact hsmall.2

/-- In every run with a roll-over point, each reading of the Vdd current is published once at most, corrected exactly when the warning was
raised since it was cleared for this reading and the maximum allows it, if and only if no tick that reads a status holds a reading that was
made before the last one. -/
theorem rolloverLaw_run (shared : Bool) (cmd : AvsbusConfig) (wofDisabled : BitVec 32)
    (h : (Rollover.start shared cmd wofDisabled).avs.config.vddCurrentRollover10mA ≠ 0xFFFF) (es : List RolloverTick) (q : Rollover) :
    Run (Guarded (RolloverLaw shared) (StepOf (Rollover.step shared))) (.start shared cmd wofDisabled) es q ↔
      Run (Guarded RolloverOk (StepOf (Rollover.step shared))) (.start shared cmd wofDisabled) es q :=
  run_guarded_congr (fun _ _ _ hinv hstep => hinv.step hstep) (fun _ _ _ hinv hstep => rolloverLaw_iff hinv hstep)
    (rolloverInv_start shared cmd wofDisabled h)

/-! ## Traces -/

/-- A good response with these data. -/
def goodWords (data : BitVec 16) : BusWords := ⟨0, withCrc (data.setWidth 32 <<< 8 ||| 0xF8)⟩

/-- Vdd on bus 0 and Vdn on bus 1, with a roll-over point of 200 A and a maximum of 400 A. -/
def rolloverConfig : AvsbusConfig := ⟨14, 0x02, 0, 0, 1, 0, 0, 20000, 40000⟩

/-- A tick with these words for Vdd and a good response for Vdn. -/
def vddTick (vdd : BusWords) (raised : Bool) : RolloverTick :=
  ⟨⟨1, 0, fun rail => match rail with
    | .vdd => vdd
    | .vdn => goodWords 900⟩, raised⟩

/-- Voltages, a current of 10 A that rolls over, and the status with the warning. -/
def rolledTicks : List RolloverTick :=
  [vddTick (goodWords 900) false, vddTick (goodWords 900) false, vddTick (goodWords 1000) true, vddTick (goodWords 0x4000) false]

theorem rolloverLaw_run_rolled :
    let q := (exec (Rollover.step false) (.start false rolloverConfig 0) rolledTicks).getD (.start false rolloverConfig 0)
    q.avs.curvdd = [21000] ∧ Run (Guarded (RolloverLaw false) (StepOf (Rollover.step false))) (.start false rolloverConfig 0) rolledTicks q := by
  refine ⟨by decide, (rolloverLaw_run false rolloverConfig 0 (by decide) rolledTicks _).2 (run_guarded_of_exec ?_)⟩
  rfl

/-- A current of 10 A whose status cannot be read, then a current that cannot be read. -/
def heldTicks : List RolloverTick :=
  [vddTick (goodWords 900) false, vddTick (goodWords 900) false, vddTick (goodWords 1000) false, vddTick ⟨0x04000000, 0⟩ false,
    vddTick (goodWords 900) false, vddTick (goodWords 900) false, vddTick ⟨0x04000000, 0⟩ false]

/-- The next status then adds the roll-over point to the current of the read before. -/
theorem held_reading_rolls_over : ∃ es p e, Run (StepOf (Rollover.step false)) (.start false rolloverConfig 0) es p ∧
    ShowsWarning p e ∧ p.due = none ∧ (p.next false e).avs.curvdd = 21000 :: p.avs.curvdd ∧ ¬ RolloverLaw false p e := by
  refine ⟨heldTicks, _, vddTick (goodWords 0x4000) true,
    run_of_exec_isSome (d := .start false rolloverConfig 0) (by decide), ?_, ?_, ?_, ?_⟩
  · decide
  · decide
  · decide
  · decide

end Occ.Pss
