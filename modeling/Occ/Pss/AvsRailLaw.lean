/-
The rails of the AVS bus: over every run of packets and ticks, which rails are monitored on which bus, for which of them commands are
written, and that what a tick reads from a bus is the answer to the last command written to it, as long as no packet comes between a command
and its answer and Vdd is monitored whenever it is commanded regardless.
-/
import Occ.Pss.AvsRolloverLaw

namespace Occ.Pss

open Transition
open Cmdh (Avsbus AvsbusConfig DataErrl dataStoreAvsbusConfig storeVdd storeVdn wofRcInvalidVddVdn)

/-! ## Phases of a tick -/

/-- What a tick starts from: in the safe state the task is disabled. -/
def Avs.entered (s : Avs) : Avs := if s.safeStateRequested then s.stopMonitoring.goto .disabled else s

/-- What a tick reads. -/
def processTick (t : AvsTick) (s : Avs) : Avs :=
  match s.avsbusState with
  | .processTemperature => (avsbusRead .vdd .temperature (t.words .vdd) s).1
  | .processVoltage => processAvsbusVoltage t.words s
  | .processCurrent => processAvsbusCurrent t.words s
  | .processStatus => processAvsbusStatus t.words s
  | .initiateRead | .disabled => s

/-- What a tick starts to read, after what it has read in this state. -/
def startTick (shared : Bool) (t : AvsTick) (state : AvsbusState) (s : Avs) : Avs :=
  match state with
  | .initiateRead =>
    if ¬shared then
      if t.slvState = 0 ∨ t.slvState = 4 then startTemperature s
      else if t.slvState = 1 ∨ t.slvState = 5 then startVoltages s
      else if t.slvState = 2 ∨ t.slvState = 3 ∨ t.slvState = 6 ∨ t.slvState = 7 then s
      else startTemperature s
    else if t.internalFlags &&& intFlagEnableVddCurrentRead ≠ 0 then startCurrents s
    else startTemperature s
  | .processTemperature =>
    if ¬shared then startVoltages s
    else if t.internalFlags &&& intFlagEnableVddCurrentRead ≠ 0 then startCurrents s
    else startStatus s
  | .processVoltage => startCurrents s
  | .processCurrent => startStatus s
  | .processStatus => startTemperature s
  | .disabled => s

theorem amecUpdate_phases (shared : Bool) (t : AvsTick) (s : Avs) :
    amecUpdateAvsbusSensors shared t s = startTick shared t s.entered.avsbusState (processTick t s.entered) := by
  unfold amecUpdateAvsbusSensors Avs.entered startTick processTick
  generalize (if s.safeStateRequested then s.stopMonitoring.goto .disabled else s) = s
  simp only []
  cases s.avsbusState <;> rfl

/-! ## Runs -/

/-- The state, whether the last packet was rejected, and whether one has come since the last tick. -/
structure Rails where
  avs : Avs
  rejected : Bool
  stored : Bool

/-- A packet, a tick, or a request of the safe state by another task. -/
inductive RailEvent
  | packet (cmd : AvsbusConfig)
  | tick (t : AvsTick)
  | reset

def Rails.next (shared : Bool) (p : Rails) : RailEvent → Rails
  | .packet cmd =>
    { avs := storeAvsbusConfig shared cmd p.avs
      rejected := (dataStoreAvsbusConfig shared p.avs.config p.avs.wofDisabled cmd).2.isSome
      stored := true }
  | .tick t => { p with avs := amecUpdateAvsbusSensors shared t p.avs, stored := false }
  | .reset => { p with avs.safeStateRequested := true }

def Rails.step (shared : Bool) (p : Rails) (e : RailEvent) : Option Rails := some (p.next shared e)

def Rails.start (wofDisabled : BitVec 32) : Rails := ⟨.init wofDisabled, false, false⟩

/-! ## Law -/

/-- The last word written to a bus. -/
def Avs.lastWord (s : Avs) (bus : BitVec 8) : Option (BitVec 32) := (s.written.find? fun w => w.bus = bus).map BusWrite.word

/-- The command whose answer is read for a rail, when one is. -/
def Avs.awaited (s : Avs) (rail : Rail) : Option (BitVec 32) :=
  match s.avsbusState with
  | .processTemperature => if rail = .vdd then some (readCommand (s.data rail).rail .temperature) else none
  | .processVoltage => if (s.data rail).monitoring then some (readCommand (s.data rail).rail .voltage) else none
  | .processCurrent => if (s.data rail).monitoring then some (readCommand (s.data rail).rail .current) else none
  | .processStatus => if (s.data rail).monitoring then some readStatusCommand else none
  | .initiateRead | .disabled => none

/-- Every answer that is read is the one to the last command on its bus. -/
def Avs.Answered (s : Avs) : Prop := ∀ rail command, s.awaited rail = some command → s.lastWord (s.data rail).bus = some command

/-- From one state to another, commands are written for rails that were monitored in the first. -/
def Commands (s t : Avs) : Prop := ∃ ws, t.written = ws ++ s.written ∧ ∀ w ∈ ws, (s.data w.rail).monitoring = true

/-- The rails have a bus each, and after a rejected packet none is monitored and WOF is disabled. -/
structure RailSafe (p : Rails) : Prop where
  apart : p.avs.config.vdd.monitoring = true → p.avs.config.vdn.monitoring = true → p.avs.config.vdd.bus ≠ p.avs.config.vdn.bus
  unmonitored : p.rejected = true → p.avs.config.vdd.monitoring = false ∧ p.avs.config.vdn.monitoring = false
  wofDisabled : p.rejected = true → p.avs.wofDisabled &&& wofRcInvalidVddVdn = wofRcInvalidVddVdn

/-- What a step keeps, writes and reads. -/
def RailLaw (shared : Bool) (p : Rails) (e : RailEvent) : Prop :=
  RailSafe (p.next shared e) ∧
    match e with
    | .packet cmd => ∃ ws, (storeAvsbusConfig shared cmd p.avs).written = ws ++ p.avs.written ∧
        ∀ w ∈ ws, ((storeAvsbusConfig shared cmd p.avs).data w.rail).monitoring = true
    | .tick t => p.avs.entered.Answered ∧ Commands p.avs.entered (processTick t p.avs.entered) ∧
        Commands (processTick t p.avs.entered) (amecUpdateAvsbusSensors shared t p.avs)
    | .reset => True

/-- What a tick in this state reads from the bus of each rail that is monitored. -/
def AvsbusState.reads : AvsbusState → Option Quantity
  | .processTemperature => some .temperature
  | .processVoltage => some .voltage
  | .processCurrent => some .current
  | .processStatus | .initiateRead | .disabled => none

/-- The tick starts the currents, after it has cleared the Vdd warning for the roll-over. -/
def Clears (shared : Bool) (t : AvsTick) (s : Avs) : Prop :=
  s.config.vddCurrentRollover10mA ≠ 0xFFFF ∧
    match s.avsbusState with
    | .initiateRead | .processTemperature => shared = true ∧ t.internalFlags &&& intFlagEnableVddCurrentRead ≠ 0
    | .processVoltage => True
    | .processCurrent | .processStatus | .disabled => False

/-- The tick reads the Vdd temperature, or starts to. -/
def ReadsTemperature (shared : Bool) (t : AvsTick) (s : Avs) : Prop :=
  match s.avsbusState with
  | .initiateRead =>
    if shared then t.internalFlags &&& intFlagEnableVddCurrentRead = 0
    else ¬(t.slvState = 1 ∨ t.slvState = 5 ∨ t.slvState = 2 ∨ t.slvState = 3 ∨ t.slvState = 6 ∨ t.slvState = 7)
  | .processTemperature | .processStatus => True
  | .processVoltage | .processCurrent | .disabled => False

/-- No packet has come between a command and its answer, Vdd is monitored when its temperature is read or its warning is cleared, and no read
before that clear is the third in a row that fails. -/
structure TickOk (shared stored : Bool) (t : AvsTick) (s : Avs) : Prop where
  fresh : ∀ rail, s.awaited rail ≠ none → stored = false
  temperature : ReadsTemperature shared t s → s.config.vdd.monitoring = true
  clears : Clears shared t s → s.config.vdd.monitoring = true ∧ ∀ cmdtype ∈ s.avsbusState.reads, ∀ type,
    (s.data type).monitoring = true → ¬ Good (t.words type) → s.errorCount type cmdtype + 1 ≠ maxReadAttempts

def RailOk (shared : Bool) (p : Rails) : RailEvent → Prop
  | .tick t => TickOk shared p.stored t p.avs.entered
  | .packet _ | .reset => True

/-! ## What the phases write -/

/-- A phase writes for monitored rails, and keeps the configuration unless it stops the monitoring. -/
structure BusPhase (s t : Avs) : Prop where
  commands : Commands s t
  config : t.config = s.config ∨ t.config = s.stopMonitoring.config
  wofDisabled : t.wofDisabled = s.wofDisabled

section
variable {s t u : Avs} {type : Rail} {cmdtype : Quantity} {words : Rail → BusWords}

theorem data_congr (h : t.config = s.config) (rail : Rail) : t.data rail = s.data rail := by
  unfold Avs.data
  rw [h]

theorem BusPhase.monitored (h : BusPhase s t) {rail : Rail} (hmon : (t.data rail).monitoring = true) : (s.data rail).monitoring = true := by
  rcases h.config with hconfig | hconfig
  · rw [← data_congr hconfig]
    exact hmon
  · rw [show t.data rail = s.stopMonitoring.data rail from data_congr hconfig rail] at hmon
    cases rail <;> exact absurd hmon Bool.false_ne_true

theorem BusPhase.refl (s : Avs) : BusPhase s s := ⟨⟨[], rfl, nofun⟩, .inl rfl, rfl⟩

theorem BusPhase.trans (h : BusPhase s t) (h' : BusPhase t u) : BusPhase s u := by
  refine ⟨?_, ?_, h'.wofDisabled.trans h.wofDisabled⟩
  · obtain ⟨ws, hws, hall⟩ := h.commands
    obtain ⟨ws', hws', hall'⟩ := h'.commands
    refine ⟨ws' ++ ws, by rw [hws', hws, List.append_assoc], fun w hw => ?_⟩
    rcases List.mem_append.1 hw with hmem | hmem
    · exact h.monitored (hall' w hmem)
    · exact hall w hmem
  · have hstop : ∀ {x y : Avs}, x.config = y.config → x.stopMonitoring.config = y.stopMonitoring.config := by
      intro x y hxy
      unfold Avs.stopMonitoring
      rw [hxy]
    rcases h.config with hc | hc <;> rcases h'.config with hc' | hc'
    · exact .inl (hc'.trans hc)
    · exact .inr (hc'.trans (hstop hc))
    · exact .inr (hc'.trans hc)
    · exact .inr (hc'.trans (by unfold Avs.stopMonitoring; rw [hc]; rfl))

theorem BusPhase.ite {P : Prop} [Decidable P] (h : P → BusPhase s t) (h' : ¬P → BusPhase s u) : BusPhase s (if P then t else u) := by
  split_ifs with hP
  · exact h hP
  · exact h' hP

theorem phase_silent (hwritten : t.written = s.written) (hconfig : t.config = s.config) (hwof : t.wofDisabled = s.wofDisabled) : BusPhase s t :=
  ⟨⟨[], hwritten, nofun⟩, .inl hconfig, hwof⟩

theorem phase_out (type : Rail) (h : (s.data type).monitoring = true) (bus : BitVec 8) (word : BitVec 32) : BusPhase s (s.out type bus word) := by
  refine ⟨⟨[⟨type, bus, word⟩], rfl, fun w hw => ?_⟩, .inl rfl, rfl⟩
  rw [List.mem_singleton.1 hw]
  exact h

theorem BusPhase.out (h : BusPhase s t) (type : Rail) (hmon : (t.data type).monitoring = true) (bus : BitVec 8) (word : BitVec 32) :
    BusPhase s (t.out type bus word) := h.trans (phase_out type hmon bus word)

theorem phase_read (type : Rail) (h : (s.data type).monitoring = true) (w : BusWords) : BusPhase s (avsbusRead type cmdtype w s).1 := by
  unfold avsbusRead
  split
  · exact .refl s
  · split
    · rename_i reading _
      have htemp : BusPhase s (if cmdtype = .temperature then s.sensorUpdate .tempvdd (reading / 10) else s) :=
        .ite (fun _ => phase_silent rfl rfl rfl) fun _ => .refl s
      exact htemp.trans (phase_silent rfl rfl rfl)
    · simp only []
      split
      · exact ⟨⟨[], rfl, nofun⟩, .inr rfl, rfl⟩
      · have hcount : BusPhase s (s.countError type cmdtype (s.errorCount type cmdtype + 1)) := phase_silent rfl rfl rfl
        exact hcount.trans (phase_out type (by cases type <;> exact h) _ _)

theorem phase_readStatus (type : Rail) (h : (s.data type).monitoring = true) (w : BusWords) : BusPhase s (avsbusReadStatus type w s).1 := by
  unfold avsbusReadStatus
  split
  · exact .refl s
  · split
    · exact phase_silent rfl rfl rfl
    · have hcount : BusPhase s { s with statusErrorCount := Function.update s.statusErrorCount type (s.statusErrorCount type + 1) } :=
        phase_silent rfl rfl rfl
      exact hcount.trans (phase_out type (by cases type <;> exact h) _ _)

theorem phase_processVddStatus (status : BitVec 16) : BusPhase s (processVddStatus status s) := by
  unfold processVddStatus
  simp only []
  split <;> exact phase_silent rfl rfl rfl

theorem phase_processVdnStatus (h : s.config.vdn.monitoring = true) (status : BitVec 16) : BusPhase s (processVdnStatus status s) := by
  have hfound : ∀ found, BusPhase s { s with ocFound := found } := fun found => phase_silent rfl rfl rfl
  unfold processVdnStatus
  refine .ite (fun _ => BusPhase.trans (hfound _) (phase_out .vdn ?_ _ _)) fun _ => hfound _
  exact h

theorem phase_voltage : BusPhase s (processAvsbusVoltage words s) := by
  have hrail : ∀ (s : Avs) (type : Rail) (sensor : AvsSensor), (s.data type).monitoring = true →
      BusPhase s (if (avsbusRead type .voltage (words type) s).2 ≠ 0 then
        (avsbusRead type .voltage (words type) s).1.sensorUpdate sensor ((avsbusRead type .voltage (words type) s).2 * 10)
        else (avsbusRead type .voltage (words type) s).1) := fun s type sensor h =>
    .ite (fun _ => (phase_read type h (words type)).trans (phase_silent rfl rfl rfl)) fun _ => phase_read type h (words type)
  have hvdd : BusPhase s (if s.config.vdd.monitoring then _ else s) := .ite (fun h => hrail s .vdd .voltvdd h) fun _ => .refl s
  exact hvdd.trans (.ite (fun h => hrail _ .vdn .voltvdn h) fun _ => .refl _)

theorem phase_current : BusPhase s (processAvsbusCurrent words s) := by
  have hheld : ∀ (s : Avs) (current : BitVec 16), BusPhase s (processVddCurrent current s) := by
    intro s current
    unfold processVddCurrent
    split_ifs
    · exact phase_silent rfl rfl rfl
    · exact phase_silent rfl rfl rfl
    · exact .refl s
  have hvdd : BusPhase s (if s.config.vdd.monitoring then
      processVddCurrent (avsbusRead .vdd .current (words .vdd) s).2 (avsbusRead .vdd .current (words .vdd) s).1 else s) :=
    .ite (fun h => (phase_read .vdd h (words .vdd)).trans (hheld _ _)) fun _ => .refl s
  refine hvdd.trans (.ite (fun h => ?_) fun _ => .refl _)
  exact .ite (fun _ => (phase_read .vdn h (words .vdn)).trans (phase_silent rfl rfl rfl)) fun _ => phase_read .vdn h (words .vdn)

theorem avsbusReadStatus_config (w : BusWords) : (avsbusReadStatus type w s).1.config = s.config := by
  unfold avsbusReadStatus
  split
  · rfl
  · split <;> rfl

theorem processVddStatus_config (status : BitVec 16) : (processVddStatus status s).config = s.config := by
  unfold processVddStatus
  simp only []
  split <;> rfl

theorem processVdnStatus_config (status : BitVec 16) : (processVdnStatus status s).config = s.config := by
  unfold processVdnStatus
  simp only []
  split <;> rfl

theorem processAvsbusStatus_config : (processAvsbusStatus words s).config = s.config := by
  have hvdd : (if s.config.vdd.monitoring then
      if (avsbusReadStatus .vdd (words .vdd) s).2 ≠ avsbusStatusReadError then
        processVddStatus (avsbusReadStatus .vdd (words .vdd) s).2 (avsbusReadStatus .vdd (words .vdd) s).1
      else (avsbusReadStatus .vdd (words .vdd) s).1
      else s).config = s.config := by
    split_ifs
    · rw [processVddStatus_config, avsbusReadStatus_config]
    · rw [avsbusReadStatus_config]
    · rfl
  refine Eq.trans ?_ hvdd
  unfold processAvsbusStatus
  simp only []
  split_ifs
  all_goals first | rfl | rw [processVdnStatus_config, avsbusReadStatus_config] | rw [avsbusReadStatus_config]

theorem phase_status : BusPhase s (processAvsbusStatus words s) := by
  have hvdd : BusPhase s (if s.config.vdd.monitoring then
      if (avsbusReadStatus .vdd (words .vdd) s).2 ≠ avsbusStatusReadError then
        processVddStatus (avsbusReadStatus .vdd (words .vdd) s).2 (avsbusReadStatus .vdd (words .vdd) s).1
      else (avsbusReadStatus .vdd (words .vdd) s).1
      else s) :=
    .ite (fun h => (phase_readStatus .vdd h (words .vdd)).trans (.ite (fun _ => phase_processVddStatus _) fun _ => .refl _)) fun _ => .refl s
  refine hvdd.trans (.ite (fun h => (phase_readStatus .vdn h (words .vdn)).trans (.ite (fun _ => ?_) fun _ => .refl _)) fun _ => .refl _)
  exact phase_processVdnStatus (by rw [avsbusReadStatus_config]; exact h) _

theorem phase_readStart (type : Rail) (h : (s.data type).monitoring = true) : BusPhase s (avsbusReadStart type cmdtype s) :=
  .ite (fun _ => .refl s) fun _ => phase_out type h _ _

theorem phase_goto (state : AvsbusState) : BusPhase s (s.goto state) := phase_silent rfl rfl rfl

theorem phase_initiate : BusPhase s (initiateAvsbusReads cmdtype s) := by
  have hvdd : BusPhase s (if s.config.vdd.monitoring then avsbusReadStart .vdd cmdtype s else s) :=
    .ite (fun h => phase_readStart .vdd h) fun _ => .refl s
  exact hvdd.trans (.ite (fun h => phase_readStart .vdn h) fun _ => .refl _)

theorem phase_startTemperature (h : s.config.vdd.monitoring = true) : BusPhase s (startTemperature s) :=
  (phase_readStart .vdd h).trans (phase_goto _)

theorem phase_startVoltages : BusPhase s (startVoltages s) := phase_initiate.trans (phase_goto _)

theorem phase_startCurrents (h : s.config.vddCurrentRollover10mA ≠ 0xFFFF → s.config.vdd.monitoring = true) : BusPhase s (startCurrents s) := by
  have hclear : BusPhase s (clearForRollover s) := .ite (fun hroll => phase_out .vdd (h hroll) _ _) fun _ => .refl s
  exact (hclear.trans phase_initiate).trans (phase_goto _)

theorem phase_startStatus : BusPhase s (startStatus s) := by
  have hvdd : BusPhase s (if s.config.vdd.monitoring ∧ s.config.vdd.bus ≠ 0xFF then s.out .vdd s.config.vdd.bus readStatusCommand else s) :=
    .ite (fun h => phase_out .vdd h.1 _ _) fun _ => .refl s
  have hread : BusPhase s (initiateAvsbusReadStatus s) :=
    .ite (fun _ => .refl s) fun _ => hvdd.trans (.ite (fun h => phase_out .vdn h.1 _ _) fun _ => .refl _)
  exact hread.trans (phase_goto _)

theorem phase_init : BusPhase s (avsbusInit s) := by
  have hbus : ∀ (bus : BitVec 8) (s : Avs), BusPhase s (avsbusInitBus bus s) := by
    intro bus s
    unfold avsbusInitBus
    refine .ite (fun h => ?_) fun _ => .ite (fun h => ?_) fun _ => .refl s
    · have hmon := ((Bool.and_eq_true _ _).mp h).1
      exact (phase_out .vdd hmon _ _).out .vdd hmon _ _
    · have hmon := ((Bool.and_eq_true _ _).mp h).1
      exact (phase_out .vdn hmon _ _).out .vdn hmon _ _
  exact (hbus 0 s).trans (hbus 1 _)

/-! ## Answers -/

theorem avsbusRead_config {w : BusWords} (h : ¬ Good w → s.errorCount type cmdtype + 1 ≠ maxReadAttempts) :
    (avsbusRead type cmdtype w s).1.config = s.config ∧
      ∀ type', type' ≠ type → (avsbusRead type cmdtype w s).1.errorCount type' = s.errorCount type' := by
  unfold avsbusRead
  split
  · exact ⟨rfl, fun _ _ => rfl⟩
  · split
    · rename_i reading _
      simp only []
      refine ⟨?_, fun type' hne => ?_⟩
      · split <;> rfl
      · split <;> exact Function.update_of_ne hne _ _
    · rename_i failure hfailure
      have hbad : ¬ Good w := fun hgood => by
        rw [checkResponse_good hgood] at hfailure
        cases hfailure
      simp only []
      rw [if_neg (h hbad)]
      exact ⟨rfl, fun type' hne => Function.update_of_ne hne _ _⟩

theorem processAvsbusVoltage_config (h : ∀ type, (s.data type).monitoring = true → ¬ Good (words type) →
    s.errorCount type .voltage + 1 ≠ maxReadAttempts) : (processAvsbusVoltage words s).config = s.config := by
  have hvdd : ∃ t, t.config = s.config ∧ (∀ type, type ≠ .vdd → t.errorCount type = s.errorCount type) ∧
      processAvsbusVoltage words s = if t.config.vdn.monitoring then
        if (avsbusRead .vdn .voltage (words .vdn) t).2 ≠ 0 then
          (avsbusRead .vdn .voltage (words .vdn) t).1.sensorUpdate .voltvdn ((avsbusRead .vdn .voltage (words .vdn) t).2 * 10)
        else (avsbusRead .vdn .voltage (words .vdn) t).1
        else t := by
    refine ⟨_, ?_, ?_, rfl⟩
    · split
      · rename_i hmon
        refine Eq.trans ?_ (avsbusRead_config (h .vdd hmon)).1
        simp only []
        split <;> rfl
      · rfl
    · intro type hne
      split
      · rename_i hmon
        refine Eq.trans ?_ ((avsbusRead_config (h .vdd hmon)).2 type hne)
        simp only []
        split <;> rfl
      · rfl
  obtain ⟨t, hconfig, hcount, htick⟩ := hvdd
  rw [htick]
  split
  · rename_i hmon
    have hread := @avsbusRead_config t .vdn .voltage (words .vdn) (by
      rw [hcount .vdn nofun]
      exact h .vdn (by rw [← data_congr hconfig]; exact hmon))
    split <;> exact hread.1.trans hconfig
  · exact hconfig

theorem lastWord_out (type : Rail) (bus bus' : BitVec 8) (word : BitVec 32) :
    (s.out type bus word).lastWord bus' = if bus = bus' then some word else s.lastWord bus' := by
  unfold Avs.lastWord Avs.out
  rw [List.find?_cons]
  by_cases h : bus = bus'
  · rw [if_pos h, decide_eq_true h]
    rfl
  · rw [if_neg h, decide_eq_false h]

/-- The rails that are monitored have buses of their own, which are buses. -/
structure Apart (s : Avs) : Prop where
  apart : s.config.vdd.monitoring = true → s.config.vdn.monitoring = true → s.config.vdd.bus ≠ s.config.vdn.bus
  buses : ∀ rail, (s.data rail).monitoring = true → (s.data rail).bus ≠ 0xFF

theorem lastWord_both (hapart : Apart s) (word : Rail → BitVec 32) :
    let vdd := if s.config.vdd.monitoring then s.out .vdd s.config.vdd.bus (word .vdd) else s
    let both := if s.config.vdn.monitoring then vdd.out .vdn s.config.vdn.bus (word .vdn) else vdd
    ∀ rail, (s.data rail).monitoring = true → both.lastWord (s.data rail).bus = some (word rail) := by
  intro vdd both rail hmon
  have hvdd : s.config.vdd.monitoring = true → vdd.lastWord s.config.vdd.bus = some (word .vdd) := by
    intro h
    rw [show vdd = s.out .vdd s.config.vdd.bus (word .vdd) from if_pos h, lastWord_out, if_pos rfl]
  cases rail with
  | vdd =>
    show both.lastWord s.config.vdd.bus = _
    by_cases hvdn : s.config.vdn.monitoring = true
    · rw [show both = vdd.out .vdn s.config.vdn.bus (word .vdn) from if_pos hvdn, lastWord_out,
        if_neg (Ne.symm (hapart.apart hmon hvdn))]
      exact hvdd hmon
    · rw [show both = vdd from if_neg hvdn]
      exact hvdd hmon
  | vdn =>
    show both.lastWord s.config.vdn.bus = _
    rw [show both = vdd.out .vdn s.config.vdn.bus (word .vdn) from if_pos hmon, lastWord_out, if_pos rfl]

theorem avsbusReadStart_eq (hsafe : s.safeStateRequested = false) :
    avsbusReadStart type cmdtype s = s.out type (s.data type).bus (readCommand (s.data type).rail cmdtype) :=
  if_neg (by rw [hsafe]; exact Bool.false_ne_true)

theorem initiateAvsbusReads_eq (hsafe : s.safeStateRequested = false) :
    initiateAvsbusReads cmdtype s =
      let vdd := if s.config.vdd.monitoring then s.out .vdd s.config.vdd.bus (readCommand s.config.vdd.rail cmdtype) else s
      if s.config.vdn.monitoring then vdd.out .vdn s.config.vdn.bus (readCommand s.config.vdn.rail cmdtype) else vdd := by
  unfold initiateAvsbusReads
  simp only []
  rw [avsbusReadStart_eq hsafe]
  by_cases hvdd : s.config.vdd.monitoring = true
  · have hout : ∀ rail bus word, (s.out rail bus word).safeStateRequested = false := fun _ _ _ => hsafe
    rw [if_pos hvdd, if_pos hvdd, avsbusReadStart_eq (hout _ _ _)]
    rfl
  · rw [if_neg hvdd, if_neg hvdd, avsbusReadStart_eq hsafe]
    rfl

theorem answered_initiate (hsafe : s.safeStateRequested = false) (hapart : Apart s) (cmdtype : Quantity) :
    ∀ rail, (s.data rail).monitoring = true →
      (initiateAvsbusReads cmdtype s).lastWord (s.data rail).bus = some (readCommand (s.data rail).rail cmdtype) := by
  rw [initiateAvsbusReads_eq hsafe]
  intro rail hmon
  have hboth := lastWord_both hapart (fun rail => readCommand (s.data rail).rail cmdtype) rail hmon
  exact hboth

theorem answered_startTemperature (hsafe : s.safeStateRequested = false) : (startTemperature s).Answered := by
  intro rail command hawaited
  unfold startTemperature at hawaited ⊢
  rw [avsbusReadStart_eq hsafe] at hawaited ⊢
  cases rail with
  | vdd =>
    cases hawaited
    show (s.out .vdd (s.data .vdd).bus (readCommand (s.data .vdd).rail .temperature)).lastWord (s.data .vdd).bus = _
    rw [lastWord_out, if_pos rfl]
    rfl
  | vdn => cases hawaited

theorem initiateAvsbusReads_config (hsafe : s.safeStateRequested = false) : (initiateAvsbusReads cmdtype s).config = s.config := by
  rw [initiateAvsbusReads_eq hsafe]
  simp only []
  split_ifs <;> rfl

theorem answered_start {state : AvsbusState} (hsafe : s.safeStateRequested = false) (hapart : Apart s)
    (hstate : ∀ t : Avs, ∀ rail, (t.goto state).awaited rail =
      if (t.data rail).monitoring then some (readCommand (t.data rail).rail cmdtype) else none) :
    ((initiateAvsbusReads cmdtype s).goto state).Answered := by
  intro rail command hawaited
  have hdata := data_congr (@initiateAvsbusReads_config s cmdtype hsafe) rail
  rw [hstate, hdata] at hawaited
  split_ifs at hawaited with hmon
  cases hawaited
  show (initiateAvsbusReads cmdtype s).lastWord ((initiateAvsbusReads cmdtype s).data rail).bus = _
  rw [hdata]
  exact answered_initiate hsafe hapart cmdtype rail hmon

theorem answered_startVoltages (hsafe : s.safeStateRequested = false) (hapart : Apart s) : (startVoltages s).Answered :=
  answered_start hsafe hapart fun _ _ => rfl

theorem clearForRollover_frame : (clearForRollover s).config = s.config ∧ (clearForRollover s).safeStateRequested = s.safeStateRequested := by
  unfold clearForRollover
  split_ifs <;> exact ⟨rfl, rfl⟩

theorem Apart.congr (h : Apart s) (hconfig : t.config = s.config) : Apart t := by
  refine ⟨by rw [hconfig]; exact h.apart, fun rail => ?_⟩
  rw [data_congr hconfig]
  exact h.buses rail

theorem answered_startCurrents (hsafe : s.safeStateRequested = false) (hapart : Apart s) : (startCurrents s).Answered :=
  answered_start (clearForRollover_frame.2.trans hsafe) (hapart.congr clearForRollover_frame.1) fun _ _ => rfl

theorem initiateAvsbusReadStatus_eq (hsafe : s.safeStateRequested = false) (hapart : Apart s) :
    initiateAvsbusReadStatus s =
      let vdd := if s.config.vdd.monitoring then s.out .vdd s.config.vdd.bus readStatusCommand else s
      if s.config.vdn.monitoring then vdd.out .vdn s.config.vdn.bus readStatusCommand else vdd := by
  have hvdd : (s.config.vdd.monitoring = true ∧ s.config.vdd.bus ≠ 0xFF) ↔ s.config.vdd.monitoring = true :=
    and_iff_left_of_imp (hapart.buses .vdd)
  have hvdn : (s.config.vdn.monitoring = true ∧ s.config.vdn.bus ≠ 0xFF) ↔ s.config.vdn.monitoring = true :=
    and_iff_left_of_imp (hapart.buses .vdn)
  unfold initiateAvsbusReadStatus
  rw [if_neg (by rw [hsafe]; exact Bool.false_ne_true)]
  simp only []
  by_cases h : s.config.vdd.monitoring = true
  · rw [if_pos (hvdd.2 h), if_pos h]
    exact if_congr hvdn rfl rfl
  · rw [if_neg (mt hvdd.1 h), if_neg h]
    exact if_congr hvdn rfl rfl

theorem answered_startStatus (hsafe : s.safeStateRequested = false) (hapart : Apart s) : (startStatus s).Answered := by
  intro rail command hawaited
  have hconfig : (initiateAvsbusReadStatus s).config = s.config := by
    rw [initiateAvsbusReadStatus_eq hsafe hapart]
    simp only []
    split_ifs <;> rfl
  have hdata : (initiateAvsbusReadStatus s).data rail = s.data rail := data_congr hconfig rail
  have hawaited' : (if ((initiateAvsbusReadStatus s).data rail).monitoring then some readStatusCommand else none) = some command := hawaited
  rw [hdata] at hawaited'
  split_ifs at hawaited' with hmon
  cases hawaited'
  show (initiateAvsbusReadStatus s).lastWord ((initiateAvsbusReadStatus s).data rail).bus = _
  rw [hdata, initiateAvsbusReadStatus_eq hsafe hapart]
  exact lastWord_both hapart (fun _ => readStatusCommand) rail hmon

end

/-! ## Packets -/

section
variable {shared : Bool} {s : Avsbus} {wofDisabled : BitVec 32} {cmd : AvsbusConfig}

/-- What a packet can do: it is rejected, and nothing is monitored, or accepted with rails that are apart. -/
theorem dataStoreAvsbusConfig_cases (shared : Bool) (s : Avsbus) (wofDisabled : BitVec 32) (cmd : AvsbusConfig) :
    (∃ (config : Avsbus) (e : DataErrl), config.vdd.monitoring = false ∧ config.vdn.monitoring = false ∧
      dataStoreAvsbusConfig shared s wofDisabled cmd = ((config, wofDisabled ||| wofRcInvalidVddVdn), some e)) ∨
    (∃ config : Avsbus, (config.vdd.monitoring = true → config.vdn.monitoring = true → config.vdd.bus ≠ config.vdn.bus) ∧
      (config.vdd.monitoring = true → config.vdd.bus ≠ 0xFF) ∧ (config.vdn.monitoring = true → config.vdn.bus ≠ 0xFF) ∧
      dataStoreAvsbusConfig shared s wofDisabled cmd = ((config, wofDisabled &&& ~~~wofRcInvalidVddVdn), none)) := by
  have hne : ∀ bus : BitVec 8, bus = 0 ∨ bus = 1 → bus ≠ 0xFF := by
    rintro bus (rfl | rfl) <;> decide
  have hvdd : (storeVdd s cmd).2 = false → (storeVdd s cmd).1.vdd.monitoring = true → (storeVdd s cmd).1.vdd.bus ≠ 0xFF := by
    unfold storeVdd
    split_ifs with hbus <;> intro hvalid hmon
    · exact hne _ hbus
    · cases hvalid
    · cases hvalid
    · cases hmon
  have hvdn : ∀ s : Avsbus, (storeVdn shared s cmd).2 = false →
      (storeVdn shared s cmd).1.vdd = s.vdd ∧ ((storeVdn shared s cmd).1.vdn.monitoring = true →
        (storeVdn shared s cmd).1.vdn.bus ≠ 0xFF ∧ (s.vdd.monitoring = true → s.vdd.bus ≠ (storeVdn shared s cmd).1.vdn.bus)) := by
    intro s
    unfold storeVdn
    split_ifs with hbus <;> intro hvalid
    · exact ⟨rfl, nofun⟩
    · refine ⟨rfl, fun _ => ⟨?_, fun hmon heq => ?_⟩⟩
      · exact hne _ hbus
      · have hsame : (s.vdd.monitoring && s.vdd.bus == cmd.vdnBus) = false := hvalid
        rw [hmon, show s.vdd.bus = cmd.vdnBus from heq, beq_self_eq_true] at hsame
        cases hsame
    · cases hvalid
    · cases hvalid
    · exact ⟨rfl, nofun⟩
  unfold dataStoreAvsbusConfig
  by_cases hversion : (cmd.version = 0x01 ∧ cmd.dataLength.toNat = 10) ∨ (cmd.version = 0x02 ∧ cmd.dataLength.toNat = 14)
  · rw [if_pos hversion]
    simp only []
    split
    · exact .inl ⟨_, _, rfl, rfl, rfl⟩
    · rename_i hok
      have hvalid : (storeVdd s cmd).2 = false ∧ (storeVdn shared (storeVdd s cmd).1 cmd).2 = false :=
        Bool.or_eq_false_iff.1 (Bool.eq_false_iff.2 fun h => hok (.inl h))
      obtain ⟨hsame, hbus⟩ := hvdn _ hvalid.2
      refine .inr ⟨{ (storeVdn shared (storeVdd s cmd).1 cmd).1 with
        procPowerAdder := cmd.procPowerAdder
        vddCurrentRollover10mA := if cmd.version = 0x02 then cmd.vddCurrentRollover.setWidth 32 else 0xFFFF
        vddMaxCurrent10mA := if cmd.version = 0x02 then cmd.vddMaxCurrent.setWidth 32 else 0xFFFF }, fun hd hn => ?_, fun hd => ?_, fun hn => (hbus hn).1, rfl⟩
      · have hd' : (storeVdd s cmd).1.vdd.monitoring = true := by rw [← hsame]; exact hd
        show (storeVdn shared (storeVdd s cmd).1 cmd).1.vdd.bus ≠ _
        rw [hsame]
        exact (hbus hn).2 hd'
      · have hd' : (storeVdd s cmd).1.vdd.monitoring = true := by rw [← hsame]; exact hd
        show (storeVdn shared (storeVdd s cmd).1 cmd).1.vdd.bus ≠ _
        rw [hsame]
        exact hvdd hvalid.1 hd'
  · rw [if_neg hversion]
    simp only []
    rw [if_pos (Or.inl trivial)]
    exact .inl ⟨_, _, rfl, rfl, rfl⟩

end

/-! ## Invariant -/

/-- The rails are safe and apart, and unless a packet has come since, what is awaited was commanded last. -/
structure RailInv (p : Rails) : Prop where
  safe : RailSafe p
  apart : Apart p.avs
  answered : p.avs.safeStateRequested = false → p.stored = false → p.avs.Answered

section
variable {shared : Bool} {p q : Rails} {e : RailEvent} {s t : Avs} {words : Rail → BusWords}

theorem railInv_start (wofDisabled : BitVec 32) : RailInv (.start wofDisabled) :=
  ⟨⟨nofun, nofun, nofun⟩, ⟨nofun, fun rail => by cases rail <;> exact nofun⟩, fun _ _ => nofun⟩

theorem phase_entered (s : Avs) : BusPhase s s.entered := by
  unfold Avs.entered
  split_ifs
  · exact ⟨⟨[], rfl, nofun⟩, .inr rfl, rfl⟩
  · exact .refl s

theorem BusPhase.apart (h : BusPhase s t) (hapart : Apart s) : Apart t := by
  rcases h.config with hconfig | hconfig
  · exact hapart.congr hconfig
  · have hstop : Apart s.stopMonitoring := ⟨nofun, fun rail => by cases rail <;> exact nofun⟩
    exact hstop.congr hconfig

theorem BusPhase.railSafe {avs : Avs} {rejected stored stored' : Bool} (h : BusPhase s avs) (hsafe : RailSafe ⟨s, rejected, stored⟩)
    (hapart : Apart s) : RailSafe ⟨avs, rejected, stored'⟩ := by
  refine ⟨(h.apart hapart).apart, fun hrejected => ?_, fun hrejected => ?_⟩
  · obtain ⟨hvdd, hvdn⟩ := hsafe.unmonitored hrejected
    refine ⟨Bool.eq_false_iff.2 fun hmon => ?_, Bool.eq_false_iff.2 fun hmon => ?_⟩
    · exact Bool.false_ne_true (hvdd.symm.trans (@BusPhase.monitored _ _ h .vdd hmon))
    · exact Bool.false_ne_true (hvdn.symm.trans (@BusPhase.monitored _ _ h .vdn hmon))
  · show avs.wofDisabled &&& _ = _
    rw [h.wofDisabled]
    exact hsafe.wofDisabled hrejected

theorem phase_process {tick : AvsTick} (h : TickOk shared p.stored tick s) : BusPhase s (processTick tick s) := by
  have htemp := h.temperature
  unfold ReadsTemperature at htemp
  unfold processTick
  split at htemp
  all_goals rename_i hstate; simp only [hstate]
  · exact .refl s
  · exact phase_read .vdd (htemp trivial) _
  · exact phase_status
  · exact phase_voltage
  · exact phase_current
  · exact .refl s

theorem Quiet.process (tick : AvsTick) (h : s.avsbusState ≠ .processCurrent) (h' : s.avsbusState ≠ .processStatus) :
    Quiet s (processTick tick s) := by
  unfold processTick
  split
  · exact quiet_read _
  · exact quiet_voltage
  · rename_i hstate
    exact absurd hstate h
  · rename_i hstate
    exact absurd hstate h'
  · exact .refl s
  · exact .refl s

theorem process_config {tick : AvsTick} (h : TickOk shared p.stored tick s) (hclears : Clears shared tick s) :
    (processTick tick s).config = s.config := by
  obtain ⟨hvdd, hlast⟩ := h.clears hclears
  have hstate := hclears.2
  unfold processTick
  split
  · rename_i hs
    rw [hs] at hlast
    exact (avsbusRead_config (hlast _ rfl .vdd hvdd)).1
  · rename_i hs
    rw [hs] at hlast
    exact processAvsbusVoltage_config (hlast _ rfl)
  · rename_i hs
    rw [hs] at hstate
    exact hstate.elim
  · exact processAvsbusStatus_config
  · rfl
  · rfl

/-- What is started in a tick is started for monitored rails. -/
theorem phase_start {tick : AvsTick} (h : TickOk shared p.stored tick s) :
    BusPhase (processTick tick s) (startTick shared tick s.avsbusState (processTick tick s)) := by
  have hcurrents : s.avsbusState ≠ .processCurrent → s.avsbusState ≠ .processStatus →
      (s.config.vddCurrentRollover10mA ≠ 0xFFFF → Clears shared tick s) →
      BusPhase (processTick tick s) (startCurrents (processTick tick s)) := by
    intro hne hne' hclears
    refine phase_startCurrents fun hroll => ?_
    rw [(Quiet.process tick hne hne').rollover] at hroll
    rw [process_config h (hclears hroll)]
    exact (h.clears (hclears hroll)).1
  have htemp := h.temperature
  unfold ReadsTemperature at htemp
  unfold startTick
  cases hstate : s.avsbusState with
  | initiateRead =>
    rw [hstate] at htemp
    have hproc : processTick tick s = s := by
      unfold processTick
      rw [hstate]
    have hstarts := hcurrents (by rw [hstate]; exact nofun) (by rw [hstate]; exact nofun)
    rw [hproc] at hstarts ⊢
    refine .ite (fun hshared => ?_) fun hshared => ?_
    · rw [if_neg hshared] at htemp
      refine .ite (fun hslv => phase_startTemperature (htemp ?_)) fun _ => .ite (fun _ => phase_startVoltages) fun hvolt =>
        .ite (fun _ => .refl s) fun hwait => phase_startTemperature (htemp ?_)
      · rcases hslv with hslv | hslv <;> rw [hslv] <;> decide
      · rintro (hslv | hslv | hslv)
        · exact hvolt (.inl hslv)
        · exact hvolt (.inr hslv)
        · exact hwait hslv
    · rw [if_pos (not_not.1 hshared)] at htemp
      refine .ite (fun hflag => hstarts fun hroll => ⟨hroll, ?_⟩) fun hflag => phase_startTemperature (htemp (not_not.1 hflag))
      rw [hstate]
      exact ⟨not_not.1 hshared, hflag⟩
  | processTemperature =>
    refine .ite (fun _ => phase_startVoltages) fun hshared => .ite (fun hflag => ?_) fun _ => phase_startStatus
    refine hcurrents (by rw [hstate]; exact nofun) (by rw [hstate]; exact nofun) fun hroll => ⟨hroll, ?_⟩
    rw [hstate]
    exact ⟨not_not.1 hshared, hflag⟩
  | processVoltage =>
    refine hcurrents (by rw [hstate]; exact nofun) (by rw [hstate]; exact nofun) fun hroll => ⟨hroll, ?_⟩
    rw [hstate]
    trivial
  | processCurrent => exact phase_startStatus
  | processStatus =>
    rw [hstate] at htemp
    refine phase_startTemperature ?_
    unfold processTick
    simp only [hstate]
    rw [processAvsbusStatus_config]
    exact htemp trivial
  | disabled => exact .refl _

/-- What a tick starts is awaited by the next one. -/
theorem answered_startTick (tick : AvsTick) {state : AvsbusState} (hsafe : s.safeStateRequested = false) (hapart : Apart s)
    (hwait : state = .initiateRead ∨ state = .disabled → s.avsbusState = state) : (startTick shared tick state s).Answered := by
  have hite : ∀ {P : Prop} [Decidable P] {t u : Avs}, t.Answered → u.Answered → (if P then t else u).Answered := by
    intro P _ t u ht hu
    split_ifs
    · exact ht
    · exact hu
  cases state with
  | initiateRead =>
    have hs : s.Answered := by
      intro rail command hawaited
      unfold Avs.awaited at hawaited
      rw [hwait (.inl rfl)] at hawaited
      cases hawaited
    exact hite (hite (answered_startTemperature hsafe) (hite (answered_startVoltages hsafe hapart)
      (hite hs (answered_startTemperature hsafe)))) (hite (answered_startCurrents hsafe hapart) (answered_startTemperature hsafe))
  | processTemperature =>
    exact hite (answered_startVoltages hsafe hapart) (hite (answered_startCurrents hsafe hapart) (answered_startStatus hsafe hapart))
  | processVoltage => exact answered_startCurrents hsafe hapart
  | processCurrent => exact answered_startStatus hsafe hapart
  | processStatus => exact answered_startTemperature hsafe
  | disabled =>
    intro rail command hawaited
    have hs : (startTick shared tick .disabled s).avsbusState = .disabled := hwait (.inr rfl)
    unfold Avs.awaited at hawaited
    rw [hs] at hawaited
    cases hawaited

/-- What starts the reads leaves the safe state to others. -/
theorem startTick_safe (tick : AvsTick) (state : AvsbusState) : (startTick shared tick state s).safeStateRequested = s.safeStateRequested := by
  have hite : ∀ {P : Prop} [Decidable P] {t u : Avs}, t.safeStateRequested = s.safeStateRequested → u.safeStateRequested = s.safeStateRequested →
      (if P then t else u).safeStateRequested = s.safeStateRequested := by
    intro P _ t u ht hu
    split_ifs
    · exact ht
    · exact hu
  have hread : ∀ (type : Rail) (cmdtype : Quantity) {t : Avs}, t.safeStateRequested = s.safeStateRequested →
      (avsbusReadStart type cmdtype t).safeStateRequested = s.safeStateRequested := by
    intro type cmdtype t ht
    unfold avsbusReadStart
    exact hite ht ht
  have hreads : ∀ (cmdtype : Quantity) {t : Avs}, t.safeStateRequested = s.safeStateRequested →
      (initiateAvsbusReads cmdtype t).safeStateRequested = s.safeStateRequested := by
    intro cmdtype t ht
    have hvdd : (if t.config.vdd.monitoring then avsbusReadStart .vdd cmdtype t else t).safeStateRequested = s.safeStateRequested :=
      hite (hread .vdd cmdtype ht) ht
    exact hite (hread .vdn cmdtype hvdd) hvdd
  have hstatus : (startStatus s).safeStateRequested = s.safeStateRequested := hite rfl (hite (hite rfl rfl) (hite rfl rfl))
  have htemp : (startTemperature s).safeStateRequested = s.safeStateRequested := hread .vdd .temperature rfl
  have hvolt : (startVoltages s).safeStateRequested = s.safeStateRequested := hreads .voltage rfl
  have hcur : (startCurrents s).safeStateRequested = s.safeStateRequested := hreads .current clearForRollover_frame.2
  cases state with
  | initiateRead => exact hite (hite htemp (hite hvolt (hite rfl htemp))) (hite hcur htemp)
  | processTemperature => exact hite hvolt (hite hcur hstatus)
  | processVoltage => exact hcur
  | processCurrent => exact hstatus
  | processStatus => exact htemp
  | disabled => rfl

theorem avsbusInit_config : (avsbusInit s).config = s.config := by
  have hbus : ∀ (bus : BitVec 8) (s : Avs), (avsbusInitBus bus s).config = s.config := by
    intro bus s
    unfold avsbusInitBus
    simp only []
    split_ifs <;> rfl
  exact (hbus 1 _).trans (hbus 0 s)

theorem phase_tick {tick : AvsTick} (h : RailOk shared p (.tick tick)) : BusPhase p.avs (amecUpdateAvsbusSensors shared tick p.avs) := by
  rw [amecUpdate_phases]
  exact ((phase_entered p.avs).trans (phase_process h)).trans (phase_start h)

/-- What a packet does to the rails, whatever came before. -/
theorem packet_rails (cmd : AvsbusConfig) :
    RailSafe (p.next shared (.packet cmd)) ∧ Apart (p.next shared (.packet cmd)).avs ∧
      ∃ ws, (storeAvsbusConfig shared cmd p.avs).written = ws ++ p.avs.written ∧
        ∀ w ∈ ws, ((storeAvsbusConfig shared cmd p.avs).data w.rail).monitoring = true := by
  rcases dataStoreAvsbusConfig_cases shared p.avs.config p.avs.wofDisabled cmd with
    ⟨config, err, hvdd, hvdn, heq⟩ | ⟨config, hapart, hbusVdd, hbusVdn, heq⟩
  · have hstore : storeAvsbusConfig shared cmd p.avs =
        { p.avs with config := config, wofDisabled := p.avs.wofDisabled ||| wofRcInvalidVddVdn } := by
      unfold storeAvsbusConfig
      rw [heq]
    have hnext : (p.next shared (.packet cmd)).avs = storeAvsbusConfig shared cmd p.avs := rfl
    refine ⟨⟨?_, fun _ => ?_, fun _ => ?_⟩, ⟨?_, fun rail => ?_⟩, [], ?_, nofun⟩ <;> rw [hstore] at *
    · rw [hnext]
      intro hmon
      exact absurd (hmon.symm.trans hvdd) nofun
    · rw [hnext]
      exact ⟨hvdd, hvdn⟩
    · rw [hnext]
      show (p.avs.wofDisabled ||| wofRcInvalidVddVdn) &&& wofRcInvalidVddVdn = wofRcInvalidVddVdn
      ext i hi
      simp only [BitVec.getElem_and, BitVec.getElem_or]
      cases p.avs.wofDisabled[i] <;> cases wofRcInvalidVddVdn[i] <;> rfl
    · rw [hnext]
      intro hmon
      exact absurd (hmon.symm.trans hvdd) nofun
    · rw [hnext]
      intro hmon
      cases rail with
      | vdd => exact absurd (hmon.symm.trans hvdd) nofun
      | vdn => exact absurd (hmon.symm.trans hvdn) nofun
    · rfl
  · have hstore : storeAvsbusConfig shared cmd p.avs =
        avsbusInit { p.avs with config := config, wofDisabled := p.avs.wofDisabled &&& ~~~wofRcInvalidVddVdn } := by
      unfold storeAvsbusConfig
      rw [heq]
    have hconfig : (storeAvsbusConfig shared cmd p.avs).config = config := by
      rw [hstore, avsbusInit_config]
    have hrejected : (p.next shared (.packet cmd)).rejected = false := by
      show (dataStoreAvsbusConfig shared p.avs.config p.avs.wofDisabled cmd).2.isSome = false
      rw [heq]
      rfl
    have hnext : (p.next shared (.packet cmd)).avs.config = config := hconfig
    have hsafe : ∀ {P : Prop}, (p.next shared (.packet cmd)).rejected = true → P := by
      intro P h
      exact absurd (h.symm.trans hrejected) nofun
    refine ⟨⟨?_, hsafe, hsafe⟩, ⟨?_, fun rail => ?_⟩, ?_⟩
    · rw [hnext]
      exact hapart
    · rw [hnext]
      exact hapart
    · unfold Avs.data
      rw [hnext]
      cases rail with
      | vdd => exact hbusVdd
      | vdn => exact hbusVdn
    · have hinit := @phase_init { p.avs with config := config, wofDisabled := p.avs.wofDisabled &&& ~~~wofRcInvalidVddVdn }
      obtain ⟨ws, hws, hall⟩ := hinit.commands
      refine ⟨ws, by rw [hstore]; exact hws, fun w hw => ?_⟩
      rw [show (storeAvsbusConfig shared cmd p.avs).data w.rail =
        Avs.data { p.avs with config := config, wofDisabled := p.avs.wofDisabled &&& ~~~wofRcInvalidVddVdn } w.rail from
        data_congr hconfig w.rail]
      exact hall w hw

theorem RailInv.entered {tick : AvsTick} (hinv : RailInv p) (h : RailOk shared p (.tick tick)) : p.avs.entered.Answered := by
  intro rail command hawaited
  have hfresh := h.fresh rail (by rw [hawaited]; exact nofun)
  cases hsafe : p.avs.safeStateRequested with
  | true =>
    have hentered : p.avs.entered = p.avs.stopMonitoring.goto .disabled := if_pos hsafe
    rw [hentered] at hawaited
    cases hawaited
  | false =>
    have hentered : p.avs.entered = p.avs := if_neg (by rw [hsafe]; exact Bool.false_ne_true)
    rw [hentered] at hawaited ⊢
    exact hinv.answered hsafe hfresh rail command hawaited

theorem RailInv.law (hinv : RailInv p) (h : RailOk shared p e) : RailLaw shared p e := by
  cases e with
  | packet cmd => exact ⟨(packet_rails cmd).1, (packet_rails cmd).2.2⟩
  | tick tick =>
    refine ⟨(phase_tick h).railSafe hinv.safe hinv.apart, hinv.entered h, (phase_process h).commands, ?_⟩
    rw [amecUpdate_phases]
    exact (phase_start h).commands
  | reset => exact ⟨⟨hinv.safe.apart, hinv.safe.unmonitored, hinv.safe.wofDisabled⟩, trivial⟩

theorem RailInv.next (hinv : RailInv p) (h : RailOk shared p e) : RailInv (p.next shared e) := by
  cases e with
  | packet cmd => exact ⟨(packet_rails cmd).1, (packet_rails cmd).2.1, fun _ => nofun⟩
  | tick tick =>
    refine ⟨(phase_tick h).railSafe hinv.safe hinv.apart, (phase_tick h).apart hinv.apart, fun hsafe _ => ?_⟩
    replace hsafe : (amecUpdateAvsbusSensors shared tick p.avs).safeStateRequested = false := hsafe
    show (amecUpdateAvsbusSensors shared tick p.avs).Answered
    rw [amecUpdate_phases] at hsafe ⊢
    rw [startTick_safe] at hsafe
    refine answered_startTick tick hsafe (((phase_entered p.avs).trans (phase_process h)).apart hinv.apart) ?_
    rintro (hstate | hstate) <;> unfold processTick <;> simp only [hstate]
  | reset =>
    exact ⟨⟨hinv.safe.apart, hinv.safe.unmonitored, hinv.safe.wofDisabled⟩, ⟨hinv.apart.apart, hinv.apart.buses⟩, nofun⟩

end

/-- In every run in which no packet comes between a command and its answer, and Vdd is monitored whenever its temperature is read or its
warning is cleared, the rails keep to their buses, commands are written for monitored rails, and what is read answers the last command. -/
theorem railLaw_run (shared : Bool) (wofDisabled : BitVec 32) (es : List RailEvent) (q : Rails)
    (h : Run (Guarded (RailOk shared) (StepOf (Rails.step shared))) (.start wofDisabled) es q) :
    Run (Guarded (RailLaw shared) (StepOf (Rails.step shared))) (.start wofDisabled) es q ∧ RailSafe q := by
  have hkeep : ∀ p e q, RailInv p → Guarded (RailOk shared) (StepOf (Rails.step shared)) p e q → RailInv q := by
    rintro p e q hinv ⟨hok, hstep⟩
    cases hstep
    exact hinv.next hok
  refine ⟨?_, (h.invariant hkeep (railInv_start wofDisabled)).safe⟩
  have hstart := railInv_start wofDisabled
  revert hstart h
  generalize Rails.start wofDisabled = p
  intro h hinv
  induction h with
  | nil p => exact .nil p
  | cons hstep _ ih => exact .cons ⟨hinv.law hstep.1, hstep.2⟩ (ih (hkeep _ _ _ hinv hstep))

/-! ## Traces -/

section
variable (shared stored : Bool) (t : AvsTick) (s : Avs)

instance decidableForallRail {P : Rail → Prop} [∀ rail, Decidable (P rail)] : Decidable (∀ rail, P rail) :=
  decidable_of_iff (P .vdd ∧ P .vdn) ⟨fun h rail => match rail with | .vdd => h.1 | .vdn => h.2, fun h => ⟨h .vdd, h .vdn⟩⟩

instance : Decidable (Clears shared t s) := by
  unfold Clears
  cases s.avsbusState <;> exact inferInstance

instance : Decidable (ReadsTemperature shared t s) := by
  unfold ReadsTemperature
  cases s.avsbusState <;> exact inferInstance

instance : Decidable (TickOk shared stored t s) :=
  decidable_of_iff ((∀ rail, (s.awaited rail).isSome = true → stored = false) ∧ (ReadsTemperature shared t s → s.config.vdd.monitoring = true) ∧
    (Clears shared t s → s.config.vdd.monitoring = true ∧ s.avsbusState.reads.all (fun cmdtype => decide (∀ type,
      (s.data type).monitoring = true → ¬ Good (t.words type) → s.errorCount type cmdtype + 1 ≠ maxReadAttempts)) = true)) (by
    constructor
    · rintro ⟨hfresh, htemp, hclears⟩
      refine ⟨fun rail hne => hfresh rail (Option.isSome_iff_ne_none.2 hne), htemp, fun h => ⟨(hclears h).1, fun cmdtype hmem => ?_⟩⟩
      exact of_decide_eq_true ((Option.all_eq_true _ _).1 (hclears h).2 cmdtype hmem)
    · rintro ⟨hfresh, htemp, hclears⟩
      refine ⟨fun rail hsome => hfresh rail (Option.isSome_iff_ne_none.1 hsome), htemp, fun h => ⟨(hclears h).1, ?_⟩⟩
      exact (Option.all_eq_true _ _).2 fun cmdtype hmem => decide_eq_true ((hclears h).2 cmdtype hmem))

instance (p : Rails) (e : RailEvent) : Decidable (RailOk shared p e) := by
  cases e <;> unfold RailOk <;> exact inferInstance

end

/-- Vdd on bus 0 and Vdn on bus 1, and Vdd on a bus that does not exist. -/
def twoRails : AvsbusConfig := ⟨10, 0x01, 0, 0, 1, 0, 0, 0, 0⟩
def noSuchBus : AvsbusConfig := ⟨10, 0x01, 7, 0, 1, 0, 0, 0, 0⟩

/-- A tick of a slave state with good responses. -/
def railTick (slvState : BitVec 8) : RailEvent := .tick ⟨slvState, 0, fun _ => goodWords 900⟩

/-- Two rails are read in turn, the task is stopped, and a packet is rejected. -/
def railEvents : List RailEvent :=
  [.packet twoRails, railTick 1, railTick 2, railTick 3, .reset, railTick 4, .packet noSuchBus, railTick 0]

theorem railLaw_run_read :
    let q := (exec (Rails.step false) (.start 0) railEvents).getD (.start 0)
    (q.avs.written.length = 10 ∧ q.rejected = true) ∧
      Run (Guarded (RailLaw false) (StepOf (Rails.step false))) (.start 0) railEvents q ∧ RailSafe q :=
  ⟨by decide, railLaw_run false 0 railEvents _ (run_guarded_of_exec rfl)⟩

/-- A packet is rejected after a tick has started to read the temperature of Vdd. -/
def rejectedEvents : List RailEvent := [.packet twoRails, railTick 0, .packet noSuchBus, railTick 0, railTick 0, railTick 0]

/-- The task then asks again for the temperature of Vdd, which is not monitored. -/
theorem rejected_packet_reads_temperature : ∃ p, Run (StepOf (Rails.step false)) (.start 0) rejectedEvents p ∧ p.rejected = true ∧
    (p.next false (railTick 0)).avs.written = ⟨.vdd, 0, readCommand 0 .temperature⟩ :: p.avs.written ∧ ¬ RailLaw false p (railTick 0) := by
  refine ⟨_, run_of_exec_isSome (d := .start 0) rfl, ?_, ?_, ?_⟩
  · decide
  · decide
  · rintro ⟨-, -, -, ws, hwritten, hall⟩
    cases ws with
    | nil => exact absurd (congrArg List.length hwritten) (by decide)
    | cons w ws =>
      refine absurd (hall w List.mem_cons_self) ?_
      generalize w.rail = rail
      revert rail
      decide

/-- A packet that is accepted between a command and its answer. -/
def acceptedEvents : List RailEvent := [.packet twoRails, railTick 1, .packet twoRails]

theorem accepted_packet_clears : ∃ p, Run (StepOf (Rails.step false)) (.start 0) acceptedEvents p ∧
    p.avs.awaited .vdd = some (readCommand 0 .voltage) ∧ p.avs.lastWord 0 = some (clearCommand avsbusStatusOverCurrentMask) ∧
    ¬ RailLaw false p (railTick 0) := by
  refine ⟨_, run_of_exec_isSome (d := .start 0) rfl, ?_, ?_, ?_⟩
  · decide
  · decide
  · rintro ⟨-, hanswered, -⟩
    exact absurd (hanswered .vdd (readCommand 0 .voltage) rfl) (by decide)

end Occ.Pss
