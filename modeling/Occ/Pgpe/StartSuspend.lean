/-
The Pstate protocol (`pgpe_interface.c`): state transitions start and suspend it and set the nominal Pstate, a
step at a time; the end of the start/suspend request runs its callback, between any two of these steps.

The Pstate protocol's status: it is in transition exactly while a start/suspend request is in flight, a request
that cannot be scheduled leaves the status as it was, and the end of a request settles it. There must be cores,
which the callers check, and a call that could not schedule its request must not have saved a status in
transition: it did when a request ended right after.
-/
import Occ.Pgpe.Clip
import Occ.Lib.Transition

namespace Occ.Pgpe

/-! ## Data -/

inductive PstateStatus
  | inTransition | disabled | enabled | failed
deriving DecidableEq, Repr

inductive PmcrOwner
  | host | occ | char
deriving DecidableEq, Repr

inductive PstateAction
  | start | stop
deriving DecidableEq, Repr

def ercFwZeroFreqLimit : Nat := 0x0090
def ercPgpeSetPmcrNotIdle : Nat := 0x00B2
def ercPgpeStartSuspendNotIdle : Nat := 0x00B3
def ercPgpeSetPmcrFailure : Nat := 0x00B4
def ercPgpeStartSuspendFailure : Nat := 0x00B5
def ercPgpeTaskTimeout : Nat := 0x00BA

/-- What does not change; `presentCores` is a mask. -/
structure PgpeConfig where
  kvm : Bool
  simics : Bool
  presentCores : BitVec 32
deriving DecidableEq, Repr

/-- `ipcmsg_start_stop_t`. -/
structure StartStopParms where
  action : PstateAction
  pmcrOwner : PmcrOwner
  rc : Nat
deriving DecidableEq, Repr

/-- The error logs: a predictive one, or one with a reset. -/
inductive PgpeErrl
  | notIdle (ext_rc : Nat)
  | reset (ext_rc : Nat) (schedule_rc : Int)
deriving DecidableEq, Repr

/-- Where the thread is. `nominal` says that `set_nominal_pstate` called `pgpe_start_suspend`, and `saved` is
the status that it saved. -/
inductive StatusPc
  | idle
  -- in `pgpe_start_suspend`: the status is saved; the parameters and the status are written
  | entry (action : PstateAction) (owner : PmcrOwner) (saved : PstateStatus) (nominal : Bool)
  | schedule (owner : PmcrOwner) (saved : PstateStatus) (nominal : Bool)
  -- in `set_nominal_pstate`
  | nominal
  | nominalOwner
  | nominalTransition
  | nominalWait
  | nominalSet
deriving DecidableEq, Repr

structure StatusSys where
  /-- `G_proc_pstate_status` -/
  status : PstateStatus
  /-- `G_proc_pmcr_owner` -/
  pmcrOwner : PmcrOwner
  ssPgpeRc : Nat
  parms : StartStopParms
  /-- `G_start_suspend_req` is not idle -/
  running : Bool
  /-- `G_pmcr_set_req` is not idle -/
  pmcrRunning : Bool
  pmcr : Fin 6 → BitVec 64
  /-- the nominal Pstate, once the frequencies are known -/
  nominal : Option Pstate
  pc : StatusPc
  errl : List PgpeErrl
  -- history: what the last request was scheduled for; the requests that ended, with their answer and the
  -- status after the callback; what `pgpe_start_suspend` returned, with the status it found and the one it left;
  -- what `set_nominal_pstate` returned
  flight : PstateAction
  completions : List (PstateAction × Option Nat × PstateStatus)
  results : List (Nat × PstateStatus × PstateStatus)
  nominals : List Nat

namespace StatusSys

variable (cfg : PgpeConfig) (k : StatusSys)

/-! ## `pgpe_start_suspend` -/

/-- `pgpe_start_suspend_callback`. -/
def pgpeStartSuspendCallback : StatusSys :=
  let k := { k with ssPgpeRc := k.parms.rc }
  if k.ssPgpeRc ≠ pgpeRcSuccess then { k with status := .failed }
  else
    match k.parms.action with
    | .start => { k with status := .enabled, pmcrOwner := k.parms.pmcrOwner }
    | .stop => { k with status := .disabled }

/-- `set_nominal_pstate` returns. -/
def retNominal (rc : Nat) : StatusSys := { k with pc := .idle, nominals := rc :: k.nominals }

/-- `pgpe_start_suspend` returns. -/
def ret (saved : PstateStatus) (nominal : Bool) (ext_rc : Nat) : StatusSys :=
  let k := { k with results := (ext_rc, saved, k.status) :: k.results }
  if nominal then if ext_rc ≠ 0 then k.retNominal ext_rc else { k with pc := .nominalWait }
  else { k with pc := .idle }

/-- The request is checked, and the parameters and the status are written. -/
def startSuspendCheck (action : PstateAction) (owner : PmcrOwner) (saved : PstateStatus) (nominal ignore : Bool) :
    StatusSys :=
  if k.running then
    let k := { k with errl := if ignore then k.errl else .notIdle ercPgpeStartSuspendNotIdle :: k.errl }
    k.ret saved nominal ercPgpeStartSuspendNotIdle
  else
    let k := { k with parms := { k.parms with action := action, pmcrOwner := owner } }
    if cfg.simics then k.pgpeStartSuspendCallback.ret saved nominal 0
    else { k with status := .inTransition, pc := .schedule owner saved nominal }

/-- The request is scheduled, when there are cores; `rc` is what `gpe_request_schedule` returns for an idle
request. -/
def startSuspendSchedule (owner : PmcrOwner) (saved : PstateStatus) (nominal : Bool) (rc : Int) : StatusSys :=
  if cfg.presentCores = 0 then k.ret saved nominal 0
  else if rc = 0 then { k with running := true, flight := k.parms.action }.ret saved nominal 0
  else
    let k := { k with
      status := saved
      errl := if cfg.kvm = false ∨ owner ≠ PmcrOwner.occ then .reset ercPgpeStartSuspendFailure rc :: k.errl else k.errl }
    k.ret saved nominal ercPgpeStartSuspendFailure

/-! ## `set_nominal_pstate` -/

/-- `pgpe_pmcr_set`. -/
def pgpePmcrSet (ignore : Bool) (rc : Int) : StatusSys × Nat :=
  if k.pmcrRunning then
    ({ k with errl := if ignore then k.errl else .notIdle ercPgpeSetPmcrNotIdle :: k.errl }, ercPgpeSetPmcrNotIdle)
  else if cfg.simics ∨ cfg.presentCores = 0 then (k, 0)
  else if rc = 0 then ({ k with pmcrRunning := true }, 0)
  else
    ({ k with errl := if cfg.kvm then k.errl else .reset ercPgpeSetPmcrFailure rc :: k.errl }, ercPgpeSetPmcrFailure)

/-- The nominal Pstate is written for each quad, in the format of version 1, and set. -/
def setPmcr (ignore : Bool) (rc : Int) : StatusSys :=
  let k := { k with pmcr := fun _ => ((k.nominal.getD 0).setWidth 64 <<< 48) ||| 1 }
  let r := k.pgpePmcrSet cfg ignore rc
  r.1.retNominal r.2

/-- The next step of the thread; `timeout` says whether a second has passed. -/
def thread (ignore timeout : Bool) (rc : Int) : StatusSys :=
  match k.pc with
  | .idle => k
  | .entry action owner saved nominal => k.startSuspendCheck cfg action owner saved nominal ignore
  | .schedule owner saved nominal => k.startSuspendSchedule cfg owner saved nominal rc
  | .nominal =>
    if k.nominal = none then k.retNominal ercFwZeroFreqLimit
    else if k.pmcrRunning then k.retNominal ercPgpeSetPmcrNotIdle
    else { k with pc := .nominalOwner }
  | .nominalOwner =>
    if k.status ≠ .enabled ∨ k.pmcrOwner ≠ PmcrOwner.occ then { k with pc := .nominalTransition } else { k with pc := .nominalSet }
  | .nominalTransition =>
    if k.status = .inTransition then k.retNominal ercPgpeStartSuspendNotIdle
    else { k with pc := .entry .start .occ k.status true }
  | .nominalWait =>
    if k.status = .enabled then { k with pc := .nominalSet }
    else if timeout then k.retNominal ercPgpeTaskTimeout
    else k
  | .nominalSet => k.setPmcr cfg ignore rc

/-- The request ends: the PGPE writes its return code, or the message fails. -/
def done (answer : Option Nat) : StatusSys :=
  let k := { k with running := false, parms := { k.parms with rc := answer.getD k.parms.rc } }
  let k := k.pgpeStartSuspendCallback
  { k with completions := (k.flight, answer, k.status) :: k.completions }

end StatusSys

/-! ## Steps -/

inductive StatusEvent
  | startSuspend (action : PstateAction) (owner : PmcrOwner)
  | setNominalPstate
  | thread (ignore timeout : Bool) (rc : Int)
  | done (answer : Option Nat)
  | freqConfig (nominal : Option Pstate)
  /-- other parts use `G_pmcr_set_req`, and its requests end -/
  | pmcrRequest (running : Bool)
  /-- `pgpe_clip_update`, in a simulation -/
  | simicsClip
deriving DecidableEq, Repr

/-- The state after an event, when it can happen. -/
def StatusSys.next (cfg : PgpeConfig) (k : StatusSys) : StatusEvent → Option StatusSys
  | .startSuspend action owner => if k.pc = .idle then some { k with pc := .entry action owner k.status false } else none
  | .setNominalPstate => if k.pc = .idle then some { k with pc := .nominal } else none
  | .thread ignore timeout rc => if k.pc = .idle then none else some (k.thread cfg ignore timeout rc)
  | .done answer => if k.running then some (k.done answer) else none
  | .freqConfig nominal => some { k with nominal := nominal }
  | .pmcrRequest running => some { k with pmcrRunning := running }
  | .simicsClip => if cfg.simics then some { k with parms := { k.parms with rc := pgpeRcSuccess } } else none

/-- After the initialization. -/
def StatusSys.start (cfg : PgpeConfig) : StatusSys where
  status := if cfg.simics then .enabled else .disabled
  pmcrOwner := .host
  ssPgpeRc := pgpeRcSuccess
  parms := ⟨.start, .host, 0⟩
  running := false
  pmcrRunning := false
  pmcr := fun _ => 0
  nominal := none
  pc := .idle
  errl := []
  flight := .start
  completions := []
  results := []
  nominals := []

end Occ.Pgpe

namespace Occ.Pgpe

open Occ Transition

/-- The status that an action leads to. -/
def PstateAction.done : PstateAction → PstateStatus
  | .start => .enabled
  | .stop => .disabled

/-- The status after a request's end: as the PGPE answered; settled in any case. -/
def CompletionOk (c : PstateAction × Option Nat × PstateStatus) : Prop :=
  match c.2.1 with
  | some rc => c.2.2 = if rc = pgpeRcSuccess then c.1.done else .failed
  | none => c.2.2 ≠ .inTransition

/-- What holds where the thread is: the status is written just before the request is scheduled. -/
def StatusPcOk (k : StatusSys) : Prop :=
  match k.pc with
  | .schedule _ _ _ => k.status = .inTransition ∧ k.running = false
  | _ => k.status = .inTransition ↔ k.running = true

structure StatusInv (k : StatusSys) : Prop where
  pcOk : StatusPcOk k
  /-- the parameters are those of the request in flight -/
  flight : k.running = true → k.parms.action = k.flight
  completed : ∀ c ∈ k.completions, CompletionOk c
  restored : ∀ r ∈ k.results, r.1 = ercPgpeStartSuspendFailure → r.2.2 = r.2.1

/-- The conditions on a step. -/
def StatusStepOk (cfg : PgpeConfig) (k : StatusSys) : StatusEvent → Prop
  | .thread _ _ rc =>
    match k.pc with
    | .schedule _ saved _ => cfg.presentCores ≠ 0 ∧ (rc ≠ 0 → saved ≠ .inTransition)
    | _ => True
  | _ => True

instance (cfg : PgpeConfig) (k : StatusSys) (e : StatusEvent) : Decidable (StatusStepOk cfg k e) := by
  unfold StatusStepOk
  split
  · split <;> infer_instance
  · infer_instance

section Steps

variable {cfg : PgpeConfig} {k k' : StatusSys}

/-! ## `pgpe_start_suspend` -/

theorem callback_frame (k : StatusSys) :
    k.pgpeStartSuspendCallback.running = k.running ∧ k.pgpeStartSuspendCallback.parms = k.parms ∧
      k.pgpeStartSuspendCallback.flight = k.flight ∧ k.pgpeStartSuspendCallback.pc = k.pc ∧
        k.pgpeStartSuspendCallback.completions = k.completions ∧ k.pgpeStartSuspendCallback.results = k.results := by
  unfold StatusSys.pgpeStartSuspendCallback
  by_cases hrc : k.parms.rc = pgpeRcSuccess
  · cases ha : k.parms.action <;> simp [hrc, ha]
  · simp [hrc]

theorem callback_status (k : StatusSys) :
    k.pgpeStartSuspendCallback.status = if k.parms.rc = pgpeRcSuccess then k.parms.action.done else .failed := by
  unfold StatusSys.pgpeStartSuspendCallback
  by_cases hrc : k.parms.rc = pgpeRcSuccess
  · cases ha : k.parms.action <;> simp [hrc, ha, PstateAction.done]
  · simp [hrc]

theorem callback_settles (k : StatusSys) : k.pgpeStartSuspendCallback.status ≠ .inTransition := by
  rw [callback_status]
  split
  · cases k.parms.action <;> simp [PstateAction.done]
  · simp

theorem StatusInv.ret (hs : k.status = .inTransition ↔ k.running = true) (hf : k.running = true → k.parms.action = k.flight)
    (hc : ∀ c ∈ k.completions, CompletionOk c)
    (hr : ∀ r ∈ k.results, r.1 = ercPgpeStartSuspendFailure → r.2.2 = r.2.1) {saved : PstateStatus} {nominal : Bool}
    {ext_rc : Nat} (hrc : ext_rc = ercPgpeStartSuspendFailure → k.status = saved) :
    StatusInv (k.ret saved nominal ext_rc) := by
  have hr' : ∀ r ∈ (ext_rc, saved, k.status) :: k.results, r.1 = ercPgpeStartSuspendFailure → r.2.2 = r.2.1 := by
    intro r hmem
    rcases List.mem_cons.1 hmem with rfl | hmem
    · exact hrc
    · exact hr r hmem
  unfold StatusSys.ret
  split
  · split
    · exact ⟨hs, hf, hc, hr'⟩
    · exact ⟨hs, hf, hc, hr'⟩
  · exact ⟨hs, hf, hc, hr'⟩

theorem StatusInv.startSuspendCheck (h : StatusInv k) (hs : k.status = .inTransition ↔ k.running = true)
    (action : PstateAction) (owner : PmcrOwner) (saved : PstateStatus) (nominal ignore : Bool) :
    StatusInv (k.startSuspendCheck cfg action owner saved nominal ignore) := by
  unfold StatusSys.startSuspendCheck
  split
  · apply StatusInv.ret
    · exact hs
    · exact h.flight
    · exact h.completed
    · exact h.restored
    · exact fun hrc => absurd hrc (by decide)
  · rename_i hr
    dsimp only
    split
    -- in a simulation the callback runs at once
    · obtain ⟨hrun, -, -, -, hcomp, hres⟩ :=
        callback_frame { k with parms := { k.parms with action := action, pmcrOwner := owner } }
      have hr' : ¬({ k with parms := { k.parms with action := action, pmcrOwner := owner } } : StatusSys).pgpeStartSuspendCallback.running = true :=
        fun hr' => hr (hrun.symm.trans hr')
      apply StatusInv.ret
      · exact ⟨fun hst => absurd hst (callback_settles _), fun hr'' => absurd hr'' hr'⟩
      · exact fun hr'' => absurd hr'' hr'
      · exact fun c hc => h.completed c (hcomp ▸ hc)
      · exact fun r hr => h.restored r (hres ▸ hr)
      · exact fun hrc => absurd hrc (by decide)
    · exact ⟨⟨rfl, by simpa using hr⟩, fun hr' => absurd hr' hr, h.completed, h.restored⟩

theorem StatusInv.startSuspendSchedule (h : StatusInv k) (hs : k.status = .inTransition ∧ k.running = false)
    {owner : PmcrOwner} {saved : PstateStatus} {nominal : Bool} {rc : Int}
    (hok : cfg.presentCores ≠ 0 ∧ (rc ≠ 0 → saved ≠ .inTransition)) :
    StatusInv (k.startSuspendSchedule cfg owner saved nominal rc) := by
  unfold StatusSys.startSuspendSchedule
  rw [if_neg hok.1]
  split
  · apply StatusInv.ret
    · exact ⟨fun _ => rfl, fun _ => hs.1⟩
    · exact fun _ => rfl
    · exact h.completed
    · exact h.restored
    · exact fun hrc => absurd hrc (by decide)
  · rename_i hrc
    apply StatusInv.ret
    · constructor
      · intro hst
        exact absurd hst (hok.2 hrc)
      · intro hr
        exact absurd (hs.2.symm.trans hr) (by decide)
    · exact h.flight
    · exact h.completed
    · exact h.restored
    · exact fun _ => rfl

/-! ## The steps -/

theorem pgpePmcrSet_frame (cfg : PgpeConfig) (k : StatusSys) (ignore : Bool) (rc : Int) : ∃ errl running,
    (k.pgpePmcrSet cfg ignore rc).1 = { k with errl := errl, pmcrRunning := running } := by
  unfold StatusSys.pgpePmcrSet
  split_ifs <;> exact ⟨_, _, rfl⟩

theorem StatusInv.setPmcr (h : StatusInv k) (hs : k.status = .inTransition ↔ k.running = true) (ignore : Bool) (rc : Int) :
    StatusInv (k.setPmcr cfg ignore rc) := by
  unfold StatusSys.setPmcr
  dsimp only
  obtain ⟨errl, running, heq⟩ := pgpePmcrSet_frame cfg
    { k with pmcr := fun _ => ((k.nominal.getD 0).setWidth 64 <<< 48) ||| 1 } ignore rc
  rw [heq]
  exact ⟨hs, h.flight, h.completed, h.restored⟩

theorem StatusInv.thread (h : StatusInv k) {ignore timeout : Bool} {rc : Int}
    (hok : StatusStepOk cfg k (.thread ignore timeout rc)) : StatusInv (k.thread cfg ignore timeout rc) := by
  have hs := h.pcOk
  unfold StatusPcOk at hs
  unfold StatusStepOk at hok
  unfold StatusSys.thread
  cases hpc : k.pc <;> simp only [hpc] at hs hok ⊢
  case idle => exact h
  case entry action owner saved nominal => exact h.startSuspendCheck hs action owner saved nominal ignore
  case schedule owner saved nominal => exact h.startSuspendSchedule hs hok
  case nominal =>
    split
    · exact ⟨hs, h.flight, h.completed, h.restored⟩
    · split <;> exact ⟨hs, h.flight, h.completed, h.restored⟩
  case nominalOwner => split <;> exact ⟨hs, h.flight, h.completed, h.restored⟩
  case nominalTransition => split <;> exact ⟨hs, h.flight, h.completed, h.restored⟩
  case nominalWait =>
    split
    · exact ⟨hs, h.flight, h.completed, h.restored⟩
    · split
      · exact ⟨hs, h.flight, h.completed, h.restored⟩
      · exact h
  case nominalSet => exact h.setPmcr hs ignore rc

/-- The callback reads the parameters of the request that ended. -/
theorem StatusInv.done (h : StatusInv k) (hr : k.running = true) (answer : Option Nat) : StatusInv (k.done answer) := by
  unfold StatusSys.done
  dsimp only
  obtain ⟨hrun, -, hfl, hpc', hcomp, hres⟩ :=
    callback_frame { k with running := false, parms := { k.parms with rc := answer.getD k.parms.rc } }
  refine ⟨?_, fun hr' => absurd (hrun.symm.trans hr') (by simp), fun c hmem => ?_, fun r hmem => ?_⟩
  · have hpc := h.pcOk
    unfold StatusPcOk at hpc ⊢
    dsimp only
    rw [hpc']
    -- no call is about to schedule, since a request was in flight
    split at hpc
    · exact absurd (hpc.2.symm.trans hr) (by decide)
    · constructor
      · exact fun hst => absurd hst (callback_settles _)
      · exact fun hr' => absurd (hrun.symm.trans hr') (by simp)
  · rcases List.mem_cons.1 hmem with rfl | hmem
    · cases answer with
      | some rc =>
        refine (callback_status _).trans ?_
        show _ = if rc = pgpeRcSuccess then PstateAction.done _ else _
        rw [hfl, ← h.flight hr]
        rfl
      | none => exact callback_settles _
    · exact h.completed c (hcomp ▸ hmem)
  · exact h.restored r (hres ▸ hmem)

theorem StatusInv.next {e : StatusEvent} (h : StatusInv k) (hok : StatusStepOk cfg k e) (hn : k.next cfg e = some k') :
    StatusInv k' := by
  cases e <;> simp only [StatusSys.next] at hn
  case startSuspend action owner =>
    split at hn <;> cases hn
    rename_i hpc
    have hs := h.pcOk
    simp only [StatusPcOk, hpc] at hs
    exact ⟨hs, h.flight, h.completed, h.restored⟩
  case setNominalPstate =>
    split at hn <;> cases hn
    rename_i hpc
    have hs := h.pcOk
    simp only [StatusPcOk, hpc] at hs
    exact ⟨hs, h.flight, h.completed, h.restored⟩
  case thread ignore timeout rc =>
    split at hn <;> cases hn
    exact h.thread hok
  case done answer =>
    split at hn <;> cases hn
    rename_i hr
    exact h.done hr answer
  case freqConfig nominal =>
    cases hn
    exact ⟨h.pcOk, h.flight, h.completed, h.restored⟩
  case pmcrRequest running =>
    cases hn
    exact ⟨h.pcOk, h.flight, h.completed, h.restored⟩
  case simicsClip =>
    split at hn <;> cases hn
    exact ⟨h.pcOk, h.flight, h.completed, h.restored⟩

theorem statusInv_start (cfg : PgpeConfig) : StatusInv (.start cfg) := by
  refine ⟨?_, by simp [StatusSys.start], by simp [StatusSys.start], by simp [StatusSys.start]⟩
  show (if cfg.simics then PstateStatus.enabled else .disabled) = .inTransition ↔ false = true
  cases cfg.simics <;> simp

end Steps

/-! ## Runs -/

/-- A call has written the status and not scheduled its request yet. -/
def StatusSys.scheduling (k : StatusSys) : Prop := ∃ owner saved nominal, k.pc = .schedule owner saved nominal

structure StatusLaw (k : StatusSys) : Prop where
  transition : k.status = .inTransition ↔ k.running = true ∨ k.scheduling
  completed : ∀ c ∈ k.completions, CompletionOk c
  restored : ∀ r ∈ k.results, r.1 = ercPgpeStartSuspendFailure → r.2.2 = r.2.1

theorem StatusInv.law {k : StatusSys} (h : StatusInv k) : StatusLaw k := by
  refine ⟨?_, h.completed, h.restored⟩
  have hpc := h.pcOk
  unfold StatusPcOk at hpc
  split at hpc
  · rename_i owner saved nominal hsch
    exact ⟨fun _ => .inr ⟨owner, saved, nominal, hsch⟩, fun _ => hpc.1⟩
  · rename_i hne
    constructor
    · intro hst
      exact .inl (hpc.1 hst)
    · rintro (hr | ⟨owner, saved, nominal, hsch⟩)
      · exact hpc.2 hr
      · exact absurd hsch (hne owner saved nominal)

theorem run_statusLaw {cfg : PgpeConfig} {k : StatusSys} {es : List StatusEvent}
    (h : Run (Guarded (StatusStepOk cfg) (StepOf (StatusSys.next cfg))) (.start cfg) es k) : StatusLaw k :=
  (h.invariant (P := StatusInv) (fun _ _ _ hk he => hk.next he.1 he.2) (statusInv_start cfg)).law

/-- A system with all cores, and one without. -/
def allCores : PgpeConfig := ⟨false, false, 0x00FFFFFF⟩
def noCores : PgpeConfig := ⟨false, false, 0⟩

/-- The protocol is started and its request ends with an answer; it is suspended, which cannot be scheduled at
first. -/
def statusRun (answer : Nat) : List StatusEvent :=
  [.startSuspend .start .occ, .thread false false 0, .thread false false 0, .done (some answer),
    .startSuspend .stop .occ, .thread false false 0, .thread false false (-1),
    .startSuspend .stop .occ, .thread false false 0, .thread false false 0, .done (some pgpeRcSuccess)]

theorem run_statusLaw_startStop : ∃ k, exec (StatusSys.next allCores) (.start allCores) (statusRun pgpeRcSuccess) = some k ∧
    k.completions = [(.stop, some 1, .disabled), (.start, some 1, .enabled)] ∧
    k.results = [(0, .enabled, .inTransition), (0xB5, .enabled, .enabled), (0, .disabled, .inTransition)] ∧ StatusLaw k :=
  ⟨_, rfl, rfl, rfl, @run_statusLaw allCores _ (statusRun pgpeRcSuccess) (run_guarded_of_exec rfl)⟩

/-- A call saves the status of a request in flight, which ends before the call checks it; the call's own request
cannot be scheduled. -/
def staleRun : List StatusEvent :=
  [.startSuspend .start .occ, .thread false false 0, .thread false false 0,
    .startSuspend .start .host, .done (some pgpeRcSuccess), .thread false false 0, .thread false false (-1)]

/-- A start that ends with an error leaves the status failed. A start without cores leaves it in transition, with
no request in flight, and so does one that saved a stale status. -/
theorem not_started :
    (∃ k, exec (StatusSys.next allCores) (.start allCores) (statusRun 0x20 |>.take 4) = some k ∧
      ∃ c ∈ k.completions, c.2.2 ≠ c.1.done) ∧
    (∃ k, exec (StatusSys.next noCores) (.start noCores) (statusRun 1 |>.take 3) = some k ∧
      k.results = [(0, .disabled, .inTransition)] ∧ k.status = .inTransition ∧ k.running = false ∧ k.pc = .idle) ∧
    ∃ k, exec (StatusSys.next allCores) (.start allCores) staleRun = some k ∧
      k.status = .inTransition ∧ k.running = false ∧ k.pc = .idle := by
  refine ⟨?_, ?_, ?_⟩
  · exact ⟨_, rfl, _, List.mem_cons_self, by decide⟩
  · exact ⟨_, rfl, rfl, rfl, rfl, rfl⟩
  · exact ⟨_, rfl, rfl, rfl, rfl⟩

end Occ.Pgpe
