/-
The freshness of the power measurements. The flag that says that they are there is set by the callback of the last of
three programs, which looks at its own error only, so a measurement is from the tick that uses it when the other two
programs of the tick ended without error as well and none of them is from an earlier tick.
-/
import Occ.Pss.Apss

namespace Occ.Pss

open Dcom Transition
open Function (update)

/-! ## The law -/

/-- All data and the three requests are from the tick of the use, and the requests ended without error. -/
structure ApssUse.Fresh (u : ApssUse) : Prop where
  adc : ∀ i, u.adc i = u.tick
  gpio : u.gpio = u.tick
  tod : u.tod = u.tick
  start : u.requests .startPwrMeas = some u.tick
  cont : u.requests .continuePwrMeas = some u.tick
  complete : u.requests .completePwrMeas = some u.tick

/-- With an APSS, not in standby and with no recovery requested, a measurement that is used is fresh. -/
def ApssLaw (s : Apss) : Prop := ∀ u ∈ s.uses, u.faked = false → u.Fresh

def GpeResult.isOk : GpeResult → Bool
  | .ok .. => true
  | _ => false

/-- The callback will say that the measurement is there, when the last program ends so. -/
def Apss.marks (s : Apss) : GpeResult → Bool
  | .error .. => false
  | _ => (s.requests .completePwrMeas).error == 0 && s.seqOk

/-- The request was scheduled in this tick and has ended without error. -/
def Apss.doneInTick (s : Apss) (f : GpeFunc) : Prop :=
  (s.requests f).tick = some s.currentTick ∧ (s.requests f).good = true

instance (s : Apss) (f : GpeFunc) : Decidable (s.doneInTick f) := inferInstanceAs (Decidable (_ ∧ _))

/-- When the last program ends after the start task of a tick in a way that has the measurement used, it was scheduled in
that tick and ends without error, and so did the first two; and when the flag is set as the inboxes are sent, the start
task has run in that tick. -/
def ApssOk (s : Apss) : ApssEvent → Prop
  | .config .. => True
  | .task run _ _ =>
    s.phase = .txInbox ∧ run = true ∧ s.role = .master ∧ s.faked = false ∧ s.completed = true →
      s.startTick = some s.currentTick
  | .gpe r =>
    s.queue.head? = some .completePwrMeas ∧ s.startTick = some s.currentTick ∧ s.marks r = true →
      r.isOk = true ∧ (s.requests .completePwrMeas).tick = some s.currentTick ∧ s.doneInTick .startPwrMeas ∧
        s.doneInTick .continuePwrMeas

instance (s : Apss) : (e : ApssEvent) → Decidable (ApssOk s e)
  | .config .. => inferInstanceAs (Decidable True)
  | .task run _ _ => inferInstanceAs (Decidable (s.phase = .txInbox ∧ run = true ∧ s.role = .master ∧ s.faked = false ∧
      s.completed = true → s.startTick = some s.currentTick))
  | .gpe r => inferInstanceAs (Decidable (s.queue.head? = some .completePwrMeas ∧ s.startTick = some s.currentTick ∧
      s.marks r = true → r.isOk = true ∧ (s.requests .completePwrMeas).tick = some s.currentTick ∧
        s.doneInTick .startPwrMeas ∧ s.doneInTick .continuePwrMeas))

/-! ## Invariant -/

/-- What is in the queue is under way, once. -/
def QueueOk (s : Apss) : Prop :=
  s.queue.Nodup ∧ ∀ f ∈ s.queue, (s.requests f).idle = false ∧ (s.requests f).good = false ∧
    (s.requests f).tick.isSome = true

/-- `G_apss_pwr_meas` is from this tick, as are the three requests. -/
structure CurrentData (s : Apss) : Prop where
  adc : ∀ i, s.adcTick i = s.currentTick
  gpio : s.gpioTick = s.currentTick
  tod : s.todTick = s.currentTick
  start : s.doneInTick .startPwrMeas
  cont : s.doneInTick .continuePwrMeas
  complete : s.doneInTick .completePwrMeas

structure ApssInv (s : Apss) : Prop where
  start : ∀ t, s.startTick = some t → t ≤ s.currentTick ∧ (s.phase = .apssReset ∨ s.phase = .apssStart → t < s.currentTick)
  complete : ∀ t, (s.requests .completePwrMeas).tick = some t →
    t ≤ s.currentTick ∧ (s.phase ≠ .txInbox → t < s.currentTick)
  queue : QueueOk s
  cont : (s.requests .continuePwrMeas).good = true →
    ∀ i, some (s.continueData i).tick = (s.requests .continuePwrMeas).tick
  fresh : s.completed = true → s.startTick = some s.currentTick →
    s.phase = .txInbox ∧ (s.role = .master → CurrentData s)
  law : ApssLaw s

/-! ## Tasks -/

/-- What the parts of a task leave alone, when they schedule only some requests. -/
structure Touched (fs : GpeFunc → Prop) (s t : Apss) : Prop where
  tick : t.currentTick = s.currentTick
  role : t.role = s.role
  phase : t.phase = s.phase
  data : t.continueData = s.continueData
  uses : t.uses = s.uses
  startTick : t.startTick = s.startTick
  completed : t.completed = s.completed
  ticks : ∀ f, (t.requests f).tick = (s.requests f).tick ∨ (fs f ∧ (t.requests f).tick = some s.currentTick)
  good : ∀ f, (t.requests f).good = true → (s.requests f).good = true ∧ (t.requests f).tick = (s.requests f).tick
  queue : QueueOk s → QueueOk t

section Tasks

variable {fs : GpeFunc → Prop} {s t u : Apss} {f : GpeFunc}

theorem Touched.refl (s : Apss) : Touched fs s s :=
  ⟨rfl, rfl, rfl, rfl, rfl, rfl, rfl, fun _ => .inl rfl, fun _ h => ⟨h, rfl⟩, id⟩

theorem Touched.trans (h : Touched fs s t) (h' : Touched fs t u) : Touched fs s u where
  tick := h'.tick.trans h.tick
  role := h'.role.trans h.role
  phase := h'.phase.trans h.phase
  data := h'.data.trans h.data
  uses := h'.uses.trans h.uses
  startTick := h'.startTick.trans h.startTick
  completed := h'.completed.trans h.completed
  ticks f := by
    rcases h'.ticks f with he | ⟨hf, he⟩
    · rcases h.ticks f with he' | ⟨hf, he'⟩
      · exact .inl (he.trans he')
      · exact .inr ⟨hf, he.trans he'⟩
    · rw [h.tick] at he
      exact .inr ⟨hf, he⟩
  good f hg := by
    obtain ⟨hgt, he⟩ := h'.good f hg
    obtain ⟨hgs, he'⟩ := h.good f hgt
    exact ⟨hgs, he.trans he'⟩
  queue hs := h'.queue (h.queue hs)

theorem touched_setRequest (s : Apss) (f : GpeFunc) {q : GpeReq} (hidle : q.idle = (s.requests f).idle)
    (htick : q.tick = (s.requests f).tick) (hgood : q.good = (s.requests f).good) : Touched fs s (s.setRequest f q) := by
  have hsame (g : GpeFunc) : ((s.setRequest f q).requests g).idle = (s.requests g).idle ∧
      ((s.setRequest f q).requests g).tick = (s.requests g).tick ∧
      ((s.setRequest f q).requests g).good = (s.requests g).good := by
    unfold Apss.setRequest
    by_cases hg : g = f
    · subst hg
      simp [hidle, htick, hgood]
    · simp [hg]
  refine ⟨rfl, rfl, rfl, rfl, rfl, rfl, rfl, fun g => .inl (hsame g).2.1, fun g hg => ?_, fun hq => ⟨hq.1, fun g hg => ?_⟩⟩
  · rw [(hsame g).2.2] at hg
    exact ⟨hg, (hsame g).2.1⟩
  · rw [(hsame g).1, (hsame g).2.2, (hsame g).2.1]
    exact hq.2 g hg

theorem touched_schedule (s : Apss) (failed : Bool) (hf : fs f) : Touched fs s (s.schedule f failed).1 := by
  unfold Apss.schedule
  split
  · exact .refl s
  · rename_i hidle
    simp only [Bool.or_eq_true, Bool.not_eq_true', not_or, Bool.not_eq_true, Bool.not_eq_false] at hidle
    have hne {g : GpeFunc} (hg : g ≠ f) :
        update s.requests f { s.requests f with idle := false, tick := some s.currentTick, good := false } g =
          s.requests g := Function.update_of_ne hg _ _
    refine ⟨rfl, rfl, rfl, rfl, rfl, rfl, rfl, fun g => ?_, fun g hg => ?_, fun hq => ⟨?_, fun g hg => ?_⟩⟩
    · by_cases hgf : g = f
      · subst hgf
        exact .inr ⟨hf, by simp [Apss.setRequest]⟩
      · exact .inl (by simp [Apss.setRequest, hgf])
    · by_cases hgf : g = f
      · subst hgf
        simp [Apss.setRequest] at hg
      · simp only [Apss.setRequest, hne hgf] at hg ⊢
        exact ⟨hg, trivial⟩
    · -- a request that is idle is not in the queue
      have hnot : f ∉ s.queue := fun hmem => by
        have := (hq.2 f hmem).1
        rw [hidle.2] at this
        cases this
      exact List.nodup_append.2 ⟨hq.1, List.nodup_singleton f, fun a ha b hb hab => by
        rw [List.mem_singleton.1 hb] at hab
        subst hab
        exact hnot ha⟩
    · by_cases hgf : g = f
      · subst hgf
        simp [Apss.setRequest]
      · simp only [Apss.setRequest, hne hgf]
        rcases List.mem_append.1 hg with hmem | hmem
        · exact hq.2 g hmem
        · exact absurd (List.mem_singleton.1 hmem) hgf

theorem touched_clearError (s : Apss) (f : GpeFunc) : Touched fs s (s.clearError f) := touched_setRequest s f rfl rfl rfl

theorem touched_setScheduled (s : Apss) (f : GpeFunc) (b : Bool) : Touched fs s (s.setScheduled f b) :=
  touched_setRequest s f rfl rfl rfl

theorem touched_measure (s : Apss) (failed : Bool) (hf : fs f) : Touched fs s (s.measure f failed) := by
  have h : Touched fs s ((s.clearError f).schedule f failed).1 :=
    (touched_clearError s f).trans (touched_schedule _ failed hf)
  unfold Apss.measure
  dsimp only
  split
  · exact ⟨h.tick, h.role, h.phase, h.data, h.uses, h.startTick, h.completed, h.ticks, h.good, h.queue⟩
  · exact h

theorem touched_doApssRecovery (s : Apss) : Touched fs s s.doApssRecovery := by
  have h : Touched fs s s := .refl s
  unfold Apss.doApssRecovery
  split
  · split
    · exact ⟨h.tick, h.role, h.phase, h.data, h.uses, h.startTick, h.completed, h.ticks, h.good, h.queue⟩
    · exact ⟨h.tick, h.role, h.phase, h.data, h.uses, h.startTick, h.completed, h.ticks, h.good, h.queue⟩
  · split
    · exact ⟨h.tick, h.role, h.phase, h.data, h.uses, h.startTick, h.completed, h.ticks, h.good, h.queue⟩
    · exact ⟨h.tick, h.role, h.phase, h.data, h.uses, h.startTick, h.completed, h.ticks, h.good, h.queue⟩

theorem touched_continue (s : Apss) (failed : Bool) :
    Touched (· = .continuePwrMeas) s (s.taskApssContinuePwrMeas failed) := by
  unfold Apss.taskApssContinuePwrMeas
  split
  · exact .refl s
  · split
    · exact .refl s
    · exact touched_measure s failed rfl

theorem touched_complete (s : Apss) (failed : Bool) :
    Touched (· = .completePwrMeas) s (s.taskApssCompletePwrMeas failed) := by
  unfold Apss.taskApssCompletePwrMeas
  split
  · exact .refl s
  · split
    · exact .refl s
    · exact touched_measure s failed rfl

theorem touched_start (s : Apss) (failed : Bool) : ∃ t, Touched (· = .startPwrMeas) s t ∧
    s.taskApssStartPwrMeas failed = { t with completed := false, doneInvalid := false, startTick := some t.currentTick } := by
  unfold Apss.taskApssStartPwrMeas
  split
  · exact ⟨s, .refl s, rfl⟩
  · split
    · exact ⟨_, touched_doApssRecovery s, rfl⟩
    · exact ⟨_, touched_measure s failed rfl, rfl⟩

theorem touched_nextReset (s : Apss) (failed : Bool) :
    Touched (· ≠ .completePwrMeas) s (s.nextReset failed).1 := by
  unfold Apss.nextReset
  split
  · exact (touched_schedule s failed (by decide)).trans (touched_setScheduled _ _ _)
  · split
    · exact ((touched_clearError s _).trans (touched_schedule _ failed (by decide))).trans
        ((touched_setScheduled _ _ _).trans (touched_setScheduled _ _ _))
    · split
      · exact ((touched_clearError s _).trans (touched_schedule _ failed (by decide))).trans
          ((touched_setScheduled _ _ _).trans (touched_setScheduled _ _ _))
      · exact .refl s

theorem touched_reset (s : Apss) (failed : Bool) : Touched (· ≠ .completePwrMeas) s (s.taskApssReset failed) := by
  unfold Apss.taskApssReset
  split
  · exact .refl s
  · split
    · have h : Touched (· ≠ .completePwrMeas) s (s.setScheduled .initMode false) := touched_setScheduled s _ _
      exact ⟨h.tick, h.role, h.phase, h.data, h.uses, h.startTick, h.completed, h.ticks, h.good, h.queue⟩
    · dsimp only
      have h := touched_nextReset s failed
      split
      · have h' := h.trans ((touched_setScheduled _ .reset false).trans
          ((touched_setScheduled _ .initGpio false).trans (touched_setScheduled _ .initMode false)))
        exact ⟨h'.tick, h'.role, h'.phase, h'.data, h'.uses, h'.startTick, h'.completed, h'.ticks, h'.good, h'.queue⟩
      · exact ⟨h.tick, h.role, h.phase, h.data, h.uses, h.startTick, h.completed, h.ticks, h.good, h.queue⟩

end Tasks

/-! ## Programs -/

section Programs

variable {s : Apss} {f : GpeFunc} {rest : List GpeFunc} {r : GpeResult}

theorem storeWords_ok (tick : Nat) (order : List (Fin 4)) (words : Fin 4 → BitVec 64) (data : Fin 4 → MeasWord) (i : Fin 4) :
    storeWords tick order (order.map words) data i = if i ∈ order then ⟨words i, tick⟩ else data i := by
  induction order generalizing data with
  | nil => rfl
  | cons j order ih =>
    simp only [List.map_cons, storeWords, ih, List.mem_cons]
    by_cases hi : i ∈ order
    · simp [hi]
    · by_cases hj : i = j
      · subst hj
        simp [hi]
      · simp [hi, hj]

/-- What the end of a program leaves alone, and what it does to its request. -/
structure Ended (s t : Apss) (f : GpeFunc) (rest : List GpeFunc) (r : GpeResult) : Prop where
  tick : t.currentTick = s.currentTick
  role : t.role = s.role
  phase : t.phase = s.phase
  uses : t.uses = s.uses
  startTick : t.startTick = s.startTick
  queue : t.queue = rest
  other : ∀ g, g ≠ f → t.requests g = s.requests g
  request : (t.requests f).tick = (s.requests f).tick ∧ ((t.requests f).good = true → r.isOk = true ∨ (s.requests f).good = true) ∧
    (r.isOk = true → (t.requests f).good = true)
  cont : f ≠ .continuePwrMeas → t.continueData = s.continueData
  contOk : f = .continuePwrMeas → r.isOk = true → ∀ i, (t.continueData i).tick = ((s.requests f).tick).getD 0
  completeOk : f = .completePwrMeas → r.isOk = true →
    (t.completeData 0).tick = ((s.requests f).tick).getD 0 ∧ (t.completeData 3).tick = ((s.requests f).tick).getD 0
  error : (∃ rc words scratch7, r = .error rc words scratch7 ∧ (t.requests f).error = rc) ∨
    ((∀ rc words scratch7, r ≠ .error rc words scratch7) ∧ (t.requests f).error = (s.requests f).error)
  meas : t.adcTick = s.adcTick ∧ t.gpioTick = s.gpioTick ∧ t.todTick = s.todTick ∧ t.completed = s.completed

theorem storeData_same (s : Apss) (f : GpeFunc) (words : List (Fin 4) → List (BitVec 64)) (scratch7 : BitVec 32) :
    s.storeData f words scratch7 =
      { s with
        continueData := (s.storeData f words scratch7).continueData
        completeData := (s.storeData f words scratch7).completeData
        mboxScratch7 := (s.storeData f words scratch7).mboxScratch7 } := by
  cases f <;> rfl

theorem storeData_continue (s : Apss) (words : List (Fin 4) → List (BitVec 64)) (scratch7 : BitVec 32)
    (h : f ≠ .continuePwrMeas) : (s.storeData f words scratch7).continueData = s.continueData := by
  cases f with
  | continuePwrMeas => exact absurd rfl h
  | _ => rfl

theorem runProgram_ended (s : Apss) (f : GpeFunc) (rest : List GpeFunc) (r : GpeResult) :
    Ended s ({ s with queue := rest }.runProgram f r) f rest r := by
  cases r with
  | ok words scratch7 =>
    unfold Apss.runProgram
    dsimp only
    have hsame := storeData_same { s with queue := rest } f (fun order => order.map words) scratch7
    refine ⟨?_, ?_, ?_, ?_, ?_, ?_, ?_, ?_, ?_, ?_, ?_, ?_, ?_⟩
    · rw [hsame]; rfl
    · rw [hsame]; rfl
    · rw [hsame]; rfl
    · rw [hsame]; rfl
    · rw [hsame]; rfl
    · rw [hsame]; rfl
    · intro g hg
      rw [hsame]
      exact Function.update_of_ne hg _ _
    · simp [Apss.setRequest, GpeResult.isOk]
    · exact storeData_continue _ _ _
    · rintro rfl - i
      show (storeWords _ continueOrder _ _ i).tick = _
      rw [storeWords_ok, if_pos (by revert i; decide)]
    · rintro rfl -
      constructor
      · show (storeWords _ completeOrder _ _ 0).tick = _
        rw [storeWords_ok, if_pos (by decide)]
      · show (storeWords _ completeOrder _ _ 3).tick = _
        rw [storeWords_ok, if_pos (by decide)]
    · exact .inr ⟨nofun, by simp [Apss.setRequest]⟩
    · rw [hsame]
      exact ⟨rfl, rfl, rfl, rfl⟩
  | error rc words scratch7 =>
    unfold Apss.runProgram
    dsimp only
    have hsame := storeData_same { s with queue := rest } f (fun _ => words) scratch7
    refine ⟨?_, ?_, ?_, ?_, ?_, ?_, ?_, ?_, ?_, nofun, nofun, ?_, ?_⟩
    · rw [hsame]; rfl
    · rw [hsame]; rfl
    · rw [hsame]; rfl
    · rw [hsame]; rfl
    · rw [hsame]; rfl
    · rw [hsame]; rfl
    · intro g hg
      rw [hsame]
      exact Function.update_of_ne hg _ _
    · simp [Apss.setRequest, GpeResult.isOk]
    · exact storeData_continue _ _ _
    · exact .inl ⟨rc, words, scratch7, rfl, by simp [Apss.setRequest]⟩
    · rw [hsame]
      exact ⟨rfl, rfl, rfl, rfl⟩
  | ipcFailed =>
    refine ⟨rfl, rfl, rfl, rfl, rfl, rfl, fun g hg => Function.update_of_ne hg _ _, ?_, fun _ => rfl, nofun, nofun,
      .inr ⟨nofun, ?_⟩, ⟨rfl, rfl, rfl, rfl⟩⟩
    · simp [Apss.runProgram, Apss.setRequest, GpeResult.isOk]
    · simp [Apss.runProgram, Apss.setRequest]

theorem reformat_same (u : Apss) : u.reformatMeasData =
    { u with
      apssPwrMeas := u.reformatMeasData.apssPwrMeas
      completed := u.reformatMeasData.completed
      doneInvalid := u.reformatMeasData.doneInvalid
      recoveryRequested := u.reformatMeasData.recoveryRequested
      backupFailCount := u.reformatMeasData.backupFailCount
      adcTick := u.reformatMeasData.adcTick
      gpioTick := u.reformatMeasData.gpioTick
      todTick := u.reformatMeasData.todTick } := by
  unfold Apss.reformatMeasData
  split
  · rfl
  · split
    · rfl
    · dsimp only
      split <;> rfl

theorem reformat_cases (u : Apss) :
    (((u.requests .completePwrMeas).error == 0 && u.seqOk) = false ∧ u.reformatMeasData.completed = u.completed) ∨
      (((u.requests .completePwrMeas).error == 0 && u.seqOk) = true ∧
        (u.role = .master → u.reformatMeasData.adcTick = (fun i => (u.continueData i).tick) ∧
          u.reformatMeasData.gpioTick = (u.completeData 0).tick ∧ u.reformatMeasData.todTick = (u.completeData 3).tick)) := by
  unfold Apss.reformatMeasData
  by_cases herr : (u.requests .completePwrMeas).error = 0
  · rw [if_neg (not_not.2 herr)]
    cases hseq : u.seqOk with
    | false => exact .inl ⟨by simp, rfl⟩
    | true =>
      refine .inr ⟨by simp [herr], fun hrole => ?_⟩
      simp only [Bool.not_true, Bool.false_eq_true, if_false, hrole, if_true]
      exact ⟨rfl, rfl, rfl⟩
  · rw [if_pos herr]
    exact .inl ⟨by rw [beq_eq_false_iff_ne.2 herr, Bool.false_and], rfl⟩

theorem marks_eq {u : Apss} (h : Ended s u .completePwrMeas rest r) (hproper : r.proper = true) :
    ((u.requests .completePwrMeas).error == 0 && u.seqOk) = s.marks r := by
  have hseq : u.seqOk = s.seqOk := by
    unfold Apss.seqOk
    rw [h.cont (by decide)]
  rcases h.error with ⟨rc, words, scratch7, rfl, herr⟩ | ⟨hno, herr⟩
  · rw [herr]
    rw [beq_eq_false_iff_ne.2 (bne_iff_ne.1 hproper), Bool.false_and]
    rfl
  · rw [herr, hseq]
    cases r with
    | ok words scratch7 => rfl
    | error rc words scratch7 => exact absurd rfl (hno rc words scratch7)
    | ipcFailed => rfl

end Programs

/-! ## Steps -/

section Steps

variable {s t : Apss}

theorem Ended.queueOk {f : GpeFunc} {rest : List GpeFunc} {r : GpeResult} (h : Ended s t f rest r) (hq : QueueOk s)
    (hqueue : s.queue = f :: rest) : QueueOk t := by
  obtain ⟨hnodup, hall⟩ := hq
  rw [hqueue] at hnodup hall
  obtain ⟨hf, hrest⟩ := List.nodup_cons.1 hnodup
  refine ⟨by rw [h.queue]; exact hrest, fun g hg => ?_⟩
  rw [h.queue] at hg
  rw [h.other g fun hgf => hf (hgf ▸ hg)]
  exact hall g (List.mem_cons_of_mem _ hg)

/-- A program other than the last one ends. -/
theorem apssInv_ended {f : GpeFunc} {rest : List GpeFunc} {r : GpeResult} (hs : ApssInv s) (hqueue : s.queue = f :: rest)
    (h : Ended s t f rest r) (hf : f ≠ .completePwrMeas) : ApssInv t := by
  have hmem : f ∈ s.queue := hqueue ▸ List.mem_cons_self
  obtain ⟨-, hbad, hsome⟩ := hs.queue.2 f hmem
  have hcomplete : t.requests .completePwrMeas = s.requests .completePwrMeas := h.other _ (Ne.symm hf)
  refine ⟨?_, ?_, h.queueOk hs.queue hqueue, fun hgood i => ?_, fun hc hst => ?_, ?_⟩
  · rw [h.startTick, h.tick, h.phase]
    exact hs.start
  · rw [hcomplete, h.tick, h.phase]
    exact hs.complete
  · by_cases hfc : f = .continuePwrMeas
    · subst hfc
      have hok : r.isOk = true := by
        rcases h.request.2.1 hgood with hok | hg
        · exact hok
        · rw [hbad] at hg
          cases hg
      rw [h.contOk rfl hok i, h.request.1]
      obtain ⟨k, hk⟩ := Option.isSome_iff_exists.1 hsome
      rw [hk]
      rfl
    · rw [h.other _ (Ne.symm hfc)] at hgood ⊢
      rw [h.cont hfc]
      exact hs.cont hgood i
  · rw [h.meas.2.2.2] at hc
    rw [h.startTick, h.tick] at hst
    obtain ⟨hphase, hdata⟩ := hs.fresh hc hst
    rw [h.phase, h.role]
    refine ⟨hphase, fun hrole => ?_⟩
    have hd := hdata hrole
    -- none of the three programs is under way
    have hother {g : GpeFunc} (hg : s.doneInTick g) : t.doneInTick g := by
      have hgf : g ≠ f := by
        rintro rfl
        have := hg.2
        rw [hbad] at this
        cases this
      unfold Apss.doneInTick
      rw [h.other g hgf, h.tick]
      exact hg
    refine ⟨fun i => ?_, ?_, ?_, hother hd.start, hother hd.cont, hother hd.complete⟩
    · rw [h.meas.1, h.tick]
      exact hd.adc i
    · rw [h.meas.2.1, h.tick]
      exact hd.gpio
    · rw [h.meas.2.2.1, h.tick]
      exact hd.tod
  · unfold ApssLaw
    rw [h.uses]
    exact hs.law

/-- The last program ends and its callback runs. -/
theorem apssInv_completed {rest : List GpeFunc} {r : GpeResult} (hs : ApssInv s)
    (hqueue : s.queue = .completePwrMeas :: rest) (hproper : r.proper = true) (hok : ApssOk s (.gpe r))
    (h : Ended s t .completePwrMeas rest r) : ApssInv t.reformatMeasData := by
  have hmem : .completePwrMeas ∈ s.queue := hqueue ▸ List.mem_cons_self
  obtain ⟨-, hbad, hsome⟩ := hs.queue.2 _ hmem
  have hsame := reformat_same t
  have htick : t.reformatMeasData.currentTick = s.currentTick := by rw [hsame]; exact h.tick
  have hphase : t.reformatMeasData.phase = s.phase := by rw [hsame]; exact h.phase
  have hrequests : t.reformatMeasData.requests = t.requests := by rw [hsame]
  have hstartTick : t.reformatMeasData.startTick = s.startTick := by rw [hsame]; exact h.startTick
  have hcont : t.requests .continuePwrMeas = s.requests .continuePwrMeas := h.other _ (by decide)
  refine ⟨?_, ?_, ?_, fun hgood i => ?_, fun hc hst => ?_, ?_⟩
  · rw [hstartTick, htick, hphase]
    exact hs.start
  · rw [hrequests, htick, hphase, h.request.1]
    exact hs.complete
  · have hq := h.queueOk hs.queue hqueue
    unfold QueueOk
    rw [hrequests, show t.reformatMeasData.queue = t.queue by rw [hsame]]
    exact hq
  · rw [hrequests, hcont] at hgood ⊢
    rw [show t.reformatMeasData.continueData = s.continueData by rw [hsame]; exact h.cont (by decide)]
    exact hs.cont hgood i
  · rw [hstartTick, htick] at hst
    rw [hphase]
    have hmarks := marks_eq h hproper
    rcases reformat_cases t with ⟨hno, hsamec⟩ | ⟨hyes, hcopy⟩
    · -- the flag was set before, and then this program was not under way
      rw [hsamec, h.meas.2.2.2] at hc
      obtain ⟨hp, hdata⟩ := hs.fresh hc hst
      refine ⟨hp, fun hrole => ?_⟩
      have hgood := (hdata (by rw [← h.role, ← hrole, hsame])).complete.2
      rw [hbad] at hgood
      cases hgood
    · rw [hmarks] at hyes
      obtain ⟨hisOk, hct, hstart, hcontinue⟩ := hok ⟨by rw [hqueue]; rfl, hst, hyes⟩
      refine ⟨?_, fun hrole => ?_⟩
      · by_contra hp
        exact absurd ((hs.complete _ hct).2 hp) (Nat.lt_irrefl _)
      · obtain ⟨hadc, hgpio, htod⟩ := hcopy (by rw [← hrole, hsame])
        have hother {g : GpeFunc} (hg : s.doneInTick g) (hne : g ≠ .completePwrMeas) :
            t.reformatMeasData.doneInTick g := by
          unfold Apss.doneInTick
          rw [hrequests, htick, h.other g hne]
          exact hg
        obtain ⟨h0, h3⟩ := h.completeOk rfl hisOk
        rw [hct] at h0 h3
        refine ⟨fun i => ?_, ?_, ?_, hother hstart (by decide), hother hcontinue (by decide), ?_, ?_⟩
        · rw [hadc, htick]
          have hi := hs.cont hcontinue.2 i
          rw [hcontinue.1] at hi
          show (t.continueData i).tick = _
          rw [h.cont (by decide)]
          exact Option.some.inj hi
        · rw [hgpio, htick]
          exact h0
        · rw [htod, htick]
          exact h3
        · rw [hrequests, htick, h.request.1]
          exact hct
        · rw [hrequests]
          exact h.request.2.2 hisOk
  · unfold ApssLaw
    rw [show t.reformatMeasData.uses = s.uses by rw [hsame]; exact h.uses]
    exact hs.law

/-- The parts of a task, before the next phase. -/
theorem apssInv_touched {fs : GpeFunc → Prop} {p : Phase} (hs : ApssInv s) (h : Touched fs s t)
    (hbefore : s.startTick = some s.currentTick → s.completed = false)
    (hphase : p = .apssReset ∨ p = .apssStart → s.phase = .apssReset ∨ s.phase = .apssStart)
    (hcomplete : p = .txInbox ∨ ¬fs .completePwrMeas ∧ s.phase ≠ .txInbox) : ApssInv { t with phase := p } where
  start k hk := by
    have hk' : s.startTick = some k := h.startTick ▸ hk
    obtain ⟨hle, hlt⟩ := hs.start k hk'
    refine ⟨h.tick ▸ hle, fun hp => ?_⟩
    rw [show ({ t with phase := p } : Apss).currentTick = s.currentTick from h.tick]
    exact hlt (hphase hp)
  complete k hk := by
    rw [show ({ t with phase := p } : Apss).currentTick = s.currentTick from h.tick]
    rcases h.ticks .completePwrMeas with he | ⟨hf, he⟩
    · obtain ⟨hle, hlt⟩ := hs.complete k (he ▸ hk)
      refine ⟨hle, fun hp => ?_⟩
      rcases hcomplete with htx | ⟨-, hne⟩
      · exact absurd htx hp
      · exact hlt hne
    · cases he.symm.trans hk
      refine ⟨Nat.le_refl _, fun hp => ?_⟩
      rcases hcomplete with htx | ⟨hnot, -⟩
      · exact absurd htx hp
      · exact absurd hf hnot
  queue := h.queue hs.queue
  cont hgood i := by
    obtain ⟨hg, he⟩ := h.good .continuePwrMeas hgood
    show some (t.continueData i).tick = (t.requests .continuePwrMeas).tick
    rw [h.data, he]
    exact hs.cont hg i
  fresh hc hst := by
    have hc' : s.completed = true := h.completed ▸ hc
    have hst' : s.startTick = some s.currentTick := by
      rw [← h.startTick, ← h.tick]
      exact hst
    rw [hbefore hst'] at hc'
    cases hc'
  law := by
    show ∀ u ∈ t.uses, _
    rw [h.uses]
    exact hs.law

theorem ApssInv.completed_eq (hs : ApssInv s) (hphase : s.phase ≠ .txInbox) (hst : s.startTick = some s.currentTick) :
    s.completed = false := by
  cases hc : s.completed with
  | false => rfl
  | true => exact absurd (hs.fresh hc hst).1 hphase

theorem apssInv_nextTick (hs : ApssInv s) : ApssInv s.nextTick where
  start k hk := by
    obtain ⟨hle, -⟩ := hs.start k hk
    exact ⟨Nat.le_succ_of_le hle, fun _ => Nat.lt_succ_of_le hle⟩
  complete k hk := by
    obtain ⟨hle, -⟩ := hs.complete k hk
    exact ⟨Nat.le_succ_of_le hle, fun _ => Nat.lt_succ_of_le hle⟩
  queue := hs.queue
  cont := hs.cont
  fresh _ hst := absurd ((hs.start _ hst).1) (Nat.not_succ_le_self _)
  law := hs.law

theorem CurrentData.fresh (h : CurrentData s) : ApssUse.Fresh
    ⟨s.currentTick, s.faked, s.adcTick, s.gpioTick, s.todTick,
      fun f => if (s.requests f).good then (s.requests f).tick else none⟩ := by
  have hdone {f : GpeFunc} (hf : s.doneInTick f) :
      (if (s.requests f).good then (s.requests f).tick else none) = some s.currentTick := by
    rw [if_pos hf.2]
    exact hf.1
  exact ⟨h.adc, h.gpio, h.tod, hdone h.start, hdone h.cont, hdone h.complete⟩

theorem apssInv_use (hs : ApssInv s) (completed : Bool) (hfresh : s.faked = false → CurrentData s) :
    ApssInv ({ s with completed := completed }.use.nextTick) where
  start k hk := by
    obtain ⟨hle, -⟩ := hs.start k hk
    exact ⟨Nat.le_succ_of_le hle, fun _ => Nat.lt_succ_of_le hle⟩
  complete k hk := by
    obtain ⟨hle, -⟩ := hs.complete k hk
    exact ⟨Nat.le_succ_of_le hle, fun _ => Nat.lt_succ_of_le hle⟩
  queue := hs.queue
  cont := hs.cont
  fresh _ hst := absurd ((hs.start _ hst).1) (Nat.not_succ_le_self _)
  law := by
    rintro u (_ | ⟨_, hu⟩) hfaked
    · exact (hfresh hfaked).fresh
    · exact hs.law u hu hfaked

/-- A turn of the wait uses the measurement only when it is fresh or faked. -/
theorem apssInv_txInbox (hs : ApssInv s) (late : Bool) (hrole : s.role = .master)
    (hok : s.faked = false → s.completed = true → s.startTick = some s.currentTick) : ApssInv (s.txInbox late) := by
  unfold Apss.txInbox Apss.poll
  by_cases hfaked : s.faked = true
  · simp only [hfaked, if_true]
    refine apssInv_use hs true fun h => ?_
    rw [hfaked] at h
    cases h
  · have hf : s.faked = false := Bool.not_eq_true _ ▸ hfaked
    simp only [hf, Bool.false_eq_true, if_false]
    cases hc : s.completed with
    | true =>
      simp only [if_true]
      exact apssInv_use hs s.completed fun _ => (hs.fresh hc (hok hf hc)).2 hrole
    | false =>
      simp only [Bool.false_eq_true, if_false]
      cases hd : s.doneInvalid with
      | true => exact apssInv_nextTick hs
      | false =>
        cases late with
        | true => exact apssInv_nextTick hs
        | false => exact hs

theorem apssInv_task (hs : ApssInv s) (run failed late : Bool) (hok : ApssOk s (.task run failed late)) :
    ApssInv (s.task run failed late) := by
  unfold Apss.task
  cases hp : s.phase with
  | apssReset =>
    dsimp only
    have hne : s.phase ≠ .txInbox := by rw [hp]; decide
    have h : Touched (· ≠ .completePwrMeas) s (if (run && s.resetRun) = true then s.taskApssReset failed else s) := by
      split
      · exact touched_reset s failed
      · exact .refl s
    exact apssInv_touched hs h (hs.completed_eq hne) (fun _ => .inl hp) (.inr ⟨fun h => h rfl, hne⟩)
  | apssStart =>
    dsimp only
    have hne : s.phase ≠ .txInbox := by rw [hp]; decide
    split
    · -- the start task clears the flag
      obtain ⟨t, ht, he⟩ := touched_start s failed
      rw [he]
      have hinv := apssInv_touched (p := .apssCont) hs ht (hs.completed_eq hne) nofun (.inr ⟨nofun, hne⟩)
      exact ⟨fun k hk => by cases hk; exact ⟨Nat.le_refl _, nofun⟩, hinv.complete, hinv.queue, hinv.cont, nofun, hinv.law⟩
    · exact apssInv_touched hs (@Touched.refl (fun _ => False) s) (hs.completed_eq hne) nofun (.inr ⟨id, hne⟩)
  | apssCont =>
    dsimp only
    have hne : s.phase ≠ .txInbox := by rw [hp]; decide
    have h : Touched (· = .continuePwrMeas) s (if (run && s.measRun) = true then s.taskApssContinuePwrMeas failed else s) := by
      split
      · exact touched_continue s failed
      · exact .refl s
    exact apssInv_touched hs h (hs.completed_eq hne) nofun (.inr ⟨nofun, hne⟩)
  | apssDone =>
    dsimp only
    have hne : s.phase ≠ .txInbox := by rw [hp]; decide
    have h : Touched (· = .completePwrMeas) s (if (run && s.measRun) = true then s.taskApssCompletePwrMeas failed else s) := by
      split
      · exact touched_complete s failed
      · exact .refl s
    exact apssInv_touched hs h (hs.completed_eq hne) nofun (.inl rfl)
  | txInbox =>
    dsimp only
    split
    · rename_i hrun
      simp only [Bool.and_eq_true, beq_iff_eq] at hrun
      exact apssInv_txInbox hs late hrun.2 fun hf hc => hok ⟨hp, hrun.1, hrun.2, hf, hc⟩
    · exact apssInv_nextTick hs

/-- One step, by events. -/
theorem apssInv_step (e : ApssEvent) (hs : ApssInv s) (hok : ApssOk s e) (h : apssNext s e = some t) : ApssInv t := by
  cases e with
  | config role standby pwrReadingTypeApss nvdimmEpow injectedEpowAsserted =>
    obtain ⟨hp, ⟨⟩⟩ := Option.ite_none_right_eq_some.1 h
    refine ⟨hs.start, hs.complete, hs.queue, hs.cont, fun hc hst => ?_, hs.law⟩
    have hnot := hs.completed_eq (by rw [hp]; decide) hst
    rw [hnot] at hc
    cases hc
  | task run failed late =>
    cases h
    exact apssInv_task hs run failed late hok
  | gpe r =>
    simp only [apssNext] at h
    split at h
    · rename_i f rest hqueue
      obtain ⟨hproper, ⟨⟩⟩ := Option.ite_none_right_eq_some.1 h
      have hended := runProgram_ended s f rest r
      unfold Apss.gpeEnd
      dsimp only
      split
      · rename_i hf
        subst hf
        exact apssInv_completed hs hqueue hproper hok hended
      · rename_i hf
        exact apssInv_ended hs hqueue hended hf
    · cases h

theorem apssInv_boot : ApssInv .boot where
  start := nofun
  complete := nofun
  queue := ⟨List.nodup_nil, nofun⟩
  cont := nofun
  fresh := nofun
  law := nofun

/-- Measurements that are used are fresh in every run whose steps meet the condition. -/
theorem apssLaw_of_apssOk {es : List ApssEvent} (h : Run (Guarded ApssOk (StepOf apssNext)) .boot es s) : ApssLaw s :=
  (h.invariant (P := ApssInv) (fun _ e _ hs hst => apssInv_step e hs hst.1 hst.2) apssInv_boot).law

end Steps

/-- Words with the sequence nibbles of the channels. -/
def readings : GpeResult := .ok (fun _ => 0x0001100220033004) 0

def runTask : ApssEvent := .task true false false

/-- The master leaves standby. -/
def observe : ApssEvent := .config .master false true syscfgInvalidPin false

/-- A tick in which all three programs end in time and without error. -/
def goodTick : List ApssEvent :=
  [runTask, runTask, .gpe readings, runTask, .gpe readings, runTask, .gpe readings, runTask]

theorem apssLaw_of_apssOk_goodTick :
    ∃ t, Run (Guarded ApssOk (StepOf apssNext)) .boot (observe :: goodTick) t ∧ t.uses.map (·.faked) = [false] ∧ ApssLaw t := by
  have hrun : (exec (fun s e => if ApssOk s e then apssNext s e else none) .boot (observe :: goodTick)).map
      (fun t => t.uses.map (·.faked)) = some [false] := by decide
  obtain ⟨t, ht, hu⟩ := Option.map_eq_some_iff.1 hrun
  have h := run_guarded_of_exec ht
  exact ⟨t, h, hu, apssLaw_of_apssOk h⟩

/-- In a second tick the middle program fails before it has read anything. -/
def failedContinue : List ApssEvent :=
  observe :: goodTick ++ [runTask, runTask, .gpe readings, runTask, .gpe (.error 1 [] 0), runTask, .gpe readings, runTask]

/-- The last program of a tick ends after the start task of the next one. -/
def lateComplete : List ApssEvent :=
  [observe, runTask, runTask, .gpe readings, runTask, .gpe readings, runTask, .task true false true,
    runTask, runTask, .gpe readings, runTask, runTask, runTask]

/-- After an error of the middle program, and when the last one is late, old data is used. -/
theorem apssLaw_fails :
    (∃ t, Run (StepOf apssNext) .boot failedContinue t ∧ ¬ApssLaw t) ∧
      ∃ t, Run (StepOf apssNext) .boot lateComplete t ∧ ¬ApssLaw t := by
  have hold {t : Apss} {k : Nat} (hu : t.uses.head?.map (fun u => (u.tick, u.faked, u.adc 0)) = some (k + 1, false, k)) :
      ¬ApssLaw t := by
    intro hlaw
    obtain ⟨u, hhead, he⟩ := Option.map_eq_some_iff.1 hu
    obtain ⟨htick, hrest⟩ := Prod.mk.inj he
    obtain ⟨hfaked, hadc⟩ := Prod.mk.inj hrest
    have := (hlaw u (List.mem_of_mem_head? hhead) hfaked).adc 0
    omega
  constructor
  · have hrun : (exec apssNext .boot failedContinue).map
        (fun t => t.uses.head?.map fun u => (u.tick, u.faked, u.adc 0)) = some (some (1, false, 0)) := by decide
    obtain ⟨t, ht, hu⟩ := Option.map_eq_some_iff.1 hrun
    exact ⟨t, exec_eq_some_iff.1 ht, hold (k := 0) hu⟩
  · have hrun : (exec apssNext .boot lateComplete).map
        (fun t => t.uses.head?.map fun u => (u.tick, u.faked, u.adc 0)) = some (some (1, false, 0)) := by decide
    obtain ⟨t, ht, hu⟩ := Option.map_eq_some_iff.1 hrun
    exact ⟨t, exec_eq_some_iff.1 ht, hold (k := 0) hu⟩

end Occ.Pss
