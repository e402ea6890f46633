/-
The attempts of the GPU task to set a power limit: which stages the GPE has answered with success, how often the last step
was repeated, how often an answer was looked at, and how many attempts on a GPU were given up in a row.
-/
import Occ.Gpu.TempCycleLaw
import Occ.Lib.Literals

namespace Occ.Gpu

open Occ Transition
open Function (update)

attribute [local instance] neZero_three

/-! ## The history of an attempt -/

structure Attempt where
  /-- the stages that the GPE has answered with success -/
  passed : List Nat
  /-- how often step 4 was repeated -/
  repeats : Nat
  /-- how often the state machine was called with the GPE idle -/
  looks : Nat
  /-- `L_attempts` was not above the time-out when the attempt began -/
  clean : Bool

/-- The task with the history of the current attempt. -/
structure PcapRun where
  sm : GpuSm
  attempt : Option Attempt
  /-- the attempts on a GPU that were given up since one was completed or the driver changed -/
  row : Fin 3 → Nat

/-- An attempt begins when the task chooses a GPU to set the limit of. -/
def attemptBegun (c : Config) (t : GpuSm) : Option Attempt :=
  if t.gpuState = .op .setPwrLimit then some ⟨[], 0, 0, decide ((t.sm .setPwrLimit).attempts ≤ c.gpuTimeout)⟩ else none

/-- The state machine was called in `s` and has led to `t`. -/
def Attempt.look (s t : GpuSm) (a : Attempt) : Attempt :=
  if s.requestIdle then
    { a with
      passed :=
        if (s.sm .setPwrLimit).stage ≠ 0 ∧ (s.sm .setPwrLimit).scheduled = true ∧ s.opReqArgs.rc = gpeRcSuccess then
          a.passed ++ [(s.sm .setPwrLimit).stage]
        else a.passed
      repeats := if (s.sm .setPwrLimit).stage = 15 ∧ (t.sm .setPwrLimit).stage = 13 then a.repeats + 1 else a.repeats
      looks := a.looks + 1 }
  else a

instance (o : Op) (k : Sm) (rc : Nat) : Decidable (o.SeesDriverChange k rc) := inferInstanceAs (Decidable (_ ∧ _))
instance (o : Op) (n : Nat) (k : Sm) (rc : Nat) : Decidable (o.IsGivenUp n k rc) := inferInstanceAs (Decidable (_ ∧ _))
instance (o : Op) (k : Sm) (rc : Nat) : Decidable (o.IsComplete k rc) := inferInstanceAs (Decidable (_ ∧ _))

/-- The attempts given up in a row, after a call of the state machine in `s`. -/
def rowAfter (c : Config) (s : GpuSm) (row : Fin 3 → Nat) : Fin 3 → Nat :=
  if s.requestIdle = true ∧ Op.IsGivenUp .setPwrLimit c.gpuTimeout (s.sm .setPwrLimit) s.opReqArgs.rc then
    update row s.currentGpuId (row s.currentGpuId + 1)
  else if s.requestIdle = true ∧ (Op.IsComplete .setPwrLimit (s.sm .setPwrLimit) s.opReqArgs.rc ∨
      Op.SeesDriverChange .setPwrLimit (s.sm .setPwrLimit) s.opReqArgs.rc) then
    update row s.currentGpuId 0
  else row

namespace PcapRun

variable (c : Config) (x : PcapRun)

/-- A turn of the task's loop. -/
def pass (i : PassInput) : PcapRun × Bool :=
  let s := x.sm.checkMonitoring
  let ran := s.machine c i.schedules
  let p := x.sm.pass c i
  match x.attempt with
  | none => ({ x with sm := p.1, attempt := attemptBegun c p.1 }, p.2)
  | some a =>
    if s.gpuState = .op .setPwrLimit then
      ({ sm := p.1, attempt := if ran.2 then attemptBegun c p.1 else some (a.look s ran.1), row := rowAfter c s x.row }, p.2)
    else ({ x with sm := p.1, attempt := attemptBegun c p.1 }, p.2)

def beginTick (i : TickInput) : PcapRun := { x with sm := x.sm.beginTick c i }

def tick (i : TickInput) : PcapRun :=
  if x.sm.monitoringAllowed then
    let first := (x.beginTick c i).pass c i.pass1
    if first.2 then (first.1.pass c i.pass2).1 else first.1
  else x

end PcapRun

def PcapRun.next (c : Config) (x : PcapRun) : Event → Option PcapRun
  | .tick i => some (x.tick c i)
  | e => (Gpu.next c x.sm e).map fun t => { x with sm := t }

def PcapRun.boot (occFlags : Fin 3 → Bool) : PcapRun := ⟨.boot occFlags, none, fun _ => 0⟩

/-! ## The law -/

/-- What needs the driver of the GPU is not known. -/
structure AmecGpu.Cleared (g : AmecGpu) : Prop where
  driverLoaded : g.driverLoaded = false
  pwrLimitsRead : g.pwrLimitsRead = false
  desired : g.gpuDesiredPcapMw = 0
  requested : g.gpuRequestedPcapMw = 0

/-- The requested limit is kept or cleared, and setting a limit does not count as failed now. -/
structure AmecGpu.KeepsPcap (g g' : AmecGpu) : Prop where
  requested : g'.gpuRequestedPcapMw ≠ g.gpuRequestedPcapMw → g'.Cleared
  setFailed : g.setFailed = false → g'.setFailed = false

/-- The limit that the GPE returns at the end of an attempt all of whose stages it has answered with success. -/
def Earned (c : Config) (x : PcapRun) (i : PassInput) (g : Fin 3) : Prop :=
  let s := x.sm.checkMonitoring
  ∃ a, x.attempt = some a ∧ s.gpuState = .op .setPwrLimit ∧ g = s.currentGpuId ∧
    (∀ n, 1 ≤ n → n ≤ Op.requests .setPwrLimit → n ∈ (a.look s (s.machine c i.schedules).1).passed) ∧
    ((x.sm.pass c i).1.gpu g).gpuRequestedPcapMw = (s.opReqArgs.data 0).setWidth 32

/-- The attempt is given up, after too many in a row or after too many repetitions of step 4; nothing is said of one that
began with `L_attempts` above the time-out. -/
def Condemned (c : Config) (x : PcapRun) (i : PassInput) (g : Fin 3) : Prop :=
  let s := x.sm.checkMonitoring
  ∃ a, x.attempt = some a ∧ s.gpuState = .op .setPwrLimit ∧ g = s.currentGpuId ∧
    (a.clean = true → (x.pass c i).1.row g > gpuErrorCount ∨ a.repeats > c.gpuTimeout)

/-- The looks of an attempt, at most. -/
def looksOfAttempt (c : Config) : Nat := 15 * (c.gpuTimeout + 1) + 75

/-- What a turn of the loop does to the limits. -/
structure PcapTurn (c : Config) (x : PcapRun) (i : PassInput) : Prop where
  requested : ∀ g, ((x.sm.pass c i).1.gpu g).gpuRequestedPcapMw ≠ (x.sm.gpu g).gpuRequestedPcapMw →
    ((x.sm.pass c i).1.gpu g).Cleared ∨ Earned c x i g
  setFailed : ∀ g, (x.sm.gpu g).setFailed = false → ((x.sm.pass c i).1.gpu g).setFailed = true → Condemned c x i g
  bounded : ∀ a, (x.pass c i).1.attempt = some a → a.looks ≤ looksOfAttempt c
  begun : (x.attempt = none ∨ (x.sm.checkMonitoring.machine c i.schedules).2 = true) →
    (x.sm.pass c i).1.gpuState = .op .setPwrLimit →
      ((x.sm.pass c i).1.gpu (x.sm.pass c i).1.currentGpuId).gpuDesiredPcapMw ≠
        ((x.sm.pass c i).1.gpu (x.sm.pass c i).1.currentGpuId).gpuRequestedPcapMw

/-- The law of an event: outside of the turns of the loop the limits are kept or cleared. -/
def PcapLaw (c : Config) (x : PcapRun) : Event → Prop
  | .tick i => x.sm.monitoringAllowed = true →
    (∀ g, (x.sm.gpu g).KeepsPcap ((x.beginTick c i).sm.gpu g)) ∧ PcapTurn c (x.beginTick c i) i.pass1 ∧
      (((x.beginTick c i).pass c i.pass1).2 = true → PcapTurn c ((x.beginTick c i).pass c i.pass1).1 i.pass2)
  | e => ∀ t, Gpu.next c x.sm e = some t → ∀ g, (x.sm.gpu g).KeepsPcap (t.gpu g)

end Occ.Gpu
