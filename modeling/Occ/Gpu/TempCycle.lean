/-
The temperature cycles of the GPU task, core and memory: which GPUs a cycle has read, which of them could be read all the
time since it began, and how often its state machine has looked at an answer of the GPE.
-/
import Occ.Gpu.StatusLaw

namespace Occ.Gpu

open Occ Transition
open Function (update)

/-! ## The history of a cycle -/

/-- The two kinds of temperatures. -/
inductive TempKind
  | core | memory
deriving DecidableEq

def TempKind.op : TempKind → Op
  | .core => .readTemp
  | .memory => .readMemoryTemp

/-- The GPUs that a temperature can be read of. -/
def GpuSm.readable (c : Config) (s : GpuSm) : TempKind → Fin 3 → Bool
  | .core => s.functional c
  | .memory => s.memTempCapable

structure Cycle where
  /-- the GPUs that the cycle is done with, in their order -/
  reads : List (Fin 3)
  /-- the GPUs that could be read all the time since the cycle began -/
  stays : Fin 3 → Bool
  /-- how often the state machine was called with the GPE idle -/
  looks : Nat

def Cycle.sees (y : Cycle) (ok : Fin 3 → Bool) : Cycle := { y with stays := fun g => y.stays g && ok g }

/-- The task with the history of the cycles of one kind. -/
structure TempRun where
  sm : GpuSm
  cycle : Option Cycle
  /-- the cycles that have led to the idle state, the latest first -/
  ended : List Cycle

/-- A cycle begins with the first read. -/
def begun (c : Config) (m : TempKind) (t : GpuSm) : Option Cycle :=
  if t.gpuState = .op m.op then some ⟨[], t.readable c m, 0⟩ else none

namespace TempRun

variable (c : Config) (m : TempKind) (x : TempRun)

/-- A turn of the task's loop. A cycle that an I2C reset or a stop of the monitoring interrupts is forgotten. -/
def pass (i : PassInput) : TempRun × Bool :=
  let s := x.sm.checkMonitoring
  let ran := s.machine c i.schedules
  let t := s.looksBack ran.1
  let p := x.sm.pass c i
  match x.cycle with
  | none => ({ x with sm := p.1, cycle := begun c m p.1 }, p.2)
  | some y =>
    if s.gpuState = .op m.op then
      let y := { y.sees (t.readable c m) with looks := if s.requestIdle then y.looks + 1 else y.looks }
      if ran.2 then
        let y := { y with reads := y.reads ++ [s.currentGpuId] }
        if t.i2cResetRequired then ({ x with sm := p.1, cycle := none }, p.2)
        else if (t.afterOp c m.op).gpuState = .op m.op then ({ x with sm := p.1, cycle := some y }, p.2)
        else ({ sm := p.1, cycle := begun c m p.1, ended := y :: x.ended }, p.2)
      else ({ x with sm := p.1, cycle := if p.1.gpuState = .op m.op then some y else none }, p.2)
    else ({ x with sm := p.1, cycle := begun c m p.1 }, p.2)

/-- The task up to its loop. -/
def beginTick (i : TickInput) : TempRun :=
  let t := x.sm.beginTick c i
  { x with sm := t, cycle := if t.gpuState = .op m.op then x.cycle.map (·.sees (t.readable c m)) else none }

def tick (i : TickInput) : TempRun :=
  if x.sm.monitoringAllowed then
    let first := (x.beginTick c m i).pass c m i.pass1
    if first.2 then (first.1.pass c m i.pass2).1 else first.1
  else x

/-- The task is in the state `t`, without a turn of its loop. -/
def moves (t : GpuSm) : TempRun := { x with sm := t, cycle := x.cycle.map (·.sees (t.readable c m)) }

end TempRun

inductive TempEvent
  | gpu (e : Event)
  /-- Something else disables a GPU, or enables it again. -/
  | disabled (g : Fin 3) (b : Bool)

def TempRun.next (c : Config) (m : TempKind) (x : TempRun) : TempEvent → Option TempRun
  | .gpu (.tick i) => some (x.tick c m i)
  | .gpu e => (Gpu.next c x.sm e).map (x.moves c m)
  | .disabled g b => some (x.moves c m { x.sm with gpu := update x.sm.gpu g { x.sm.gpu g with disabled := b } })

def TempRun.boot (occFlags : Fin 3 → Bool) : TempRun := ⟨.boot occFlags, none, []⟩

/-! ## The law -/

/-- How often the answers to the reads of one GPU are looked at, at most. -/
def TempKind.looksOfRead (m : TempKind) : Nat := (maxGpuReadAttempt + 2) * m.op.requests + 1

/-- The GPUs are read in ascending order, each once, with bounded retries, so that a cycle ends; and when it has ended
it has read all the GPUs that could be read all the time. -/
structure CycleLaw (m : TempKind) (x : TempRun) : Prop where
  ended : ∀ y ∈ x.ended, y.reads.Pairwise (· < ·) ∧ (∀ g, y.stays g = true → g ∈ y.reads) ∧
    y.looks ≤ m.looksOfRead * y.reads.length
  running : ∀ y, x.cycle = some y → (y.reads ++ [x.sm.currentGpuId]).Pairwise (· < ·) ∧
    y.looks ≤ m.looksOfRead * (y.reads.length + 1)

/-- The condition on a turn that ends the read of a GPU, without an I2C reset: this GPU or a lower one can still be read;
or no higher one that could be read all the time is left, and another one can be read or the GPU has lost its capability. -/
def PassOk (c : Config) (m : TempKind) (x : TempRun) (i : PassInput) : Prop :=
  let s := x.sm.checkMonitoring
  let ran := s.machine c i.schedules
  let t := s.looksBack ran.1
  ∀ y, x.cycle = some y → s.gpuState = .op m.op → ran.2 = true → t.i2cResetRequired = false →
    (∃ h, h ≤ s.currentGpuId ∧ t.readable c m h = true) ∨
    ((∀ h, s.currentGpuId < h → y.stays h = true → t.readable c m h = false) ∧
      ((∃ h, t.readable c m h = true) ∨ (m = .memory ∧ (t.gpu s.currentGpuId).memTempSupported = false)))

/-- A condition on the turns of a tick. -/
def OnPasses (c : Config) (m : TempKind) (P : TempRun → PassInput → Prop) (x : TempRun) : TempEvent → Prop
  | .gpu (.tick i) => x.sm.monitoringAllowed = true →
    P (x.beginTick c m i) i.pass1 ∧
      (((x.beginTick c m i).pass c m i.pass1).2 = true → P ((x.beginTick c m i).pass c m i.pass1).1 i.pass2)
  | _ => True

/-- The law holds after every turn. -/
def CycleKeeps (c : Config) (m : TempKind) : TempRun → TempEvent → Prop :=
  OnPasses c m fun x i => CycleLaw m (x.pass c m i).1

def CycleOk (c : Config) (m : TempKind) : TempRun → TempEvent → Prop := OnPasses c m (PassOk c m)

/-! ## The scan -/

theorem scan_cases (ok : Fin 3 → Bool) (g : Fin 3) :
    (g < GpuSm.nextOf ok g ∧ ok (GpuSm.nextOf ok g) = true ∧ (∀ h, g < h → ok h = true → GpuSm.nextOf ok g ≤ h) ∧
        (GpuSm.firstOf ok = some (GpuSm.nextOf ok g) ↔ ∀ h, h ≤ g → ok h = false)) ∨
      ((∀ h, g < h → ok h = false) ∧ (∃ h, ok h = true) ∧ GpuSm.firstOf ok = some (GpuSm.nextOf ok g)) ∨
      ((∀ h, ok h = false) ∧ GpuSm.nextOf ok g = g ∧ GpuSm.firstOf ok = none) := by
  revert ok g
  decide

theorem firstOf_le {ok : Fin 3 → Bool} {g h : Fin 3} (hfirst : GpuSm.firstOf ok = some g) (hok : ok h = true) : g ≤ h := by
  revert ok g h
  decide

end Occ.Gpu
