/-
Pstate clips (`pgpe_interface.c`): a state transition sets them and waits for the PGPE, a step at a time;
the tick's `task_core_data_control` updates them on OPAL, between any two of these steps, and so can the
PGPE's end of a request. Other parts of the tick write the desired Pstates.
-/
import Mathlib.Data.Fin.Basic
import Mathlib.Data.Fintype.Basic
import Mathlib.Data.List.FinRange
import Mathlib.Logic.Function.Basic
import Mathlib.Tactic.Common

namespace Occ.Pgpe

/-! ## Data -/

abbrev Pstate := BitVec 8

/-- A Pstate for each of `MAXIMUM_QUADS`. -/
abbrev Quads := Fin 6 → Pstate

def clipUpdateTimeout : Nat := 500

def pgpeRcSuccess : Nat := 0x01
def pgpeFailure : Nat := 0xD3
def gpeRequestTaskTimeout : Nat := 0xD6
def gpeRequestRcFailure : Nat := 0xD8
def ercPgpeClipNotIdle : Nat := 0x00B1
def ercPgpeClipFailure : Nat := 0x00B7

/-- What does not change: whether the system is OPAL, whether it is simulated, whether cores are present. -/
structure ClipConfig where
  kvm : Bool
  simics : Bool
  presentCores : Bool
deriving DecidableEq, Repr

/-- `ipcmsg_clip_update_t`. -/
structure ClipParms where
  clipMin : Quads
  clipMax : Quads
  rc : Nat

/-- How a request ended, as far as the request itself knows: by a message of the PGPE, or not. -/
inductive CompletionState
  | complete | failed
deriving DecidableEq, Repr

/-- Where `pgpe_set_clip_blocking` is, and what for. -/
inductive ClipPc
  | idle
  /-- it waits for an earlier request; the counter is a byte -/
  | waitIdle (i_pstate : Pstate) (wait_time : BitVec 8)
  | fill (i_pstate : Pstate)
  -- in `pgpe_clip_update`
  | updateWait (i_pstate : Pstate) (l_wait_time : Nat)
  | copy (i_pstate : Pstate) (quad : Nat) (ext_rc : Nat)
  /-- it waits for its own request -/
  | waitDone (i_pstate : Pstate) (wait_time : BitVec 8)
  | check (i_pstate : Pstate) (rc : Nat)
deriving DecidableEq, Repr

structure Clip where
  desiredPstate : Quads
  parms : ClipParms
  /-- the request is not idle -/
  running : Bool
  completionState : CompletionState
  /-- `L_last_list`; its first value is no list of Pstates -/
  lastList : Option Quads
  setPstates : Bool
  /-- the Pstate of the lowest frequency -/
  fmin : Pstate
  /-- `pstate_list` -/
  list : Quads
  stateTransition : Bool
  allowPstates : Bool
  pc : ClipPc
  -- history: the requests that the PGPE ended, with their parameters and return codes, the latest first;
  -- what the function returned; whether the last list was scheduled; whether the parameters were written
  -- or a request was scheduled while one was in flight
  completed : List (Quads × Quads × Nat)
  results : List (Pstate × Nat)
  sent : Bool
  collision : Bool

namespace Clip

variable (cfg : ClipConfig) (k : Clip)

/-! ## `pgpe_clip_update` -/

/-- The clips of a quad. -/
def copyQuad (quad : Fin 6) : Clip :=
  { k with
    list := Function.update k.list quad (k.desiredPstate quad)
    parms :=
      { k.parms with
        clipMin := Function.update k.parms.clipMin quad k.fmin
        clipMax := Function.update k.parms.clipMax quad (k.desiredPstate quad) }
    collision := k.collision || k.running }

/-- Whether a request is sent: on OPAL only when the Pstates are others, or when it is forced. -/
def sends : Bool := decide (k.lastList ≠ some k.list) || !cfg.kvm || k.setPstates

/-- The request is sent, when there are cores; `ok` says whether it can be scheduled. -/
def submit (ext_rc : Nat) (ok : Bool) : Clip × Nat :=
  if k.sends cfg then
    let k := { k with setPstates := false, lastList := some k.list, sent := false }
    if cfg.presentCores = false then (k, ext_rc)
    else
      let k := { k with collision := k.collision || k.running }
      if k.running ∨ ok = false then (k, ercPgpeClipFailure)
      else ({ k with running := true, completionState := .complete, sent := true }, ext_rc)
  else (k, ext_rc)

/-- `pgpe_clip_update`, when the request is idle. -/
def pgpeClipUpdate (ok : Bool) : Clip × Nat :=
  if cfg.simics then (k, 0) else ((List.finRange 6).foldl copyQuad k).submit cfg 0 ok

/-- `task_core_data_control`, for the clips. -/
def taskCoreDataControl (ok : Bool) : Clip :=
  if k.stateTransition then k
  else if k.allowPstates ∧ cfg.kvm ∧ k.running = false ∧ k.parms.rc = pgpeRcSuccess then (k.pgpeClipUpdate cfg ok).1
  else k

/-! ## `pgpe_set_clip_blocking` -/

/-- The function returns. -/
def ret (i_pstate : Pstate) (rc : Nat) : Clip := { k with pc := .idle, results := (i_pstate, rc) :: k.results }

/-- The next step of the function; `ignore` says whether PGPE errors are ignored. -/
def thread (ignore ok : Bool) : Clip :=
  match k.pc with
  | .idle => k
  | .waitIdle p w =>
    if k.running = false then { k with pc := .fill p }
    else if w.toNat > clipUpdateTimeout then if ignore then { k with pc := .fill p } else k.ret p pgpeFailure
    else { k with pc := .waitIdle p (w + 1) }
  | .fill p => { k with desiredPstate := fun _ => p, pc := .updateWait p 0 }
  | .updateWait p w =>
    -- the time-out ends the loop, and the update goes on
    if k.running = false ∨ w > clipUpdateTimeout then
      let ext_rc := if k.running then ercPgpeClipNotIdle else 0
      { k with pc := if cfg.simics then .waitDone p 0 else .copy p 0 ext_rc }
    else { k with pc := .updateWait p (w + 1) }
  | .copy p q ext_rc =>
    if h : q < 6 then { k.copyQuad ⟨q, h⟩ with pc := .copy p (q + 1) ext_rc }
    else
      let r := k.submit cfg ext_rc ok
      if r.2 ≠ 0 then r.1.ret p r.2 else { r.1 with pc := .waitDone p 0 }
  | .waitDone p w =>
    if k.running = false then { k with pc := .check p 0 }
    else if w.toNat > clipUpdateTimeout then
      if ignore then { k with pc := .check p gpeRequestTaskTimeout } else k.ret p gpeRequestTaskTimeout
    else { k with pc := .waitDone p (w + 1) }
  | .check p rc => k.ret p (if k.parms.rc ≠ pgpeRcSuccess then gpeRequestRcFailure else rc)

/-- The request ends: the PGPE writes its return code, or the message fails. -/
def done (rc : Option Nat) : Clip :=
  match rc with
  | some rc =>
    { k with
      running := false
      completionState := .complete
      parms := { k.parms with rc := rc }
      completed := (k.parms.clipMin, k.parms.clipMax, rc) :: k.completed }
  | none => { k with running := false, completionState := .failed }

end Clip

/-! ## Steps -/

inductive ClipEvent
  | startTransition
  | endTransition
  /-- a state transition calls `pgpe_set_clip_blocking`, which it does when there are cores -/
  | call (i_pstate : Pstate)
  | thread (ignore ok : Bool)
  /-- `amec_slv_freq_smh` -/
  | amec (pmax : Quads)
  | control (ok : Bool)
  | done (rc : Option Nat)
  | freqConfig (fmin : Pstate)
  | allow (b : Bool)
  | setPstates

/-- The state after an event, when it can happen. -/
def Clip.next (cfg : ClipConfig) (k : Clip) : ClipEvent → Option Clip
  | .startTransition => if k.stateTransition then none else some { k with stateTransition := true }
  | .endTransition => if k.stateTransition ∧ k.pc = .idle then some { k with stateTransition := false } else none
  | .call p =>
    if k.stateTransition ∧ k.pc = .idle ∧ cfg.presentCores then some { k with pc := .waitIdle p 0 } else none
  | .thread ignore ok => if k.pc = .idle then none else some (k.thread cfg ignore ok)
  | .amec pmax => some { k with desiredPstate := pmax }
  | .control ok => some (k.taskCoreDataControl cfg ok)
  | .done rc => if k.running then some (k.done rc) else none
  | .freqConfig fmin => some { k with fmin := fmin }
  | .allow b => some { k with allowPstates := b }
  | .setPstates => some { k with setPstates := true }

/-- After `pgpe_init_clips`. -/
def Clip.start (desiredPstate : Quads) (fmin : Pstate) : Clip where
  desiredPstate := desiredPstate
  parms := ⟨fun _ => 0, fun _ => 0, pgpeRcSuccess⟩
  running := false
  completionState := .complete
  lastList := none
  setPstates := false
  fmin := fmin
  list := fun _ => 0
  stateTransition := false
  allowPstates := false
  pc := .idle
  completed := []
  results := []
  sent := false
  collision := false

end Occ.Pgpe
