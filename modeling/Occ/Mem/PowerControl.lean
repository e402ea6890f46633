/-
The memory power control of the 405 (`mem/memory_power_control.c`): when Idle Power Save is entered or left, the new setting
is sent to the MCAs one after the other, through one GPE1 request. A run remembers what became of each MCA's turn.
Error logs and traces are outside of the model.
-/
import Occ.Gpe1.MemoryPowerControl
import Occ.Lib.Transition

namespace Occ.Mem

open Occ.Gpe1

/-- `WAIT_GPE_MEM_PWR_CTRL_BUSY_LIMIT` -/
def waitGpeMemPwrCtrlBusyLimit : Nat := 1

/-- `NUM_NIMBUS_MCAS` -/
def numNimbusMcas : Nat := 8

/-! ## The code -/

/-- The globals and the static data. -/
structure MemPower where
  ipsMemPwrCtl : BitVec 8
  defaultMemPwrCtl : BitVec 8
  configuredMbas : BitVec 16
  slvIpsFreqRequest : BitVec 16
  currentMemPwrCtl : BitVec 8
  memoryPowerControlInProgress : Bool
  memIndex : Nat
  waitIdleGpe : Nat
  args : MemPowerControlArgs
  requestIdle : Bool
  /-- The GPE1 could not send its response. -/
  gpeHalted : Bool
  regs : PowerRegs

/-- What `gpe_mem_power_control` returns. -/
inductive PowerRc
  | success | taskNotIdle | rcFailure | scheduleFailure
deriving DecidableEq

namespace MemPower

variable (s : MemPower)

/-- `is_occ_in_ips` -/
def isOccInIps : Bool := s.slvIpsFreqRequest != 0

def newMemPwrCtl : BitVec 8 := if s.isOccInIps then s.ipsMemPwrCtl else s.defaultMemPwrCtl

/-- `NIMBUS_DIMM_INDEX_THROTTLING_CONFIGURED` -/
def configured (mca : Nat) : Bool := Mask.On s.configuredMbas mca

/-- `gpe_mem_power_control`, with `ok` the answer of `gpe_request_schedule`. -/
def gpeMemPowerControl (memPwrCtl : BitVec 8) (mca : Nat) (ok : Bool) : MemPower × PowerRc :=
  if s.requestIdle = false then (s, .taskNotIdle)
  else if s.args.error.rc ≠ gpeRcSuccess then (s, .rcFailure)
  else
    let s := { s with args := { s.args with memPwrCtl := memPwrCtl, port := mca &&& 3, mc := mca >>> 2 } }
    if ok then ({ s with requestIdle := false }, .success) else (s, .scheduleFailure)

/-- A transition begins where the setting has changed and none is in progress. -/
def latch : MemPower :=
  if s.memoryPowerControlInProgress = false ∧ s.newMemPwrCtl ≠ s.currentMemPwrCtl then
    { s with memoryPowerControlInProgress := true, currentMemPwrCtl := s.newMemPwrCtl }
  else s

/-- The turn of an MCA. -/
def turn (ok : Bool) : MemPower × PowerRc :=
  if s.configured s.memIndex then s.gpeMemPowerControl s.currentMemPwrCtl s.memIndex ok else (s, .success)

/-- The turn is over. -/
def passes (rc : PowerRc) : Bool := rc ≠ .taskNotIdle ∨ s.waitIdleGpe ≥ waitGpeMemPwrCtrlBusyLimit

def advance (rc : PowerRc) : MemPower :=
  let s := if s.passes rc then { s with memIndex := s.memIndex + 1, waitIdleGpe := 0 }
    else { s with waitIdleGpe := s.waitIdleGpe + 1 }
  if s.memIndex ≥ numNimbusMcas then { s with memoryPowerControlInProgress := false, memIndex := 0 } else s

/-- `amec_mem_power_control` -/
def amecMemPowerControl (ok : Bool) : MemPower :=
  let s := s.latch
  if s.memoryPowerControlInProgress then
    let sent := s.turn ok
    sent.1.advance sent.2
  else s

end MemPower

/-! ## Runs -/

/-- What became of the turn of an MCA. -/
structure Turn where
  mca : Nat
  configured : Bool
  rc : PowerRc
  /-- the request that was scheduled -/
  sent : Option (Nat × BitVec 8)

/-- The turns of a transition, in their order. -/
structure PowerTransition where
  setting : BitVec 8
  turns : List Turn

/-- The code with the transitions so far. -/
structure PowerRun where
  s : MemPower
  now : Option PowerTransition
  /-- the transitions that are over, the latest first -/
  made : List PowerTransition
  /-- the setting that the last tick has asked for, and how many ticks in a row have -/
  wanted : BitVec 8
  same : Nat

inductive PowerEvent
  /-- `amec_mem_power_control` is called; the schedule of a request would succeed or not. -/
  | tick (ok : Bool)
  /-- The GPE1 has worked on the request, and sends its response or not. -/
  | gpe (scoms : PowerScoms) (sends : Bool)
  /-- The master asks for an Idle Power Save frequency, or for none. -/
  | ips (freq : BitVec 16)
  /-- Configuration packets. -/
  | memConfig (ips default : BitVec 8)
  | throttleConfig (mbas : BitVec 16)

namespace PowerRun

variable (x : PowerRun)

/-- The turn that `s` and the return code of its request tell of. -/
def turnOf (s t : MemPower) (rc : PowerRc) : Turn where
  mca := s.memIndex
  configured := s.configured s.memIndex
  rc := rc
  sent := if s.configured s.memIndex ∧ rc = .success then some (t.args.mca, t.args.memPwrCtl) else none

/-- The current transition, which may be a new one. -/
def begun (s : MemPower) : PowerTransition := x.now.getD ⟨s.currentMemPwrCtl, []⟩

def tick (ok : Bool) : PowerRun :=
  let wanted := x.s.newMemPwrCtl
  let x' := { x with
    s := x.s.amecMemPowerControl ok, wanted := wanted, same := if wanted = x.wanted then x.same + 1 else 1 }
  let s := x.s.latch
  if s.memoryPowerControlInProgress then
    let sent := s.turn ok
    let now := x.begun s
    let now := if s.passes sent.2 then { now with turns := now.turns ++ [turnOf s sent.1 sent.2] } else now
    if x'.s.memoryPowerControlInProgress then { x' with now := some now }
    else { x' with now := none, made := now :: x.made }
  else x'

end PowerRun

def PowerRun.next (x : PowerRun) : PowerEvent → Option PowerRun
  | .tick ok => some (x.tick ok)
  | .gpe scoms sends =>
    if x.s.requestIdle = true ∨ x.s.gpeHalted = true then none
    else
      let done := Gpe1.gpeMemPowerControl x.s.args scoms x.s.regs
      some { x with s := { x.s with args := done.1, regs := done.2, requestIdle := sends, gpeHalted := !sends } }
  | .ips freq => some { x with s := { x.s with slvIpsFreqRequest := freq } }
  | .memConfig ips default => some { x with s := { x.s with ipsMemPwrCtl := ips, defaultMemPwrCtl := default } }
  | .throttleConfig mbas => some { x with s := { x.s with configuredMbas := mbas } }

/-- The start: no setting is supported, and memory power control is off in the configuration. -/
def MemPower.boot (regs : PowerRegs) : MemPower where
  ipsMemPwrCtl := memPwrCtlOff
  defaultMemPwrCtl := memPwrCtlOff
  configuredMbas := 0
  slvIpsFreqRequest := 0
  currentMemPwrCtl := memPwrCtlNoSupport
  memoryPowerControlInProgress := false
  memIndex := 0
  waitIdleGpe := 0
  args := ⟨⟨0, 0, 0⟩, 0, 0, 0⟩
  requestIdle := true
  gpeHalted := false
  regs := regs

def PowerRun.boot (regs : PowerRegs) : PowerRun := ⟨.boot regs, none, [], memPwrCtlNoSupport, 0⟩

/-! ## The law -/

/-- Each MCA has had its turn once, in order, and each configured one was sent the setting, but where the GPE1 stayed busy
or the schedule failed. -/
structure PowerTransition.Fair (t : PowerTransition) : Prop where
  once : t.turns.map (·.mca) = List.range t.turns.length
  sent : ∀ u ∈ t.turns, u.configured = true →
    u.sent = some (u.mca, t.setting) ∨ u.rc = .taskNotIdle ∨ u.rc = .scheduleFailure

/-- The ticks that a change takes to be done with, at most. -/
def settlingTicks : Nat := 32

structure PowerLaw (x : PowerRun) : Prop where
  now : ∀ t, x.now = some t → t.Fair
  made : ∀ t ∈ x.made, t.Fair ∧ t.turns.length = numNimbusMcas
  /-- After the setting has stopped changing, a last transition is made to it. -/
  settles : settlingTicks ≤ x.same → x.s.memoryPowerControlInProgress = false ∧ x.s.currentMemPwrCtl = x.wanted ∧
    (x.made.head?.map (·.setting) = some x.wanted ∨ (x.made = [] ∧ x.wanted = memPwrCtlNoSupport))

/-- The law holds after the event, and a request in flight is left alone by the 405. -/
def PowerKeeps (x : PowerRun) (e : PowerEvent) : Prop := ∀ y, x.next e = some y →
  PowerLaw y ∧ ∀ ok, e = .tick ok → x.s.requestIdle = false → y.s.args = x.s.args

/-- Where the turn of a configured MCA finds the GPE1 idle, the last request was completed without an error. -/
def PowerOk (x : PowerRun) : PowerEvent → Prop
  | .tick _ => x.s.latch.memoryPowerControlInProgress = true → x.s.configured x.s.memIndex = true →
    x.s.requestIdle = true → x.s.args.error.rc = gpeRcSuccess
  | _ => True

end Occ.Mem
