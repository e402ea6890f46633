/-
The SSX timer queue (`ssx_timer_core.c`): timers linked in the time queue by their deque nodes,
scheduled and cancelled by threads, by interrupt handlers and by timer callbacks, and the timer
handler, which walks the queue and opens up to interrupts around every callback.

The handler runs with noncritical interrupts disabled but for these windows, so what it does between
two windows is made of steps that nothing else comes between.
-/
import Occ.Lib.Deque
import Mathlib

namespace Occ.Ssx

open Occ Deque

/-- `SSX_TIMEBASE_MAX`. -/
def timebaseMax : Nat := 2 ^ 64 - 1

/-- The address of `__ssx_time_queue`, the sentinel of the queued timers. -/
def timeQueue : Nat := 1

/-- `SsxTimer` but for its links. -/
structure Timer where
  timeout : Nat
  period : Nat
  /-- the callback is not null -/
  callback : Bool
  /-- `SSX_TIMER_CALLBACK_PREEMPTIBLE` -/
  preemptible : Bool
deriving DecidableEq, Repr

/-- Where `__ssx_timer_handler` is: not running, at the test of its outer loop, at the test of its
inner loop, between enabling preemption for a callback and its call, in a callback, or in the window
after a callback or after a timer that has not timed out. -/
inductive HandlerPc
  | idle
  | outer
  | inner (now timerDeque : Nat)
  | opened (now timer : Nat)
  | callback (now timer : Nat)
  | window (now : Nat)
deriving DecidableEq, Repr

/-- A callback that was run: whether its timer had been cancelled and not scheduled since, and whether
that was while the handler was about to call it. -/
structure Callback where
  timer : Nat
  cancelled : Bool
  opened : Bool
deriving DecidableEq, Repr

/-- The time queue, the timers and the handler. The last six fields are history. -/
structure TimeState where
  links : Links
  timer : Nat → Timer
  cursor : Nat
  nextTimeout : Nat
  /-- the timeout the hardware is set to -/
  hardwareTimeout : Nat
  timebase : Nat
  pc : HandlerPc
  panicked : Bool
  /-- timed out when the handler was last entered, and not fired, scheduled or cancelled since -/
  due : Nat → Bool
  /-- cancelled and not scheduled since -/
  cancelled : Nat → Bool
  /-- the cancellation came while the handler was about to call the callback -/
  opened : Nat → Bool
  /-- the timeout the timer was last scheduled for, and how often it has fired since -/
  first : Nat → Nat
  fires : Nat → Nat
  callbacks : List Callback

namespace TimeState

variable (k : TimeState)

def timerActive (t : Nat) : Bool := isQueued k.links t

/-! ## Scheduling and cancelling -/

/-- `__ssx_timer_cancel`; whether it returned 0 and not `-SSX_TIMER_NOT_ACTIVE`. -/
def timerCancel (t : Nat) : TimeState × Bool :=
  if !k.timerActive t then (k, false)
  else
    ({ k with
      cursor := if t = k.cursor then k.links.next k.cursor else k.cursor
      links := delete k.links t
      due := Function.update k.due t false
      cancelled := Function.update k.cancelled t true
      opened := Function.update k.opened t (match k.pc with | .opened _ x => x == t | _ => false) }, true)

/-- `__ssx_timer_schedule`. -/
def timerSchedule (t : Nat) : TimeState :=
  let k := if !k.timerActive t then { k with links := pushBack k.links timeQueue t } else k
  if (k.timer t).timeout < k.nextTimeout then
    let k := { k with nextTimeout := (k.timer t).timeout }
    if k.cursor = 0 then { k with hardwareTimeout := k.nextTimeout } else k
  else k

/-- `ssx_timer_schedule_absolute`. -/
def timerScheduleAbsolute (t timeout period : Nat) : TimeState :=
  { k with
    timer := Function.update k.timer t { k.timer t with timeout, period }
    due := Function.update k.due t false
    cancelled := Function.update k.cancelled t false
    opened := Function.update k.opened t false
    first := Function.update k.first t timeout
    fires := Function.update k.fires t 0 }.timerSchedule t

/-! ## The handler -/

/-- The handler is entered by the timer interrupt. -/
def handlerEnter : TimeState :=
  if k.cursor ≠ 0 then { k with panicked := true }
  else { k with
    pc := .outer
    due := fun t => t != timeQueue && k.timerActive t && decide ((k.timer t).timeout ≤ k.timebase) }

/-- The handler calls the callback of timer `t`. -/
def callCallback (now t : Nat) : TimeState :=
  { k with
    pc := .callback now t
    callbacks := ⟨t, k.cancelled t, k.opened t⟩ :: k.callbacks
    opened := Function.update k.opened t false }

/-- A timer that timed out is removed from the queue, or rescheduled if it is periodic. -/
def timerExpire (t : Nat) : TimeState :=
  let th := k.timer t
  let k := { k with due := Function.update k.due t false, fires := Function.update k.fires t (k.fires t + 1) }
  if th.period = 0 then { k with links := delete k.links t }
  else
    let timeout := (th.timeout + th.period) % 2 ^ 64
    { k with
      timer := Function.update k.timer t { th with timeout }
      nextTimeout := min timeout k.nextTimeout }

/-- What the handler does next. -/
def handlerStep : Option TimeState :=
  match k.pc with
  | .idle => none
  | .outer =>
    if k.timebase ≥ k.nextTimeout then
      some { k with nextTimeout := timebaseMax, pc := .inner k.timebase (k.links.next timeQueue) }
    else some { k with cursor := 0, hardwareTimeout := k.nextTimeout, pc := .idle }
  | .inner now t =>
    if t = timeQueue then some { k with pc := .outer }
    else
      let k := { k with cursor := k.links.next t }
      if (k.timer t).timeout ≤ now then
        let k := k.timerExpire t
        if (k.timer t).callback then
          if (k.timer t).preemptible then some { k with pc := .opened now t } else some (k.callCallback now t)
        else some { k with pc := .inner now k.cursor }
      else some { k with nextTimeout := min (k.timer t).timeout k.nextTimeout, pc := .window now }
  | .opened now t => some (k.callCallback now t)
  | .callback now _ => some { k with pc := .window now }
  | .window now => some { k with pc := .inner now k.cursor }

/-- Threads, other interrupt handlers or a callback can make calls. -/
def callable : Bool :=
  match k.pc with
  | .outer | .inner _ _ => false
  | _ => true

end TimeState

/-! ## Steps -/

inductive TimeEvent
  | tick (interval : Nat)
  | schedule (t timeout period : Nat)
  | cancel (t : Nat)
  | interrupt
  | handler
deriving DecidableEq, Repr

/-- The state after an event, when it can happen. Time passes up to the end of the timebase. -/
def TimeState.next (k : TimeState) (e : TimeEvent) : Option TimeState :=
  if k.panicked then none
  else match e with
    | .tick interval =>
      if k.timebase + interval ≤ timebaseMax then some { k with timebase := k.timebase + interval } else none
    | .schedule t timeout period =>
      if k.callable ∧ t ≠ 0 ∧ t ≠ timeQueue ∧ timeout ≤ timebaseMax then
        some (k.timerScheduleAbsolute t timeout period)
      else none
    | .cancel t => if k.callable ∧ t ≠ 0 ∧ t ≠ timeQueue then some (k.timerCancel t).1 else none
    | .interrupt => if k.pc = .idle then some k.handlerEnter else none
    | .handler => k.handlerStep

/-- The state after `ssx_initialize`, with the timers created with the given callbacks and options. -/
def TimeState.ssxInitialize (callback preemptible : Nat → Bool) : TimeState where
  links := sentinelCreate ⟨fun _ => 0, fun _ => 0⟩ timeQueue
  timer := fun t => ⟨0, 0, callback t, preemptible t⟩
  cursor := 0
  nextTimeout := timebaseMax
  hardwareTimeout := timebaseMax
  timebase := 0
  pc := .idle
  panicked := false
  due := fun _ => false
  cancelled := fun _ => false
  opened := fun _ => false
  first := fun _ => 0
  fires := fun _ => 0
  callbacks := []

end Occ.Ssx
