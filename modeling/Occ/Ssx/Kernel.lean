/-
The SSX kernel: threads, the priority map, the run queue, semaphores and the scheduler
(`ssx_thread_core.c`, `ssx_thread_init.c`, `ssx_semaphore_core.c`), as a step function over the
calls threads and interrupt handlers make, the timeouts of thread timers and the interrupts.

Calls run with noncritical interrupts disabled, so a call is one step. A thread that blocks in
`ssx_semaphore_pend` or `ssx_sleep_absolute` continues after its `__ssx_schedule` when it is next
switched to, still with interrupts disabled: its continuation is part of the step that switches to
it. Calls from critical interrupts and null arguments are rejected at entry and left out.
-/
import Occ.Lib.BitQueue
import Mathlib.Logic.Function.Basic
import Mathlib.Tactic.Simps.Basic
import Mathlib.Tactic

namespace Occ.Ssx

open Occ

/-- `SSX_THREADS`, also the priority of the idle thread. -/
def ssxThreads : Nat := 32

inductive ThreadState
  | suspendedRunnable | mapped | suspendedBlocked | completed | deleted
deriving DecidableEq, Repr

inductive SsxError
  | illegalContextThreadContext | invalidArgumentThread1 | invalidThreadAtResume2 | priorityInUseAtResume
  | invalidThreadAtSuspend2 | invalidArgumentThreadChange | priorityInUseAtChange | invalidThreadAtSwap2
  | priorityInUseAtSwap | semaphoreOverflow | semaphorePendWouldBlock
deriving DecidableEq, Repr

/-- Return codes; the two informational ones of a pend are not errors. -/
inductive Rc
  | ok | semaphorePendNoWait | semaphorePendTimedOut | error (code : SsxError)
deriving DecidableEq, Repr

/-- Where a thread goes on when it is switched to: in its own code, or after the `__ssx_schedule` of
a sleep or of a pend on a semaphore. -/
inductive Pc
  | running | sleeping | pending (semaphore : Nat)
deriving DecidableEq, Repr

/-- `SsxThread`. The last two fields are history that no code reads: the semaphore whose count the
thread's last pend was given, and the semaphore and return code of the last pend that returned. -/
structure Thread where
  state : ThreadState
  priority : Nat
  semaphorePend : Bool
  timerPend : Bool
  timedOut : Bool
  semaphore : Nat
  /-- the thread's timer is in the time queue -/
  timerActive : Bool
  pc : Pc
  token : Option Nat
  pendRc : Option (Nat × Rc)
deriving DecidableEq, Repr

/-- `SsxSemaphore`. The last two fields are history: the posts that returned `SSX_OK`, and the pends
that were given a count. -/
structure Semaphore where
  count : Nat
  maxCount : Nat
  pendingThreads : BitVec 32
  posts : Nat
  pends : Nat
deriving DecidableEq, Repr

/-- The kernel's globals. -/
structure Kernel where
  thread : Nat → Thread
  sem : Nat → Semaphore
  priorityMap : Nat → Option Nat
  runQueue : BitVec 32
  nextPriority : Nat
  nextThread : Option Nat
  currentThread : Option Nat
  delayedSwitch : Bool
  threadMode : Bool
  /-- a noncritical interrupt handler is running -/
  interrupt : Bool
  /-- a call has returned without restoring the interrupt mask of its caller -/
  masked : Bool
  panicked : Bool
  /-- `SSX_ERROR_PANIC` -/
  errorPanic : Bool

namespace Kernel

variable (k : Kernel)

@[simps]
def modThread (t : Nat) (f : Thread → Thread) : Kernel :=
  { k with thread := Function.update k.thread t (f (k.thread t)) }

@[simps]
def modSem (s : Nat) (f : Semaphore → Semaphore) : Kernel :=
  { k with sem := Function.update k.sem s (f (k.sem s)) }

/-- `SSX_ERROR`: a panic, or the code returned. -/
def ssxError (code : SsxError) : Kernel × Rc :=
  ({ k with panicked := k.panicked || k.errorPanic }, .error code)

def threadIsActive (t : Nat) : Bool :=
  (k.thread t).state != .completed && (k.thread t).state != .deleted

def threadIsMapped (t : Nat) : Bool := (k.thread t).state == .mapped

def threadIsRunnable (t : Nat) : Bool := BitQueue.member k.runQueue (k.thread t).priority

/-- `__ssx_kernel_context_thread`. -/
def kernelContextThread : Bool := k.threadMode && !k.interrupt

/-- History: thread `t` is given a count of `s`, which is a successful pend when it waits for one. -/
def give (t s : Nat) : Kernel :=
  if (k.thread t).pc = .pending s ∧ (k.thread t).token = none ∧ (k.thread t).timedOut = false then
    (k.modThread t fun th => { th with token := some s }).modSem s fun m => { m with pends := m.pends + 1 }
  else k

/-! ## Mapping and scheduling -/

/-- The part of `__ssx_thread_map` that makes a suspended thread runnable or queues it again. -/
def threadRequeue (t : Nat) : Kernel :=
  let th := k.thread t
  if th.state = .suspendedRunnable then
    { k with runQueue := BitQueue.insert k.runQueue th.priority }
  else if th.semaphorePend then
    if (k.sem th.semaphore).count ≠ 0 then
      ({ k with runQueue := BitQueue.insert k.runQueue th.priority }.modSem th.semaphore
        fun m => { m with count := m.count - 1 }).give t th.semaphore
    else k.modSem th.semaphore fun m =>
      { m with pendingThreads := BitQueue.insert m.pendingThreads th.priority }
  else k

/-- `__ssx_thread_map`. -/
def threadMap (t : Nat) : Kernel :=
  ({ k with priorityMap := Function.update k.priorityMap (k.thread t).priority (some t) }.threadRequeue t).modThread t
    fun th => { th with state := .mapped }

/-- `__ssx_thread_unmap`. -/
def threadUnmap (t : Nat) : Kernel :=
  let th := k.thread t
  let k' := { k with priorityMap := Function.update k.priorityMap th.priority none }
  if k.threadIsRunnable t then
    { k' with runQueue := BitQueue.delete k.runQueue th.priority }.modThread t
      fun th => { th with state := .suspendedRunnable }
  else
    let k' := k'.modThread t fun th => { th with state := .suspendedBlocked }
    if th.semaphorePend then
      k'.modSem th.semaphore fun m =>
        { m with pendingThreads := BitQueue.delete m.pendingThreads th.priority }
    else k'

/-- The continuation of thread `t` after the `__ssx_schedule` of its blocking call. -/
def resumeCall (t : Nat) : Kernel :=
  let th := k.thread t
  match th.pc with
  | .running => k
  | .sleeping => k.modThread t fun th => { th with timerPend := false, timedOut := false, pc := .running }
  | .pending s =>
    if th.timerPend then
      if th.timedOut then
        (k.modThread t fun th => { th with
          semaphorePend := false, timerPend := false, timedOut := false
          pc := .running, pendRc := some (s, .semaphorePendTimedOut) }).modSem s
          fun m => { m with pendingThreads := BitQueue.delete m.pendingThreads th.priority }
      else
        -- the timer is cancelled
        k.modThread t fun th => { th with
          semaphorePend := false, timerPend := false, timedOut := false, timerActive := false
          pc := .running, pendRc := some (s, .ok) }
    else k.modThread t fun th => { th with semaphorePend := false, pc := .running, pendRc := some (s, .ok) }

/-- `__ssx_switch` and `__ssx_next_thread_resume`: the next thread becomes the current one and goes
on from where it was; without one the idle thread waits. -/
def nextThreadResume : Kernel :=
  match k.nextThread with
  | none => { k with currentThread := none }
  | some t => { k with currentThread := some t }.resumeCall t

/-- The scheduling decision of `__ssx_schedule`. -/
def chooseNext : Kernel :=
  { k with nextPriority := BitQueue.min k.runQueue, nextThread := k.priorityMap (BitQueue.min k.runQueue) }

/-- `__ssx_schedule`: in a thread the switch is made at once, in an interrupt it is delayed. -/
def schedule : Kernel :=
  let k := k.chooseNext
  if k.nextThread = none ∨ k.nextThread ≠ k.currentThread then
    if k.threadMode then
      if !k.interrupt then k.nextThreadResume else { k with delayedSwitch := true }
    else k
  else k

/-- The rest of a blocking call of thread `t` from its `__ssx_schedule` on. -/
def block (t : Nat) : Kernel :=
  let k := k.schedule
  if k.currentThread = some t then k.resumeCall t else k

/-! ## Thread calls -/

/-- `ssx_thread_create`, for a thread structure that is not in use. -/
def ssxThreadCreate (t priority : Nat) : Kernel × Rc :=
  if priority ≥ ssxThreads then k.ssxError .invalidArgumentThread1
  else (k.modThread t fun _ =>
    { state := .suspendedRunnable, priority, semaphorePend := false, timerPend := false, timedOut := false
      semaphore := 0, timerActive := false, pc := .running, token := none, pendRc := none }, .ok)

def ssxThreadResume (t : Nat) : Kernel × Rc :=
  if !k.threadIsActive t then k.ssxError .invalidThreadAtResume2
  else if k.threadIsMapped t then (k, .ok)
  else if k.priorityMap (k.thread t).priority ≠ none then k.ssxError .priorityInUseAtResume
  else ((k.threadMap t).schedule, .ok)

def ssxThreadSuspend (t : Nat) : Kernel × Rc :=
  if !k.threadIsActive t then k.ssxError .invalidThreadAtSuspend2
  else if k.threadIsMapped t then ((k.threadUnmap t).schedule, .ok)
  else (k, .ok)

/-- `__ssx_thread_delete`. -/
def threadDelete (t : Nat) (finalState : ThreadState) : Kernel :=
  let mapped := k.threadIsMapped t
  let k' := if mapped then k.threadUnmap t else k
  let k' := k'.modThread t fun th => { th with timerActive := false, state := finalState }
  if mapped then
    (if k'.currentThread = some t then { k' with currentThread := none } else k').schedule
  else k'

def ssxThreadDelete (t : Nat) : Kernel × Rc := (k.threadDelete t .deleted, .ok)

def ssxComplete : Kernel × Rc :=
  if !k.kernelContextThread then k.ssxError .illegalContextThreadContext
  else match k.currentThread with
    | none => (k, .ok)
    | some t => (k.threadDelete t .completed, .ok)

/-- `__ssx_thread_timeout`, the callback of the thread's timer. -/
def threadTimeout (t : Nat) : Kernel :=
  match (k.thread t).state with
  | .mapped =>
    if k.threadIsRunnable t then k
    else ({ k with runQueue := BitQueue.insert k.runQueue (k.thread t).priority }.modThread t
      fun th => { th with timedOut := true }).schedule
  | .suspendedRunnable => k
  | .suspendedBlocked => k.modThread t fun th => { th with timedOut := true, state := .suspendedRunnable }
  | _ => { k with panicked := true }

/-- `ssx_sleep_absolute`. -/
def ssxSleepAbsolute : Kernel × Rc :=
  if !k.kernelContextThread then k.ssxError .illegalContextThreadContext
  else match k.currentThread with
    | none => (k, .ok)
    | some t =>
      (({ k with runQueue := BitQueue.delete k.runQueue (k.thread t).priority }.modThread t
        fun th => { th with timerActive := true, timerPend := true, pc := .sleeping }).block t, .ok)

def ssxThreadPriorityChange (t newPriority : Nat) : Kernel × Rc :=
  if newPriority > ssxThreads then k.ssxError .invalidArgumentThreadChange
  else if (k.thread t).priority = newPriority then (k, .ok)
  else if !k.threadIsMapped t then (k.modThread t fun th => { th with priority := newPriority }, .ok)
  else if k.priorityMap newPriority ≠ none then k.ssxError .priorityInUseAtChange
  else ((((k.threadUnmap t).modThread t fun th => { th with priority := newPriority }).threadMap t).schedule, .ok)

def ssxThreadPrioritySwap (a b : Nat) : Kernel × Rc :=
  if a = b then (k, .ok)
  else
    let mappedA := k.threadIsMapped a
    let mappedB := k.threadIsMapped b
    let priorityA := (k.thread a).priority
    let priorityB := (k.thread b).priority
    if priorityA > ssxThreads ∨ priorityB > ssxThreads then k.ssxError .invalidThreadAtSwap2
    else if (mappedA && !mappedB && (k.priorityMap priorityB).isSome) ||
        (!mappedA && mappedB && (k.priorityMap priorityA).isSome) then k.ssxError .priorityInUseAtSwap
    else
      let k := if mappedA then k.threadUnmap a else k
      let k := if mappedB then k.threadUnmap b else k
      let k := k.modThread a fun th => { th with priority := priorityB }
      let k := k.modThread b fun th => { th with priority := priorityA }
      let k := if mappedA then k.threadMap a else k
      let k := if mappedB then k.threadMap b else k
      (k.schedule, .ok)

/-! ## Semaphore calls -/

/-- The timeout of a pend: `SSX_NO_WAIT`, a time, or `SSX_WAIT_FOREVER`. -/
inductive Timeout
  | noWait | ticks | waitForever
deriving DecidableEq, Repr

/-- History: the pend of the current thread on `s`, if a thread makes it, returns at once. -/
def pendReturns (s : Nat) (rc : Rc) : Kernel :=
  if k.kernelContextThread then
    match k.currentThread with
    | none => k
    | some t => k.modThread t fun th =>
      { th with token := if rc = .ok then some s else none, pendRc := some (s, rc) }
  else k

/-- `ssx_semaphore_pend`; no return code when the thread blocks. -/
def ssxSemaphorePend (s : Nat) (timeout : Timeout) : Kernel × Option Rc :=
  if (k.sem s).count ≠ 0 then
    ((k.modSem s fun m => { m with count := m.count - 1, pends := m.pends + 1 }).pendReturns s .ok, some .ok)
  else if timeout = .noWait then (k.pendReturns s .semaphorePendNoWait, some .semaphorePendNoWait)
  else if !k.kernelContextThread then
    let r := k.ssxError .semaphorePendWouldBlock
    (r.1, some r.2)
  else match k.currentThread with
    | none => (k, none)
    | some t =>
      let priority := (k.thread t).priority
      let k := k.modSem s fun m => { m with pendingThreads := BitQueue.insert m.pendingThreads priority }
      let k := k.modThread t fun th => { th with
        semaphore := s, semaphorePend := true, pc := .pending s, token := none, pendRc := none
        timerPend := th.timerPend || timeout != .waitForever
        timerActive := th.timerActive || timeout != .waitForever }
      ({ k with runQueue := BitQueue.delete k.runQueue priority }.block t, none)

/-- `ssx_semaphore_post`. The overflow check returns without leaving the critical section, after
the count is incremented. -/
def ssxSemaphorePost (s : Nat) : Kernel × Rc :=
  let priority := BitQueue.min (k.sem s).pendingThreads
  if priority ≠ ssxThreads then
    let k' := k.modSem s fun m =>
      { m with pendingThreads := BitQueue.delete m.pendingThreads priority, posts := m.posts + 1 }
    let k' := { k' with runQueue := BitQueue.insert k.runQueue priority }
    let k' := match k.priorityMap priority with
      | some t => k'.give t s
      | none => k'
    (k'.schedule, .ok)
  else
    let count := ((k.sem s).count + 1) % 2 ^ 32
    if (k.sem s).maxCount > 0 ∧ count > (k.sem s).maxCount then
      { k.modSem s fun m => { m with count } with masked := true }.ssxError .semaphoreOverflow
    else (k.modSem s fun m => { m with count, posts := m.posts + 1 }, .ok)

end Kernel

/-! ## Steps -/

/-- What can happen next: a call of the running thread or interrupt handler, the timeout of a
thread's timer, the start and the end of interrupt handling, and the start of the threads. -/
inductive Event
  | create (t priority : Nat) | resume (t : Nat) | suspend (t : Nat) | delete (t : Nat) | complete
  | sleep | priorityChange (t newPriority : Nat) | prioritySwap (a b : Nat)
  | pend (s : Nat) (timeout : Kernel.Timeout) | post (s : Nat)
  | timeout (t : Nat) | irqEnter | irqExit | startThreads
deriving DecidableEq, Repr

/-- `__noncritical_irq` exit: a delayed switch is made. -/
def Kernel.irqExit (k : Kernel) : Kernel :=
  let k := { k with interrupt := false }
  if k.threadMode && k.delayedSwitch then { k with delayedSwitch := false }.nextThreadResume else k

/-- The kernel after an event, when the event can happen. -/
def Kernel.next (k : Kernel) (e : Event) : Option Kernel :=
  if k.panicked then none
  else match e with
    | .create t priority => if k.threadIsActive t then none else some (k.ssxThreadCreate t priority).1
    | .resume t => some (k.ssxThreadResume t).1
    | .suspend t => some (k.ssxThreadSuspend t).1
    | .delete t => some (k.ssxThreadDelete t).1
    | .complete => some k.ssxComplete.1
    | .sleep => some k.ssxSleepAbsolute.1
    | .priorityChange t newPriority => some (k.ssxThreadPriorityChange t newPriority).1
    | .prioritySwap a b => some (k.ssxThreadPrioritySwap a b).1
    | .pend s timeout => some (k.ssxSemaphorePend s timeout).1
    | .post s => some (k.ssxSemaphorePost s).1
    | .timeout t =>
      if k.interrupt && (k.thread t).timerActive then
        some ((k.modThread t fun th => { th with timerActive := false }).threadTimeout t)
      else none
    | .irqEnter => if k.interrupt then none else some { k with interrupt := true }
    | .irqExit => if k.interrupt then some k.irqExit else none
    | .startThreads =>
      if k.threadMode || k.interrupt then none else some { k with threadMode := true }.nextThreadResume

/-- A thread structure that is not in use. -/
def Thread.unused : Thread :=
  { state := .deleted, priority := 0, semaphorePend := false, timerPend := false, timedOut := false
    semaphore := 0, timerActive := false, pc := .running, token := none, pendRc := none }

/-- The kernel after `ssx_initialize`, with the semaphores created with the given initial and
maximum counts. -/
def Kernel.ssxInitialize (errorPanic : Bool) (count maxCount : Nat → Nat) : Kernel where
  thread := fun _ => Thread.unused
  sem := fun s => ⟨count s, maxCount s, 0, 0, 0⟩
  priorityMap := fun _ => none
  runQueue := 0
  nextPriority := ssxThreads
  nextThread := none
  currentThread := none
  delayedSwitch := false
  threadMode := false
  interrupt := false
  masked := false
  panicked := false
  errorPanic := errorPanic

end Occ.Ssx
