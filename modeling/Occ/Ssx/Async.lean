/-
Asynchronous requests on one engine queue (`occhw_async.c`): scheduling, the generic completion and
error handlers, requests that complete at once in their run method, timeouts and the queue of deferred
callbacks.

Handlers run protected against interrupts for the queue, so what they do between two callbacks is not
interleaved with anything; callbacks may schedule requests themselves. The control stack holds what
the handlers still have to do. What the run and error methods return is part of the events.
Timestamps, and the thread that blocks on its own request's semaphore after scheduling it, are left out.
-/
import Occ.Lib.Deque

namespace Occ.Ssx

open Occ Deque

/-- `AsyncRequest.state`. -/
inductive RequestState
  | queued | running | callbackQueued | callbackRunning | postprocessing
  | initialized | failed | complete | cancelled | timedOut
deriving DecidableEq, Repr

/-- `ASYNC_REQUEST_IDLE_GROUP`. -/
def RequestState.isIdle : RequestState → Bool
  | .initialized | .failed | .complete | .cancelled | .timedOut => true
  | _ => false

/-- `ASYNC_REQUEST_CALLBACK_GROUP`. -/
def RequestState.inCallback : RequestState → Bool
  | .callbackQueued | .callbackRunning | .postprocessing => true
  | _ => false

/-- The callback protocol, for a request with a callback. -/
inductive Protocol
  | immediate | deferred | noncritical
deriving DecidableEq, Repr

/-- `AsyncRequest` but for its links. -/
structure Request where
  /-- the callback is not null -/
  callback : Bool
  protocol : Protocol
  /-- `ASYNC_CALLBACK_PRIORITY` -/
  callbackPriority : Bool
  /-- `ASYNC_REQUEST_PRIORITY` -/
  priority : Bool
  /-- `ASYNC_REQUEST_BLOCKING` -/
  blocking : Bool
  /-- the timeout is not `SSX_WAIT_FOREVER` -/
  timeout : Bool
  /-- the error method is not null -/
  errorMethod : Bool
  state : RequestState
  completionState : RequestState
  abortState : RequestState
  /-- the timer is queued -/
  timerActive : Bool
  /-- the timer has expired and its callback `async_timeout` has not begun -/
  timerExpired : Bool
  -- history: accepted schedules, completions, callbacks run, semaphore posts, the number of the last
  -- accepted schedule, and the number of accepted schedules when the timer expired
  accepted : Nat
  completed : Nat
  callbacks : Nat
  posts : Nat
  stamp : Nat
  expiredAt : Nat
deriving DecidableEq, Repr

inductive QueueState
  | idle | running | error
deriving DecidableEq, Repr

/-- What a run method does: the job has started, or `-ASYNC_REQUEST_COMPLETE`, on an error with the
completion state set to `ASYNC_REQUEST_STATE_FAILED`. -/
inductive RunResult
  | started | complete | failed
deriving DecidableEq, Repr

/-- What is still to be done: an iteration of `async_handler`; `async_request_complete`, or the part of
it after the callback, before the handler's next iteration if it loops; the part of
`async_request_finalize` after the callback. -/
inductive Frame
  | handler (critical : Bool)
  | complete (request : Nat) (critical loop : Bool)
  | callback (request : Nat) (critical loop : Bool)
  | finalize (request : Nat)
deriving DecidableEq, Repr

/-- The addresses of the sentinels of the request queue and of `G_async_callback_queue`. -/
def asyncQueue : Nat := 1
def callbackQueue : Nat := 2

structure AsyncState where
  links : Links
  request : Nat → Request
  current : Nat
  queueState : QueueState
  stack : List Frame
  panicked : Bool
  -- history: the number of accepted schedules; of the requests without priority, those that finished on
  -- the engine and those that completed, by number, latest first; for each timeout that aborted a
  -- request, the request and the schedule that the timer was for, and those aborted
  clock : Nat
  retired : List Nat
  completions : List Nat
  aborts : List ((Nat × Nat) × (Nat × Nat))

namespace AsyncState

variable (k : AsyncState)

def modRequest (r : Nat) (f : Request → Request) : AsyncState :=
  { k with request := Function.update k.request r (f (k.request r)) }

/-! ## Completion -/

/-- The request gets its completion state. -/
def setCompleted (r : Nat) : AsyncState :=
  { k.modRequest r fun q => { q with state := q.completionState, completed := q.completed + 1 } with
    completions := if (k.request r).priority then k.completions else (k.request r).stamp :: k.completions }

/-- The timeout is cancelled and the thread woken. -/
def cancelAndPost (r : Nat) : AsyncState :=
  k.modRequest r fun q => { q with
    timerActive := if q.timeout then false else q.timerActive
    posts := if q.blocking then q.posts + 1 else q.posts }

/-- The request is left to the handler of the callback queue. -/
def queueCallback (r : Nat) : AsyncState :=
  { k with links :=
      if (k.request r).callbackPriority then pushFront k.links callbackQueue r else pushBack k.links callbackQueue r }

/-- The handler's next iteration, if it loops. -/
def goOn (critical loop : Bool) (rest : List Frame) : List Frame :=
  if loop then .handler critical :: rest else rest

/-- `async_request_complete` from the end of the callback on. -/
def completeEnd (r : Nat) (critical loop : Bool) (rest : List Frame) : AsyncState :=
  let k := { k with stack := goOn critical loop rest }
  if (k.request r).timeout || (k.request r).blocking then
    if critical then (k.modRequest r fun q => { q with state := .postprocessing }).queueCallback r
    else (k.cancelAndPost r).setCompleted r
  else k.setCompleted r

/-- `async_request_complete`. -/
def requestComplete (r : Nat) (critical loop : Bool) (rest : List Frame) : AsyncState :=
  let q := k.request r
  if !q.callback then k.completeEnd r critical loop rest
  else if q.protocol = .immediate ∨ (q.protocol = .noncritical ∧ critical = false) then
    { k.modRequest r fun q => { q with state := .callbackRunning, callbacks := q.callbacks + 1 } with
      stack := .callback r critical loop :: rest }
  else
    { k.modRequest r fun q => { q with state := .callbackQueued } with
      stack := goOn critical loop rest }.queueCallback r

/-! ## The handlers -/

/-- The next request is run, if there is one; whether it completed at once. -/
def runNext (result : RunResult) : AsyncState × Bool :=
  let popped := popFront k.links asyncQueue
  let k := { k with links := popped.1, current := popped.2 }
  if k.current ≠ 0 then
    ({ k.modRequest k.current fun q => { q with
        state := .running
        completionState := if result = .failed then .failed else q.completionState } with
      queueState := .running }, result != .started)
  else ({ k with queueState := .idle }, false)

/-- One iteration of `async_handler`. -/
def asyncHandler (critical : Bool) (rest : List Frame) (result : RunResult) : AsyncState :=
  let finished := if k.queueState = .idle then 0 else k.current
  if k.queueState ≠ .idle ∧ finished = 0 then { k with panicked := true }
  else
    let k := { k with retired :=
      if finished ≠ 0 ∧ (k.request finished).priority = false then (k.request finished).stamp :: k.retired
      else k.retired }
    let next := if k.queueState = .error then ({ k with current := 0 }, false) else k.runNext result
    { next.1 with
      stack := if finished ≠ 0 then .complete finished critical next.2 :: rest else goOn critical next.2 rest }

/-- `async_error_handler`; whether the error method finds the error fatal. -/
def asyncErrorHandler (critical fatal : Bool) (completionState : RequestState) : AsyncState :=
  if k.current = 0 then { k with panicked := true }
  else
    let k := if (k.request k.current).errorMethod && fatal then { k with queueState := .error } else k
    { k.modRequest k.current fun q => { q with abortState := q.state, completionState } with
      stack := .handler critical :: k.stack }

/-- `async_request_dequeue`. -/
def requestDequeue (r : Nat) (completionState : RequestState) : AsyncState :=
  { { k with links := delete k.links r }.modRequest r fun q => { q with abortState := q.state, completionState } with
    stack := .complete r false false :: k.stack }

/-- `async_timeout`. -/
def asyncTimeout (r : Nat) (fatal : Bool) : AsyncState :=
  let k := k.modRequest r fun q => { q with timerExpired := false }
  if (k.request r).state.inCallback then k
  else if (k.request r).state.isIdle then { k with panicked := true }
  else if (k.request r).state = .queued then
    { k with aborts := ((r, (k.request r).expiredAt), (r, (k.request r).accepted)) :: k.aborts }.requestDequeue r .timedOut
  else
    { k with aborts :=
        ((r, (k.request r).expiredAt), (k.current, (k.request k.current).accepted)) :: k.aborts }.asyncErrorHandler
      false fatal .timedOut

/-! ## Scheduling and the callback queue -/

/-- `async_request_schedule`: a request that is not idle, or one with a timeout from a critical
interrupt, is rejected. -/
def requestSchedule (r : Nat) (critical : Bool) : AsyncState :=
  let q := k.request r
  if !q.state.isIdle || (q.timeout && critical) then k
  else
    let k := { k with
      links := if q.priority then pushFront k.links asyncQueue r else pushBack k.links asyncQueue r
      clock := k.clock + 1 }
    let k := k.modRequest r fun q => { q with
      timerActive := q.timeout || q.timerActive
      state := .queued, completionState := .complete
      accepted := q.accepted + 1, stamp := k.clock }
    if k.queueState = .idle then { k with stack := .handler critical :: k.stack } else k

/-- An iteration of `async_callback_handler` up to the callback. -/
def callbackHandler : AsyncState :=
  let popped := popFront k.links callbackQueue
  let r := popped.2
  if r = 0 then k
  else
    let k := { k with links := popped.1 }
    if (k.request r).state = .callbackQueued then
      { k.modRequest r fun q => { q with state := .callbackRunning, callbacks := q.callbacks + 1 } with
        stack := .finalize r :: k.stack }
    else (k.setCompleted r).cancelAndPost r

/-- The handler on top of the stack goes on. -/
def handlerStep (result : RunResult) : Option AsyncState :=
  match k.stack with
  | [] => none
  | .handler critical :: rest => some (k.asyncHandler critical rest result)
  | .complete r critical loop :: rest => some (k.requestComplete r critical loop rest)
  | .callback r critical loop :: rest => some (k.completeEnd r critical loop rest)
  | .finalize r :: rest => some (({ k with stack := rest }.setCompleted r).cancelAndPost r)

/-- No handler is running but for a deferred callback. -/
def interruptible : Bool :=
  match k.stack with
  | [] | .finalize _ :: _ => true
  | _ => false

/-- Requests can be scheduled: from outside the handlers and from callbacks. -/
def callable : Bool :=
  match k.stack with
  | [] | .finalize _ :: _ | .callback _ _ _ :: _ => true
  | _ => false

end AsyncState

/-! ## Steps -/

inductive AsyncEvent
  | schedule (r : Nat) (critical : Bool)
  | interrupt (critical : Bool)
  | error (critical fatal : Bool)
  | expire (r : Nat)
  | timeout (r : Nat) (fatal : Bool)
  | callbacks
  | handler (result : RunResult)
deriving DecidableEq, Repr

/-- The state after an event, when it can happen. -/
def AsyncState.next (k : AsyncState) (e : AsyncEvent) : Option AsyncState :=
  if k.panicked then none
  else match e with
    | .schedule r critical => if k.callable ∧ callbackQueue < r then some (k.requestSchedule r critical) else none
    | .interrupt critical => if k.interruptible then some { k with stack := .handler critical :: k.stack } else none
    | .error critical fatal => if k.interruptible then some (k.asyncErrorHandler critical fatal .failed) else none
    | .expire r =>
      if k.interruptible ∧ (k.request r).timerActive then
        some (k.modRequest r fun q => { q with timerActive := false, timerExpired := true, expiredAt := q.accepted })
      else none
    | .timeout r fatal => if k.interruptible ∧ (k.request r).timerExpired then some (k.asyncTimeout r fatal) else none
    | .callbacks => if k.stack = [] then some k.callbackHandler else none
    | .handler result => k.handlerStep result

/-- A request as `async_request_create` leaves it. -/
def Request.create (callback : Bool) (protocol : Protocol) (callbackPriority priority blocking timeout errorMethod : Bool) :
    Request :=
  { callback, protocol, callbackPriority, priority, blocking, timeout, errorMethod
    state := .initialized, completionState := .initialized, abortState := .initialized
    timerActive := false, timerExpired := false
    accepted := 0, completed := 0, callbacks := 0, posts := 0, stamp := 0, expiredAt := 0 }

/-- An engine queue as `async_queue_create` leaves it, with requests that were just created. -/
def AsyncState.create (request : Nat → Request) : AsyncState where
  links := sentinelCreate (sentinelCreate ⟨fun _ => 0, fun _ => 0⟩ asyncQueue) callbackQueue
  request := request
  current := 0
  queueState := .idle
  stack := []
  panicked := false
  clock := 0
  retired := []
  completions := []
  aborts := []

end Occ.Ssx
