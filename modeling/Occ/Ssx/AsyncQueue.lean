/-
The invariant of an engine queue and its requests: every request is at one place, its state and its
counters fit the place, and the requests without priority come through the engine by the number of
their schedule. From it, what holds in every state a run reaches.

A timer's callback can be delayed after the expiry, and it does not look whether its request has
completed meanwhile: the runs here are those where it has not.
-/
import Occ.Ssx.Async
import Occ.Lib.Places
import Occ.Lib.Transition

namespace Occ.Ssx

open Occ Deque Places Transition

/-! ## Places -/

/-- Where a request is: not scheduled, in the request queue, on the engine, in the handler before and
during its callback, in the callback queue. -/
inductive Place
  | idle | queued | running | finished | calling | callback
deriving DecidableEq, Repr

/-- The request a frame holds, and its place. -/
def Frame.holds : Frame → Option (Nat × Place)
  | .handler _ => none
  | .complete r _ _ => some (r, .finished)
  | .callback r _ _ | .finalize r => some (r, .calling)

/-- The requests that the frames of a stack hold at a place. -/
def heldAt (p : Place) : List Frame → List Nat
  | [] => []
  | f :: rest =>
    match f.holds with
    | some (r, p') => if p' = p then r :: heldAt p rest else heldAt p rest
    | none => heldAt p rest

/-- The handler is not in a callback. -/
def Frame.busy : Frame → Bool
  | .handler _ | .complete _ _ _ => true
  | _ => false

def engine (current : Nat) : List Nat := if current = 0 then [] else [current]

/-- The requests at each place, where `xs` and `ys` are in the two queues. -/
def members (current : Nat) (stack : List Frame) (xs ys : List Nat) : Place → List Nat
  | .idle => []
  | .queued => xs
  | .running => engine current
  | .finished => heldAt .finished stack
  | .calling => heldAt .calling stack
  | .callback => ys

/-- The states of a request at each place. -/
def StateOk (s : RequestState) : Place → Prop
  | .idle => s.isIdle = true
  | .queued => s = .queued
  | .running => s = .running
  | .finished => s = .queued ∨ s = .running
  | .calling => s = .callbackRunning
  | .callback => s = .callbackQueued ∨ s = .postprocessing

/-- The callback of the request's last schedule has begun, and the request has not completed. -/
def RequestState.called (s : RequestState) : Bool := s == .callbackRunning || s == .postprocessing

structure RequestOk (q : Request) (p : Place) : Prop where
  state : StateOk q.state p
  completion : q.completionState.isIdle = true
  accepted : q.accepted = q.completed + if p = .idle then 0 else 1
  callbacks : q.callbacks = if q.callback then q.completed + (if q.state.called then 1 else 0) else 0
  posts : q.posts = if q.blocking then q.completed else 0
  callback : q.state = .callbackQueued → q.callback = true

/-- The numbers of the schedules of the requests without priority among those listed. -/
def stamps (request : Nat → Request) (l : List Nat) : List Nat :=
  (l.filter fun r => !(request r).priority).map fun r => (request r).stamp

/-- The numbers of schedules are increasing, and were given out. -/
def InOrder (clock : Nat) (l : List Nat) : Prop :=
  l.Pairwise (· < ·) ∧ ∀ n ∈ l, n ≤ clock

/-- An iteration of the handler is next. -/
def handling : List Frame → Bool
  | .handler _ :: _ => true
  | _ => false

/-- What the queue's state says about the engine, but for what the handler is about to do. -/
def EngineOk (k : AsyncState) (xs : List Nat) : Prop :=
  match k.queueState with
  | .idle => k.current = 0 ∧ (xs = [] ∨ handling k.stack)
  | .running => k.current ≠ 0
  | .error => k.current = 0 ∨ handling k.stack

/-- The invariant but for the queue's state. -/
structure AsyncCore (k : AsyncState) (loc : Nat → Place) (xs ys : List Nat) : Prop where
  queue : IsDeque k.links asyncQueue xs
  callbacks : IsDeque k.links callbackQueue ys
  places : Kept .idle loc (members k.current k.stack xs ys)
  address : ∀ r, loc r ≠ .idle → callbackQueue < r
  request : ∀ r, RequestOk (k.request r) (loc r)
  top : ∀ f ∈ k.stack.tail, f.busy = false
  order : InOrder k.clock (k.retired.reverse ++ stamps k.request (engine k.current ++ xs))
  aborts : ∀ p ∈ k.aborts, p.1 = p.2

/-- The invariant of an engine queue. -/
def AsyncInv (k : AsyncState) : Prop :=
  ∃ loc xs ys, AsyncCore k loc xs ys ∧ EngineOk k xs

section Lists

variable {request : Nat → Request} {r : Nat} {q : Request} {l l' : List Nat} {n clock : Nat}

theorem stamps_append : stamps request (l ++ l') = stamps request l ++ stamps request l' := by
  simp [stamps]

theorem stamps_singleton : stamps request [r] = if (request r).priority then [] else [(request r).stamp] := by
  cases h : (request r).priority <;> simp [stamps, h]

theorem stamps_cons : stamps request (r :: l) = stamps request [r] ++ stamps request l := by
  rw [← stamps_append, List.singleton_append]

theorem stamps_congr {request' : Nat → Request} (hp : ∀ r ∈ l, (request' r).priority = (request r).priority)
    (hs : ∀ r ∈ l, (request' r).stamp = (request r).stamp) : stamps request' l = stamps request l := by
  unfold stamps
  rw [List.filter_congr fun r hr => by rw [hp r hr]]
  exact List.map_congr_left fun r hr => hs r (List.mem_filter.1 hr).1

theorem stamps_update (hp : q.priority = (request r).priority) (hs : q.stamp = (request r).stamp) :
    stamps (Function.update request r q) l = stamps request l := by
  refine stamps_congr ?_ ?_ <;>
  · intro x _
    by_cases hx : x = r
    · subst hx
      simp [hp, hs]
    · rw [Function.update_of_ne hx]

theorem stamps_update_of_not_mem (hr : r ∉ l) : stamps (Function.update request r q) l = stamps request l := by
  refine stamps_congr ?_ ?_ <;>
  · intro x hx
    have hxr : x ≠ r := by
      rintro rfl
      exact hr hx
    rw [Function.update_of_ne hxr]

theorem stamps_sublist (h : l.Sublist l') : (stamps request l).Sublist (stamps request l') :=
  (h.filter _).map _

theorem InOrder.sublist (h : InOrder clock l') (hl : l.Sublist l') : InOrder clock l :=
  ⟨h.1.sublist hl, fun n hn => h.2 n (hl.subset hn)⟩

theorem InOrder.succ (h : InOrder clock l) : InOrder (clock + 1) l :=
  ⟨h.1, fun n hn => Nat.le_succ_of_le (h.2 n hn)⟩

theorem InOrder.append (h : InOrder clock l) : InOrder (clock + 1) (l ++ [clock + 1]) := by
  constructor
  · rw [List.pairwise_append]
    refine ⟨h.1, List.pairwise_singleton _ _, ?_⟩
    intro a ha b hb
    have hle := h.2 a ha
    rw [List.mem_singleton] at hb
    omega
  · intro n hn
    rw [List.mem_append, List.mem_singleton] at hn
    rcases hn with hn | rfl
    · exact Nat.le_succ_of_le (h.2 n hn)
    · exact Nat.le_refl _

end Lists

section Stacks

variable {f : Frame} {r current : Nat} {p x : Place} {critical loop : Bool} {rest stack : List Frame} {xs ys : List Nat}

theorem heldAt_finished (h : ∀ f ∈ stack, f.busy = false) : heldAt .finished stack = [] := by
  induction stack with
  | nil => rfl
  | cons f rest ih =>
    have hf := h f (by simp)
    have hrest := ih fun g hg => h g (by simp [hg])
    cases f <;> simp [Frame.busy] at hf <;> simp [heldAt, Frame.holds, hrest]

@[simp] theorem heldAt_goOn : heldAt p (AsyncState.goOn critical loop rest) = heldAt p rest := by
  cases loop <;> rfl

theorem goOn_tail (critical loop : Bool) (h : ∀ f ∈ rest, f.busy = false) :
    ∀ f ∈ (AsyncState.goOn critical loop rest).tail, f.busy = false := by
  cases loop
  · exact fun f hf => h f (List.mem_of_mem_tail hf)
  · exact h

theorem members_stack {stack' : List Frame} (h : ∀ p, heldAt p stack = heldAt p stack') :
    members current stack xs ys x = members current stack' xs ys x := by
  cases x <;> simp [members, h]

theorem members_pop (hf : f.holds = some (r, p)) :
    members current (f :: rest) xs ys p = r :: members current rest xs ys p ∧
      ∀ x, x ≠ p → members current (f :: rest) xs ys x = members current rest xs ys x := by
  refine ⟨?_, fun x hx => ?_⟩
  · cases f <;> simp only [Frame.holds, Option.some.injEq, Prod.mk.injEq, reduceCtorEq] at hf <;>
    · obtain ⟨rfl, rfl⟩ := hf
      simp [members, heldAt, Frame.holds]
  · cases x <;> simp [members, heldAt, hf, Ne.symm hx]

end Stacks

/-! ## Lookups -/

namespace AsyncCore

variable {k : AsyncState} {loc : Nat → Place} {xs ys : List Nat} {r : Nat}

theorem mem_queue (h : AsyncCore k loc xs ys) : r ∈ xs ↔ loc r = .queued := (h.places .queued (by simp)).mem r

theorem mem_callbacks (h : AsyncCore k loc xs ys) : r ∈ ys ↔ loc r = .callback := (h.places .callback (by simp)).mem r

theorem mem_engine (h : AsyncCore k loc xs ys) : r ∈ engine k.current ↔ loc r = .running :=
  (h.places .running (by simp)).mem r

theorem mem_finished (h : AsyncCore k loc xs ys) : r ∈ heldAt .finished k.stack ↔ loc r = .finished :=
  (h.places .finished (by simp)).mem r

theorem loc_current (h : AsyncCore k loc xs ys) (hc : k.current ≠ 0) : loc k.current = .running :=
  h.mem_engine.1 (by simp [engine, hc])

theorem eq_current (h : AsyncCore k loc xs ys) (hr : loc r = .running) : r = k.current ∧ k.current ≠ 0 := by
  have hm := h.mem_engine.2 hr
  unfold engine at hm
  split at hm
  · simp at hm
  · rename_i hc
    exact ⟨by simpa using hm, hc⟩

theorem not_mem_queue (h : AsyncCore k loc xs ys) (hr : callbackQueue < r) (hl : loc r ≠ .queued) :
    r ∉ asyncQueue :: xs := by
  rw [List.mem_cons, h.mem_queue]
  simp only [asyncQueue, callbackQueue] at *
  rintro (rfl | hq)
  · omega
  · exact hl hq

theorem not_mem_callbacks (h : AsyncCore k loc xs ys) (hr : callbackQueue < r) (hl : loc r ≠ .callback) :
    r ∉ callbackQueue :: ys := by
  rw [List.mem_cons, h.mem_callbacks]
  rintro (rfl | hq)
  · exact Nat.lt_irrefl _ hr
  · exact hl hq

theorem disjoint (h : AsyncCore k loc xs ys) : ∀ x ∈ callbackQueue :: ys, x ∉ asyncQueue :: xs := by
  intro x hx
  rw [List.mem_cons] at hx
  rcases hx with rfl | hx
  · rw [List.mem_cons, h.mem_queue]
    rintro (hx | hx)
    · simp [asyncQueue, callbackQueue] at hx
    · exact Nat.lt_irrefl _ (h.address callbackQueue (by simp [hx]))
  · have hloc := h.mem_callbacks.1 hx
    exact h.not_mem_queue (h.address x (by simp [hloc])) (by simp [hloc])

theorem disjoint' (h : AsyncCore k loc xs ys) : ∀ x ∈ asyncQueue :: xs, x ∉ callbackQueue :: ys :=
  fun x hx hx' => h.disjoint x hx' hx

theorem not_busy (h : AsyncCore k loc xs ys) (hc : k.callable = true) : ∀ f ∈ k.stack, f.busy = false := by
  have htop := h.top
  unfold AsyncState.callable at hc
  cases hs : k.stack with
  | nil => simp
  | cons g rest =>
    rw [hs] at hc htop
    intro f hf
    rcases List.mem_cons.1 hf with rfl | hf
    · cases f <;> simp [Frame.busy] at hc ⊢
    · exact htop f hf

theorem loc_ne_finished (h : AsyncCore k loc xs ys) (hc : k.callable = true) : loc r ≠ .finished := by
  rw [Ne, ← h.mem_finished, heldAt_finished (h.not_busy hc)]
  simp

theorem loc_of_state (h : AsyncCore k loc xs ys) (hc : k.callable = true) :
    ((k.request r).state.isIdle = true ↔ loc r = .idle) ∧ ((k.request r).state = .queued ↔ loc r = .queued) ∧
      ((k.request r).state = .running ↔ loc r = .running) := by
  have hs := (h.request r).state
  have hf := h.loc_ne_finished (r := r) hc
  cases hl : loc r <;> rw [hl] at hs <;> simp only [StateOk] at hs
  · cases he : (k.request r).state <;> simp_all [RequestState.isIdle]
  · simp [hs, RequestState.isIdle]
  · simp [hs, RequestState.isIdle]
  · exact absurd hl hf
  · simp [hs, RequestState.isIdle]
  · rcases hs with hs | hs <;> simp [hs, RequestState.isIdle]

end AsyncCore

/-! ## Completion -/

section Completion

variable {k k' : AsyncState} {loc : Nat → Place} {xs ys ys' : List Nat} {r : Nat} {p p' : Place} {q q' : Request}
  {f : Frame} {rest : List Frame} {critical loop : Bool}

theorem RequestOk.done (h : RequestOk q p) (hp : p ≠ .idle) (hc : q.callback = true → q.state.called = true)
    {n : Nat} (hn : n = if q.blocking then q.posts + 1 else q.posts) (t : Bool) :
    RequestOk { q with timerActive := t, posts := n, state := q.completionState, completed := q.completed + 1 } .idle := by
  have hcalled : q.completionState.called = false := by
    have hi := h.completion
    cases hs : q.completionState <;> simp [hs, RequestState.isIdle, RequestState.called] at hi ⊢
  have ha := h.accepted
  have hcb := h.callbacks
  have hpo := h.posts
  refine ⟨h.completion, h.completion, ?_, ?_, ?_, ?_⟩
  · simp only [hp, if_false] at ha
    simpa using ha
  · simp only [hcalled]
    cases hq : q.callback <;> simp_all
  · simp only [hn]
    cases hq : q.blocking <;> simp_all
  · intro hs
    have hi := h.completion
    simp only at hs
    simp [hs, RequestState.isIdle] at hi

/-- A request that is neither queued nor on the engine moves on; the engine and its queue stay as they are. -/
theorem AsyncCore.move (h : AsyncCore k loc xs ys) (hr : loc r = p) (hpp : p ≠ p')
    (haddr : callbackQueue < r)
    (hreq : k'.request = Function.update k.request r q) (hq : RequestOk q p')
    (hprio : q.priority = (k.request r).priority) (hstamp : q.stamp = (k.request r).stamp)
    (hcur : k'.current = k.current) (hret : k'.retired = k.retired) (hclock : k'.clock = k.clock)
    (hab : k'.aborts = k.aborts) (hqueue : IsDeque k'.links asyncQueue xs) (hcbs : IsDeque k'.links callbackQueue ys')
    (htop : ∀ f ∈ k'.stack.tail, f.busy = false)
    (hleave : p ≠ .idle → (members k.current k.stack xs ys p).Perm (r :: members k.current k'.stack xs ys' p))
    (henter : p' ≠ .idle → (members k.current k'.stack xs ys' p').Perm (r :: members k.current k.stack xs ys p'))
    (hstay : ∀ x, x ≠ p → x ≠ p' → members k.current k'.stack xs ys' x = members k.current k.stack xs ys x) :
    AsyncCore k' (Function.update loc r p') xs ys' where
  queue := hqueue
  callbacks := hcbs
  places := by
    rw [hcur]
    exact h.places.move hr hpp hleave henter hstay
  address := by
    intro x hx
    by_cases hxr : x = r
    · rw [hxr]
      exact haddr
    · rw [Function.update_of_ne hxr] at hx
      exact h.address x hx
  request := by
    rw [hreq]
    exact forall_update h.request hq
  top := htop
  order := by
    rw [hcur, hret, hclock, hreq, stamps_update hprio hstamp]
    exact h.order
  aborts := by
    rw [hab]
    exact h.aborts

theorem AsyncCore.tail (h : AsyncCore k loc xs ys) (hs : k.stack = f :: rest) : ∀ g ∈ rest, g.busy = false := by
  have htop := h.top
  rw [hs] at htop
  exact htop

theorem AsyncCore.loc_top (h : AsyncCore k loc xs ys) (hs : k.stack = f :: rest) (hf : f.holds = some (r, p)) :
    p ≠ .idle ∧ loc r = p := by
  have hpi : p ≠ .idle := by cases f <;> simp [Frame.holds] at hf <;> simp [← hf.2]
  refine ⟨hpi, ?_⟩
  rw [← (h.places p hpi).mem, hs, (members_pop hf).1]
  simp

theorem AsyncCore.complete (h : AsyncCore k loc xs ys) (hs : k.stack = f :: rest) (hf : f.holds = some (r, p))
    (hreq : k'.request = Function.update k.request r q) (hq : RequestOk q .idle)
    (hprio : q.priority = (k.request r).priority) (hstamp : q.stamp = (k.request r).stamp)
    (hcur : k'.current = k.current) (hret : k'.retired = k.retired) (hclock : k'.clock = k.clock)
    (hab : k'.aborts = k.aborts) (hlinks : k'.links = k.links)
    (hheld : ∀ p, heldAt p k'.stack = heldAt p rest) (htop : ∀ f ∈ k'.stack.tail, f.busy = false) :
    AsyncCore k' (Function.update loc r .idle) xs ys := by
  obtain ⟨hpop, hstay⟩ := @members_pop f r k.current p rest xs ys hf
  have hp : p = .finished ∨ p = .calling := by cases f <;> simp [Frame.holds] at hf <;> simp [hf]
  obtain ⟨hpi, hr⟩ := h.loc_top hs hf
  refine h.move hr hpi (h.address r (by rw [hr]; exact hpi)) hreq hq hprio hstamp hcur hret hclock hab
    (by rw [hlinks]; exact h.queue) (by rw [hlinks]; exact h.callbacks) htop ?_ (by simp) ?_
  · intro _
    rw [hs, hpop, members_stack hheld]
  · intro x hx _
    rw [hs, hstay x hx, members_stack hheld]

/-- The request of the top frame is left to the callback queue. -/
theorem AsyncCore.defer (h : AsyncCore k loc xs ys) (hs : k.stack = f :: rest) (hf : f.holds = some (r, p))
    (hq : RequestOk q .callback) (hprio : q.priority = (k.request r).priority) (hstamp : q.stamp = (k.request r).stamp)
    (stack' : List Frame)
    (hheld : ∀ p, heldAt p stack' = heldAt p rest) (htop : ∀ f ∈ stack'.tail, f.busy = false) :
    ∃ ys', AsyncCore ({ k with request := Function.update k.request r q, stack := stack' }.queueCallback r)
      (Function.update loc r .callback) xs ys' := by
  obtain ⟨hpop, hstay⟩ := @members_pop f r k.current p rest xs ys hf
  have hp : p = .finished ∨ p = .calling := by cases f <;> simp [Frame.holds] at hf <;> simp [hf]
  obtain ⟨hpi, hr⟩ := h.loc_top hs hf
  have haddr := h.address r (by rw [hr]; exact hpi)
  have hne : loc r ≠ .queued ∧ loc r ≠ .callback := by
    rw [hr]
    rcases hp with rfl | rfl <;> simp
  obtain ⟨hpush, hother⟩ := isDeque_push h.disjoint' h.callbacks h.queue (h.not_mem_callbacks haddr hne.2)
    (h.not_mem_queue haddr hne.1) (Nat.ne_of_gt (Nat.zero_lt_of_lt haddr)) q.callbackPriority
  refine ⟨if q.callbackPriority then r :: ys else ys ++ [r], ?_⟩
  refine h.move hr (by rcases hp with rfl | rfl <;> simp) haddr rfl hq hprio hstamp rfl rfl rfl rfl
    ?_ ?_ htop ?_ ?_ ?_
  · simpa [AsyncState.queueCallback] using hother
  · simpa [AsyncState.queueCallback] using hpush
  · intro _
    rw [hs, hpop]
    rcases hp with rfl | rfl <;> simp [members, AsyncState.queueCallback, hheld]
  · intro _
    simp only [members]
    split
    · exact List.Perm.refl _
    · exact List.perm_append_singleton r ys
  · intro x hx hxc
    rw [hs, hstay x hx]
    cases x <;> simp [members, AsyncState.queueCallback, hheld] at hxc ⊢

theorem EngineOk.congr (h : EngineOk k xs) (hh : handling k.stack = false) (hs : k'.queueState = k.queueState)
    (hc : k'.current = k.current) : EngineOk k' xs := by
  unfold EngineOk at h ⊢
  rw [hs, hc]
  split <;> rename_i hq <;> simp only [hq, hh] at h <;> simp_all

/-- `async_request_complete` after the callback, or without one. -/
theorem AsyncCore.completeEnd (h : AsyncCore k loc xs ys) (he : EngineOk k xs) (hs : k.stack = f :: rest)
    (hf : f.holds = some (r, p)) (hc : (k.request r).callback = true → (k.request r).state.called = true) :
    AsyncInv (k.completeEnd r critical loop rest) := by
  have hhand : handling k.stack = false := by
    rw [hs]
    cases f <;> simp [Frame.holds, handling] at hf ⊢
  have htop := goOn_tail critical loop (h.tail hs)
  obtain ⟨hpi, hr⟩ := h.loc_top hs hf
  have hq := h.request r
  rw [hr] at hq
  unfold AsyncState.completeEnd
  simp only
  by_cases hpost : ((k.request r).timeout || (k.request r).blocking) = true
  · rw [if_pos hpost]
    cases critical
    · rw [if_neg (by simp)]
      refine ⟨_, xs, ys, h.complete hs hf ?_
        (hq.done hpi hc rfl (if (k.request r).timeout then false else (k.request r).timerActive)) rfl rfl rfl rfl rfl rfl
        rfl (by simp [AsyncState.setCompleted, AsyncState.cancelAndPost, AsyncState.modRequest]) htop, ?_⟩
      · simp [AsyncState.setCompleted, AsyncState.cancelAndPost, AsyncState.modRequest]
      · exact he.congr hhand rfl rfl
    · rw [if_pos rfl]
      have hq' : RequestOk { k.request r with state := .postprocessing } .callback := by
        refine ⟨.inr rfl, hq.completion, ?_, ?_, hq.posts, by simp⟩
        · simpa [hpi] using hq.accepted
        · have hcb := hq.callbacks
          cases hcq : (k.request r).callback <;> simp_all [RequestState.called]
      obtain ⟨ys', h'⟩ := h.defer hs hf hq' rfl rfl (AsyncState.goOn true loop rest) (by simp) htop
      exact ⟨_, xs, ys', h', he.congr hhand rfl rfl⟩
  · rw [if_neg hpost]
    have hpost' : (k.request r).timeout = false ∧ (k.request r).blocking = false := by
      simpa using hpost
    refine ⟨_, xs, ys, h.complete hs hf ?_ (hq.done hpi hc (n := (k.request r).posts) (by simp [hpost'.2])
      (k.request r).timerActive) rfl rfl rfl rfl rfl rfl rfl (by simp [AsyncState.setCompleted, AsyncState.modRequest]) htop, ?_⟩
    · simp [AsyncState.setCompleted, AsyncState.modRequest]
    · exact he.congr hhand rfl rfl

theorem AsyncCore.called_of_top (h : AsyncCore k loc xs ys) (hs : k.stack = f :: rest)
    (hf : f.holds = some (r, .calling)) : (k.request r).state.called = true := by
  have hq := (h.request r).state
  rw [(h.loc_top hs hf).2] at hq
  rw [show (k.request r).state = .callbackRunning from hq]
  rfl

theorem AsyncCore.requestComplete (h : AsyncCore k loc xs ys) (he : EngineOk k xs)
    (hs : k.stack = .complete r critical loop :: rest) : AsyncInv (k.requestComplete r critical loop rest) := by
  have hf : (Frame.complete r critical loop).holds = some (r, .finished) := rfl
  have hhand : handling k.stack = false := by rw [hs]; rfl
  have htail := h.tail hs
  obtain ⟨-, hr⟩ := h.loc_top hs hf
  have hq := h.request r
  rw [hr] at hq
  have hcalled : (k.request r).state.called = false := by
    rcases hq.state with hst | hst <;> rw [hst] <;> rfl
  have hcb := hq.callbacks
  unfold AsyncState.requestComplete
  simp only
  split
  · rename_i hc
    have hc' : (k.request r).callback = false := by simpa using hc
    exact h.completeEnd he hs hf (by simp [hc'])
  rename_i hc
  have hc' : (k.request r).callback = true := by simpa using hc
  split
  · -- the callback is run, in the handler
    have hq' : RequestOk { k.request r with state := .callbackRunning, callbacks := (k.request r).callbacks + 1 }
        .calling := by
      refine ⟨rfl, hq.completion, by simpa using hq.accepted, ?_, hq.posts, by simp⟩
      simp [hcb, hc', hcalled]
      rfl
    refine ⟨_, xs, ys, h.move hr (show Place.finished ≠ .calling by simp) (h.address r (by simp [hr])) rfl hq' rfl rfl rfl rfl rfl rfl
      h.queue h.callbacks htail ?_ ?_ ?_, he.congr hhand rfl rfl⟩
    · intro _
      rw [hs]
      simp [members, heldAt, Frame.holds]
    · intro _
      rw [hs]
      simp [members, heldAt, Frame.holds]
    · intro x hx hx'
      rw [hs]
      cases x <;> simp [members] at hx hx' ⊢
  · have hq' : RequestOk { k.request r with state := .callbackQueued } .callback := by
      refine ⟨.inl rfl, hq.completion, by simpa using hq.accepted, ?_, hq.posts, fun _ => hc'⟩
      simp [hcb, hc', hcalled]
      rfl
    obtain ⟨ys', h'⟩ := h.defer hs hf hq' rfl rfl (AsyncState.goOn critical loop rest) (by simp)
      (goOn_tail critical loop htail)
    exact ⟨_, xs, ys', h', he.congr hhand rfl rfl⟩

/-- `async_request_finalize` after the callback. -/
theorem AsyncCore.finalize (h : AsyncCore k loc xs ys) (he : EngineOk k xs) (hs : k.stack = .finalize r :: rest) :
    AsyncInv (({ k with stack := rest }.setCompleted r).cancelAndPost r) := by
  have hf : (Frame.finalize r).holds = some (r, .calling) := rfl
  obtain ⟨hpi, hr⟩ := h.loc_top hs hf
  have hq := h.request r
  rw [hr] at hq
  refine ⟨_, xs, ys, h.complete hs hf ?_
    (hq.done hpi (fun _ => h.called_of_top hs hf) rfl (if (k.request r).timeout then false else (k.request r).timerActive)) rfl rfl rfl
    rfl rfl rfl rfl (fun _ => rfl) ?_, he.congr (by rw [hs]; rfl) rfl rfl⟩
  · simp [AsyncState.setCompleted, AsyncState.cancelAndPost, AsyncState.modRequest]
  · exact fun g hg => h.tail hs g (List.mem_of_mem_tail hg)

theorem AsyncCore.callbackHandler (h : AsyncCore k loc xs ys) (he : EngineOk k xs) (hs : k.stack = []) :
    AsyncInv k.callbackHandler := by
  unfold AsyncState.callbackHandler
  cases ys with
  | nil =>
    rw [popFront_nil h.callbacks]
    exact ⟨loc, xs, [], h, he⟩
  | cons r ys =>
    rw [popFront_eq h.callbacks]
    have hr : loc r = .callback := h.mem_callbacks.1 (by simp)
    have haddr := h.address r (by simp [hr])
    have hcbs : IsDeque (delete k.links r) callbackQueue ys := isDeque_delete_head h.callbacks
    have hqueue : IsDeque (delete k.links r) asyncQueue xs := h.queue.delete_other h.disjoint' h.callbacks (by simp)
    have hhand : handling k.stack = false := by rw [hs]; rfl
    have hq := h.request r
    rw [hr] at hq
    have hcb := hq.callbacks
    simp only [Nat.ne_of_gt (Nat.zero_lt_of_lt haddr), if_false]
    split
    · rename_i hst
      have hq' : RequestOk { k.request r with state := .callbackRunning, callbacks := (k.request r).callbacks + 1 }
          .calling := by
        refine ⟨rfl, hq.completion, by simpa using hq.accepted, ?_, hq.posts, by simp⟩
        simp [hcb, hq.callback hst, hst, RequestState.called]
      refine ⟨_, xs, ys, h.move hr (show Place.callback ≠ .calling by simp) haddr rfl hq' rfl rfl rfl rfl rfl rfl hqueue hcbs
        (by simp [hs]) ?_ ?_ ?_, he.congr hhand rfl rfl⟩
      · intro _
        simp [members]
      · intro _
        simp [members, hs, heldAt, Frame.holds]
      · intro x hx hx'
        cases x <;> simp [members, hs, heldAt, Frame.holds] at hx hx' ⊢
    · rename_i hst
      have hpost : (k.request r).state = .postprocessing := by
        rcases hq.state with h' | h'
        · exact absurd h' hst
        · exact h'
      have hq' := hq.done (by simp) (fun _ => by rw [hpost]; rfl) rfl
        (if (k.request r).timeout then false else (k.request r).timerActive)
      refine ⟨_, xs, ys, h.move hr (show Place.callback ≠ .idle by simp) haddr ?_ hq' rfl rfl rfl rfl rfl rfl hqueue hcbs
        (by simp [hs, AsyncState.setCompleted, AsyncState.cancelAndPost, AsyncState.modRequest]) ?_ (by simp) ?_,
        he.congr hhand rfl rfl⟩
      · simp [AsyncState.setCompleted, AsyncState.cancelAndPost, AsyncState.modRequest]
      · intro _
        simp [members]
      · intro x hx hx'
        cases x <;> simp [members, AsyncState.setCompleted, AsyncState.cancelAndPost, AsyncState.modRequest] at hx hx' ⊢

end Completion

/-! ## The handlers -/

section Handlers

variable {k : AsyncState} {loc : Nat → Place} {xs ys : List Nat} {r : Nat} {q : Request} {rest : List Frame}
  {critical fatal : Bool}

/-- The request on the engine comes off it. -/
theorem AsyncCore.finish (h : AsyncCore k loc xs ys) (hs : k.stack = .handler critical :: rest) (hc : k.current ≠ 0)
    (loop : Bool) :
    AsyncCore { k with
        retired := if (k.request k.current).priority = false then (k.request k.current).stamp :: k.retired else k.retired
        current := 0
        stack := .complete k.current critical loop :: rest }
      (Function.update loc k.current .finished) xs ys where
  queue := h.queue
  callbacks := h.callbacks
  places := by
    refine h.places.move (h.loc_current hc) (by simp) ?_ ?_ ?_
    · intro _
      simp [members, engine, hc]
    · intro _
      rw [hs]
      simp [members, heldAt, Frame.holds]
    · intro x hx hx'
      rw [hs]
      cases x <;> simp [members, heldAt, Frame.holds] at hx hx' ⊢
  address := by
    intro x hx
    by_cases hxr : x = k.current
    · rw [hxr]
      exact h.address _ (by simp [h.loc_current hc])
    · rw [Function.update_of_ne hxr] at hx
      exact h.address x hx
  request := by
    have hq := h.request k.current
    rw [h.loc_current hc] at hq
    have hq' : RequestOk (k.request k.current) .finished := { hq with state := .inr hq.state, accepted := by simpa using hq.accepted }
    rw [← Function.update_eq_self k.current k.request]
    exact forall_update h.request hq'
  top := h.tail hs
  order := by
    have ho := h.order
    rw [show engine k.current ++ xs = k.current :: xs by simp [engine, hc], stamps_cons, stamps_singleton] at ho
    show InOrder k.clock (_ ++ stamps k.request (engine 0 ++ xs))
    cases hp : (k.request k.current).priority <;> simpa [hp, engine] using ho
  aborts := h.aborts

/-- The first queued request gets onto the engine. -/
theorem AsyncCore.start {e : Nat} (h : AsyncCore k loc (e :: xs) ys) (hc : k.current = 0) {cs : RequestState}
    (hcs : cs.isIdle = true) :
    AsyncCore { k with
        links := delete k.links e, current := e
        request := Function.update k.request e { k.request e with state := .running, completionState := cs } }
      (Function.update loc e .running) xs ys := by
  have he : loc e = .queued := h.mem_queue.1 (by simp)
  have haddr := h.address e (by simp [he])
  have he0 := Nat.ne_of_gt (Nat.zero_lt_of_lt haddr)
  refine ⟨isDeque_delete_head h.queue, h.callbacks.delete_other h.disjoint h.queue (by simp), ?_, ?_, ?_, h.top,
    ?_, h.aborts⟩
  · refine h.places.move he (by simp) ?_ ?_ ?_
    · intro _
      simp [members]
    · intro _
      simp [members, engine, hc, he0]
    · intro x hx hx'
      cases x <;> simp [members] at hx hx' ⊢
  · intro x hx
    by_cases hxe : x = e
    · rw [hxe]
      exact haddr
    · rw [Function.update_of_ne hxe] at hx
      exact h.address x hx
  · refine forall_update h.request ?_
    have hq0 := h.request e
    rw [he] at hq0
    have hcb := hq0.callbacks
    rw [show (k.request e).state = .queued from hq0.state] at hcb
    exact ⟨rfl, hcs, by simpa using hq0.accepted, hcb, hq0.posts, by simp⟩
  · have ho := h.order
    show InOrder k.clock (k.retired.reverse ++ stamps (Function.update k.request e _) (engine e ++ xs))
    rw [stamps_update (by rfl) (by rfl)]
    simpa [engine, hc, he0] using ho

/-- `AsyncState.runNext`, on an engine that is free. -/
theorem AsyncCore.runNext (h : AsyncCore k loc xs ys) (hc : k.current = 0) (result : RunResult) :
    ∃ loc' xs', AsyncCore (k.runNext result).1 loc' xs' ys ∧ (k.runNext result).1.stack = k.stack ∧
      ∀ stack, EngineOk { (k.runNext result).1 with stack } xs' := by
  unfold AsyncState.runNext
  cases xs with
  | nil =>
    rw [popFront_nil h.queue]
    refine ⟨loc, [], ?_, rfl, ?_⟩
    · simp only [ne_eq, not_true_eq_false, if_false]
      rw [← hc]
      exact ⟨h.queue, h.callbacks, h.places, h.address, h.request, h.top, h.order, h.aborts⟩
    · exact fun _ => ⟨rfl, .inl rfl⟩
  | cons e xs =>
    rw [popFront_eq h.queue]
    have he : loc e = .queued := h.mem_queue.1 (by simp)
    have he0 := Nat.ne_of_gt (Nat.zero_lt_of_lt (h.address e (by simp [he])))
    have hq := (h.request e).completion
    have hcs : (if result = .failed then .failed else (k.request e).completionState).isIdle = true := by
      split
      · rfl
      · exact hq
    have h' := h.start hc hcs
    simp only [ne_eq, he0, not_false_eq_true, if_true]
    exact ⟨_, xs, ⟨h'.queue, h'.callbacks, h'.places, h'.address, h'.request, h'.top, h'.order, h'.aborts⟩, rfl, fun _ => he0⟩

theorem runNext_eq (k : AsyncState) (current : Nat) (stack : List Frame) (result : RunResult) :
    { k with current, stack }.runNext result = ({ (k.runNext result).1 with stack }, (k.runNext result).2) := by
  unfold AsyncState.runNext
  simp only
  split <;> rfl

theorem AsyncCore.setState (h : AsyncCore k loc xs ys) (queueState : QueueState) :
    AsyncCore { k with queueState } loc xs ys :=
  { h with }

theorem AsyncCore.setStack (h : AsyncCore k loc xs ys) (stack : List Frame) (hh : ∀ p, heldAt p stack = heldAt p k.stack)
    (ht : ∀ f ∈ stack.tail, f.busy = false) : AsyncCore { k with stack } loc xs ys :=
  { h with places := h.places.congr fun _ _ => members_stack hh, top := ht }

theorem AsyncCore.asyncHandler (h : AsyncCore k loc xs ys) (he : EngineOk k xs)
    (hs : k.stack = .handler critical :: rest) (result : RunResult) : AsyncInv (k.asyncHandler critical rest result) := by
  have htail := h.tail hs
  unfold AsyncState.asyncHandler
  by_cases hidle : k.queueState = .idle
  · -- nothing was running: the next request is started
    have hc : k.current = 0 := by
      unfold EngineOk at he
      rw [hidle] at he
      exact he.1
    obtain ⟨loc', xs', h', hs', he'⟩ := h.runNext hc result
    simp only [hidle, if_true, ne_eq, not_true_eq_false, false_and, if_false, reduceCtorEq]
    refine ⟨loc', xs', ys, h'.setStack _ (fun p => ?_) (goOn_tail critical _ htail), he' _⟩
    rw [hs', hs]
    simp [heldAt, Frame.holds]
  simp only [hidle, if_false, ne_eq, not_false_eq_true, true_and]
  by_cases hc : k.current = 0
  · rw [if_pos hc]
    exact ⟨loc, xs, ys, ⟨h.queue, h.callbacks, h.places, h.address, h.request, h.top, h.order, h.aborts⟩, he⟩
  simp only [hc, if_false, not_false_eq_true, if_true, true_and]
  by_cases herr : k.queueState = .error
  · simp only [herr, if_true]
    exact ⟨_, xs, ys, (h.finish hs hc false).setState .error, .inl rfl⟩
  · simp only [herr, if_false]
    obtain ⟨loc', xs', h', -, he'⟩ := (h.finish hs hc false).runNext rfl result
    have heq := runNext_eq { k with
      retired := if (k.request k.current).priority = false then (k.request k.current).stamp :: k.retired else k.retired }
      0 (.complete k.current critical false :: rest) result
    rw [heq] at h' he'
    exact ⟨loc', xs', ys, h'.setStack (.complete k.current critical _ :: rest) (fun p => rfl) htail, he' _⟩

theorem AsyncCore.modRequest (h : AsyncCore k loc xs ys) {f : Request → Request}
    (hf : RequestOk (f (k.request r)) (loc r)) (hprio : (f (k.request r)).priority = (k.request r).priority)
    (hstamp : (f (k.request r)).stamp = (k.request r).stamp) : AsyncCore (k.modRequest r f) loc xs ys where
  queue := h.queue
  callbacks := h.callbacks
  places := h.places
  address := h.address
  request := by
    rw [← Function.update_eq_self r loc]
    exact forall_update h.request hf
  top := h.top
  order := by
    show InOrder k.clock (k.retired.reverse ++ stamps (Function.update k.request r _) (engine k.current ++ xs))
    rw [stamps_update hprio hstamp]
    exact h.order
  aborts := h.aborts

theorem RequestOk.abort {p : Place} (h : RequestOk q p) {cs : RequestState} (hcs : cs.isIdle = true)
    (abortState : RequestState) : RequestOk { q with abortState, completionState := cs } p :=
  { h with completion := hcs }

theorem AsyncCore.enter (h : AsyncCore k loc xs ys) (critical : Bool) (hc : k.callable = true) :
    AsyncCore { k with stack := .handler critical :: k.stack } loc xs ys :=
  h.setStack _ (fun _ => rfl) (h.not_busy hc)

theorem AsyncCore.panic (h : AsyncCore k loc xs ys) : AsyncCore { k with panicked := true } loc xs ys := { h with }

theorem AsyncCore.asyncErrorHandler (h : AsyncCore k loc xs ys) (he : EngineOk k xs) (hcall : k.callable = true)
    {cs : RequestState} (hcs : cs.isIdle = true) : AsyncInv (k.asyncErrorHandler critical fatal cs) := by
  unfold AsyncState.asyncErrorHandler
  by_cases hc : k.current = 0
  · rw [if_pos hc]
    exact ⟨loc, xs, ys, h.panic, he⟩
  rw [if_neg hc]
  have hq := (h.request k.current).abort hcs (k.request k.current).state
  have h' := (h.modRequest (f := fun q => { q with abortState := q.state, completionState := cs }) hq rfl rfl).enter critical hcall
  by_cases hfatal : ((k.request k.current).errorMethod && fatal) = true
  · simp only [hfatal, if_true]
    exact ⟨loc, xs, ys, h'.setState .error, .inr rfl⟩
  · rw [if_neg hfatal]
    refine ⟨loc, xs, ys, h', ?_⟩
    unfold EngineOk at he ⊢
    cases hs : k.queueState <;> simp only [AsyncState.modRequest, hs] at he ⊢
    · exact ⟨he.1, .inr rfl⟩
    · exact hc
    · exact .inr rfl

theorem handling_of_callable (hc : k.callable = true) : handling k.stack = false := by
  unfold AsyncState.callable at hc
  cases hs : k.stack with
  | nil => rfl
  | cons f rest =>
    rw [hs] at hc
    cases f <;> simp [handling] at hc ⊢

theorem AsyncCore.requestDequeue (h : AsyncCore k loc xs ys) (he : EngineOk k xs) (hcall : k.callable = true)
    (hr : loc r = .queued) {cs : RequestState} (hcs : cs.isIdle = true) : AsyncInv (k.requestDequeue r cs) := by
  have hmem := h.mem_queue.2 hr
  have hq := (h.request r).abort hcs (k.request r).state
  rw [hr] at hq
  have hq' : RequestOk { k.request r with abortState := (k.request r).state, completionState := cs } .finished :=
    { hq with state := .inl hq.state, accepted := by simpa using hq.accepted }
  refine ⟨Function.update loc r .finished, xs.erase r, ys, ⟨h.queue.delete hmem,
    h.callbacks.delete_other h.disjoint h.queue hmem, ?_, ?_, forall_update h.request hq', h.not_busy hcall, ?_,
    h.aborts⟩, ?_⟩
  · refine h.places.move hr (by simp) ?_ ?_ ?_
    · intro _
      exact List.perm_cons_erase hmem
    · intro _
      simp [members, heldAt, Frame.holds, AsyncState.requestDequeue, AsyncState.modRequest]
    · intro x hx hx'
      cases x <;> simp [members, heldAt, Frame.holds, AsyncState.requestDequeue, AsyncState.modRequest] at hx hx' ⊢
  · intro x hx
    by_cases hxr : x = r
    · rw [hxr]
      exact h.address r (by simp [hr])
    · rw [Function.update_of_ne hxr] at hx
      exact h.address x hx
  · show InOrder k.clock (k.retired.reverse ++ stamps (Function.update k.request r _) (engine k.current ++ xs.erase r))
    rw [stamps_update (by rfl) (by rfl)]
    exact h.order.sublist (List.Sublist.append_left (stamps_sublist (List.Sublist.append_left List.erase_sublist _)) _)
  · have hhand := handling_of_callable hcall
    unfold EngineOk at he ⊢
    cases hs : k.queueState <;> simp only [hs, hhand] at he <;>
      simp only [AsyncState.requestDequeue, AsyncState.modRequest, hs]
    · have hnil : xs = [] := by simpa using he.2
      rw [hnil] at hmem
      simp at hmem
    · exact he
    · exact .inl (by simpa using he)

/-- The timeouts that run before their request has completed. -/
def TimeoutOk (k : AsyncState) : AsyncEvent → Prop
  | .timeout r _ => (k.request r).expiredAt = (k.request r).accepted ∧ (k.request r).state.isIdle = false
  | _ => True

theorem AsyncCore.recordAbort (h : AsyncCore k loc xs ys) {p : (Nat × Nat) × (Nat × Nat)} (hp : p.1 = p.2) :
    AsyncCore { k with aborts := p :: k.aborts } loc xs ys :=
  { h with
    aborts := by
      intro p' hp'
      rcases List.mem_cons.1 hp' with rfl | hp'
      · exact hp
      · exact h.aborts p' hp' }

theorem AsyncCore.asyncTimeout (h : AsyncCore k loc xs ys) (he : EngineOk k xs) (hcall : k.callable = true)
    (hok : TimeoutOk k (.timeout r fatal)) : AsyncInv (k.asyncTimeout r fatal) := by
  obtain ⟨hexp, hidle⟩ := hok
  have h' := h.modRequest (r := r) (f := fun q => { q with timerExpired := false }) { h.request r with } rfl rfl
  have he' : EngineOk (k.modRequest r fun q => { q with timerExpired := false }) xs := he
  have hreq : (k.modRequest r fun q => { q with timerExpired := false }).request r =
      { k.request r with timerExpired := false } := by simp [AsyncState.modRequest]
  have hcall' : (k.modRequest r fun q => { q with timerExpired := false }).callable = true := hcall
  unfold AsyncState.asyncTimeout
  generalize k.modRequest r (fun q => { q with timerExpired := false }) = k' at h' he' hreq hcall'
  obtain ⟨-, hqueued, hrunning⟩ := h'.loc_of_state (r := r) hcall'
  have hpair : ((r, (k'.request r).expiredAt) : Nat × Nat) = (r, (k'.request r).accepted) := by
    simp [hreq, hexp]
  have hidle' : (k'.request r).state.isIdle = false := by simpa [hreq] using hidle
  simp only
  split
  · exact ⟨loc, xs, ys, h', he'⟩
  rename_i hcb
  split
  · rename_i hi
    exact absurd hi (by simp [hidle'])
  split
  · rename_i hst
    exact AsyncCore.requestDequeue (h'.recordAbort hpair) he' hcall' (hqueued.1 hst) rfl
  · rename_i hst
    have hrun : (k'.request r).state = .running := by
      cases hs : (k'.request r).state <;> simp [hs, RequestState.isIdle, RequestState.inCallback] at hcb hidle' hst ⊢
    obtain ⟨hcur, -⟩ := h'.eq_current (hrunning.1 hrun)
    have hpair' : ((r, (k'.request r).expiredAt) : Nat × Nat) = (k'.current, (k'.request k'.current).accepted) := by
      rw [← hcur]
      exact hpair
    exact AsyncCore.asyncErrorHandler (h'.recordAbort hpair') he' hcall' rfl

theorem RequestOk.schedule (h : RequestOk q .idle) (timerActive : Bool) (stamp : Nat) :
    RequestOk { q with
      timerActive, stamp, state := .queued, completionState := .complete, accepted := q.accepted + 1 } .queued := by
  have hst : q.state.called = false := by
    have hi := h.state
    cases hs : q.state <;> simp [hs, StateOk, RequestState.isIdle, RequestState.called] at hi ⊢
  have hcb := h.callbacks
  rw [hst] at hcb
  exact ⟨rfl, rfl, by simpa using h.accepted, hcb, h.posts, by simp⟩

theorem AsyncCore.requestSchedule (h : AsyncCore k loc xs ys) (he : EngineOk k xs) (hcall : k.callable = true)
    (haddr : callbackQueue < r) : AsyncInv (k.requestSchedule r critical) := by
  unfold AsyncState.requestSchedule
  simp only
  split
  · exact ⟨loc, xs, ys, h, he⟩
  rename_i hrej
  have hidle : (k.request r).state.isIdle = true := by
    by_contra hi
    exact hrej (by simp [hi])
  have hr := (h.loc_of_state hcall).1.1 hidle
  have hq := h.request r
  rw [hr] at hq
  have hq' := hq.schedule ((k.request r).timeout || (k.request r).timerActive) (k.clock + 1)
  obtain ⟨hpush, hother⟩ := isDeque_push h.disjoint h.queue h.callbacks (h.not_mem_queue haddr (by simp [hr]))
    (h.not_mem_callbacks haddr (by simp [hr])) (Nat.ne_of_gt (Nat.zero_lt_of_lt haddr)) (k.request r).priority
  have hcore : AsyncCore { k with
      links := if (k.request r).priority then pushFront k.links asyncQueue r else pushBack k.links asyncQueue r
      clock := k.clock + 1
      request := Function.update k.request r { k.request r with
        timerActive := (k.request r).timeout || (k.request r).timerActive
        stamp := k.clock + 1, state := .queued, completionState := .complete
        accepted := (k.request r).accepted + 1 } }
      (Function.update loc r .queued) (if (k.request r).priority then r :: xs else xs ++ [r]) ys := by
    refine ⟨hpush, hother, ?_, ?_, forall_update h.request hq', h.top, ?_, h.aborts⟩
    · refine h.places.move hr (by simp) (by simp) ?_ ?_
      · intro _
        simp only [members]
        split
        · exact List.Perm.refl _
        · exact List.perm_append_singleton r xs
      · intro x hx hx'
        cases x <;> simp [members] at hx hx' ⊢
    · intro x hx
      by_cases hxr : x = r
      · rw [hxr]
        exact haddr
      · rw [Function.update_of_ne hxr] at hx
        exact h.address x hx
    · -- a priority request has no number in the line, another gets the last one
      have ho := h.order
      have hnew : r ∉ engine k.current ∧ r ∉ xs := by
        rw [h.mem_engine, h.mem_queue, hr]
        simp
      simp only [stamps_append] at ho ⊢
      cases hp : (k.request r).priority
      · simp only [Bool.false_eq_true, if_false, stamps_append, stamps_singleton, Function.update_self,
          stamps_update_of_not_mem hnew.1, stamps_update_of_not_mem hnew.2]
        simpa using ho.append
      · rw [if_pos rfl, stamps_cons]
        simp only [if_true, stamps_singleton, Function.update_self,
          stamps_update_of_not_mem hnew.1, stamps_update_of_not_mem hnew.2, List.nil_append]
        exact ho.succ
  by_cases hs : k.queueState = .idle
  · simp only [AsyncState.modRequest, hs, if_true]
    have he' : k.current = 0 := by
      unfold EngineOk at he
      rw [hs] at he
      exact he.1
    refine ⟨_, _, ys, (hcore.enter critical hcall).setState .idle, he', .inr rfl⟩
  · simp only [AsyncState.modRequest, hs, if_false]
    refine ⟨_, _, ys, hcore, ?_⟩
    unfold EngineOk at he ⊢
    cases hs' : k.queueState <;> simp only [hs'] at he ⊢
    · exact absurd hs' hs
    · exact he
    · exact he

end Handlers

/-! ## Steps -/

section Steps

variable {k k' : AsyncState} {e : AsyncEvent}

theorem callable_of_interruptible (h : k.interruptible = true) : k.callable = true := by
  unfold AsyncState.interruptible at h
  unfold AsyncState.callable
  cases hs : k.stack with
  | nil => rfl
  | cons f rest =>
    rw [hs] at h
    cases f <;> simp at h ⊢

theorem EngineOk.enter {xs : List Nat} {critical : Bool} (he : EngineOk k xs) :
    EngineOk { k with stack := .handler critical :: k.stack } xs := by
  unfold EngineOk at he ⊢
  cases hs : k.queueState <;> simp only [hs] at he ⊢
  · exact ⟨he.1, .inr rfl⟩
  · exact he
  · exact .inr rfl

theorem asyncInv_handlerStep (h : AsyncInv k) {result : RunResult} (hk : k.handlerStep result = some k') : AsyncInv k' := by
  obtain ⟨loc, xs, ys, h, he⟩ := h
  unfold AsyncState.handlerStep at hk
  split at hk <;> simp only [Option.some.injEq, reduceCtorEq] at hk <;> subst hk <;> rename_i hs
  · exact h.asyncHandler he hs result
  · exact h.requestComplete he hs
  · exact h.completeEnd he hs rfl fun _ => h.called_of_top hs rfl
  · exact h.finalize he hs

theorem asyncInv_next (h : AsyncInv k) (hok : TimeoutOk k e) (hk : k.next e = some k') : AsyncInv k' := by
  unfold AsyncState.next at hk
  split at hk
  · cases hk
  cases e with
  | handler result => exact asyncInv_handlerStep h hk
  | schedule r critical =>
    obtain ⟨loc, xs, ys, h, he⟩ := h
    simp only at hk
    split at hk
    · rename_i hc
      cases hk
      exact h.requestSchedule he hc.1 hc.2
    · cases hk
  | interrupt critical =>
    obtain ⟨loc, xs, ys, h, he⟩ := h
    simp only at hk
    split at hk
    · rename_i hc
      cases hk
      exact ⟨loc, xs, ys, h.enter critical (callable_of_interruptible hc), he.enter⟩
    · cases hk
  | error critical fatal =>
    obtain ⟨loc, xs, ys, h, he⟩ := h
    simp only at hk
    split at hk
    · rename_i hc
      cases hk
      exact h.asyncErrorHandler he (callable_of_interruptible hc) rfl
    · cases hk
  | expire r =>
    obtain ⟨loc, xs, ys, h, he⟩ := h
    simp only at hk
    split at hk
    · cases hk
      exact ⟨loc, xs, ys, h.modRequest { h.request r with } rfl rfl, he⟩
    · cases hk
  | timeout r fatal =>
    obtain ⟨loc, xs, ys, h, he⟩ := h
    simp only at hk
    split at hk
    · rename_i hc
      cases hk
      exact h.asyncTimeout he (callable_of_interruptible hc.1) hok
    · cases hk
  | callbacks =>
    obtain ⟨loc, xs, ys, h, he⟩ := h
    simp only at hk
    split at hk
    · rename_i hc
      cases hk
      exact h.callbackHandler he hc
    · cases hk

/-- A request as it was created. -/
def Request.Fresh (q : Request) : Prop :=
  q = Request.create q.callback q.protocol q.callbackPriority q.priority q.blocking q.timeout q.errorMethod

instance : DecidablePred Request.Fresh := fun _ => inferInstanceAs (Decidable (_ = _))

theorem asyncInv_create {request : Nat → Request} (hnew : ∀ r, (request r).Fresh) : AsyncInv (.create request) := by
  have hq1 : IsDeque (AsyncState.create request).links asyncQueue [] :=
    (isDeque_sentinelCreate (by decide)).sentinelCreate_other (by decide)
  refine ⟨fun _ => .idle, [], [], ⟨hq1, isDeque_sentinelCreate (by decide), ?_, by simp, ?_, by simp [AsyncState.create],
    ?_, by simp [AsyncState.create]⟩, ⟨rfl, .inl rfl⟩⟩
  · intro p hp
    refine ⟨?_, fun r => ?_⟩ <;> cases p <;> simp [members, engine, heldAt, AsyncState.create] at hp ⊢
  · intro r
    show RequestOk (request r) .idle
    rw [hnew r]
    refine ⟨rfl, rfl, rfl, ?_, (ite_self _).symm, by simp [Request.create]⟩
    simp [Request.create, RequestState.called]
  · exact ⟨by simp [AsyncState.create, engine, stamps], by simp [AsyncState.create, engine, stamps]⟩

end Steps

/-! ## Runs -/

/-- What the queue promises in every state, with the numbers of schedules that are in order as a
parameter. -/
structure AsyncOk (line : AsyncState → List Nat) (k : AsyncState) : Prop where
  running : k.callable = true → ∀ r, (k.request r).state = .running ↔ r = k.current ∧ k.current ≠ 0
  linked : ∃ xs ys, IsDeque k.links asyncQueue xs ∧ IsDeque k.links callbackQueue ys ∧ (∀ r ∈ xs, r ∉ ys) ∧
    (k.callable = true → ∀ r, r ∈ xs ↔ (k.request r).state = .queued)
  completed : ∀ r, (k.request r).completed ≤ (k.request r).accepted ∧ (k.request r).accepted ≤ (k.request r).completed + 1
  idle : k.callable = true → ∀ r, (k.request r).state.isIdle = true ↔ (k.request r).completed = (k.request r).accepted
  callbacks : ∀ r, (k.request r).callbacks =
    if (k.request r).callback then (k.request r).completed + (if (k.request r).state.called then 1 else 0) else 0
  posts : ∀ r, (k.request r).posts = if (k.request r).blocking then (k.request r).completed else 0
  quiet : k.stack = [] → k.queueState = .idle → isEmpty k.links callbackQueue = true →
    ∀ r, (k.request r).completed = (k.request r).accepted
  order : (line k).Pairwise (· < ·)
  aborts : ∀ p ∈ k.aborts, p.1 = p.2

section Runs

variable {k : AsyncState} {es : List AsyncEvent} {request : Nat → Request}

theorem AsyncOk.of_inv (h : AsyncInv k) : AsyncOk (fun k => k.retired.reverse) k := by
  obtain ⟨loc, xs, ys, h, he⟩ := h
  refine ⟨?_, ?_, ?_, ?_, fun r => (h.request r).callbacks, fun r => (h.request r).posts, ?_, ?_, h.aborts⟩
  · intro hc r
    rw [(h.loc_of_state hc).2.2]
    constructor
    · exact h.eq_current
    · rintro ⟨rfl, hc⟩
      exact h.loc_current hc
  · refine ⟨xs, ys, h.queue, h.callbacks, fun r hx hy => ?_, fun hc r => ?_⟩
    · rw [h.mem_queue] at hx
      rw [h.mem_callbacks, hx] at hy
      cases hy
    · rw [h.mem_queue, (h.loc_of_state hc).2.1]
  · intro r
    rw [(h.request r).accepted]
    split <;> omega
  · intro hc r
    rw [(h.loc_of_state hc).1, (h.request r).accepted]
    split <;> rename_i hr <;> simp [hr]
  · -- no place but idle has a request
    intro hs hidle hempty r
    have hxs : k.current = 0 ∧ xs = [] := by
      unfold EngineOk at he
      rw [hidle] at he
      exact ⟨he.1, by simpa [hs, handling] using he.2⟩
    have hys := h.callbacks.isEmpty_iff.1 hempty
    have hr : loc r = .idle := by
      by_contra hne
      have hm := ((h.places (loc r) hne).mem r).2 rfl
      cases hl : loc r <;> simp [hl, members, engine, heldAt, hs, hxs, hys] at hm hne
    have ha := (h.request r).accepted
    simpa [hr] using ha.symm
  · exact h.order.1.sublist (List.sublist_append_left _ _)

/-- Every run of schedules, completion and error interrupts, timeouts, callbacks and handler steps keeps
an engine queue, if every timeout runs before its request has completed; requests without priority
finish on the engine in the order of their schedules. -/
theorem run_asyncOk (hnew : ∀ r, (request r).Fresh)
    (h : Run (Guarded TimeoutOk (StepOf AsyncState.next)) (.create request) es k) :
    AsyncOk (fun k => k.retired.reverse) k := by
  refine AsyncOk.of_inv (h.invariant (P := AsyncInv) ?_ (asyncInv_create hnew))
  exact fun _ _ _ hk he => asyncInv_next hk he.1 he.2

end Runs

/-- Requests without a callback, and with a timeout. -/
def plainRequest (_ : Nat) : Request := Request.create false .immediate false false false true true

/-- The second of two requests times out while the first is on the engine. -/
def timeoutRun : List AsyncEvent :=
  [.schedule 3 false, .handler .started, .schedule 4 false, .expire 4, .timeout 4 false, .handler .started,
    .interrupt false, .handler .started, .handler .started]

theorem run_asyncOk_timeout :
    ∃ k, exec AsyncState.next (.create plainRequest) timeoutRun = some k ∧ AsyncOk (fun k => k.retired.reverse) k := by
  refine ⟨_, rfl, @run_asyncOk _ timeoutRun plainRequest (fun _ => rfl) ?_⟩
  refine .cons ⟨trivial, rfl⟩ <| .cons ⟨trivial, rfl⟩ <| .cons ⟨trivial, rfl⟩ <| .cons ⟨trivial, rfl⟩ <| ?_
  exact .cons ⟨⟨rfl, rfl⟩, rfl⟩ <| .cons ⟨trivial, rfl⟩ <| .cons ⟨trivial, rfl⟩ <| .cons ⟨trivial, rfl⟩ <|
    .cons ⟨trivial, rfl⟩ <| .nil _

/-- The second request completes at its timeout, before the first. -/
theorem not_asyncOk_completions :
    ∃ k, exec AsyncState.next (.create plainRequest) timeoutRun = some k ∧
      ¬AsyncOk (fun k => k.completions.reverse) k :=
  ⟨_, rfl, fun h => absurd h.order (by decide)⟩

end Occ.Ssx
