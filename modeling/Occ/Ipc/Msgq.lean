/-
IPC message queues (`ipc_msgq.c`): messages linked in a queue by their nodes, a semaphore, the handler
that places messages on the queue, and the threads that receive them. The semaphore is posted and
pended on as in `ssx_semaphore_core.c`; receivers are named by their priority, which they keep while
they wait. Critical sections are single steps.

The agreement of a message queue with its semaphore: the count is the number of messages on the queue
less those promised to receivers that a post or a pend let go on. It holds as long as every receive
finds the queue empty, since the first pop of `ipc_msgq_recv` takes a message and leaves its count, and
every post finds nobody waiting or a receiver that has not timed out.
-/
import Occ.Lib.BitQueue
import Occ.Lib.Deque
import Occ.Lib.Places
import Occ.Lib.Transition
import Mathlib

namespace Occ.Ipc

open Occ Deque

/-- The return codes of `ipc_msgq_recv` in a thread. -/
inductive RecvRc
  | success | timeout | noMsg
deriving DecidableEq, Repr

/-- `KERN_NO_WAIT`, a time, or waiting forever. -/
inductive Wait
  | no | ticks | forever
deriving DecidableEq, Repr

/-- Where a receiver is: not in `ipc_msgq_recv`, blocked in the pend, made runnable by a post or by
its timer, between a successful pend and the second pop. -/
inductive RecvPc
  | idle
  | blocked (ticks : Bool)
  | posted
  | timedOut
  | popping
deriving DecidableEq, Repr

/-- `SSX_THREADS`, the number of priorities. -/
def priorities : Nat := 32

/-- The addresses of `msg_head` and of `G_ipc_deferred_queue`. -/
def msgHead : Nat := 1
def deferredQueue : Nat := 2

structure Msgq where
  links : Links
  count : Nat
  pendingThreads : BitVec 32
  receiver : Nat → RecvPc
  -- history: the messages placed on the queue, those received, and the codes that were returned
  placed : List Nat
  received : List Nat
  returned : List RecvRc

namespace Msgq

variable (k : Msgq)

/-- `ssx_semaphore_post`. -/
def post : Msgq :=
  let p := BitQueue.min k.pendingThreads
  if p ≠ priorities then
    { k with
      pendingThreads := BitQueue.delete k.pendingThreads p
      receiver := match k.receiver p with
        | .blocked _ => Function.update k.receiver p .posted
        | _ => k.receiver }
  else { k with count := (k.count + 1) % 2 ^ 32 }

/-- `ipc_msgq_handler`. -/
def handler (msg : Nat) (critical : Bool) : Msgq :=
  if critical then { k with links := pushBack k.links deferredQueue msg }
  else { k with links := pushBack k.links msgHead msg, placed := k.placed ++ [msg] }.post

/-- `async_callback_handler_full` takes a deferred message. -/
def deferredHandler : Msgq :=
  let popped := popFront k.links deferredQueue
  if popped.2 = 0 then k else { k with links := popped.1 }.handler popped.2 false

def returns (p : Nat) (rc : RecvRc) : Msgq :=
  { k with receiver := Function.update k.receiver p .idle, returned := k.returned ++ [rc] }

/-- `ipc_msgq_recv` up to the end of its first critical section, or to where it blocks. -/
def recv (p : Nat) (timeout : Wait) : Msgq :=
  let popped := popFront k.links msgHead
  if popped.2 ≠ 0 then
    { k with links := popped.1, received := k.received ++ [popped.2] }.returns p .success
  else if k.count ≠ 0 then { k with count := k.count - 1, receiver := Function.update k.receiver p .popping }
  else if timeout = .no then k.returns p .timeout
  else
    { k with
      pendingThreads := BitQueue.insert k.pendingThreads p
      receiver := Function.update k.receiver p (.blocked (timeout = .ticks)) }

/-- The receiver goes on. -/
def recvStep (p : Nat) : Option Msgq :=
  match k.receiver p with
  | .idle | .blocked _ => none
  | .posted => some { k with receiver := Function.update k.receiver p .popping }
  | .timedOut => some ({ k with pendingThreads := BitQueue.delete k.pendingThreads p }.returns p .timeout)
  | .popping =>
    let popped := popFront k.links msgHead
    if popped.2 ≠ 0 then
      some ({ k with links := popped.1, received := k.received ++ [popped.2] }.returns p .success)
    else some (k.returns p .noMsg)

end Msgq

/-! ## Steps -/

inductive MsgqEvent
  | arrive (msg : Nat) (critical : Bool)
  | deferred
  | recv (p : Nat) (timeout : Wait)
  | expire (p : Nat)
  | receiver (p : Nat)
deriving DecidableEq, Repr

/-- The state after an event, when it can happen. A message that arrives is in no queue: it is not sent
again before it was received. -/
def Msgq.next (k : Msgq) : MsgqEvent → Option Msgq
  | .arrive msg critical =>
    if deferredQueue < msg ∧ msg < 2 ^ 32 ∧ isQueued k.links msg = false then some (k.handler msg critical) else none
  | .deferred => some k.deferredHandler
  | .recv p timeout => if p < priorities ∧ k.receiver p = .idle then some (k.recv p timeout) else none
  | .expire p =>
    if k.receiver p = .blocked true then some { k with receiver := Function.update k.receiver p .timedOut } else none
  | .receiver p => k.recvStep p

/-- A queue as `IPC_MSGQ_CREATE` and `async_callbacks_initialize` leave it. -/
def Msgq.create : Msgq where
  links := sentinelCreate (sentinelCreate ⟨fun _ => 0, fun _ => 0⟩ msgHead) deferredQueue
  count := 0
  pendingThreads := 0
  receiver := fun _ => .idle
  placed := []
  received := []
  returned := []

end Occ.Ipc

namespace Occ.Ipc

open Occ Deque Places BitQueue Transition

/-- The receiver was let go on and has not taken its message. -/
def RecvPc.promised : RecvPc → Bool
  | .posted | .popping => true
  | _ => false

/-- The receiver's bit is on in the semaphore. -/
def RecvPc.waiting : RecvPc → Bool
  | .blocked _ | .timedOut => true
  | _ => false

/-- The invariant but for the count: `xs` and `ys` are the messages in the two queues and `ps` the
receivers with a promise. -/
structure MsgqCore (k : Msgq) (xs ys ps : List Nat) : Prop where
  queue : IsDeque k.links msgHead xs
  deferred : IsDeque k.links deferredQueue ys
  disjoint : ∀ x ∈ ys, x ∉ xs
  address : ∀ x ∈ xs ++ ys, deferredQueue < x ∧ x < 2 ^ 32
  pending : ∀ p, member k.pendingThreads p = (k.receiver p).waiting
  promised : Lists (fun p => (k.receiver p).promised) true ps
  placed : k.placed = k.received ++ xs
  returned : .noMsg ∉ k.returned

def MsgqInv (k : Msgq) : Prop :=
  ∃ xs ys ps, MsgqCore k xs ys ps ∧ k.count + ps.length = xs.length

/-- A post finds no receiver, or one that has not timed out. -/
def PostOk (k : Msgq) : Prop := k.receiver (BitQueue.min k.pendingThreads) ≠ .timedOut

/-- A receive finds the queue empty, and a message is not placed on the queue when the next receiver to
be let go on has timed out. -/
def MsgqStepOk (k : Msgq) : MsgqEvent → Prop
  | .arrive _ critical => critical = true ∨ PostOk k
  | .deferred => isEmpty k.links deferredQueue = true ∨ PostOk k
  | .recv _ _ => isEmpty k.links msgHead = true
  | _ => True

section Steps

variable {k k' : Msgq} {xs ys ps : List Nat} {p msg : Nat} {pc : RecvPc}

theorem update_promised : (fun q => (Function.update k.receiver p pc q).promised) =
    Function.update (fun q => (k.receiver q).promised) p pc.promised := by
  funext q
  by_cases hq : q = p
  · subst hq
    simp
  · simp [Function.update_of_ne hq]

theorem MsgqCore.not_mem (h : MsgqCore k xs ys ps) (hm : deferredQueue < msg) (hq : isQueued k.links msg = false) :
    msg ∉ msgHead :: xs ∧ msg ∉ deferredQueue :: ys := by
  simp only [deferredQueue, msgHead, List.mem_cons] at *
  constructor
  · rintro (rfl | hx)
    · omega
    · exact absurd (h.queue.queued hx) (by simp [hq])
  · rintro (rfl | hy)
    · omega
    · exact absurd (h.deferred.queued hy) (by simp [hq])

theorem MsgqCore.disjoint_nodes (h : MsgqCore k xs ys ps) : ∀ x ∈ deferredQueue :: ys, x ∉ msgHead :: xs := by
  intro x hx
  simp only [List.mem_cons] at hx ⊢
  have haddr := h.address
  simp only [deferredQueue, msgHead, List.mem_append] at *
  rintro (rfl | hm)
  · rcases hx with hx | hx
    · omega
    · have := haddr 1 (.inr hx)
      omega
  · rcases hx with rfl | hx
    · have := haddr 2 (.inl hm)
      omega
    · exact h.disjoint x hx hm

theorem MsgqCore.length_lt (h : MsgqCore k xs ys ps) : xs.length < 2 ^ 32 := by
  have hnd : (0 :: xs).Nodup := by
    refine List.nodup_cons.2 ⟨fun hz => ?_, (List.nodup_cons.1 h.queue.nodup).2⟩
    have := (h.address 0 (by simp [hz])).1
    omega
  have hsub : 0 :: xs ⊆ List.range (2 ^ 32) := by
    intro x hx
    rw [List.mem_range]
    rcases List.mem_cons.1 hx with rfl | hx
    · exact Nat.two_pow_pos 32
    · exact (h.address x (by simp [hx])).2
  have hle := (List.subperm_of_subset hnd hsub).length_le
  rw [List.length_range, List.length_cons] at hle
  omega

/-- A post gives a count, or a promise to the next receiver. -/
theorem MsgqCore.post (h : MsgqCore k xs ys ps) (hok : PostOk k) (hcount : k.count + ps.length + 1 = xs.length) :
    MsgqInv k.post := by
  unfold Msgq.post
  by_cases hp : BitQueue.min k.pendingThreads = priorities
  · simp only [hp, ne_eq, not_true_eq_false, if_false]
    refine ⟨xs, ys, ps, { h with }, ?_⟩
    have hlt := h.length_lt
    have hmod : (k.count + 1) % 2 ^ 32 = k.count + 1 := Nat.mod_eq_of_lt (by omega)
    simp only [hmod]
    omega
  · have hmem : member k.pendingThreads (BitQueue.min k.pendingThreads) = true :=
      member_min (Nat.lt_of_le_of_ne (min_le _) hp)
    have hwait := h.pending (BitQueue.min k.pendingThreads)
    unfold PostOk at hok
    simp only [ne_eq, hp, not_false_eq_true, if_true]
    generalize BitQueue.min k.pendingThreads = p at *
    rw [hmem] at hwait
    cases hpc : k.receiver p <;> simp only [hpc, RecvPc.waiting, Bool.true_eq_false, ne_eq, not_true_eq_false] at hwait hok
    refine ⟨xs, ys, p :: ps, { h with pending := fun q => ?_, promised := ?_ }, ?_⟩
    · by_cases hq : q = p
      · subst hq
        simp [RecvPc.waiting]
      · simp [hq, h.pending]
    · rw [update_promised]
      exact h.promised.enter (by simp [hpc, RecvPc.promised]) (List.Perm.refl _)
    · simp only [List.length_cons]
      omega

/-- A message is placed on the queue, and the semaphore posted. -/
theorem MsgqInv.place (h : MsgqInv k) (hok : PostOk k) (hm : deferredQueue < msg ∧ msg < 2 ^ 32)
    (hq : isQueued k.links msg = false) : MsgqInv (k.handler msg false) := by
  obtain ⟨xs, ys, ps, h, hcount⟩ := h
  obtain ⟨hx, hy⟩ := h.not_mem hm.1 hq
  have hcore : MsgqCore { k with links := pushBack k.links msgHead msg, placed := k.placed ++ [msg] }
      (xs ++ [msg]) ys ps :=
    { h with
      queue := isDeque_pushBack h.queue hx (by omega)
      deferred := h.deferred.pushBack_other h.disjoint_nodes h.queue hy
      disjoint := by
        intro x hx' hx''
        rcases List.mem_append.1 hx'' with hx'' | hx''
        · exact h.disjoint x hx' hx''
        · rw [List.mem_singleton] at hx''
          exact hy (by simp [← hx'', hx'])
      address := by
        intro x hx'
        simp only [List.mem_append, List.mem_singleton] at hx'
        rcases hx' with (hx' | rfl) | hx'
        · exact h.address x (by simp [hx'])
        · exact hm
        · exact h.address x (by simp [hx'])
      placed := by rw [h.placed, List.append_assoc] }
  refine MsgqCore.post hcore hok ?_
  show k.count + ps.length + 1 = (xs ++ [msg]).length
  rw [List.length_append, List.length_singleton, hcount]

theorem MsgqInv.defer (h : MsgqInv k) (hm : deferredQueue < msg ∧ msg < 2 ^ 32) (hq : isQueued k.links msg = false) :
    MsgqInv (k.handler msg true) := by
  obtain ⟨xs, ys, ps, h, hcount⟩ := h
  obtain ⟨hx, hy⟩ := h.not_mem hm.1 hq
  refine ⟨xs, ys ++ [msg], ps, { h with queue := ?_, deferred := ?_, disjoint := ?_, address := ?_ }, hcount⟩
  · exact h.queue.pushBack_other (fun x hx' hx'' => h.disjoint_nodes x hx'' hx') h.deferred hx
  · exact isDeque_pushBack h.deferred hy (by omega)
  · intro x hx' hx''
    rcases List.mem_append.1 hx' with hx' | hx'
    · exact h.disjoint x hx' hx''
    · rw [List.mem_singleton] at hx'
      exact hx (by simp [← hx', hx''])
  · intro x hx'
    simp only [List.mem_append, List.mem_singleton] at hx'
    rcases hx' with hx' | hx' | rfl
    · exact h.address x (by simp [hx'])
    · exact h.address x (by simp [hx'])
    · exact hm

theorem MsgqInv.deferredHandler (h : MsgqInv k) (hok : isEmpty k.links deferredQueue = true ∨ PostOk k) :
    MsgqInv k.deferredHandler := by
  obtain ⟨xs, ys, ps, h, hcount⟩ := h
  unfold Msgq.deferredHandler
  cases ys with
  | nil =>
    rw [popFront_nil h.deferred]
    exact ⟨xs, [], ps, h, hcount⟩
  | cons msg ys =>
    have haddr := h.address msg (by simp)
    have hne : msg ≠ 0 := by omega
    have hok' : PostOk k := by
      rcases hok with he | hok
      · exact absurd (h.deferred.isEmpty_iff.1 he) (by simp)
      · exact hok
    rw [popFront_eq h.deferred]
    simp only [hne, if_false]
    have hpop : MsgqInv { k with links := delete k.links msg } := by
      refine ⟨xs, ys, ps, { h with queue := ?_, deferred := ?_, disjoint := ?_, address := ?_ }, hcount⟩
      · exact h.queue.delete_other (fun x hx' hx'' => h.disjoint_nodes x hx'' hx') h.deferred (by simp)
      · exact isDeque_delete_head h.deferred
      · intro x hx
        exact h.disjoint x (by simp [hx])
      · intro x hx
        exact h.address x (by simp only [List.mem_append, List.mem_cons] at hx ⊢; tauto)
    exact MsgqInv.place hpop hok' haddr not_isQueued_delete

/-- A receiver that has no promise returns, with its bit off. -/
theorem MsgqCore.returns (h : MsgqCore k xs ys ps) (hpc : (k.receiver p).promised = false) {b : BitVec 32}
    (hb : ∀ q, member b q = (member k.pendingThreads q && !decide (q = p))) {rc : RecvRc} (hrc : rc ≠ .noMsg) :
    MsgqCore ({ k with pendingThreads := b }.returns p rc) xs ys ps :=
  { h with
    pending := by
      intro q
      show member b q = (Function.update k.receiver p .idle q).waiting
      rw [hb, h.pending]
      by_cases hq : q = p
      · simp [hq, RecvPc.waiting]
      · simp [hq]
    promised := by
      show Lists (fun q => (Function.update k.receiver p .idle q).promised) true ps
      rw [update_promised]
      exact h.promised.stay (by simp [hpc]) (by simp [RecvPc.promised])
    returned := by
      show RecvRc.noMsg ∉ k.returned ++ [rc]
      rw [List.mem_append, List.mem_singleton]
      rintro (hr | hr)
      · exact h.returned hr
      · exact hrc hr.symm }

theorem MsgqInv.recv (h : MsgqInv k) (hempty : isEmpty k.links msgHead = true) (hp : p < priorities)
    (hpc : k.receiver p = .idle) (timeout : Wait) : MsgqInv (k.recv p timeout) := by
  obtain ⟨xs, ys, ps, h, hcount⟩ := h
  have hxs := h.queue.isEmpty_iff.1 hempty
  subst hxs
  have hc : k.count = 0 := by
    rw [List.length_nil] at hcount
    omega
  unfold Msgq.recv
  rw [popFront_nil h.queue]
  simp only [ne_eq, not_true_eq_false, if_false, hc]
  split
  · refine ⟨[], ys, ps, h.returns (by simp [hpc, RecvPc.promised]) (fun q => ?_) (by simp), hcount⟩
    by_cases hq : q = p
    · simp [hq, h.pending, hpc, RecvPc.waiting]
    · simp [hq]
  · refine ⟨[], ys, ps, { h with pending := fun q => ?_, promised := ?_ }, by rw [hc] at hcount; exact hcount⟩
    · rw [member_insert]
      by_cases hq : q = p
      · subst hq
        simp only [priorities] at hp
        simp [RecvPc.waiting, hp]
      · simp [hq, h.pending]
    · rw [update_promised]
      exact h.promised.stay (by simp [hpc, RecvPc.promised]) (by simp [RecvPc.promised])

theorem MsgqInv.expire (h : MsgqInv k) (hpc : k.receiver p = .blocked true) :
    MsgqInv { k with receiver := Function.update k.receiver p .timedOut } := by
  obtain ⟨xs, ys, ps, h, hcount⟩ := h
  refine ⟨xs, ys, ps, { h with pending := fun q => ?_, promised := ?_ }, hcount⟩
  · by_cases hq : q = p
    · subst hq
      simp [h.pending, hpc, RecvPc.waiting]
    · simp [hq, h.pending]
  · rw [update_promised]
    exact h.promised.stay (by simp [hpc, RecvPc.promised]) (by simp [RecvPc.promised])

theorem MsgqInv.recvStep (h : MsgqInv k) (hk : k.recvStep p = some k') : MsgqInv k' := by
  obtain ⟨xs, ys, ps, h, hcount⟩ := h
  unfold Msgq.recvStep at hk
  cases hpc : k.receiver p <;> simp only [hpc, reduceCtorEq, Option.some.injEq] at hk
  · subst hk
    refine ⟨xs, ys, ps, { h with pending := fun q => ?_, promised := ?_ }, hcount⟩
    · by_cases hq : q = p
      · subst hq
        simp [h.pending, hpc, RecvPc.waiting]
      · simp [hq, h.pending]
    · rw [update_promised]
      have hself : Function.update (fun q => (k.receiver q).promised) p RecvPc.popping.promised =
          fun q => (k.receiver q).promised := by
        rw [Function.update_eq_self_iff]
        simp [hpc, RecvPc.promised]
      rw [hself]
      exact h.promised
  · -- the pend has timed out and takes its bit back
    subst hk
    exact ⟨xs, ys, ps, h.returns (by simp [hpc, RecvPc.promised]) (fun q => member_delete _ _ _) (by simp), hcount⟩
  · -- a promise comes with a message
    have hmem : p ∈ ps := (h.promised.mem p).2 (by simp [hpc, RecvPc.promised])
    have hlen := List.length_pos_of_mem hmem
    cases xs with
    | nil =>
      rw [List.length_nil] at hcount
      omega
    | cons x xs =>
      have haddr := h.address x (by simp)
      have hne : x ≠ 0 := by omega
      rw [popFront_eq h.queue] at hk
      simp only [ne_eq, hne, not_false_eq_true, if_true, Option.some.injEq] at hk
      subst hk
      refine ⟨xs, ys, ps.erase p, ⟨?_, ?_, ?_, ?_, ?_, ?_, ?_, ?_⟩, ?_⟩
      · exact isDeque_delete_head h.queue
      · exact h.deferred.delete_other h.disjoint_nodes h.queue (by simp)
      · intro y hy hx
        exact h.disjoint y hy (by simp [hx])
      · intro y hy
        exact h.address y (by simp only [List.mem_append, List.mem_cons] at hy ⊢; tauto)
      · intro q
        show _ = (Function.update k.receiver p .idle q).waiting
        by_cases hq : q = p
        · subst hq
          simp [Msgq.returns, h.pending, hpc, RecvPc.waiting]
        · simp [Msgq.returns, hq, h.pending]
      · show Lists (fun q => (Function.update k.receiver p .idle q).promised) true (ps.erase p)
        rw [update_promised]
        exact h.promised.leave (List.perm_cons_erase hmem) (by simp [RecvPc.promised])
      · show k.placed = k.received ++ [x] ++ xs
        rw [h.placed, List.append_assoc, List.singleton_append]
      · show RecvRc.noMsg ∉ k.returned ++ [.success]
        simpa using h.returned
      · show k.count + (ps.erase p).length = xs.length
        rw [List.length_erase_of_mem hmem]
        rw [List.length_cons] at hcount
        omega

theorem msgqInv_next {e : MsgqEvent} (h : MsgqInv k) (hok : MsgqStepOk k e) (hk : k.next e = some k') : MsgqInv k' := by
  unfold Msgq.next at hk
  cases e with
  | arrive msg critical =>
    simp only at hk
    split at hk <;> cases hk
    rename_i hm
    cases critical
    · exact h.place (hok.resolve_left (by simp)) ⟨hm.1, hm.2.1⟩ hm.2.2
    · exact h.defer ⟨hm.1, hm.2.1⟩ hm.2.2
  | deferred =>
    cases hk
    exact h.deferredHandler hok
  | recv p timeout =>
    simp only at hk
    split at hk <;> cases hk
    rename_i hp
    exact h.recv hok hp.1 hp.2 timeout
  | expire p =>
    simp only at hk
    split at hk <;> cases hk
    rename_i hp
    exact h.expire hp
  | receiver p => exact h.recvStep hk

theorem msgqInv_create : MsgqInv .create := by
  refine ⟨[], [], [], ⟨?_, isDeque_sentinelCreate (by decide), by simp, by simp, fun p => ?_, ⟨by simp, fun p => ?_⟩, rfl,
    by simp [Msgq.create]⟩, rfl⟩
  · exact (isDeque_sentinelCreate (by decide)).sentinelCreate_other (by decide)
  · exact member_zero p
  · simp [Msgq.create, RecvPc.promised]

end Steps

/-! ## Runs -/

/-- The semaphore's count is the number of messages on the queue less the promised ones, every message
placed on the queue is received once, in order, or still there, and no receive came away without a
message that it was promised. -/
structure MsgqOk (k : Msgq) : Prop where
  agree : ∃ xs ps, IsDeque k.links msgHead xs ∧ Lists (fun p => (k.receiver p).promised) true ps ∧
    k.count + ps.length = xs.length ∧ k.placed = k.received ++ xs
  returned : .noMsg ∉ k.returned

/-- The queue and its semaphore agree in every state of a run in which every receive finds the queue
empty and no message is placed on it for a receiver that has timed out. -/
theorem run_msgqOk {k : Msgq} {es : List MsgqEvent} (h : Run (Guarded MsgqStepOk (StepOf Msgq.next)) .create es k) :
    MsgqOk k := by
  obtain ⟨xs, ys, ps, hk, hcount⟩ := h.invariant (P := MsgqInv) (fun _ _ _ hk he => msgqInv_next hk he.1 he.2)
    msgqInv_create
  exact ⟨⟨xs, ps, hk.queue, hk.promised, hcount, hk.placed⟩, hk.returned⟩

/-- A receiver waits, and a message arrives. -/
def waitRun : List MsgqEvent := [.recv 5 .forever, .arrive 3 false, .receiver 5, .receiver 5]

theorem run_msgqOk_wait : ∃ k, exec Msgq.next .create waitRun = some k ∧ MsgqOk k := by
  refine ⟨_, rfl, @run_msgqOk _ waitRun ?_⟩
  exact .cons ⟨by rfl, rfl⟩ <| .cons ⟨.inr (by unfold PostOk; decide), rfl⟩ <| .cons ⟨trivial, rfl⟩ <|
    .cons ⟨trivial, rfl⟩ <| .nil _

/-- A message arrives and is taken by the first pop: its count lets the next receive go on without a
message, although it would wait forever. -/
def fastRun : List MsgqEvent := [.arrive 3 false, .recv 5 .forever, .recv 5 .forever, .receiver 5]

theorem not_msgqOk_fast : ∃ k, exec Msgq.next .create fastRun = some k ∧ ¬MsgqOk k :=
  ⟨_, rfl, fun h => absurd h.returned (by decide)⟩

end Occ.Ipc
