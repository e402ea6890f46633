/-
The locks of the trace buffers: the semaphores that `trac_write_int`, `TRAC_get_buffer`, `TRAC_get_buffer_partial` and
`TRAC_reset_buf` pend on and post, in threads and in interrupt context.
-/
import Occ.Lib.BitQueue
import Occ.Lib.Token
import Occ.Ssx.Kernel
import Occ.Trac.IsrQueue

namespace Occ.Trac

open Occ.Ssx (ssxThreads)
open Occ.Token (OneToken)
open Occ.Transition

/-! ## State -/

instance : NeZero ssxThreads := ⟨by decide⟩

/-- Who traces: the thread of a priority, or an interrupt handler. -/
inductive Agent
  | thread (p : Fin ssxThreads)
  | isr (n : Nat)
deriving DecidableEq, Repr

/-- What an agent pends for: its own trace, the trace that the circular buffer was full, the write of an entry of the
circular buffer, a copy, a part of a copy, or the reset of a buffer. -/
inductive LockOp
  | write (comp : TraceComp)
  | full
  | unload (comp : TraceComp)
  | getBuffer (comp : TraceComp)
  | getBufferPartial (comp : TraceComp)
  | reset (comp : TraceComp)
deriving DecidableEq, Repr

/-- The buffer whose semaphore it pends on. -/
def LockOp.comp : LockOp → TraceComp
  | write comp => comp
  | full => .imp
  | unload comp => comp
  | getBuffer comp => comp
  | getBufferPartial comp => comp
  | reset comp => comp

/-- Where an agent is. A thread that has timed out is runnable, and has not run yet. -/
inductive LockPc
  | idle
  | pend (op : LockOp)
  | blocked (op : LockOp)
  | timedOut (op : LockOp)
  | inside (op : LockOp)
  | check
  | drain
deriving DecidableEq, Repr

/-- It has the lock of a buffer. -/
def LockPc.holds (comp : TraceComp) : LockPc → Bool
  | inside op => op.comp = comp
  | _ => false

/-- It waits for the lock of a buffer, or has not left the queue yet. -/
def LockPc.waits (comp : TraceComp) : LockPc → Bool
  | blocked op => op.comp = comp
  | timedOut op => op.comp = comp
  | _ => false

/-- It is queued and has not timed out. -/
def LockPc.isBlocked : LockPc → Bool
  | blocked _ => true
  | _ => false

structure TraceLocks where
  count : TraceComp → BitVec 32
  pendingThreads : TraceComp → BitVec ssxThreads
  circ : CircHeader
  /-- the buffers that the entries of the circular buffer are for; none for a slot that was never used -/
  slots : Nat → Option TraceComp
  fullFlag : Bool
  pc : Agent → LockPc

namespace TraceLocks

variable (s : TraceLocks)

def setPc (a : Agent) (pc : LockPc) : TraceLocks := { s with pc := Function.update s.pc a pc }

/-! ## The semaphores -/

/-- A thread that is woken by a post goes on with the lock, unless it has timed out. -/
def wake : LockPc → LockPc
  | .blocked op => .inside op
  | pc => pc

/-- `ssx_semaphore_post`; the error for a count above the maximum comes after the count. -/
def post (comp : TraceComp) : TraceLocks :=
  let p := BitQueue.min (s.pendingThreads comp)
  if h : p < ssxThreads then
    { s with
      pendingThreads := Function.update s.pendingThreads comp (BitQueue.delete (s.pendingThreads comp) p)
      pc := Function.update s.pc (.thread ⟨p, h⟩) (wake (s.pc (.thread ⟨p, h⟩))) }
  else { s with count := Function.update s.count comp (s.count comp + 1) }

/-! ## The trace functions -/

/-- The loop that drains the circular buffer goes on while there are entries. -/
def drainLoop : LockPc := if 0 < s.circ.entryCount then .drain else .idle

/-- `TRAC_reset_buf` goes to the next buffer. -/
def resetNext : TraceComp → LockPc
  | .inf => .pend (.reset .err)
  | .err => .pend (.reset .imp)
  | .imp => .idle

/-- An agent goes on after its pend has failed. -/
def failed (a : Agent) (op : LockOp) : TraceLocks :=
  match op with
  | .write comp =>
    match a with
    | .thread _ => s.setPc a .check
    | .isr _ =>
      if circularBufferSize ≤ s.circ.entryCount then (({ s with fullFlag := true } : TraceLocks).setPc a .idle).post comp
      else ({ s with
        slots := Function.update s.slots s.circ.head.toNat (some comp)
        circ := s.circ.put } : TraceLocks).setPc a .idle
  | .full => ({ s with fullFlag := false } : TraceLocks).setPc a .drain
  | .unload _ => s.setPc a s.drainLoop
  | .getBuffer _ => s.setPc a .idle
  | .getBufferPartial _ => s.setPc a .idle
  | .reset comp => (s.setPc a (resetNext comp)).post comp

/-- An agent that has the lock goes on, and posts. -/
def leave (a : Agent) (op : LockOp) : TraceLocks :=
  match op with
  | .write comp =>
    match a with
    | .thread _ => (s.setPc a .check).post comp
    | .isr _ => (s.setPc a .idle).post comp
  | .full => (({ s with fullFlag := false } : TraceLocks).setPc a .drain).post .imp
  | .unload comp =>
    let s := { s with circ := s.circ.take }
    (s.setPc a s.drainLoop).post comp
  | .getBuffer comp => (s.setPc a .idle).post comp
  | .getBufferPartial comp => (s.setPc a .idle).post comp
  | .reset comp => (s.setPc a (resetNext comp)).post comp

/-- `ssx_semaphore_pend`: threads wait for a time, handlers do not. -/
def pend (a : Agent) (op : LockOp) : TraceLocks :=
  if s.count op.comp ≠ 0 then
    ({ s with count := Function.update s.count op.comp (s.count op.comp - 1) } : TraceLocks).setPc a (.inside op)
  else
    match a with
    | .thread p => ({ s with
        pendingThreads := Function.update s.pendingThreads op.comp (BitQueue.insert (s.pendingThreads op.comp) p) } :
          TraceLocks).setPc a (.blocked op)
    | .isr _ => s.failed a op

/-- A thread that has timed out runs again: it leaves the queue, and the pend fails. -/
def expire (p : Fin ssxThreads) (op : LockOp) : TraceLocks :=
  ({ s with
    pendingThreads := Function.update s.pendingThreads op.comp (BitQueue.delete (s.pendingThreads op.comp) p) } :
      TraceLocks).failed (.thread p) op

/-- After its own trace a thread looks whether there is something to drain. -/
def check (a : Agent) : TraceLocks :=
  if 0 < s.circ.entryCount then s.setPc a (if s.fullFlag then .pend .full else .drain) else s.setPc a .idle

/-- The entry at the tail is copied, to be written to its buffer. -/
def drain (a : Agent) : Option TraceLocks :=
  (s.slots s.circ.normalize.tail.toNat).map fun comp =>
    ({ s with circ := s.circ.normalize } : TraceLocks).setPc a (.pend (.unload comp))

end TraceLocks

/-! ## Steps -/

/-- The functions of the interface, with a descriptor or a null pointer. -/
inductive TraceApi
  | write (td : Option TraceComp)
  | getBuffer (td : Option TraceComp)
  | getBufferPartial (td : Option TraceComp) (ioSize : Nat)
  | resetBuf
deriving DecidableEq, Repr

/-- What they do up to their first pend. -/
def TraceApi.start : TraceApi → LockPc
  | write (some comp) => .pend (.write comp)
  | getBuffer (some comp) => .pend (.getBuffer comp)
  | getBufferPartial (some comp) ioSize => if ioSize < traceBufHeadSize then .idle else .pend (.getBufferPartial comp)
  | resetBuf => .pend (.reset .inf)
  | _ => .idle

/-- An agent calls a function, an agent goes on, or the timer of a thread expires. -/
inductive LockEvent
  | call (a : Agent) (api : TraceApi)
  | go (a : Agent)
  | timeout (p : Fin ssxThreads)
deriving DecidableEq, Repr

namespace TraceLocks

def next (s : TraceLocks) : LockEvent → Option TraceLocks
  | .call a api => if s.pc a = .idle then some (s.setPc a api.start) else none
  | .go a =>
    match s.pc a, a with
    | .pend op, a => some (s.pend a op)
    | .inside op, a => some (s.leave a op)
    | .check, a => some (s.check a)
    | .drain, a => s.drain a
    | .timedOut op, .thread p => some (s.expire p op)
    | _, _ => none
  | .timeout p =>
    match s.pc (.thread p) with
    | .blocked op => some (s.setPc (.thread p) (.timedOut op))
    | _ => none

/-- `TRAC_init_buffers` -/
def init : TraceLocks :=
  { count := fun _ => 1
    pendingThreads := fun _ => 0
    circ := ⟨0, 0, 0⟩
    slots := fun _ => none
    fullFlag := false
    pc := fun _ => .idle }

/-- The agents that have the lock of a buffer. -/
def holders (s : TraceLocks) (comp : TraceComp) : Set Agent := {a | (s.pc a).holds comp = true}

end TraceLocks

/-! ## The law -/

/-- The count of each semaphore and the number of its holders are one together, so that at most one agent is inside a
trace buffer. -/
structure LockLaw (s : TraceLocks) : Prop where
  count : ∀ comp, ((s.count comp).toNat : ℕ∞) + (s.holders comp).encard = 1
  exclusive : ∀ comp, ∀ a ∈ s.holders comp, ∀ b ∈ s.holders comp, a = b

/-- No post follows a failed pend. -/
def NoStrayPost (s : TraceLocks) (a : Agent) : LockOp → Bool
  | .write _ =>
    match a with
    | .thread _ => true
    | .isr _ => s.circ.entryCount < circularBufferSize
  | .reset _ => false
  | _ => true

/-- A post finds nobody waiting, or a thread that has not timed out. -/
def PostWakes (s : TraceLocks) (comp : TraceComp) : Prop :=
  ∀ h : BitQueue.min (s.pendingThreads comp) < ssxThreads,
    (s.pc (.thread ⟨BitQueue.min (s.pendingThreads comp), h⟩)).isBlocked = true

/-- The traces in interrupt context that do not get the lock find room in the circular buffer, the pends of
`TRAC_reset_buf` do not fail, and no post is for a thread that has timed out. -/
def LockOk (s : TraceLocks) : LockEvent → Prop
  | .go a =>
    match s.pc a, a with
    | .pend op, .isr n => s.count op.comp = 0 → NoStrayPost s (.isr n) op = true
    | .timedOut op, a => NoStrayPost s a op = true
    | .inside op, _ => PostWakes s op.comp
    | _, _ => True
  | _ => True

instance (s : TraceLocks) (comp : TraceComp) : Decidable (PostWakes s comp) := by
  unfold PostWakes
  infer_instance

instance (s : TraceLocks) (e : LockEvent) : Decidable (LockOk s e) := by
  unfold LockOk
  repeat' split
  all_goals infer_instance

/-! ## The invariant -/

/-- The threads in the queue of a semaphore are those that wait for it. -/
structure LockInv (s : TraceLocks) : Prop where
  token : ∀ comp, OneToken (s.count comp).toNat fun a => (s.pc a).holds comp = true
  pending : ∀ comp (p : Fin ssxThreads), BitQueue.member (s.pendingThreads comp) p = (s.pc (.thread p)).waits comp

/-- It has no lock and waits for none. -/
def LockPc.Away (pc : LockPc) : Prop := ∀ comp, pc.holds comp = false ∧ pc.waits comp = false

theorem lockInv_init : LockInv .init :=
  ⟨fun _ => OneToken.counted fun _ => nofun, fun _ _ => BitQueue.member_zero _⟩

theorem LockInv.law {s : TraceLocks} (h : LockInv s) : LockLaw s :=
  ⟨fun comp => (h.token comp).card, fun comp _ ha _ hb => (h.token comp).unique ha hb⟩

section
variable {pc : Agent → LockPc} {a x : Agent} {new : LockPc} {comp : TraceComp}

theorem update_holds_same (h : new.holds comp = (pc a).holds comp) :
    (Function.update pc a new x).holds comp = (pc x).holds comp := by
  by_cases hx : x = a
  · subst hx
    rw [Function.update_self, h]
  · rw [Function.update_of_ne hx]

theorem update_waits_same (h : new.waits comp = (pc a).waits comp) :
    (Function.update pc a new x).waits comp = (pc x).waits comp := by
  by_cases hx : x = a
  · subst hx
    rw [Function.update_self, h]
  · rw [Function.update_of_ne hx]

theorem update_holds_inside {op : LockOp} (hcomp : op.comp = comp) (hold : (pc a).holds comp = false) :
    (Function.update pc a (.inside op) x).holds comp = true ↔ x = a ∨ (pc x).holds comp = true := by
  by_cases hx : x = a
  · subst hx
    rw [Function.update_self, hold]
    simp [LockPc.holds, hcomp]
  · rw [Function.update_of_ne hx]
    exact (or_iff_right hx).symm

theorem update_holds_away (hnew : new.Away) :
    (Function.update pc a new x).holds comp = true ↔ x ≠ a ∧ (pc x).holds comp = true := by
  by_cases hx : x = a
  · subst hx
    rw [Function.update_self, (hnew comp).1]
    simp
  · rw [Function.update_of_ne hx]
    exact (and_iff_right hx).symm

theorem inside_other {op : LockOp} (h : comp ≠ op.comp) : (LockPc.inside op).holds comp = false :=
  decide_eq_false fun heq => h heq.symm

end

section
variable {pending : TraceComp → BitVec ssxThreads} {pc : Agent → LockPc} {p : Fin ssxThreads} {c : TraceComp} {new : LockPc}

theorem queued_insert (h : ∀ comp (q : Fin ssxThreads), BitQueue.member (pending comp) q = (pc (.thread q)).waits comp)
    (hself : new.waits c = true) (hother : ∀ comp, comp ≠ c → new.waits comp = (pc (.thread p)).waits comp)
    (comp : TraceComp) (q : Fin ssxThreads) :
    BitQueue.member (Function.update pending c (BitQueue.insert (pending c) p) comp) q =
      (Function.update pc (.thread p) new (.thread q)).waits comp := by
  by_cases hc : comp = c
  · subst hc
    rw [Function.update_self, BitQueue.member_insert]
    by_cases hq : q = p
    · subst hq
      rw [Function.update_self, hself]
      simp
    · have hval : (q : Nat) ≠ p := fun heq => hq (Fin.ext heq)
      rw [Function.update_of_ne fun heq => hq (Agent.thread.inj heq), ← h comp q]
      simp [hval]
  · rw [Function.update_of_ne hc, h comp q, update_waits_same (hother comp hc)]

theorem queued_delete (h : ∀ comp (q : Fin ssxThreads), BitQueue.member (pending comp) q = (pc (.thread q)).waits comp)
    (hself : new.waits c = false) (hother : ∀ comp, comp ≠ c → new.waits comp = (pc (.thread p)).waits comp)
    (comp : TraceComp) (q : Fin ssxThreads) :
    BitQueue.member (Function.update pending c (BitQueue.delete (pending c) p) comp) q =
      (Function.update pc (.thread p) new (.thread q)).waits comp := by
  by_cases hc : comp = c
  · subst hc
    rw [Function.update_self, BitQueue.member_delete]
    by_cases hq : q = p
    · subst hq
      rw [Function.update_self, hself]
      simp
    · have hval : (q : Nat) ≠ p := fun heq => hq (Fin.ext heq)
      rw [Function.update_of_ne fun heq => hq (Agent.thread.inj heq), ← h comp q]
      simp [hval]
  · rw [Function.update_of_ne hc, h comp q, update_waits_same (hother comp hc)]

end

theorem resetNext_away (comp : TraceComp) : (TraceLocks.resetNext comp).Away := by
  intro c
  cases comp
  all_goals exact ⟨rfl, rfl⟩

theorem drainLoop_away (s : TraceLocks) : s.drainLoop.Away := by
  intro c
  unfold TraceLocks.drainLoop
  split
  all_goals exact ⟨rfl, rfl⟩

theorem start_away (api : TraceApi) : api.start.Away := by
  intro c
  unfold TraceApi.start
  repeat' split
  all_goals exact ⟨rfl, rfl⟩

section
variable (s : TraceLocks) (comp : TraceComp)

theorem post_queued {p : Fin ssxThreads} (hp : BitQueue.min (s.pendingThreads comp) = p) : s.post comp =
    { s with
      pendingThreads := Function.update s.pendingThreads comp (BitQueue.delete (s.pendingThreads comp) p)
      pc := Function.update s.pc (.thread p) (TraceLocks.wake (s.pc (.thread p))) } := by
  have hlt : BitQueue.min (s.pendingThreads comp) < ssxThreads := by
    rw [hp]
    exact p.isLt
  have hfin : (⟨BitQueue.min (s.pendingThreads comp), hlt⟩ : Fin ssxThreads) = p := Fin.ext hp
  unfold TraceLocks.post
  dsimp only
  rw [dif_pos hlt, hfin, hp]

theorem post_empty (hp : ¬BitQueue.min (s.pendingThreads comp) < ssxThreads) : s.post comp =
    { s with count := Function.update s.count comp (s.count comp + 1) } := by
  unfold TraceLocks.post
  dsimp only
  rw [dif_neg hp]

end

namespace LockInv

variable {s s' : TraceLocks} {a : Agent} {op : LockOp} {new : LockPc}

theorem setPc (h : LockInv s) (hholds : ∀ comp, new.holds comp = (s.pc a).holds comp)
    (hwaits : ∀ comp, new.waits comp = (s.pc a).waits comp) : LockInv (s.setPc a new) := by
  constructor
  · intro comp
    refine (h.token comp).congr fun x => ?_
    show (Function.update s.pc a new x).holds comp = true ↔ _
    rw [update_holds_same (hholds comp)]
  · intro comp p
    exact (h.pending comp p).trans (update_waits_same (hwaits comp)).symm

theorem moves (h : LockInv s) (hold : (s.pc a).Away) (hnew : new.Away) : LockInv (s.setPc a new) :=
  h.setPc (fun comp => by rw [(hold comp).1, (hnew comp).1]) fun comp => by rw [(hold comp).2, (hnew comp).2]

theorem inside_holds (hpc : s.pc a = .inside op) : (s.pc a).holds op.comp = true := by
  rw [hpc]
  simp [LockPc.holds]

theorem inside_waits (hpc : s.pc a = .inside op) (comp : TraceComp) : (s.pc a).waits comp = false := by
  rw [hpc]
  rfl

/-- The lock is given back. -/
theorem release (h : LockInv s) (hpc : s.pc a = .inside op) (hnew : new.Away) :
    LockInv { s.setPc a new with count := Function.update s.count op.comp (s.count op.comp + 1) } := by
  have hinside := inside_holds hpc
  constructor
  · intro comp
    dsimp only [TraceLocks.setPc]
    by_cases hcomp : comp = op.comp
    · subst hcomp
      have hzero := (h.token op.comp).count_eq_zero hinside
      have hcount : (s.count op.comp + 1).toNat = (s.count op.comp).toNat + 1 := by
        rw [BitVec.toNat_add, hzero]
        rfl
      rw [Function.update_self, hcount]
      exact (h.token op.comp).release hinside fun x => update_holds_away hnew
    · rw [Function.update_of_ne hcomp]
      refine (h.token comp).congr fun x => ?_
      rw [update_holds_same]
      rw [(hnew comp).1, hpc, inside_other hcomp]
  · intro comp p
    refine (h.pending comp p).trans (update_waits_same ?_).symm
    rw [(hnew comp).2, inside_waits hpc]

/-- The lock is handed over to a thread that waits for it. -/
theorem handOver (h : LockInv s) (hpc : s.pc a = .inside op) (hnew : new.Away) {p : Fin ssxThreads} {op' : LockOp}
    (hp : s.pc (.thread p) = .blocked op') (hcomp : op'.comp = op.comp) :
    LockInv { s.setPc a new with
      pendingThreads := Function.update s.pendingThreads op.comp (BitQueue.delete (s.pendingThreads op.comp) p)
      pc := Function.update (s.setPc a new).pc (.thread p) (.inside op') } := by
  have hne : Agent.thread p ≠ a := by
    rintro rfl
    rw [hp] at hpc
    cases hpc
  have hp' : Function.update s.pc a new (.thread p) = .blocked op' := (Function.update_of_ne hne _ _).trans hp
  have hholds : ∀ comp, (Function.update s.pc a new (.thread p)).holds comp = false := by
    intro comp
    rw [hp']
    rfl
  constructor
  · intro comp
    dsimp only [TraceLocks.setPc]
    by_cases hc : comp = op.comp
    · subst hc
      refine (h.token op.comp).handOver (b := .thread p) (inside_holds hpc) fun x => ?_
      rw [update_holds_inside hcomp (hholds op.comp), update_holds_away hnew]
    · refine (h.token comp).congr fun x => ?_
      rw [update_holds_same, update_holds_same]
      · rw [(hnew comp).1, hpc, inside_other hc]
      · rw [hholds comp, inside_other (by rwa [hcomp])]
  · have hpending : ∀ comp (q : Fin ssxThreads), BitQueue.member (s.pendingThreads comp) q =
        (Function.update s.pc a new (.thread q)).waits comp := by
      intro comp q
      refine (h.pending comp q).trans (update_waits_same ?_).symm
      rw [(hnew comp).2, inside_waits hpc]
    refine queued_delete hpending rfl fun comp hc => ?_
    show _ = (Function.update s.pc a new (.thread p)).waits comp
    rw [hp']
    exact (decide_eq_false fun heq => hc (heq.symm.trans hcomp)).symm

/-- An agent that has the lock posts. -/
theorem post (h : LockInv s) (hpc : s.pc a = .inside op) (hnew : new.Away) (hwakes : PostWakes s op.comp) :
    LockInv ((s.setPc a new).post op.comp) := by
  by_cases hlt : BitQueue.min (s.pendingThreads op.comp) < ssxThreads
  · obtain ⟨p, hp⟩ : ∃ p : Fin ssxThreads, BitQueue.min (s.pendingThreads op.comp) = p := ⟨⟨_, hlt⟩, rfl⟩
    have hfin : (⟨BitQueue.min (s.pendingThreads op.comp), hlt⟩ : Fin ssxThreads) = p := Fin.ext hp
    have hblocked := hwakes hlt
    have hmember := BitQueue.member_min hlt
    rw [hfin] at hblocked
    rw [hp, h.pending op.comp p] at hmember
    rw [post_queued (s.setPc a new) op.comp hp]
    cases hb : s.pc (.thread p) with
    | blocked op' =>
      have hne : Agent.thread p ≠ a := by
        intro heq
        rw [heq, hpc] at hb
        cases hb
      have hpcNew : (s.setPc a new).pc (.thread p) = .blocked op' := (Function.update_of_ne hne _ _).trans hb
      rw [hb] at hmember
      rw [hpcNew]
      exact h.handOver hpc hnew hb (of_decide_eq_true hmember)
    | _ =>
      rw [hb] at hblocked
      cases hblocked
  · rw [post_empty (s.setPc a new) op.comp hlt]
    exact h.release hpc hnew

/-- A pend takes the lock. -/
theorem take (h : LockInv s) (hpc : (s.pc a).Away) (hcount : s.count op.comp ≠ 0) :
    LockInv (({ s with count := Function.update s.count op.comp (s.count op.comp - 1) } : TraceLocks).setPc a (.inside op)) := by
  have hpos : (s.count op.comp).toNat ≠ 0 := fun hz => hcount (BitVec.eq_of_toNat_eq hz)
  constructor
  · intro comp
    dsimp only [TraceLocks.setPc]
    by_cases hc : comp = op.comp
    · subst hc
      obtain ⟨hone, htoken⟩ := (h.token op.comp).take hpos fun x => update_holds_inside rfl (hpc op.comp).1
      have hcountNew : (s.count op.comp - 1).toNat = 0 := by
        rw [BitVec.toNat_sub, hone]
        rfl
      rw [Function.update_self, hcountNew]
      exact htoken
    · rw [Function.update_of_ne hc]
      refine (h.token comp).congr fun x => ?_
      rw [update_holds_same]
      rw [(hpc comp).1, inside_other hc]
  · intro comp p
    refine (h.pending comp p).trans (update_waits_same ?_).symm
    rw [(hpc comp).2]
    rfl

theorem wait (h : LockInv s) {p : Fin ssxThreads} (hpc : (s.pc (.thread p)).Away) :
    LockInv (({ s with
      pendingThreads := Function.update s.pendingThreads op.comp (BitQueue.insert (s.pendingThreads op.comp) p) } :
        TraceLocks).setPc (.thread p) (.blocked op)) := by
  constructor
  · intro comp
    refine (h.token comp).congr fun x => ?_
    dsimp only [TraceLocks.setPc]
    rw [update_holds_same]
    rw [(hpc comp).1]
    rfl
  · refine queued_insert h.pending (decide_eq_true rfl) fun comp hc => ?_
    rw [(hpc comp).2]
    exact decide_eq_false fun heq => hc heq.symm

theorem expire (h : LockInv s) {p : Fin ssxThreads} (hpc : s.pc (.thread p) = .timedOut op) (hnew : new.Away) :
    LockInv (({ s with
      pendingThreads := Function.update s.pendingThreads op.comp (BitQueue.delete (s.pendingThreads op.comp) p) } :
        TraceLocks).setPc (.thread p) new) := by
  constructor
  · intro comp
    refine (h.token comp).congr fun x => ?_
    dsimp only [TraceLocks.setPc]
    rw [update_holds_same]
    rw [(hnew comp).1, hpc]
    rfl
  · refine queued_delete h.pending (hnew op.comp).2 fun comp hc => ?_
    rw [(hnew comp).2, hpc]
    exact (decide_eq_false fun heq => hc heq.symm).symm

theorem idle_away : LockPc.idle.Away := fun _ => ⟨rfl, rfl⟩

theorem check_away : LockPc.check.Away := fun _ => ⟨rfl, rfl⟩

theorem drain_away : LockPc.drain.Away := fun _ => ⟨rfl, rfl⟩

theorem pend_away : (LockPc.pend op).Away := fun _ => ⟨rfl, rfl⟩

theorem frame (h : LockInv s) (hcount : s'.count = s.count) (hpending : s'.pendingThreads = s.pendingThreads)
    (hpc : s'.pc = s.pc) : LockInv s' := by
  constructor
  · rw [hcount, hpc]
    exact h.token
  · rw [hpending, hpc]
    exact h.pending

/-- An agent that has the lock leaves. -/
theorem leave (h : LockInv s) (hpc : s.pc a = .inside op) (hwakes : PostWakes s op.comp) : LockInv (s.leave a op) := by
  cases op with
  | write comp =>
    cases a with
    | thread p =>
      have hpost := h.post hpc check_away hwakes
      exact hpost
    | isr n =>
      have hpost := h.post hpc idle_away hwakes
      exact hpost
  | full =>
    have hframe : LockInv { s with fullFlag := false } := h.frame rfl rfl rfl
    have hpost := hframe.post hpc drain_away hwakes
    exact hpost
  | unload comp =>
    have hframe : LockInv { s with circ := s.circ.take } := h.frame rfl rfl rfl
    have hpost := hframe.post hpc (drainLoop_away { s with circ := s.circ.take }) hwakes
    exact hpost
  | getBuffer comp =>
    have hpost := h.post hpc idle_away hwakes
    exact hpost
  | getBufferPartial comp =>
    have hpost := h.post hpc idle_away hwakes
    exact hpost
  | reset comp =>
    have hpost := h.post hpc (resetNext_away comp) hwakes
    exact hpost

theorem failed_isr (h : LockInv s) {n : Nat} (hpc : (s.pc (.isr n)).Away) (hok : NoStrayPost s (.isr n) op = true) :
    LockInv (s.failed (.isr n) op) := by
  cases op with
  | write comp =>
    have hroom : s.circ.entryCount < circularBufferSize := of_decide_eq_true hok
    unfold TraceLocks.failed
    dsimp only
    rw [if_neg (BitVec.not_le.2 hroom)]
    have hframe : LockInv { s with
        slots := Function.update s.slots s.circ.head.toNat (some comp)
        circ := s.circ.put } := h.frame rfl rfl rfl
    exact hframe.moves hpc idle_away
  | full =>
    have hframe : LockInv { s with fullFlag := false } := h.frame rfl rfl rfl
    exact hframe.moves hpc drain_away
  | unload comp => exact h.moves hpc (drainLoop_away s)
  | getBuffer comp => exact h.moves hpc idle_away
  | getBufferPartial comp => exact h.moves hpc idle_away
  | reset comp => cases hok

theorem failed_thread (h : LockInv s) {p : Fin ssxThreads} (hpc : s.pc (.thread p) = .timedOut op)
    (hok : NoStrayPost s (.thread p) op = true) : LockInv (s.expire p op) := by
  cases op with
  | write comp => exact h.expire hpc check_away
  | full =>
    have hframe : LockInv { s with fullFlag := false } := h.frame rfl rfl rfl
    exact hframe.expire hpc drain_away
  | unload comp => exact h.expire hpc (drainLoop_away _)
  | getBuffer comp => exact h.expire hpc idle_away
  | getBufferPartial comp => exact h.expire hpc idle_away
  | reset comp => cases hok

theorem pend (h : LockInv s) (hpc : (s.pc a).Away)
    (hok : ∀ n, a = .isr n → s.count op.comp = 0 → NoStrayPost s (.isr n) op = true) : LockInv (s.pend a op) := by
  unfold TraceLocks.pend
  split
  · rename_i hcount
    exact h.take hpc hcount
  · rename_i hcount
    cases a with
    | thread p => exact h.wait hpc
    | isr n => exact h.failed_isr hpc (hok n rfl (not_not.1 hcount))

theorem check (h : LockInv s) (hpc : (s.pc a).Away) : LockInv (s.check a) := by
  unfold TraceLocks.check
  repeat' split
  · exact h.moves hpc pend_away
  · exact h.moves hpc drain_away
  · exact h.moves hpc idle_away

theorem drain (h : LockInv s) (hpc : (s.pc a).Away) (hs : s.drain a = some s') : LockInv s' := by
  unfold TraceLocks.drain at hs
  obtain ⟨comp, -, rfl⟩ := Option.map_eq_some_iff.1 hs
  have hframe : LockInv { s with circ := s.circ.normalize } := h.frame rfl rfl rfl
  exact hframe.moves hpc pend_away

theorem next {e : LockEvent} (h : LockInv s) (hok : LockOk s e) (hs : s.next e = some s') : LockInv s' := by
  cases e with
  | call a api =>
    dsimp only [TraceLocks.next] at hs
    split at hs
    · rename_i hpc
      cases hs
      refine h.moves ?_ (start_away api)
      rw [hpc]
      exact idle_away
    · cases hs
  | timeout p =>
    dsimp only [TraceLocks.next] at hs
    split at hs
    · rename_i op hpc
      cases hs
      refine h.setPc (fun comp => ?_) fun comp => ?_
      · rw [hpc]
        rfl
      · rw [hpc]
        rfl
    · cases hs
  | go a =>
    dsimp only [TraceLocks.next] at hs
    dsimp only [LockOk] at hok
    cases hpc : s.pc a with
    | pend op =>
      rw [hpc] at hs hok
      cases hs
      refine h.pend ?_ fun n hn hcount => ?_
      · rw [hpc]
        exact pend_away
      · subst hn
        exact hok hcount
    | inside op =>
      rw [hpc] at hs hok
      cases hs
      exact h.leave hpc hok
    | check =>
      rw [hpc] at hs
      cases hs
      refine h.check ?_
      rw [hpc]
      exact check_away
    | drain =>
      rw [hpc] at hs
      refine h.drain ?_ hs
      rw [hpc]
      exact drain_away
    | timedOut op =>
      rw [hpc] at hs hok
      cases a with
      | thread p =>
        cases hs
        exact h.failed_thread hpc hok
      | isr n => cases hs
    | idle =>
      rw [hpc] at hs
      cases a
      all_goals cases hs
    | blocked op =>
      rw [hpc] at hs
      cases a
      all_goals cases hs

end LockInv

/-- In a run in which the traces in interrupt context that do not get the lock find room in the circular buffer, the pends
of `TRAC_reset_buf` do not fail and no post is for a thread that has timed out, the count and the holders of each lock are
one together. -/
theorem run_lockLaw {s : TraceLocks} {es : List LockEvent}
    (h : Run (Guarded LockOk (StepOf TraceLocks.next)) .init es s) : LockLaw s :=
  (h.invariant (P := LockInv) (fun _ _ _ hs he => hs.next he.1 he.2) lockInv_init).law

/-- A handler has the lock while another one traces into the circular buffer; a thread waits for the lock and is woken,
and drains the circular buffer, while another one copies a part of the buffer. -/
def lockRun : List LockEvent :=
  [.call (.isr 0) (.write (some .inf)), .go (.isr 0), .call (.isr 1) (.write (some .inf)), .go (.isr 1),
    .call (.thread 3) (.write (some .inf)), .go (.thread 3), .go (.isr 0), .go (.thread 3),
    .call (.thread 5) (.getBufferPartial (some .inf) 4096), .go (.thread 5), .go (.thread 3), .go (.thread 3), .go (.thread 3),
    .go (.thread 5)]

theorem run_lockLaw_woken : ∃ s, exec TraceLocks.next .init lockRun = some s ∧
    s.pc (.thread 3) = .inside (.unload .inf) ∧ LockLaw s :=
  ⟨_, rfl, rfl, @run_lockLaw _ lockRun (run_guarded_of_exec rfl)⟩

/-- A handler has the lock while another one fills the circular buffer. -/
def strayRun : List LockEvent :=
  [.call (.isr 0) (.write (some .inf)), .go (.isr 0)] ++
    (List.replicate 5 [.call (.isr 1) (.write (some .inf)), .go (.isr 1)]).flatten

/-- The fifth trace posts without the lock, and a thread gets it too. -/
theorem not_lockLaw_stray : ∃ s, exec TraceLocks.next .init
    (strayRun ++ [.call (.thread 3) (.write (some .inf)), .go (.thread 3)]) = some s ∧ .isr 0 ∈ s.holders .inf ∧
      .thread 3 ∈ s.holders .inf ∧ ¬LockLaw s :=
  ⟨_, rfl, rfl, rfl, fun h => absurd (h.exclusive .inf (.isr 0) rfl (.thread 3) rfl) (by decide)⟩

theorem not_lockLaw_reset : ∃ s, exec TraceLocks.next .init
    [.call (.isr 0) (.write (some .inf)), .go (.isr 0), .call (.isr 1) .resetBuf, .go (.isr 1), .call (.thread 3)
      (.write (some .inf)), .go (.thread 3)] = some s ∧ ¬LockLaw s :=
  ⟨_, rfl, fun h => absurd (h.exclusive .inf (.isr 0) rfl (.thread 3) rfl) (by decide)⟩

end Occ.Trac
