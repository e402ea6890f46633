/-
The ISR trace queue (`trac_write_int`): a trace in interrupt context that does not get the semaphore is put into a small
circular buffer, which the traces in thread context drain.
-/
import Occ.Lib.Transition
import Occ.Trac.Buffer

namespace Occ.Trac

open Occ.Ring (Window)
open Occ.Staged (Byte)
open Occ.Transition

/-! ## State -/

/-- `CIRCULAR_BUFFER_SIZE` -/
def circularBufferSize : BitVec 32 := 4

/-- `circular_entire_data_t`; its `len` is that of the entry. -/
structure CircEntry where
  comp : TraceComp
  entry : List Byte
deriving DecidableEq, Repr

/-- `g_isr_circular_header` -/
structure CircHeader where
  head : BitVec 32
  tail : BitVec 32
  entryCount : BitVec 32
deriving DecidableEq, Repr

namespace CircHeader

/-- An entry has been put at the head. -/
def put (h : CircHeader) : CircHeader :=
  { h with head := (h.head + 1) % circularBufferSize, entryCount := h.entryCount + 1 }

/-- `g_isr_circular_header.tail % CIRCULAR_BUFFER_SIZE` -/
def normalize (h : CircHeader) : CircHeader := { h with tail := h.tail % circularBufferSize }

/-- The entry at the tail has been written to its trace buffer. -/
def take (h : CircHeader) : CircHeader :=
  if h.tail = h.head then { h with entryCount := 0 } else { h with tail := h.tail + 1, entryCount := h.entryCount - 1 }

end CircHeader

/-- Where a thread is in `trac_write_int`: not in it, after its own trace, or in the loop that drains the buffer. -/
inductive TracePc
  | idle
  | check (c : TraceCall)
  | drain
deriving DecidableEq

structure IsrTrace where
  buffers : TraceComp → TraceBuf
  circ : CircHeader
  slots : Nat → CircEntry
  fullFlag : Bool
  pc : Nat → TracePc
  /-- the thread that is unloading an entry with interrupts disabled, and the entry -/
  current : Option (Nat × CircEntry)
  -- history: entries accepted into the circular buffer, entries written and whether they come from there, the entries
  -- pending when one was dropped, and those pending when a call in thread context returned
  accepted : List CircEntry
  writes : List (Bool × CircEntry)
  dropped : List Nat
  returned : List Nat

/-! ## Steps -/

inductive TraceEvent
  | isrCall (c : TraceCall) (pendOk : Bool)
  | threadCall (t : Nat) (c : TraceCall) (pendOk : Bool)
  | threadCheck (t : Nat) (pendOk : Bool)
  | drainCopy (t : Nat)
  | drainFinish (t : Nat) (pendOk : Bool)
deriving DecidableEq

namespace IsrTrace

variable (s : IsrTrace)

/-- An entry is written to its trace buffer. -/
def write (fromCircular : Bool) (e : CircEntry) : IsrTrace :=
  { s with
    buffers := Function.update s.buffers e.comp ((s.buffers e.comp).writeEntry e.entry)
    writes := s.writes ++ [(fromCircular, e)] }

/-- The entries of the circular buffer that have been written, in order. -/
def drained : List CircEntry := (s.writes.filter (·.1)).map (·.2)

/-- How many accepted entries have not been written. -/
def pending : Nat := s.accepted.length - s.drained.length

/-- `trac_write_int` in interrupt context. -/
def isrCall (c : TraceCall) (pendOk : Bool) : IsrTrace :=
  let e : CircEntry := ⟨c.comp, c.entry false⟩
  if pendOk then s.write false e
  else if circularBufferSize ≤ s.circ.entryCount then { s with fullFlag := true, dropped := s.dropped ++ [s.pending] }
  else { s with
    slots := Function.update s.slots s.circ.head.toNat e
    circ := s.circ.put
    accepted := s.accepted ++ [e] }

/-- `trac_write_int` in thread context, its own trace. -/
def threadCall (t : Nat) (c : TraceCall) (pendOk : Bool) : IsrTrace :=
  let s := if pendOk then s.write false ⟨c.comp, c.entry true⟩ else s
  { s with pc := Function.update s.pc t (.check c) }

-- the hash of the message that the circular buffer was full
variable (fullHash : BitVec 32)

/-- The trace that the circular buffer was full, in the place of the thread's own. -/
def fullCall (c : TraceCall) : TraceCall :=
  { c with comp := .imp, hash := fullHash, line := 474, args := [1], max_args := by decide }

/-- After its own trace a thread looks whether there is something to drain. -/
def threadCheck (t : Nat) (c : TraceCall) (pendOk : Bool) : IsrTrace :=
  if 0 < s.circ.entryCount then
    let s :=
      if s.fullFlag then
        let s := if pendOk then s.write false ⟨.imp, (fullCall fullHash c).entry true⟩ else s
        { s with fullFlag := false }
      else s
    { s with pc := Function.update s.pc t .drain }
  else { s with pc := Function.update s.pc t .idle, returned := s.returned ++ [s.pending] }

/-- The entry at the tail is copied. -/
def drainCopy (t : Nat) : IsrTrace :=
  { s with circ := s.circ.normalize, current := some (t, s.slots s.circ.normalize.tail.toNat) }

/-- The copied entry is written. -/
def unload (e : CircEntry) (pendOk : Bool) : IsrTrace :=
  if pendOk then { ({ s with current := none } : IsrTrace).write true e with circ := s.circ.take } else { s with current := none }

/-- The loop goes on while there are entries. -/
def drainFinish (t : Nat) (e : CircEntry) (pendOk : Bool) : IsrTrace :=
  let s := s.unload e pendOk
  if 0 < s.circ.entryCount then s
  else { s with pc := Function.update s.pc t .idle, returned := s.returned ++ [s.pending] }

/-- While a thread has interrupts disabled, no other thread runs, and a trace in interrupt context does not get the semaphore. -/
def next (s : IsrTrace) : TraceEvent → Option IsrTrace
  | .isrCall c pendOk => if pendOk ∧ s.current ≠ none then none else some (s.isrCall c pendOk)
  | .threadCall t c pendOk => if s.pc t = .idle ∧ s.current = none then some (s.threadCall t c pendOk) else none
  | .threadCheck t pendOk =>
    match s.pc t, s.current with
    | .check c, none => some (s.threadCheck fullHash t c pendOk)
    | _, _ => none
  -- a slot that was never used names no component
  | .drainCopy t =>
    if s.pc t = .drain ∧ s.current = none ∧ s.circ.normalize.tail.toNat < s.accepted.length then some (s.drainCopy t) else none
  | .drainFinish t pendOk =>
    match s.current with
    | some (t', e) => if t' = t then some (s.drainFinish t e pendOk) else none
    | none => none

end IsrTrace

/-- `TRAC_init_buffers` -/
def IsrTrace.init : IsrTrace :=
  { buffers := tracInitValuesBuffer
    circ := ⟨0, 0, 0⟩
    slots := fun _ => ⟨.inf, []⟩
    fullFlag := false
    pc := fun _ => .idle
    current := none
    accepted := []
    writes := []
    dropped := []
    returned := [] }

/-! ## The law -/

/-- The entries of the circular buffer are written to their trace buffers in order, none twice; one is dropped only when
the circular buffer is full, and none is left when a call in thread context returns. -/
structure QueueLaw (s : IsrTrace) : Prop where
  fifo : s.drained <+: s.accepted
  buffers : ∀ comp, s.buffers comp = ((s.writes.filter (·.2.comp = comp)).map (·.2.entry)).foldl TraceBuf.writeEntry
    (tracInitValuesBuffer comp)
  dropped : ∀ n ∈ s.dropped, n = circularBufferSize.toNat
  returned : ∀ n ∈ s.returned, n = 0

/-- An entry is unloaded only while there is one, and written only while the circular buffer is not full. -/
def DrainOk (s : IsrTrace) (e : TraceEvent) : Prop :=
  match e with
  | .drainCopy _ => 0 < s.circ.entryCount
  | .drainFinish _ pendOk => pendOk = true → s.circ.entryCount < circularBufferSize
  | _ => True

instance (s : IsrTrace) (e : TraceEvent) : Decidable (DrainOk s e) := by
  unfold DrainOk
  split <;> infer_instance

/-! ## The invariant -/

structure QueueInv (s : IsrTrace) : Prop where
  fifo : s.drained <+: s.accepted
  window : Window 4 0 s.slots s.accepted s.drained.length
  head : s.circ.head.toNat = s.accepted.length % 4
  tail : s.circ.tail.toNat % 4 = s.drained.length % 4
  tail_le : s.circ.tail.toNat ≤ 4
  count : s.circ.entryCount.toNat = s.pending
  current : ∀ t e, s.current = some (t, e) → s.circ.tail.toNat < 4 ∧ s.accepted[s.drained.length]? = some e
  buffers : ∀ comp, s.buffers comp = ((s.writes.filter (·.2.comp = comp)).map (·.2.entry)).foldl TraceBuf.writeEntry
    (tracInitValuesBuffer comp)
  dropped : ∀ n ∈ s.dropped, n = circularBufferSize.toNat
  returned : ∀ n ∈ s.returned, n = 0

theorem queueInv_init : QueueInv .init :=
  ⟨List.prefix_rfl, Window.empty, rfl, rfl, Nat.zero_le 4, rfl, nofun, fun _ => rfl, nofun, nofun⟩

theorem QueueInv.law {s : IsrTrace} (h : QueueInv s) : QueueLaw s := ⟨h.fifo, h.buffers, h.dropped, h.returned⟩

/-! ## Writing to a trace buffer -/

section
variable (s : IsrTrace) (e : CircEntry)

theorem drained_write_false : (s.write false e).drained = s.drained := by
  simp [IsrTrace.drained, IsrTrace.write]

theorem drained_write_true : (s.write true e).drained = s.drained ++ [e] := by
  simp [IsrTrace.drained, IsrTrace.write]

theorem buffers_write (fromCircular : Bool)
    (h : ∀ comp, s.buffers comp = ((s.writes.filter (·.2.comp = comp)).map (·.2.entry)).foldl TraceBuf.writeEntry
      (tracInitValuesBuffer comp)) (comp : TraceComp) : (s.write fromCircular e).buffers comp =
    (((s.write fromCircular e).writes.filter (·.2.comp = comp)).map (·.2.entry)).foldl TraceBuf.writeEntry
      (tracInitValuesBuffer comp) := by
  unfold IsrTrace.write
  dsimp only
  rw [List.filter_append, List.map_append, List.foldl_append, ← h comp]
  by_cases hcomp : e.comp = comp
  · subst hcomp
    rw [Function.update_self, List.filter_cons_of_pos (by simp)]
    rfl
  · rw [Function.update_of_ne (Ne.symm hcomp), List.filter_cons_of_neg (by simpa using hcomp)]
    rfl

end

namespace QueueInv

variable {s s' : IsrTrace}

theorem bounds (h : QueueInv s) : s.drained.length ≤ s.accepted.length ∧ s.accepted.length ≤ s.drained.length + 4 ∧
    s.circ.entryCount.toNat = s.accepted.length - s.drained.length :=
  ⟨h.window.le, h.window.size, h.count⟩

theorem write_false (h : QueueInv s) (e : CircEntry) : QueueInv (s.write false e) := by
  have hdrained := drained_write_false s e
  have hpending : (s.write false e).pending = s.pending := by
    unfold IsrTrace.pending
    rw [hdrained]
    rfl
  refine ⟨?_, ?_, h.head, ?_, h.tail_le, ?_, ?_, buffers_write s e false h.buffers, h.dropped, h.returned⟩
  · rw [hdrained]
    exact h.fifo
  · rw [hdrained]
    exact h.window
  · rw [hdrained]
    exact h.tail
  · rw [hpending]
    exact h.count
  · rw [hdrained]
    exact h.current

theorem setPc (h : QueueInv s) (t : Nat) (pc : TracePc) : QueueInv { s with pc := Function.update s.pc t pc } :=
  ⟨h.fifo, h.window, h.head, h.tail, h.tail_le, h.count, h.current, h.buffers, h.dropped, h.returned⟩

theorem isrCall (h : QueueInv s) (c : TraceCall) (pendOk : Bool) : QueueInv (s.isrCall c pendOk) := by
  obtain ⟨hle, hsize, hcount⟩ := h.bounds
  unfold IsrTrace.isrCall
  dsimp only
  split_ifs with hok hfull
  · exact h.write_false _
  · refine ⟨h.fifo, h.window, h.head, h.tail, h.tail_le, h.count, h.current, h.buffers, fun n hn => ?_, h.returned⟩
    obtain hn | hn := List.mem_append.1 hn
    · exact h.dropped n hn
    · have hfour : 4 ≤ s.circ.entryCount.toNat := hfull
      obtain rfl := List.mem_singleton.1 hn
      show s.pending = 4
      have hpending : s.pending = s.accepted.length - s.drained.length := rfl
      omega
  · have hfour : ¬4 ≤ s.circ.entryCount.toNat := hfull
    have hroom : s.accepted.length < s.drained.length + 4 := by omega
    have hone : (1 : BitVec 32).toNat = 1 := rfl
    have hhead := h.head
    refine ⟨?_, ?_, ?_, h.tail, h.tail_le, ?_, fun t e hcur => ?_, h.buffers, h.dropped, h.returned⟩
    · exact h.fifo.trans (List.prefix_append _ _)
    · show Window 4 0 (Function.update s.slots s.circ.head.toNat _) (s.accepted ++ [_]) s.drained.length
      rw [hhead, ← Nat.zero_add s.accepted.length]
      have hstored := h.window.store (a := ⟨c.comp, c.entry false⟩) hroom
      exact hstored.publish hroom (Function.update_self ..)
    · show ((s.circ.head + 1) % circularBufferSize).toNat = (s.accepted ++ [_]).length % 4
      have hsizeNat : circularBufferSize.toNat = 4 := rfl
      rw [BitVec.toNat_umod, BitVec.toNat_add, hone, hhead, hsizeNat, List.length_append, List.length_singleton]
      omega
    · show (s.circ.entryCount + 1).toNat = (s.accepted ++ [_]).length - s.drained.length
      rw [BitVec.toNat_add, hone, hcount, List.length_append, List.length_singleton]
      omega
    · obtain ⟨htail, hget⟩ := h.current t e hcur
      refine ⟨htail, ?_⟩
      have hlt := (List.getElem?_eq_some_iff.1 hget).1
      show (s.accepted ++ [_])[s.drained.length]? = some e
      rw [List.getElem?_append_left hlt, hget]

theorem threadCall (h : QueueInv s) (t : Nat) (c : TraceCall) (pendOk : Bool) : QueueInv (s.threadCall t c pendOk) := by
  unfold IsrTrace.threadCall
  dsimp only
  split
  · exact (h.write_false _).setPc t _
  · exact h.setPc t _

theorem finish (h : QueueInv s) (t : Nat) (hempty : ¬0 < s.circ.entryCount) :
    QueueInv { s with pc := Function.update s.pc t .idle, returned := s.returned ++ [s.pending] } := by
  refine ⟨h.fifo, h.window, h.head, h.tail, h.tail_le, h.count, h.current, h.buffers, h.dropped, fun n hn => ?_⟩
  obtain hn | hn := List.mem_append.1 hn
  · exact h.returned n hn
  · obtain rfl := List.mem_singleton.1 hn
    have hzero : ¬0 < s.circ.entryCount.toNat := hempty
    have hcount := h.count
    omega

theorem threadCheck (h : QueueInv s) (fullHash : BitVec 32) (t : Nat) (c : TraceCall) (pendOk : Bool) :
    QueueInv (s.threadCheck fullHash t c pendOk) := by
  have hflag : ∀ {s : IsrTrace}, QueueInv s → QueueInv { s with fullFlag := false } := fun h =>
    ⟨h.fifo, h.window, h.head, h.tail, h.tail_le, h.count, h.current, h.buffers, h.dropped, h.returned⟩
  unfold IsrTrace.threadCheck
  dsimp only
  split
  · refine QueueInv.setPc ?_ t .drain
    split
    · split
      · exact hflag (h.write_false _)
      · exact hflag h
    · exact h
  · exact h.finish t ‹_›

theorem drainCopy (h : QueueInv s) (t : Nat) (hpending : 0 < s.circ.entryCount) : QueueInv (s.drainCopy t) := by
  have htail : s.circ.normalize.tail.toNat = s.drained.length % 4 := by
    show (s.circ.tail % circularBufferSize).toNat = _
    rw [BitVec.toNat_umod]
    exact h.tail
  have hcount : 0 < s.circ.entryCount.toNat := hpending
  obtain ⟨-, -, hcountEq⟩ := h.bounds
  refine ⟨h.fifo, h.window, h.head, ?_, ?_, h.count, fun t' e hcur => ?_, h.buffers, h.dropped, h.returned⟩
  · show s.circ.normalize.tail.toNat % 4 = _
    rw [htail, Nat.mod_mod]
    rfl
  · show s.circ.normalize.tail.toNat ≤ 4
    omega
  · cases hcur
    constructor
    · show s.circ.normalize.tail.toNat < 4
      omega
    · have hhead := h.window.head (by omega)
      rw [Nat.zero_add, ← htail] at hhead
      exact hhead

theorem take_eq (h : QueueInv s) (hpos : s.drained.length < s.accepted.length)
    (hfull : s.circ.entryCount < circularBufferSize) : s.circ.take =
      { s.circ with tail := s.circ.tail + 1, entryCount := s.circ.entryCount - 1 } := by
  have hlt : s.circ.entryCount.toNat < 4 := hfull
  obtain ⟨hle, -, hcount⟩ := h.bounds
  have hne : s.circ.tail ≠ s.circ.head := by
    intro heq
    have htailEq := h.tail
    have hheadEq := h.head
    rw [← heq] at hheadEq
    omega
  unfold CircHeader.take
  rw [if_neg hne]

theorem unload (h : QueueInv s) {t : Nat} {e : CircEntry} (hcur : s.current = some (t, e)) {pendOk : Bool}
    (hfull : pendOk = true → s.circ.entryCount < circularBufferSize) : QueueInv (s.unload e pendOk) := by
  obtain ⟨htail, hget⟩ := h.current t e hcur
  obtain ⟨hpos, hgetElem⟩ := List.getElem?_eq_some_iff.1 hget
  obtain ⟨hle, hsize, hcount⟩ := h.bounds
  unfold IsrTrace.unload
  split
  · rename_i hok
    have hdrained := drained_write_true { s with current := none } e
    have hlen : (({ s with current := none } : IsrTrace).write true e).drained.length = s.drained.length + 1 := by
      rw [hdrained, List.length_append]
      rfl
    have hone : (1 : BitVec 32).toNat = 1 := rfl
    rw [h.take_eq hpos (hfull hok)]
    refine ⟨?_, ?_, h.head, ?_, ?_, ?_, nofun, buffers_write { s with current := none } e true h.buffers, h.dropped, h.returned⟩
    · show (({ s with current := none } : IsrTrace).write true e).drained <+: s.accepted
      rw [hdrained]
      obtain ⟨rest, hrest⟩ := h.fifo
      rw [← hrest, List.getElem?_append_right (Nat.le_refl _), Nat.sub_self] at hget
      cases rest with
      | nil => cases hget
      | cons x rest =>
        cases hget
        exact ⟨rest, by rw [← hrest, List.append_assoc]; rfl⟩
    · show Window 4 0 s.slots s.accepted (({ s with current := none } : IsrTrace).write true e).drained.length
      rw [hlen]
      exact h.window.skip (by omega) hpos
    · show (s.circ.tail + 1).toNat % 4 = (({ s with current := none } : IsrTrace).write true e).drained.length % 4
      have htailEq := h.tail
      rw [hlen, BitVec.toNat_add, hone]
      omega
    · show (s.circ.tail + 1).toNat ≤ 4
      rw [BitVec.toNat_add, hone]
      omega
    · show (s.circ.entryCount - 1).toNat =
        s.accepted.length - (({ s with current := none } : IsrTrace).write true e).drained.length
      rw [hlen, BitVec.toNat_sub, hone, hcount]
      omega
  · exact ⟨h.fifo, h.window, h.head, h.tail, h.tail_le, h.count, nofun, h.buffers, h.dropped, h.returned⟩

theorem drainFinish (h : QueueInv s) {t : Nat} {e : CircEntry} (hcur : s.current = some (t, e)) {pendOk : Bool}
    (hfull : pendOk = true → s.circ.entryCount < circularBufferSize) : QueueInv (s.drainFinish t e pendOk) := by
  have hunload := h.unload hcur hfull
  unfold IsrTrace.drainFinish
  dsimp only
  split
  · exact hunload
  · exact hunload.finish t ‹_›

theorem next (h : QueueInv s) {fullHash : BitVec 32} {e : TraceEvent} (hok : DrainOk s e) (hs : s.next fullHash e = some s') :
    QueueInv s' := by
  cases e with
  | isrCall c pendOk =>
    dsimp only [IsrTrace.next] at hs
    split at hs
    · cases hs
    · cases hs
      exact h.isrCall c pendOk
  | threadCall t c pendOk =>
    dsimp only [IsrTrace.next] at hs
    split at hs
    · cases hs
      exact h.threadCall t c pendOk
    · cases hs
  | threadCheck t pendOk =>
    dsimp only [IsrTrace.next] at hs
    split at hs
    · cases hs
      exact h.threadCheck fullHash t _ pendOk
    · cases hs
  | drainCopy t =>
    dsimp only [IsrTrace.next] at hs
    split at hs
    · cases hs
      exact h.drainCopy t hok
    · cases hs
  | drainFinish t pendOk =>
    dsimp only [IsrTrace.next] at hs
    split at hs
    · rename_i t' e hcur
      split at hs
      · rename_i ht
        subst ht
        cases hs
        exact h.drainFinish hcur hok
      · cases hs
    · cases hs

end QueueInv

/-- In a run in which entries are unloaded only while there are some, and written only while the circular buffer is not full,
every entry of it is written once, in order. -/
theorem run_queueLaw {fullHash : BitVec 32} {s : IsrTrace} {es : List TraceEvent}
    (h : Run (Guarded DrainOk (StepOf (IsrTrace.next fullHash))) .init es s) : QueueLaw s :=
  (h.invariant (P := QueueInv) (fun _ _ _ hs he => hs.next he.1 he.2) queueInv_init).law

/-- Two traces in interrupt context, and a thread that drains them. -/
def drainRun : List TraceEvent :=
  [.isrCall oneArgument false, .isrCall oneArgument false, .threadCall 0 oneArgument true, .threadCheck 0 true, .drainCopy 0,
    .drainFinish 0 true, .drainCopy 0, .isrCall oneArgument false, .drainFinish 0 true, .drainCopy 0, .drainFinish 0 true]

theorem run_queueLaw_drain : ∃ s, exec (IsrTrace.next 0) .init drainRun = some s ∧ s.accepted.length = 3 ∧ s.returned = [0] ∧
    QueueLaw s :=
  ⟨_, rfl, rfl, rfl, @run_queueLaw 0 _ drainRun (run_guarded_of_exec rfl)⟩

/-- The circular buffer is full when a thread drains it. -/
def fullRun : List TraceEvent :=
  List.replicate 4 (.isrCall oneArgument false) ++
    [.threadCall 0 oneArgument true, .threadCheck 0 true, .drainCopy 0, .drainFinish 0 true]

/-- Three entries are lost. -/
theorem not_queueLaw_full : ∃ s, exec (IsrTrace.next 0) .init fullRun = some s ∧ s.dropped = [] ∧ s.returned = [3] ∧ ¬QueueLaw s :=
  ⟨_, rfl, rfl, rfl, fun h => absurd (h.returned 3 List.mem_cons_self) (by decide)⟩

/-- A trace in interrupt context, and thread 0 that drains it. -/
def onceRun : List TraceEvent :=
  [.isrCall oneArgument false, .threadCall 0 oneArgument true, .threadCheck 0 true, .drainCopy 0, .drainFinish 0 true]

/-- All slots have been used; then two threads look whether there is something to drain, and one of them drains it. -/
def twiceRun : List TraceEvent :=
  onceRun ++ onceRun ++ onceRun ++ onceRun ++
    [.isrCall oneArgument false, .threadCall 0 oneArgument true, .threadCall 1 oneArgument true, .threadCheck 0 true,
      .threadCheck 1 true, .drainCopy 0, .drainFinish 0 true, .drainCopy 1, .drainFinish 1 true]

theorem not_queueLaw_twice : ∃ s, exec (IsrTrace.next 0) .init twiceRun = some s ∧ s.accepted.length = 5 ∧
    s.drained.length = 6 ∧ ¬QueueLaw s :=
  ⟨_, rfl, rfl, rfl, fun h => absurd h.fifo.length_le (by decide)⟩

end Occ.Trac
