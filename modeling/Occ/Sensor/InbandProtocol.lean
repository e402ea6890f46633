/-
The in-band command protocol: a command is executed once for each time its sequence number was accepted,
from a buffer that a copy filled, there is one request at most, and a response copy that ends while the
handler waits for it raises one interrupt. The engine's interrupt must not come where the tick has read
the state and goes on to overwrite it.
-/
import Occ.Sensor.Inband
import Occ.Lib.Transition
import Mathlib

namespace Occ.Sensor

open Occ Transition

/-- The states that the tick can find where it is. -/
def PcOk (k : Inband) : Prop :=
  match k.pc with
  | .idle | .checkState | .checkScheduled | .testStart | .testInt | .rspScheduled => True
  | .checkClear | .checkSet => k.state = .none ∨ k.state = .invalidBceCallback
  | .checkIdle | .checkSchedule => k.state = .checkForCmd
  | .checkFail => k.state ≠ .rspInt ∧ k.state ≠ .rspReady
  | .testCheck | .testReady | .timeout => k.state ≠ .rspInt
  | .testInvalid | .reset => k.state ≠ .rspInt ∧ k.state ≠ .rspReady
  | .execute | .rspSet => k.state = .start
  | .rspIdle | .rspSchedule | .rspFail => k.state = .rspReady
  | .notify | .notified => k.state = .rspInt
  | .wait => k.state = .rspInt → (k.wait + 1) % 2 ^ 8 ≠ maxTicsWait

/-- Where the tick is when no request is outstanding. -/
def ClearPc (pc : InbandPc) : Prop := pc = .checkSchedule ∨ pc = .rspIdle ∨ pc = .rspSchedule ∨ pc = .rspFail

/-- The interrupt for the last response is still to be raised. -/
def pendingInt (k : Inband) : Nat := if k.state = .rspInt ∧ k.pc ≠ .notified then 1 else 0

/-- The commands: each one executed was accepted, and is in the buffer as it was copied. -/
structure HistoryOk (k : Inband) : Prop where
  first : k.processedOne = false → k.accepted = []
  last : k.processedOne = true → k.accepted.head? = some k.lastSeq
  chain : k.accepted.IsChain (· ≠ ·)
  sublist : (k.executed.map Prod.fst).Sublist k.accepted
  fromCopy : ∀ e ∈ k.executed, e.2 = true
  /-- a buffer that no copy filled is not ready -/
  ready : k.copied = false → k.minBuf.flags &&& cmdReadyMask ≠ cmdReadyMask

/-- A command that was accepted and not executed yet. -/
def Fresh (k : Inband) : Prop :=
  k.copied = true ∧ ∃ rest, k.accepted = k.minBuf.seq :: rest ∧ (k.executed.map Prod.fst).Sublist rest

/-- The state, the requests and the interrupts. -/
structure ControlOk (k : Inband) : Prop where
  one : k.inFlight.length ≤ 1
  scheduled : k.reqScheduled = false → k.inFlight = [] ∨ k.pc = .checkScheduled ∨ k.pc = .rspScheduled
  /-- the request that the handler waits for is the response's -/
  waitsFor : k.state = .rspReady → ∀ c ∈ k.inFlight, c = .rsp
  pcOk : PcOk k
  clear : k.state = .start ∨ k.state = .rspInt ∨ ClearPc k.pc → k.inFlight = []
  fresh : k.state = .start → k.pc ≠ .rspSet → Fresh k
  count : k.rspAwaited = k.interrupts + pendingInt k

def InbandInv (k : Inband) : Prop := HistoryOk k ∧ ControlOk k

/-- A request does not end between the check's change of the state and its test of the request, and a
response's does not end between the handler's test for it and the end of the handler. -/
def EndOk (k : Inband) : InbandEvent → Prop
  | .complete _ => k.pc ≠ .checkIdle ∧ (k.state = .rspReady →
      k.pc ≠ .testCheck ∧ k.pc ≠ .testReady ∧ k.pc ≠ .timeout ∧
        (k.pc = .wait → (k.wait + 1) % 2 ^ 8 ≠ maxTicsWait))
  | _ => True

instance (k : Inband) (e : InbandEvent) : Decidable (EndOk k e) := by
  cases e <;> unfold EndOk <;> infer_instance

section Steps

variable {k k' : Inband}

theorem pendingInt_eq_zero (h : k.state ≠ .rspInt ∨ k.pc = .notified) : pendingInt k = 0 := by
  unfold pendingInt
  rcases h with h | h <;> simp [h]

theorem ControlOk.quiet (h : ControlOk k) (hs : k.state ≠ .rspInt) (hs' : k'.state ≠ .rspInt)
    (ha : k'.rspAwaited = k.rspAwaited) (hi : k'.interrupts = k.interrupts) :
    k'.rspAwaited = k'.interrupts + pendingInt k' := by
  have := h.count
  rw [pendingInt_eq_zero (.inl hs)] at this
  rw [pendingInt_eq_zero (.inl hs'), ha, hi]
  exact this

theorem ControlOk.idle (h : ControlOk k) (hi : k.isBceReqIdle = true)
    (hpc : k.pc ≠ .checkScheduled ∧ k.pc ≠ .rspScheduled) : k.inFlight = [] := by
  unfold Inband.isBceReqIdle at hi
  rw [Bool.or_eq_true, Bool.not_eq_true', List.isEmpty_iff] at hi
  rcases hi with hi | hi
  · rcases h.scheduled hi with h | h | h
    · exact h
    · exact absurd h hpc.1
    · exact absurd h hpc.2
  · exact hi

theorem ControlOk.sched (h : ControlOk k) (hpc : k.pc ≠ .checkScheduled ∧ k.pc ≠ .rspScheduled) {pc : InbandPc}
    (hs : k.reqScheduled = false) : k.inFlight = [] ∨ pc = .checkScheduled ∨ pc = .rspScheduled := by
  rcases h.scheduled hs with h | h | h
  · exact .inl h
  · exact absurd h hpc.1
  · exact absurd h hpc.2

theorem ControlOk.moved (h : ControlOk k) {pc : InbandPc} {wait : Nat} (hok : PcOk { k with pc := pc, wait := wait })
    (hpc : k.pc ≠ .checkScheduled ∧ k.pc ≠ .rspScheduled ∧ k.pc ≠ .notified ∧ k.pc ≠ .rspSet)
    (hpc' : pc ≠ .notified) (hclear : ClearPc pc → k.inFlight = []) : ControlOk { k with pc := pc, wait := wait } where
  one := h.one
  scheduled := h.sched ⟨hpc.1, hpc.2.1⟩
  waitsFor := h.waitsFor
  pcOk := hok
  clear := by
    rintro (hs | hs | hs)
    · exact h.clear (.inl hs)
    · exact h.clear (.inr (.inl hs))
    · exact hclear hs
  fresh := fun hs _ => h.fresh hs hpc.2.2.2
  count := by
    have := h.count
    simp only [pendingInt, hpc', hpc.2.2.1, ne_eq, not_false_eq_true, and_true] at this ⊢
    exact this

theorem ControlOk.ended (h : ControlOk k) {saved : CmdState} (hpc : k.pc ≠ .checkScheduled ∧ k.pc ≠ .rspScheduled)
    (hp : pendingInt k = 0) : ControlOk { k with pc := .idle, state := .none, savedState := saved } where
  one := h.one
  scheduled := h.sched hpc
  waitsFor := by simp
  pcOk := trivial
  clear := by simp [ClearPc]
  fresh := by simp
  count := by
    have := h.count
    rw [hp] at this
    exact this

/-- A request is scheduled, when there is none. -/
theorem ControlOk.push (h : ControlOk k) {c : BceCopy} {pc : InbandPc} (hnil : k.inFlight = [])
    (hpc : k.pc = .checkSchedule ∧ pc = .checkScheduled ∨ k.pc = .rspSchedule ∧ pc = .rspScheduled ∧ c = .rsp) :
    ControlOk { k with pc := pc, inFlight := c :: k.inFlight } := by
  have hok := h.pcOk
  unfold PcOk at hok
  have hst : k.state = .checkForCmd ∨ k.state = .rspReady := by
    rcases hpc with ⟨h, -⟩ | ⟨h, -⟩ <;> rw [h] at hok
    · exact .inl hok
    · exact .inr hok
  refine ⟨by simp [hnil], fun _ => .inr ?_, fun hs => ?_, ?_, ?_, fun hs => ?_, ?_⟩
  · rcases hpc with ⟨-, rfl⟩ | ⟨-, rfl, -⟩ <;> simp
  · rcases hpc with ⟨hpc, -⟩ | ⟨-, -, rfl⟩
    · rw [hpc] at hok
      exact absurd (hok.symm.trans hs) (by decide)
    · simp [hnil]
  · unfold PcOk
    rcases hpc with ⟨-, rfl⟩ | ⟨-, rfl, -⟩ <;> trivial
  · rcases hpc with ⟨-, rfl⟩ | ⟨-, rfl, -⟩ <;> rcases hst with hst | hst <;> simp [ClearPc, hst]
  · rcases hst with hst | hst <;> rw [show k.state = .start from hs] at hst <;> cases hst
  · have := h.count
    rcases hst with hst | hst <;> simpa [pendingInt, hst] using this

theorem ControlOk.marked (h : ControlOk k) (hpc : k.pc = .checkScheduled ∨ k.pc = .rspScheduled) :
    ControlOk { k with pc := .idle, reqScheduled := true } where
  one := h.one
  scheduled := by simp
  waitsFor := h.waitsFor
  pcOk := trivial
  clear := by
    rintro (hs | hs | hs)
    · exact h.clear (.inl hs)
    · exact h.clear (.inr (.inl hs))
    · simp [ClearPc] at hs
  fresh := fun hs _ => h.fresh hs (by rcases hpc with h | h <;> simp [h])
  count := by
    have := h.count
    rcases hpc with hpc | hpc <;> simpa [pendingInt, hpc] using this

theorem ControlOk.tick (h : ControlOk k) (ok : Bool) (result : Nat × List (BitVec 8)) : ControlOk (k.tick ok result) := by
  have hok := h.pcOk
  unfold Inband.tick
  unfold PcOk at hok
  cases hpc : k.pc <;> simp only [hpc] at hok ⊢
  case idle => exact h
  case checkState =>
    split
    · rename_i hs
      exact h.moved (.inl hs) (by simp [hpc]) (by simp) (by simp [ClearPc])
    · exact h.moved trivial (by simp [hpc]) (by simp) (by simp [ClearPc])
  case checkClear =>
    have hs : k.state ≠ .start := by rcases hok with hok | hok <;> simp [hok]
    have hr : k.state ≠ .rspInt := by rcases hok with hok | hok <;> simp [hok]
    refine ⟨h.one, h.sched (by simp [hpc]), h.waitsFor, hok, ?_, fun h => absurd h hs, ?_⟩
    · simp [ClearPc, hs, hr]
    · exact h.quiet hr hr rfl rfl
  case checkSet =>
    have hr : k.state ≠ .rspInt := by rcases hok with hok | hok <;> simp [hok]
    exact ⟨h.one, h.sched (by simp [hpc]), by simp, rfl, by simp [ClearPc], by simp, h.quiet hr (by simp) rfl rfl⟩
  case checkIdle =>
    split
    · rename_i hi
      have hnil := h.idle hi (by simp [hpc])
      have hr : k.state ≠ .rspInt := by simp [hok]
      exact ⟨h.one, fun _ => .inl hnil, h.waitsFor, hok, fun _ => hnil, fun hs _ => h.fresh hs (by simp [hpc]), h.quiet hr hr rfl rfl⟩
    · exact h.moved (by simp [PcOk, hok]) (by simp [hpc]) (by simp) (by simp [ClearPc])
  case checkSchedule =>
    split
    · exact h.push (h.clear (.inr (.inr (.inl hpc)))) (.inl ⟨hpc, rfl⟩)
    · exact h.moved (by simp [PcOk, hok]) (by simp [hpc]) (by simp) (by simp [ClearPc])
  case checkScheduled => exact h.marked (by simp [hpc])
  case checkFail =>
    exact h.ended (by simp [hpc]) (pendingInt_eq_zero (.inl hok.1))
  case testStart =>
    split
    · rename_i hs
      exact h.moved hs (by simp [hpc]) (by simp) (by simp [ClearPc])
    · exact h.moved trivial (by simp [hpc]) (by simp) (by simp [ClearPc])
  case testInt =>
    split
    · rename_i hs
      exact h.moved hs (by simp [hpc]) (by simp) (by simp [ClearPc])
    · rename_i hs
      exact h.moved hs (by simp [hpc]) (by simp) (by simp [ClearPc])
  case testCheck =>
    split
    · rename_i hs
      exact h.moved (by simp [PcOk, hs]) (by simp [hpc]) (by simp) (by simp [ClearPc])
    · exact h.moved hok (by simp [hpc]) (by simp) (by simp [ClearPc])
  case testReady =>
    split
    · rename_i hs
      exact h.moved (by simp [PcOk, hs]) (by simp [hpc]) (by simp) (by simp [ClearPc])
    · rename_i hs
      exact h.moved ⟨hok, hs⟩ (by simp [hpc]) (by simp) (by simp [ClearPc])
  case testInvalid =>
    split
    · exact h.ended (by simp [hpc]) (pendingInt_eq_zero (.inl hok.1))
    · exact h.moved hok (by simp [hpc]) (by simp) (by simp [ClearPc])
  case execute =>
    have hnil := h.clear (.inl hok)
    have hr : k.state ≠ .rspInt := by simp [hok]
    exact ⟨h.one, fun _ => .inl hnil, h.waitsFor, hok, fun _ => hnil, fun _ hne => absurd rfl hne, h.quiet hr hr rfl rfl⟩
  case rspSet =>
    have hnil := h.clear (.inl hok)
    have hr : k.state ≠ .rspInt := by simp [hok]
    exact ⟨h.one, fun _ => .inl hnil, by simp [hnil], rfl, fun _ => hnil, by simp, h.quiet hr (by simp) rfl rfl⟩
  case rspIdle =>
    have hnil := h.clear (.inr (.inr (.inr (.inl hpc))))
    split
    · exact h.moved hok (by simp [hpc]) (by simp) (fun _ => hnil)
    · split
      · have hr : k.state ≠ .rspInt := by simp [hok]
        exact ⟨h.one, fun _ => .inl hnil, h.waitsFor, hok, fun _ => hnil, fun hs _ => h.fresh hs (by simp [hpc]), h.quiet hr hr rfl rfl⟩
      · exact h.moved hok (by simp [hpc]) (by simp) (fun _ => hnil)
  case rspSchedule =>
    split
    · exact h.push (h.clear (.inr (.inr (.inr (.inr (.inl hpc)))))) (.inr ⟨hpc, rfl, rfl⟩)
    · exact h.moved hok (by simp [hpc]) (by simp) (fun _ => h.clear (by simp [ClearPc, hpc]))
  case rspScheduled => exact h.marked (by simp [hpc])
  case rspFail => exact h.ended (by simp [hpc]) (pendingInt_eq_zero (.inl (by simp [hok])))
  case notify =>
    have hnil := h.clear (.inr (.inl hok))
    refine ⟨h.one, fun _ => .inl hnil, h.waitsFor, hok, fun _ => hnil, fun hs _ => h.fresh hs (by simp [hpc]), ?_⟩
    have := h.count
    simp only [pendingInt, hok, hpc] at this ⊢
    exact this
  case notified => exact h.ended (by simp [hpc]) (pendingInt_eq_zero (.inr hpc))
  case wait =>
    split
    · rename_i hw
      exact h.moved (fun hs => hok hs hw) (by simp [hpc]) (by simp) (by simp [ClearPc])
    · exact h.moved trivial (by simp [hpc]) (by simp) (by simp [ClearPc])
  case timeout => exact h.ended (by simp [hpc]) (pendingInt_eq_zero (.inl hok))
  case reset => exact h.ended (by simp [hpc]) (pendingInt_eq_zero (.inl hok.1))

/-! ## The commands -/

theorem clear_not_ready : zeroCommand.flags &&& cmdReadyMask ≠ cmdReadyMask := by decide

theorem HistoryOk.tick (h : HistoryOk k) (hk : ControlOk k) (ok : Bool) (result : Nat × List (BitVec 8)) :
    HistoryOk (k.tick ok result) := by
  have hok := hk.pcOk
  unfold PcOk at hok
  unfold Inband.tick
  cases hpc : k.pc <;> simp only [hpc] at hok ⊢
  case checkClear => exact ⟨h.first, h.last, h.chain, h.sublist, h.fromCopy, fun _ => clear_not_ready⟩
  case execute =>
    obtain ⟨hcopied, rest, hacc, hsub⟩ := hk.fresh hok (by simp [hpc])
    have hnil := hk.clear (.inl hok)
    refine ⟨h.first, h.last, h.chain, ?_, ?_, h.ready⟩
    · rw [hacc]
      exact hsub.cons_cons _
    · intro e he
      rcases List.mem_cons.1 he with rfl | he
      · simp [hcopied, hnil]
      · exact h.fromCopy e he
  all_goals
    try split_ifs
    all_goals exact ⟨h.first, h.last, h.chain, h.sublist, h.fromCopy, h.ready⟩

theorem HistoryOk.bceCallback (h : HistoryOk k) : HistoryOk k.bceCallback := by
  unfold Inband.bceCallback
  split
  · split
    · rename_i hc
      refine ⟨by simp, fun _ => rfl, ?_, h.sublist.cons _, h.fromCopy, h.ready⟩
      -- a command that was processed before this one has another sequence number
      show List.IsChain (· ≠ ·) (k.minBuf.seq :: k.accepted)
      rcases hc.1 with hc | hc
      · rw [h.first (by simpa using hc)]
        exact .singleton _
      · refine h.chain.cons fun y hy => ?_
        rw [h.last hc.1, Option.mem_some_iff] at hy
        exact hy ▸ hc.2
    · exact ⟨h.first, h.last, h.chain, h.sublist, h.fromCopy, h.ready⟩
  · exact ⟨h.first, h.last, h.chain, h.sublist, h.fromCopy, h.ready⟩
  · exact ⟨h.first, h.last, h.chain, h.sublist, h.fromCopy, h.ready⟩

/-! ## The end of a request -/

theorem ControlOk.callback (h : ControlOk k) {c : BceCopy} {rest : List BceCopy} (hc : k.inFlight = c :: rest) :
    rest = [] ∧ k.state ≠ .start ∧ k.state ≠ .rspInt ∧ ¬ClearPc k.pc := by
  have hne : k.inFlight ≠ [] := by simp [hc]
  refine ⟨?_, fun hs => hne (h.clear (.inl hs)), fun hs => hne (h.clear (.inr (.inl hs))),
    fun hs => hne (h.clear (.inr (.inr hs)))⟩
  have := h.one
  rw [hc, List.length_cons] at this
  exact List.length_eq_zero_iff.1 (by omega)

theorem HistoryOk.copy (h : HistoryOk k) (c : BceCopy) (ok : Bool) : HistoryOk (k.copy c ok) := by
  unfold Inband.copy
  split
  · split
    · exact ⟨h.first, h.last, h.chain, h.sublist, h.fromCopy, fun h => absurd h (by simp)⟩
    · exact h
  · exact ⟨h.first, h.last, h.chain, h.sublist, h.fromCopy, h.ready⟩

theorem copy_state (c : BceCopy) (ok : Bool) : (k.copy c ok).state = k.state ∧ (k.copy c ok).pc = k.pc ∧
    (k.copy c ok).inFlight = k.inFlight ∧ (k.copy c ok).wait = k.wait ∧ (k.copy c ok).interrupts = k.interrupts := by
  unfold Inband.copy
  split
  · split <;> exact ⟨rfl, rfl, rfl, rfl, rfl⟩
  · exact ⟨rfl, rfl, rfl, rfl, rfl⟩

theorem copy_rspAwaited {c : BceCopy} (ok : Bool) (h : k.state = .rspReady → c = .rsp) :
    (k.copy c ok).rspAwaited = k.rspAwaited + if k.state = .rspReady then 1 else 0 := by
  unfold Inband.copy
  cases c with
  | cmd =>
    have hs : k.state ≠ .rspReady := fun hs => absurd (h hs) (by decide)
    cases ok <;> simp [hs]
  | rsp => by_cases hs : k.state = .rspReady <;> simp [hs]

theorem ControlOk.bceCallback (h : HistoryOk k) (hnil : k.inFlight = []) (hok : PcOk k)
    (hstate : k.state ≠ .start ∧ k.state ≠ .rspInt) (hclear : ¬ClearPc k.pc) (hend : EndOk k (.complete true))
    (hcount : k.rspAwaited = k.interrupts + if k.state = .rspReady then 1 else 0) : ControlOk k.bceCallback := by
  obtain ⟨hidle, hend⟩ := hend
  unfold ClearPc at hclear
  unfold PcOk at hok
  unfold Inband.bceCallback
  split
  · rename_i hs
    split
    · rename_i hc
      refine ⟨by simp [hnil], fun _ => .inl hnil, by simp, ?_, fun _ => hnil, fun _ _ => ⟨?_, ?_⟩, ?_⟩
      · unfold PcOk
        cases hpc : k.pc <;> simp_all
      · by_contra hcopied
        exact h.ready (by simpa using hcopied) hc.2
      · exact ⟨k.accepted, rfl, h.sublist⟩
      · simpa [pendingInt, hs] using hcount
    · refine ⟨by simp [hnil], fun _ => .inl hnil, by simp, ?_, fun _ => hnil, by simp, ?_⟩
      · unfold PcOk
        cases hpc : k.pc <;> simp_all
      · simpa [pendingInt, hs] using hcount
  · rename_i hs
    refine ⟨by simp [hnil], fun _ => .inl hnil, by simp, ?_, fun _ => hnil, by simp, ?_⟩
    · have := hend hs
      unfold PcOk
      cases hpc : k.pc <;> simp_all
    · have hpc : k.pc ≠ .notified := by
        intro hpc
        rw [hpc] at hok
        exact hstate.2 hok
      simpa [pendingInt, hpc, hs] using hcount
  · rename_i hs
    refine ⟨by simp [hnil], fun _ => .inl hnil, by simp, ?_, fun _ => hnil, by simp, ?_⟩
    · unfold PcOk
      cases hpc : k.pc <;> simp_all
    · rw [if_neg hs] at hcount
      exact hcount

theorem InbandInv.complete (h : InbandInv k) {c : BceCopy} {rest : List BceCopy} (hc : k.inFlight = c :: rest)
    {ok : Bool} (hend : EndOk k (.complete ok)) : InbandInv (k.complete c rest ok) := by
  obtain ⟨hnil, hstart, hint, hclear⟩ := h.2.callback hc
  have hj : HistoryOk { k with inFlight := rest } :=
    ⟨h.1.first, h.1.last, h.1.chain, h.1.sublist, h.1.fromCopy, h.1.ready⟩
  have hhist := hj.copy c ok
  obtain ⟨hs, hpc, hin, hw, hi⟩ := @copy_state { k with inFlight := rest } c ok
  refine ⟨hhist.bceCallback, ControlOk.bceCallback hhist (hin.trans hnil) ?_ ?_ ?_ ?_ ?_⟩
  · have := h.2.pcOk
    unfold PcOk at this ⊢
    rw [hpc, hs, hw]
    exact this
  · rw [hs]
    exact ⟨hstart, hint⟩
  · rw [hpc]
    exact hclear
  · unfold EndOk at hend ⊢
    rw [hpc, hs, hw]
    exact hend
  · have := h.2.count
    rw [pendingInt_eq_zero (.inl hint)] at this
    rw [copy_rspAwaited ok, hs, hi]
    · show k.rspAwaited + _ = _
      rw [this]
      rfl
    · exact fun hs => h.2.waitsFor hs c (by simp [hc])

theorem InbandInv.next {e : InbandEvent} (h : InbandInv k) (hend : EndOk k e) (hn : k.next e = some k') : InbandInv k' := by
  obtain ⟨hh, hk⟩ := h
  cases e <;> simp only [Inband.next] at hn
  case post cmd =>
    cases hn
    exact ⟨⟨hh.first, hh.last, hh.chain, hh.sublist, hh.fromCopy, hh.ready⟩,
      ⟨hk.one, hk.scheduled, hk.waitsFor, hk.pcOk, hk.clear, hk.fresh, hk.count⟩⟩
  case check =>
    split at hn
    · rename_i hpc
      cases hn
      exact ⟨⟨hh.first, hh.last, hh.chain, hh.sublist, hh.fromCopy, hh.ready⟩,
        hk.moved trivial (by simp [hpc]) (by simp) (by simp [ClearPc])⟩
    · cases hn
  case handler =>
    split at hn
    · rename_i hpc
      cases hn
      exact ⟨⟨hh.first, hh.last, hh.chain, hh.sublist, hh.fromCopy, hh.ready⟩,
        hk.moved trivial (by simp [hpc]) (by simp) (by simp [ClearPc])⟩
    · cases hn
  case tick ok result =>
    split at hn
    · cases hn
    · cases hn
      exact ⟨hh.tick hk ok result, hk.tick ok result⟩
  case complete ok =>
    split at hn
    · cases hn
    · rename_i hc
      cases hn
      exact InbandInv.complete ⟨hh, hk⟩ hc hend

theorem InbandInv.start (cmdMem : Command) (rspMem : Response) : InbandInv (.start cmdMem rspMem) := by
  refine ⟨⟨fun _ => rfl, by simp [Inband.start], .nil, List.Sublist.refl _, by simp [Inband.start], fun _ => clear_not_ready⟩,
    ⟨Nat.zero_le _, fun _ => .inl rfl, by simp [Inband.start], trivial, fun _ => rfl, by simp [Inband.start], ?_⟩⟩
  simp [Inband.start, pendingInt]

end Steps

/-! ## Runs -/

/-- The commands that were executed are among those that were accepted, each once and in their order, and
no sequence number is accepted while it is the last one that was; each was executed from a buffer whose
copy had ended. There is one request at most, and each response copy that ended while the handler waited for
it has raised one interrupt, or is about to. -/
structure InbandOk (k : Inband) : Prop where
  once : (k.executed.map Prod.fst).Sublist k.accepted
  differs : k.accepted.IsChain (· ≠ ·)
  copied : ∀ e ∈ k.executed, e.2 = true
  one : k.inFlight.length ≤ 1
  interrupts : k.rspAwaited = k.interrupts + pendingInt k

/-- In every run in which no copy ends inside a window of the tick, however late the copies end. -/
theorem run_inbandOk {k : Inband} {cmdMem : Command} {rspMem : Response} {es : List InbandEvent}
    (h : Run (Guarded EndOk (StepOf Inband.next)) (.start cmdMem rspMem) es k) : InbandOk k := by
  obtain ⟨hh, hk⟩ := h.invariant (P := InbandInv) (fun _ _ _ hk he => hk.next he.1 he.2) (InbandInv.start cmdMem rspMem)
  exact ⟨hh.sublist, hh.chain, hh.fromCopy, hk.one, hk.count⟩

/-- A command that the host posts. -/
def clearSensors : Command := ⟨0x80, 7, 0xD0, 0, []⟩

def zeroResponse : Response := ⟨0, 0, 0, 0, []⟩

def ticks (n : Nat) : List InbandEvent := List.replicate n (.tick true (0, []))

/-- The command is checked for, copied and executed; the copy of its response is scheduled. -/
def executeRun : List InbandEvent :=
  .post clearSensors :: .check :: ticks 6 ++ .complete true :: .handler :: ticks 6

/-- The copy ends, and the next handler notifies the host. -/
def notifyRun : List InbandEvent := executeRun ++ .complete true :: .handler :: ticks 4

theorem run_inbandOk_notify : ∃ k, exec Inband.next (.start zeroCommand zeroResponse) notifyRun = some k ∧
    InbandOk k ∧ k.executed = [(7, true)] ∧ k.interrupts = 1 := by
  refine ⟨_, rfl, @run_inbandOk _ zeroCommand zeroResponse notifyRun ?_, by decide, by decide⟩
  exact run_guarded_of_exec rfl

/-- The handler waits three times for the copy of the response, gives up, and the copy ends. -/
def lateRun : List InbandEvent :=
  executeRun ++ .handler :: ticks 5 ++ .handler :: ticks 5 ++ .handler :: ticks 6 ++ .complete true :: .handler :: ticks 5

theorem not_interrupt_late : ∃ k, exec Inband.next (.start zeroCommand zeroResponse) lateRun = some k ∧
    k.executed = [(7, true)] ∧ k.rspEnded = 1 ∧ k.interrupts = 0 ∧ k.state = .none ∧ k.pc = .idle := by
  refine ⟨_, rfl, ?_⟩
  decide

end Occ.Sensor
