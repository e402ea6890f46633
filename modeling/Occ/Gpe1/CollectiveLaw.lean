/-
Access to all memory buffers against access to each: what a collective call leaves in the registers, the result and the
configuration, for every failing part of the hardware, and over runs of calls.
-/
import Occ.Gpe1.Collective
import Occ.Lib.Transition

namespace Occ.Gpe1

open Transition

/-! ## The memory buffers of a call -/

inductive Command
  | getVector
  | putAll (data : BitVec 64)
  | rmwAll (mask data : BitVec 64)

/-- A call, the hardware while it runs and the caller's buffer before. -/
structure Call where
  command : Command
  scom : BitVec 32
  bus : Bus
  out : Nat → BitVec 64

namespace Call

/-- The state and the buffer after a call. -/
def exec (m : Membufs) (c : Call) : Membufs × (Nat → BitVec 64) :=
  match c.command with
  | .getVector =>
    let k := membufGetScomVector c.bus m c.scom c.out
    (k.m, k.out)
  | .putAll data => ((membufPutScomAll c.bus m c.scom data).m, c.out)
  | .rmwAll mask data => ((membufScomRmwAll c.bus m c.scom mask data).m, c.out)

def next (m : Membufs) (c : Call) : Option Membufs := some (c.exec m).1

/-- The memory buffer is one of the type's and configured. -/
def Chosen (m : Membufs) (i : Nat) : Prop := i < m.cfg.membufType.maxMb ∧ m.cfg.configured i = true

instance (m : Membufs) (i : Nat) : Decidable (Chosen m i) := inferInstanceAs (Decidable (_ ∧ _))

/-- The memory buffer is accessed. -/
def Reaches (m : Membufs) (c : Call) (i : Nat) : Prop := Chosen m i ∧ c.bus.sets i

instance (m : Membufs) (c : Call) (i : Nat) : Decidable (c.Reaches m i) := inferInstanceAs (Decidable (_ ∧ _))

/-- An access of the command fails at the memory buffer. -/
def accessFails (c : Call) (i : Nat) : Bool :=
  match c.command with
  | .getVector => (c.bus.read i).fails
  | .putAll _ => (c.bus.write i).fails
  | .rmwAll _ _ => (c.bus.read i).fails || (c.bus.write i).fails

/-- The memory buffer is accessed and an access fails. -/
def Fails (m : Membufs) (c : Call) (i : Nat) : Prop := c.Reaches m i ∧ c.accessFails i = true

instance (m : Membufs) (c : Call) (i : Nat) : Decidable (c.Fails m i) := inferInstanceAs (Decidable (_ ∧ _))

end Call

/-! ## The law of a call -/

/-- What a call does, memory buffer by memory buffer. -/
structure CollectiveLaw (m : Membufs) (c : Call) : Prop where
  /-- a value that is read is in the byte order of the caller -/
  got : c.command = .getVector → ∀ i, c.Reaches m i → c.accessFails i = false →
    (c.exec m).2 i = m.cfg.membufType.swap (m.regs i (regAddr m.cfg c.scom i))
  zero : c.command = .getVector → ∀ i, i < m.cfg.membufType.maxMb → ¬ (c.Reaches m i ∧ c.accessFails i = false) → (c.exec m).2 i = 0
  /-- a value that is written is in the byte order of the memory buffer -/
  put : ∀ data, c.command = .putAll data → ∀ i, c.Reaches m i → c.accessFails i = false →
    (c.exec m).1.regs i (regAddr m.cfg c.scom i) = m.cfg.membufType.swap data
  modified : ∀ mask data, c.command = .rmwAll mask data → ∀ i, c.Reaches m i → c.accessFails i = false →
    m.cfg.membufType.swap ((c.exec m).1.regs i (regAddr m.cfg c.scom i)) =
      m.cfg.membufType.swap (m.regs i (regAddr m.cfg c.scom i)) &&& ~~~mask ||| data
  configured : ∀ i, (c.exec m).1.cfg.configured i = true ↔ m.cfg.configured i = true ∧ ¬ c.Fails m i
  noneAgain : NoneAgain (c.exec m).1.log

/-- The memory buffers below a position that are configured and can be reached. -/
def reachedBefore (m : Membufs) (c : Call) (i : Nat) : Nat :=
  (List.range i).countP fun j => m.cfg.configured j = true ∧ c.bus.sets j

/-- A call meets the condition: a read that fails after something else has failed leaves nothing in the variable, and a
written value either needs no conversion, looks the same in both byte orders, or goes to memory buffers of which each
comes after an even number of others. -/
def CollectiveOk (m : Membufs) (c : Call) : Prop :=
  match c.command with
  | .getVector => ∀ i, c.Fails m i → EarlierFailure c.bus m i →
      ∀ left, c.bus.read i = .failed left → left = 0
  | .putAll data => m.cfg.membufType = .centaur ∨ swapU64 data = data ∨
      ∀ i, c.Reaches m i → c.accessFails i = false → Even (reachedBefore m c i)
  | .rmwAll _ _ => True

/-! ## The law holds exactly when the condition does -/

variable {m : Membufs} {c : Call}

theorem exec_logInv (c : Call) (h : LogInv m) : LogInv (c.exec m).1 := by
  unfold Call.exec
  cases c.command with
  | getVector => exact @logInv_sweep _ _ GetState.m _ _ (fun _ _ => getStep_logInv) h
  | putAll data => exact @logInv_sweep _ _ PutState.m _ _ (fun _ _ => putStep_logInv) h
  | rmwAll mask data => exact @logInv_sweep _ _ RmwState.m _ _ (fun _ _ => rmwStep_logInv) h

theorem run_logInv {calls : List Call} {m₀ : Membufs} (h : Run (StepOf Call.next) m₀ calls m) (h₀ : m₀.log = []) : LogInv m := by
  refine h.invariant (P := LogInv) ?_ ⟨by simp [h₀, NoneAgain], by simp [h₀]⟩
  rintro s c t hs ht
  cases ht
  exact exec_logInv c hs

theorem Outcome.fails_eq_false {o : Outcome} : o.fails = false ↔ o = .done := by
  cases o <;> simp [Outcome.fails]

theorem exec_configured (i : Nat) : (c.exec m).1.cfg.configured i = true ↔ m.cfg.configured i = true ∧ ¬ c.Fails m i := by
  simp only [Call.Fails, Call.Reaches, Call.Chosen, Call.accessFails, Call.exec]
  cases c.command with
  | getVector =>
    simp only [getVector_configured]
    grind
  | putAll data =>
    simp only [putAll_configured]
    grind
  | rmwAll mask data =>
    simp only [rmwAll_configured]
    grind

theorem collectiveLaw_getVector_iff (hcmd : c.command = .getVector) (hlog : LogInv m) : CollectiveLaw m c ↔ CollectiveOk m c := by
  have hexec : c.exec m = ((membufGetScomVector c.bus m c.scom c.out).m, (membufGetScomVector c.bus m c.scom c.out).out) := by
    simp only [Call.exec, hcmd]
  simp only [CollectiveOk, hcmd]
  constructor
  · rintro h i ⟨⟨⟨hi, hc⟩, hs⟩, hfails⟩ hearlier left hleft
    have hzero := h.zero hcmd i hi fun hdone => by simp [hdone.2] at hfails
    rw [hexec] at hzero
    exact (getVector_out_of_fails hi hc hs hleft).mp hzero hearlier
  · intro hok
    refine ⟨fun _ => ?_, fun _ => ?_, by simp [hcmd], by simp [hcmd], exec_configured, (exec_logInv c hlog).noneAgain⟩
    · rintro i ⟨⟨hi, hc⟩, hs⟩ hdone
      simp only [Call.accessFails, hcmd, Outcome.fails_eq_false] at hdone
      rw [hexec]
      exact getVector_out_of_done hi hc hs hdone
    · rintro i hi hnot
      rw [hexec]
      by_cases hreach : m.cfg.configured i = true ∧ c.bus.sets i
      · obtain ⟨hc, hs⟩ := hreach
        cases ho : c.bus.read i with
        | done =>
          have hdone : c.accessFails i = false := by simp only [Call.accessFails, hcmd, ho, Outcome.fails]
          exact absurd ⟨⟨⟨hi, hc⟩, hs⟩, hdone⟩ hnot
        | failed left =>
          have hfails : c.accessFails i = true := by simp only [Call.accessFails, hcmd, ho, Outcome.fails]
          apply (getVector_out_of_fails hi hc hs ho).mpr
          intro hearlier
          exact hok i ⟨⟨⟨hi, hc⟩, hs⟩, hfails⟩ hearlier left ho
      · exact getVector_out_of_not hi hreach

theorem collectiveLaw_putAll_iff {data : BitVec 64} (hcmd : c.command = .putAll data) (hlog : LogInv m) :
    CollectiveLaw m c ↔ CollectiveOk m c := by
  have hexec : (c.exec m).1 = (membufPutScomAll c.bus m c.scom data).m := by
    simp only [Call.exec, hcmd]
  have hregs : ∀ i, c.Reaches m i → c.accessFails i = false → (c.exec m).1.regs i (regAddr m.cfg c.scom i) =
      m.cfg.membufType.swap (if Even (reachedBefore m c i) then data else m.cfg.membufType.swap data) := by
    rintro i ⟨⟨hi, hc⟩, hs⟩ hdone
    simp only [Call.accessFails, hcmd, Outcome.fails_eq_false] at hdone
    rw [hexec, putAll_regs hi hc hs hdone]
    rfl
  simp only [CollectiveOk, hcmd]
  constructor
  · intro h
    by_cases htype : m.cfg.membufType = .centaur
    · exact .inl htype
    by_cases hsame : swapU64 data = data
    · exact .inr (.inl hsame)
    refine .inr (.inr fun i hreach hdone => ?_)
    by_contra hodd
    have hput := h.put data hcmd i hreach hdone
    rw [hregs i hreach hdone, if_neg hodd, MemType.swap_swap] at hput
    simp only [MemType.swap, if_neg htype] at hput
    exact hsame hput.symm
  · intro hok
    refine ⟨by simp [hcmd], by simp [hcmd], ?_, by simp [hcmd], exec_configured, (exec_logInv c hlog).noneAgain⟩
    intro data' hcmd' i hreach hdone
    cases hcmd.symm.trans hcmd'
    rw [hregs i hreach hdone]
    split
    · rfl
    · rename_i hodd
      rw [MemType.swap_swap]
      rcases hok with htype | hsame | heven
      · simp [MemType.swap, htype]
      · simp [MemType.swap, hsame]
      · exact absurd (heven i hreach hdone) hodd

theorem collectiveLaw_rmwAll {mask data : BitVec 64} (hcmd : c.command = .rmwAll mask data) (hlog : LogInv m) : CollectiveLaw m c := by
  have hexec : (c.exec m).1 = (membufScomRmwAll c.bus m c.scom mask data).m := by
    simp only [Call.exec, hcmd]
  refine ⟨by simp [hcmd], by simp [hcmd], by simp [hcmd], ?_, exec_configured, (exec_logInv c hlog).noneAgain⟩
  rintro mask' data' hcmd' i ⟨⟨hi, hc⟩, hs⟩ hdone
  cases hcmd.symm.trans hcmd'
  simp only [Call.accessFails, hcmd, Bool.or_eq_false_iff, Outcome.fails_eq_false] at hdone
  rw [hexec, rmwAll_regs hi hc hs hdone.1 hdone.2, MemType.swap_swap]

/-- After any run of calls, a call does what it says at every memory buffer exactly when it meets its condition. -/
theorem collectiveLaw_iff {calls : List Call} {m₀ : Membufs} (h : Run (StepOf Call.next) m₀ calls m) (h₀ : m₀.log = [])
    (c : Call) : CollectiveLaw m c ↔ CollectiveOk m c := by
  have hlog := run_logInv h h₀
  cases hcmd : c.command with
  | getVector => exact collectiveLaw_getVector_iff hcmd hlog
  | putAll data => exact collectiveLaw_putAll_iff hcmd hlog
  | rmwAll mask data =>
    have hok : CollectiveOk m c := by simp only [CollectiveOk, hcmd]
    exact ⟨fun _ => hok, fun _ => collectiveLaw_rmwAll hcmd hlog⟩

/-- Two OCMBs on a bus without failures. -/
def twoOcmbs : Membufs where
  cfg := ⟨fun i => BitVec.ofNat 64 i <<< 40, .ocmb, 0xC000⟩
  bar := 0
  regs := fun _ _ => 0
  log := []

def soundBus : Bus := ⟨fun _ => 0, fun _ => 0, fun _ => .done, fun _ => .done⟩

theorem collectiveLaw_iff_twoOcmbs :
    CollectiveLaw twoOcmbs ⟨.rmwAll 0xff 0x12, 8, soundBus, fun _ => 0⟩ ↔
      CollectiveOk twoOcmbs ⟨.rmwAll 0xff 0x12, 8, soundBus, fun _ => 0⟩ :=
  collectiveLaw_iff (.nil twoOcmbs) rfl _

/-- The second OCMB gets the value in the wrong byte order, and after two failed reads an entry keeps what was loaded. -/
theorem collectiveLaw_fails :
    ¬ CollectiveLaw twoOcmbs ⟨.putAll 0x12, 8, soundBus, fun _ => 0⟩ ∧
      ¬ CollectiveLaw twoOcmbs ⟨.getVector, 8, { soundBus with read := fun _ => .failed 1 }, fun _ => 0⟩ := by
  have hlog : LogInv twoOcmbs := ⟨List.Pairwise.nil, fun _ h => absurd h (List.not_mem_nil)⟩
  constructor
  · intro h
    rcases (collectiveLaw_putAll_iff rfl hlog).mp h with htype | hsame | heven
    · exact absurd htype (by decide)
    · exact absurd hsame (by decide)
    · exact absurd (heven 1 (by decide) rfl) (by decide)
  · intro h
    have hok := (collectiveLaw_getVector_iff rfl hlog).mp h
    exact absurd (hok 1 (by decide) ⟨0, by decide, by decide, by decide⟩ 1 rfl) (by decide)

end Occ.Gpe1
