/-
`notify_host` (`common.c`): the one external interrupt to the host carries one reason at a time; reasons
that cannot be sent yet are kept as bits.

The I2C engines' locks (`lock.c`): for each engine the OCC's flag register has a bit that the host sets to
ask for the lock and one that the OCC sets while it owns it. The host can write and read the register
between any two accesses of the OCC.
-/
import Mathlib.Tactic.Common
import Mathlib.Logic.Function.Basic

namespace Occ.Dimm

/-- `INTR_REASON_OPAL_SHARED_MEM_CHANGE`, `INTR_REASON_I2C_OWNERSHIP_CHANGE` and
`INTR_REASON_HTMGT_SERVICE_REQUIRED`, a bit each. -/
def opalSharedMemChange : BitVec 8 := 0x01
def i2cOwnershipChange : BitVec 8 := 0x02
def htmgtServiceRequired : BitVec 8 := 0x04

/-- The interrupt's part of `OCCMISC`, and `G_host_notifications_pending`. -/
structure HostIntr where
  coreExtIntr : Bool
  /-- the reason's bits; one at most is set -/
  reason : BitVec 8
  pending : BitVec 8
  /-- history: the interrupts that were raised for an ownership change -/
  i2cSent : Nat
deriving DecidableEq, Repr

namespace HostIntr

variable (n : HostIntr)

/-- The outstanding reason of the highest priority. -/
def highest (outstanding i_reason : BitVec 8) : BitVec 8 :=
  if outstanding &&& opalSharedMemChange ≠ 0 then opalSharedMemChange
  else if outstanding &&& htmgtServiceRequired ≠ 0 then htmgtServiceRequired
  else if outstanding &&& i2cOwnershipChange ≠ 0 then i2cOwnershipChange
  else i_reason

/-- The reason that is sent now, if one can be. -/
def notifyReason (i_reason : BitVec 8) : BitVec 8 :=
  if n.pending = 0 then i_reason else highest (n.pending ||| i_reason) i_reason

/-- `notify_host`: whether the interrupt was raised, and what is left. -/
def notifyHost (i_reason : BitVec 8) : Bool × HostIntr :=
  let r := n.notifyReason i_reason
  if r ≠ htmgtServiceRequired ∧ r ≠ i2cOwnershipChange ∧ r ≠ opalSharedMemChange then (false, n)
  else if n.coreExtIntr = false then
    (true,
      { coreExtIntr := true
        reason := r
        pending := n.pending &&& ~~~r
        i2cSent := if r = i2cOwnershipChange then n.i2cSent + 1 else n.i2cSent })
  else if n.pending &&& i_reason = 0 then (false, { n with pending := n.pending ||| i_reason })
  else (false, n)

/-- The notifications in `task_misc_405_checks`. -/
def taskMisc405Checks : HostIntr := if n.pending = 0 then n else (n.notifyHost n.pending).2

/-- The host takes the interrupt. -/
def clear : HostIntr := { n with coreExtIntr := false }

/-- The ownership change that waits to be sent. -/
def i2cPending : Nat := if n.pending &&& i2cOwnershipChange = 0 then 0 else 1

/-- The ownership changes that the host was told of, or will be. -/
def i2cOwed : Nat := n.i2cSent + n.i2cPending

/-! ## No other reason loses one -/

theorem and_i2cOwnershipChange (x : BitVec 8) : x &&& i2cOwnershipChange = 0 ↔ x.getLsbD 1 = false := by
  revert x
  decide

theorem i2cPending_eq : n.i2cPending = (n.pending.getLsbD 1).toNat := by
  unfold i2cPending
  simp only [and_i2cOwnershipChange]
  cases n.pending.getLsbD 1 <;> rfl

theorem highest_eq_i2c {outstanding i_reason : BitVec 8} (h : highest outstanding i_reason = i2cOwnershipChange) :
    outstanding.getLsbD 1 = true ∨ i_reason = i2cOwnershipChange := by
  unfold highest at h
  split_ifs at h with h₁ h₂ h₃
  · exact absurd h (by decide)
  · exact absurd h (by decide)
  · rw [ne_eq, and_i2cOwnershipChange, Bool.not_eq_false] at h₃
    exact .inl h₃
  · exact .inr h

variable {n}

/-- The reason of an interrupt is taken from the pending ones, unless there is none. -/
theorem pending_of_notifyReason {i_reason : BitVec 8} (hr : i_reason.getLsbD 1 = false ∨ i_reason = n.pending)
    (h : n.notifyReason i_reason = i2cOwnershipChange) : n.pending.getLsbD 1 = true := by
  unfold notifyReason at h
  split at h
  · rename_i hp
    rcases hr with hr | hr
    · rw [h] at hr
      exact absurd hr (by decide)
    · rw [hr, hp] at h
      exact absurd h (by decide)
  · rcases highest_eq_i2c h with h | h
    · rw [BitVec.getLsbD_or, Bool.or_eq_true] at h
      rcases h with h | h
      · exact h
      · rcases hr with hr | hr
        · exact absurd (hr.symm.trans h) (by decide)
        · exact hr ▸ h
    · rcases hr with hr | hr
      · rw [h] at hr
        exact absurd hr (by decide)
      · rw [← hr, h]
        decide

/-- A notification for another reason, or a pending one that is tried again. -/
theorem i2cOwed_notifyHost {i_reason : BitVec 8} (hr : i_reason.getLsbD 1 = false ∨ i_reason = n.pending) :
    (n.notifyHost i_reason).2.i2cOwed = n.i2cOwed := by
  have hpend := @pending_of_notifyReason n i_reason hr
  unfold notifyHost
  dsimp only
  split_ifs with hvalid hcore hi hp
  · rfl
  · simp only [i2cOwed, i2cPending_eq, hi, hpend hi]
    have : (n.pending &&& ~~~i2cOwnershipChange).getLsbD 1 = false := by
      rw [BitVec.getLsbD_and, hpend hi]
      decide
    rw [this]
    rfl
  · have : (n.notifyReason i_reason).getLsbD 1 = false := by
      rw [not_and_or, not_and_or, not_not, not_not, not_not] at hvalid
      rcases hvalid with h | h | h
      · rw [h]; decide
      · exact absurd h hi
      · rw [h]; decide
    have : (n.pending &&& ~~~n.notifyReason i_reason).getLsbD 1 = n.pending.getLsbD 1 := by
      rw [BitVec.getLsbD_and, BitVec.getLsbD_not, this]
      simp
    simp only [i2cOwed, i2cPending_eq, this]
  · have : (n.pending ||| i_reason).getLsbD 1 = n.pending.getLsbD 1 := by
      rw [BitVec.getLsbD_or]
      rcases hr with hr | hr
      · rw [hr, Bool.or_false]
      · rw [hr, Bool.or_self]
    simp only [i2cOwed, i2cPending_eq, this]
  · rfl

theorem i2cOwed_taskMisc405Checks : n.taskMisc405Checks.i2cOwed = n.i2cOwed := by
  unfold taskMisc405Checks
  split
  · rfl
  · exact i2cOwed_notifyHost (.inr rfl)

theorem highest_of_i2c {outstanding : BitVec 8} (h : outstanding.getLsbD 1 = true) (i_reason : BitVec 8) :
    highest outstanding i_reason = opalSharedMemChange ∨ highest outstanding i_reason = htmgtServiceRequired ∨
      highest outstanding i_reason = i2cOwnershipChange := by
  unfold highest
  split_ifs with _ _ h'
  · exact .inl rfl
  · exact .inr (.inl rfl)
  · exact .inr (.inr rfl)
  · rw [not_not, and_i2cOwnershipChange, h] at h'
    cases h'

theorem notifyReason_i2c (n : HostIntr) : ¬(n.notifyReason i2cOwnershipChange ≠ htmgtServiceRequired ∧
    n.notifyReason i2cOwnershipChange ≠ i2cOwnershipChange ∧ n.notifyReason i2cOwnershipChange ≠ opalSharedMemChange) := by
  rintro ⟨h₁, h₂, h₃⟩
  unfold notifyReason at h₁ h₂ h₃
  split at h₂
  · exact h₂ rfl
  · rename_i hp
    rw [if_neg hp] at h₁ h₃
    have hb : (n.pending ||| i2cOwnershipChange).getLsbD 1 = true := by
      rw [BitVec.getLsbD_or]
      simp [i2cOwnershipChange]
    rcases highest_of_i2c hb i2cOwnershipChange with h | h | h
    · exact h₃ h
    · exact h₁ h
    · exact h₂ h

theorem i2cOwed_release (h : n.pending.getLsbD 1 = false) (hp : n.pending = 0 ∨ n.coreExtIntr = true) :
    (n.notifyHost i2cOwnershipChange).2.i2cOwed = n.i2cOwed + 1 := by
  have h0 := (and_i2cOwnershipChange n.pending).2 h
  unfold notifyHost
  dsimp only
  rw [if_neg (notifyReason_i2c n)]
  cases hc : n.coreExtIntr with
  | true =>
    have hb : (n.pending ||| i2cOwnershipChange).getLsbD 1 = true := by
      rw [BitVec.getLsbD_or]
      simp [i2cOwnershipChange]
    rw [if_neg (by decide), if_pos h0]
    simp only [i2cOwed, i2cPending_eq, hb, h]
    rfl
  | false =>
    have hp := hp.resolve_right (by simp [hc])
    have hr : n.notifyReason i2cOwnershipChange = i2cOwnershipChange := by simp [notifyReason, hp]
    simp [i2cOwed, i2cPending, hr, hp]

/-- With another notification pending and no interrupt up, that one is sent and the ownership change is lost. -/
theorem i2cOwed_lost (h : n.pending.getLsbD 1 = false)
    (hp : n.pending &&& opalSharedMemChange ≠ 0 ∨ n.pending &&& htmgtServiceRequired ≠ 0) (hc : n.coreExtIntr = false) :
    (n.notifyHost i2cOwnershipChange).2.i2cOwed = n.i2cOwed := by
  have hne : n.pending ≠ 0 := by
    rintro h0
    simp [h0] at hp
  have hr : n.notifyReason i2cOwnershipChange ≠ i2cOwnershipChange := by
    have h₁ : (n.pending ||| i2cOwnershipChange) &&& opalSharedMemChange = n.pending &&& opalSharedMemChange := by
      generalize n.pending = p
      revert p
      decide
    have h₂ : (n.pending ||| i2cOwnershipChange) &&& htmgtServiceRequired = n.pending &&& htmgtServiceRequired := by
      generalize n.pending = p
      revert p
      decide
    rw [notifyReason, if_neg hne, highest, h₁, h₂]
    by_cases ho : n.pending &&& opalSharedMemChange = 0
    · rw [if_neg (not_not.2 ho), if_pos (hp.resolve_left (not_not.2 ho))]
      decide
    · rw [if_pos ho]
      decide
  have hb : (n.pending &&& ~~~n.notifyReason i2cOwnershipChange).getLsbD 1 = false := by
    rw [BitVec.getLsbD_and, h, Bool.false_and]
  unfold notifyHost
  dsimp only
  rw [if_neg (notifyReason_i2c n), if_pos hc, if_neg hr]
  simp only [i2cOwed, i2cPending_eq, hb, h]

end HostIntr

end Occ.Dimm

namespace Occ.Dimm

open HostIntr

/-- `PIB_I2C_ENGINE_C`, `_D` and `_E`, which the register numbers 1, 2 and 3. -/
inductive I2cEngine
  | engineC | engineD | engineE
deriving DecidableEq, Repr

structure LockBits where
  host : Bool
  occ : Bool
deriving DecidableEq, Repr

/-- The lock bits of `ocb_occflg_t`. -/
abbrev OccFlags := I2cEngine → LockBits

/-- `occ_owns_i2c_lock`. -/
def occOwnsI2cLock (i_flags : OccFlags) (i_engine : I2cEngine) : Bool := (i_flags i_engine).occ

/-- `host_wants_i2c_lock`. -/
def hostWantsI2cLock (i_flags : OccFlags) (i_engine : I2cEngine) : Bool := (i_flags i_engine).host

/-- Whether `check_and_update_i2c_lock` reads the register back: it looks at engine 1's bits. -/
def neitherLockBit (original : OccFlags) : Bool := !(original .engineC).host && !(original .engineC).occ

structure I2cLock where
  flags : OccFlags
  intr : HostIntr
  /-- the host has found the OCC's bit clear since it asked for the lock -/
  hostOwns : I2cEngine → Bool
  /-- history: the OCC's releases -/
  released : Nat
  /-- a write did not set the OCC's bit, twice -/
  writeFailure : Bool

/-- Before which access of `check_and_update_i2c_lock` or `update_i2c_lock` the OCC is; `κ` is where the
check was called. -/
inductive LockPc (κ : Type)
  /-- the register is read; `owns` is what the check would return -/
  | flags (k : κ) (needRetry owns : Bool)
  /-- the OCC's bit is set; `check` says whether the register is then read back -/
  | acquire (k : κ) (needRetry check : Bool)
  | verify (k : κ) (needRetry : Bool)
  /-- an engine's bit is cleared, for the check or for good -/
  | release (i_engine : I2cEngine) (k : Option (κ × Bool))
  | notify (k : Option (κ × Bool))
deriving DecidableEq

/-- Where the lock's code goes on: to another access, or back with what the check returned. -/
inductive LockNext (κ : Type)
  | pc (p : LockPc κ)
  | ret (k : κ) (owns : Bool)
  | done

namespace I2cLock

variable {κ : Type} (l : I2cLock)

/-- The end of the loop's body. -/
def loop (k : κ) (needRetry owns : Bool) : LockNext κ :=
  if needRetry then .pc (.flags k needRetry owns) else .ret k owns

def setOcc (i_engine : I2cEngine) (b : Bool) : I2cLock :=
  { l with flags := Function.update l.flags i_engine { l.flags i_engine with occ := b } }

/-- One access. -/
def access (i_engine : I2cEngine) : LockPc κ → I2cLock × LockNext κ
  | .flags k needRetry owns =>
    let check := neitherLockBit l.flags
    if occOwnsI2cLock l.flags i_engine then
      if hostWantsI2cLock l.flags i_engine then (l, .pc (.release i_engine (some (k, needRetry))))
      else if owns && check then (l, .pc (.verify k needRetry))
      else (l, loop k needRetry owns)
    else if hostWantsI2cLock l.flags i_engine then (l, loop k needRetry false)
    else (l, .pc (.acquire k needRetry check))
  | .acquire k needRetry check =>
    (l.setOcc i_engine true, if check then .pc (.verify k needRetry) else loop k needRetry true)
  | .verify k needRetry =>
    if hostWantsI2cLock l.flags i_engine then (l, .pc (.release i_engine (some (k, needRetry))))
    else if occOwnsI2cLock l.flags i_engine then (l, loop k needRetry true)
    else if needRetry then ({ l with writeFailure := true }, .ret k false)
    else (l, loop k true true)
  | .release e k => ({ l.setOcc e false with released := l.released + 1 }, .pc (.notify k))
  | .notify k =>
    ({ l with intr := (l.intr.notifyHost i2cOwnershipChange).2 },
      match k with
      | some (k, needRetry) => loop k needRetry false
      | none => .done)

/-! ## The host -/

/-- The host asks for an engine's lock, or gives it back. -/
def hostWrite (e : I2cEngine) (b : Bool) : I2cLock :=
  { l with
    flags := Function.update l.flags e { l.flags e with host := b }
    hostOwns := Function.update l.hostOwns e (b && l.hostOwns e) }

/-- The host reads the register: it owns what it has asked for when the OCC does not. -/
def hostRead (e : I2cEngine) : I2cLock :=
  { l with hostOwns := Function.update l.hostOwns e (l.hostOwns e || ((l.flags e).host && !(l.flags e).occ)) }

end I2cLock

end Occ.Dimm
