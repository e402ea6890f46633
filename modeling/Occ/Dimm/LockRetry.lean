/-
The retry loop of `check_and_update_i2c_lock`, with a flag register that returns any values: where it ends after its one retry,
and where it does not end.
-/
import Occ.Dimm.I2cLock
import Mathlib.Tactic.Common

namespace Occ.Dimm.LockRetry

/-! ## Calls -/

/-- A call of `check_and_update_i2c_lock`: where it is, how often the body of its loop was begun, and the last value that was
read, with whether it was read to verify the OCC's own write. -/
structure Call where
  lock : I2cLock
  next : LockNext Unit
  passes : Nat
  last : Option (Bool × OccFlags)

/-- The value that an access reads, if it reads one. -/
def valueRead (flags : OccFlags) (last : Option (Bool × OccFlags)) : LockPc Unit → Option (Bool × OccFlags)
  | .flags .. => some (false, flags)
  | .verify .. => some (true, flags)
  | _ => last

/-- The body of the loop is begun again. -/
def again : LockNext Unit → Nat
  | .pc (.flags ..) => 1
  | _ => 0

/-- The next access, before which the host and the hardware leave some value in the register. -/
def Call.access (e : I2cEngine) (flags : OccFlags) (c : Call) : Call :=
  match c.next with
  | .pc p =>
    let r := { c.lock with flags := flags }.access e p
    { lock := r.1, next := r.2, passes := c.passes + again r.2, last := valueRead flags c.last p }
  | _ => c

/-- The call after some accesses. -/
def call (e : I2cEngine) (lock : I2cLock) (reads : Nat → OccFlags) : Nat → Call
  | 0 => { lock := lock, next := .pc (.flags () false true), passes := 1, last := none }
  | n + 1 => (call e lock reads n).access e (reads n)

/-- Whether the last value that was read says that the OCC owns the lock: a value that was not verified is that before the OCC
takes what the host does not want. -/
def Call.answers (e : I2cEngine) (c : Call) : Bool :=
  match c.last with
  | some (true, flags) => occOwnsI2cLock flags e && !hostWantsI2cLock flags e
  | some (false, flags) => !hostWantsI2cLock flags e
  | none => true

/-- The call returns after at most one retry, and what it returns is what the register says. -/
def RetryLaw (e : I2cEngine) (lock : I2cLock) (reads : Nat → OccFlags) : Prop :=
  ∃ n owns, (call e lock reads n).next = .ret () owns ∧ (call e lock reads n).passes ≤ 2 ∧ owns = (call e lock reads n).answers e

/-! ## The condition -/

/-- The access that verifies, in a pass that begins with access `n`: an OCC without the lock takes it first. -/
def verifyAt (e : I2cEngine) (reads : Nat → OccFlags) (n : Nat) : Nat :=
  if occOwnsI2cLock (reads n) e then n + 1 else n + 2

/-- A pass that begins with access `n` verifies, and finds that the OCC's bit is not set. -/
def Fails (e : I2cEngine) (reads : Nat → OccFlags) (n : Nat) : Prop :=
  hostWantsI2cLock (reads n) e = false ∧ neitherLockBit (reads n) = true ∧
    hostWantsI2cLock (reads (verifyAt e reads n)) e = false ∧ occOwnsI2cLock (reads (verifyAt e reads n)) e = false

/-- The first pass does not fail, or the second one does as well. -/
def RetryOk (e : I2cEngine) (reads : Nat → OccFlags) : Prop :=
  Fails e reads 0 → Fails e reads (verifyAt e reads 0 + 1)

section
variable {e : I2cEngine} {lock : I2cLock} {reads : Nat → OccFlags} {n m k : Nat} {needRetry owns : Bool}

theorem call_succ : call e lock reads (n + 1) = (call e lock reads n).access e (reads n) := rfl

theorem call_of_ret (h : (call e lock reads n).next = .ret () owns) : n ≤ m → call e lock reads m = call e lock reads n := by
  intro hle
  induction hle with
  | refl => rfl
  | step _ ih => rw [Nat.succ_eq_add_one, call_succ, ih, Call.access, h]

theorem passes_mono : n ≤ m → (call e lock reads n).passes ≤ (call e lock reads m).passes := by
  intro hle
  induction hle with
  | refl => exact Nat.le_refl _
  | step _ ih =>
    refine Nat.le_trans ih ?_
    rw [Nat.succ_eq_add_one, call_succ]
    unfold Call.access
    split
    · exact Nat.le_add_right _ _
    · exact Nat.le_refl _

/-- Before access `n`, the call is somewhere, in its `k`-th pass. -/
structure At (e : I2cEngine) (lock : I2cLock) (reads : Nat → OccFlags) (n : Nat) (next : LockNext Unit) (k : Nat)
    (last : Option (Bool × OccFlags)) : Prop where
  next : (call e lock reads n).next = next
  passes : (call e lock reads n).passes = k
  last : (call e lock reads n).last = last

/-- The call at the end of a pass. -/
def Ends (e : I2cEngine) (lock : I2cLock) (reads : Nat → OccFlags) (n k : Nat) (last : Option (Bool × OccFlags))
    (needRetry owns : Bool) : Prop :=
  At e lock reads n (I2cLock.loop () needRetry owns) (k + if needRetry then 1 else 0) last

variable {last : Option (Bool × OccFlags)} {check : Bool}

theorem again_loop (needRetry owns : Bool) : again (I2cLock.loop () needRetry owns) = if needRetry then 1 else 0 := by
  cases needRetry <;> rfl

theorem At.access {p : LockPc Unit} {next : LockNext Unit} (h : At e lock reads n (.pc p) k last)
    (hnext : ∀ l : I2cLock, l.flags = reads n → (l.access e p).2 = next) :
    At e lock reads (n + 1) next (k + again next) (valueRead (reads n) last p) := by
  obtain ⟨hpc, hpasses, hlast⟩ := h
  have hstep := hnext { (call e lock reads n).lock with flags := reads n } rfl
  constructor
  · rw [call_succ]
    unfold Call.access
    rw [hpc]
    exact hstep
  · rw [call_succ]
    unfold Call.access
    rw [hpc]
    dsimp only
    rw [hstep, hpasses]
  · rw [call_succ]
    unfold Call.access
    rw [hpc]
    dsimp only
    rw [hlast]

theorem At.ends {p : LockPc Unit} (h : At e lock reads n (.pc p) k last)
    (hnext : ∀ l : I2cLock, l.flags = reads n → (l.access e p).2 = I2cLock.loop () needRetry owns) :
    Ends e lock reads (n + 1) k (valueRead (reads n) last p) needRetry owns := by
  have hend := h.access hnext
  rw [again_loop] at hend
  exact hend

theorem At.release {f : I2cEngine} (h : At e lock reads n (.pc (.release f (some ((), needRetry)))) k last) :
    Ends e lock reads (n + 2) k last needRetry false :=
  (h.access fun _ _ => rfl).ends fun _ _ => rfl

/-- The register is read back; a second failure ends the call. -/
theorem At.verify (h : At e lock reads n (.pc (.verify () needRetry)) k last) :
    (hostWantsI2cLock (reads n) e = true → Ends e lock reads (n + 3) k (some (true, reads n)) needRetry false) ∧
      (hostWantsI2cLock (reads n) e = false → occOwnsI2cLock (reads n) e = true →
        Ends e lock reads (n + 1) k (some (true, reads n)) needRetry true) ∧
      (hostWantsI2cLock (reads n) e = false → occOwnsI2cLock (reads n) e = false →
        if needRetry then At e lock reads (n + 1) (.ret () false) k (some (true, reads n))
        else At e lock reads (n + 1) (.pc (.flags () true true)) (k + 1) (some (true, reads n))) := by
  refine ⟨fun hhost => ?_, fun hhost hocc => ?_, fun hhost hocc => ?_⟩
  · refine At.release (f := e) (h.access fun l hl => ?_)
    unfold I2cLock.access
    dsimp only
    rw [hl, if_pos hhost]
  · refine h.ends fun l hl => ?_
    unfold I2cLock.access
    dsimp only
    rw [hl, if_neg (by rw [hhost]; decide), if_pos hocc]
  · have hboth : ∀ l : I2cLock, l.flags = reads n → (l.access e (.verify () needRetry)).2 =
        if needRetry then .ret () false else .pc (.flags () true true) := by
      rintro l hl
      unfold I2cLock.access
      dsimp only
      rw [hl, if_neg (by rw [hhost]; decide), if_neg (by rw [hocc]; decide)]
      cases needRetry <;> rfl
    cases needRetry
    · exact h.access hboth
    · exact h.access hboth

/-- A pass that fails. -/
theorem At.fails (h : At e lock reads n (.pc (.flags () needRetry true)) k last) (hfails : Fails e reads n) :
    if needRetry then At e lock reads (verifyAt e reads n + 1) (.ret () false) k (some (true, reads (verifyAt e reads n)))
    else At e lock reads (verifyAt e reads n + 1) (.pc (.flags () true true)) (k + 1)
      (some (true, reads (verifyAt e reads n))) := by
  obtain ⟨hhost, hcheck, hhost', hocc'⟩ := hfails
  have hverify : ∃ last, At e lock reads (verifyAt e reads n) (.pc (.verify () needRetry)) k last := by
    unfold verifyAt
    obtain hocc | hocc := Bool.eq_false_or_eq_true (occOwnsI2cLock (reads n) e)
    · rw [if_pos hocc]
      refine ⟨_, h.access fun l hl => ?_⟩
      unfold I2cLock.access
      dsimp only
      rw [hl, if_pos hocc, if_neg (by rw [hhost]; decide), hcheck]
      rfl
    · rw [if_neg (by rw [hocc]; decide)]
      have hacquire : At e lock reads (n + 1) (.pc (.acquire () needRetry true)) k (some (false, reads n)) := by
        refine h.access fun l hl => ?_
        unfold I2cLock.access
        dsimp only
        rw [hl, if_neg (by rw [hocc]; decide), if_neg (by rw [hhost]; decide), hcheck]
      exact ⟨_, hacquire.access fun _ _ => rfl⟩
  obtain ⟨last, hverify⟩ := hverify
  exact hverify.verify.2.2 hhost' hocc'

/-- What a value says about the owner. -/
def answersOf (e : I2cEngine) (verified : Bool) (flags : OccFlags) : Bool :=
  if verified then occOwnsI2cLock flags e && !hostWantsI2cLock flags e else !hostWantsI2cLock flags e

/-- A pass that does not fail ends, with what the last value says. -/
theorem At.passes_on (h : At e lock reads n (.pc (.flags () needRetry true)) k last) (hok : ¬Fails e reads n) :
    ∃ m verified flags, Ends e lock reads m k (some (verified, flags)) needRetry (answersOf e verified flags) := by
  -- a value that is read back, without a failure
  have hverified : ∀ m last, At e lock reads m (.pc (.verify () needRetry)) k last →
      ¬(hostWantsI2cLock (reads m) e = false ∧ occOwnsI2cLock (reads m) e = false) →
      ∃ m' verified flags, Ends e lock reads m' k (some (verified, flags)) needRetry (answersOf e verified flags) := by
    rintro m last hm hne
    obtain ⟨hrelease, howns, -⟩ := hm.verify
    obtain hhost | hhost := Bool.eq_false_or_eq_true (hostWantsI2cLock (reads m) e)
    · refine ⟨m + 3, true, reads m, ?_⟩
      rw [show answersOf e true (reads m) = false by unfold answersOf; rw [hhost]; simp]
      exact hrelease hhost
    · obtain hocc | hocc := Bool.eq_false_or_eq_true (occOwnsI2cLock (reads m) e)
      · refine ⟨m + 1, true, reads m, ?_⟩
        rw [show answersOf e true (reads m) = true by unfold answersOf; rw [hhost, hocc]; rfl]
        exact howns hhost hocc
      · exact absurd ⟨hhost, hocc⟩ hne
  obtain hhost | hhost := Bool.eq_false_or_eq_true (hostWantsI2cLock (reads n) e)
  · have hanswers : answersOf e false (reads n) = false := by
      unfold answersOf
      rw [hhost]
      rfl
    obtain hocc | hocc := Bool.eq_false_or_eq_true (occOwnsI2cLock (reads n) e)
    · refine ⟨n + 3, false, reads n, ?_⟩
      rw [hanswers]
      refine At.release (f := e) (h.access fun l hl => ?_)
      unfold I2cLock.access
      dsimp only
      rw [hl, if_pos hocc, if_pos hhost]
    · refine ⟨n + 1, false, reads n, ?_⟩
      rw [hanswers]
      refine h.ends fun l hl => ?_
      unfold I2cLock.access
      dsimp only
      rw [hl, if_neg (by rw [hocc]; decide), if_pos hhost]
  have hanswers : answersOf e false (reads n) = true := by
    unfold answersOf
    rw [hhost]
    rfl
  obtain hocc | hocc := Bool.eq_false_or_eq_true (occOwnsI2cLock (reads n) e)
  · have hat : verifyAt e reads n = n + 1 := if_pos hocc
    obtain hcheck | hcheck := Bool.eq_false_or_eq_true (neitherLockBit (reads n))
    · have hverify : At e lock reads (n + 1) (.pc (.verify () needRetry)) k (some (false, reads n)) := by
        refine h.access fun l hl => ?_
        unfold I2cLock.access
        dsimp only
        rw [hl, if_pos hocc, if_neg (by rw [hhost]; decide), hcheck]
        rfl
      refine hverified _ _ hverify fun hne => hok ?_
      exact ⟨hhost, hcheck, by rw [hat]; exact hne.1, by rw [hat]; exact hne.2⟩
    · refine ⟨n + 1, false, reads n, ?_⟩
      rw [hanswers]
      refine h.ends fun l hl => ?_
      unfold I2cLock.access
      dsimp only
      rw [hl, if_pos hocc, if_neg (by rw [hhost]; decide), hcheck]
      rfl
  · have hat : verifyAt e reads n = n + 2 := if_neg (by rw [hocc]; decide)
    have hacquire : At e lock reads (n + 1) (.pc (.acquire () needRetry (neitherLockBit (reads n)))) k
        (some (false, reads n)) := by
      refine h.access fun l hl => ?_
      unfold I2cLock.access
      dsimp only
      rw [hl, if_neg (by rw [hocc]; decide), if_neg (by rw [hhost]; decide)]
    obtain hcheck | hcheck := Bool.eq_false_or_eq_true (neitherLockBit (reads n))
    · rw [hcheck] at hacquire
      have hverify : At e lock reads (n + 2) (.pc (.verify () needRetry)) k (some (false, reads n)) :=
        hacquire.access fun _ _ => rfl
      refine hverified _ _ hverify fun hne => hok ?_
      exact ⟨hhost, hcheck, by rw [hat]; exact hne.1, by rw [hat]; exact hne.2⟩
    · rw [hcheck] at hacquire
      refine ⟨n + 2, false, reads n, ?_⟩
      rw [hanswers]
      exact hacquire.ends fun _ _ => rfl

/-! ## The law -/

theorem answers_of_last {c : Call} {verified : Bool} {flags : OccFlags} (h : c.last = some (verified, flags)) :
    c.answers e = answersOf e verified flags := by
  unfold Call.answers answersOf
  rw [h]
  cases verified <;> rfl

/-- A call keeps the law if and only if its first pass does not fail or its second one fails too. -/
theorem retryLaw_iff (e : I2cEngine) (lock : I2cLock) (reads : Nat → OccFlags) :
    RetryLaw e lock reads ↔ RetryOk e reads := by
  have hstart : At e lock reads 0 (.pc (.flags () false true)) 1 none := ⟨rfl, rfl, rfl⟩
  by_cases hfirst : Fails e reads 0
  · have hsecond : At e lock reads (verifyAt e reads 0 + 1) (.pc (.flags () true true)) 2
        (some (true, reads (verifyAt e reads 0))) := hstart.fails hfirst
    by_cases hagain : Fails e reads (verifyAt e reads 0 + 1)
    · obtain ⟨hnext, hpasses, hlast⟩ : At e lock reads _ (.ret () false) 2 _ := hsecond.fails hagain
      refine ⟨fun _ _ => hagain, fun _ => ⟨_, false, hnext, Nat.le_of_eq hpasses, ?_⟩⟩
      rw [answers_of_last hlast]
      unfold answersOf
      rw [hagain.2.2.2]
      rfl
    · obtain ⟨m, verified, flags, hnext, hpasses, -⟩ := hsecond.passes_on hagain
      refine ⟨?_, fun hok => absurd (hok hfirst) hagain⟩
      -- the third pass has begun, and the call has not returned before
      rintro ⟨n, owns, hret, htwo, -⟩
      obtain hle | hle := Nat.le_total n m
      · have hsame := call_of_ret hret hle
        rw [hsame, hret] at hnext
        exact absurd hnext nofun
      · have hmono := @passes_mono e lock reads m n hle
        rw [hpasses] at hmono
        have hthree : (2 + if true = true then 1 else 0) = 3 := rfl
        omega
  · refine ⟨fun _ h => absurd h hfirst, fun _ => ?_⟩
    obtain ⟨m, verified, flags, hnext, hpasses, hlast⟩ := hstart.passes_on hfirst
    refine ⟨m, _, hnext, ?_, (answers_of_last hlast).symm⟩
    rw [hpasses]
    decide

end

/-- All lock bits are clear until the register takes the OCC's bit, with the second write. -/
def lateWrite : Nat → OccFlags := fun n => if n < 3 then fun _ => ⟨false, false⟩ else fun _ => ⟨false, true⟩

theorem retries_forever (lock : I2cLock) (n : Nat) :
    (call .engineC lock lateWrite (n + 3)).next = .pc (.flags () true true) := by
  induction n with
  | zero => rfl
  | succ n ih =>
    rw [show n + 1 + 3 = (n + 3) + 1 from rfl, call_succ]
    unfold Call.access
    rw [ih, show lateWrite (n + 3) = fun _ => ⟨false, true⟩ from if_neg (by omega)]
    rfl

/-- A lock that nobody owns. -/
def freeLock : I2cLock where
  flags := fun _ => ⟨false, false⟩
  intr := ⟨false, 0, 0, 0⟩
  hostOwns := fun _ => false
  released := 0
  writeFailure := false

theorem never_returns :
    (∀ n owns, (call .engineC freeLock lateWrite n).next ≠ .ret () owns) ∧ ¬RetryLaw .engineC freeLock lateWrite := by
  have hnever : ∀ n owns, (call .engineC freeLock lateWrite n).next ≠ .ret () owns := by
    rintro n owns hret
    have hlater := call_of_ret (m := n + 3) hret (by omega)
    have hloop := retries_forever freeLock n
    rw [hlater, hret] at hloop
    exact absurd hloop nofun
  exact ⟨hnever, fun ⟨n, owns, hret, _⟩ => hnever n owns hret⟩

end Occ.Dimm.LockRetry
