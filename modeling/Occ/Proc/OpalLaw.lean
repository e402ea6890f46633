/-
The update protocol of the dynamic OPAL table: over every run in which no copy that has just ended is overtaken by
the next one, every copy that ends is notified once, no copy is scheduled under another, and a critical error is the
end of all of it.
-/
import Occ.Proc.Opal
import Mathlib.Data.List.Nodup

namespace Occ.Proc

open Occ Transition

/-! ## The law -/

/-- The notification for the copy that has ended last is still to come. -/
def Opal.Pending (s : Opal) : Prop := s.pc = .notify ∨ (s.state = .notifyHost ∧ s.pc ≠ .setCritical)

/-- What a run leaves as it is. -/
structure Opal.Frozen (s t : Opal) : Prop where
  started : t.started = s.started
  notified : t.notified = s.notified
  logs : t.logs = s.logs

/-- The host of an OPAL system is notified once for every copy that ended before the thread gave up, after its end:
it has been, or it is the copy that ended last, and the next call does it. No copy was scheduled under another one.
When the thread has given up, nothing more is copied, notified or logged. -/
structure OpalLaw (s : Opal) : Prop where
  once : s.notified.Nodup
  after : ∀ n ∈ s.notified, n ∈ s.ended
  each : s.kvm = true → ∀ n ∈ s.ended, n ∈ s.notified ∨ (s.Pending ∧ s.ended.head? = some n)
  soon : s.kvm = true → s.pc = .idle → s.Pending → ∀ es t, Run (StepOf Opal.next) s es t → es.length = 4 →
    t.notified = s.ended
  alone : s.overlapped = false
  critical : s.pc = .idle → s.state = .criticalError → ∀ es t, Run (StepOf Opal.next) s es t → s.Frozen t

/-- Where the thread is about to look for changes of the data, a copy whose end it has not seen yet is not overtaken:
the data have not changed. -/
def OpalOk (s : Opal) (e : OpalEvent) : Prop :=
  match e with
  | .access env _ => s.pc = .compare → s.state = .notifyHost → ¬s.table.Changed env
  | _ => True

instance (s : Opal) (e : OpalEvent) : Decidable (OpalOk s e) := by
  cases e <;> unfold OpalOk <;> infer_instance

/-! ## The invariant -/

/-- What is known of the state where the thread is. -/
def Opal.PcOk (s : Opal) : Prop :=
  match s.pc with
  | .idle => True
  | .testNotify | .testCopy | .setCritical => s.state ≠ .criticalError
  | .testRequest => s.inFlight = none ∧ s.state ≠ .criticalError
  | .testFail | .compare => s.inFlight = none ∧ s.state ≠ .dynamicCopy ∧ s.state ≠ .criticalError
  | .setIdle => s.inFlight = none ∧ s.state = .notifyHost
  | .notify | .scheduleLog | .setFail => s.inFlight = none ∧ s.state = .idle
  | .setCopy => s.inFlight = none ∧ s.state ≠ .notifyHost
  | .populate | .schedule | .scheduleFail => s.inFlight = none ∧ s.state = .dynamicCopy
  | .scheduled => s.state = .dynamicCopy ∨ s.state = .notifyHost
  | .testIdle => s.state = .dynamicCopy ∨ s.state = .notifyHost ∨ (s.state = .idle ∧ s.inFlight = none)
  | .criticalLog => s.state = .criticalError

/-- The places between the decision to copy and its request. -/
def OpalPc.Copying (pc : OpalPc) : Prop := pc = .populate ∨ pc = .schedule ∨ pc = .scheduleFail

instance (pc : OpalPc) : Decidable pc.Copying := by
  unfold OpalPc.Copying
  infer_instance

structure OpalInv (s : Opal) : Prop where
  pc : s.PcOk
  /-- a copy under way has the state of one, until a critical error -/
  busy : s.inFlight ≠ none → s.state = .dynamicCopy ∨ s.state = .criticalError
  copy : s.state = .dynamicCopy → s.inFlight ≠ none ∨ s.pc.Copying
  number : ∀ n, s.inFlight = some n → n < s.started ∧ n ∉ s.ended
  numbers : ∀ n ∈ s.ended, n < s.started
  nodup : s.ended.Nodup
  sub : s.notified.Sublist s.ended
  ledger : s.kvm = true → (s.Pending ∧ ∃ n, s.ended = n :: s.notified) ∨ (¬s.Pending ∧ s.ended = s.notified)
  alone : s.overlapped = false

theorem opalInv_boot (kvm : Bool) : OpalInv (.boot kvm) := by
  refine ⟨trivial, fun h => absurd rfl h, nofun, nofun, nofun, List.nodup_nil, List.Sublist.refl _, ?_, rfl⟩
  rintro -
  refine .inr ⟨?_, rfl⟩
  rintro (h | ⟨h, -⟩) <;> cases h

/-- The history and the copy under way are as they were. -/
structure Opal.Quiet (s t : Opal) : Prop where
  kvm : t.kvm = s.kvm
  inFlight : t.inFlight = s.inFlight
  started : t.started = s.started
  ended : t.ended = s.ended
  notified : t.notified = s.notified
  overlapped : t.overlapped = s.overlapped

theorem OpalInv.quiet {s t : Opal} (h : OpalInv s) (hq : s.Quiet t) (hpc : t.PcOk)
    (hbusy : t.inFlight ≠ none → t.state = .dynamicCopy ∨ t.state = .criticalError)
    (hcopy : t.state = .dynamicCopy → t.inFlight ≠ none ∨ t.pc.Copying) (hpend : t.Pending ↔ s.Pending) :
    OpalInv t where
  pc := hpc
  busy := hbusy
  copy := hcopy
  number := by rw [hq.inFlight, hq.started, hq.ended]; exact h.number
  numbers := by rw [hq.started, hq.ended]; exact h.numbers
  nodup := by rw [hq.ended]; exact h.nodup
  sub := by rw [hq.ended, hq.notified]; exact h.sub
  ledger := by rw [hq.kvm, hq.ended, hq.notified, hpend]; exact h.ledger
  alone := by rw [hq.overlapped]; exact h.alone

/-! ## Each event keeps it -/

theorem OpalInv.goto {s : Opal} (h : OpalInv s) (pc : OpalPc) (count : Nat)
    (hpc : Opal.PcOk { s with pc := pc, numBceChecks := count }) (hcopy : ¬s.pc.Copying)
    (hpend : Opal.Pending { s with pc := pc, numBceChecks := count } ↔ s.Pending) :
    OpalInv { s with pc := pc, numBceChecks := count } :=
  h.quiet ⟨rfl, rfl, rfl, rfl, rfl, rfl⟩ hpc h.busy
    (fun hs => .inl ((h.copy hs).resolve_right hcopy)) hpend

theorem OpalInv.retry {s : Opal} (h : OpalInv s) (pc : OpalPc) (count : Nat)
    (hpc : Opal.PcOk { s with pc := pc, numBceChecks := s.numBceChecks + count }) (hcopy : ¬s.pc.Copying)
    (hnotify : pc ≠ .notify ∧ s.pc ≠ .notify) (hstate : s.state ≠ .notifyHost ∧ s.state ≠ .criticalError) :
    OpalInv (s.retry pc count) := by
  have hquiet : ¬s.Pending := fun hp => hp.elim hnotify.2 fun hp => hstate.1 hp.1
  unfold Opal.retry
  split
  · refine h.goto pc _ hpc hcopy (iff_of_false ?_ hquiet)
    exact fun hp => hp.elim hnotify.1 fun hp => hstate.1 hp.1
  · refine h.goto .setCritical s.numBceChecks hstate.2 hcopy (iff_of_false ?_ hquiet)
    rintro (hp | ⟨hp, -⟩)
    · cases hp
    · exact hstate.1 hp

theorem opalInv_wake {s : Opal} (h : OpalInv s) (hpc : s.pc = .idle) : OpalInv s.wake := by
  unfold Opal.wake
  split
  case isTrue hstate =>
    refine h.goto .testNotify s.numBceChecks hstate (by rw [hpc]; decide) ?_
    simp [Opal.Pending, hpc]
  case isFalse => exact h

theorem OpalInv.not_pending {s : Opal} (h : OpalInv s) (hin : s.inFlight ≠ none) : ¬s.Pending := by
  rintro (hpc | ⟨hstate, -⟩)
  · have hok := h.pc
    rw [Opal.PcOk, hpc] at hok
    exact hin hok.1
  · rcases h.busy hin with hs | hs
    all_goals rw [hstate] at hs; cases hs

theorem complete_copy {s : Opal} (n : Nat) (ok : Bool) (hstate : s.state = .dynamicCopy) :
    s.complete n ok = { s with
      state := .notifyHost
      inFlight := none
      mainMemory := if ok then some s.table else s.mainMemory
      ended := if s.pc = .setCritical then s.ended else n :: s.ended } := by
  simp [Opal.complete, Opal.bceCallback, hstate]

theorem complete_critical {s : Opal} (n : Nat) (ok : Bool) (hstate : s.state = .criticalError) :
    s.complete n ok = { s with inFlight := none, mainMemory := if ok then some s.table else s.mainMemory } := by
  simp [Opal.complete, Opal.bceCallback, hstate]

theorem Opal.PcOk.notifyHost {s t : Opal} (h : s.PcOk) (hin : s.inFlight ≠ none) (hpc : t.pc = s.pc)
    (hstate : t.state = .notifyHost) (hs : s.state = .dynamicCopy) : t.PcOk := by
  unfold Opal.PcOk at h ⊢
  rw [hpc]
  cases hp : s.pc <;> simp_all

theorem opalInv_complete {s : Opal} (h : OpalInv s) {n : Nat} (ok : Bool) (hin : s.inFlight = some n) :
    OpalInv (s.complete n ok) := by
  have hsome : s.inFlight ≠ none := by rw [hin]; exact Option.some_ne_none n
  have hidle := h.not_pending hsome
  obtain ⟨hlt, hnew⟩ := h.number n hin
  rcases h.busy hsome with hstate | hstate
  · rw [complete_copy n ok hstate]
    by_cases hgive : s.pc = .setCritical
    · -- it ends too late: the thread has given up
      rw [if_pos hgive]
      refine ⟨.notifyHost h.pc hsome rfl rfl hstate, fun h => absurd rfl h, nofun, nofun, h.numbers, h.nodup, h.sub, ?_, h.alone⟩
      rintro hkvm
      obtain ⟨hp, -⟩ | ⟨-, hall⟩ := h.ledger hkvm
      · exact absurd hp hidle
      · refine .inr ⟨?_, hall⟩
        rintro (hp | ⟨-, hp⟩)
        · rw [hgive] at hp
          cases hp
        · exact hp hgive
    · rw [if_neg hgive]
      refine ⟨.notifyHost h.pc hsome rfl rfl hstate, fun h => absurd rfl h, nofun, nofun, ?_, List.nodup_cons.2 ⟨hnew, h.nodup⟩,
        h.sub.cons n, ?_, h.alone⟩
      · rintro k hk
        rcases List.mem_cons.1 hk with rfl | hk
        · exact hlt
        · exact h.numbers k hk
      · rintro hkvm
        obtain ⟨hp, -⟩ | ⟨-, hall⟩ := h.ledger hkvm
        · exact absurd hp hidle
        · exact .inl ⟨.inr ⟨rfl, hgive⟩, n, congrArg _ hall⟩
  · rw [complete_critical n ok hstate]
    refine ⟨?_, fun h => absurd rfl h, fun hs => ?_, nofun, h.numbers, h.nodup, h.sub, h.ledger, h.alone⟩
    · have hok := h.pc
      unfold Opal.PcOk at hok ⊢
      cases hp : s.pc <;> simp_all
    · rw [hstate] at hs
      cases hs

/-- The host is notified: the copy that ended last is the one it has not been told of. -/
theorem opalInv_notify {s : Opal} (h : OpalInv s) (hpc : s.pc = .notify) :
    OpalInv { s with pc := .idle, notified := if s.kvm then s.ended.headD 0 :: s.notified else s.notified } := by
  have hok := h.pc
  rw [Opal.PcOk, hpc] at hok
  have hpend : s.Pending := .inl hpc
  refine ⟨trivial, h.busy, fun hs => ?_, h.number, h.numbers, h.nodup, ?_, ?_, h.alone⟩
  · rw [hok.2] at hs
    cases hs
  · dsimp only
    split
    case isTrue hkvm =>
      obtain ⟨-, n, hn⟩ | ⟨hp, -⟩ := h.ledger hkvm
      · rw [hn]
        exact List.Sublist.refl _
      · exact absurd hpend hp
    case isFalse => exact h.sub
  · rintro hkvm
    refine .inr ⟨?_, ?_⟩
    · rintro (hp | ⟨hp, -⟩)
      · cases hp
      · rw [hok.2] at hp
        cases hp
    · obtain ⟨-, n, hn⟩ | ⟨hp, -⟩ := h.ledger hkvm
      · rw [if_pos hkvm, hn]
        rfl
      · exact absurd hpend hp

/-- A copy is scheduled. -/
theorem opalInv_schedule {s : Opal} (h : OpalInv s) (hpc : s.pc = .schedule) :
    OpalInv { s with
      pc := .scheduled
      outcome := .ok
      inFlight := some s.started
      started := s.started + 1
      overlapped := s.overlapped || s.inFlight.isSome } := by
  have hok := h.pc
  rw [Opal.PcOk, hpc] at hok
  refine ⟨.inl hok.2, fun _ => .inl hok.2, fun _ => .inl (Option.some_ne_none _), ?_, ?_, h.nodup, h.sub, ?_, ?_⟩
  · rintro n ⟨⟩
    exact ⟨Nat.lt_succ_self _, fun hn => Nat.lt_irrefl _ (h.numbers _ hn)⟩
  · rintro n hn
    exact (h.numbers n hn).trans (Nat.lt_succ_self _)
  · rintro hkvm
    have hpend : ∀ t : Opal, t.state = .dynamicCopy → t.pc ≠ .notify → ¬t.Pending := by
      rintro t hs hp (hp' | ⟨hs', -⟩)
      · exact hp hp'
      · rw [hs] at hs'
        cases hs'
    obtain ⟨hp, -⟩ | ⟨-, hall⟩ := h.ledger hkvm
    · exact absurd hp (hpend s hok.2 (by rw [hpc]; exact nofun))
    · exact .inr ⟨hpend _ hok.2 nofun, hall⟩
  · dsimp only
    rw [h.alone, hok.1]
    rfl

theorem OpalInv.store {s t : Opal} (h : OpalInv s) (hq : s.Quiet t) (hpc : t.PcOk) (hin : s.inFlight = none)
    (hcopy : t.state = .dynamicCopy → t.pc.Copying) (hpend : t.Pending ↔ s.Pending) : OpalInv t :=
  h.quiet hq hpc (fun hin' => absurd (hq.inFlight.trans hin) hin') (fun hs => .inr (hcopy hs)) hpend

theorem opalInv_access {s : Opal} (h : OpalInv s) {env : OpalEnv} {outcome : BceOutcome}
    (hok : OpalOk s (.access env outcome)) : OpalInv (s.access env outcome) := by
  have hat := h.pc
  unfold Opal.PcOk at hat
  unfold Opal.access
  cases hpc : s.pc <;> rw [hpc] at hat <;> dsimp only at hat ⊢
  case idle => exact h
  case testNotify =>
    split
    case isTrue hs =>
      have hin : s.inFlight = none := by
        by_contra hin
        exact h.not_pending hin (.inr ⟨hs, by rw [hpc]; exact nofun⟩)
      exact h.goto .setIdle s.numBceChecks ⟨hin, hs⟩ (by rw [hpc]; decide) (by simp [Opal.Pending, hpc])
    case isFalse hs =>
      exact h.goto .testCopy s.numBceChecks hat (by rw [hpc]; decide) (by simp [Opal.Pending, hpc])
  case testCopy =>
    split
    case isTrue hs =>
      refine h.retry .idle 1 trivial (by rw [hpc]; decide) (by rw [hpc]; decide) ?_
      rw [hs]
      decide
    case isFalse hs =>
      have hin : s.inFlight = none := by
        by_contra hin
        rcases h.busy hin with hs' | hs'
        · exact hs hs'
        · exact hat hs'
      exact h.goto .testRequest s.numBceChecks ⟨hin, hat⟩ (by rw [hpc]; decide) (by simp [Opal.Pending, hpc])
  case testRequest =>
    have hidle : ¬(s.bceReqScheduled = true ∧ s.inFlight.isSome = true) := by
      rw [hat.1]
      rintro ⟨-, hin⟩
      cases hin
    have hcopy : s.state ≠ .dynamicCopy := by
      intro hs
      rcases h.copy hs with hin | hin
      · exact hin hat.1
      · rw [hpc] at hin
        exact absurd hin (by decide)
    rw [if_neg hidle]
    exact h.goto .testFail s.numBceChecks ⟨hat.1, hcopy, hat.2⟩ (by rw [hpc]; decide) (by simp [Opal.Pending, hpc])
  case testFail =>
    split
    case isTrue hs =>
      have hstate : s.state ≠ .notifyHost ∧ s.state ≠ .criticalError := by rw [hs]; decide
      exact h.retry .setCopy 0 ⟨hat.1, hstate.1⟩ (by rw [hpc]; decide) (by rw [hpc]; decide) hstate
    case isFalse hs =>
      exact h.goto .compare s.numBceChecks hat (by rw [hpc]; decide) (by simp [Opal.Pending, hpc])
  case compare =>
    split
    case isTrue hchanged =>
      -- nothing is overtaken
      have hs : s.state ≠ .notifyHost := fun hs => hok hpc hs hchanged
      exact h.goto .setCopy s.numBceChecks ⟨hat.1, hs⟩ (by rw [hpc]; decide) (by simp [Opal.Pending, hpc, hs])
    case isFalse =>
      exact h.goto .idle s.numBceChecks trivial (by rw [hpc]; decide) (by simp [Opal.Pending, hpc])
  case setIdle =>
    exact h.store ⟨rfl, rfl, rfl, rfl, rfl, rfl⟩ ⟨hat.1, rfl⟩ hat.1 nofun (by simp [Opal.Pending, hpc, hat.2])
  case notify => exact opalInv_notify h hpc
  case setCopy =>
    refine h.store ⟨rfl, rfl, rfl, rfl, rfl, rfl⟩ ⟨hat.1, rfl⟩ hat.1 (fun _ => .inl rfl) ?_
    simp [Opal.Pending, hpc, hat.2]
  case populate =>
    refine h.store ⟨rfl, rfl, rfl, rfl, rfl, rfl⟩ hat hat.1 (fun _ => .inr (.inl rfl)) ?_
    simp [Opal.Pending, hpc, hat.2]
  case schedule =>
    cases outcome
    case ok => exact opalInv_schedule h hpc
    all_goals
      refine h.store ⟨rfl, rfl, rfl, rfl, rfl, rfl⟩ hat hat.1 (fun _ => .inr (.inr rfl)) ?_
      simp [Opal.Pending, hpc, hat.2]
  case scheduled =>
    refine h.quiet ⟨rfl, rfl, rfl, rfl, rfl, rfl⟩ (hat.elim .inl fun hs => .inr (.inl hs)) h.busy ?_ ?_
    · rintro hs
      refine .inl ((h.copy hs).resolve_right ?_)
      rw [hpc]
      decide
    · simp [Opal.Pending, hpc]
  case scheduleFail =>
    rw [if_pos hat.2]
    exact h.store ⟨rfl, rfl, rfl, rfl, rfl, rfl⟩ ⟨hat.1, rfl⟩ hat.1 nofun (by simp [Opal.Pending, hpc, hat.2])
  case scheduleLog =>
    refine h.store ⟨rfl, rfl, rfl, rfl, rfl, rfl⟩ (.inr (.inr hat.symm)) hat.1 (fun hs => ?_) ?_
    · rw [hat.2] at hs
      cases hs
    · simp [Opal.Pending, hpc]
  case testIdle =>
    split
    case isTrue hs =>
      have hin : s.inFlight = none := by
        rcases hat with hs' | hs' | ⟨-, hin⟩
        · rw [hs] at hs'
          cases hs'
        · rw [hs] at hs'
          cases hs'
        · exact hin
      exact h.goto .setFail s.numBceChecks ⟨hin, hs⟩ (by rw [hpc]; decide) (by simp [Opal.Pending, hpc])
    case isFalse hs => exact h.goto .idle 0 trivial (by rw [hpc]; decide) (by simp [Opal.Pending, hpc])
  case setFail =>
    exact h.store ⟨rfl, rfl, rfl, rfl, rfl, rfl⟩ trivial hat.1 nofun (by simp [Opal.Pending, hpc, hat.2])
  case setCritical =>
    refine h.quiet ⟨rfl, rfl, rfl, rfl, rfl, rfl⟩ rfl (fun _ => .inr rfl) nofun ?_
    simp [Opal.Pending, hpc]
  case criticalLog =>
    refine h.quiet ⟨rfl, rfl, rfl, rfl, rfl, rfl⟩ trivial h.busy (fun hs => ?_) ?_
    · rw [hat] at hs
      cases hs
    · simp [Opal.Pending, hpc, hat]

theorem opalInv_step (s : Opal) (e : OpalEvent) (t : Opal) (h : OpalInv s)
    (hst : Guarded OpalOk (StepOf Opal.next) s e t) : OpalInv t := by
  obtain ⟨hok, hst⟩ := hst
  cases e with
  | wake =>
    obtain ⟨hpc, ⟨⟩⟩ := Option.ite_none_right_eq_some.1 hst
    exact opalInv_wake h hpc
  | access env outcome =>
    obtain ⟨hpc, ⟨⟩⟩ := Option.ite_none_left_eq_some.1 hst
    exact opalInv_access h hok
  | complete ok =>
    simp only [StepOf, Opal.next] at hst
    split at hst
    · cases hst
    · cases hst
      exact opalInv_complete h ok ‹_›

/-! ## The rest of the law -/

theorem frozen_run {s t : Opal} {es : List OpalEvent} (hpc : s.pc = .idle) (hstate : s.state = .criticalError)
    (h : Run (StepOf Opal.next) s es t) : s.Frozen t := by
  suffices hinv : t.pc = .idle ∧ t.state = .criticalError ∧ s.Frozen t from hinv.2.2
  refine h.invariant (P := fun u => u.pc = .idle ∧ u.state = .criticalError ∧ s.Frozen u) ?_
    ⟨hpc, hstate, ⟨rfl, rfl, rfl⟩⟩
  rintro u e v ⟨hpc, hstate, hf⟩ hst
  cases e with
  | wake =>
    obtain ⟨-, ⟨⟩⟩ := Option.ite_none_right_eq_some.1 hst
    have hw : u.wake = u := if_neg fun hne => hne hstate
    rw [hw]
    exact ⟨hpc, hstate, hf⟩
  | access env outcome => exact absurd hpc (Option.ite_none_left_eq_some.1 hst).1
  | complete ok =>
    simp only [StepOf, Opal.next] at hst
    split at hst
    · cases hst
    · cases hst
      rw [complete_critical _ ok hstate]
      exact ⟨hpc, hstate, hf.started, hf.notified, hf.logs⟩

theorem next_alone {s t : Opal} {e : OpalEvent} (hin : s.inFlight = none) (hst : StepOf Opal.next s e t) :
    (s.pc = .idle ∧ t = s.wake) ∨ (s.pc ≠ .idle ∧ ∃ env outcome, t = s.access env outcome) := by
  cases e with
  | wake =>
    obtain ⟨hpc, ⟨⟩⟩ := Option.ite_none_right_eq_some.1 hst
    exact .inl ⟨hpc, rfl⟩
  | access env outcome =>
    obtain ⟨hpc, ⟨⟩⟩ := Option.ite_none_left_eq_some.1 hst
    exact .inr ⟨hpc, env, outcome, rfl⟩
  | complete ok =>
    rw [StepOf, Opal.next, hin] at hst
    cases hst

/-- The call that finds the copy ended notifies the host: it wakes up, tests, stores and notifies. -/
theorem notified_of_wake {s t : Opal} {es : List OpalEvent} (hpc : s.pc = .idle) (hstate : s.state = .notifyHost)
    (hin : s.inFlight = none) (hkvm : s.kvm = true) (h : Run (StepOf Opal.next) s es t) (hlen : es.length = 4) :
    t.notified = s.ended.headD 0 :: s.notified := by
  obtain _ | ⟨h₁, h⟩ := h
  · cases hlen
  obtain ⟨-, rfl⟩ | ⟨hne, -⟩ := next_alone hin h₁
  swap
  · exact absurd hpc hne
  have hwake : s.wake = { s with pc := .testNotify } := if_pos (by rw [hstate]; decide)
  rw [hwake] at h
  obtain _ | ⟨h₂, h⟩ := h
  · cases hlen
  obtain ⟨⟨⟩, -⟩ | ⟨-, env₂, o₂, rfl⟩ := next_alone (by exact hin) h₂
  simp only [Opal.access, hstate, if_true] at h
  obtain _ | ⟨h₃, h⟩ := h
  · cases hlen
  obtain ⟨⟨⟩, -⟩ | ⟨-, env₃, o₃, rfl⟩ := next_alone (by exact hin) h₃
  simp only [Opal.access] at h
  obtain _ | ⟨h₄, h⟩ := h
  · cases hlen
  obtain ⟨⟨⟩, -⟩ | ⟨-, env₄, o₄, rfl⟩ := next_alone (by exact hin) h₄
  obtain _ | ⟨-, h⟩ := h
  · simp only [Opal.access, hkvm, if_true]
  · simp only [List.length_cons] at hlen
    omega

theorem OpalInv.law {s : Opal} (h : OpalInv s) : OpalLaw s where
  once := h.nodup.sublist h.sub
  after := fun n hn => h.sub.subset hn
  each := by
    rintro hkvm n hn
    obtain ⟨hp, k, hk⟩ | ⟨-, hall⟩ := h.ledger hkvm
    · rw [hk] at hn ⊢
      rcases List.mem_cons.1 hn with rfl | hn
      · exact .inr ⟨hp, rfl⟩
      · exact .inl hn
    · rw [hall] at hn
      exact .inl hn
  soon := by
    rintro hkvm hpc hp es t hrun hlen
    have hin : s.inFlight = none := by
      by_contra hin
      exact h.not_pending hin hp
    obtain ⟨-, k, hk⟩ | ⟨hnp, -⟩ := h.ledger hkvm
    · have hstate : s.state = .notifyHost := by
        rcases hp with hn | ⟨hs, -⟩
        · rw [hpc] at hn
          cases hn
        · exact hs
      rw [notified_of_wake hpc hstate hin hkvm hrun hlen, hk]
      rfl
    · exact absurd hp hnp
  alone := h.alone
  critical := fun hpc hstate _ _ hrun => frozen_run hpc hstate hrun

/-! ## Runs -/

theorem opalLaw_of_opalOk {kvm : Bool} {es : List OpalEvent} {s : Opal}
    (h : Run (Guarded OpalOk (StepOf Opal.next)) (.boot kvm) es s) : OpalLaw s :=
  (h.invariant opalInv_step (opalInv_boot kvm)).law

/-- A change of the memory throttle status. -/
def memThrotEnv (reason : BitVec 8) : OpalEnv := ⟨0, false, false, 0, 0, reason, 0, 0, 0, 0, 0, 0, 0⟩

/-- A change is copied, and the call after it notifies the host. -/
def notifiedRun : List OpalEvent :=
  .wake :: List.replicate 10 (.access (memThrotEnv 1) .ok) ++ .complete true :: .wake ::
    List.replicate 3 (.access (memThrotEnv 1) .ok)

theorem notifiedRun_exec :
    (exec (fun s e => if OpalOk s e then Opal.next s e else none) (.boot true) notifiedRun).map
      (fun s => (s.ended, s.notified)) = some ([0], [0]) := by
  decide

theorem opalLaw_of_opalOk_notified : ∃ s, (s.ended, s.notified) = ([0], [0]) ∧ OpalLaw s := by
  obtain ⟨s, hs, hn⟩ := Option.map_eq_some_iff.1 notifiedRun_exec
  exact ⟨s, hn, opalLaw_of_opalOk (run_guarded_of_exec hs)⟩

/-- The first copy ends between the two tests of the state, the call finds another change, and the copies of it
cannot be requested until the thread gives up. -/
def overtakenRun : List OpalEvent :=
  .wake :: List.replicate 10 (.access (memThrotEnv 1) .ok) ++
    .wake :: .access (memThrotEnv 1) .ok :: .complete true ::
    List.replicate 11 (.access (memThrotEnv 2) .createFails) ++
    .wake :: List.replicate 11 (.access (memThrotEnv 2) .createFails) ++
    .wake :: List.replicate 11 (.access (memThrotEnv 2) .createFails) ++
    .wake :: List.replicate 6 (.access (memThrotEnv 2) .createFails)

theorem overtakenRun_exec :
    (exec Opal.next (.boot true) overtakenRun).map (fun s => (s.kvm, s.ended, s.notified, s.pc, s.state)) =
      some (true, [0], [], .idle, .criticalError) := by
  decide

/-- The copy ended well before the thread gave up, and the host is never told. -/
theorem overtaken_not_notified :
    ∃ es s, Run (StepOf Opal.next) (.boot true) es s ∧ ¬OpalLaw s ∧
      s.ended = [0] ∧ ∀ fs t, Run (StepOf Opal.next) s fs t → t.notified = [] := by
  obtain ⟨s, hs, hf⟩ := Option.map_eq_some_iff.1 overtakenRun_exec
  obtain ⟨hkvm, hended, hnotified, hpc, hstate⟩ := by simpa only [Prod.mk.injEq] using hf
  refine ⟨overtakenRun, s, exec_eq_some_iff.1 hs, ?_, hended, ?_⟩
  · intro h
    rcases h.each hkvm 0 (by rw [hended]; exact List.mem_singleton_self 0) with hn | ⟨hp, -⟩
    · rw [hnotified] at hn
      cases hn
    · rcases hp with hp | ⟨hp, -⟩
      · rw [hpc] at hp
        cases hp
      · rw [hstate] at hp
        cases hp
  · rintro fs t hrun
    rw [(frozen_run hpc hstate hrun).notified, hnotified]

end Occ.Proc
