/-
The busy-waits of the Pstate clips: each of them must end within the waits its time-out allows, and a time-out
must be a failure for the caller. The waits are counted beside the function's own counters, whose widths differ:
the byte of `pgpe_set_clip_blocking` does not reach the time-out, the word of `pgpe_clip_update` does.
-/
import Occ.Pgpe.ClipContract

namespace Occ.Pgpe

open Occ Transition

/-! ## Waits -/

/-- A step from one place to the other waits once more in the same loop. -/
def ClipPc.waitsOn : ClipPc → ClipPc → Bool
  | .waitIdle _ _, .waitIdle _ _ => true
  | .updateWait _ _, .updateWait _ _ => true
  | .waitDone _ _, .waitDone _ _ => true
  | _, _ => false

/-- It is in one of the loops. -/
def ClipPc.polls (pc : ClipPc) : Bool := pc.waitsOn pc

/-- What is returned by a step from a place to a state: `pgpe_clip_update` returns success to
`pgpe_set_clip_blocking`, which waits for the request then, or the function itself returns. -/
def ClipPc.returned (pc : ClipPc) (k : Clip) : Option Nat :=
  match pc, k.pc with
  | .updateWait _ _, .waitDone _ _ => some 0
  | .copy _ _ _, .waitDone _ _ => some 0
  | _, .idle => k.results.head?.map Prod.snd
  | _, _ => none

/-- The clips with the history of the waits. -/
structure ClipWait where
  clip : Clip
  /-- `pgpe_clip_update` is called by itself, by a caller that need not have found the request idle -/
  direct : Bool
  /-- the waits of the loop it is in -/
  waits : Nat
  /-- a loop of the call ended with the request still in flight -/
  expired : Bool
  /-- what the functions returned, and whether a loop of the call had ended so, the latest first -/
  returns : List (Bool × Nat)

namespace ClipWait

variable (cfg : ClipConfig) (s : ClipWait)

/-- The next step of the function that is called. -/
def thread (ignore ok : Bool) : ClipWait :=
  let k := s.clip.thread cfg ignore ok
  let expired := s.expired || (s.clip.pc.polls && s.clip.running && !s.clip.pc.waitsOn k.pc)
  { clip :=
      -- without a caller that waits for the request, the return ends the call
      match s.direct, k.pc with
      | true, .waitDone _ _ => { k with pc := .idle }
      | _, _ => k
    direct := s.direct
    waits := if s.clip.pc.waitsOn k.pc then s.waits + 1 else 0
    expired := expired
    returns :=
      match s.clip.pc.returned k with
      | some rc => (expired, rc) :: s.returns
      | none => s.returns }

/-- Before any wait. -/
def start (k : Clip) : ClipWait := ⟨k, false, 0, false, []⟩

end ClipWait

inductive WaitEvent
  | clip (e : ClipEvent)
  /-- `pgpe_clip_update` is called by itself; the Pstate is that of no call -/
  | update

/-- The state after an event, when it can happen. -/
def ClipWait.next (cfg : ClipConfig) (s : ClipWait) : WaitEvent → Option ClipWait
  | .update =>
    if s.clip.pc = .idle then
      some { s with clip := { s.clip with pc := .updateWait 0 0 }, direct := true, waits := 0, expired := false }
    else none
  | .clip (.thread ignore ok) => if s.clip.pc = .idle then none else some (s.thread cfg ignore ok)
  | .clip (.call p) =>
    (s.clip.next cfg (.call p)).map fun k => { s with clip := k, direct := false, waits := 0, expired := false }
  | .clip e => (s.clip.next cfg e).map fun k => { s with clip := k }

/-- No loop waits more often than its time-out allows, and a call with a time-out returned a failure. -/
structure WaitLaw (s : ClipWait) : Prop where
  bounded : s.waits ≤ clipUpdateTimeout + 1
  reported : ∀ r ∈ s.returns, r.1 = true → r.2 ≠ 0

/-- The law holds after a step. -/
def WaitKeeps (cfg : ClipConfig) (s : ClipWait) (e : WaitEvent) : Prop := ∀ t, s.next cfg e = some t → WaitLaw t

/-- The condition on a step: a request that `pgpe_set_clip_blocking` has waited for as often as the time-out allows
is idle, and one that `pgpe_clip_update` has waited for so is idle when the environment is simulated. -/
def WaitOk (cfg : ClipConfig) (s : ClipWait) : WaitEvent → Prop
  | .clip (.thread _ _) =>
    s.clip.running = true → s.waits = clipUpdateTimeout + 1 →
      match s.clip.pc with
      | .waitIdle _ _ => False
      | .waitDone _ _ => False
      | .updateWait _ _ => cfg.simics = false
      | _ => True
  | _ => True

instance (cfg : ClipConfig) (s : ClipWait) (e : WaitEvent) : Decidable (WaitOk cfg s e) := by
  unfold WaitOk
  split
  · split <;> infer_instance
  · infer_instance

/-! ## Steps -/

/-- What holds where the function is. -/
def PcExpired (s : ClipWait) : Prop :=
  match s.clip.pc with
  | .idle => True
  | .updateWait _ w => w = s.waits ∧ s.expired = false
  | .copy _ _ ext_rc => s.expired = true → ext_rc ≠ 0
  | _ => s.expired = false ∧ s.direct = false

structure WaitInv (s : ClipWait) : Prop where
  law : WaitLaw s
  pcExpired : PcExpired s

section

variable {cfg : ClipConfig} {s t : ClipWait} {ignore ok : Bool}

theorem byte_le_timeout (w : BitVec 8) : ¬w.toNat > clipUpdateTimeout := by
  have hw := w.isLt
  unfold clipUpdateTimeout
  omega

theorem WaitLaw.push (h : WaitLaw s) {expired : Bool} {rc : Nat} (hrc : expired = true → rc ≠ 0) :
    ∀ r ∈ (expired, rc) :: s.returns, r.1 = true → r.2 ≠ 0 := by
  rintro r hmem
  obtain rfl | hmem := List.mem_cons.1 hmem
  · exact hrc
  · exact h.reported r hmem

theorem submit_rc (k : Clip) (ext_rc : Nat) (ok : Bool) (h : (k.submit cfg ext_rc ok).2 = 0) : ext_rc = 0 := by
  unfold Clip.submit at h
  dsimp only at h
  split_ifs at h
  · exact h
  · exact absurd (show ercPgpeClipFailure = 0 from h) (by decide)
  · exact h
  · exact h

theorem waitIdle_step {p : Pstate} {w : BitVec 8} (hpc : s.clip.pc = .waitIdle p w) (hr : s.clip.running = true)
    (hd : s.direct = false) :
    s.thread cfg ignore ok =
      { s with clip := { s.clip with pc := .waitIdle p (w + 1) }, waits := s.waits + 1 } := by
  have hk : s.clip.thread cfg ignore ok = { s.clip with pc := .waitIdle p (w + 1) } := by
    unfold Clip.thread
    rw [hpc]
    dsimp only
    rw [if_neg (by rw [hr]; decide), if_neg (byte_le_timeout w)]
  unfold ClipWait.thread
  rw [hk, hpc, hd]
  simp [ClipPc.polls, ClipPc.waitsOn, ClipPc.returned]

theorem waitDone_step {p : Pstate} {w : BitVec 8} (hpc : s.clip.pc = .waitDone p w) (hr : s.clip.running = true)
    (hd : s.direct = false) :
    s.thread cfg ignore ok =
      { s with clip := { s.clip with pc := .waitDone p (w + 1) }, waits := s.waits + 1 } := by
  have hk : s.clip.thread cfg ignore ok = { s.clip with pc := .waitDone p (w + 1) } := by
    unfold Clip.thread
    rw [hpc]
    dsimp only
    rw [if_neg (by rw [hr]; decide), if_neg (byte_le_timeout w)]
  unfold ClipWait.thread
  rw [hk, hpc, hd]
  simp [ClipPc.polls, ClipPc.waitsOn, ClipPc.returned]

/-- What a step of the called function does: it keeps the law, or the condition is not met and the law breaks. -/
def Decides (cfg : ClipConfig) (s : ClipWait) (ignore ok : Bool) : Prop :=
  WaitOk cfg s (.clip (.thread ignore ok)) ∧ WaitInv (s.thread cfg ignore ok) ∨
    ¬WaitOk cfg s (.clip (.thread ignore ok)) ∧ ¬WaitLaw (s.thread cfg ignore ok)

theorem WaitInv.poll (h : WaitInv s) (pc : ClipPc)
    (hpc : PcExpired { s with clip := { s.clip with pc := pc }, waits := s.waits + 1 })
    (hok : WaitOk cfg s (.clip (.thread ignore ok)) ↔ s.waits ≠ clipUpdateTimeout + 1)
    (hstep : s.thread cfg ignore ok = { s with clip := { s.clip with pc := pc }, waits := s.waits + 1 }) :
    Decides cfg s ignore ok := by
  have hbound := h.law.bounded
  by_cases hlast : s.waits = clipUpdateTimeout + 1
  · refine .inr ⟨fun hok' => hok.1 hok' hlast, fun hlaw => ?_⟩
    have hmore : s.waits + 1 ≤ clipUpdateTimeout + 1 := by
      rw [hstep] at hlaw
      exact hlaw.bounded
    omega
  · refine .inl ⟨hok.2 hlast, ?_⟩
    rw [hstep]
    exact ⟨⟨by show s.waits + 1 ≤ _; omega, h.law.reported⟩, hpc⟩

theorem WaitInv.moves (h : WaitInv s) (k : Clip) (expired : Bool) (hok : WaitOk cfg s (.clip (.thread ignore ok)))
    (hpc : PcExpired { s with clip := k, waits := 0, expired := expired })
    (hstep : s.thread cfg ignore ok = { s with clip := k, waits := 0, expired := expired }) :
    Decides cfg s ignore ok := by
  refine .inl ⟨hok, ?_⟩
  rw [hstep]
  exact ⟨⟨Nat.zero_le _, h.law.reported⟩, hpc⟩

theorem WaitInv.returns (h : WaitInv s) (k : Clip) (expired : Bool) (rc : Nat)
    (hok : WaitOk cfg s (.clip (.thread ignore ok)))
    (hpc : PcExpired { s with clip := k, waits := 0, expired := expired, returns := (expired, rc) :: s.returns })
    (hrc : expired = true → rc ≠ 0)
    (hstep : s.thread cfg ignore ok =
      { s with clip := k, waits := 0, expired := expired, returns := (expired, rc) :: s.returns }) :
    Decides cfg s ignore ok := by
  refine .inl ⟨hok, ?_⟩
  rw [hstep]
  exact ⟨⟨Nat.zero_le _, h.law.push hrc⟩, hpc⟩

/-- The loop of `pgpe_clip_update`, whose time-out is a failure unless the environment is simulated. -/
theorem WaitInv.updateWait (h : WaitInv s) {p : Pstate} {w : Nat} (hpc : s.clip.pc = .updateWait p w)
    (hw : w = s.waits) (hexp : s.expired = false) : Decides cfg s ignore ok := by
  have hbound := h.law.bounded
  have hokOf : (s.clip.running = true → s.waits = clipUpdateTimeout + 1 → cfg.simics = false) →
      WaitOk cfg s (.clip (.thread ignore ok)) := by
    rintro hsim hr hlast
    rw [hpc]
    exact hsim hr hlast
  by_cases hends : s.clip.running = false ∨ w > clipUpdateTimeout
  · have hk : s.clip.thread cfg ignore ok = { s.clip with
        pc := if cfg.simics then .waitDone p 0 else .copy p 0 (if s.clip.running then ercPgpeClipNotIdle else 0) } := by
      unfold Clip.thread
      rw [hpc]
      dsimp only
      rw [if_pos hends]
    cases hsim : cfg.simics with
    | false =>
      refine h.moves ({ s.clip with pc := .copy p 0 (if s.clip.running then ercPgpeClipNotIdle else 0) })
        s.clip.running (hokOf fun _ _ => hsim) ?_ ?_
      · intro hr
        have hr : s.clip.running = true := hr
        show (if s.clip.running = true then ercPgpeClipNotIdle else 0) ≠ 0
        rw [if_pos hr]
        decide
      · unfold ClipWait.thread
        rw [hk, hpc, hsim]
        simp [ClipPc.polls, ClipPc.waitsOn, ClipPc.returned, hexp]
    | true =>
      have hstep : s.thread cfg ignore ok =
          { s with
            clip := { s.clip with pc := if s.direct then .idle else .waitDone p 0 }, waits := 0, expired := s.clip.running
            returns := (s.clip.running, 0) :: s.returns } := by
        unfold ClipWait.thread
        rw [hk, hpc, hsim]
        cases hd : s.direct <;> simp [ClipPc.polls, ClipPc.waitsOn, ClipPc.returned, hexp]
      obtain hr | hr := Bool.eq_false_or_eq_true s.clip.running
      · refine .inr ⟨fun hok => ?_, fun hlaw => ?_⟩
        · have hlast : s.waits = clipUpdateTimeout + 1 := by
            rw [hr, hw] at hends
            have hgt := hends.resolve_left (by decide)
            omega
          have hcond := hok hr hlast
          rw [hpc] at hcond
          exact absurd (hsim.symm.trans hcond) (by decide)
        · rw [hstep, hr] at hlaw
          exact hlaw.reported (true, 0) List.mem_cons_self rfl rfl
      · rw [hr] at hstep
        refine h.returns _ false 0 (hokOf fun hr' => absurd (hr.symm.trans hr') (by decide)) ?_
          (fun ht => absurd ht (by decide)) hstep
        cases hd : s.direct with
        | false => exact ⟨rfl, rfl⟩
        | true => exact trivial
  · rw [not_or] at hends
    obtain ⟨hr, hle⟩ := hends
    have hk : s.clip.thread cfg ignore ok = { s.clip with pc := .updateWait p (w + 1) } := by
      unfold Clip.thread
      rw [hpc]
      exact if_neg (not_or.2 ⟨hr, hle⟩)
    have hstep : s.thread cfg ignore ok =
        { s with clip := { s.clip with pc := .updateWait p (w + 1) }, waits := s.waits + 1 } := by
      unfold ClipWait.thread
      rw [hk, hpc]
      cases hd : s.direct <;> simp [ClipPc.polls, ClipPc.waitsOn, ClipPc.returned]
    refine .inl ⟨hokOf fun _ hlast => absurd (hw.trans hlast) (by omega), ?_⟩
    rw [hstep]
    exact ⟨⟨by show s.waits + 1 ≤ _; omega, h.law.reported⟩, congrArg (· + 1) hw, hexp⟩

/-- The clips are copied and the request is sent: a time-out that came before stays a failure. -/
theorem WaitInv.copy (h : WaitInv s) {p : Pstate} {q ext_rc : Nat} (hpc : s.clip.pc = .copy p q ext_rc)
    (hexp : s.expired = true → ext_rc ≠ 0) : Decides cfg s ignore ok := by
  have hok : WaitOk cfg s (.clip (.thread ignore ok)) := by
    rintro - -
    rw [hpc]
    exact trivial
  have hk : s.clip.thread cfg ignore ok =
      if h : q < 6 then { s.clip.copyQuad ⟨q, h⟩ with pc := .copy p (q + 1) ext_rc }
      else
        let r := s.clip.submit cfg ext_rc ok
        if r.2 ≠ 0 then r.1.ret p r.2 else { r.1 with pc := .waitDone p 0 } := by
    unfold Clip.thread
    rw [hpc]
  by_cases hq : q < 6
  · rw [dif_pos hq] at hk
    refine h.moves ({ s.clip.copyQuad ⟨q, hq⟩ with pc := .copy p (q + 1) ext_rc }) s.expired hok hexp ?_
    unfold ClipWait.thread
    rw [hk, hpc]
    cases hd : s.direct <;> simp [ClipPc.polls, ClipPc.waitsOn, ClipPc.returned]
  · rw [dif_neg hq] at hk
    dsimp only at hk
    by_cases hrc : (s.clip.submit cfg ext_rc ok).2 = 0
    · rw [if_neg (not_not.2 hrc)] at hk
      have hfalse : s.expired = false := by
        rw [← Bool.not_eq_true]
        exact fun ht => hexp ht (submit_rc s.clip ext_rc ok hrc)
      refine h.returns ({ (s.clip.submit cfg ext_rc ok).1 with pc := if s.direct then .idle else .waitDone p 0 })
        s.expired 0 hok ?_ (fun ht => absurd (hfalse.symm.trans ht) (by decide)) ?_
      · cases hd : s.direct with
        | false => exact ⟨hfalse, rfl⟩
        | true => exact trivial
      · unfold ClipWait.thread
        rw [hk, hpc]
        cases hd : s.direct <;> simp [ClipPc.polls, ClipPc.waitsOn, ClipPc.returned]
    · rw [if_pos hrc] at hk
      refine h.returns ((s.clip.submit cfg ext_rc ok).1.ret p (s.clip.submit cfg ext_rc ok).2)
        s.expired ((s.clip.submit cfg ext_rc ok).2) hok trivial (fun _ => hrc) ?_
      unfold ClipWait.thread
      rw [hk, hpc]
      cases hd : s.direct <;> simp [ClipPc.polls, ClipPc.waitsOn, ClipPc.returned, Clip.ret]

theorem WaitInv.thread (h : WaitInv s) (hne : s.clip.pc ≠ .idle) : Decides cfg s ignore ok := by
  have hpcExp := h.pcExpired
  unfold PcExpired at hpcExp
  cases hpc : s.clip.pc <;> simp only [hpc] at hpcExp
  case idle => exact absurd hpc hne
  case waitIdle p w =>
    obtain ⟨hexp, hd⟩ := hpcExp
    obtain hr | hr := Bool.eq_false_or_eq_true s.clip.running
    · refine h.poll (.waitIdle p (w + 1)) ⟨hexp, hd⟩ ?_ (waitIdle_step hpc hr hd)
      unfold WaitOk
      rw [hpc]
      exact ⟨fun hok hlast => hok hr hlast, fun hlast _ heq => hlast heq⟩
    · refine h.moves ({ s.clip with pc := .fill p }) s.expired
        (fun hr' => absurd (hr.symm.trans hr') (by decide)) ⟨hexp, hd⟩ ?_
      have hk : s.clip.thread cfg ignore ok = { s.clip with pc := .fill p } := by
        unfold Clip.thread
        rw [hpc]
        exact if_pos hr
      unfold ClipWait.thread
      rw [hk, hpc, hd]
      simp [ClipPc.polls, ClipPc.waitsOn, ClipPc.returned, hr]
  case fill p =>
    obtain ⟨hexp, hd⟩ := hpcExp
    refine h.moves ({ s.clip with desiredPstate := fun _ => p, pc := .updateWait p 0 }) s.expired
      ?_ ⟨rfl, hexp⟩ ?_
    · rintro - -
      rw [hpc]
      exact trivial
    · have hk : s.clip.thread cfg ignore ok = { s.clip with desiredPstate := fun _ => p, pc := .updateWait p 0 } := by
        unfold Clip.thread
        rw [hpc]
      unfold ClipWait.thread
      rw [hk, hpc, hd]
      simp [ClipPc.polls, ClipPc.waitsOn, ClipPc.returned]
  case updateWait p w => exact h.updateWait hpc hpcExp.1 hpcExp.2
  case copy p q ext_rc => exact h.copy hpc hpcExp
  case waitDone p w =>
    obtain ⟨hexp, hd⟩ := hpcExp
    obtain hr | hr := Bool.eq_false_or_eq_true s.clip.running
    · refine h.poll (.waitDone p (w + 1)) ⟨hexp, hd⟩ ?_ (waitDone_step hpc hr hd)
      unfold WaitOk
      rw [hpc]
      exact ⟨fun hok hlast => hok hr hlast, fun hlast _ heq => hlast heq⟩
    · refine h.moves ({ s.clip with pc := .check p 0 }) s.expired
        (fun hr' => absurd (hr.symm.trans hr') (by decide)) ⟨hexp, hd⟩ ?_
      have hk : s.clip.thread cfg ignore ok = { s.clip with pc := .check p 0 } := by
        unfold Clip.thread
        rw [hpc]
        exact if_pos hr
      unfold ClipWait.thread
      rw [hk, hpc, hd]
      simp [ClipPc.polls, ClipPc.waitsOn, ClipPc.returned, hr]
  case check p rc =>
    obtain ⟨hexp, hd⟩ := hpcExp
    refine h.returns (s.clip.ret p (if s.clip.parms.rc ≠ pgpeRcSuccess then gpeRequestRcFailure else rc))
      s.expired (if s.clip.parms.rc ≠ pgpeRcSuccess then gpeRequestRcFailure else rc) ?_ trivial
      (fun ht => absurd (hexp.symm.trans ht) (by decide)) ?_
    · rintro - -
      rw [hpc]
      exact trivial
    · have hk : s.clip.thread cfg ignore ok =
          s.clip.ret p (if s.clip.parms.rc ≠ pgpeRcSuccess then gpeRequestRcFailure else rc) := by
        unfold Clip.thread
        rw [hpc]
      unfold ClipWait.thread
      rw [hk, hpc, hd]
      simp [ClipPc.polls, ClipPc.waitsOn, ClipPc.returned, Clip.ret]

theorem foldl_copyQuad_pc (k : Clip) (l : List (Fin 6)) : (l.foldl Clip.copyQuad k).pc = k.pc := by
  induction l generalizing k with
  | nil => rfl
  | cons q l ih => exact ih (k.copyQuad q)

theorem submit_pc (k : Clip) (ext_rc : Nat) (ok : Bool) : (k.submit cfg ext_rc ok).1.pc = k.pc := by
  unfold Clip.submit
  dsimp only
  split_ifs <;> rfl

theorem taskCoreDataControl_pc (k : Clip) (ok : Bool) : (k.taskCoreDataControl cfg ok).pc = k.pc := by
  unfold Clip.taskCoreDataControl Clip.pgpeClipUpdate
  split_ifs
  · rfl
  · rfl
  · rw [submit_pc, foldl_copyQuad_pc]
  · rfl

/-- The other events leave the function where it is. -/
theorem next_pc {k k' : Clip} {e : ClipEvent} (hn : k.next cfg e = some k') (hthread : ∀ ignore ok, e ≠ .thread ignore ok)
    (hcall : ∀ p, e ≠ .call p) : k'.pc = k.pc := by
  cases e with
  | thread ignore ok => exact absurd rfl (hthread ignore ok)
  | call p => exact absurd rfl (hcall p)
  | startTransition =>
    unfold Clip.next at hn
    dsimp only at hn
    split_ifs at hn
    cases hn
    rfl
  | endTransition =>
    unfold Clip.next at hn
    dsimp only at hn
    split_ifs at hn
    cases hn
    rfl
  | amec pmax =>
    cases hn
    rfl
  | control ok =>
    cases hn
    exact taskCoreDataControl_pc k ok
  | done rc =>
    unfold Clip.next at hn
    dsimp only at hn
    split_ifs at hn
    cases hn
    cases rc <;> rfl
  | freqConfig fmin =>
    cases hn
    rfl
  | allow b =>
    cases hn
    rfl
  | setPstates =>
    cases hn
    rfl

/-- An event that is no step of a called function keeps the law. -/
theorem WaitInv.next {e : WaitEvent} (h : WaitInv s) (hn : s.next cfg e = some t)
    (hthread : ∀ ignore ok, e ≠ .clip (.thread ignore ok)) : WaitInv t := by
  cases e with
  | update =>
    unfold ClipWait.next at hn
    split_ifs at hn
    cases hn
    exact ⟨⟨Nat.zero_le _, h.law.reported⟩, rfl, rfl⟩
  | clip e =>
    by_cases hcall : ∃ p, e = .call p
    · obtain ⟨p, rfl⟩ := hcall
      obtain ⟨k, hk, rfl⟩ := Option.map_eq_some_iff.1 hn
      unfold Clip.next at hk
      dsimp only at hk
      split_ifs at hk
      cases hk
      exact ⟨⟨Nat.zero_le _, h.law.reported⟩, rfl, rfl⟩
    · have hcall : ∀ p, e ≠ .call p := fun p he => hcall ⟨p, he⟩
      have hthread : ∀ ignore ok, e ≠ .thread ignore ok := fun ignore ok he => hthread ignore ok (congrArg WaitEvent.clip he)
      have hnext : s.next cfg (.clip e) = (s.clip.next cfg e).map fun k => { s with clip := k } := by
        cases e with
        | thread ignore ok => exact absurd rfl (hthread ignore ok)
        | call p => exact absurd rfl (hcall p)
        | _ => rfl
      rw [hnext] at hn
      obtain ⟨k, hk, rfl⟩ := Option.map_eq_some_iff.1 hn
      refine ⟨⟨h.law.bounded, h.law.reported⟩, ?_⟩
      have hpcExp := h.pcExpired
      unfold PcExpired at hpcExp ⊢
      dsimp only
      rw [next_pc hk hthread hcall]
      exact hpcExp

theorem next_thread (hn : s.next cfg (.clip (.thread ignore ok)) = some t) :
    s.clip.pc ≠ .idle ∧ t = s.thread cfg ignore ok := by
  unfold ClipWait.next at hn
  split_ifs at hn with hpc
  cases hn
  exact ⟨hpc, rfl⟩

theorem WaitInv.keeps {e : WaitEvent} (h : WaitInv s) (hok : WaitOk cfg s e) (hn : s.next cfg e = some t) : WaitInv t := by
  by_cases hthread : ∃ ignore ok, e = .clip (.thread ignore ok)
  · obtain ⟨ignore, ok, rfl⟩ := hthread
    obtain ⟨hpc, rfl⟩ := next_thread hn
    obtain ⟨-, hinv⟩ | ⟨hnot, -⟩ := @WaitInv.thread cfg s ignore ok h hpc
    · exact hinv
    · exact absurd hok hnot
  · exact h.next hn fun ignore ok he => hthread ⟨ignore, ok, he⟩

theorem waitKeeps_iff {e : WaitEvent} (h : WaitInv s) (hn : s.next cfg e = some t) : WaitKeeps cfg s e ↔ WaitOk cfg s e := by
  constructor
  · rintro hkeeps
    by_cases hthread : ∃ ignore ok, e = .clip (.thread ignore ok)
    · obtain ⟨ignore, ok, rfl⟩ := hthread
      obtain ⟨hpc, rfl⟩ := next_thread hn
      obtain ⟨hok, -⟩ | ⟨-, hbreaks⟩ := @WaitInv.thread cfg s ignore ok h hpc
      · exact hok
      · exact absurd (hkeeps _ hn) hbreaks
    · cases e with
      | update => trivial
      | clip e =>
        cases e with
        | thread ignore ok => exact absurd ⟨ignore, ok, rfl⟩ hthread
        | _ => trivial
  · rintro hok t ht
    exact (h.keeps hok ht).law

theorem waitInv_start {k : Clip} (hk : k.pc = .idle) : WaitInv (.start k) := by
  refine ⟨⟨Nat.zero_le _, by simp [ClipWait.start]⟩, ?_⟩
  unfold PcExpired ClipWait.start
  dsimp only
  rw [hk]
  exact trivial

end

/-! ## Runs -/

/-- From any state of the clips in which no function runs: the waits of all loops are bounded and all their time-outs
reported, step after step, if and only if all the steps meet the condition. -/
theorem waitLaw_run (cfg : ClipConfig) {k : Clip} {t : ClipWait} {es : List WaitEvent} (hk : k.pc = .idle) :
    Run (Guarded (WaitKeeps cfg) (StepOf (ClipWait.next cfg))) (.start k) es t ↔
      Run (Guarded (WaitOk cfg) (StepOf (ClipWait.next cfg))) (.start k) es t :=
  run_guarded_congr_of (P := WaitInv) (fun _ _ _ hs hok hn => hs.keeps hok hn) (fun _ _ _ hs hn => waitKeeps_iff hs hn)
    (waitInv_start hk)

/-- The clips of a system that has just started. -/
def started : ClipWait := .start (.start (fun _ => 0) 90)

/-- A call whose request ends. -/
theorem waitLaw_run_ends : ∃ t, t.returns = [(false, 0), (false, 0)] ∧
    Run (Guarded (WaitKeeps opal) (StepOf (ClipWait.next opal))) started
      ((setClipRun (some pgpeRcSuccess)).map .clip) t :=
  ⟨_, rfl, (waitLaw_run opal rfl).2 (run_guarded_of_exec rfl)⟩

theorem exec_waitDone {cfg : ClipConfig} {s : ClipWait} {p : Pstate} {w : BitVec 8} (hpc : s.clip.pc = .waitDone p w)
    (hr : s.clip.running = true) (hd : s.direct = false) (n : Nat) :
    ∃ t, exec (ClipWait.next cfg) s (List.replicate n (.clip (.thread false true))) = some t ∧ t.waits = s.waits + n := by
  induction n generalizing s w with
  | zero => exact ⟨s, rfl, rfl⟩
  | succ n ih =>
    have hstep : s.next cfg (.clip (.thread false true)) =
        some { s with clip := { s.clip with pc := .waitDone p (w + 1) }, waits := s.waits + 1 } :=
      (if_neg (by rw [hpc]; exact nofun)).trans (congrArg some (waitDone_step hpc hr hd))
    obtain ⟨t, ht, hwaits⟩ := ih
      (s := { s with clip := { s.clip with pc := .waitDone p (w + 1) }, waits := s.waits + 1 }) rfl hr hd
    refine ⟨t, ?_, by rw [hwaits]; show s.waits + 1 + n = _; omega⟩
    rw [List.replicate_succ, exec, hstep]
    exact ht

theorem exec_waitDone_breaks {cfg : ClipConfig} {s : ClipWait} {p : Pstate} {w : BitVec 8} (hpc : s.clip.pc = .waitDone p w)
    (hr : s.clip.running = true) (hd : s.direct = false) (hw : s.waits = 0) :
    ∃ t, exec (ClipWait.next cfg) s (List.replicate 502 (.clip (.thread false true))) = some t ∧ t.waits = 502 ∧
      ¬WaitLaw t := by
  obtain ⟨t, ht, hwaits⟩ := @exec_waitDone cfg s p w hpc hr hd 502
  rw [hw, Nat.zero_add] at hwaits
  refine ⟨t, ht, hwaits, fun hlaw => ?_⟩
  have hbound := hlaw.bounded
  rw [hwaits] at hbound
  exact absurd hbound (by decide)

/-- A request that never ends is waited for without end. -/
theorem never_times_out : ∃ s,
    exec (ClipWait.next opal) started
      ((.startTransition :: .call 5 :: List.replicate 10 (.thread false true)).map .clip) = some s ∧
    ∃ t, exec (ClipWait.next opal) s (List.replicate 502 (.clip (.thread false true))) = some t ∧ t.waits = 502 ∧
      ¬WaitLaw t :=
  ⟨_, rfl, exec_waitDone_breaks rfl rfl rfl rfl⟩

end Occ.Pgpe
