/-
The contract of the Pstate clips: the parameters are not written and no request is scheduled while one is in
flight, and a state transition's function returns success only when the PGPE ended a request for exactly
its Pstate without an error. The tick must not write other desired Pstates under the function's hands, the
request it checks must have ended by a message of the PGPE, and a request that is left out as a repetition
must have been sent before.
-/
import Occ.Pgpe.Clip
import Occ.Lib.Transition

namespace Occ.Pgpe

open Occ Transition

/-- A request with these clips ended without an error. -/
def Done (k : Clip) (p : Pstate) : Prop := ∃ m, (m, (fun _ => p), pgpeRcSuccess) ∈ k.completed

/-- What holds where `pgpe_set_clip_blocking` is. -/
def PcOk (k : Clip) : Prop :=
  match k.pc with
  | .idle => True
  | .waitIdle _ _ => True
  | .fill _ => k.running = false
  | .updateWait p _ => k.running = false ∧ ∀ i, k.desiredPstate i = p
  | .copy p q ext_rc =>
    k.running = false ∧ ext_rc = 0 ∧ q ≤ 6 ∧ (∀ i : Fin 6, q ≤ i → k.desiredPstate i = p) ∧
      ∀ i : Fin 6, i < q → k.list i = p ∧ k.parms.clipMax i = p
  | .waitDone p _ => k.sent = true ∧ k.lastList = some fun _ => p
  | .check p rc => k.sent = true ∧ k.lastList = (some fun _ => p) ∧ k.running = false ∧ rc = 0

structure ClipInv (cfg : ClipConfig) (k : Clip) : Prop where
  /-- the function runs in a state transition -/
  called : k.pc ≠ .idle → k.stateTransition = true ∧ cfg.presentCores = true ∧ cfg.simics = false
  pcOk : PcOk k
  /-- a request in flight carries the last list -/
  flight : k.running = true → k.sent = true ∧ k.lastList = some k.parms.clipMax
  /-- the last list was the last request's -/
  landed : k.running = false → k.sent = true → k.completionState = .complete →
    ∃ m l rest, k.lastList = some l ∧ k.completed = (m, l, k.parms.rc) :: rest
  results : ∀ r ∈ k.results, r.2 = 0 → Done k r.1
  apart : k.collision = false

/-- The conditions on a step. -/
def ClipStepOk (cfg : ClipConfig) (k : Clip) : ClipEvent → Prop
  | .call _ => cfg.simics = false
  | .amec pmax =>
    match k.pc with
    | .updateWait p _ => ∀ i, pmax i = p
    | .copy p q _ => ∀ i : Fin 6, q ≤ i → pmax i = p
    | _ => True
  | .thread _ _ =>
    match k.pc with
    | .copy _ q _ => q = 6 → k.sends cfg = false → k.sent = true
    | .check _ _ => k.completionState = .complete
    | _ => True
  | _ => True

instance (cfg : ClipConfig) (k : Clip) (e : ClipEvent) : Decidable (ClipStepOk cfg k e) := by
  unfold ClipStepOk
  split
  · infer_instance
  · split <;> infer_instance
  · split <;> infer_instance
  · infer_instance

section Steps

variable {cfg : ClipConfig} {k k' : Clip}

/-! ## The update -/

theorem submit_cases (cfg : ClipConfig) (ext_rc : Nat) (ok : Bool) (h : k.running = false) :
    (k.sends cfg = false ∧ k.submit cfg ext_rc ok = (k, ext_rc)) ∨
    (∃ rc, k.submit cfg ext_rc ok = ({ k with setPstates := false, lastList := some k.list, sent := false }, rc) ∧
      (cfg.presentCores = true → rc ≠ 0)) ∨
    k.submit cfg ext_rc ok =
      ({ k with setPstates := false, lastList := some k.list, sent := true, running := true, completionState := .complete },
        ext_rc) := by
  by_cases hs : k.sends cfg = true
  · by_cases hp : cfg.presentCores = true
    · cases ok with
      | true => exact .inr (.inr (by simp [Clip.submit, hs, hp, h]))
      | false =>
        refine .inr (.inl ⟨ercPgpeClipFailure, ?_, fun _ => by decide⟩)
        simp [Clip.submit, hs, hp, h]
    · refine .inr (.inl ⟨ext_rc, ?_, fun hp' => absurd hp' hp⟩)
      simp [Clip.submit, hs, hp]
  · refine .inl ⟨by simpa using hs, ?_⟩
    simp [Clip.submit, hs]

/-- The clips of some quads are copied, and the others are left. -/
theorem foldl_copyQuad (hr : k.running = false) (l : List (Fin 6)) : ∃ list clipMin clipMax,
    l.foldl Clip.copyQuad k = { k with list := list, parms := { k.parms with clipMin := clipMin, clipMax := clipMax } } ∧
      (∀ i ∈ l, list i = k.desiredPstate i ∧ clipMax i = k.desiredPstate i) ∧
      ∀ i, i ∉ l → list i = k.list i ∧ clipMax i = k.parms.clipMax i := by
  have hc : (k.collision || k.running) = k.collision := by rw [hr, Bool.or_false]
  induction l generalizing k with
  | nil => exact ⟨k.list, k.parms.clipMin, k.parms.clipMax, rfl, by simp, fun _ _ => ⟨rfl, rfl⟩⟩
  | cons q l ih =>
    have hq : (k.copyQuad q).running = false := hr
    obtain ⟨list, clipMin, clipMax, heq, hin, hout⟩ := ih hq (by rw [hq, Bool.or_false])
    refine ⟨list, clipMin, clipMax, ?_, fun i hi => ?_, fun i hi => ?_⟩
    · rw [List.foldl_cons, heq]
      simp only [Clip.copyQuad, hc]
    · by_cases hl : i ∈ l
      · exact hin i hl
      · obtain rfl : i = q := (List.mem_cons.1 hi).resolve_right hl
        have := hout i hl
        simpa [Clip.copyQuad] using this
    · rw [List.mem_cons, not_or] at hi
      have := hout i hi.2
      simpa [Clip.copyQuad, Function.update_of_ne hi.1] using this

theorem ClipInv.pgpeClipUpdate (h : ClipInv cfg k) (hr : k.running = false) (hpc : k.pc = .idle) (ok : Bool) :
    ClipInv cfg (k.pgpeClipUpdate cfg ok).1 := by
  unfold Clip.pgpeClipUpdate
  split
  · exact h
  · obtain ⟨list, clipMin, clipMax, heq, hin, -⟩ := foldl_copyQuad hr (List.finRange 6)
    have hmax : list = clipMax := funext fun i => (hin i (List.mem_finRange i)).1.trans (hin i (List.mem_finRange i)).2.symm
    rw [heq]
    have hr' : ({ k with list := list, parms := { k.parms with clipMin := clipMin, clipMax := clipMax } } : Clip).running = false := hr
    rcases submit_cases cfg 0 ok hr' with ⟨-, hs⟩ | ⟨rc, hs, -⟩ | hs
    · rw [hs]
      refine ⟨h.called, ?_, fun hr' => absurd (hr.symm.trans hr') (by decide), h.landed, h.results, h.apart⟩
      simp [PcOk, hpc]
    · rw [hs]
      refine ⟨h.called, ?_, fun hr' => absurd (hr.symm.trans hr') (by decide), by simp, h.results, h.apart⟩
      simp [PcOk, hpc]
    · rw [hs]
      refine ⟨h.called, ?_, fun _ => ⟨rfl, congrArg some hmax⟩, by simp, h.results, h.apart⟩
      simp [PcOk, hpc]

theorem ClipInv.control (h : ClipInv cfg k) (ok : Bool) : ClipInv cfg (k.taskCoreDataControl cfg ok) := by
  unfold Clip.taskCoreDataControl
  split
  · exact h
  · rename_i ht
    split
    · rename_i hc
      refine h.pgpeClipUpdate hc.2.2.1 ?_ ok
      by_contra hpc
      exact ht (h.called hpc).1
    · exact h

/-! ## The function -/

/-- A quad is copied, or the list is complete and sent. -/
theorem ClipInv.copy (h : ClipInv cfg k) {p : Pstate} {q ext_rc : Nat} {ok : Bool} (hpc : k.pc = .copy p q ext_rc)
    (hpcOk : k.running = false ∧ ext_rc = 0 ∧ q ≤ 6 ∧ (∀ i : Fin 6, q ≤ i → k.desiredPstate i = p) ∧
      ∀ i : Fin 6, i < q → k.list i = p ∧ k.parms.clipMax i = p)
    (hcalled : ClipPc.copy p q ext_rc ≠ .idle → k.stateTransition = true ∧ cfg.presentCores = true ∧ cfg.simics = false)
    (hok : q = 6 → k.sends cfg = false → k.sent = true) :
    ClipInv cfg (if h : q < 6 then { k.copyQuad ⟨q, h⟩ with pc := .copy p (q + 1) ext_rc }
      else
        let r := k.submit cfg ext_rc ok
        if r.2 ≠ 0 then r.1.ret p r.2 else { r.1 with pc := .waitDone p 0 }) := by
  obtain ⟨hr, rfl, hle, hd, hl⟩ := hpcOk
  split
  · rename_i hq
    refine ⟨fun _ => hcalled (by simp), ⟨hr, rfl, hq, fun i hi => hd i (by omega), fun i hi => ?_⟩,
      fun hr' => absurd (hr.symm.trans hr') (by decide), h.landed, h.results, ?_⟩
    · by_cases hiq : (i : Nat) = q
      · obtain rfl : i = ⟨q, hq⟩ := Fin.ext hiq
        simp [Clip.copyQuad, hd ⟨q, hq⟩ (Nat.le_refl q)]
      · have hne : i ≠ ⟨q, hq⟩ := fun h => hiq (congrArg Fin.val h)
        simpa [Clip.copyQuad, Function.update_of_ne hne] using hl i (by omega)
    · show (k.collision || k.running) = false
      rw [h.apart, hr]
      rfl
  · obtain rfl : q = 6 := by omega
    have hlist : k.list = fun _ => p := funext fun i => (hl i i.isLt).1
    have hmax : k.parms.clipMax = fun _ => p := funext fun i => (hl i i.isLt).2
    rcases submit_cases cfg 0 ok hr with ⟨hs, hsub⟩ | ⟨rc, hsub, hrc⟩ | hsub
    · rw [hsub]
      have hlast : k.lastList = some k.list := by
        unfold Clip.sends at hs
        simp only [Bool.or_eq_false_iff, decide_eq_false_iff_not, not_not] at hs
        exact hs.1.1
      exact ⟨fun _ => hcalled (by simp), ⟨hok rfl hs, hlast.trans (congrArg some hlist)⟩, h.flight, h.landed, h.results, h.apart⟩
    · rw [hsub]
      have hrc := hrc (hcalled (by simp)).2.1
      simp only [ne_eq, hrc, not_false_eq_true, if_true]
      refine ⟨by simp [Clip.ret], trivial, fun hr' => absurd (hr.symm.trans hr') (by decide), by simp [Clip.ret],
        fun r hmem hr0 => ?_, h.apart⟩
      rcases List.mem_cons.1 hmem with rfl | hmem
      · exact absurd hr0 hrc
      · exact h.results r hmem hr0
    · rw [hsub]
      refine ⟨fun _ => hcalled (by simp), ⟨rfl, congrArg some hlist⟩, fun _ => ⟨rfl, ?_⟩, by simp, h.results, h.apart⟩
      exact congrArg some (hlist.trans hmax.symm)

theorem ClipInv.thread (h : ClipInv cfg k) {ignore ok : Bool} (hok : ClipStepOk cfg k (.thread ignore ok)) :
    ClipInv cfg (k.thread cfg ignore ok) := by
  have hpcOk := h.pcOk
  have hcalled := h.called
  unfold ClipStepOk at hok
  unfold PcOk at hpcOk
  unfold Clip.thread
  cases hpc : k.pc <;> simp only [hpc] at hpcOk hcalled hok ⊢
  case idle => exact h
  case waitIdle p w =>
    split_ifs with hr hw
    · exact ⟨fun _ => hcalled (by simp), hr, h.flight, h.landed, h.results, h.apart⟩
    -- a byte does not reach the time-out
    · exact absurd w.isLt (by unfold clipUpdateTimeout at hw; omega)
    · exact absurd w.isLt (by unfold clipUpdateTimeout at hw; omega)
    · exact ⟨fun _ => hcalled (by simp), trivial, h.flight, h.landed, h.results, h.apart⟩
  case fill p => exact ⟨fun _ => hcalled (by simp), ⟨hpcOk, fun _ => rfl⟩, h.flight, h.landed, h.results, h.apart⟩
  case updateWait p w =>
    obtain ⟨hr, hd⟩ := hpcOk
    have hsim := (hcalled (by simp)).2.2
    have hnext : (if cfg.simics = true then ClipPc.waitDone p 0
        else .copy p 0 (if k.running = true then ercPgpeClipNotIdle else 0)) = .copy p 0 0 := by
      simp [hsim, hr]
    rw [if_pos (.inl hr), hnext]
    exact ⟨fun _ => hcalled (by simp), ⟨hr, rfl, by omega, fun i _ => hd i, by simp⟩, h.flight, h.landed, h.results, h.apart⟩
  case copy p q ext_rc => exact h.copy hpc hpcOk hcalled hok
  case waitDone p w =>
    split_ifs with hr hw
    · exact ⟨fun _ => hcalled (by simp), ⟨hpcOk.1, hpcOk.2, hr, rfl⟩, h.flight, h.landed, h.results, h.apart⟩
    · exact absurd w.isLt (by unfold clipUpdateTimeout at hw; omega)
    · exact absurd w.isLt (by unfold clipUpdateTimeout at hw; omega)
    · exact ⟨fun _ => hcalled (by simp), hpcOk, h.flight, h.landed, h.results, h.apart⟩
  case check p rc =>
    obtain ⟨hsent, hlast, hr, rfl⟩ := hpcOk
    refine ⟨by simp [Clip.ret], trivial, h.flight, h.landed, fun r hmem hrc => ?_, h.apart⟩
    rcases List.mem_cons.1 hmem with rfl | hmem
    · obtain ⟨m, l, rest, hl, hdone⟩ := h.landed hr hsent hok
      rw [hlast, Option.some.injEq] at hl
      have hsucc : k.parms.rc = pgpeRcSuccess := by
        by_contra hne
        rw [if_pos hne] at hrc
        exact absurd (show gpeRequestRcFailure = 0 from hrc) (by decide)
      refine ⟨m, ?_⟩
      show _ ∈ k.completed
      rw [hdone, ← hl, hsucc]
      exact List.mem_cons_self
    · exact h.results r hmem hrc

theorem ClipInv.done (h : ClipInv cfg k) (hr : k.running = true) (rc : Option Nat) : ClipInv cfg (k.done rc) := by
  obtain ⟨hsent, hlast⟩ := h.flight hr
  have hpcOk : ∀ k', k'.pc = k.pc → k'.sent = k.sent → k'.lastList = k.lastList → PcOk k' := by
    intro k' hpc hs hl
    have := h.pcOk
    unfold PcOk at this ⊢
    rw [hpc, hs, hl]
    cases hp : k.pc <;> simp_all
  cases rc with
  | some rc =>
    refine ⟨h.called, hpcOk _ rfl rfl rfl, by simp [Clip.done], fun _ _ _ => ?_, fun r hmem hrc => ?_, h.apart⟩
    · exact ⟨k.parms.clipMin, k.parms.clipMax, k.completed, hlast, rfl⟩
    · obtain ⟨m, hm⟩ := h.results r hmem hrc
      exact ⟨m, List.mem_cons_of_mem _ hm⟩
  | none => exact ⟨h.called, hpcOk _ rfl rfl rfl, by simp [Clip.done], by simp [Clip.done], h.results, h.apart⟩

theorem ClipInv.next {e : ClipEvent} (h : ClipInv cfg k) (hok : ClipStepOk cfg k e) (hn : k.next cfg e = some k') :
    ClipInv cfg k' := by
  cases e <;> simp only [Clip.next] at hn
  case startTransition =>
    split at hn <;> cases hn
    exact ⟨fun hpc => ⟨rfl, (h.called hpc).2⟩, h.pcOk, h.flight, h.landed, h.results, h.apart⟩
  case endTransition =>
    split at hn <;> cases hn
    rename_i hpc
    exact ⟨fun hne => absurd hpc.2 hne, h.pcOk, h.flight, h.landed, h.results, h.apart⟩
  case call p =>
    split at hn <;> cases hn
    rename_i hpc
    exact ⟨fun _ => ⟨hpc.1, hpc.2.2, hok⟩, trivial, h.flight, h.landed, h.results, h.apart⟩
  case thread ignore ok =>
    split at hn <;> cases hn
    exact h.thread hok
  case amec pmax =>
    cases hn
    refine ⟨h.called, ?_, h.flight, h.landed, h.results, h.apart⟩
    have hpcOk := h.pcOk
    unfold ClipStepOk at hok
    unfold PcOk at hpcOk ⊢
    cases hpc : k.pc <;> simp only [hpc] at hpcOk hok ⊢
    case updateWait p w => exact ⟨hpcOk.1, hok⟩
    case copy p q ext_rc => exact ⟨hpcOk.1, hpcOk.2.1, hpcOk.2.2.1, hok, hpcOk.2.2.2.2⟩
    all_goals exact hpcOk
  case control ok =>
    cases hn
    exact h.control ok
  case done rc =>
    split at hn <;> cases hn
    rename_i hr
    exact h.done hr rc
  case freqConfig fmin =>
    cases hn
    exact ⟨h.called, h.pcOk, h.flight, h.landed, h.results, h.apart⟩
  case allow b =>
    cases hn
    exact ⟨h.called, h.pcOk, h.flight, h.landed, h.results, h.apart⟩
  case setPstates =>
    cases hn
    exact ⟨h.called, h.pcOk, h.flight, h.landed, h.results, h.apart⟩

end Steps

/-! ## Runs -/

/-- An OPAL system. -/
def opal : ClipConfig := ⟨true, false, true⟩

/-- A state transition sets the clips to Pstate 5; its request ends with the PGPE's return code, or without. -/
def setClipRun (rc : Option Nat) : List ClipEvent :=
  .startTransition :: .call 5 :: List.replicate 10 (.thread false true) ++ .done rc :: List.replicate 2 (.thread false true)

end Occ.Pgpe
