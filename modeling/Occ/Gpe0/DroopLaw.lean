/-
Droop events over runs of core data calls: the register that tells them clears them as it is read, so an event is in a counter
until it is in the data of a call that returns 0.
-/
import Occ.Gpe0.CoreData
import Occ.Lib.Pending
import Occ.Lib.Transition
import Occ.Lib.Literals

namespace Occ.Gpe0

open Transition (Run Guarded)
open Pending (Slot Turn)

attribute [local instance] neZero_four

/-! ## The law -/

/-- A kind of event: the large droop of a quad, or the small droop of a core. -/
inductive Channel
  | quad (q : Quad)
  | core (c : Core)
deriving DecidableEq

/-- The counter of a kind of event. -/
def GpeState.count (g : GpeState) : Channel → BitVec 32
  | .quad q => g.largeDroopCount q
  | .core c => g.smallDroopCount c

/-- A call, with what its SCOMs answer. -/
structure Call where
  core : Core
  scoms : CoreScoms

namespace Call

variable (x : Call)

/-- The call reads the register, and so clears the events of the quad and its cores. -/
def reads : Bool := x.scoms.quadDts.rc = 0 ∧ x.scoms.coreDts.rc = 0 ∧ x.scoms.vdsr.rc = 0

/-- The bit of a kind of event tells one. -/
def tells : Channel → Bool
  | .quad q => q = quadOf x.core ∧ x.scoms.vdsr.value &&& cacheVdmLargeDroop = 0
  | .core c => quadOf c = quadOf x.core ∧ x.scoms.vdsr.value &&& coreVdmSmallDroop ⟨c % 4, Nat.mod_lt _ (by decide)⟩ = 0

/-- The register delivers an event. -/
def delivers (ch : Channel) : Bool := x.reads && x.tells ch

/-- The data of the call is about this kind of event. -/
def about : Channel → Bool
  | .quad q => q = quadOf x.core
  | .core c => c = x.core

end Call

/-- The data reports an event. -/
def CoreData.event (d : CoreData) : Channel → Bool
  | .quad _ => d.cacheLargeEvent ≠ 0
  | .core _ => d.coreSmallEvent ≠ 0

/-- The globals, which kinds of event were delivered and not covered by data of a call that returned 0, and which were delivered since
the last data that reported them. -/
structure DroopHistory where
  gpe : GpeState
  owed : Channel → Bool
  fresh : Channel → Bool

def DroopHistory.boot : DroopHistory := ⟨.boot, fun _ => false, fun _ => false⟩

/-- A call reports an event of a kind. -/
def reports (x : Call) (g : GpeState) (ch : Channel) : Bool := x.about ch && (getCoreData x.core x.scoms g).data.event ch

def DroopHistory.next (s : DroopHistory) (x : Call) : DroopHistory where
  gpe := (getCoreData x.core x.scoms s.gpe).gpe
  owed ch := (s.owed ch || x.delivers ch) && !(reports x s.gpe ch && (getCoreData x.core x.scoms s.gpe).rc = 0)
  fresh ch := (s.fresh ch || x.delivers ch) && !reports x s.gpe ch

def droopStep (s : DroopHistory) (x : Call) (t : DroopHistory) : Prop := t = s.next x

/-- A call loses nothing and makes nothing up: an event that no data of a call that returned 0 has covered is still in its counter,
and the data reports only events that were delivered since the last report. -/
structure DroopLaw (s : DroopHistory) (x : Call) : Prop where
  pending : ∀ ch, (s.next x).owed ch = true → (s.next x).gpe.count ch ≠ 0
  fresh : ∀ ch, reports x s.gpe ch = true → s.fresh ch = true ∨ x.delivers ch = true

/-- The condition: no counter wraps, and when the call has an event to report, no SCOM of EMPATH fails, or the first one to fail does
so with an address error. -/
structure DroopOk (s : DroopHistory) (x : Call) : Prop where
  no_wrap : ∀ ch, x.delivers ch = true → s.gpe.count ch ≠ 0xFFFFFFFF
  good : ∀ ch, x.reads = true → x.about ch = true → x.delivers ch = true ∨ s.gpe.count ch ≠ 0 →
    firstFailure (empathRcs s.gpe.fusedCore x.scoms) ∈ [0, sibrcAddressError]

/-! ## A call -/

section
variable (x : Call) (g : GpeState) (d : CoreData)

theorem coreOf_eq_iff {q : Quad} {i : Fin 4} {c : Core} :
    coreOf q i = c ↔ quadOf c = q ∧ (⟨c % 4, Nat.mod_lt _ (by decide)⟩ : Fin 4) = i := by
  unfold coreOf quadOf
  rw [Fin.ext_iff, Fin.ext_iff, Fin.ext_iff]
  dsimp only
  omega

theorem bump_apply {ι : Type} [DecidableEq ι] (event : Bool) (count : ι → BitVec 32) (i j : ι) :
    bump event count i j = if i = j ∧ event = true then count j + 1 else count j := by
  unfold bump
  by_cases hij : i = j
  · subst hij
    cases event with
    | true => rw [if_pos rfl, Function.update_self, if_pos ⟨rfl, rfl⟩]
    | false => rw [if_neg Bool.false_ne_true, if_neg fun h => Bool.false_ne_true h.2]
  · have hother : ¬(i = j ∧ event = true) := fun h => hij h.1
    rw [if_neg hother]
    cases event with
    | true => exact Function.update_of_ne (Ne.symm hij) _ _
    | false => rfl

theorem count_countDroops (ch : Channel) : (countDroops x.core x.scoms.vdsr.value g).count ch =
    if x.tells ch then g.count ch + 1 else g.count ch := by
  cases ch with
  | quad q =>
    unfold Call.tells GpeState.count countDroops
    simp only [bump_apply, decide_eq_true_eq]
    exact if_congr (and_congr_left' eq_comm) rfl rfl
  | core c =>
    unfold Call.tells GpeState.count countDroops
    simp only [bump_apply, decide_eq_true_eq, coreOf_eq_iff]
    generalize (⟨c % 4, Nat.mod_lt _ (by decide)⟩ : Fin 4) = i
    by_cases hquad : quadOf c = quadOf x.core
    · match i with
      | 0 | 1 | 2 | 3 => simp [hquad]
    · simp [hquad]

theorem count_returnLarge (ch : Channel) : (returnLarge x.core d g).2.count ch =
    if ch = .quad (quadOf x.core) then 0 else g.count ch := by
  unfold returnLarge
  by_cases hzero : g.largeDroopCount (quadOf x.core) = 0
  · rw [if_neg (not_not.2 hzero)]
    split_ifs with hch
    · rw [hch]
      exact hzero
    · rfl
  · rw [if_pos hzero]
    cases ch with
    | quad q =>
      simp only [GpeState.count, Function.update_apply, Channel.quad.injEq]
    | core c => rfl

theorem count_returnSmall (ch : Channel) : (returnSmall x.core d g).2.count ch =
    if ch = .core x.core then 0 else g.count ch := by
  unfold returnSmall
  by_cases hzero : g.smallDroopCount x.core = 0
  · rw [if_neg (not_not.2 hzero)]
    split_ifs with hch
    · rw [hch]
      exact hzero
    · rfl
  · rw [if_pos hzero]
    cases ch with
    | quad q => rfl
    | core c =>
      simp only [GpeState.count, Function.update_apply, Channel.core.injEq]

theorem event_returnLarge (hlarge : d.cacheLargeEvent = 0) : (returnLarge x.core d g).1.coreSmallEvent = d.coreSmallEvent ∧
    (returnLarge x.core d g).1.event (.quad (quadOf x.core)) = decide (g.count (.quad (quadOf x.core)) ≠ 0) := by
  unfold returnLarge CoreData.event GpeState.count
  dsimp only
  split_ifs with hsome
  · rw [decide_eq_true hsome]
    exact ⟨rfl, rfl⟩
  · rw [decide_eq_false hsome, hlarge]
    exact ⟨rfl, rfl⟩

theorem event_returnSmall (hsmall : d.coreSmallEvent = 0) : (returnSmall x.core d g).1.cacheLargeEvent = d.cacheLargeEvent ∧
    (returnSmall x.core d g).1.event (.core x.core) = decide (g.count (.core x.core) ≠ 0) := by
  unfold returnSmall CoreData.event GpeState.count
  dsimp only
  split_ifs with hsome
  · rw [decide_eq_true hsome]
    exact ⟨rfl, rfl⟩
  · rw [decide_eq_false hsome, hsmall]
    exact ⟨rfl, rfl⟩

theorem about_iff {ch : Channel} : x.about ch = true ↔ ch = .quad (quadOf x.core) ∨ ch = .core x.core := by
  cases ch <;> simp [Call.about]

/-- The counters and the data after the droop events, of a register that was read. -/
theorem droop_read (hlarge : d.cacheLargeEvent = 0) (hsmall : d.coreSmallEvent = 0) (hread : x.scoms.vdsr.rc = 0) (ch : Channel) :
    (droop x.core x.scoms.vdsr d g).2.count ch =
        (if x.about ch then 0 else if x.tells ch then g.count ch + 1 else g.count ch) ∧
      (x.about ch = true → (droop x.core x.scoms.vdsr d g).1.event ch =
        decide ((if x.tells ch then g.count ch + 1 else g.count ch) ≠ 0)) := by
  obtain ⟨hkept, hevent⟩ := event_returnLarge x (countDroops x.core x.scoms.vdsr.value g) d hlarge
  obtain ⟨hkept', hevent'⟩ := event_returnSmall x (returnLarge x.core d (countDroops x.core x.scoms.vdsr.value g)).2
    (returnLarge x.core d (countDroops x.core x.scoms.vdsr.value g)).1 (hkept.trans hsmall)
  have hne : Channel.core x.core ≠ .quad (quadOf x.core) := nofun
  unfold droop
  rw [if_neg (not_not.2 hread)]
  constructor
  · rw [count_returnSmall, count_returnLarge, count_countDroops]
    by_cases hquad : ch = .quad (quadOf x.core)
    · rw [if_pos hquad, if_pos ((about_iff x).2 (.inl hquad)), ite_self]
    · rw [if_neg hquad]
      by_cases hcore : ch = .core x.core
      · rw [if_pos hcore, if_pos ((about_iff x).2 (.inr hcore))]
      · rw [if_neg hcore, if_neg fun h => ((about_iff x).1 h).elim hquad hcore]
  · intro habout
    obtain rfl | rfl := (about_iff x).1 habout
    · rw [← count_countDroops, ← hevent]
      show decide (_ ≠ _) = decide (_ ≠ _)
      rw [hkept']
    · rw [← count_countDroops, hevent', count_returnLarge, if_neg hne]

/-- What happens to a kind of event in a call. -/
def turn (ch : Channel) : Turn := ⟨x.delivers ch, x.reads && x.about ch, (getCoreData x.core x.scoms g).rc = 0⟩

theorem event_of_droop {core : Core} {s : CoreScoms} {d : CoreData} {g : GpeState} (ch : Channel) :
    (workaround (empath core s d g)).data.event ch = d.event ch ∧ (workaround (empath core s d g)).gpe.count ch = g.count ch := by
  obtain ⟨hlarge, hsmall, hquads, hcores⟩ := empath_droop core s d g
  have hfields : (workaround (empath core s d g)).data = (empath core s d g).data ∧
      (workaround (empath core s d g)).gpe = (empath core s d g).gpe := by
    unfold workaround
    split_ifs <;> exact ⟨rfl, rfl⟩
  rw [hfields.1, hfields.2]
  cases ch with
  | quad q => exact ⟨congrArg (fun n => decide (n ≠ 0)) hlarge, congrFun hquads q⟩
  | core c => exact ⟨congrArg (fun n => decide (n ≠ 0)) hsmall, congrFun hcores c⟩

theorem getCoreData_of_dts (hquad : x.scoms.quadDts.rc = 0) (hcore : x.scoms.coreDts.rc = 0) :
    ∃ d : CoreData, d.cacheLargeEvent = 0 ∧ d.coreSmallEvent = 0 ∧ getCoreData x.core x.scoms g =
      workaround (empath x.core x.scoms (droop x.core x.scoms.vdsr d g).1 (droop x.core x.scoms.vdsr d g).2) := by
  let d : CoreData := { CoreData.zero with dtsCache := dtsReadings x.scoms.quadDts.value }
  refine ⟨{ d with dtsCore := dtsReadings x.scoms.coreDts.value }, rfl, rfl, ?_⟩
  unfold getCoreData
  rw [if_neg (not_not.2 hquad)]
  dsimp only
  rw [if_neg (not_not.2 hcore)]

/-- A call counts, reports and clears as the abstract turn does. -/
theorem getCoreData_turn (ch : Channel) :
    (getCoreData x.core x.scoms g).gpe.count ch =
        (if (turn x g ch).taken then 0 else (turn x g ch).counted (g.count ch)) ∧
      reports x g ch = (turn x g ch).reports (g.count ch) := by
  have hidle : x.reads = false → (turn x g ch).counted (g.count ch) = g.count ch ∧ (turn x g ch).taken = false := by
    intro hreads
    unfold turn Turn.counted Call.delivers
    rw [hreads]
    exact ⟨rfl, rfl⟩
  have hnone : ∀ d : CoreData, d.cacheLargeEvent = 0 → d.coreSmallEvent = 0 → d.event ch = false := by
    intro d hlarge hsmall
    cases ch with
    | quad q => exact decide_eq_false (not_not.2 hlarge)
    | core c => exact decide_eq_false (not_not.2 hsmall)
  -- a call that does not read the register leaves the counters and reports nothing
  have hskip : x.reads = false → (getCoreData x.core x.scoms g).gpe.count ch = g.count ch →
      (getCoreData x.core x.scoms g).data.event ch = false →
      (getCoreData x.core x.scoms g).gpe.count ch =
        (if (turn x g ch).taken then 0 else (turn x g ch).counted (g.count ch)) ∧
      reports x g ch = (turn x g ch).reports (g.count ch) := by
    intro hreads hcount hevent
    obtain ⟨hcounted, htaken⟩ := hidle hreads
    unfold reports Turn.reports
    rw [hcount, hevent, hcounted, htaken, Bool.and_false, Bool.false_and]
    exact ⟨rfl, rfl⟩
  by_cases hquad : x.scoms.quadDts.rc = 0
  · by_cases hcore : x.scoms.coreDts.rc = 0
    · obtain ⟨d, hlarge, hsmall, hcall⟩ := getCoreData_of_dts x g hquad hcore
      by_cases hread : x.scoms.vdsr.rc = 0
      · have hreads : x.reads = true := decide_eq_true ⟨hquad, hcore, hread⟩
        obtain ⟨hcount, hevent⟩ := droop_read x g d hlarge hsmall hread ch
        have htaken : (turn x g ch).taken = x.about ch := congrArg (· && x.about ch) hreads
        have hcounted : (turn x g ch).counted (g.count ch) = if x.tells ch then g.count ch + 1 else g.count ch := by
          unfold turn Turn.counted Call.delivers
          rw [hreads, Bool.true_and]
        unfold reports Turn.reports
        rw [htaken, hcounted, hcall, (event_of_droop ch).1, (event_of_droop ch).2]
        refine ⟨hcount, ?_⟩
        cases habout : x.about ch with
        | true => rw [hevent habout]
        | false => rfl
      · have hreads : x.reads = false := decide_eq_false fun h => hread h.2.2
        have hdroop : droop x.core x.scoms.vdsr d g = (d, g) := if_pos hread
        rw [hdroop] at hcall
        refine hskip hreads ?_ ?_
        · rw [hcall, (event_of_droop ch).2]
        · rw [hcall, (event_of_droop ch).1]
          exact hnone d hlarge hsmall
    · refine hskip (decide_eq_false fun h => hcore h.2.1) ?_ ?_
      · unfold getCoreData
        rw [if_neg (not_not.2 hquad)]
        dsimp only
        rw [if_pos hcore]
      · unfold getCoreData
        rw [if_neg (not_not.2 hquad)]
        dsimp only
        rw [if_pos hcore]
        exact hnone _ rfl rfl
  · refine hskip (decide_eq_false fun h => hquad h.1) ?_ ?_
    · unfold getCoreData
      rw [if_pos hquad]
    · unfold getCoreData
      rw [if_pos hquad]
      exact hnone _ rfl rfl

theorem rc_eq_zero_iff (hreads : x.reads = true) :
    (getCoreData x.core x.scoms g).rc = 0 ↔ firstFailure (empathRcs g.fusedCore x.scoms) ∈ [0, sibrcAddressError] := by
  obtain ⟨hquad, hcore, hread⟩ := of_decide_eq_true hreads
  have hfused : ∀ d : CoreData, (droop x.core x.scoms.vdsr d g).2.fusedCore = g.fusedCore := by
    intro d
    unfold droop returnSmall returnLarge countDroops
    dsimp only
    split_ifs <;> rfl
  have hne : sibrcAddressError ≠ 0 := by decide
  unfold getCoreData
  rw [if_neg (not_not.2 hquad)]
  dsimp only
  rw [if_neg (not_not.2 hcore)]
  unfold workaround
  rw [rc_empath, hfused, List.mem_cons, List.mem_singleton]
  split_ifs with haddress
  · exact ⟨fun _ => .inr haddress, fun _ => rfl⟩
  · rw [rc_empath, hfused]
    exact ⟨.inl, fun h => h.resolve_right haddress⟩

end

/-! ## Runs -/

/-- A kind of event with its counter. -/
def DroopHistory.slot (s : DroopHistory) (ch : Channel) : Slot 32 := ⟨s.gpe.count ch, s.owed ch, s.fresh ch⟩

theorem slot_next (s : DroopHistory) (x : Call) (ch : Channel) : (s.next x).slot ch = (s.slot ch).next (turn x s.gpe ch) := by
  obtain ⟨hcount, hreports⟩ := getCoreData_turn x s.gpe ch
  unfold DroopHistory.slot DroopHistory.next Slot.next
  dsimp only
  rw [hcount, hreports]
  rfl

/-- The invariant: a counter that is not zero stands for an event, and what is owed is counted. -/
def DroopInv (s : DroopHistory) : Prop := ∀ ch, (s.slot ch).Inv ∧ (s.slot ch).Kept

theorem droopLaw_iff {s : DroopHistory} {x : Call} (hs : DroopInv s) : DroopLaw s x ↔ DroopOk s x := by
  have hfresh : ∀ ch, reports x s.gpe ch = true → s.fresh ch = true ∨ x.delivers ch = true := by
    intro ch hreports
    rw [(getCoreData_turn x s.gpe ch).2] at hreports
    exact Slot.fresh_of_reports (hs ch).1 hreports
  have hpending : ∀ ch, ((s.next x).owed ch = true → (s.next x).gpe.count ch ≠ 0) ↔ (turn x s.gpe ch).Safe (s.gpe.count ch) := by
    intro ch
    have hkept := @Slot.kept_next_iff _ (turn x s.gpe ch) _ (hs ch).1 (hs ch).2
    rw [← slot_next] at hkept
    exact hkept
  have hwrap : ∀ n : BitVec 32, n + 1 ≠ 0 ↔ n ≠ 0xFFFFFFFF := by
    intro n
    have hmax : (0xFFFFFFFF : BitVec 32).toNat = 4294967295 := by decide
    rw [not_iff_not, ← BitVec.toNat_inj, ← BitVec.toNat_inj, BitVec.toNat_add, hmax]
    show (n.toNat + 1) % 4294967296 = 0 ↔ _
    omega
  have hsafe : ∀ ch, (turn x s.gpe ch).Safe (s.gpe.count ch) ↔
      (x.delivers ch = true → s.gpe.count ch ≠ 0xFFFFFFFF) ∧
        (x.reads = true → x.about ch = true → x.delivers ch = true ∨ s.gpe.count ch ≠ 0 →
          firstFailure (empathRcs s.gpe.fusedCore x.scoms) ∈ [0, sibrcAddressError]) := by
    intro ch
    constructor
    · rintro ⟨hno, hgood⟩
      refine ⟨fun hdelivers => (hwrap _).1 (hno hdelivers), fun hreads habout hsome => ?_⟩
      exact (rc_eq_zero_iff x s.gpe hreads).1 (of_decide_eq_true (hgood (Bool.and_eq_true_iff.2 ⟨hreads, habout⟩) hsome))
    · rintro ⟨hno, hgood⟩
      refine ⟨fun hdelivers => (hwrap _).2 (hno hdelivers), fun htaken hsome => ?_⟩
      obtain ⟨hreads, habout⟩ := Bool.and_eq_true_iff.1 htaken
      exact decide_eq_true ((rc_eq_zero_iff x s.gpe hreads).2 (hgood hreads habout hsome))
  constructor
  · rintro ⟨hkept, -⟩
    exact ⟨fun ch => ((hsafe ch).1 ((hpending ch).1 (hkept ch))).1, fun ch => ((hsafe ch).1 ((hpending ch).1 (hkept ch))).2⟩
  · rintro ⟨hno, hgood⟩
    exact ⟨fun ch => (hpending ch).2 ((hsafe ch).2 ⟨hno ch, hgood ch⟩), hfresh⟩

theorem droopInv_boot : DroopInv .boot := by
  intro ch
  refine ⟨⟨fun hne => absurd ?_ hne, fun hne => absurd ?_ hne⟩, nofun⟩
  · cases ch <;> rfl
  · cases ch <;> rfl

theorem droopInv_next {s : DroopHistory} {x : Call} (hs : DroopInv s) (hok : DroopOk s x) : DroopInv (s.next x) := by
  intro ch
  refine ⟨?_, ((droopLaw_iff hs).2 hok).pending ch⟩
  rw [slot_next]
  exact Slot.inv_next (hs ch).1

/-- All calls of a run keep the law if and only if they all meet the condition. -/
theorem droopLaw_run {calls : List Call} {s : DroopHistory} :
    Run (Guarded DroopLaw droopStep) .boot calls s ↔ Run (Guarded DroopOk droopStep) .boot calls s := by
  refine Transition.run_guarded_congr_of (P := DroopInv) ?_ (fun _ _ _ hs _ => droopLaw_iff hs) droopInv_boot
  rintro s x t hs hok rfl
  exact droopInv_next hs hok

/-- All SCOMs answer, but the select of the EMPATH counters finds the core offline, and the register tells a droop of the first
quad and of its first core. -/
def offlineCall : Call :=
  ⟨0, ⟨⟨0, 0⟩, ⟨0, 0⟩, ⟨0, ~~~(cacheVdmLargeDroop ||| coreVdmSmallDroop 0)⟩, ⟨0, 0⟩, 2, fun _ => ⟨0, 0⟩, ⟨0, 0⟩, ⟨0, 0⟩⟩⟩

/-- The call fails, and the two events are in no counter any more. -/
theorem droop_discarded : ∃ s, Run droopStep .boot [offlineCall] s ∧
    (getCoreData offlineCall.core offlineCall.scoms .boot).rc = 2 ∧
    (s.owed (.quad 0) = true ∧ s.gpe.count (.quad 0) = 0) ∧ (s.owed (.core 0) = true ∧ s.gpe.count (.core 0) = 0) ∧
      ¬DroopLaw .boot offlineCall := by
  refine ⟨_, .single rfl, by decide, ⟨by decide, by decide⟩, ⟨by decide, by decide⟩, fun hlaw => ?_⟩
  have howed : (DroopHistory.boot.next offlineCall).owed (.quad 0) = true := by decide
  have hzero : (DroopHistory.boot.next offlineCall).gpe.count (.quad 0) = 0 := by decide
  exact hlaw.pending (.quad 0) howed hzero

end Occ.Gpe0
