/-
Collection of the memory buffers' data (`centaur_data.c`): at each tick the task takes the data of the last
request, goes on to the next memory buffer and requests the data of the one before. The GPE writes into the
request's buffer at any time while it runs, and AMEC reads through the pointers at any time.

Double buffering of the memory buffers' data: the pointers of the memory buffers that are present and the
buffer that data is collected into stay apart, the GPE does not write where AMEC may read, and an updated bit
stands for data of its memory buffer. The swap takes the pointer of the current memory buffer, not of the one
whose data was collected; so the current one must not be present.
-/
import Occ.Lib.Apart
import Occ.Lib.Transition
import Mathlib.Data.Fin.Basic
import Mathlib.Data.Fintype.Basic
import Mathlib.Logic.Function.Basic
import Mathlib.Tactic.Common

namespace Occ.Cent

/-! ## Data -/

/-- `MEM_TYPE_CUMULUS` and `MEM_TYPE_OCM`. -/
inductive MemType
  | cumulus | ocm
deriving DecidableEq, Repr

/-- `MAX_NUM_CENTAURS`, `MAX_NUM_OCMBS`. -/
def MemType.num : MemType → Nat
  | .cumulus => 8
  | .ocm => 16

theorem MemType.num_pos (t : MemType) : 0 < t.num := by cases t <;> decide

/-- The positions in `G_centaur_data` of the first spare buffer and of the empty one. -/
def MemType.spareBuf (t : MemType) : Nat := t.num
def MemType.emptyBuf (t : MemType) : Nat := t.num + 1

def maxNumTicks : Nat := 16
def membufChannelCheckstop : Nat := 203

/-- `MemBufGetMemDataParms_t`; `none` is -1, and for the data the null pointer. -/
structure MembufParms (t : MemType) where
  rc : Nat
  collect : Option (Fin t.num)
  update : Option (Fin t.num)
  data : Option Nat

structure Membuf (t : MemType) where
  /-- `G_present_centaurs` -/
  present : Fin t.num → Bool
  /-- `G_updated_centaur_mask` -/
  updated : Fin t.num → Bool
  /-- `G_centaur_data_ptrs` -/
  ptrs : Fin t.num → Nat
  currentMembuf : Fin t.num
  prevMembuf : Fin t.num
  membufDataPtr : Nat
  gpeScheduled : Bool
  /-- the request is not idle -/
  running : Bool
  /-- `async_request_completed`, for an idle request -/
  completed : Bool
  /-- `G_membuf_data_parms` -/
  parms : MembufParms t
  /-- what the request of `G_membuf_data_task` points to on OCM, where that request is not created -/
  stray : MembufParms t
  -- history: the memory buffer that all of a buffer's data comes from; what the last tick requested, if anything
  content : Nat → Option (Fin t.num)
  request : Option (Option (Fin t.num))

namespace Membuf

variable {t : MemType} (k : Membuf t)

/-! ## `centaur_data` -/

/-- `l_parms`, which is set before the task of the OCMBs is chosen. -/
def lParms : MembufParms t :=
  match t with
  | .cumulus => k.parms
  | .ocm => k.stray

def setLParms (p : MembufParms t) : Membuf t :=
  match t, k, p with
  | .cumulus, k, p => { k with parms := p }
  | .ocm, k, p => { k with stray := p }

def nextMembuf (i : Fin t.num) : Fin t.num := if h : i + 1 < t.num then ⟨i + 1, h⟩ else ⟨0, t.num_pos⟩

/-- The last request succeeded, as far as the task knows. -/
def succeeded : Bool := k.gpeScheduled && k.completed && k.lParms.rc == 0

/-- The end of the last request: on an error the memory buffer may go, otherwise the pointers are swapped. -/
def takeData : Membuf t :=
  if k.gpeScheduled then
    if k.completed = false ∨ k.lParms.rc ≠ 0 then
      if k.lParms.rc = membufChannelCheckstop then { k with present := Function.update k.present k.prevMembuf false } else k
    else
      { k with
        membufDataPtr := k.ptrs k.currentMembuf
        ptrs := Function.update k.ptrs k.prevMembuf k.membufDataPtr
        updated := if k.present k.prevMembuf then Function.update k.updated k.prevMembuf true else k.updated }
  else k

/-- A memory buffer that is not present gets the empty buffer. -/
def redirect : Membuf t :=
  if k.present k.currentMembuf then k else { k with ptrs := Function.update k.ptrs k.currentMembuf t.emptyBuf }

def advance : Membuf t := { k with prevMembuf := k.currentMembuf, currentMembuf := nextMembuf k.currentMembuf }

/-- The next request; `ok` says whether it can be scheduled. -/
def schedule (ok : Bool) : Membuf t :=
  if k.present k.currentMembuf || k.present k.prevMembuf then
    let k := k.setLParms {
      rc := 0
      collect := if k.present k.prevMembuf then some k.prevMembuf else none
      update := if k.present k.currentMembuf then some k.currentMembuf else none
      data := some k.membufDataPtr }
    if ok then { k with gpeScheduled := true, running := true, request := some k.parms.collect }
    else { k with request := none }
  else { k with request := none }

/-- At the last memory buffer the task waits for tick 0. -/
def waits (currentTick : Nat) : Bool :=
  decide ((k.currentMembuf : Nat) + 1 = t.num) && decide (currentTick % maxNumTicks ≠ 0)

def centaurData (currentTick : Nat) (ok : Bool) : Membuf t :=
  if k.running then k else if k.waits currentTick then k else k.takeData.redirect.advance.schedule ok

/-! ## The GPE -/

/-- The GPE writes a part of the data, when it collects any. -/
def gpeWrite : Membuf t :=
  match k.parms.collect, k.parms.data with
  | some _, some b => { k with content := Function.update k.content b none }
  | _, _ => k

/-- The request ends; without an error all of the data has been written. -/
def gpeDone (completed : Bool) (rc : Nat) : Membuf t :=
  let k := { k with running := false, completed := completed, parms := { k.parms with rc := rc } }
  match k.parms.collect, k.parms.data with
  | some i, some b => if completed ∧ rc = 0 then { k with content := Function.update k.content b (some i) } else k
  | _, _ => k

end Membuf

/-! ## Steps -/

inductive MembufEvent (t : MemType)
  | tick (currentTick : Nat) (ok : Bool)
  | gpeWrite
  | gpeDone (completed : Bool) (rc : Nat)
  /-- AMEC takes the data of a memory buffer -/
  | amec (i : Fin t.num)
  /-- `cent_chan_checkstop`, called by another task -/
  | checkstop (i : Fin t.num)
  /-- `data_store_mem_cfg`, which sets the presence on OCM -/
  | config (i : Fin t.num)

/-- The state after an event, when it can happen. -/
def Membuf.next {t : MemType} (k : Membuf t) : MembufEvent t → Option (Membuf t)
  | .tick currentTick ok => some (k.centaurData currentTick ok)
  | .gpeWrite => if k.running then some k.gpeWrite else none
  | .gpeDone completed rc => if k.running then some (k.gpeDone completed rc) else none
  | .amec i => if k.present i then some { k with updated := Function.update k.updated i false } else none
  | .checkstop i => some { k with present := Function.update k.present i false }
  | .config i => if t = .ocm then some { k with present := Function.update k.present i true } else none

/-- The first state; the presence is set by the initialization. -/
def Membuf.start (t : MemType) (present : Fin t.num → Bool) : Membuf t where
  present := present
  updated := fun _ => false
  ptrs := fun i => i
  currentMembuf := ⟨0, t.num_pos⟩
  prevMembuf := ⟨t.num - 1, Nat.sub_lt t.num_pos Nat.zero_lt_one⟩
  membufDataPtr := t.spareBuf
  gpeScheduled := false
  running := false
  completed := false
  parms := ⟨0, none, none, none⟩
  stray := ⟨0, none, none, none⟩
  content := fun _ => none
  request := none

end Occ.Cent

namespace Occ.Cent

open Occ Transition

/-- The conditions on a step. -/
def MembufStepOk {t : MemType} (k : Membuf t) : MembufEvent t → Prop
  | .tick currentTick _ => k.running = false → k.waits currentTick = false →
      (k.succeeded = true → k.present k.currentMembuf = false ∧
        (k.present k.prevMembuf = true ∨ k.updated k.prevMembuf = true →
          k.membufDataPtr ≠ t.emptyBuf ∧ k.request = some (some k.prevMembuf))) ∧
      (k.present k.currentMembuf = false → k.updated k.currentMembuf = false)
  | .config i => k.ptrs i ≠ t.emptyBuf
  | _ => True

instance {t : MemType} (k : Membuf t) (e : MembufEvent t) : Decidable (MembufStepOk k e) := by
  unfold MembufStepOk
  split <;> infer_instance

/-- What the tick keeps before it requests data again. -/
structure MembufPool {t : MemType} (k : Membuf t) : Prop where
  apart : Apart t.emptyBuf k.ptrs k.membufDataPtr
  live : ∀ i, k.present i = true ∨ k.updated i = true → k.ptrs i ≠ t.emptyBuf
  fresh : ∀ i, k.updated i = true → k.content (k.ptrs i) = some i

structure MembufInv {t : MemType} (k : Membuf t) : Prop extends MembufPool k where
  place : k.currentMembuf = Membuf.nextMembuf k.prevMembuf
  /-- the request in flight collects into the spare buffer -/
  flight : k.running = true → k.request = some k.parms.collect ∧ ∀ i, k.parms.collect = some i → k.parms.data = some k.membufDataPtr
  landed : k.running = false → ∀ i, k.request = some (some i) → k.completed = true → k.lParms.rc = 0 →
    k.content k.membufDataPtr = some i
  /-- nothing is ever collected on OCM -/
  ocm : t = .ocm → k.parms.collect = none ∧ ∀ i, k.request ≠ some (some i)

section Steps

variable {t : MemType} {k k' : Membuf t}

theorem nextMembuf_ne (i : Fin t.num) : Membuf.nextMembuf i ≠ i := by
  have hnum : 1 < t.num := by cases t <;> decide
  unfold Membuf.nextMembuf
  intro heq
  have heq := congrArg Fin.val heq
  split at heq
  · simp at heq
  · simp at heq
    omega

theorem MembufPool.ne_spare (h : MembufPool k) {i : Fin t.num} (hi : k.present i = true ∨ k.updated i = true) :
    k.ptrs i ≠ k.membufDataPtr := fun heq => h.live i hi (heq.trans (h.apart.spare i heq))

/-! ## The tick -/

theorem of_update_false {mask : Fin t.num → Bool} {i j : Fin t.num} (h : Function.update mask i false j = true) :
    mask j = true := by
  by_cases hij : j = i
  · subst hij
    simp at h
  · rwa [Function.update_of_ne hij] at h

theorem takeData_cases (hne : k.currentMembuf ≠ k.prevMembuf) :
    (k.succeeded = true ∧ k.takeData = { k with
      membufDataPtr := k.ptrs k.currentMembuf
      ptrs := Function.update k.ptrs k.prevMembuf k.membufDataPtr
      updated := if k.present k.prevMembuf then Function.update k.updated k.prevMembuf true else k.updated }) ∨
    ∃ present, k.takeData = { k with present := present } ∧ (∀ i, present i = true → k.present i = true) ∧
      present k.currentMembuf = k.present k.currentMembuf := by
  unfold Membuf.takeData Membuf.succeeded
  by_cases hg : k.gpeScheduled = true
  · by_cases hf : k.completed = false ∨ k.lParms.rc ≠ 0
    · refine .inr ?_
      rw [if_pos hg, if_pos hf]
      split
      · exact ⟨_, rfl, fun _ hi => of_update_false hi, Function.update_of_ne hne _ _⟩
      · exact ⟨k.present, rfl, fun _ hi => hi, rfl⟩
    · refine .inl ⟨?_, by rw [if_pos hg, if_neg hf]⟩
      push Not at hf
      simp [hg, hf.2, Bool.eq_true_of_not_eq_false hf.1]
  · exact .inr ⟨k.present, by rw [if_neg hg], fun _ hi => hi, rfl⟩

theorem MembufPool.absent (h : MembufPool k) {present : Fin t.num → Bool} (hle : ∀ i, present i = true → k.present i = true) :
    MembufPool { k with present := present } := by
  refine ⟨h.apart, ?_, h.fresh⟩
  rintro i (hi | hi)
  · exact h.live i (.inl (hle i hi))
  · exact h.live i (.inr hi)

/-- A memory buffer that is not in use gets the empty buffer. -/
theorem MembufPool.redirect (h : MembufPool k)
    (hupd : k.present k.currentMembuf = false → k.updated k.currentMembuf = false) : MembufPool k.redirect := by
  unfold Membuf.redirect
  split
  · exact h
  · rename_i hc
    have hc : k.present k.currentMembuf = false := Bool.eq_false_of_not_eq_true hc
    have hupd := hupd hc
    refine ⟨h.apart.redirect _, fun i hi => ?_, fun i hi => ?_⟩
    · dsimp only at hi ⊢
      by_cases hi' : i = k.currentMembuf
      · subst hi'
        rw [hc, hupd] at hi
        simp at hi
      · rw [Function.update_of_ne hi']
        exact h.live i hi
    · dsimp only at hi ⊢
      by_cases hi' : i = k.currentMembuf
      · subst hi'
        rw [hupd] at hi
        cases hi
      · rw [Function.update_of_ne hi']
        exact h.fresh i hi

/-- The pointers are swapped: the current memory buffer is not in use, so its pointer can be given away. -/
theorem MembufInv.swapped (h : MembufInv k) (hr : k.running = false) (hs : k.succeeded = true)
    (hcur : k.present k.currentMembuf = false) (hupd : k.updated k.currentMembuf = false)
    (hprev : k.present k.prevMembuf = true ∨ k.updated k.prevMembuf = true →
      k.membufDataPtr ≠ t.emptyBuf ∧ k.request = some (some k.prevMembuf)) :
    MembufPool (Membuf.redirect { k with
      membufDataPtr := k.ptrs k.currentMembuf
      ptrs := Function.update k.ptrs k.prevMembuf k.membufDataPtr
      updated := if k.present k.prevMembuf then Function.update k.updated k.prevMembuf true else k.updated }) := by
  have hne : k.currentMembuf ≠ k.prevMembuf := h.place ▸ nextMembuf_ne _
  have hland := fun hreq => h.landed hr k.prevMembuf hreq (by simp_all [Membuf.succeeded]) (by simp_all [Membuf.succeeded])
  have hother : ∀ i, i ≠ k.prevMembuf →
      (if k.present k.prevMembuf then Function.update k.updated k.prevMembuf true else k.updated) i = k.updated i := by
    intro i hi
    split
    · exact Function.update_of_ne hi _ _
    · rfl
  have hself : (if k.present k.prevMembuf then Function.update k.updated k.prevMembuf true else k.updated) k.prevMembuf = true →
      k.present k.prevMembuf = true ∨ k.updated k.prevMembuf = true := by
    split
    · rename_i hp
      exact fun _ => .inl hp
    · exact .inr
  unfold Membuf.redirect
  dsimp only
  rw [if_neg (by simp [hcur])]
  refine ⟨h.apart.rotate hne.symm, fun i hi => ?_, fun i hi => ?_⟩
  · dsimp only at hi ⊢
    by_cases hc : i = k.currentMembuf
    · subst hc
      rw [hother _ hne, hcur, hupd] at hi
      simp at hi
    · rw [Function.update_of_ne hc]
      by_cases hp : i = k.prevMembuf
      · subst hp
        rw [Function.update_self]
        refine (hprev ?_).1
        rcases hi with hi | hi
        · exact .inl hi
        · exact hself hi
      · rw [Function.update_of_ne hp]
        rw [hother i hp] at hi
        exact h.live i hi
  · dsimp only at hi ⊢
    by_cases hc : i = k.currentMembuf
    · subst hc
      rw [hother _ hne, hupd] at hi
      cases hi
    · rw [Function.update_of_ne hc]
      by_cases hp : i = k.prevMembuf
      · subst hp
        rw [Function.update_self]
        exact hland (hprev (hself hi)).2
      · rw [Function.update_of_ne hp]
        rw [hother i hp] at hi
        exact h.fresh i hi

theorem MembufInv.takeData (h : MembufInv k) (hr : k.running = false)
    (hok : (k.succeeded = true → k.present k.currentMembuf = false ∧
        (k.present k.prevMembuf = true ∨ k.updated k.prevMembuf = true →
          k.membufDataPtr ≠ t.emptyBuf ∧ k.request = some (some k.prevMembuf))) ∧
      (k.present k.currentMembuf = false → k.updated k.currentMembuf = false)) : MembufPool k.takeData.redirect := by
  have hne : k.currentMembuf ≠ k.prevMembuf := h.place ▸ nextMembuf_ne _
  obtain ⟨hsucceeded, hupd⟩ := hok
  obtain ⟨hs, heq⟩ | ⟨present, heq, hle, hcur⟩ := takeData_cases hne
  · obtain ⟨hcur, hprev⟩ := hsucceeded hs
    rw [heq]
    exact h.swapped hr hs hcur (hupd hcur) hprev
  · rw [heq]
    refine (h.toMembufPool.absent hle).redirect fun hgone => ?_
    exact hupd (hcur.symm.trans hgone)

theorem takeData_frame (k : Membuf t) : k.takeData.redirect.currentMembuf = k.currentMembuf ∧
    k.takeData.redirect.prevMembuf = k.prevMembuf ∧ k.takeData.redirect.running = k.running ∧
      k.takeData.redirect.parms = k.parms := by
  unfold Membuf.takeData Membuf.redirect
  split_ifs <;> exact ⟨rfl, rfl, rfl, rfl⟩

/-- The next request collects into the spare buffer. -/
theorem MembufPool.schedule (h : MembufPool k) (hr : k.running = false)
    (hplace : k.currentMembuf = Membuf.nextMembuf k.prevMembuf) (hocm : t = .ocm → k.parms.collect = none) (ok : Bool) :
    MembufInv (k.schedule ok) := by
  unfold Membuf.schedule
  split
  · cases t with
    | cumulus =>
      cases ok with
      | true => exact ⟨⟨h.apart, h.live, h.fresh⟩, hplace, fun _ => ⟨rfl, fun _ _ => rfl⟩, fun hr' => absurd hr' (by simp), by simp⟩
      | false =>
        refine ⟨⟨h.apart, h.live, h.fresh⟩, hplace, fun hr' => absurd (hr.symm.trans hr') (by simp), fun _ i hi => ?_, by simp⟩
        simp at hi
    | ocm =>
      have hc := hocm rfl
      have hreq : ∀ i, (some k.parms.collect : Option (Option (Fin MemType.ocm.num))) ≠ some (some i) := by simp [hc]
      cases ok with
      | true =>
        refine ⟨⟨h.apart, h.live, h.fresh⟩, hplace, fun _ => ⟨rfl, fun i hi => ?_⟩, fun hr' => absurd hr' (by simp), fun _ => ⟨hc, hreq⟩⟩
        exact absurd (hc.symm.trans hi) (by simp)
      | false =>
        refine ⟨⟨h.apart, h.live, h.fresh⟩, hplace, fun hr' => absurd (hr.symm.trans hr') (by simp), fun _ i hi => ?_, fun _ => ⟨hc, by simp⟩⟩
        simp at hi
  · refine ⟨⟨h.apart, h.live, h.fresh⟩, hplace, fun hr' => absurd (hr.symm.trans hr') (by simp), fun _ i hi => ?_, fun ht => ⟨hocm ht, by simp⟩⟩
    simp at hi

theorem MembufInv.centaurData (h : MembufInv k) {currentTick : Nat} {ok : Bool} (hok : MembufStepOk k (.tick currentTick ok)) :
    MembufInv (k.centaurData currentTick ok) := by
  unfold Membuf.centaurData
  split
  · exact h
  · rename_i hr
    split
    · exact h
    · rename_i hw
      have hr : k.running = false := by simpa using hr
      obtain ⟨hcur, hprev, hrun, hparms⟩ := takeData_frame k
      have hpool := h.takeData hr (hok hr (by simpa using hw))
      apply MembufPool.schedule
      · exact ⟨hpool.apart, hpool.live, hpool.fresh⟩
      · exact hrun.trans hr
      · rfl
      · intro ht
        exact (congrArg MembufParms.collect hparms).trans (h.ocm ht).1

/-! ## The GPE -/

theorem MembufPool.write (h : MembufPool k) {i : Fin t.num} (hi : k.updated i = true) (c : Option (Fin t.num)) :
    Function.update k.content k.membufDataPtr c (k.ptrs i) = some i := by
  rw [Function.update_of_ne (h.ne_spare (.inr hi))]
  exact h.fresh i hi

theorem MembufInv.gpeWrite (h : MembufInv k) (hr : k.running = true) : MembufInv k.gpeWrite := by
  obtain ⟨hreq, hdata⟩ := h.flight hr
  unfold Membuf.gpeWrite
  split
  · rename_i i b hi hb
    obtain rfl : b = k.membufDataPtr := Option.some.inj (hb.symm.trans (hdata i hi))
    exact ⟨⟨h.apart, h.live, fun j hj => h.write hj none⟩, h.place, h.flight, fun hr' => absurd (hr.symm.trans hr') (by simp), h.ocm⟩
  · exact h

theorem MembufInv.gpeDone (h : MembufInv k) (hr : k.running = true) (completed : Bool) (rc : Nat) :
    MembufInv (k.gpeDone completed rc) := by
  obtain ⟨hreq, hdata⟩ := h.flight hr
  unfold Membuf.gpeDone
  dsimp only
  split
  · rename_i i b hi hb
    obtain rfl : b = k.membufDataPtr := Option.some.inj (hb.symm.trans (hdata i hi))
    split
    · refine ⟨⟨h.apart, h.live, fun j hj => h.write hj (some i)⟩, h.place, fun hr' => absurd hr' (by simp), fun _ j hj _ _ => ?_, h.ocm⟩
      rw [hreq, hi] at hj
      cases hj
      exact Function.update_self _ _ _
    · rename_i hbad
      refine ⟨⟨h.apart, h.live, h.fresh⟩, h.place, fun hr' => absurd hr' (by simp), fun _ j hj hcomp hrc => ?_, h.ocm⟩
      cases t with
      | cumulus => exact absurd ⟨hcomp, hrc⟩ hbad
      | ocm => exact absurd hj ((h.ocm rfl).2 j)
  · rename_i hnone
    refine ⟨⟨h.apart, h.live, h.fresh⟩, h.place, fun hr' => absurd hr' (by simp), fun _ j hj _ _ => ?_, h.ocm⟩
    have hc : k.parms.collect = some j := by
      rw [hreq] at hj
      exact Option.some.inj hj
    exact absurd (hdata j hc) (hnone j _ hc)

/-! ## The steps -/

theorem MembufInv.masks (h : MembufInv k) {present updated : Fin t.num → Bool}
    (hlive : ∀ i, present i = true ∨ updated i = true → k.ptrs i ≠ t.emptyBuf)
    (hfresh : ∀ i, updated i = true → k.content (k.ptrs i) = some i) :
    MembufInv { k with present := present, updated := updated } := by
  cases t <;> exact ⟨⟨h.apart, hlive, hfresh⟩, h.place, h.flight, h.landed, h.ocm⟩

theorem MembufInv.next {e : MembufEvent t} (h : MembufInv k) (hok : MembufStepOk k e) (hn : k.next e = some k') : MembufInv k' := by
  cases e <;> simp only [Membuf.next] at hn
  case tick currentTick ok =>
    cases hn
    exact h.centaurData hok
  case gpeWrite =>
    split at hn <;> cases hn
    rename_i hr
    exact h.gpeWrite hr
  case gpeDone completed rc =>
    split at hn <;> cases hn
    rename_i hr
    exact h.gpeDone hr completed rc
  case amec i =>
    split at hn <;> cases hn
    exact h.masks (fun j hj => h.live j (hj.imp_right of_update_false)) (fun j hj => h.fresh j (of_update_false hj))
  case checkstop i =>
    cases hn
    exact h.masks (fun j hj => h.live j (hj.imp_left of_update_false)) h.fresh
  case config i =>
    split at hn <;> cases hn
    refine h.masks (fun j hj => ?_) h.fresh
    by_cases hij : j = i
    · exact hij ▸ hok
    · refine h.live j (hj.imp_left fun hj => ?_)
      rwa [Function.update_of_ne hij] at hj

theorem membufInv_start (present : Fin t.num → Bool) : MembufInv (.start t present) := by
  refine ⟨⟨⟨fun i j hne heq => ?_, fun i heq => ?_⟩, fun i _ heq => ?_, by simp [Membuf.start]⟩, ?_, by simp [Membuf.start],
    by simp [Membuf.start], by simp [Membuf.start]⟩
  · exact absurd (Fin.ext heq) hne
  · exact absurd i.isLt (show ¬(i : Nat) < t.num from by rw [show (i : Nat) = t.num from heq]; omega)
  · exact absurd i.isLt (show ¬(i : Nat) < t.num from by rw [show (i : Nat) = t.num + 1 from heq]; omega)
  · cases t <;> rfl

end Steps

/-! ## Runs -/

structure DoubleBuffered {t : MemType} (k : Membuf t) : Prop where
  distinct : ∀ i j, k.present i = true → k.present j = true → i ≠ j → k.ptrs i ≠ k.ptrs j
  spare : ∀ i, k.present i = true → k.ptrs i ≠ k.membufDataPtr
  notEmpty : ∀ i, k.present i = true → k.ptrs i ≠ t.emptyBuf
  /-- the GPE writes only where nothing is read -/
  unread : k.running = true → ∀ c, k.parms.collect = some c → ∀ i, k.present i = true → k.parms.data ≠ some (k.ptrs i)
  /-- an updated bit stands for data of its memory buffer -/
  fresh : ∀ i, k.updated i = true → k.content (k.ptrs i) = some i

theorem MembufInv.doubleBuffered {t : MemType} {k : Membuf t} (h : MembufInv k) : DoubleBuffered k where
  distinct i j hi _ hne heq := h.live i (.inl hi) (h.apart.inj i j hne heq)
  spare _ hi := h.ne_spare (.inl hi)
  notEmpty i hi := h.live i (.inl hi)
  unread hr c hc _ hi heq := h.ne_spare (.inl hi) (Option.some.inj (((h.flight hr).2 c hc).symm.trans heq)).symm
  fresh := h.fresh

theorem run_doubleBuffered {t : MemType} {present : Fin t.num → Bool} {k : Membuf t} {es : List (MembufEvent t)}
    (h : Run (Guarded MembufStepOk (StepOf Membuf.next)) (.start t present) es k) : DoubleBuffered k :=
  (h.invariant (P := MembufInv) (fun _ _ _ hk he => hk.next he.1 he.2) (membufInv_start present)).doubleBuffered

theorem schedule_frame {t : MemType} (k : Membuf t) (ok : Bool) : (k.schedule ok).ptrs = k.ptrs ∧
    (k.schedule ok).membufDataPtr = k.membufDataPtr ∧ (k.schedule ok).present = k.present := by
  unfold Membuf.schedule
  cases t <;> split_ifs <;> exact ⟨rfl, rfl, rfl⟩

/-- A swap always breaks the double buffering when the current memory buffer is present. -/
theorem not_doubleBuffered_of_swap {t : MemType} {k : Membuf t} (h : MembufInv k) (hr : k.running = false)
    {currentTick : Nat} (hw : k.waits currentTick = false) (hs : k.succeeded = true)
    (hp : k.present k.currentMembuf = true) (ok : Bool) : ¬DoubleBuffered (k.centaurData currentTick ok) := by
  have hne : k.currentMembuf ≠ k.prevMembuf := h.place ▸ nextMembuf_ne _
  have htake : k.centaurData currentTick ok = k.takeData.redirect.advance.schedule ok := by
    simp [Membuf.centaurData, hr, hw]
  have hsucc : k.gpeScheduled = true ∧ ¬(k.completed = false ∨ k.lParms.rc ≠ 0) := by
    simpa [Membuf.succeeded, and_assoc] using hs
  obtain ⟨hptrs, hspare, hpres⟩ := schedule_frame k.takeData.redirect.advance ok
  intro hd
  have hd := hd.spare k.currentMembuf
  rw [htake, hptrs, hspare, hpres] at hd
  simp only [Membuf.takeData, if_pos hsucc.1, if_neg hsucc.2, Membuf.redirect, hp, if_true, Membuf.advance,
    Function.update_of_ne hne] at hd
  exact hd trivial rfl

/-- Two ticks, and the end of the first request without an error in between. -/
def twoTicks : List (MembufEvent .cumulus) := [.tick 0 true, .gpeWrite, .gpeDone true 0, .tick 1 true]

/-- The first two memory buffers. -/
def membuf0 : Fin MemType.cumulus.num := ⟨0, by decide⟩
def membuf1 : Fin MemType.cumulus.num := ⟨1, by decide⟩

def oneMembuf (i : Fin MemType.cumulus.num) : Bool := decide (i = membuf0)
def twoMembufs (i : Fin MemType.cumulus.num) : Bool := decide (i = membuf0 ∨ i = membuf1)

theorem run_doubleBuffered_one : ∃ k, exec Membuf.next (.start .cumulus oneMembuf) twoTicks = some k ∧
    k.updated membuf0 = true ∧ k.ptrs membuf0 = 8 ∧ DoubleBuffered k :=
  ⟨_, rfl, rfl, rfl, @run_doubleBuffered .cumulus oneMembuf _ twoTicks (run_guarded_of_exec rfl)⟩

/-- The data of the second memory buffer is collected into the buffer that its own pointer names. -/
theorem not_doubleBuffered_two : ∃ k, exec Membuf.next (.start .cumulus twoMembufs) twoTicks = some k ∧
    k.running = true ∧ k.parms.collect = some membuf1 ∧ k.parms.data = some (k.ptrs membuf1) ∧ ¬DoubleBuffered k := by
  refine ⟨_, rfl, rfl, rfl, rfl, fun h => ?_⟩
  exact h.spare membuf1 rfl rfl

end Occ.Cent
