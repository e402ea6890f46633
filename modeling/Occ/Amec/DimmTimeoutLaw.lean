/-
The timeouts of DIMM readings over whole runs of `amec_health_check_dimm_timeout`: which expired bits are set after a check, what
the sample ages count, and the types that have expired in an OCM system.
-/
import Occ.Amec.Health
import Occ.Lib.Transition
import Mathlib.Data.List.Nodup

namespace Occ.Amec.DimmTimeoutLaw

open Occ.Mask Transition
open Function (update)

/-! ## One DIMM -/

/-- The checks without a reading, of each DIMM. -/
abbrev Missed := Nat → Nat → Nat

/-- A check of the sensor of a DIMM, if it is enabled. -/
def missedStep (f : Finds) (missed : Missed) : Missed := fun port dimm =>
  if On (f.dimmTempUpdated port) dimm then 0
  else if On (f.dimmEnabled port) dimm then missed port dimm + 1
  else missed port dimm

/-- A timeout that is enabled and has been reached. -/
def Elapsed (timeout age : BitVec 8) : Prop := ¬(timeout = 0xff ∨ age < timeout)

instance (timeout age : BitVec 8) : Decidable (Elapsed timeout age) := inferInstanceAs (Decidable (¬_))

/-- The age of a DIMM after the loops. -/
def ageAfter (f : Finds) (port dimm : Nat) (age : BitVec 8) : BitVec 8 :=
  if On (f.dimmNeedInc port) dimm then nextAge age else age

/-- The expired bit of a DIMM after the loops: one that waits keeps what it has. -/
def expiredAfter (f : Finds) (port dimm : Nat) (age : BitVec 8) (expired : Bool) : Bool :=
  if On (f.dimmNeedInc port) dimm then
    if Elapsed (f.dimmTempTimeout port dimm) (nextAge age) then true else expired
  else false

section
variable {f : Finds} {port dimm : Nat}

theorem on_needInc : On (f.dimmNeedInc port) dimm = true ↔
    On (f.dimmEnabled port) dimm = true ∧ On (f.dimmTempUpdated port) dimm = false := by
  unfold Finds.dimmNeedInc
  rw [on_eq_getMsbD, on_eq_getMsbD, on_eq_getMsbD, clr, BitVec.getMsbD_and, BitVec.getMsbD_not, Bool.and_eq_true,
    Bool.and_eq_true, Bool.not_eq_true', decide_eq_true_eq]
  constructor
  · rintro ⟨hon, -, hoff⟩
    exact ⟨hon, hoff⟩
  · rintro ⟨hon, hoff⟩
    exact ⟨hon, BitVec.lt_of_getMsbD hon, hoff⟩

theorem toNat_nextAge (age : BitVec 8) : (nextAge age).toNat = min 255 (age.toNat + 1) := by
  have hlt := age.isLt
  have hone : (1 : BitVec 8).toNat = 1 := rfl
  have hminus : (-1 : BitVec 8).toNat = 255 := rfl
  unfold nextAge
  by_cases hwrap : age + 1 = 0
  · have hnat := congrArg BitVec.toNat hwrap
    rw [BitVec.toNat_add, hone] at hnat
    have hzero : (age.toNat + 1) % 256 = 0 := hnat
    rw [if_pos hwrap, hminus]
    omega
  · have hne : (age.toNat + 1) % 256 ≠ 0 := by
      rintro hzero
      refine hwrap (BitVec.eq_of_toNat_eq ?_)
      rw [BitVec.toNat_add, hone]
      exact hzero
    rw [if_neg hwrap, BitVec.toNat_add, hone]
    show (age.toNat + 1) % 256 = _
    omega

theorem elapsed_iff {timeout age : BitVec 8} {count : Nat} (hage : age.toNat = min 255 count) :
    Elapsed timeout age ↔ timeout ≠ 0xff ∧ timeout.toNat ≤ count := by
  have hlt := timeout.isLt
  have hff : timeout ≠ 0xff ↔ timeout.toNat ≠ 255 :=
    not_congr ⟨fun h => congrArg BitVec.toNat h, fun h => BitVec.eq_of_toNat_eq h⟩
  have hless : age < timeout ↔ age.toNat < timeout.toNat := Iff.rfl
  unfold Elapsed
  rw [not_or, ← ne_eq, hff, hless]
  omega

end

/-! ## The loops -/

section
variable {f : Finds} {port : Nat} {s : DimmTimeout}

/-- What the loops over some DIMMs do, unless they request a reset. -/
structure Visits (f : Finds) (visited : Nat → Nat → Prop) (s t : DimmTimeout) : Prop where
  age : ∀ p d, visited p d → t.age p d = ageAfter f p d (s.age p d)
  expired : ∀ p d, visited p d → On (t.expired p) d = expiredAfter f p d (s.age p d) (On (s.expired p) d)
  otherAge : ∀ p d, ¬visited p d → t.age p d = s.age p d
  otherExpired : ∀ p d, ¬visited p d → On (t.expired p) d = On (s.expired p) d

theorem on_update_set (flags : DimmFlags) {dimm : Nat} (hd : dimm < 8) (p d : Nat) :
    On (markDimm flags port dimm p) d = if p = port ∧ d = dimm then true else On (flags p) d := by
  unfold markDimm
  by_cases hp : p = port
  · subst hp
    rw [Function.update_self, on_set]
    by_cases heq : d = dimm
    · rw [if_pos ⟨rfl, heq⟩, heq]
      simp [hd]
    · rw [if_neg fun h => heq h.2]
      simp [heq]
  · rw [Function.update_of_ne hp, if_neg fun h => hp h.1]

theorem on_update_clr (flags : DimmFlags) (dimm p d : Nat) :
    On (update flags port (clr (flags port) (flag 8 dimm)) p) d = if p = port ∧ d = dimm then false else On (flags p) d := by
  by_cases hp : p = port
  · subst hp
    rw [Function.update_self, on_clr]
    by_cases heq : d = dimm
    · rw [if_pos ⟨rfl, heq⟩, heq]
      simp
    · rw [if_neg fun h => heq h.2]
      simp [heq]
  · rw [Function.update_of_ne hp, if_neg fun h => hp h.1]

theorem update_age (age : Nat → Nat → BitVec 8) (dimm : Nat) (value : BitVec 8) (p d : Nat) :
    update age port (update (age port) dimm value) p d = if p = port ∧ d = dimm then value else age p d := by
  by_cases hp : p = port
  · subst hp
    rw [Function.update_self]
    by_cases heq : d = dimm
    · rw [if_pos ⟨rfl, heq⟩, heq, Function.update_self]
    · rw [if_neg fun h => heq h.2, Function.update_of_ne heq]
  · rw [Function.update_of_ne hp, if_neg fun h => hp h.1]

theorem Visits.one {t : DimmTimeout} {dimm : Nat}
    (hage : ∀ p d, t.age p d = if p = port ∧ d = dimm then ageAfter f port dimm (s.age port dimm) else s.age p d)
    (hexpired : ∀ p d, On (t.expired p) d =
      if p = port ∧ d = dimm then expiredAfter f port dimm (s.age port dimm) (On (s.expired port) dimm) else On (s.expired p) d) :
    Visits f (fun p d => p = port ∧ d = dimm) s t where
  age := by
    rintro p d ⟨rfl, rfl⟩
    rw [hage, if_pos ⟨rfl, rfl⟩]
  expired := by
    rintro p d ⟨rfl, rfl⟩
    rw [hexpired, if_pos ⟨rfl, rfl⟩]
  otherAge p d hne := by rw [hage, if_neg hne]
  otherExpired p d hne := by rw [hexpired, if_neg hne]

/-- A DIMM of a port: only a request of a reset leaves the loop. -/
theorem dimmTimeoutDimm_visits {dimm : Nat} (hd : dimm < 8) (s : DimmTimeout) :
    let r := dimmTimeoutDimm f (f.dimmNeedInc port) port dimm s
    Visits f (fun p d => p = port ∧ d = dimm) s r.1 ∧
      (r.2 = true → r.1.logGpe1Error = true) ∧ (r.2 = false → r.1.logGpe1Error = s.logGpe1Error) := by
  intro r
  have hr : r = dimmTimeoutDimm f (f.dimmNeedInc port) port dimm s := rfl
  clear_value r
  unfold dimmTimeoutDimm at hr
  dsimp only at hr
  by_cases hinc : On (f.dimmNeedInc port) dimm = true
  · have hageAfter : ageAfter f port dimm (s.age port dimm) = nextAge (s.age port dimm) := if_pos hinc
    rw [if_pos hinc] at hr
    by_cases hwait : f.dimmTempTimeout port dimm = 0xff ∨ nextAge (s.age port dimm) < f.dimmTempTimeout port dimm
    · have hexpiredAfter : expiredAfter f port dimm (s.age port dimm) (On (s.expired port) dimm) = On (s.expired port) dimm := by
        unfold expiredAfter
        rw [if_pos hinc, if_neg fun h : Elapsed _ _ => h hwait]
      rw [if_pos hwait] at hr
      subst hr
      refine ⟨.one (fun p d => ?_) (fun p d => ?_), nofun, fun _ => rfl⟩
      · rw [hageAfter]
        exact update_age s.age dimm _ p d
      · rw [hexpiredAfter]
        split_ifs with h
        · rw [h.1, h.2]
        · rfl
    · have hexpiredAfter : expiredAfter f port dimm (s.age port dimm) (On (s.expired port) dimm) = true := by
        unfold expiredAfter
        rw [if_pos hinc, if_pos (show Elapsed _ _ from hwait)]
      rw [if_neg hwait] at hr
      -- whatever becomes of the log, the age is counted and the bit is set
      have hkept : ∀ t : DimmTimeout,
          t.age = update s.age port (update (s.age port) dimm (nextAge (s.age port dimm))) →
          t.expired = markDimm s.expired port dimm → Visits f (fun p d => p = port ∧ d = dimm) s t := by
        rintro t hage hexpired
        refine .one (fun p d => ?_) (fun p d => ?_)
        · rw [hage, hageAfter]
          exact update_age s.age dimm _ p d
        · rw [hexpired, hexpiredAfter]
          exact on_update_set s.expired hd p d
      by_cases hlogged : On (s.logged port) dimm = true
      · rw [if_pos hlogged] at hr
        subst hr
        exact ⟨hkept _ rfl rfl, nofun, fun _ => rfl⟩
      rw [if_neg hlogged] at hr
      by_cases hgpe : f.dimmTempTimeout port dimm < f.gpe1NotIdle
      · rw [if_pos hgpe] at hr
        subst hr
        exact ⟨hkept _ rfl rfl, fun _ => rfl, nofun⟩
      rw [if_neg hgpe] at hr
      by_cases hroom : s.log.calloutsCount < Occ.Errl.maxCallouts
      · rw [if_pos hroom] at hr
        subst hr
        exact ⟨hkept _ rfl rfl, nofun, fun _ => rfl⟩
      · rw [if_neg hroom] at hr
        subst hr
        exact ⟨hkept _ rfl rfl, nofun, fun _ => rfl⟩
  · have hageAfter : ageAfter f port dimm (s.age port dimm) = s.age port dimm := if_neg hinc
    have hexpiredAfter : expiredAfter f port dimm (s.age port dimm) (On (s.expired port) dimm) = false := if_neg hinc
    rw [if_neg hinc] at hr
    subst hr
    refine ⟨.one (fun p d => ?_) (fun p d => ?_), nofun, fun _ => rfl⟩
    · rw [hageAfter]
      split_ifs with h
      · rw [h.1, h.2]
      · rfl
    · rw [hexpiredAfter]
      exact on_update_clr s.expired dimm p d

theorem Visits.trans {P Q : Nat → Nat → Prop} {t u : DimmTimeout} (h : Visits f P s t) (h' : Visits f Q t u)
    (hdisjoint : ∀ p d, P p d → ¬Q p d) : Visits f (fun p d => P p d ∨ Q p d) s u where
  age := by
    rintro p d (hP | hQ)
    · rw [h'.otherAge p d (hdisjoint p d hP), h.age p d hP]
    · rw [h'.age p d hQ, h.otherAge p d fun hP => hdisjoint p d hP hQ]
  expired := by
    rintro p d (hP | hQ)
    · rw [h'.otherExpired p d (hdisjoint p d hP), h.expired p d hP]
    · rw [h'.expired p d hQ, h.otherAge p d fun hP => hdisjoint p d hP hQ, h.otherExpired p d fun hP => hdisjoint p d hP hQ]
  otherAge p d hne := by
    obtain ⟨hP, hQ⟩ := not_or.1 hne
    rw [h'.otherAge p d hQ, h.otherAge p d hP]
  otherExpired p d hne := by
    obtain ⟨hP, hQ⟩ := not_or.1 hne
    rw [h'.otherExpired p d hQ, h.otherExpired p d hP]

theorem Visits.congr {P Q : Nat → Nat → Prop} {t : DimmTimeout} (h : Visits f P s t) (hPQ : ∀ p d, P p d ↔ Q p d) :
    Visits f Q s t where
  age p d hQ := h.age p d ((hPQ p d).2 hQ)
  expired p d hQ := h.expired p d ((hPQ p d).2 hQ)
  otherAge p d hne := h.otherAge p d (mt (hPQ p d).1 hne)
  otherExpired p d hne := h.otherExpired p d (mt (hPQ p d).1 hne)

theorem dimmTimeoutDimms_visits {dimms : List Nat} (hnodup : dimms.Nodup) (hdimms : ∀ d ∈ dimms, d < 8) (s : DimmTimeout)
    (hno : (dimmTimeoutDimms f (f.dimmNeedInc port) port dimms s).logGpe1Error = false) :
    s.logGpe1Error = false ∧
      Visits f (fun p d => p = port ∧ d ∈ dimms) s (dimmTimeoutDimms f (f.dimmNeedInc port) port dimms s) := by
  induction dimms generalizing s with
  | nil =>
    refine ⟨hno, ⟨?_, ?_, fun _ _ _ => rfl, fun _ _ _ => rfl⟩⟩
    · rintro p d ⟨-, hd⟩
      exact absurd hd List.not_mem_nil
    · rintro p d ⟨-, hd⟩
      exact absurd hd List.not_mem_nil
  | cons dimm dimms ih =>
    obtain ⟨hnew, hnodup⟩ := List.nodup_cons.1 hnodup
    obtain ⟨hvisit, hleave, hstay⟩ := @dimmTimeoutDimm_visits f port dimm (hdimms dimm List.mem_cons_self) s
    unfold dimmTimeoutDimms at hno ⊢
    dsimp only at hno ⊢
    generalize dimmTimeoutDimm f (f.dimmNeedInc port) port dimm s = r at *
    obtain ⟨t, _ | _⟩ := r
    · rw [if_neg Bool.false_ne_true] at hno ⊢
      obtain ⟨hnot, hvisits⟩ := ih hnodup (fun d hd => hdimms d (List.mem_cons_of_mem dimm hd)) t hno
      refine ⟨(hstay rfl).symm.trans hnot, (hvisit.trans hvisits ?_).congr fun p d => ?_⟩
      · rintro p d ⟨-, rfl⟩ ⟨-, hd⟩
        exact hnew hd
      · rw [List.mem_cons, and_or_left]
    · rw [if_pos rfl] at hno
      rw [hleave rfl] at hno
      exact absurd hno (by decide)

theorem maxDimm_le (m : MemType) : m.maxDimm ≤ 8 := by
  cases m <;> decide

theorem dimmTimeoutPorts_visits {ports : List Nat} (hnodup : ports.Nodup) (s : DimmTimeout)
    (hno : (dimmTimeoutPorts f ports s).logGpe1Error = false) :
    ∃ visited, Visits f visited s (dimmTimeoutPorts f ports s) ∧ (∀ p ∈ ports, ∀ d < f.config.memType.maxDimm, visited p d) ∧
      ∀ p d, visited p d → p ∈ ports := by
  induction ports generalizing s with
  | nil => exact ⟨fun _ _ => False, ⟨nofun, nofun, fun _ _ _ => rfl, fun _ _ _ => rfl⟩, nofun, nofun⟩
  | cons port ports ih =>
    obtain ⟨hnew, hnodup⟩ := List.nodup_cons.1 hnodup
    unfold dimmTimeoutPorts at hno ⊢
    -- a port whose DIMMs have been visited, and the ports after it
    have hrest : ∀ t : DimmTimeout, ∀ here : Nat → Prop, (∀ d < f.config.memType.maxDimm, here d) →
        Visits f (fun p d => p = port ∧ here d) s t → (dimmTimeoutPorts f ports t).logGpe1Error = false →
        ∃ visited, Visits f visited s (dimmTimeoutPorts f ports t) ∧
          (∀ p ∈ port :: ports, ∀ d < f.config.memType.maxDimm, visited p d) ∧ ∀ p d, visited p d → p ∈ port :: ports := by
      rintro t here hhere hvisit hno
      obtain ⟨visited, hvisits, hall, honly⟩ := ih hnodup t hno
      refine ⟨_, hvisit.trans hvisits ?_, ?_, ?_⟩
      · rintro p d ⟨rfl, -⟩ hd
        exact hnew (honly _ _ hd)
      · rintro p hp d hd
        obtain rfl | hp := List.mem_cons.1 hp
        · exact .inl ⟨rfl, hhere d hd⟩
        · exact .inr (hall p hp d hd)
      · rintro p d (⟨rfl, -⟩ | hd)
        · exact List.mem_cons_self
        · exact List.mem_cons_of_mem port (honly p d hd)
    by_cases hzero : f.dimmNeedInc port = 0
    · rw [if_pos hzero] at hno ⊢
      refine hrest _ (fun _ => True) (fun _ _ => trivial) ?_ hno
      have hoff : ∀ d, On (f.dimmNeedInc port) d = false := by
        rintro d
        rw [hzero]
        exact on_zero d
      refine ⟨?_, ?_, fun _ _ _ => rfl, ?_⟩
      · rintro p d ⟨rfl, -⟩
        exact (if_neg (by rw [hoff]; decide)).symm
      · rintro p d ⟨rfl, -⟩
        show On (update s.expired p 0 p) d = _
        rw [Function.update_self]
        exact (on_zero d).trans (if_neg (by rw [hoff]; decide)).symm
      · rintro p d hne
        show On (update s.expired port 0 p) d = _
        rw [Function.update_of_ne fun hp => hne ⟨hp, trivial⟩]
    · rw [if_neg hzero] at hno ⊢
      dsimp only at hno ⊢
      have hdimms : ∀ d ∈ List.range f.config.memType.maxDimm, d < 8 := fun d hd =>
        Nat.lt_of_lt_of_le (List.mem_range.1 hd) (maxDimm_le _)
      have hloop := @dimmTimeoutDimms_visits f port _ List.nodup_range hdimms s
      generalize dimmTimeoutDimms f (f.dimmNeedInc port) port (List.range f.config.memType.maxDimm) s = t at *
      obtain hreset | hreset := Bool.eq_false_or_eq_true t.logGpe1Error
      · rw [if_pos hreset] at hno
        rw [hreset] at hno
        exact absurd hno (by decide)
      · rw [if_neg (by rw [hreset]; decide)] at hno ⊢
        exact hrest t (· ∈ List.range f.config.memType.maxDimm) (fun d hd => List.mem_range.2 hd) (hloop hreset).2 hno

end

/-! ## The law -/

/-- The DIMMs of a system. -/
def Present (m : MemType) (port dimm : Nat) : Prop := port < m.maxPort ∧ dimm < m.maxDimm

/-- After a check, the expired bits are those of the sensors that are enabled and have been without a reading for as many checks
as their timeout says; the ages count these checks up to their maximum; and the types are those of the expired sensors. -/
structure TimeoutLaw (m : MemType) (t : Health × Missed) (f : Finds) : Prop where
  expired : ∀ p d, Present m p d → (On ((t.1.dimmTimeout f).dimmTempExpired p) d = true ↔
    (On (f.dimmEnabled p) d = true ∧ On (f.dimmTempUpdated p) d = false) ∧
      f.dimmTempTimeout p d ≠ 0xff ∧ (f.dimmTempTimeout p d).toNat ≤ missedStep f t.2 p d)
  age : ∀ p d, Present m p d → ((t.1.dimmTimeout f).dimmAge p d).toNat = min 255 (missedStep f t.2 p d)
  types : m = .ocm → ∀ j, (t.1.dimmTimeout f).ocmDtsTypeExpired.getLsbD j = true ↔
    ∃ p d, Present m p d ∧ On ((t.1.dimmTimeout f).dimmTempExpired p) d = true ∧ (f.dtsTypeMask p d).getLsbD j = true

/-- A sensor that has expired and still has no reading has a timeout that is still reached, and in a check that finds nothing to
do no sensor has expired. -/
structure TimeoutOk (m : MemType) (t : Health × Missed) (f : Finds) : Prop where
  waits : ∀ p d, Present m p d → On (f.dimmNeedInc p) d = true → On (t.1.dimmTempExpired p) d = true →
    Elapsed (f.dimmTempTimeout p d) (nextAge (t.1.dimmAge p d))
  idle : f.dimmIdle t.1 → ∀ p d, Present m p d → On (t.1.dimmTempExpired p) d = false

/-- What the states of a run have. -/
structure TimeoutInv (m : MemType) (t : Health × Missed) : Prop where
  age : ∀ p d, Present m p d → (t.1.dimmAge p d).toNat = min 255 (t.2 p d)
  updated : ∀ p d, Present m p d → On (t.1.dimmUpdatedPrev p) d = true → t.2 p d = 0 ∧ On (t.1.dimmTempExpired p) d = false

/-- A check of a system with one type of memory, in which no reset for GPE1 is requested. -/
def timeoutNext (m : MemType) (t : Health × Missed) (f : Finds) : Option (Health × Missed) :=
  if f.config.memType = m ∧ (t.1.dimmTimeout f).logGpe1Error = false then some (t.1.dimmTimeout f, missedStep f t.2) else none

section
variable {m : MemType} {h : Health} {missed : Missed} {f : Finds}

theorem maxPort_le (m : MemType) : m.maxPort ≤ 16 := by
  cases m <;> decide

theorem not_needInc_of_idle (hidle : f.dimmIdle h) {p d : Nat} (hp : Present m p d) : On (f.dimmNeedInc p) d = false := by
  rw [(hidle p (Nat.lt_of_lt_of_le hp.1 (maxPort_le m))).1]
  exact on_zero d

theorem on_needClr {p d : Nat} : On (f.dimmNeedClr h p) d = true ↔
    On (f.dimmTempUpdated p) d = true ∧ On (h.dimmUpdatedPrev p) d = false := by
  unfold Finds.dimmNeedClr
  rw [on_eq_getMsbD, on_eq_getMsbD, on_eq_getMsbD, clr, BitVec.getMsbD_and, BitVec.getMsbD_not, Bool.and_eq_true,
    Bool.and_eq_true, Bool.not_eq_true', decide_eq_true_eq]
  constructor
  · rintro ⟨hon, -, hoff⟩
    exact ⟨hon, hoff⟩
  · rintro ⟨hon, hoff⟩
    exact ⟨hon, BitVec.lt_of_getMsbD hon, hoff⟩

theorem prev_of_idle (hidle : f.dimmIdle h) {p d : Nat} (hp : Present m p d) (hup : On (f.dimmTempUpdated p) d = true) :
    On (h.dimmUpdatedPrev p) d = true := by
  by_contra hprev
  have hclr : On (f.dimmNeedClr h p) d = true := on_needClr.2 ⟨hup, Bool.not_eq_true _ ▸ hprev⟩
  rw [(hidle p (Nat.lt_of_lt_of_le hp.1 (maxPort_le m))).2] at hclr
  exact absurd ((on_zero d).symm.trans hclr) (by decide)

theorem dimmTimeout_of_idle (hidle : f.dimmIdle h) : (h.dimmTimeout f).dimmAge = h.dimmAge ∧
    (h.dimmTimeout f).dimmTempExpired = h.dimmTempExpired ∧
    (f.config.memType = .ocm → (h.dimmTimeout f).ocmDtsTypeExpired = 0) := by
  unfold Health.dimmTimeout
  dsimp only
  rw [if_pos hidle, if_pos hidle]
  exact ⟨rfl, rfl, fun hocm => if_pos hocm⟩

theorem dimmTimeout_of_busy (hidle : ¬f.dimmIdle h) (hno : (h.dimmTimeout f).logGpe1Error = false) :
    (∀ p d, Present f.config.memType p d → (h.dimmTimeout f).dimmAge p d =
        if On (f.dimmNeedClr h p) d then 0 else ageAfter f p d (h.dimmAge p d)) ∧
      (∀ p d, Present f.config.memType p d → On ((h.dimmTimeout f).dimmTempExpired p) d =
        expiredAfter f p d (h.dimmAge p d) (On (h.dimmTempExpired p) d)) ∧
      (f.config.memType = .ocm → (h.dimmTimeout f).ocmDtsTypeExpired =
        dtsTypeExpired f f.config.memType.maxPort (h.dimmTimeout f).dimmTempExpired) := by
  unfold Health.dimmTimeout at hno ⊢
  dsimp only at hno ⊢
  rw [if_neg hidle] at hno ⊢
  rw [if_neg hidle]
  obtain ⟨visited, hvisits, hall, -⟩ := dimmTimeoutPorts_visits List.nodup_range h.dimmTimeoutStart hno
  have hseen : ∀ p d, Present f.config.memType p d → visited p d :=
    fun p d hp => hall p (List.mem_range.2 hp.1) d hp.2
  refine ⟨fun p d hp => ?_, fun p d hp => hvisits.expired p d (hseen p d hp), fun hocm => if_pos hocm⟩
  show (if (decide (p < f.config.memType.maxPort) && decide (d < f.config.memType.maxDimm) && On (f.dimmNeedClr h p) d) = true
    then 0 else _) = _
  rw [decide_eq_true hp.1, decide_eq_true hp.2, Bool.true_and, Bool.true_and, hvisits.age p d (hseen p d hp)]
  rfl

theorem missedStep_of_updated {p d : Nat} (hup : On (f.dimmTempUpdated p) d = true) : missedStep f missed p d = 0 := if_pos hup

theorem missedStep_of_needInc {p d : Nat} (hinc : On (f.dimmNeedInc p) d = true) :
    missedStep f missed p d = missed p d + 1 := by
  obtain ⟨hon, hup⟩ := on_needInc.1 hinc
  unfold missedStep
  rw [if_neg (by rw [hup]; decide), if_pos hon]

theorem missedStep_of_disabled {p d : Nat} (hup : On (f.dimmTempUpdated p) d = false)
    (hinc : On (f.dimmNeedInc p) d = false) : missedStep f missed p d = missed p d := by
  have hoff : ¬On (f.dimmEnabled p) d = true := by
    rintro hon
    rw [on_needInc.2 ⟨hon, hup⟩] at hinc
    exact absurd hinc (by decide)
  unfold missedStep
  rw [if_neg (by rw [hup]; decide), if_neg hoff]

theorem not_needInc_of_updated {p d : Nat} (hup : On (f.dimmTempUpdated p) d = true) : On (f.dimmNeedInc p) d = false := by
  by_contra hinc
  rw [Bool.not_eq_false, on_needInc, hup] at hinc
  exact absurd hinc.2 (by decide)

/-- After a check, the age of a DIMM counts the checks that it missed, and one with a reading has not expired. -/
theorem TimeoutInv.after (hinv : TimeoutInv m (h, missed)) (hm : f.config.memType = m)
    (hno : (h.dimmTimeout f).logGpe1Error = false) {p d : Nat} (hp : Present m p d) :
    ((h.dimmTimeout f).dimmAge p d).toNat = min 255 (missedStep f missed p d) ∧
      (On (f.dimmTempUpdated p) d = true → On ((h.dimmTimeout f).dimmTempExpired p) d = false) := by
  subst hm
  have hage : (h.dimmAge p d).toNat = min 255 (missed p d) := hinv.age p d hp
  by_cases hidle : f.dimmIdle h
  · obtain ⟨hsame, hkept, -⟩ := dimmTimeout_of_idle hidle
    rw [hsame, hkept]
    obtain hup | hup := Bool.eq_false_or_eq_true (On (f.dimmTempUpdated p) d)
    · obtain ⟨hzero, hclear⟩ := hinv.updated p d hp (prev_of_idle hidle hp hup)
      rw [missedStep_of_updated hup, hage, show missed p d = 0 from hzero]
      exact ⟨rfl, fun _ => hclear⟩
    · rw [missedStep_of_disabled hup (not_needInc_of_idle hidle hp)]
      exact ⟨hage, fun h => absurd h (by rw [hup]; decide)⟩
  · obtain ⟨hages, hexpired, -⟩ := dimmTimeout_of_busy hidle hno
    rw [hages p d hp, hexpired p d hp]
    obtain hup | hup := Bool.eq_false_or_eq_true (On (f.dimmTempUpdated p) d)
    · have hinc := @not_needInc_of_updated f p d hup
      rw [missedStep_of_updated hup]
      refine ⟨?_, fun _ => if_neg (by rw [hinc]; decide)⟩
      obtain hprev | hprev := Bool.eq_false_or_eq_true (On (h.dimmUpdatedPrev p) d)
      · -- the age has been 0 since the first of the readings
        obtain ⟨hzero, -⟩ := hinv.updated p d hp hprev
        have hnot : ¬On (f.dimmNeedClr h p) d = true := by
          rintro hclr
          rw [(on_needClr.1 hclr).2] at hprev
          exact absurd hprev (by decide)
        have hsame : ageAfter f p d (h.dimmAge p d) = h.dimmAge p d := if_neg (by rw [hinc]; decide)
        rw [if_neg hnot, hsame, hage, show missed p d = 0 from hzero]
      · rw [if_pos (on_needClr.2 ⟨hup, hprev⟩)]
        rfl
    · refine ⟨?_, fun h => absurd h (by rw [hup]; decide)⟩
      have hnot : ¬On (f.dimmNeedClr h p) d = true := by
        rintro hclr
        rw [(on_needClr.1 hclr).1] at hup
        exact absurd hup (by decide)
      rw [if_neg hnot]
      unfold ageAfter
      obtain hinc | hinc := Bool.eq_false_or_eq_true (On (f.dimmNeedInc p) d)
      · rw [if_pos hinc, missedStep_of_needInc hinc, toNat_nextAge, hage]
        omega
      · rw [if_neg (by rw [hinc]; decide), missedStep_of_disabled hup hinc, hage]

theorem TimeoutInv.step {t t' : Health × Missed} (hinv : TimeoutInv m t) (hstep : timeoutNext m t f = some t') :
    TimeoutInv m t' := by
  unfold timeoutNext at hstep
  split_ifs at hstep with hok
  obtain rfl := Option.some.inj hstep
  refine ⟨fun p d hp => (hinv.after hok.1 hok.2 hp).1, fun p d hp hup => ?_⟩
  exact ⟨missedStep_of_updated hup, (hinv.after hok.1 hok.2 hp).2 hup⟩

/-! ## The types -/

theorem getLsbD_foldl {α : Type} {w j : Nat} {g : BitVec w → α → BitVec w} {b : α → Bool}
    (hg : ∀ acc x, (g acc x).getLsbD j = (acc.getLsbD j || b x)) (xs : List α) (acc : BitVec w) :
    (xs.foldl g acc).getLsbD j = (acc.getLsbD j || xs.any b) := by
  induction xs generalizing acc with
  | nil => simp
  | cons x xs ih => rw [List.foldl_cons, ih, hg, List.any_cons, Bool.or_assoc]

theorem getLsbD_dtsTypeExpired (maxPort : Nat) (expired : DimmFlags) (j : Nat) :
    (dtsTypeExpired f maxPort expired).getLsbD j = true ↔ ∃ p d, (p < maxPort ∧ d < f.config.memType.maxDimm) ∧
      On (expired p) d = true ∧ (f.dtsTypeMask p d).getLsbD j = true := by
  have hone : ∀ p, ∀ acc : BitVec 8, ∀ d,
      (if On (expired p) d then acc ||| f.dtsTypeMask p d else acc).getLsbD j =
        (acc.getLsbD j || (On (expired p) d && (f.dtsTypeMask p d).getLsbD j)) := by
    rintro p acc d
    cases On (expired p) d
    · simp
    · simp
  unfold dtsTypeExpired
  rw [getLsbD_foldl fun acc p => getLsbD_foldl (hone p) _ acc,
    show (0 : BitVec 8).getLsbD j = false from BitVec.getLsbD_zero, Bool.false_or, List.any_eq_true]
  constructor
  · rintro ⟨p, hp, hany⟩
    obtain ⟨d, hd, hbit⟩ := List.any_eq_true.1 hany
    exact ⟨p, d, ⟨List.mem_range.1 hp, List.mem_range.1 hd⟩, Bool.and_eq_true_iff.1 hbit⟩
  · rintro ⟨p, d, ⟨hp, hd⟩, hbit⟩
    exact ⟨p, List.mem_range.2 hp, List.any_eq_true.2 ⟨d, List.mem_range.2 hd, Bool.and_eq_true_iff.2 hbit⟩⟩

/-! ## Runs -/

/-- A check has the law if and only if it meets the condition. -/
theorem timeoutLaw_iff {t t' : Health × Missed} (hinv : TimeoutInv m t) (hstep : timeoutNext m t f = some t') :
    TimeoutLaw m t f ↔ TimeoutOk m t f := by
  obtain ⟨h, missed⟩ := t
  unfold timeoutNext at hstep
  split_ifs at hstep with hok
  obtain ⟨rfl, hno⟩ := hok
  -- for a DIMM without a reading, the ages reach the timeout when the checks do
  have helapsed : ∀ p d, Present f.config.memType p d → On (f.dimmNeedInc p) d = true →
      (Elapsed (f.dimmTempTimeout p d) (nextAge (h.dimmAge p d)) ↔
        f.dimmTempTimeout p d ≠ 0xff ∧ (f.dimmTempTimeout p d).toNat ≤ missedStep f missed p d) := by
    rintro p d hp hinc
    have hage : (h.dimmAge p d).toNat = min 255 (missed p d) := hinv.age p d hp
    refine elapsed_iff ?_
    rw [missedStep_of_needInc hinc, toNat_nextAge, hage]
    omega
  have hbusy : ∀ p d, Present f.config.memType p d → On (f.dimmNeedInc p) d = true → ¬f.dimmIdle h := by
    rintro p d hp hinc hidle
    rw [not_needInc_of_idle hidle hp] at hinc
    exact absurd hinc (by decide)
  constructor
  · rintro ⟨hexpired, -, -⟩
    refine ⟨fun p d hp hinc hold => ?_, fun hidle p d hp => ?_⟩
    · by_contra hwait
      have hkept : On ((h.dimmTimeout f).dimmTempExpired p) d = true := by
        rw [(dimmTimeout_of_busy (hbusy p d hp hinc) hno).2.1 p d hp]
        unfold expiredAfter
        rw [if_pos hinc, if_neg hwait]
        exact hold
      exact hwait ((helapsed p d hp hinc).2 ((hexpired p d hp).1 hkept).2)
    · by_contra hold
      have hkept : On ((h.dimmTimeout f).dimmTempExpired p) d = true := by
        rw [(dimmTimeout_of_idle hidle).2.1]
        exact Bool.not_eq_false _ ▸ hold
      exact hbusy p d hp (on_needInc.2 ((hexpired p d hp).1 hkept).1) hidle
  · rintro ⟨hwaits, hidleOk⟩
    have hexpired : ∀ p d, Present f.config.memType p d → (On ((h.dimmTimeout f).dimmTempExpired p) d = true ↔
        (On (f.dimmEnabled p) d = true ∧ On (f.dimmTempUpdated p) d = false) ∧
          f.dimmTempTimeout p d ≠ 0xff ∧ (f.dimmTempTimeout p d).toNat ≤ missedStep f missed p d) := by
      rintro p d hp
      rw [← on_needInc]
      obtain hinc | hinc := Bool.eq_false_or_eq_true (On (f.dimmNeedInc p) d)
      · rw [(dimmTimeout_of_busy (hbusy p d hp hinc) hno).2.1 p d hp, ← helapsed p d hp hinc]
        unfold expiredAfter
        rw [if_pos hinc]
        by_cases hel : Elapsed (f.dimmTempTimeout p d) (nextAge (h.dimmAge p d))
        · rw [if_pos hel]
          exact ⟨fun _ => ⟨hinc, hel⟩, fun _ => rfl⟩
        · rw [if_neg hel]
          exact ⟨fun hold => absurd (hwaits p d hp hinc hold) hel, fun h => absurd h.2 hel⟩
      · have hclear : On ((h.dimmTimeout f).dimmTempExpired p) d = false := by
          by_cases hidle : f.dimmIdle h
          · rw [(dimmTimeout_of_idle hidle).2.1]
            exact hidleOk hidle p d hp
          · rw [(dimmTimeout_of_busy hidle hno).2.1 p d hp]
            exact if_neg (by rw [hinc]; decide)
        rw [hclear, hinc]
        exact ⟨nofun, fun h => absurd h.1 (by decide)⟩
    refine ⟨hexpired, fun p d hp => (hinv.after rfl hno hp).1, fun hocm j => ?_⟩
    by_cases hidle : f.dimmIdle h
    · obtain ⟨-, hkept, hnone⟩ := dimmTimeout_of_idle hidle
      rw [show (h.dimmTimeout f).ocmDtsTypeExpired = 0 from hnone hocm]
      constructor
      · rintro hbit
        exact absurd hbit (by simp)
      · rintro ⟨p, d, hp, hon, -⟩
        rw [show (h.dimmTimeout f).dimmTempExpired = h.dimmTempExpired from hkept, hidleOk hidle p d hp] at hon
        exact absurd hon (by decide)
    · rw [show (h.dimmTimeout f).ocmDtsTypeExpired = _ from (dimmTimeout_of_busy hidle hno).2.2 hocm]
      exact getLsbD_dtsTypeExpired _ _ j

end

theorem timeoutInv_start (m : MemType) : TimeoutInv m (.start, fun _ _ => 0) where
  age _ _ _ := rfl
  updated p d _ hprev := by
    rw [show On (Health.start.dimmUpdatedPrev p) d = false from on_zero d] at hprev
    exact absurd hprev (by decide)

/-- All checks of a run have the law if and only if all of them meet the condition. -/
theorem timeoutLaw_run (m : MemType) {t : Health × Missed} {fs : List Finds} :
    Run (Guarded (TimeoutLaw m) (StepOf (timeoutNext m))) (.start, fun _ _ => 0) fs t ↔
      Run (Guarded (TimeoutOk m) (StepOf (timeoutNext m))) (.start, fun _ _ => 0) fs t :=
  run_guarded_congr (P := TimeoutInv m) (fun _ _ _ hinv hstep => hinv.step hstep)
    (fun _ _ _ hinv hstep => timeoutLaw_iff hinv hstep) (timeoutInv_start m)

/-- One sensor of a Nimbus system, with a timeout. -/
def oneSensor (timeout : BitVec 8) : Finds where
  config := ⟨.nimbus, fun _ => 0, fun _ _ => 1, 0⟩
  thermaldimm := ⟨0, timeout, 0⟩
  thermalmcdimm := ⟨0, 0xff, 0⟩
  thermalpmic := ⟨0, 0xff, 0⟩
  thermalmcext := ⟨0, 0xff, 0⟩
  thermalcent := ⟨0, 0xff, 0⟩
  thermalproc := ⟨0, 0xff, 0⟩
  procTemp := 0
  tempFruType := fun _ _ => .dimm
  dtsTypeMask := fun _ _ => 1
  dimmOvertemp := fun _ => 0
  dimmTempUpdated := fun _ => 0
  dimmEnabled := fun port => if port = 0 then 0x80 else 0
  centOvertemp := 0
  centTempUpdated := 0
  presentCentaurs := 0
  gpe1NotIdle := 0
  logs := ⟨fun _ => 0, fun _ => false, fun _ => false⟩

/-- The sensor expires, and its bit stays when its timeout is disabled. -/
theorem expired_without_timeout :
    ∃ t t', Run (StepOf (timeoutNext .nimbus)) (.start, fun _ _ => 0) [oneSensor 1] t ∧
      StepOf (timeoutNext .nimbus) t (oneSensor 0xff) t' ∧ On (t'.1.dimmTempExpired 0) 0 = true ∧
      ¬TimeoutLaw .nimbus t (oneSensor 0xff) := by
  have hexpired : On (((Health.start.dimmTimeout (oneSensor 1)).dimmTimeout (oneSensor 0xff)).dimmTempExpired 0) 0 = true := by
    decide
  refine ⟨(Health.start.dimmTimeout (oneSensor 1), missedStep (oneSensor 1) fun _ _ => 0),
    ((Health.start.dimmTimeout (oneSensor 1)).dimmTimeout (oneSensor 0xff),
      missedStep (oneSensor 0xff) (missedStep (oneSensor 1) fun _ _ => 0)), .single ?_, ?_, hexpired, ?_⟩
  · exact if_pos ⟨rfl, by decide⟩
  · exact if_pos ⟨rfl, by decide⟩
  · rintro ⟨hlaw, -, -⟩
    exact absurd ((hlaw 0 0 ⟨by decide, by decide⟩).1 hexpired).2.1 (by decide)

end Occ.Amec.DimmTimeoutLaw
