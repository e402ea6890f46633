/-
Events that are counted until they are reported: a counter of `w` bits, and beside it whether an event is still owed to whoever
reads the reports, and whether one came since the last report.
-/
import Mathlib.Data.BitVec
import Mathlib.Tactic.Common

namespace Occ.Pending

variable {w : Nat}

/-- The counter of a kind of event, whether an event came that no good report has covered, and whether one came since the last
report of either kind. -/
structure Slot (w : Nat) where
  count : BitVec w
  owed : Bool
  fresh : Bool
deriving DecidableEq

/-- What happens to it in a turn: an event comes, its counter is taken into a report, and the report is good. -/
structure Turn where
  arrived : Bool
  taken : Bool
  good : Bool
deriving DecidableEq

section
variable (t : Turn) (s : Slot w)

/-- The counter with the event of the turn. -/
def Turn.counted (n : BitVec w) : BitVec w := if t.arrived then n + 1 else n

/-- The turn reports an event. -/
def Turn.reports (n : BitVec w) : Bool := t.taken && t.counted n ≠ 0

def Slot.next : Slot w where
  count := if t.taken then 0 else t.counted s.count
  owed := (s.owed || t.arrived) && !(t.reports s.count && t.good)
  fresh := (s.fresh || t.arrived) && !t.reports s.count

/-- What is owed is still in the counter. -/
def Slot.Kept : Prop := s.owed = true → s.count ≠ 0

/-- The turn loses nothing: the counter does not wrap, and what is taken goes into a good report. -/
structure Turn.Safe (n : BitVec w) : Prop where
  no_wrap : t.arrived = true → n + 1 ≠ 0
  good : t.taken = true → t.arrived = true ∨ n ≠ 0 → t.good = true

/-- A counter that is not zero stands for an event that is owed, and that came since the last report. -/
structure Slot.Inv : Prop where
  owed : s.count ≠ 0 → s.owed = true
  fresh : s.count ≠ 0 → s.fresh = true

end

section
variable {t : Turn} {s : Slot w}

theorem Turn.counted_of_arrived {n : BitVec w} (h : t.arrived = true) : t.counted n = n + 1 := if_pos h

theorem Turn.counted_of_not {n : BitVec w} (h : t.arrived = false) : t.counted n = n := if_neg (Bool.eq_false_iff.1 h)

/-- What is counted has come in this turn or before it. -/
theorem Turn.arrived_or {n : BitVec w} (h : t.counted n ≠ 0) : t.arrived = true ∨ n ≠ 0 := by
  cases harrived : t.arrived with
  | true => exact .inl rfl
  | false =>
    rw [Turn.counted_of_not harrived] at h
    exact .inr h

theorem Slot.inv_next (h : s.Inv) : (s.next t).Inv := by
  have hstays : (s.next t).count ≠ 0 → t.reports s.count = false ∧ t.counted s.count ≠ 0 := by
    unfold Slot.next Turn.reports
    dsimp only
    cases t.taken with
    | true => exact fun hne => absurd rfl hne
    | false => exact fun hne => ⟨rfl, hne⟩
  have hcame : ∀ b : Bool, (s.count ≠ 0 → b = true) → (s.next t).count ≠ 0 → (b || t.arrived) = true := by
    intro b hb hne
    obtain harrived | hcount := t.arrived_or (hstays hne).2
    · rw [harrived, Bool.or_true]
    · rw [hb hcount, Bool.true_or]
  constructor
  · intro hne
    have howed := hcame _ h.owed hne
    unfold Slot.next
    rw [(hstays hne).1, howed]
    rfl
  · intro hne
    have hfresh := hcame _ h.fresh hne
    unfold Slot.next
    rw [(hstays hne).1, hfresh]
    rfl

/-- A turn reports only events that came since the last report. -/
theorem Slot.fresh_of_reports (h : s.Inv) (hreports : t.reports s.count = true) : s.fresh = true ∨ t.arrived = true := by
  obtain ⟨-, hne⟩ := Bool.and_eq_true_iff.1 hreports
  obtain harrived | hcount := t.arrived_or (of_decide_eq_true hne)
  · exact .inr harrived
  · exact .inl (h.fresh hcount)

/-- A turn that takes the counter keeps what is owed if and only if it loses nothing. -/
theorem Slot.owed_taken_iff (h : s.Inv) (hkept : s.Kept) (htaken : t.taken = true) : (s.next t).owed = false ↔ t.Safe s.count := by
  have hreports : t.reports s.count = decide (t.counted s.count ≠ 0) := by
    unfold Turn.reports
    rw [htaken, Bool.true_and]
  unfold Slot.next
  dsimp only
  rw [hreports]
  by_cases hcounted : t.counted s.count = 0
  · rw [decide_eq_false (not_not.2 hcounted), Bool.false_and, Bool.not_false, Bool.and_true, Bool.or_eq_false_iff]
    constructor
    · rintro ⟨howed, harrived⟩
      refine ⟨fun h => absurd (harrived.symm.trans h) Bool.false_ne_true, ?_⟩
      rintro - (harrived' | hcount)
      · exact absurd (harrived.symm.trans harrived') Bool.false_ne_true
      · exact absurd (howed.symm.trans (h.owed hcount)) Bool.false_ne_true
    · rintro ⟨hwrap, -⟩
      have harrived : t.arrived = false := Bool.eq_false_iff.2 fun harrived =>
        hwrap harrived (Turn.counted_of_arrived harrived ▸ hcounted)
      rw [Turn.counted_of_not harrived] at hcounted
      exact ⟨Bool.eq_false_iff.2 fun howed => hkept howed hcounted, harrived⟩
  · have hsome : (s.owed || t.arrived) = true := by
      obtain harrived | hcount := t.arrived_or hcounted
      · rw [harrived, Bool.or_true]
      · rw [h.owed hcount, Bool.true_or]
    rw [decide_eq_true hcounted, hsome, Bool.true_and, Bool.true_and, Bool.not_eq_false']
    constructor
    · exact fun hgood => ⟨fun harrived => Turn.counted_of_arrived harrived ▸ hcounted, fun _ _ => hgood⟩
    · rintro ⟨-, hgood⟩
      exact hgood htaken (t.arrived_or hcounted)

/-- A turn after which everything owed is still counted is one that loses nothing. -/
theorem Slot.kept_next_iff (h : s.Inv) (hkept : s.Kept) : (s.next t).Kept ↔ t.Safe s.count := by
  cases htaken : t.taken with
  | true =>
    have hzero : (s.next t).count = 0 := if_pos htaken
    rw [← Slot.owed_taken_iff h hkept htaken]
    unfold Slot.Kept
    rw [hzero]
    exact ⟨fun hnone => Bool.eq_false_iff.2 fun howed => hnone howed rfl,
      fun hnone howed => absurd (hnone.symm.trans howed) Bool.false_ne_true⟩
  | false =>
    have hcount : (s.next t).count = t.counted s.count := if_neg (Bool.eq_false_iff.1 htaken)
    have howed : (s.next t).owed = (s.owed || t.arrived) := by
      unfold Slot.next Turn.reports
      rw [htaken]
      exact Bool.and_true _
    unfold Slot.Kept
    rw [hcount, howed]
    cases harrived : t.arrived with
    | true =>
      rw [Turn.counted_of_arrived harrived, Bool.or_true]
      exact ⟨fun hne => ⟨fun _ => hne rfl, fun htaken' => absurd (htaken.symm.trans htaken') Bool.false_ne_true⟩,
        fun hsafe _ => hsafe.no_wrap harrived⟩
    | false =>
      rw [Turn.counted_of_not harrived, Bool.or_false]
      exact ⟨fun _ => ⟨fun harrived' => absurd (harrived.symm.trans harrived') Bool.false_ne_true,
        fun htaken' => absurd (htaken.symm.trans htaken') Bool.false_ne_true⟩, fun _ => hkept⟩

end

end Occ.Pending
