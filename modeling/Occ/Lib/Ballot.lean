/-
Ceiling ballots: a running vote is lowered by each later vote strictly below it and takes over
that vote's tag. The limit of the tally is the minimum of all limits, and its tag is the tag of
the first vote that attains the minimum.
-/
import Mathlib.Order.Lattice
import Mathlib.Order.MinMax
import Mathlib.Tactic.Common

namespace Occ.Ballot

variable {α β : Type} [LinearOrder α]

/-- A ceiling with the tag it was cast under. -/
structure Vote (α β : Type) where
  limit : α
  tag : β
deriving DecidableEq, Repr

/-- Cast `v` against the running vote `w`: only a strictly lower limit takes over. -/
def lower (w v : Vote α β) : Vote α β :=
  if v.limit < w.limit then v else w

/-- The running vote after a list of votes in order. -/
def tally (w : Vote α β) (vs : List (Vote α β)) : Vote α β :=
  vs.foldl lower w

@[simp] theorem tally_nil (w : Vote α β) : tally w [] = w := rfl

@[simp] theorem tally_cons (w v : Vote α β) (vs : List (Vote α β)) :
    tally w (v :: vs) = tally (lower w v) vs := rfl

/-! ## The limit -/

theorem limit_lower (w v : Vote α β) : (lower w v).limit = min w.limit v.limit := by
  unfold lower
  split
  · rename_i h; exact (min_eq_right h.le).symm
  · rename_i h; exact (min_eq_left (not_lt.1 h)).symm

/-- The limit of a tally is below a bound from above exactly when every vote is. -/
theorem le_limit_tally_iff (b : α) (w : Vote α β) (vs : List (Vote α β)) :
    b ≤ (tally w vs).limit ↔ b ≤ w.limit ∧ ∀ v ∈ vs, b ≤ v.limit := by
  induction vs generalizing w with
  | nil => simp
  | cons v vs ih =>
    rw [tally_cons, ih, limit_lower, le_min_iff]
    simp [and_assoc]

theorem limit_tally_le (w : Vote α β) (vs : List (Vote α β)) : (tally w vs).limit ≤ w.limit :=
  ((le_limit_tally_iff _ w vs).1 le_rfl).1

/-! ## The tag -/

section Tagged

variable {P : β → Prop}

/-- Among votes that all carry `P`, the tally carries `P` when the running vote did or was lowered. -/
theorem tag_tally_iff_or (w : Vote α β) (vs : List (Vote α β)) (hvs : ∀ v ∈ vs, P v.tag) :
    P (tally w vs).tag ↔ P w.tag ∨ (tally w vs).limit < w.limit := by
  induction vs generalizing w with
  | nil => simp
  | cons v vs ih =>
    rw [tally_cons, ih _ fun u hu => hvs u (by simp [hu])]
    by_cases hv : v.limit < w.limit
    · have hc : lower w v = v := if_pos hv
      have hle : (tally v vs).limit < w.limit := (limit_tally_le v vs).trans_lt hv
      rw [hc]
      exact ⟨fun _ => .inr hle, fun _ => .inl (hvs v (by simp))⟩
    · have hc : lower w v = w := if_neg hv
      rw [hc]

/-- Among votes that never carry `P`, the tally carries `P` when the running vote did and stood. -/
theorem tag_tally_iff_and (w : Vote α β) (vs : List (Vote α β)) (hvs : ∀ v ∈ vs, ¬ P v.tag) :
    P (tally w vs).tag ↔ P w.tag ∧ w.limit ≤ (tally w vs).limit := by
  have h := tag_tally_iff_or (P := fun b => ¬ P b) w vs hvs
  rw [← not_iff_not, h, not_and_or, not_le]

end Tagged

/-! ## The vote that lowered last -/

/-- The last vote to lower the running vote `w`: it is below the start and every vote before it, and no vote after it is below
it. -/
structure LowersLast (w : Vote α β) (before : List (Vote α β)) (v : Vote α β) (after : List (Vote α β)) : Prop where
  below_start : v.limit < w.limit
  below_before : ∀ u ∈ before, v.limit < u.limit
  not_below : ∀ u ∈ after, v.limit ≤ u.limit

/-- A tally is the start, or the last vote that lowered it. -/
theorem tally_cases (w : Vote α β) (vs : List (Vote α β)) :
    (tally w vs = w ∧ ∀ u ∈ vs, w.limit ≤ u.limit) ∨
      ∃ before after, vs = before ++ tally w vs :: after ∧ LowersLast w before (tally w vs) after := by
  induction vs generalizing w with
  | nil => exact .inl ⟨rfl, nofun⟩
  | cons v vs ih =>
    rw [tally_cons]
    by_cases hv : v.limit < w.limit
    · have hc : lower w v = v := if_pos hv
      rw [hc]
      obtain ⟨hstays, hvs⟩ | ⟨before, after, hsplit, hlast⟩ := ih v
      · refine .inr ⟨[], vs, ?_, ?_⟩
        · rw [hstays]
          rfl
        · rw [hstays]
          exact ⟨hv, nofun, hvs⟩
      · refine .inr ⟨v :: before, after, congrArg (v :: ·) hsplit, hlast.below_start.trans hv, ?_, hlast.not_below⟩
        rintro u (_ | ⟨_, hu⟩)
        · exact hlast.below_start
        · exact hlast.below_before u hu
    · have hc : lower w v = w := if_neg hv
      rw [hc]
      obtain ⟨hstays, hvs⟩ | ⟨before, after, hsplit, hlast⟩ := ih w
      · refine .inl ⟨hstays, ?_⟩
        rintro u (_ | ⟨_, hu⟩)
        · exact not_lt.1 hv
        · exact hvs u hu
      · refine .inr ⟨v :: before, after, congrArg (v :: ·) hsplit, hlast.below_start, ?_, hlast.not_below⟩
        rintro u (_ | ⟨_, hu⟩)
        · exact hlast.below_start.trans_le (not_lt.1 hv)
        · exact hlast.below_before u hu

end Occ.Ballot
