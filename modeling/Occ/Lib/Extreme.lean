/-
The first extreme of a list of keyed values, found in one pass from a starting value that stands for none: a value
replaces the one held when it is better.
-/
import Mathlib.Data.List.Induction
import Mathlib.Tactic.Common

namespace Occ.Extreme

variable {ι α : Type} {better : α → α → Prop}

/-- A strict order. -/
structure Strict (better : α → α → Prop) : Prop where
  irrefl : ∀ a, ¬better a a
  trans : ∀ a b c, better a b → better b c → better a c

/-- One value of the pass. -/
def pick (better : α → α → Prop) [DecidableRel better] (held : α × ι) (entry : ι × α) : α × ι :=
  if better entry.2 held.1 then (entry.2, entry.1) else held

/-- What is held after some entries: the start, while none is better; else an entry that none is better than. -/
structure Held (better : α → α → Prop) (start : α × ι) (entries : List (ι × α)) (held : α × ι) : Prop where
  none : (∀ entry ∈ entries, ¬better entry.2 start.1) → held = start
  some : (∃ entry ∈ entries, better entry.2 start.1) → (held.2, held.1) ∈ entries ∧ better held.1 start.1
  best : ∀ entry ∈ entries, ¬better entry.2 held.1

theorem Held.nil (start : α × ι) : Held better start [] start :=
  ⟨fun _ => rfl, fun ⟨_, h, _⟩ => absurd h List.not_mem_nil, fun _ h => absurd h List.not_mem_nil⟩

variable [DecidableRel better] {start held : α × ι} {entries : List (ι × α)}

theorem Held.pick (hstrict : Strict better) (h : Held better start entries held) (entry : ι × α) :
    Held better start (entries ++ [entry]) (pick better held entry) := by
  -- what is held is the start, or better than it
  have hheld : held = start ∨ (held.2, held.1) ∈ entries ∧ better held.1 start.1 := by
    by_cases hsome : ∃ other ∈ entries, better other.2 start.1
    · exact .inr (h.some hsome)
    · left
      apply h.none
      intro other hother hbetter
      exact hsome ⟨other, hother, hbetter⟩
  unfold Extreme.pick
  by_cases hbetter : better entry.2 held.1
  · have hstart : better entry.2 start.1 := by
      rcases hheld with rfl | ⟨-, hlt⟩
      · exact hbetter
      · exact hstrict.trans _ _ _ hbetter hlt
    rw [if_pos hbetter]
    constructor
    case none =>
      intro hnone
      exact absurd hstart (hnone entry (List.mem_append_right _ List.mem_cons_self))
    case some => exact fun _ => ⟨List.mem_append_right _ List.mem_cons_self, hstart⟩
    case best =>
      intro other hother hlt
      rcases List.mem_append.1 hother with hother | hother
      · exact h.best other hother (hstrict.trans _ _ _ hlt hbetter)
      · rw [List.mem_singleton.1 hother] at hlt
        exact hstrict.irrefl _ hlt
  · rw [if_neg hbetter]
    constructor
    case none => exact fun hnone => h.none fun other hother => hnone other (List.mem_append_left _ hother)
    case some =>
      rintro ⟨other, hother, hlt⟩
      rcases hheld with rfl | ⟨hmem, hheld⟩
      · rcases List.mem_append.1 hother with hother | hother
        · exact absurd hlt (h.best other hother)
        · rw [List.mem_singleton.1 hother] at hlt
          exact absurd hlt hbetter
      · exact ⟨List.mem_append_left _ hmem, hheld⟩
    case best =>
      intro other hother
      rcases List.mem_append.1 hother with hother | hother
      · exact h.best other hother
      · rw [List.mem_singleton.1 hother]
        exact hbetter

/-- The whole pass. -/
theorem held_foldl (hstrict : Strict better) (start : α × ι) (entries : List (ι × α)) :
    Held better start entries (entries.foldl (pick better) start) := by
  induction entries using List.reverseRecOn with
  | nil => exact Held.nil start
  | append_singleton entries entry ih =>
    rw [List.foldl_append]
    exact ih.pick hstrict entry

end Occ.Extreme
