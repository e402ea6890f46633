/-
Water marks: the least and the greatest of the values noted since the marks were cleared, with sentinels
while there are none; and the part of a history that lies after the last event of a kind.
-/
import Mathlib.Order.Bounds.Basic
import Mathlib.Order.MinMax
import Mathlib.Data.List.DropRight

namespace Occ.Watermark

/-! ## Marks -/

section Marks

variable {α : Type} [LinearOrder α]

@[ext]
structure Marks (α : Type) where
  low : α
  high : α
deriving DecidableEq, Repr

/-- A value moves each mark that it passes. -/
def Marks.note (m : Marks α) (x : α) : Marks α where
  low := if x < m.low then x else m.low
  high := if m.high < x then x else m.high

/-- `m` marks the values `xs`: their least and greatest one, or the sentinels `empty` when there are none. -/
structure Marks.Of (empty : Marks α) (xs : List α) (m : Marks α) : Prop where
  none : xs = [] → m = empty
  some : xs ≠ [] → IsLeast {x | x ∈ xs} m.low ∧ IsGreatest {x | x ∈ xs} m.high

theorem Marks.Of.clear (empty : Marks α) : Marks.Of empty [] empty := ⟨fun _ => rfl, fun h => absurd rfl h⟩

variable {empty m : Marks α} {xs : List α} {x : α}

theorem isLeast_append (h : IsLeast {y | y ∈ xs} m.low) : IsLeast {y | y ∈ xs ++ [x]} (m.note x).low := by
  obtain ⟨hmem, hle⟩ := h
  have hlow : (m.note x).low = min x m.low := (min_def_lt x m.low).symm
  rw [hlow]
  constructor
  · rcases min_choice x m.low with h | h <;> rw [h]
    · exact List.mem_append_right xs List.mem_cons_self
    · exact List.mem_append_left [x] hmem
  · intro y hy
    rcases List.mem_append.1 hy with hy | hy
    · exact (min_le_right _ _).trans (hle hy)
    · rw [List.mem_singleton.1 hy]
      exact min_le_left _ _

theorem isGreatest_append (h : IsGreatest {y | y ∈ xs} m.high) :
    IsGreatest {y | y ∈ xs ++ [x]} (m.note x).high := by
  obtain ⟨hmem, hle⟩ := h
  have hhigh : (m.note x).high = max m.high x := (max_def_lt m.high x).symm
  rw [hhigh]
  constructor
  · rcases max_choice m.high x with h | h <;> rw [h]
    · exact List.mem_append_left [x] hmem
    · exact List.mem_append_right xs List.mem_cons_self
  · intro y hy
    rcases List.mem_append.1 hy with hy | hy
    · exact (hle hy).trans (le_max_left _ _)
    · rw [List.mem_singleton.1 hy]
      exact le_max_right _ _

/-- The first value takes both marks, when it lies between the sentinels. -/
theorem note_first (hlow : x ≤ empty.low) (hhigh : empty.high ≤ x) : empty.note x = ⟨x, x⟩ := by
  apply Marks.ext
  · exact (min_def_lt x empty.low).symm.trans (min_eq_left hlow)
  · exact (max_def_lt empty.high x).symm.trans (max_eq_right hhigh)

/-- Marks stay those of the values noted, when these lie between the sentinels. -/
theorem Marks.Of.note (h : Marks.Of empty xs m) (hlow : x ≤ empty.low) (hhigh : empty.high ≤ x) :
    Marks.Of empty (xs ++ [x]) (m.note x) := by
  refine ⟨fun hnil => absurd hnil (by simp), fun _ => ?_⟩
  rcases xs.eq_nil_or_concat with rfl | ⟨ys, y, rfl⟩
  · rw [h.none rfl, note_first hlow hhigh]
    constructor
    · exact ⟨List.mem_cons_self, fun y hy => (List.mem_singleton.1 hy).ge⟩
    · exact ⟨List.mem_cons_self, fun y hy => (List.mem_singleton.1 hy).le⟩
  · obtain ⟨hl, hg⟩ := h.some (by simp)
    exact ⟨isLeast_append hl, isGreatest_append hg⟩

end Marks

/-! ## Since the last event of a kind -/

section Since

variable {ε β : Type} (stop : ε → Bool) (value : ε → Option β) (es : List ε) {e : ε}

/-- The values of the events after the last one that `stop` holds of. -/
def since : List β := (es.rtakeWhile (!stop ·)).filterMap value

theorem since_stop (h : stop e = true) : since stop value (es ++ [e]) = [] := by
  rw [since, List.rtakeWhile_concat, if_neg (by simp [h]), List.filterMap_nil]

theorem since_value {b : β} (h : stop e = false) (hv : value e = some b) :
    since stop value (es ++ [e]) = since stop value es ++ [b] := by
  rw [since, List.rtakeWhile_concat, if_pos (by simp [h]), List.filterMap_append]
  simp [since, hv]

theorem since_skip (h : stop e = false) (hv : value e = none) : since stop value (es ++ [e]) = since stop value es := by
  rw [since, List.rtakeWhile_concat, if_pos (by simp [h]), List.filterMap_append]
  simp [since, hv]

end Since

end Occ.Watermark
