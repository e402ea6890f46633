/-
Blocks of bytes read from a memory that other blocks have been written over: a block that lies inside the last one written
is a part of it, and one that lies apart from it is what it was before.
-/
import Occ.Lib.Staged

namespace Occ.Overlay

open Staged (Byte Memory)

variable {m m' : Memory} {a b n k : Nat} {bs : List Byte}

/-- The `n` bytes from `a` on. -/
def block (m : Memory) (a n : Nat) : List Byte := (List.range n).map fun i => m (a + i)

@[simp] theorem length_block : (block m a n).length = n := by
  rw [block, List.length_map, List.length_range]

theorem getElem?_block {i : Nat} (h : i < n) : (block m a n)[i]? = some (m (a + i)) := by
  rw [block, List.getElem?_map, List.getElem?_range h]
  rfl

theorem block_congr (h : ∀ i, a ≤ i → i < a + n → m i = m' i) : block m a n = block m' a n := by
  unfold block
  apply List.map_congr_left
  intro i hi
  have := List.mem_range.1 hi
  exact h _ (Nat.le_add_right a i) (by omega)

/-- The memory after some writes, one after another. -/
def overlay (m : Memory) (ws : List (Nat × List Byte)) : Memory := ws.foldl (fun m w => Staged.write m w.1 w.2) m

/-- A block apart from the last write. -/
theorem block_write_apart (h : a + n ≤ b ∨ b + bs.length ≤ a) : block (Staged.write m b bs) a n = block m a n := by
  apply block_congr
  intro i hlow hhigh
  rcases h with h | h
  · exact Staged.write_below (by omega)
  · exact Staged.write_above (by omega)

/-- A block inside the last write. -/
theorem block_write_inside (hlow : b ≤ a) (hhigh : a + n ≤ b + bs.length) :
    block (Staged.write m b bs) a n = (bs.drop (a - b)).take n := by
  apply List.ext_getElem?
  intro i
  by_cases hi : i < n
  · have hget : bs[a - b + i]? = some bs[a - b + i] := List.getElem?_eq_getElem (by omega)
    have hplace : a + i = b + (a - b + i) := by omega
    rw [getElem?_block hi, List.getElem?_take_of_lt hi, List.getElem?_drop, hget, hplace,
      Staged.holds_write _ _ hget]
  · rw [List.getElem?_eq_none (by rw [length_block]; omega), List.getElem?_eq_none]
    rw [List.length_take]
    omega

/-- A part of a block. -/
theorem block_part (h : k + n ≤ b) : ((block m a b).drop k).take n = block m (a + k) n := by
  apply List.ext_getElem?
  intro i
  by_cases hi : i < n
  · rw [List.getElem?_take_of_lt hi, List.getElem?_drop, getElem?_block (by omega), getElem?_block hi, Nat.add_assoc]
  · rw [List.getElem?_eq_none (by rw [List.length_take]; omega),
      List.getElem?_eq_none (by rw [length_block]; omega)]

/-- A write in two parts. -/
theorem write_append {cs : List Byte} :
    Staged.write m a (bs ++ cs) = Staged.write (Staged.write m a bs) (a + bs.length) cs := by
  funext x
  by_cases hbelow : x < a
  · rw [Staged.write_below hbelow, Staged.write_below (by omega), Staged.write_below hbelow]
  by_cases hfirst : x < a + bs.length
  · have hget : (bs ++ cs)[x - a]? = some bs[x - a] := by
      rw [List.getElem?_append_left (by omega), List.getElem?_eq_getElem (by omega)]
    have hget' : bs[x - a]? = some bs[x - a] := List.getElem?_eq_getElem (by omega)
    have hplace : a + (x - a) = x := by omega
    have hwhole := Staged.holds_write (m := m) (a := a) _ _ hget
    have hpart := Staged.holds_write (m := m) (a := a) _ _ hget'
    rw [hplace] at hwhole hpart
    rw [hwhole, Staged.write_below hfirst, hpart]
  by_cases hsecond : x < a + bs.length + cs.length
  · have hget : (bs ++ cs)[x - a]? = some cs[x - a - bs.length] := by
      rw [List.getElem?_append_right (by omega), List.getElem?_eq_getElem (by omega)]
    have hget' : cs[x - a - bs.length]? = some cs[x - a - bs.length] := List.getElem?_eq_getElem (by omega)
    have hplace : a + (x - a) = x := by omega
    have hplace' : a + bs.length + (x - a - bs.length) = x := by omega
    have hwhole := Staged.holds_write (m := m) (a := a) _ _ hget
    have hpart := Staged.holds_write (m := Staged.write m a bs) (a := a + bs.length) _ _ hget'
    rw [hplace] at hwhole
    rw [hplace'] at hpart
    rw [hwhole, hpart]
  · rw [Staged.write_above (by rw [List.length_append]; omega), Staged.write_above (by omega),
      Staged.write_above (by omega)]

/-- The last write itself. -/
theorem block_write_self (h : bs.length = n) : block (Staged.write m a bs) a n = bs := by
  subst h
  rw [block_write_inside (Nat.le_refl a) (Nat.le_refl _), Nat.sub_self, List.drop_zero, List.take_length]

end Occ.Overlay
