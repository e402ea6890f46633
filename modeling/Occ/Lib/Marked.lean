/-
Byte memories that remember which of their bytes have been written: what a write leaves as it was, what a row of writes
leaves as it was, and fields of one and two bytes, the higher byte first.
-/
import Occ.Lib.Bytes
import Occ.Lib.Staged

namespace Occ

open Occ.Staged (Byte Memory)

structure Marked where
  mem : Memory
  written : Nat → Bool

/-- A word of two bytes. -/
def half (m : Memory) (a : Nat) : BitVec 16 := m a ++ m (a + 1)

namespace Marked

/-- Some bytes are written from `a` on. -/
def put (s : Marked) (a : Nat) (bs : List Byte) : Marked :=
  { mem := Staged.write s.mem a bs
    written := fun x => s.written x || decide (a ≤ x ∧ x < a + bs.length) }

/-- Some writes, at their offsets from `a`. -/
def puts (s : Marked) (a : Nat) (ws : List (Nat × List Byte)) : Marked := ws.foldl (fun s w => s.put (a + w.1) w.2) s

/-- Nothing has been written. -/
def unmark (s : Marked) : Marked := { s with written := fun _ => false }

/-- A write touches none of the bytes `lo` to `hi`. -/
def Clear (lo hi : Nat) (a : Nat) (bs : List Byte) : Prop := a + bs.length ≤ lo ∨ hi ≤ a

section
variable {s s' : Marked} {a a' lo hi x : Nat} {bs : List Byte} {ws : List (Nat × List Byte)}

theorem put_written : (s.put a bs).written x = true ↔ s.written x = true ∨ (a ≤ x ∧ x < a + bs.length) := by
  unfold put
  dsimp only
  rw [Bool.or_eq_true, decide_eq_true_iff]

/-- The bytes on the sides of a write stay. -/
theorem put_mem (h : Clear lo hi a bs) (hlo : lo ≤ x) (hhi : x < hi) : (s.put a bs).mem x = s.mem x := by
  obtain h | h := h
  · exact Staged.write_above (Nat.le_trans h hlo)
  · exact Staged.write_below (Nat.lt_of_lt_of_le hhi h)

/-- One byte on the side of a write. -/
theorem put_byte (h : Clear x (x + 1) a bs) : (s.put a bs).mem x = s.mem x := put_mem h (Nat.le_refl x) (Nat.lt_succ_self x)

theorem put_mem_of_not_written (h : (s.put a bs).written x = false) : (s.put a bs).mem x = s.mem x := by
  have hnot : ¬(a ≤ x ∧ x < a + bs.length) := by
    intro hx
    rw [put_written.2 (Or.inr hx)] at h
    cases h
  by_cases hax : a ≤ x
  · exact Staged.write_above (by omega)
  · exact Staged.write_below (by omega)

theorem put_mem_get {i : Nat} {b : Byte} (h : bs[i]? = some b) : (s.put a bs).mem (a + i) = b :=
  Staged.holds_write i b h

theorem half_put (h : Clear lo (lo + 2) a bs) : half (s.put a bs).mem lo = half s.mem lo := by
  unfold half
  rw [put_mem h (Nat.le_refl lo) (by omega), put_mem h (Nat.le_succ lo) (by omega)]

theorem extract_append (v : BitVec 16) : v.extractLsb' 8 8 ++ v.extractLsb' 0 8 = v :=
  BitVec.eq_of_getLsbD_eq fun i hi => by
    rw [BitVec.getLsbD_append, BitVec.getLsbD_extractLsb', BitVec.getLsbD_extractLsb']
    by_cases hlow : i < 8
    · simp [hlow]
    · have hsum : 8 + (i - 8) = i := by omega
      have hlt : i - 8 < 8 := by omega
      simp [hlow, hsum, hlt]

/-- A word that was written among other bytes. -/
theorem half_put_get {i : Nat} (v : BitVec 16) (hhigh : bs[i]? = some (v.extractLsb' 8 8))
    (hlow : bs[i + 1]? = some (v.extractLsb' 0 8)) : half (s.put a bs).mem (a + i) = v := by
  unfold half
  rw [put_mem_get hhigh, Nat.add_assoc, put_mem_get hlow, extract_append]

/-- The word that was written. -/
theorem half_put_self (v : BitVec 16) : half (s.put a (Bytes.ofWord 2 v)).mem a = v :=
  half_put_get (i := 0) v rfl rfl

@[simp] theorem puts_nil : s.puts a [] = s := rfl

@[simp] theorem puts_cons (w : Nat × List Byte) : s.puts a (w :: ws) = (s.put (a + w.1) w.2).puts a ws := rfl

theorem puts_append (vs : List (Nat × List Byte)) : s.puts a (ws ++ vs) = (s.puts a ws).puts a vs := List.foldl_append

/-- What every write of a row keeps, the row keeps. -/
theorem puts_invariant {P : Marked → Prop} (hput : ∀ s, ∀ w ∈ ws, P s → P (s.put (a + w.1) w.2)) (hs : P s) :
    P (s.puts a ws) := by
  induction ws generalizing s with
  | nil => exact hs
  | cons w ws ih =>
    refine ih (fun s v hv => hput s v (List.mem_cons_of_mem w hv)) ?_
    exact hput s w List.mem_cons_self hs

theorem puts_mem (h : ∀ w ∈ ws, Clear lo hi (a + w.1) w.2) (hlo : lo ≤ x) (hhi : x < hi) :
    (s.puts a ws).mem x = s.mem x :=
  puts_invariant (P := fun s' => s'.mem x = s.mem x) (fun _ w hw hs => (put_mem (h w hw) hlo hhi).trans hs) rfl

theorem puts_byte (h : ∀ w ∈ ws, Clear x (x + 1) (a + w.1) w.2) : (s.puts a ws).mem x = s.mem x :=
  puts_mem h (Nat.le_refl x) (Nat.lt_succ_self x)

theorem half_puts (h : ∀ w ∈ ws, Clear lo (lo + 2) (a + w.1) w.2) : half (s.puts a ws).mem lo = half s.mem lo := by
  unfold half
  rw [puts_mem h (Nat.le_refl lo) (by omega), puts_mem h (Nat.le_succ lo) (by omega)]

/-- Writes at offsets from further on. -/
theorem puts_shift (d : Nat) : s.puts (a + d) ws = s.puts a (ws.map fun w => (d + w.1, w.2)) := by
  unfold puts
  rw [List.foldl_map]
  simp only [Nat.add_assoc]

/-- What a write has marked stays marked. -/
theorem puts_written_of_written (h : s.written x = true) : (s.puts a ws).written x = true :=
  puts_invariant (P := fun s => s.written x = true) (fun _ _ _ hs => put_written.2 (Or.inl hs)) h

theorem puts_mem_of_not_written (h : (s.puts a ws).written x = false) : (s.puts a ws).mem x = s.mem x := by
  induction ws generalizing s with
  | nil => rfl
  | cons w ws ih =>
    rw [puts_cons] at h ⊢
    have hput : (s.put (a + w.1) w.2).written x = false := by
      by_contra hx
      rw [puts_written_of_written (Bool.eq_true_of_not_eq_false hx)] at h
      cases h
    rw [ih h, put_mem_of_not_written hput]

/-- The bytes of the writes are marked. -/
theorem puts_written_of_mem {w : Nat × List Byte} (hw : w ∈ ws) (hlo : a + w.1 ≤ x) (hhi : x < a + w.1 + w.2.length) :
    (s.puts a ws).written x = true := by
  induction ws generalizing s with
  | nil => cases hw
  | cons v ws ih =>
    obtain rfl | hw := List.mem_cons.1 hw
    · rw [puts_cons]
      exact puts_written_of_written (put_written.2 (Or.inr ⟨hlo, hhi⟩))
    · exact ih hw

/-- Only bytes of the writes are marked. -/
theorem puts_written (h : (s.puts a ws).written x = true) :
    s.written x = true ∨ ∃ w ∈ ws, a + w.1 ≤ x ∧ x < a + w.1 + w.2.length := by
  induction ws generalizing s with
  | nil => exact Or.inl h
  | cons w ws ih =>
    obtain hx | ⟨v, hv, hx⟩ := ih h
    · obtain hx | hx := put_written.1 hx
      · exact Or.inl hx
      · exact Or.inr ⟨w, List.mem_cons_self, hx⟩
    · exact Or.inr ⟨v, List.mem_cons_of_mem w hv, hx⟩

end

end Marked

end Occ
