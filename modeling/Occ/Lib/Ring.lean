/-
Rings of slots between one writer and one reader, with free-running counters: entry `i` of the log of
all entries ever written is in slot `(o + i) % n` from when it is stored until it is read, and the
counters are the numbers of entries written and read, from any start, modulo a power of two.
-/
import Mathlib

namespace Occ.Ring

/-! ## Counters -/

section Counters

variable {w : Nat} {o : BitVec w} {i j n : Nat}

/-- The counter after `i` steps from `o`. -/
def count (o : BitVec w) (i : Nat) : BitVec w := o + BitVec.ofNat w i

theorem count_succ : count o (i + 1) = count o i + 1#w := by
  simp [count, BitVec.ofNat_add, BitVec.add_assoc]

/-- The distance of two counters, if it fits. -/
theorem count_sub (hij : i ≤ j) (h : j - i < 2 ^ w) : (count o j - count o i).toNat = j - i := by
  obtain ⟨d, rfl⟩ := Nat.exists_eq_add_of_le hij
  have hd : d < 2 ^ w := by simpa using h
  have he : count o (i + d) - count o i = BitVec.ofNat w d := by
    unfold count
    rw [BitVec.ofNat_add, ← BitVec.add_assoc, BitVec.add_comm (o + BitVec.ofNat w i), BitVec.add_sub_cancel]
  rw [he, BitVec.toNat_ofNat, Nat.mod_eq_of_lt hd, Nat.add_sub_cancel_left]

theorem count_eq_iff (hij : i ≤ j) (h : j - i < 2 ^ w) : count o i = count o j ↔ i = j := by
  constructor
  · intro he
    have hs := count_sub (o := o) hij h
    rw [he, BitVec.sub_self] at hs
    have h0 : j - i = 0 := by simpa using hs.symm
    omega
  · rintro rfl
    rfl

/-- A counter finds the slot of its entry when the ring's size divides its modulus. -/
theorem count_mod (hn : n ∣ 2 ^ w) : (count o i).toNat % n = (o.toNat + i) % n := by
  unfold count
  rw [BitVec.toNat_add, BitVec.toNat_ofNat, Nat.mod_mod_of_dvd _ hn, Nat.add_mod, Nat.mod_mod_of_dvd _ hn,
    ← Nat.add_mod]

end Counters

/-! ## Slots -/

section Slots

variable {α : Type} {n o rd rd' : Nat} {slot : Nat → α} {log : List α} {a : α}

/-- The entries of `log` from number `rd` on are in the ring. -/
structure Window (n o : Nat) (slot : Nat → α) (log : List α) (rd : Nat) : Prop where
  le : rd ≤ log.length
  size : log.length ≤ rd + n
  slots : ∀ i, rd ≤ i → i < log.length → log[i]? = some (slot ((o + i) % n))

theorem Window.empty : Window n o slot [] 0 := ⟨Nat.le_refl _, Nat.zero_le _, by simp⟩

/-- The slot for the next entry is free while the ring is not full. -/
theorem Window.store (h : Window n o slot log rd) (hlt : log.length < rd + n) :
    Window n o (Function.update slot ((o + log.length) % n) a) log rd := by
  refine ⟨h.le, h.size, fun i hr hi => ?_⟩
  have hne : (o + i) % n ≠ (o + log.length) % n := by
    intro he
    have hdvd : n ∣ log.length - i := by
      have hd := Nat.dvd_of_mod_eq_zero (Nat.sub_mod_eq_zero_of_mod_eq he.symm)
      rwa [Nat.add_sub_add_left] at hd
    have := Nat.le_of_dvd (by omega) hdvd
    omega
  rw [Function.update_of_ne hne]
  exact h.slots i hr hi

/-- The entry stored in the next slot is added. -/
theorem Window.publish (h : Window n o slot log rd) (hlt : log.length < rd + n)
    (ha : slot ((o + log.length) % n) = a) : Window n o slot (log ++ [a]) rd := by
  have hle := h.le
  refine ⟨?_, ?_, fun i hr hi => ?_⟩
  · rw [List.length_append, List.length_singleton]
    omega
  · rw [List.length_append, List.length_singleton]
    omega
  · rw [List.length_append, List.length_singleton] at hi
    by_cases hil : i < log.length
    · rw [List.getElem?_append_left hil]
      exact h.slots i hr hil
    · have hi' : i = log.length := by omega
      rw [hi', List.getElem?_concat_length, ha]

/-- A block of entries is written around the ring, over the oldest ones. -/
theorem Window.append {slot' : Nat → α} {block : List α} (h : Window n o slot log rd)
    (hslot : ∀ i, i < block.length → block[i]? = some (slot' ((o + log.length + i) % n)))
    (hother : ∀ p, (∀ i, i < block.length → p ≠ (o + log.length + i) % n) → slot' p = slot p)
    (hrd : rd ≤ rd') (hle : rd' ≤ log.length + block.length) (hsize : log.length + block.length ≤ rd' + n) :
    Window n o slot' (log ++ block) rd' := by
  refine ⟨by rw [List.length_append]; exact hle, by rw [List.length_append]; exact hsize, fun i hr hi => ?_⟩
  rw [List.length_append] at hi
  by_cases hil : i < log.length
  · rw [List.getElem?_append_left hil, h.slots i (by omega) hil]
    refine congrArg some (hother _ fun j hj he => ?_).symm
    -- the block has not come around to an entry that is still there
    have hmod : (o + log.length + j) % n = (o + i) % n := he.symm
    have hdvd : n ∣ log.length + j - i := by
      have hd := Nat.dvd_of_mod_eq_zero (Nat.sub_mod_eq_zero_of_mod_eq hmod)
      rwa [Nat.add_assoc, Nat.add_sub_add_left] at hd
    have hpos := Nat.le_of_dvd (by omega) hdvd
    omega
  · obtain ⟨j, rfl⟩ := Nat.exists_eq_add_of_le (Nat.le_of_not_lt hil)
    rw [List.getElem?_append_right (Nat.le_add_right _ _), Nat.add_sub_cancel_left, hslot j (by omega), Nat.add_assoc]

/-- Entries are read, or given up. -/
theorem Window.skip (h : Window n o slot log rd) (hle : rd ≤ rd') (hlen : rd' ≤ log.length) :
    Window n o slot log rd' := by
  have hs := h.size
  exact ⟨hlen, by omega, fun i hr hi => h.slots i (by omega) hi⟩

/-- The ring may be taken to begin at the entries that are still there. -/
theorem Window.drop (h : Window n o slot log rd) : Window n ((o + rd) % n) slot (log.drop rd) 0 := by
  have hs := h.size
  have hl := h.le
  refine ⟨Nat.zero_le _, ?_, fun i _ hi => ?_⟩
  · rw [List.length_drop]
    omega
  · rw [List.length_drop] at hi
    rw [List.getElem?_drop, h.slots (rd + i) (by omega) (by omega), Nat.mod_add_mod, Nat.add_assoc]

/-- The next entry to read. -/
theorem Window.head (h : Window n o slot log rd) (hlt : rd < log.length) :
    log[rd]? = some (slot ((o + rd) % n)) :=
  h.slots rd (Nat.le_refl _) hlt

end Slots

end Occ.Ring
