/-
Byte memories that are written in lines: items are stored one after another in a buffer that stands for
the lines from a base address on, and a transfer copies the lines of the buffer that were filled. The last
line of a transfer is kept, since the next item can begin in it. What was stored stays readable: in the
memory up to the base, in the buffer from the base on.
-/
import Mathlib.Data.List.Basic
import Mathlib.Tactic.Common

namespace Occ.Staged

abbrev Byte := BitVec 8

abbrev Memory := Nat → Byte

/-- An address and the bytes that belong there. -/
abbrev Item := Nat × List Byte

def Item.stop (it : Item) : Nat := it.1 + it.2.length

def zeros : Memory := fun _ => 0

/-- The bytes are in the memory from `a` on. -/
def Holds (m : Memory) (a : Nat) (bs : List Byte) : Prop :=
  ∀ i b, bs[i]? = some b → m (a + i) = b

def write (m : Memory) (a : Nat) (bs : List Byte) : Memory := fun x =>
  if a ≤ x then (bs[x - a]?).getD (m x) else m x

/-- The bytes `lo` to `hi` of the buffer are copied to where they belong when the buffer stands for the
memory from `w` on. -/
def transfer (m buf : Memory) (w lo hi : Nat) : Memory := fun x =>
  if w + lo ≤ x ∧ x < w + hi then buf (x - w) else m x

/-- The memory below `w` and the buffer from there on. -/
def view (m buf : Memory) (w : Nat) : Memory := fun x => if x < w then m x else buf (x - w)

section Basic

variable {m m' buf : Memory} {a w lo mid hi n x : Nat} {bs : List Byte}

theorem Holds.mono (h : Holds m a bs) (he : ∀ x, a ≤ x → x < a + bs.length → m' x = m x) : Holds m' a bs := by
  intro i b hi
  have hlt : i < bs.length := (List.getElem?_eq_some_iff.1 hi).1
  rw [he (a + i) (by omega) (by omega)]
  exact h i b hi

theorem holds_write : Holds (write m a bs) a bs := by
  intro i b hi
  unfold write
  rw [if_pos (Nat.le_add_right a i), Nat.add_sub_cancel_left, hi]
  rfl

theorem write_below (h : x < a) : write m a bs x = m x := by
  unfold write
  rw [if_neg (Nat.not_le.2 h)]

theorem write_above (h : a + bs.length ≤ x) : write m a bs x = m x := by
  unfold write
  have hnone : bs[x - a]? = none := List.getElem?_eq_none (by omega)
  simp [hnone]

@[simp] theorem transfer_empty : transfer m buf w lo lo = m := by
  funext x
  unfold transfer
  split
  · omega
  · rfl

/-- A transfer goes on from where it is. -/
theorem transfer_transfer (h : lo ≤ mid) (h' : mid ≤ hi) :
    transfer (transfer m buf w lo mid) buf w mid hi = transfer m buf w lo hi := by
  funext x
  unfold transfer
  by_cases hx : w + mid ≤ x ∧ x < w + hi
  · rw [if_pos hx, if_pos (by omega)]
  · rw [if_neg hx]
    by_cases hx' : w + lo ≤ x ∧ x < w + mid
    · rw [if_pos hx', if_pos (by omega)]
    · rw [if_neg hx', if_neg (by omega)]

theorem transfer_of_mem (h : w + lo ≤ x) (h' : x < w + hi) : transfer m buf w lo hi x = buf (x - w) := by
  unfold transfer
  rw [if_pos ⟨h, h'⟩]

theorem transfer_below (h : x < w + lo) : transfer m buf w lo hi x = m x := by
  unfold transfer
  rw [if_neg (by omega)]

theorem transfer_above (h : w + hi ≤ x) : transfer m buf w lo hi x = m x := by
  unfold transfer
  rw [if_neg (by omega)]

/-- Bytes on one side of a transfer stay. -/
theorem Holds.transfer (h : Holds m a bs) (hd : a + bs.length ≤ w + lo ∨ w + hi ≤ a) :
    Holds (transfer m buf w lo hi) a bs := by
  refine h.mono fun x hx hx' => ?_
  rcases hd with hd | hd
  · exact transfer_below (by omega)
  · exact transfer_above (by omega)

end Basic

/-! ## Lines -/

section Lines

variable {q : Nat} {m buf last : Memory} {items : List Item} {w c p n L a : Nat} {bs : List Byte}

/-- Two lines are one, or do not meet. -/
theorem line_le {x y : Nat} (hx : q ∣ x) (hy : q ∣ y) (h : x < y) : x + q ≤ y := by
  obtain ⟨i, rfl⟩ := hx
  obtain ⟨j, rfl⟩ := hy
  have hij : i < j := Nat.lt_of_mul_lt_mul_left h
  calc q * i + q = q * (i + 1) := (Nat.mul_succ q i).symm
    _ ≤ q * j := Nat.mul_le_mul_left q hij

/-- Between two transfers: the items are in the memory, below `p`, and if there are any, then the last
line that was copied, from `L` on, was kept. -/
structure Saved (q : Nat) (m : Memory) (items : List Item) (last : Memory) (L p : Nat) : Prop where
  holds : ∀ it ∈ items, Holds m it.1 it.2
  below : ∀ it ∈ items, it.stop ≤ p
  kept : items ≠ [] → q ∣ L ∧ L < p ∧ (∀ it ∈ items, it.stop ≤ L + q) ∧ ∀ i < q, last i = m (L + i)

/-- While the buffer is filled: it stands for the memory from `w` on, `c` of its bytes are to be copied,
and the next item belongs at `p`. -/
structure Staging (q : Nat) (m : Memory) (last : Memory) (L : Nat) (items : List Item) (buf : Memory)
    (w c p : Nat) : Prop where
  line : q ∣ w
  room : w + c ≤ p
  below : ∀ it ∈ items, it.stop ≤ p
  view : ∀ it ∈ items, Holds (view m buf w) it.1 it.2
  empty : c = 0 → Saved q m items last L p ∧ (items ≠ [] → L ≤ w)
  full : 0 < c → ∀ it ∈ items, it.stop ≤ w + c

theorem Saved.nil : Saved q m [] last L p := ⟨by simp, by simp, by simp⟩

/-- The next item belongs further on. -/
theorem Saved.skip (h : Saved q m items last L p) {p' : Nat} (hp : p ≤ p') : Saved q m items last L p' := by
  refine ⟨h.holds, fun it hit => Nat.le_trans (h.below it hit) hp, fun hne => ?_⟩
  obtain ⟨hq, hL, hstop, hlast⟩ := h.kept hne
  exact ⟨hq, by omega, hstop, hlast⟩

/-- The buffer is loaded for the line of `p`, with the kept line when it is that one. -/
theorem Saved.load (h : Saved q m items last L p) (hq : q ∣ w) (hw : w ≤ p) (hp : p < w + q) :
    (∀ it ∈ items, Holds (Staged.view m (if L = w then transfer zeros last 0 0 q else zeros) w) it.1 it.2) ∧
      (items ≠ [] → L ≤ w) := by
  have hle : items ≠ [] → L ≤ w := by
    intro hne
    obtain ⟨hqL, hL, -, -⟩ := h.kept hne
    by_contra hlt
    have := line_le hq hqL (by omega)
    omega
  refine ⟨fun it hit => ?_, hle⟩
  have hne : items ≠ [] := List.ne_nil_of_mem hit
  obtain ⟨hqL, -, hstop, hlast⟩ := h.kept hne
  refine (h.holds it hit).mono fun x hx hx' => ?_
  unfold Staged.view
  have hend : x < L + q := Nat.lt_of_lt_of_le hx' (hstop it hit)
  split
  · rfl
  · -- the item ends in the kept line
    have hLw : L = w := by
      by_contra hLw
      have := line_le hqL hq (Nat.lt_of_le_of_ne (hle hne) hLw)
      omega
    subst hLw
    rw [if_pos rfl, transfer_of_mem (by omega) (by omega), Nat.sub_zero, hlast _ (by omega)]
    congr 1
    omega

theorem Saved.stage (h : Saved q m items last L p) (hq : q ∣ w) (hw : w ≤ p) (hp : p < w + q) (hc : w + c ≤ p)
    (hc' : c = 0 ∨ w + c = p) :
    Staging q m last L items (if L = w then transfer zeros last 0 0 q else zeros) w c p where
  line := hq
  room := hc
  below := h.below
  view := (h.load hq hw hp).1
  empty := fun _ => ⟨h, (h.load hq hw hp).2⟩
  full := fun hpos it hit => by
    rcases hc' with hc' | hc'
    · omega
    · rw [hc']
      exact h.below it hit

theorem Staging.skip (h : Staging q m last L items buf w c p) {p' : Nat} (hp : p ≤ p') :
    Staging q m last L items buf w c p' where
  line := h.line
  room := Nat.le_trans h.room hp
  below := fun it hit => Nat.le_trans (h.below it hit) hp
  view := h.view
  empty := fun hc => ⟨(h.empty hc).1.skip hp, (h.empty hc).2⟩
  full := h.full

/-- An empty buffer stands for a later line. -/
theorem Staging.move (h : Staging q m last L items buf w 0 p) {w' : Nat} (buf' : Memory) (hw : w < w') (hq : q ∣ w')
    (hp : w' ≤ p) : Staging q m last L items buf' w' 0 p where
  line := hq
  room := hp
  below := h.below
  view := fun it hit => by
    obtain ⟨hs, hL⟩ := h.empty rfl
    have hne : items ≠ [] := List.ne_nil_of_mem hit
    have hle := hL hne
    obtain ⟨hqL, -, hstop, -⟩ := hs.kept hne
    refine (hs.holds it hit).mono fun x hx hx' => ?_
    have hend : x < L + q := Nat.lt_of_lt_of_le hx' (hstop it hit)
    have := line_le hqL hq (Nat.lt_of_le_of_lt hle hw)
    unfold Staged.view
    rw [if_pos (by omega)]
  empty := fun _ => ⟨(h.empty rfl).1, fun hne => Nat.le_of_lt (Nat.lt_of_le_of_lt ((h.empty rfl).2 hne) hw)⟩
  full := fun hc => absurd hc (Nat.lt_irrefl 0)

/-- The next item is stored. -/
theorem Staging.store (h : Staging q m last L items buf w c p) (hbs : bs ≠ []) :
    Staging q m last L (items ++ [(p, bs)]) (write buf (p - w) bs) w (p - w + bs.length) (p + bs.length) := by
  have hroom := h.room
  have hpos := List.length_pos_iff.2 hbs
  refine ⟨h.line, by omega, fun it hit => ?_, fun it hit => ?_, fun hc => by omega, fun _ it hit => ?_⟩
  · rcases List.mem_append.1 hit with hit | hit
    · exact Nat.le_trans (h.below it hit) (Nat.le_add_right _ _)
    · rw [List.mem_singleton] at hit
      subst hit
      exact Nat.le_refl _
  · rcases List.mem_append.1 hit with hit | hit
    · refine (h.view it hit).mono fun x hx hx' => ?_
      have hend : x < p := Nat.lt_of_lt_of_le hx' (h.below it hit)
      unfold Staged.view
      split
      · rfl
      · exact write_below (by omega)
    · rw [List.mem_singleton] at hit
      subst hit
      intro i b hi
      have hw := holds_write (m := buf) (a := p - w) i b hi
      unfold Staged.view
      rw [if_neg (by show ¬ p + i < w; omega)]
      show write buf (p - w) bs (p + i - w) = b
      rw [← hw]
      congr 1
      omega
  · rcases List.mem_append.1 hit with hit | hit
    · have := h.below it hit
      omega
    · rw [List.mem_singleton] at hit
      subst hit
      show p + bs.length ≤ _
      omega

/-- The lines that were filled are copied, and the last of them is kept. -/
theorem Staging.finish (h : Staging q m last L items buf w c p) (hc : c ≤ n) (hn : q ∣ n) (hlt : n < c + q)
    (hq : 0 < q) :
    Saved q (transfer m buf w 0 n) items (if q ≤ n then fun i => buf (n - q + i) else last)
      (if q ≤ n then w + (n - q) else L) p := by
  rcases Nat.eq_zero_or_pos c with rfl | hpos
  · have hn0 : n = 0 := Nat.eq_zero_of_dvd_of_lt hn (by omega)
    subst hn0
    rw [transfer_empty, if_neg (by omega), if_neg (by omega)]
    exact (h.empty rfl).1
  · have hqn : q ≤ n := Nat.le_of_dvd (by omega) hn
    have hroom := h.room
    rw [if_pos hqn, if_pos hqn]
    refine ⟨fun it hit => ?_, h.below, fun _ => ⟨?_, by omega, fun it hit => ?_, fun i hi => ?_⟩⟩
    · have hstop := h.full hpos it hit
      refine (h.view it hit).mono fun x hx hx' => ?_
      have hend : x < w + c := Nat.lt_of_lt_of_le hx' hstop
      unfold Staged.view
      split
      · exact transfer_below (by omega)
      · exact transfer_of_mem (by omega) (by omega)
    · exact Nat.dvd_add h.line (Nat.dvd_sub hn (Nat.dvd_refl q))
    · have := h.full hpos it hit
      omega
    · rw [transfer_of_mem (by omega) (by omega)]
      congr 1
      omega

end Lines

end Occ.Staged
