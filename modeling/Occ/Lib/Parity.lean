/-
Parities and linear codes: the check bits of a sum are the sum of the check bits, so that what an error does to a word and
its check bits does not depend on the word.
-/
import Mathlib.Data.BitVec
import Mathlib.Data.Bool.Basic
import Mathlib.Tactic.Common

namespace Occ.Parity

/-! ## Parity -/

section
variable {ι : Type} {f g : ι → Bool}

/-- Whether an odd number of the `l` satisfies `f`. -/
def odd (l : List ι) (f : ι → Bool) : Bool := l.foldr (fun i p => f i ^^ p) false

theorem odd_cons (i : ι) (l : List ι) (f : ι → Bool) : odd (i :: l) f = (f i ^^ odd l f) := rfl

theorem countP_mod_two (l : List ι) (f : ι → Bool) : l.countP f % 2 = (odd l f).toNat := by
  induction l with
  | nil => rfl
  | cons i l ih =>
    rw [List.countP_cons, Nat.add_mod, ih, odd_cons]
    cases f i <;> cases odd l f <;> rfl

theorem odd_xor (l : List ι) (f g : ι → Bool) : odd l (fun i => f i ^^ g i) = (odd l f ^^ odd l g) := by
  induction l with
  | nil => rfl
  | cons i l ih =>
    rw [odd_cons, odd_cons, odd_cons, ih]
    rw [Bool.xor_assoc, Bool.xor_left_comm (g i), ← Bool.xor_assoc]

theorem odd_eq_false {l : List ι} (h : ∀ i ∈ l, f i = false) : odd l f = false := by
  induction l with
  | nil => rfl
  | cons i l ih =>
    rw [odd_cons, h i List.mem_cons_self, ih fun j hj => h j (List.mem_cons_of_mem i hj)]
    rfl

/-- The parity of a single one of the `l`. -/
theorem odd_single {l : List ι} (hl : l.Nodup) {a : ι} (ha : a ∈ l) (h : ∀ i, i ≠ a → f i = false) : odd l f = f a := by
  induction l with
  | nil => cases ha
  | cons i l ih =>
    obtain ⟨hi, hnodup⟩ := List.nodup_cons.1 hl
    rw [odd_cons]
    by_cases hia : i = a
    · rw [odd_eq_false fun j hj => h j fun hja => hi (hia ▸ hja ▸ hj), hia, Bool.xor_false]
    · rw [ih hnodup ((List.mem_cons.1 ha).resolve_left fun h => hia h.symm), h i hia, Bool.false_xor]

end

/-! ## Words of bits -/

section
variable {w : Nat} {b : Nat → Bool}

/-- A loop that puts bit after bit into a word gives the word of these bits. -/
theorem getLsbD_foldl_or (b : Nat → Bool) (n j : Nat) :
    ((List.range n).foldl (fun (r : BitVec w) i => r ||| BitVec.ofNat w (b i).toNat <<< i) 0).getLsbD j =
      (decide (j < w) && decide (j < n) && b j) := by
  induction n with
  | zero => simp
  | succ n ih =>
    rw [List.range_succ, List.foldl_append, List.foldl_cons, List.foldl_nil, BitVec.getLsbD_or, ih,
      BitVec.getLsbD_shiftLeft, BitVec.getLsbD_ofNat]
    by_cases hw : j < w
    · by_cases hj : j = n
      · subst hj
        have hpos : 0 < w := by omega
        cases b j <;> simp [hw, hpos]
      · by_cases hlt : j < n
        · have hlt' : j < n + 1 := by omega
          simp [hw, hlt, hlt']
        · -- a higher bit than those put so far
          have hlt' : ¬j < n + 1 := by omega
          obtain ⟨d, hd⟩ : ∃ d, j - n = d + 1 := ⟨j - n - 1, by omega⟩
          have hbit : (b n).toNat.testBit (d + 1) = false := by cases b n <;> simp [Nat.testBit_succ]
          simp [hlt, hlt', hd, hbit]
    · simp [hw]

end

/-! ## Linear codes -/

section
variable {k r : Nat} {enc : BitVec k → BitVec r}

/-- The check bits of a sum are the sum of the check bits. -/
def Linear (enc : BitVec k → BitVec r) : Prop := ∀ x y, enc (x ^^^ y) = enc x ^^^ enc y

theorem Linear.zero (h : Linear enc) : enc 0 = 0 := by
  have hself := h 0 0
  rwa [BitVec.xor_self, BitVec.xor_self] at hself

/-- An error `f` in the data and `g` in the check bits has a syndrome of its own. -/
theorem Linear.syndrome (h : Linear enc) (d f : BitVec k) (g : BitVec r) :
    enc (d ^^^ f) ^^^ (enc d ^^^ g) = enc f ^^^ g := by
  rw [h, BitVec.xor_comm (enc d) (enc f), BitVec.xor_assoc, ← BitVec.xor_assoc (enc d), BitVec.xor_self, BitVec.zero_xor]

/-- Two errors: the sum of their syndromes. -/
theorem Linear.syndrome_two (h : Linear enc) (d f f' : BitVec k) (g g' : BitVec r) :
    enc (d ^^^ f ^^^ f') ^^^ (enc d ^^^ g ^^^ g') = (enc f ^^^ g) ^^^ (enc f' ^^^ g') := by
  rw [BitVec.xor_assoc, BitVec.xor_assoc (enc d), h.syndrome, h, BitVec.xor_assoc, BitVec.xor_assoc,
    ← BitVec.xor_assoc (enc f'), BitVec.xor_comm (enc f'), BitVec.xor_assoc g]

end

end Occ.Parity
