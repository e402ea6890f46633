/-
Numbers of two digits in a mixed radix: which numbers they are, and that the digits are determined.

Numerals: the number that a list of digits writes in a radix, its shortest numeral, and what an accumulator of `w` bits makes
of it that takes a smaller value for a sign that it has wrapped.
-/
import Mathlib.Algebra.Order.Ring.Nat
import Mathlib.Tactic.Common
import Mathlib.Data.BitVec
import Mathlib.Data.Nat.Digits.Lemmas

namespace Occ.Radix

variable {n i i' j j' m : Nat}

/-- The number with the digits `i` and `j`, the lower one to the base `n`. -/
def pair (n i j : Nat) : Nat := n * i + j

theorem pair_lt (hi : i < m) (hj : j < n) : pair n i j < n * m := by
  have hrow : n * (i + 1) ≤ n * m := Nat.mul_le_mul_left n hi
  rw [Nat.mul_succ] at hrow
  unfold pair
  omega

theorem pair_inj (hj : j < n) (hj' : j' < n) (h : pair n i j = pair n i' j') : i = i' ∧ j = j' := by
  have hn : 0 < n := Nat.zero_lt_of_lt hj
  unfold pair at h
  constructor
  · have hdiv := congrArg (· / n) h
    rwa [Nat.mul_add_div hn, Nat.mul_add_div hn, Nat.div_eq_of_lt hj, Nat.div_eq_of_lt hj', Nat.add_zero,
      Nat.add_zero] at hdiv
  · have hmod := congrArg (· % n) h
    rwa [Nat.mul_add_mod, Nat.mul_add_mod, Nat.mod_eq_of_lt hj, Nat.mod_eq_of_lt hj'] at hmod

/-- The last number: both digits are the highest. -/
theorem pair_last (hm : 0 < m) (hn : 0 < n) : pair n (m - 1) (n - 1) = n * m - 1 := by
  obtain ⟨m, rfl⟩ := Nat.exists_eq_succ_of_ne_zero hm.ne'
  unfold pair
  rw [Nat.succ_sub_one, Nat.mul_succ]
  omega

end Occ.Radix

namespace Occ.Numeral

/-! ## The number -/

/-- The number that digits write, the highest one first. -/
def value (r : Nat) (ds : List Nat) : Nat := ds.foldl (fun n d => n * r + d) 0

theorem value_concat (r : Nat) (ds : List Nat) (d : Nat) : value r (ds ++ [d]) = value r ds * r + d := by
  unfold value
  rw [List.foldl_append]
  rfl

/-- More digits make no smaller number. -/
theorem value_le_append {r : Nat} (hr : 1 ≤ r) (ds ds' : List Nat) : value r ds ≤ value r (ds ++ ds') := by
  induction ds' using List.reverseRecOn with
  | nil => rw [List.append_nil]
  | append_singleton ds' d ih =>
    rw [← List.append_assoc, value_concat]
    calc value r ds ≤ value r (ds ++ ds') * 1 := by rwa [Nat.mul_one]
      _ ≤ value r (ds ++ ds') * r := Nat.mul_le_mul_left _ hr
      _ ≤ value r (ds ++ ds') * r + d := Nat.le_add_right _ _

/-! ## The shortest numeral -/

/-- Digits below the radix that write the number, and no fewer do. -/
structure Shortest (r n : Nat) (ds : List Nat) : Prop where
  lt : ∀ d ∈ ds, d < r
  value_eq : value r ds = n
  ne_nil : ds ≠ []
  least : ∀ ds', ds' ≠ [] → (∀ d ∈ ds', d < r) → value r ds' = n → ds.length ≤ ds'.length

/-- The digits of a number, the highest one first; 0 has none. -/
def digitsOf (r n : Nat) : List Nat := (Nat.digits r n).reverse

/-- The numeral of a number: 0 is written with one digit. -/
def numeral (r n : Nat) : List Nat := if n = 0 then [0] else digitsOf r n

section

variable {r n k : Nat} {ds ds' : List Nat}

@[simp] theorem digitsOf_zero (r : Nat) : digitsOf r 0 = [] := by
  unfold digitsOf
  rw [Nat.digits_zero, List.reverse_nil]

/-- The last digit is the remainder. -/
theorem digitsOf_step (hr : 1 < r) (hn : 0 < n) : digitsOf r n = digitsOf r (n / r) ++ [n % r] := by
  unfold digitsOf
  rw [Nat.digits_def' hr hn, List.reverse_cons]

theorem value_eq_ofDigits (r : Nat) (ds : List Nat) : value r ds = Nat.ofDigits r ds.reverse := by
  induction ds using List.reverseRecOn with
  | nil => rfl
  | append_singleton ds d ih =>
    rw [value_concat, ih, List.reverse_concat, Nat.ofDigits_cons, Nat.mul_comm, Nat.add_comm]

theorem value_lt_pow (hr : 1 < r) (hlt : ∀ d ∈ ds, d < r) : value r ds < r ^ ds.length := by
  rw [value_eq_ofDigits, ← List.length_reverse]
  exact Nat.ofDigits_lt_base_pow_length hr fun d hd => hlt d (List.mem_reverse.1 hd)

theorem numeral_ne_nil (r n : Nat) : numeral r n ≠ [] := by
  unfold numeral
  split
  · exact List.cons_ne_nil _ _
  · rename_i hn
    unfold digitsOf
    rw [Ne, List.reverse_eq_nil_iff]
    exact Nat.digits_ne_nil_iff_ne_zero.2 hn

/-- A number below `r ^ k` has at most `k` digits. -/
theorem numeral_length_le (hr : 1 < r) (hk : 0 < k) (h : n < r ^ k) : (numeral r n).length ≤ k := by
  unfold numeral
  split
  · exact hk
  · unfold digitsOf
    rw [List.length_reverse]
    exact (Nat.digits_length_le_iff hr n).2 h

theorem numeral_shortest (hr : 1 < r) (n : Nat) : Shortest r n (numeral r n) where
  lt := by
    intro d hd
    unfold numeral at hd
    split at hd
    · rw [List.mem_singleton.1 hd]
      exact Nat.zero_lt_of_lt hr
    · exact Nat.digits_lt_base hr (List.mem_reverse.1 hd)
  value_eq := by
    unfold numeral
    split
    · rename_i hn
      rw [hn, value_eq_ofDigits, List.reverse_singleton, Nat.ofDigits_singleton]
    · rw [value_eq_ofDigits]
      unfold digitsOf
      rw [List.reverse_reverse]
      exact Nat.ofDigits_digits r n
  ne_nil := numeral_ne_nil r n
  least := by
    intro ds' hne hlt hvalue
    apply numeral_length_le hr (List.length_pos_of_ne_nil hne)
    rw [← hvalue]
    exact value_lt_pow hr hlt

/-- A number has one shortest numeral. -/
theorem Shortest.unique (hr : 1 < r) (h : Shortest r n ds) (h' : Shortest r n ds') : ds = ds' := by
  have hlength : ds.length = ds'.length :=
    Nat.le_antisymm (h.least ds' h'.ne_nil h'.lt h'.value_eq) (h'.least ds h.ne_nil h.lt h.value_eq)
  apply List.reverse_injective
  apply Nat.ofDigits_inj_of_len_eq hr
  · rw [List.length_reverse, List.length_reverse, hlength]
  · exact fun d hd => h.lt d (List.mem_reverse.1 hd)
  · exact fun d hd => h'.lt d (List.mem_reverse.1 hd)
  · rw [← value_eq_ofDigits, ← value_eq_ofDigits, h.value_eq, h'.value_eq]

end

/-! ## The accumulator -/

variable {w : Nat}

/-- The digits so far, and whether a digit made the value smaller. -/
structure Acc (w : Nat) where
  value : BitVec w
  wrapped : Bool
deriving DecidableEq

def Acc.start : Acc w := ⟨0, false⟩

/-- One more digit; nothing is counted any more after a wrap. -/
def Acc.digit (r : Nat) (a : Acc w) (d : Nat) : Acc w :=
  if a.wrapped then a
  else
    let new := a.value * BitVec.ofNat w r + BitVec.ofNat w d
    if new < a.value then { a with wrapped := true } else { a with value := new }

def accumulate (w r : Nat) (ds : List Nat) : Acc w := ds.foldl (Acc.digit r) .start

/-- A digit makes the number modulo `2 ^ w` smaller. -/
def Noticed (w r : Nat) (ds : List Nat) : Prop :=
  ∃ before d after, ds = before ++ d :: after ∧ value r (before ++ [d]) % 2 ^ w < value r before % 2 ^ w

theorem noticed_concat {r : Nat} {ds : List Nat} {d : Nat} :
    Noticed w r (ds ++ [d]) ↔ Noticed w r ds ∨ value r (ds ++ [d]) % 2 ^ w < value r ds % 2 ^ w := by
  constructor
  · rintro ⟨before, e, after, hsplit, hless⟩
    obtain rfl | ⟨after, f, rfl⟩ := List.eq_nil_or_concat' after
    · obtain ⟨rfl, he⟩ := List.append_inj' hsplit rfl
      obtain ⟨rfl, -⟩ := List.cons.inj he
      exact .inr hless
    · rw [← List.cons_append, ← List.append_assoc] at hsplit
      obtain ⟨rfl, -⟩ := List.append_inj' hsplit rfl
      exact .inl ⟨before, e, after, rfl, hless⟩
  · rintro (⟨before, e, after, rfl, hless⟩ | hless)
    · exact ⟨before, e, after ++ [d], by rw [List.append_assoc, List.cons_append], hless⟩
    · exact ⟨ds, d, [], rfl, hless⟩

/-- A number that fits makes no digit noticed. -/
theorem le_value_of_noticed {r : Nat} {ds : List Nat} (hr : 1 ≤ r) (h : Noticed w r ds) : 2 ^ w ≤ value r ds := by
  obtain ⟨before, d, after, rfl, hless⟩ := h
  refine Nat.le_of_not_lt fun hfits => ?_
  have hall : value r (before ++ [d]) ≤ value r (before ++ d :: after) := by
    have hsplit : before ++ d :: after = (before ++ [d]) ++ after := by
      rw [List.append_assoc]
      rfl
    rw [hsplit]
    exact value_le_append hr _ _
  have hfits' : value r (before ++ [d]) < 2 ^ w := Nat.lt_of_le_of_lt hall hfits
  have hbefore := value_le_append hr before [d]
  rw [Nat.mod_eq_of_lt hfits', Nat.mod_eq_of_lt (Nat.lt_of_le_of_lt hbefore hfits')] at hless
  omega

/-- The accumulator holds the number modulo `2 ^ w` until a digit is noticed. -/
theorem accumulate_spec (r : Nat) (ds : List Nat) : ((accumulate w r ds).wrapped = true ↔ Noticed w r ds) ∧
    ((accumulate w r ds).wrapped = false → (accumulate w r ds).value.toNat = value r ds % 2 ^ w) := by
  induction ds using List.reverseRecOn with
  | nil =>
    refine ⟨⟨nofun, ?_⟩, fun _ => ?_⟩
    · rintro ⟨before, d, after, hsplit, -⟩
      exact absurd hsplit.symm (by simp)
    · show (0 : BitVec w).toNat = 0 % 2 ^ w
      rw [Nat.zero_mod]
      rfl
  | append_singleton ds d ih =>
    have hlast : accumulate w r (ds ++ [d]) = (accumulate w r ds).digit r d := by
      unfold accumulate
      rw [List.foldl_append]
      rfl
    rw [hlast]
    generalize accumulate w r ds = a at ih
    obtain ⟨v, wrapped⟩ := a
    obtain ⟨hwrapped, hvalue⟩ := ih
    unfold Acc.digit
    cases wrapped with
    | true =>
      rw [if_pos rfl]
      exact ⟨iff_of_true rfl (noticed_concat.2 (.inl (hwrapped.1 rfl))), nofun⟩
    | false =>
      rw [if_neg Bool.false_ne_true]
      have hnew : (v * BitVec.ofNat w r + BitVec.ofNat w d).toNat = value r (ds ++ [d]) % 2 ^ w := by
        rw [BitVec.toNat_add, BitVec.toNat_mul, BitVec.toNat_ofNat, BitVec.toNat_ofNat, value_concat, hvalue rfl]
        simp only [Nat.mod_add_mod, Nat.add_mod_mod, Nat.mod_mul_mod, Nat.mul_mod_mod]
      have hless : v * BitVec.ofNat w r + BitVec.ofNat w d < v ↔ value r (ds ++ [d]) % 2 ^ w < value r ds % 2 ^ w := by
        rw [BitVec.lt_def, hnew, hvalue rfl]
      have hnot : ¬Noticed w r ds := fun h => absurd (hwrapped.2 h) Bool.false_ne_true
      rw [noticed_concat]
      dsimp only
      split_ifs with hnow
      · exact ⟨iff_of_true rfl (.inr (hless.1 hnow)), nofun⟩
      · exact ⟨iff_of_false id fun h => h.elim hnot (hnow ∘ hless.2), fun _ => hnew⟩

end Occ.Numeral
