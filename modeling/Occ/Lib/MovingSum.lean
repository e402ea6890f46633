/-
Moving sums: a circular buffer that is filled downwards holds the last samples, the newest one at the pointer, and the sum of
the last few is kept by adding the newest sample and taking off the oldest one of them.
-/
import Mathlib.Data.List.GetD
import Mathlib.Algebra.Order.BigOperators.Group.List
import Mathlib.Algebra.Order.Ring.Nat
import Mathlib.Data.Nat.Init
import Mathlib.Logic.Function.Basic
import Mathlib.Tactic.Common

namespace Occ.MovingSum

open Function (update)

/-! ## The buffer -/

section
variable {α : Type} {L p k : Nat} {buf : Nat → α} {zero x : α} {samples : List α}

/-- The places from `p` on, around the buffer, hold the samples, the newest first, and zero where there is none. -/
def Holds (L : Nat) (zero : α) (buf : Nat → α) (p : Nat) (samples : List α) : Prop :=
  ∀ k < L, buf ((p + k) % L) = samples.getD k zero

theorem Holds.empty (h : ∀ k < L, buf k = zero) : Holds L zero buf p [] :=
  fun _ hk => h _ (Nat.mod_lt _ (Nat.zero_lt_of_lt hk))

/-- The place before the pointer. -/
def pred (L p : Nat) : Nat := (p + L - 1) % L

theorem pred_lt (hL : 0 < L) : pred L p < L := Nat.mod_lt _ hL

/-- Going up from the place before the pointer. -/
theorem pred_add_mod (hL : 0 < L) (hk : 0 < k) : (pred L p + k) % L = (p + (k - 1)) % L := by
  unfold pred
  rw [Nat.mod_add_mod, show p + L - 1 + k = p + (k - 1) + L by omega, Nat.add_mod_right]

theorem Holds.push (h : Holds L zero buf p samples) (hL : 0 < L) :
    Holds L zero (update buf (pred L p) x) (pred L p) (x :: samples) := by
  intro k hk
  obtain rfl | hpos := Nat.eq_zero_or_pos k
  · rw [Nat.add_zero, Nat.mod_eq_of_lt (pred_lt hL), Function.update_self]
    rfl
  · have hne : (pred L p + k) % L ≠ pred L p := by
      intro heq
      have hlt := @pred_lt L p hL
      obtain hsmall | hlarge := Nat.lt_or_ge (pred L p + k) L
      · rw [Nat.mod_eq_of_lt hsmall] at heq
        omega
      · rw [Nat.mod_eq_sub_mod hlarge, Nat.mod_eq_of_lt (by omega)] at heq
        omega
    rw [Function.update_of_ne hne, pred_add_mod hL hpos, h (k - 1) (by omega)]
    obtain ⟨j, rfl⟩ : ∃ j, k = j + 1 := ⟨k - 1, by omega⟩
    rfl

end

/-! ## The sum -/

section
variable {samples : List Nat} {x m n k : Nat}

/-- The sum of the last `m` samples. -/
def recent (m : Nat) (samples : List Nat) : Nat := (samples.take m).sum

theorem recent_succ : recent (m + 1) samples = recent m samples + samples.getD m 0 := by
  unfold recent
  rw [List.getD_eq_getElem?_getD]
  cases hget : samples[m]? with
  | none => rw [List.take_of_length_le (by rw [List.getElem?_eq_none_iff] at hget; omega),
      List.take_of_length_le (List.getElem?_eq_none_iff.1 hget)]; rfl
  | some y => rw [List.take_add_one, hget, List.sum_append]; rfl

/-- The newest sample comes in and the oldest one of the sum goes. -/
theorem recent_cons (hm : 0 < m) : recent m (x :: samples) + samples.getD (m - 1) 0 = recent m samples + x := by
  obtain ⟨j, rfl⟩ : ∃ j, m = j + 1 := ⟨m - 1, by omega⟩
  have hcons : recent (j + 1) (x :: samples) = x + recent j samples := by
    unfold recent
    rw [List.take_succ_cons, List.sum_cons]
  rw [hcons, recent_succ, Nat.add_sub_cancel]
  omega

/-- The oldest sample of a sum is a part of it. -/
theorem getD_le_recent (hk : k < m) : samples.getD k 0 ≤ recent m samples := by
  induction m with
  | zero => exact absurd hk (Nat.not_lt_zero k)
  | succ m ih =>
    rw [recent_succ]
    obtain rfl | hlt : k = m ∨ k < m := by omega
    · omega
    · have := ih hlt
      omega

/-- A longer sum is the same exactly when the samples that it has more are 0. -/
theorem recent_eq_iff (hmn : m ≤ n) : recent m samples = recent n samples ↔ ∀ k, m ≤ k → k < n → samples.getD k 0 = 0 := by
  induction n, hmn using Nat.le_induction with
  | base => exact iff_of_true rfl fun k hk hlt => absurd hlt (by omega)
  | succ n hmn ih =>
    rw [recent_succ]
    have hle : recent m samples ≤ recent n samples := (List.take_sublist_take_left hmn).sum_le_sum fun _ _ => Nat.zero_le _
    constructor
    · intro heq k hk hlt
      obtain rfl | hlt : k = n ∨ k < n := by omega
      · omega
      · exact ih.1 (by omega) k hk hlt
    · intro hzero
      rw [ih.2 fun k hk hlt => hzero k hk (by omega), hzero n hmn (by omega), Nat.add_zero]

theorem recent_le {b : Nat} (h : ∀ x ∈ samples, x ≤ b) : recent m samples ≤ m * b := by
  unfold recent
  exact (List.sum_le_card_nsmul _ b fun x hx => h x (List.mem_of_mem_take hx)).trans
    (Nat.mul_le_mul_right b (List.length_take_le m samples))

/-- Sums of samples that are in order one by one. -/
theorem recent_mono {samples' : List Nat} (h : List.Forall₂ (· ≤ ·) samples samples') : recent m samples ≤ recent m samples' := by
  unfold recent
  exact List.Forall₂.sum_le_sum (List.forall₂_take m h)

end

/-! ## Rolling averages -/

section
variable {n k avg x lo hi : Nat} {samples : List Nat}

/-- The average of `n` samples when a new one takes the place of an average one. -/
def roll (n avg x : Nat) : Nat := (avg * (n - 1) + x) / n

theorem le_roll (hn : 0 < n) (havg : lo ≤ avg) (hx : lo ≤ x) : lo ≤ roll n avg x := by
  unfold roll
  rw [Nat.le_div_iff_mul_le hn]
  calc lo * n = lo * (n - 1) + lo := by rw [← Nat.mul_succ, Nat.succ_eq_add_one, Nat.sub_add_cancel hn]
    _ ≤ avg * (n - 1) + x := Nat.add_le_add (Nat.mul_le_mul_right _ havg) hx

theorem roll_le (hn : 0 < n) (havg : avg ≤ hi) (hx : x ≤ hi) : roll n avg x ≤ hi := by
  unfold roll
  refine Nat.div_le_of_le_mul ?_
  calc avg * (n - 1) + x ≤ hi * (n - 1) + hi := Nat.add_le_add (Nat.mul_le_mul_right _ havg) hx
    _ = n * hi := by rw [← Nat.mul_succ, Nat.succ_eq_add_one, Nat.sub_add_cancel hn, Nat.mul_comm]

/-- The average of a list of samples, the newest first, with `k` times their resolution: none before there are `n` samples, the mean
of the first `n`, and rolling from then on. -/
def rolling (n k : Nat) : List Nat → Nat
  | [] => 0
  | x :: xs =>
    if xs.length + 1 < n then 0
    else if xs.length + 1 = n then (x :: xs).sum * k / n
    else roll n (rolling n k xs) (x * k)

theorem rolling_of_lt (h : samples.length < n) : rolling n k samples = 0 := by
  cases samples with
  | nil => rfl
  | cons x xs => exact if_pos h

theorem rolling_of_length (h : (x :: samples).length = n) : rolling n k (x :: samples) = (x :: samples).sum * k / n := by
  rw [List.length_cons] at h
  rw [rolling, if_neg (Nat.not_lt.2 (Nat.le_of_eq h.symm)), if_pos h]

theorem rolling_cons (h : n ≤ samples.length) : rolling n k (x :: samples) = roll n (rolling n k samples) (x * k) := by
  rw [rolling, if_neg (by omega), if_neg (by omega)]

/-- From the first mean on, the average is between the smallest and the largest sample. -/
theorem rolling_bounds (hn : 0 < n) (hlen : n ≤ samples.length) (h : ∀ x ∈ samples, lo ≤ x ∧ x ≤ hi) :
    lo * k ≤ rolling n k samples ∧ rolling n k samples ≤ hi * k := by
  induction samples with
  | nil => exact absurd hlen (Nat.not_le.2 hn)
  | cons x xs ih =>
    obtain ⟨⟨hlo, hhi⟩, hrest⟩ := List.forall_mem_cons.1 h
    obtain heq | hmore := Nat.eq_or_lt_of_le hlen
    · rw [rolling_of_length heq.symm, Nat.le_div_iff_mul_le hn, heq, Nat.mul_right_comm]
      have hmin : lo * (x :: xs).length ≤ (x :: xs).sum := by
        rw [Nat.mul_comm]
        exact List.card_nsmul_le_sum _ lo fun y hy => (h y hy).1
      have hmax : (x :: xs).sum ≤ (x :: xs).length * hi := List.sum_le_card_nsmul _ hi fun y hy => (h y hy).2
      refine ⟨Nat.mul_le_mul_right k hmin, Nat.div_le_of_le_mul ?_⟩
      rw [← Nat.mul_assoc]
      exact Nat.mul_le_mul_right k hmax
    · have hprev : n ≤ xs.length := Nat.le_of_lt_succ hmore
      obtain ⟨ihlo, ihhi⟩ := ih hprev hrest
      rw [rolling_cons hprev]
      exact ⟨le_roll hn ihlo (Nat.mul_le_mul_right k hlo), roll_le hn ihhi (Nat.mul_le_mul_right k hhi)⟩

theorem rolling_le (hn : 0 < n) (h : ∀ x ∈ samples, x ≤ hi) : rolling n k samples ≤ hi * k := by
  obtain hlt | hle := Nat.lt_or_ge samples.length n
  · rw [rolling_of_lt hlt]
    exact Nat.zero_le _
  · exact (@rolling_bounds n k 0 hi samples hn hle fun x hx => ⟨Nat.zero_le x, h x hx⟩).2

end

end Occ.MovingSum
