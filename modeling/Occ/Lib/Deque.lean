/-
Circular doubly linked queues in memory: a sentinel node and elements that hold their own links, by
address, with 0 for the null pointer. The operations on the links refine the operations on the list
of the addresses queued at a sentinel.
-/
import Mathlib.Data.List.Nodup
import Mathlib.Logic.Function.Basic
import Mathlib.Tactic.Common

namespace Occ.Deque

/-- The links of all nodes in memory. -/
structure Links where
  next : Nat → Nat
  prev : Nat → Nat

def isEmpty (m : Links) (d : Nat) : Bool := m.next d == d

def isQueued (m : Links) (e : Nat) : Bool := m.next e != 0

def sentinelCreate (m : Links) (d : Nat) : Links :=
  { next := Function.update m.next d d, prev := Function.update m.prev d d }

def elementCreate (m : Links) (e : Nat) : Links :=
  { next := Function.update m.next e 0, prev := Function.update m.prev e 0 }

def pushBack (m : Links) (d e : Nat) : Links :=
  let p := m.prev d
  { next := Function.update (Function.update m.next p e) e d
    prev := Function.update (Function.update m.prev e p) d e }

def pushFront (m : Links) (d e : Nat) : Links :=
  let n := m.next d
  { next := Function.update (Function.update m.next e n) d e
    prev := Function.update (Function.update m.prev n e) e d }

def delete (m : Links) (e : Nat) : Links :=
  { next := Function.update (Function.update m.next (m.prev e) (m.next e)) e 0
    prev := Function.update m.prev (m.next e) (m.prev e) }

/-- The links without the head, and the head; 0 when the queue is empty. -/
def popFront (m : Links) (d : Nat) : Links × Nat :=
  if isEmpty m d then (m, 0)
  else
    let head := m.next d
    let n := m.next head
    ({ next := Function.update (Function.update m.next d n) head 0
       prev := Function.update m.prev n d }, head)

/-! ## Chains of links -/

/-- Consecutive nodes are linked both ways. -/
def Linked (m : Links) : List Nat → Prop
  | x :: y :: l => m.next x = y ∧ m.prev y = x ∧ Linked m (y :: l)
  | _ => True

section Linked

variable {m m' : Links}

theorem linked_append {l₁ l₂ : List Nat} {x : Nat} :
    Linked m (l₁ ++ x :: l₂) ↔ Linked m (l₁ ++ [x]) ∧ Linked m (x :: l₂) := by
  induction l₁ with
  | nil => simp [Linked]
  | cons a l₁ ih =>
    cases l₁ with
    | nil =>
      simp only [List.cons_append, List.nil_append, Linked, and_true]
      exact and_assoc.symm
    | cons b l₁ =>
      simp only [List.cons_append, Linked] at ih ⊢
      rw [ih, and_assoc, and_assoc]

/-- A chain reads the next links of all nodes but the last and the previous links of all but the first. -/
theorem Linked.congr {l : List Nat} (h : Linked m l) (hn : ∀ x ∈ l.dropLast, m'.next x = m.next x)
    (hp : ∀ y ∈ l.tail, m'.prev y = m.prev y) : Linked m' l := by
  induction l with
  | nil => trivial
  | cons a l ih =>
    cases l with
    | nil => trivial
    | cons b l =>
      obtain ⟨hab, hba, hl⟩ := h
      refine ⟨?_, ?_, ih hl ?_ ?_⟩
      · rw [hn a (by simp)]; exact hab
      · rw [hp b (by simp)]; exact hba
      · intro x hx
        exact hn x (by simp [List.dropLast_cons_of_ne_nil, hx])
      · intro y hy
        exact hp y (by simp at hy ⊢; exact Or.inr hy)

end Linked

/-! ## Queues -/

/-- The nodes queued at sentinel `d`, in order. -/
structure IsDeque (m : Links) (d : Nat) (xs : List Nat) : Prop where
  linked : Linked m (d :: xs ++ [d])
  nodup : (d :: xs).Nodup
  nonzero : ∀ x ∈ d :: xs, x ≠ 0

section Queues

variable {m m' : Links} {d e : Nat} {xs as bs : List Nat}

theorem isDeque_sentinelCreate (hd : d ≠ 0) : IsDeque (sentinelCreate m d) d [] := by
  refine ⟨?_, by simp, by simpa using hd⟩
  simp [Linked, sentinelCreate]

theorem IsDeque.congr (h : IsDeque m d xs) (hn : ∀ x ∈ d :: xs, m'.next x = m.next x)
    (hp : ∀ x ∈ d :: xs, m'.prev x = m.prev x) : IsDeque m' d xs := by
  refine ⟨h.linked.congr ?_ ?_, h.nodup, h.nonzero⟩
  · intro x hx
    rw [List.dropLast_concat] at hx
    exact hn x hx
  · intro y hy
    apply hp y
    simp only [List.cons_append, List.tail_cons, List.mem_append, List.mem_singleton] at hy
    simpa [or_comm] using hy

/-- The node after a queued node, or after the sentinel. -/
theorem IsDeque.next_eq (h : IsDeque m d xs) (as bs : List Nat) {x : Nat} (hx : d :: xs = as ++ x :: bs) :
    m.next x = bs.headD d := by
  have hl := h.linked
  rw [show d :: xs ++ [d] = as ++ x :: (bs ++ [d]) by rw [hx]; simp, linked_append] at hl
  cases bs with
  | nil => exact hl.2.1
  | cons b bs => exact hl.2.1

theorem IsDeque.head (h : IsDeque m d xs) : m.next d = xs.headD d :=
  h.next_eq [] xs rfl

theorem IsDeque.isEmpty_iff (h : IsDeque m d xs) : isEmpty m d = true ↔ xs = [] := by
  unfold isEmpty
  rw [h.head]
  cases xs with
  | nil => simp
  | cons x xs =>
    have hne : x ≠ d := by
      rintro rfl
      simpa using h.nodup
    simp [hne]

theorem IsDeque.queued (h : IsDeque m d xs) {x : Nat} (hx : x ∈ xs) : isQueued m x = true := by
  obtain ⟨as, bs, rfl⟩ := List.append_of_mem hx
  unfold isQueued
  rw [h.next_eq (d :: as) bs (by simp)]
  have hne : bs.headD d ≠ 0 := by
    apply h.nonzero
    cases bs <;> simp
  simpa using hne

/-- The last node of a queue, and the chain up to it. -/
theorem IsDeque.last (h : IsDeque m d xs) : ∃ ys p, d :: xs = ys ++ [p] ∧ m.prev d = p ∧ m.next p = d ∧
    Linked m (ys ++ [p]) := by
  obtain ⟨ys, p, hys⟩ : ∃ ys p, d :: xs = ys ++ [p] :=
    ⟨(d :: xs).dropLast, (d :: xs).getLast (by simp), (List.dropLast_append_getLast _).symm⟩
  have hl := h.linked
  rw [hys, List.append_assoc, List.singleton_append, linked_append] at hl
  exact ⟨ys, p, hys, hl.2.2.1, hl.2.1, hl.1⟩

theorem pushBack_next_of_ne (h : IsDeque m d xs) {x : Nat} (hx : x ∉ d :: xs) (hxe : x ≠ e) :
    (pushBack m d e).next x = m.next x := by
  obtain ⟨ys, p, hys, hp, -, -⟩ := h.last
  have hxp : x ≠ p := by
    rintro rfl
    exact hx (by rw [hys]; simp)
  simp [pushBack, hp, hxe, hxp]

theorem pushBack_prev_of_ne {x : Nat} (hx : x ∉ d :: xs) (hxe : x ≠ e) : (pushBack m d e).prev x = m.prev x := by
  have hxd : x ≠ d := by
    rintro rfl
    exact hx (by simp)
  simp [pushBack, hxe, hxd]

theorem isDeque_pushBack (h : IsDeque m d xs) (he : e ∉ d :: xs) (h0 : e ≠ 0) :
    IsDeque (pushBack m d e) d (xs ++ [e]) := by
  obtain ⟨ys, p, hys, hp, -, hl⟩ := h.last
  have hnd := h.nodup
  have hpe : p ≠ e := by
    rintro rfl
    exact he (by rw [hys]; simp)
  have hde : d ≠ e := by
    rintro rfl
    exact he (by simp)
  refine ⟨?_, ?_, ?_⟩
  · rw [show d :: (xs ++ [e]) ++ [d] = ys ++ p :: [e, d] by
      rw [← List.cons_append, hys]; simp, linked_append]
    refine ⟨hl.congr ?_ ?_, ?_, ?_, ?_, ?_, trivial⟩
    · intro x hx
      rw [List.dropLast_concat] at hx
      have hxp : x ≠ p := by
        rintro rfl
        rw [hys, List.nodup_append] at hnd
        exact hnd.2.2 x hx x (by simp) rfl
      have hxe : x ≠ e := by
        rintro rfl
        exact he (by rw [hys]; simp [hx])
      simp [pushBack, hp, hxp, hxe]
    · intro y hy
      rw [← hys, List.tail_cons] at hy
      have hyd : y ≠ d := by
        rintro rfl
        exact (List.nodup_cons.1 hnd).1 hy
      have hye : y ≠ e := by
        rintro rfl
        exact he (by simp [hy])
      simp [pushBack, hyd, hye]
    · simp [pushBack, hp, hpe]
    · simp [pushBack, hp, hde.symm]
    · simp [pushBack]
    · simp [pushBack]
  · rw [← List.cons_append, List.nodup_append]
    refine ⟨hnd, by simp, ?_⟩
    intro a ha b hb
    rw [List.mem_singleton] at hb
    rintro rfl
    exact he (hb ▸ ha)
  · intro x hx
    rw [← List.cons_append, List.mem_append, List.mem_singleton] at hx
    rcases hx with hx | rfl
    · exact h.nonzero x hx
    · exact h0

/-- The chain from the first node of a queue on. -/
theorem IsDeque.first (h : IsDeque m d xs) : ∃ n zs, xs ++ [d] = n :: zs ∧ m.next d = n ∧ m.prev n = d ∧
    Linked m (n :: zs) := by
  obtain ⟨n, zs, hzs⟩ : ∃ n zs, xs ++ [d] = n :: zs := by
    cases xs with
    | nil => exact ⟨d, [], rfl⟩
    | cons x xs => exact ⟨x, xs ++ [d], rfl⟩
  have hl := h.linked
  rw [List.cons_append, hzs] at hl
  exact ⟨n, zs, hzs, hl.1, hl.2.1, hl.2.2⟩

theorem pushFront_next_of_ne {x : Nat} (hx : x ∉ d :: xs) (hxe : x ≠ e) : (pushFront m d e).next x = m.next x := by
  have hxd : x ≠ d := by
    rintro rfl
    exact hx (by simp)
  simp [pushFront, hxe, hxd]

theorem pushFront_prev_of_ne (h : IsDeque m d xs) {x : Nat} (hx : x ∉ d :: xs) (hxe : x ≠ e) :
    (pushFront m d e).prev x = m.prev x := by
  obtain ⟨n, zs, hzs, hn, -, -⟩ := h.first
  have hxn : x ≠ n := by
    rintro rfl
    have hm : x ∈ xs ++ [d] := by rw [hzs]; simp
    exact hx (by simpa [or_comm] using hm)
  simp [pushFront, hn, hxe, hxn]

theorem isDeque_pushFront (h : IsDeque m d xs) (he : e ∉ d :: xs) (h0 : e ≠ 0) :
    IsDeque (pushFront m d e) d (e :: xs) := by
  obtain ⟨n, zs, hzs, hn, -, hl⟩ := h.first
  have hnd := h.nodup
  have hde : d ≠ e := by
    rintro rfl
    exact he (by simp)
  have hmem : ∀ x ∈ xs ++ [d], x ≠ e := by
    rintro x hx rfl
    exact he (by simpa [or_comm] using hx)
  have hnz : n ∉ zs := by
    have h1 : (xs ++ [d]).Nodup := by
      rw [List.nodup_append]
      obtain ⟨h2, h3⟩ := List.nodup_cons.1 hnd
      refine ⟨h3, by simp, ?_⟩
      intro a ha b hb
      rw [List.mem_singleton] at hb
      rintro rfl
      exact h2 (hb ▸ ha)
    rw [hzs] at h1
    exact (List.nodup_cons.1 h1).1
  refine ⟨?_, ?_, ?_⟩
  · rw [List.cons_append, List.cons_append, hzs]
    refine ⟨?_, ?_, ?_, ?_, hl.congr ?_ ?_⟩
    · simp [pushFront]
    · simp [pushFront]
    · simp [pushFront, hn, hde.symm]
    · have hne : n ≠ e := hmem n (by rw [hzs]; simp)
      simp [pushFront, hn, hne]
    · intro x hx
      rw [← hzs, List.dropLast_concat] at hx
      have hxe : x ≠ e := hmem x (by simp [hx])
      have hxd : x ≠ d := by
        rintro rfl
        exact (List.nodup_cons.1 hnd).1 hx
      simp [pushFront, hxe, hxd]
    · intro y hy
      rw [List.tail_cons] at hy
      have hyn : y ≠ n := fun he => hnz (he ▸ hy)
      have hye : y ≠ e := hmem y (by rw [hzs]; simp [hy])
      simp [pushFront, hn, hyn, hye]
  · refine List.nodup_cons.2 ⟨?_, List.nodup_cons.2 ⟨?_, (List.nodup_cons.1 hnd).2⟩⟩
    · rw [List.mem_cons]
      rintro (hd | hd)
      · exact hde hd
      · exact (List.nodup_cons.1 hnd).1 hd
    · exact fun hx => he (by simp [hx])
  · intro x hx
    simp only [List.mem_cons] at hx
    rcases hx with rfl | rfl | hx
    · exact h.nonzero x (by simp)
    · exact h0
    · exact h.nonzero x (by simp [hx])

/-- The neighbours of a queued node. -/
theorem IsDeque.around (h : IsDeque m d (as ++ e :: bs)) : ∃ ys p n zs, d :: as = ys ++ [p] ∧ bs ++ [d] = n :: zs ∧
    m.prev e = p ∧ m.next e = n ∧ Linked m (ys ++ [p]) ∧ Linked m (n :: zs) := by
  obtain ⟨ys, p, hys⟩ : ∃ ys p, d :: as = ys ++ [p] :=
    ⟨(d :: as).dropLast, (d :: as).getLast (by simp), (List.dropLast_append_getLast _).symm⟩
  obtain ⟨n, zs, hzs⟩ : ∃ n zs, bs ++ [d] = n :: zs := by
    cases bs with
    | nil => exact ⟨d, [], rfl⟩
    | cons b bs => exact ⟨b, bs ++ [d], rfl⟩
  have hl := h.linked
  rw [show d :: (as ++ e :: bs) ++ [d] = ys ++ p :: e :: n :: zs by
    rw [← List.cons_append, hys, List.append_assoc, List.cons_append, hzs]; simp, linked_append] at hl
  exact ⟨ys, p, n, zs, hys, hzs, hl.2.2.1, hl.2.2.2.1, hl.1, hl.2.2.2.2.2⟩

theorem isDeque_delete (h : IsDeque m d (as ++ e :: bs)) : IsDeque (delete m e) d (as ++ bs) := by
  obtain ⟨ys, p, n, zs, hys, hzs, hp, hn, hl, hr⟩ := h.around
  have hnd := h.nodup
  have hnd' : (d :: (as ++ bs)).Nodup := by
    refine hnd.sublist (List.Sublist.cons_cons d ?_)
    exact List.Sublist.append_left (List.sublist_cons_self e bs) as
  -- the neighbours and the deleted node, by the parts of the chain they are in
  have hys_mem : ∀ x ∈ ys, x ∈ d :: as := fun x hx => by rw [hys]; simp [hx]
  have hp_mem : p ∈ d :: as := by rw [hys]; simp
  have hp_ys : p ∉ ys := by
    have h1 : (ys ++ [p]).Nodup := by
      rw [← hys]
      exact hnd'.sublist (List.Sublist.cons_cons d (List.sublist_append_left as bs))
    rw [List.nodup_append] at h1
    exact fun hx => h1.2.2 p hx p (by simp) rfl
  have he_as : e ∉ d :: as := by
    rw [← List.cons_append, List.nodup_append] at hnd
    exact fun hx => hnd.2.2 e hx e (by simp) rfl
  have he_bs : e ∉ bs := by
    rw [← List.cons_append, List.nodup_append] at hnd
    exact (List.nodup_cons.1 hnd.2.1).1
  have hdisj : ∀ x ∈ d :: as, x ∉ bs := by
    rw [← List.cons_append, List.nodup_append] at hnd'
    exact fun x hx hx' => hnd'.2.2 x hx x hx' rfl
  have hd_as : d ∉ as := fun hx => (List.nodup_cons.1 hnd').1 (by simp [hx])
  have hpe : p ≠ e := fun he => he_as (he ▸ hp_mem)
  have hn_mem : n ∈ bs ++ [d] := by rw [hzs]; simp
  have hn_as : n ∉ as := by
    intro hx
    rw [List.mem_append, List.mem_singleton] at hn_mem
    rcases hn_mem with hb | rfl
    · exact hdisj n (by simp [hx]) hb
    · exact hd_as hx
  have hn_zs : n ∉ zs := by
    have h1 : (n :: zs).Nodup := by
      rw [← hzs, List.nodup_append]
      refine ⟨hnd'.sublist ((List.sublist_append_right as bs).cons d), by simp, ?_⟩
      intro x hx y hy
      rw [List.mem_singleton] at hy
      rintro rfl
      exact hdisj x (by simp [hy]) hx
    exact (List.nodup_cons.1 h1).1
  refine ⟨?_, hnd', fun x hx => h.nonzero x (by simp at hx ⊢; tauto)⟩
  rw [show d :: (as ++ bs) ++ [d] = ys ++ p :: n :: zs by
    rw [← List.cons_append, hys, List.append_assoc, List.append_assoc, hzs]; rfl, linked_append]
  refine ⟨hl.congr ?_ ?_, ?_, ?_, hr.congr ?_ ?_⟩
  · intro x hx
    rw [List.dropLast_concat] at hx
    have hxp : x ≠ p := fun he => hp_ys (he ▸ hx)
    have hxe : x ≠ e := fun he => he_as (he ▸ hys_mem x hx)
    simp [delete, hp, hxp, hxe]
  · intro y hy
    rw [← hys, List.tail_cons] at hy
    have hyn : y ≠ n := fun he => hn_as (he ▸ hy)
    simp [delete, hn, hyn]
  · simp [delete, hp, hn, hpe]
  · simp [delete, hp, hn]
  · intro x hx
    rw [← hzs, List.dropLast_concat] at hx
    have hxp : x ≠ p := fun he => hdisj p hp_mem (he ▸ hx)
    have hxe : x ≠ e := fun he => he_bs (he ▸ hx)
    simp [delete, hp, hxp, hxe]
  · intro y hy
    rw [List.tail_cons] at hy
    have hyn : y ≠ n := fun he => hn_zs (he ▸ hy)
    simp [delete, hn, hyn]

theorem isDeque_delete_head (h : IsDeque m d (e :: bs)) : IsDeque (delete m e) d bs := by
  have h' : IsDeque m d ([] ++ e :: bs) := h
  exact isDeque_delete h'

theorem IsDeque.delete (h : IsDeque m d xs) (he : e ∈ xs) : IsDeque (delete m e) d (xs.erase e) := by
  obtain ⟨as, bs, hne, rfl, hx⟩ := List.exists_erase_eq he
  rw [hx]
  exact isDeque_delete h

theorem delete_next_of_ne (h : IsDeque m d xs) (he : e ∈ xs) {x : Nat} (hx : x ∉ d :: xs) :
    (delete m e).next x = m.next x := by
  obtain ⟨as, bs, rfl⟩ := List.append_of_mem he
  obtain ⟨ys, p, n, zs, hys, -, hp, -⟩ := h.around
  have hxp : x ≠ p := by
    rintro rfl
    have : x ∈ d :: as := by rw [hys]; simp
    exact hx (by simp at this ⊢; tauto)
  have hxe : x ≠ e := by
    rintro rfl
    exact hx (by simp)
  simp [Deque.delete, hp, hxe, hxp]

theorem delete_prev_of_ne (h : IsDeque m d xs) (he : e ∈ xs) {x : Nat} (hx : x ∉ d :: xs) :
    (delete m e).prev x = m.prev x := by
  obtain ⟨as, bs, rfl⟩ := List.append_of_mem he
  obtain ⟨ys, p, n, zs, -, hzs, -, hn, -⟩ := h.around
  have hxn : x ≠ n := by
    rintro rfl
    have : x ∈ bs ++ [d] := by rw [hzs]; simp
    exact hx (by simp at this ⊢; tauto)
  simp [Deque.delete, hn, hxn]

theorem not_isQueued_delete : isQueued (delete m e) e = false := by
  simp [isQueued, delete]

/-- Popping the head is deleting it. -/
theorem popFront_eq (h : IsDeque m d (e :: bs)) : popFront m d = (delete m e, e) := by
  have he : m.next d = e := h.head
  have hp : m.prev e = d := by
    obtain ⟨-, hp, -⟩ := h.linked
    exact hp
  have hne : isEmpty m d = false := by
    by_contra hne
    have := h.isEmpty_iff.1 (by simpa using hne)
    cases this
  simp [popFront, hne, he, hp, delete]

theorem popFront_nil (h : IsDeque m d []) : popFront m d = (m, 0) := by
  have he := h.isEmpty_iff.2 rfl
  simp [popFront, he]

/-! ## Two queues -/

theorem IsDeque.sentinelCreate_other {d' : Nat} (h : IsDeque m d xs) (hd : d' ∉ d :: xs) :
    IsDeque (sentinelCreate m d') d xs := by
  refine h.congr ?_ ?_ <;>
  · intro x hx
    have hne : x ≠ d' := by
      rintro rfl
      exact hd hx
    simp [sentinelCreate, hne]

section Disjoint

variable {d' : Nat} {ys : List Nat} (hdis : ∀ x ∈ d' :: ys, x ∉ d :: xs)
include hdis

theorem IsDeque.pushBack_other (h' : IsDeque m d' ys) (h : IsDeque m d xs) (he : e ∉ d' :: ys) :
    IsDeque (pushBack m d e) d' ys := by
  refine h'.congr ?_ ?_
  · intro x hx
    exact pushBack_next_of_ne h (hdis x hx) fun hxe => he (hxe ▸ hx)
  · intro x hx
    exact pushBack_prev_of_ne (hdis x hx) fun hxe => he (hxe ▸ hx)

theorem IsDeque.pushFront_other (h' : IsDeque m d' ys) (h : IsDeque m d xs) (he : e ∉ d' :: ys) :
    IsDeque (pushFront m d e) d' ys := by
  refine h'.congr ?_ ?_
  · intro x hx
    exact pushFront_next_of_ne (hdis x hx) fun hxe => he (hxe ▸ hx)
  · intro x hx
    exact pushFront_prev_of_ne h (hdis x hx) fun hxe => he (hxe ▸ hx)

theorem IsDeque.delete_other (h' : IsDeque m d' ys) (h : IsDeque m d xs) (he : e ∈ xs) :
    IsDeque (Deque.delete m e) d' ys :=
  h'.congr (fun x hx => delete_next_of_ne h he (hdis x hx)) fun x hx => delete_prev_of_ne h he (hdis x hx)

/-- A push at either end, seen from both queues. -/
theorem isDeque_push (h : IsDeque m d xs) (h' : IsDeque m d' ys) (he : e ∉ d :: xs) (he' : e ∉ d' :: ys) (h0 : e ≠ 0)
    (front : Bool) :
    IsDeque (if front then pushFront m d e else pushBack m d e) d (if front then e :: xs else xs ++ [e]) ∧
      IsDeque (if front then pushFront m d e else pushBack m d e) d' ys := by
  cases front
  · exact ⟨isDeque_pushBack h he h0, h'.pushBack_other hdis h he'⟩
  · exact ⟨isDeque_pushFront h he h0, h'.pushFront_other hdis h he'⟩

end Disjoint

end Queues

end Occ.Deque
