/-
Writes to the places of a map, one after another, and stores that may fail. A place holds in the end what was last
written to it; and a second list of writes leaves nothing of a first one behind exactly when every place that only the
first one writes is as it was.
-/
import Mathlib.Data.List.Basic
import Mathlib.Data.List.Nodup
import Mathlib.Logic.Function.Basic

namespace Occ.Writes

open Function (update)

/-! ## Writes -/

section Map

variable {α β : Type} [DecidableEq α]

/-- All of the writes, in their order. -/
def puts (ws : List (α × β)) (m : α → β) : α → β := ws.foldl (fun m w => update m w.1 w.2) m

/-- The last value written to a place, if there is one. -/
def last : List (α × β) → α → Option β
  | [], _ => none
  | w :: ws, a => (last ws a).or (if w.1 = a then some w.2 else none)

variable {ws vs : List (α × β)} {m : α → β} {a : α} {b : β}

theorem puts_append : puts (ws ++ vs) m = puts vs (puts ws m) := List.foldl_append

theorem puts_ite {p : Prop} [Decidable p] :
    puts (if p then [(a, b)] else []) m = if p then update m a b else m := by
  split <;> rfl

theorem puts_apply : puts ws m a = (last ws a).getD (m a) := by
  induction ws generalizing m with
  | nil => rfl
  | cons w ws ih =>
    rw [puts, List.foldl_cons, ← puts, ih, last]
    rcases last ws a with _ | b
    · by_cases h : w.1 = a
      · subst h
        simp
      · rw [if_neg h, Function.update_of_ne (Ne.symm h)]
        rfl
    · rfl

theorem last_eq_none_iff : last ws a = none ↔ ∀ w ∈ ws, w.1 ≠ a := by
  induction ws with
  | nil => simp [last]
  | cons w ws ih =>
    rw [last, Option.or_eq_none_iff, ih, List.forall_mem_cons, and_comm]
    simp

theorem mem_of_last (h : last ws a = some b) : (a, b) ∈ ws := by
  induction ws with
  | nil => cases h
  | cons w ws ih =>
    rw [last] at h
    rcases hl : last ws a with _ | c
    · rw [hl, Option.none_or] at h
      obtain ⟨rfl, rfl⟩ := Option.ite_none_right_eq_some.1 h |>.imp id Option.some.inj
      exact List.mem_cons_self
    · rw [hl, Option.some_or] at h
      exact List.mem_cons_of_mem _ (ih (hl.trans h))

theorem puts_apply_of_mem (h : (a, b) ∈ ws) (hall : ∀ c, (a, c) ∈ ws → c = b) : puts ws m a = b := by
  rw [puts_apply]
  rcases hl : last ws a with _ | c
  · exact absurd rfl (last_eq_none_iff.1 hl _ h)
  · exact hall c (mem_of_last hl)

theorem puts_apply_of_not_mem (h : ∀ w ∈ ws, w.1 ≠ a) : puts ws m a = m a := by
  rw [puts_apply, last_eq_none_iff.2 h, Option.getD_none]

/-- Where every place is written at most once, the last write to it is the write to it. -/
theorem last_eq_some_iff (hws : (ws.map Prod.fst).Nodup) : last ws a = some b ↔ (a, b) ∈ ws := by
  constructor
  · exact mem_of_last
  · intro h
    rcases hl : last ws a with _ | c
    · exact absurd rfl (last_eq_none_iff.1 hl _ h)
    · have hc := mem_of_last hl
      have heq : (a, c) = (a, b) := List.inj_on_of_nodup_map hws hc h rfl
      rw [(Prod.mk.inj heq).2]

/-- Every place that only the first writes write is as it was. -/
def Covered (ws vs : List (α × β)) (m : α → β) : Prop := ∀ a, last vs a = none → ∀ b, last ws a = some b → b = m a

/-- The second writes leave nothing of the first ones. -/
theorem puts_puts_eq_iff : puts vs (puts ws m) = puts vs m ↔ Covered ws vs m := by
  simp only [funext_iff, puts_apply]
  refine forall_congr' fun a => ?_
  rcases last vs a with _ | c
  · rcases last ws a with _ | b
    · simp
    · simp
  · simp

/-- A single value is a map with one place. -/
theorem puts_puts_unit_iff {ws vs : List (Unit × β)} {m : Unit → β} :
    puts vs (fun _ => puts ws m ()) () = puts vs m () ↔ Covered ws vs m := by
  rw [← puts_puts_eq_iff, funext_iff]
  exact ⟨fun h _ => h, fun h => h ()⟩

/-- What two runs leave, of which the first one has the first writes too. -/
theorem eq_iff_covered {m' x y : α → β} (hm : m' = puts ws m) (hx : x = puts vs m') (hy : y = puts vs m) :
    x = y ↔ Covered ws vs m := by
  rw [hx, hy, hm, puts_puts_eq_iff]

theorem value_eq_iff_covered {ws vs : List (Unit × β)} {v v' x y : β} (hm : (fun _ => v') = puts ws fun _ => v)
    (hx : (fun _ => x) = puts vs fun _ => v') (hy : (fun _ => y) = puts vs fun _ => v) :
    x = y ↔ Covered ws vs fun _ => v := by
  rw [← eq_iff_covered hm hx hy, funext_iff]
  exact ⟨fun h _ => h, fun h => h ()⟩

/-- A map of places that are free until they are written, each by at most one of the writes. -/
structure Fresh (free : β) (ws : List (α × β)) (m : α → β) : Prop where
  map : m = puts ws fun _ => free
  nodup : (ws.map Prod.fst).Nodup
  used : ∀ w ∈ ws, w.2 ≠ free

variable {free : β}

theorem Fresh.nil : Fresh free ([] : List (α × β)) fun _ => free := ⟨rfl, List.nodup_nil, nofun⟩

theorem Fresh.apply_eq_iff (h : Fresh free ws m) (hb : b ≠ free) : m a = b ↔ (a, b) ∈ ws := by
  rw [← last_eq_some_iff h.nodup, h.map, puts_apply]
  rcases last ws a with _ | c
  · simp only [Option.getD_none, reduceCtorEq, iff_false]
    exact Ne.symm hb
  · simp

theorem Fresh.apply_eq_free_iff (h : Fresh free ws m) : m a = free ↔ ∀ w ∈ ws, w.1 ≠ a := by
  rw [← last_eq_none_iff, h.map, puts_apply]
  rcases hl : last ws a with _ | c
  · simp
  · simp only [Option.getD_some, reduceCtorEq, iff_false]
    exact h.used _ (mem_of_last hl)

theorem Fresh.snoc (h : Fresh free ws m) (ha : m a = free) (hb : b ≠ free) :
    Fresh free (ws ++ [(a, b)]) (update m a b) where
  map := by
    rw [puts_append, ← h.map]
    rfl
  nodup := by
    rw [List.map_append, List.map_singleton]
    refine List.nodup_append.2 ⟨h.nodup, List.nodup_singleton a, ?_⟩
    rintro _ hx y hy rfl
    obtain ⟨w, hw, rfl⟩ := List.mem_map.1 hx
    exact h.apply_eq_free_iff.1 ha w hw (List.mem_singleton.1 hy)
  used := by
    rintro w hw
    rcases List.mem_append.1 hw with hw | hw
    · exact h.used w hw
    · rw [List.mem_singleton.1 hw]
      exact hb

/-- A write that is made only where there is a place for it. -/
theorem Fresh.snoc_option (h : Fresh free ws m) {place : Option α} (ha : ∀ a, place = some a → m a = free)
    (hb : b ≠ free) : Fresh free (ws ++ place.toList.map (·, b)) (puts (place.toList.map (·, b)) m) := by
  rcases place with _ | a
  · simpa [puts] using h
  · exact h.snoc (ha a rfl) hb

end Map

/-! ## Stores -/

section Stores

variable {σ ι ε : Type}

/-- A loop of stores that stops at the first error. -/
def storeAll (store : σ → ι → σ × Option ε) : σ → List ι → σ × Option ε
  | s, [] => (s, none)
  | s, i :: is =>
    match store s i with
    | (t, none) => storeAll store t is
    | (t, some e) => (t, some e)

variable {store : σ → ι → σ × Option ε} {s t : σ} {i : ι} {is : List ι} {e : Option ε}

theorem storeAll_cons_of_none (h : store s i = (t, none)) : storeAll store s (i :: is) = storeAll store t is := by
  rw [storeAll, h]

theorem storeAll_cons_of_some {e : ε} (h : store s i = (t, some e)) : storeAll store s (i :: is) = (t, some e) := by
  rw [storeAll, h]

/-- When the loop ends without an error, it has gone through all of its stores: what holds of the stores so far and of
the state holds in the end of all of them. -/
theorem storeAll_ok {P : List ι → σ → Prop} (hstore : ∀ done s i t, P done s → store s i = (t, none) → P (done ++ [i]) t)
    (hs : P [] s) (h : storeAll store s is = (t, none)) : P is t := by
  suffices hall : ∀ (is done : List ι) (s : σ), P done s → storeAll store s is = (t, none) → P (done ++ is) t from
    hall is [] s hs h
  intro is
  induction is with
  | nil =>
    rintro done s hs ⟨⟩
    rwa [List.append_nil]
  | cons i is ih =>
    intro done s hs h
    rcases hr : store s i with ⟨u, _ | e⟩
    · rw [storeAll_cons_of_none hr] at h
      have hend := ih (done ++ [i]) u (hstore done s i u hs hr) h
      rwa [List.append_assoc, List.singleton_append] at hend
    · rw [storeAll_cons_of_some hr] at h
      cases h

/-- Two loops that agree before agree after, in their errors too, when every store keeps the agreement. -/
theorem storeAll_agree {R : σ → σ → Prop} (hstore : ∀ s s' i, R s s' → R (store s i).1 (store s' i).1 ∧
    (store s i).2 = (store s' i).2) {s s' : σ} (hs : R s s') :
    R (storeAll store s is).1 (storeAll store s' is).1 ∧ (storeAll store s is).2 = (storeAll store s' is).2 := by
  induction is generalizing s s' with
  | nil => exact ⟨hs, rfl⟩
  | cons i is ih =>
    obtain ⟨hr, he⟩ := hstore s s' i hs
    rcases h : store s i with ⟨t, _ | e⟩ <;> rcases h' : store s' i with ⟨t', _ | e'⟩ <;> rw [h, h'] at hr he
    · rw [storeAll_cons_of_none h, storeAll_cons_of_none h']
      exact ih hr
    · cases he
    · cases he
    · rw [storeAll_cons_of_some h, storeAll_cons_of_some h']
      exact ⟨hr, he⟩

end Stores

end Occ.Writes
