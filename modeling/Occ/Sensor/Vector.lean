/-
Vector sensors (`sensor.c`): a sensor that is updated with the minimum, the maximum or the average of the samples of
other sensors, its elements, which are added one after another and can be disabled.
-/
import Occ.Lib.Extreme
import Occ.Lib.Transition
import Occ.Sensor.SensorLaw
import Mathlib.Algebra.Order.BigOperators.Group.List
import Mathlib.Algebra.Order.Ring.Nat

namespace Occ.Sensor

open Occ Transition Extreme
open Function (update)

/-! ## Elements -/

/-- `MAX_VECTOR_SENSORS` -/
def maxVectorSensors : Nat := 32

/-- The elements of a `vectorSensor_t`: pointers to sensors, which are enabled when their flag is 1. -/
structure VectorElems (σ : Type) where
  size : BitVec 8
  elemEnabled : Nat → BitVec 8
  sourcePtr : Nat → Option σ

variable {σ : Type}

/-- The elements that `sensor_vectorize` leaves. -/
def VectorElems.zero : VectorElems σ := ⟨0, fun _ => 0, fun _ => none⟩

/-- `sensor_vector_elem_enable` -/
def sensorVectorElemEnable (v : VectorElems σ) (loc enable : BitVec 8) : VectorElems σ :=
  if loc < v.size then { v with elemEnabled := update v.elemEnabled loc.toNat enable } else v

/-- `sensor_vector_elem_add` -/
def sensorVectorElemAdd (v : VectorElems σ) (loc : BitVec 8) (elem : Option σ) : VectorElems σ :=
  match elem with
  | none => v
  | some elem =>
    if loc.toNat ≥ maxVectorSensors then v
    else if loc > v.size then v
    else
      { size := if (v.sourcePtr loc.toNat).isNone then v.size + 1 else v.size
        elemEnabled := update v.elemEnabled loc.toNat 1
        sourcePtr := update v.sourcePtr loc.toNat (some elem) }

/-- A call on the elements. -/
inductive ElemCall (σ : Type)
  | add (loc : BitVec 8) (elem : Option σ)
  | enable (loc enable : BitVec 8)

def VectorElems.call (v : VectorElems σ) : ElemCall σ → VectorElems σ
  | .add loc elem => sensorVectorElemAdd v loc elem
  | .enable loc enable => sensorVectorElemEnable v loc enable

/-! ## Operations -/

/-- The positions and the samples that a loop over the enabled elements reads, and nothing when it follows a pointer that is
NULL. -/
def VectorElems.enabledSamples (v : VectorElems σ) (sample : σ → BitVec 16) : Option (List (BitVec 8 × BitVec 16)) :=
  ((List.range v.size.toNat).filter fun i => v.elemEnabled i = 1).mapM fun i =>
    (v.sourcePtr i).map fun elem => (BitVec.ofNat 8 i, sample elem)

/-- `sensor_op_min`, with the position that it leaves. -/
def sensorOpMin (samples : List (BitVec 8 × BitVec 16)) (position : BitVec 8) : BitVec 16 × BitVec 8 :=
  samples.foldl (pick (· < ·)) (uint16Max, position)

/-- `sensor_op_max` -/
def sensorOpMax (samples : List (BitVec 8 × BitVec 16)) (position : BitVec 8) : BitVec 16 × BitVec 8 :=
  samples.foldl (pick (· > ·)) (uint16Min, position)

/-- The number and the sum of the samples above the threshold, in `sensor_op_avg`. -/
def avgStep (threshold : BitVec 16) (acc : BitVec 16 × BitVec 32) (entry : BitVec 8 × BitVec 16) : BitVec 16 × BitVec 32 :=
  if entry.2 > threshold then (acc.1 + 1, acc.2 + entry.2.setWidth 32) else acc

/-- `sensor_op_avg` -/
def sensorOpAvg (samples : List (BitVec 8 × BitVec 16)) (threshold : BitVec 16) : BitVec 16 :=
  let (number, sum) := samples.foldl (avgStep threshold) (0, 0)
  if number ≠ 0 then (sum / number.setWidth 32).setWidth 16 else sum.setWidth 16

/-- The vector with the positions of its extremes. -/
def SensorState.withPos (s : SensorState) (minPos maxPos : Option (BitVec 8)) : SensorState :=
  { s with vector := s.vector.map fun v => { v with minPos := minPos.getD v.minPos, maxPos := maxPos.getD v.maxPos } }

/-- `sensor_vector_update`, on a sensor and the elements of its vector; nothing when a NULL pointer is followed. -/
def sensorVectorUpdate (tod : BitVec 64) (threshold : BitVec 32) (v : VectorElems σ) (sample : σ → BitVec 16)
    (s : SensorState) : Option SensorState :=
  let s : SensorState := if s.resetPending then s.reset else s
  match s.vector.map VectorSensor.operation with
  | some .min =>
    (v.enabledSamples sample).map fun samples =>
      let (value, position) := sensorOpMin samples 0
      let s := s.withPos (some position) none
      if value ≠ uint16Max then s.update tod value else s
  | some .max =>
    (v.enabledSamples sample).map fun samples =>
      let (value, position) := sensorOpMax samples 0
      let s := s.withPos none (some position)
      if value ≠ uint16Min then s.update tod value else s
  | some .avg =>
    (v.enabledSamples sample).map fun samples =>
      let value := sensorOpAvg samples (threshold.setWidth 16)
      if value ≠ 0 then s.update tod value else s
  | _ => some s

/-! ## The elements that were added -/

/-- What the calls are for: a map of the elements by their positions, each with its flag. -/
abbrev Elems (σ : Type) := Nat → Option (σ × BitVec 8)

/-- An element takes a position in the range that has one before it, or is the first. -/
def Elems.call (elems : Elems σ) : ElemCall σ → Elems σ
  | .add _ none => elems
  | .add loc (some elem) =>
    if loc.toNat < maxVectorSensors ∧ (loc.toNat = 0 ∨ (elems (loc.toNat - 1)).isSome) then
      update elems loc.toNat (some (elem, 1))
    else elems
  | .enable loc enable => update elems loc.toNat ((elems loc.toNat).map fun entry => (entry.1, enable))

/-- The elements that a sequence of calls has added. -/
def Elems.added (calls : List (ElemCall σ)) : Elems σ := calls.foldl Elems.call fun _ => none

/-- The elements of a vector are those of the map, which are the positions below the size. -/
structure VectorElems.Covers (v : VectorElems σ) (elems : Elems σ) : Prop where
  size : v.size.toNat ≤ maxVectorSensors
  covered : ∀ i, i < v.size.toNat ↔ (elems i).isSome
  source : ∀ i, v.sourcePtr i = (elems i).map Prod.fst
  enabled : ∀ i elem flag, elems i = some (elem, flag) → v.elemEnabled i = flag

theorem VectorElems.Covers.zero : (VectorElems.zero : VectorElems σ).Covers fun _ => none where
  size := Nat.zero_le _
  covered _ := ⟨fun h => absurd h (Nat.not_lt_zero _), fun h => Bool.noConfusion h⟩
  source _ := rfl
  enabled _ _ _ h := nomatch h

variable {v : VectorElems σ} {elems : Elems σ}

/-- Adding an element to a vector adds it to the map. -/
theorem VectorElems.Covers.add (h : v.Covers elems) (loc : BitVec 8) (elem : σ) :
    (v.call (.add loc (some elem))).Covers (elems.call (.add loc (some elem))) := by
  have hsize := h.size
  unfold maxVectorSensors at hsize
  have hcov := h.covered
  have hroom : loc.toNat ≤ v.size.toNat ↔ loc.toNat = 0 ∨ (elems (loc.toNat - 1)).isSome := by
    rw [← hcov]
    omega
  by_cases hloc : loc.toNat < maxVectorSensors ∧ (loc.toNat = 0 ∨ (elems (loc.toNat - 1)).isSome)
  · obtain ⟨hrange, hnext⟩ := hloc
    have hle := hroom.2 hnext
    have hcall : v.call (.add loc (some elem)) =
        { size := if (v.sourcePtr loc.toNat).isNone then v.size + 1 else v.size
          elemEnabled := update v.elemEnabled loc.toNat 1
          sourcePtr := update v.sourcePtr loc.toNat (some elem) } := by
      change (if loc.toNat ≥ maxVectorSensors then v else _) = _
      rw [if_neg (by omega), if_neg (show ¬loc > v.size from Nat.not_lt.2 hle)]
    have hmap : elems.call (.add loc (some elem)) = update elems loc.toNat (some (elem, 1)) := if_pos ⟨hrange, hnext⟩
    -- the position is free exactly when it is the size
    have hfree : (v.sourcePtr loc.toNat).isNone ↔ loc.toNat = v.size.toNat := by
      rw [h.source, Option.isNone_map, ← Option.not_isSome_iff_eq_none.trans Option.isNone_iff_eq_none.symm, ← hcov]
      omega
    have hnew : (if (v.sourcePtr loc.toNat).isNone then v.size + 1 else v.size).toNat =
        max v.size.toNat (loc.toNat + 1) := by
      unfold maxVectorSensors at hrange
      by_cases hsome : (v.sourcePtr loc.toNat).isNone
      · have := hfree.1 hsome
        have hone : (v.size + 1).toNat = v.size.toNat + 1 := by
          rw [BitVec.toNat_add]
          exact Nat.mod_eq_of_lt (show v.size.toNat + 1 < 256 by omega)
        rw [if_pos hsome, hone]
        omega
      · have := mt hfree.2 hsome
        rw [if_neg hsome]
        omega
    rw [hcall, hmap]
    constructor
    case size =>
      rw [hnew]
      unfold maxVectorSensors at hrange ⊢
      omega
    case covered =>
      intro i
      rw [hnew]
      by_cases hi : i = loc.toNat
      · subst hi
        rw [Function.update_self]
        exact ⟨fun _ => rfl, fun _ => by omega⟩
      · rw [Function.update_of_ne hi, ← hcov]
        omega
    case source =>
      intro i
      by_cases hi : i = loc.toNat
      · subst hi
        simp only [Function.update_self]
        rfl
      · simp only [Function.update_of_ne hi]
        exact h.source i
    case enabled =>
      intro i other flag hother
      by_cases hi : i = loc.toNat
      · subst hi
        rw [Function.update_self] at hother
        cases hother
        exact Function.update_self _ _ _
      · rw [Function.update_of_ne hi] at hother
        exact (Function.update_of_ne hi _ _).trans (h.enabled i other flag hother)
  · have hcall : v.call (.add loc (some elem)) = v := by
      change (if loc.toNat ≥ maxVectorSensors then v else _) = _
      by_cases hrange : loc.toNat ≥ maxVectorSensors
      · rw [if_pos hrange]
      · have hgt : ¬loc.toNat ≤ v.size.toNat := fun hle => hloc ⟨by omega, hroom.1 hle⟩
        rw [if_neg hrange, if_pos (show loc > v.size from Nat.lt_of_not_le hgt)]
    have hmap : elems.call (.add loc (some elem)) = elems := if_neg hloc
    rw [hcall, hmap]
    exact h
/-- Enabling or disabling an element does so in the map. -/
theorem VectorElems.Covers.enable (h : v.Covers elems) (loc enable : BitVec 8) :
    (v.call (.enable loc enable)).Covers (elems.call (.enable loc enable)) := by
  have hcov := h.covered
  by_cases hloc : loc < v.size
  · have hcall : v.call (.enable loc enable) = { v with elemEnabled := update v.elemEnabled loc.toNat enable } :=
      if_pos hloc
    rw [hcall]
    constructor
    case size => exact h.size
    case covered =>
      intro i
      change i < v.size.toNat ↔ (update elems loc.toNat _ i).isSome
      by_cases hi : i = loc.toNat
      · subst hi
        rw [Function.update_self, Option.isSome_map]
        exact hcov _
      · rw [Function.update_of_ne hi]
        exact hcov i
    case source =>
      intro i
      change v.sourcePtr i = (update elems loc.toNat _ i).map Prod.fst
      by_cases hi : i = loc.toNat
      · subst hi
        rw [Function.update_self, Option.map_map]
        exact h.source _
      · rw [Function.update_of_ne hi]
        exact h.source i
    case enabled =>
      intro i other flag hother
      change update elems loc.toNat _ i = _ at hother
      by_cases hi : i = loc.toNat
      · subst hi
        rw [Function.update_self] at hother
        obtain ⟨_, -, hentry⟩ := Option.map_eq_some_iff.1 hother
        obtain ⟨-, rfl⟩ := Prod.mk.inj hentry
        exact Function.update_self _ _ _
      · rw [Function.update_of_ne hi] at hother
        exact (Function.update_of_ne hi _ _).trans (h.enabled i other flag hother)
  · -- a position without an element
    have hnone : elems loc.toNat = none := by
      rw [← Option.not_isSome_iff_eq_none, ← hcov]
      exact hloc
    have hcall : v.call (.enable loc enable) = v := if_neg hloc
    have hmap : elems.call (.enable loc enable) = elems := by
      change update elems loc.toNat ((elems loc.toNat).map _) = elems
      rw [hnone, Option.map_none, ← hnone, Function.update_eq_self]
    rw [hcall, hmap]
    exact h

theorem VectorElems.Covers.call (h : v.Covers elems) (call : ElemCall σ) : (v.call call).Covers (elems.call call) := by
  rcases call with ⟨loc, _ | elem⟩ | ⟨loc, enable⟩
  case add.none => exact h
  case add.some => exact h.add loc elem
  case enable => exact h.enable loc enable

theorem covers_calls (calls : List (ElemCall σ)) :
    (calls.foldl VectorElems.call VectorElems.zero).Covers (Elems.added calls) := by
  induction calls using List.reverseRecOn with
  | nil => exact VectorElems.Covers.zero
  | append_singleton calls call ih =>
    rw [Elems.added, List.foldl_append, List.foldl_append]
    exact ih.call call

/-! ## The samples of the enabled elements -/

/-- The positions and the samples of the enabled elements of a map. -/
def Elems.enabled (elems : Elems σ) (sample : σ → BitVec 16) : List (BitVec 8 × BitVec 16) :=
  (List.range maxVectorSensors).filterMap fun i =>
    (elems i).bind fun entry => if entry.2 = 1 then some (BitVec.ofNat 8 i, sample entry.1) else none

theorem length_enabled (elems : Elems σ) (sample : σ → BitVec 16) : (elems.enabled sample).length ≤ maxVectorSensors := by
  have h := List.length_filterMap_le (fun i => (elems i).bind fun entry =>
    if entry.2 = 1 then some (BitVec.ofNat 8 i, sample entry.1) else none) (List.range maxVectorSensors)
  rwa [List.length_range] at h

theorem mapM_eq_filterMap {α β : Type} {f : α → Option β} {l : List α} (h : ∀ a ∈ l, (f a).isSome) :
    l.mapM f = some (l.filterMap f) := by
  induction l with
  | nil => rfl
  | cons a l ih =>
    obtain ⟨b, hb⟩ := Option.isSome_iff_exists.1 (h a List.mem_cons_self)
    rw [List.mapM_cons, hb, ih fun a' ha' => h a' (List.mem_cons_of_mem _ ha'), List.filterMap_cons_some hb]
    rfl

/-- The loops over a vector read exactly the samples of the enabled elements, and never follow a NULL pointer. -/
theorem VectorElems.Covers.enabledSamples (h : v.Covers elems) (sample : σ → BitVec 16) :
    v.enabledSamples sample = some (elems.enabled sample) := by
  have hentry : ∀ i < v.size.toNat, ∃ elem, elems i = some (elem, v.elemEnabled i) ∧ v.sourcePtr i = some elem := by
    intro i hi
    obtain ⟨⟨elem, flag⟩, hsome⟩ := Option.isSome_iff_exists.1 ((h.covered i).1 hi)
    have hflag := h.enabled i elem flag hsome
    refine ⟨elem, ?_, ?_⟩
    · rw [hflag]
      exact hsome
    · rw [h.source, hsome]
      rfl
  unfold VectorElems.enabledSamples
  rw [mapM_eq_filterMap]
  · obtain ⟨rest, hrest⟩ := Nat.exists_eq_add_of_le h.size
    have hnone : ∀ i ∈ (List.range rest).map (v.size.toNat + ·), (elems i).bind (fun entry =>
        if entry.2 = 1 then some (BitVec.ofNat 8 i, sample entry.1) else none) = none := by
      intro i hi
      obtain ⟨j, -, rfl⟩ := List.mem_map.1 hi
      have hempty : elems (v.size.toNat + j) = none := by
        rw [← Option.not_isSome_iff_eq_none, ← h.covered]
        omega
      rw [hempty]
      rfl
    rw [Elems.enabled, hrest, List.range_add, List.filterMap_append, List.filterMap_eq_nil_iff.2 hnone, List.append_nil,
      List.filterMap_filter]
    congr 1
    apply List.filterMap_congr
    intro i hi
    obtain ⟨elem, hsome, hsource⟩ := hentry i (List.mem_range.1 hi)
    rw [hsome, hsource]
    by_cases hflag : v.elemEnabled i = 1
    · simp only [hflag, decide_true, if_true, Option.map_some, Option.bind_some]
    · simp only [hflag, decide_false, Bool.false_eq_true, if_false, Option.bind_some]
  · intro i hi
    obtain ⟨elem, -, hsource⟩ := hentry i (List.mem_range.1 (List.mem_filter.1 hi).1)
    rw [hsource]
    rfl

/-! ## The law of an update -/

/-- The enabled elements above the threshold. -/
def aboveThreshold (threshold : BitVec 32) (enabled : List (BitVec 8 × BitVec 16)) : List (BitVec 8 × BitVec 16) :=
  enabled.filter fun entry => threshold.setWidth 16 < entry.2

/-- An update from the samples of the enabled elements: the sensor is updated with their minimum, maximum or average, and
only the reset that is pending is made when there are none. Of the sentinels nothing is said. -/
structure VectorLaw (tod : BitVec 64) (threshold : BitVec 32) (enabled : List (BitVec 8 × BitVec 16))
    (s t : SensorState) : Prop where
  min : s.vector.map VectorSensor.operation = some .min → (∃ entry ∈ enabled, entry.2 ≠ uint16Max) →
    ∃ entry ∈ enabled, (∀ other ∈ enabled, entry.2 ≤ other.2) ∧
      t = (s.opened.withPos (some entry.1) none).update tod entry.2
  max : s.vector.map VectorSensor.operation = some .max → (∃ entry ∈ enabled, entry.2 ≠ uint16Min) →
    ∃ entry ∈ enabled, (∀ other ∈ enabled, other.2 ≤ entry.2) ∧
      t = (s.opened.withPos none (some entry.1)).update tod entry.2
  avg : s.vector.map VectorSensor.operation = some .avg → aboveThreshold threshold enabled ≠ [] →
    ∃ value : BitVec 16, value.toNat = ((aboveThreshold threshold enabled).map fun entry => entry.2.toNat).sum /
      (aboveThreshold threshold enabled).length ∧ t = s.opened.update tod value
  none : enabled = [] → ∃ minPos maxPos, t = s.opened.withPos minPos maxPos
  noneAbove : s.vector.map VectorSensor.operation = some .avg → aboveThreshold threshold enabled = [] → t = s.opened

/-! ## Minimum and maximum -/

variable {enabled : List (BitVec 8 × BitVec 16)} {position : BitVec 8}

theorem strict_lt : Strict (fun a b : BitVec 16 => a < b) := ⟨fun _ => Nat.lt_irrefl _, fun _ _ _ => Nat.lt_trans⟩

theorem strict_gt : Strict (fun a b : BitVec 16 => a > b) := ⟨fun _ => Nat.lt_irrefl _, fun _ _ _ h₁ h₂ => Nat.lt_trans h₂ h₁⟩

theorem sensorOpMin_some (h : ∃ entry ∈ enabled, entry.2 ≠ uint16Max) :
    ((sensorOpMin enabled position).2, (sensorOpMin enabled position).1) ∈ enabled ∧
      (sensorOpMin enabled position).1 ≠ uint16Max ∧
      ∀ other ∈ enabled, (sensorOpMin enabled position).1 ≤ other.2 := by
  have hheld := held_foldl strict_lt (uint16Max, position) enabled
  obtain ⟨hmem, hlt⟩ := hheld.some <| by
    obtain ⟨entry, hentry, hne⟩ := h
    refine ⟨entry, hentry, ?_⟩
    have hsize := entry.2.isLt
    have hne' : entry.2.toNat ≠ 65535 := fun heq => hne (BitVec.eq_of_toNat_eq heq)
    change entry.2.toNat < 65535
    omega
  refine ⟨hmem, ?_, fun other hother => Nat.not_lt.1 (hheld.best other hother)⟩
  intro heq
  change (sensorOpMin enabled position).1 < uint16Max at hlt
  rw [heq] at hlt
  exact Nat.lt_irrefl _ hlt

theorem sensorOpMax_some (h : ∃ entry ∈ enabled, entry.2 ≠ uint16Min) :
    ((sensorOpMax enabled position).2, (sensorOpMax enabled position).1) ∈ enabled ∧
      (sensorOpMax enabled position).1 ≠ uint16Min ∧
      ∀ other ∈ enabled, other.2 ≤ (sensorOpMax enabled position).1 := by
  have hheld := held_foldl strict_gt (uint16Min, position) enabled
  obtain ⟨hmem, hlt⟩ := hheld.some <| by
    obtain ⟨entry, hentry, hne⟩ := h
    refine ⟨entry, hentry, ?_⟩
    have hne' : entry.2.toNat ≠ 0 := fun heq => hne (BitVec.eq_of_toNat_eq heq)
    change 0 < entry.2.toNat
    omega
  refine ⟨hmem, ?_, fun other hother => Nat.not_lt.1 (hheld.best other hother)⟩
  intro heq
  change uint16Min < (sensorOpMax enabled position).1 at hlt
  rw [heq] at hlt
  exact Nat.lt_irrefl _ hlt

/-! ## Average -/

theorem sum_samples_le (entries : List (BitVec 8 × BitVec 16)) :
    (entries.map fun entry => entry.2.toNat).sum ≤ entries.length * 65535 := by
  have h := List.sum_le_card_nsmul (entries.map fun entry => entry.2.toNat) 65535 <| by
    intro sample hsample
    obtain ⟨entry, -, rfl⟩ := List.mem_map.1 hsample
    exact Nat.le_of_lt_succ entry.2.isLt
  rw [List.length_map] at h
  exact h

theorem length_le_sum_above (threshold : BitVec 32) : (aboveThreshold threshold enabled).length ≤
    ((aboveThreshold threshold enabled).map fun entry => entry.2.toNat).sum := by
  have h := List.card_nsmul_le_sum ((aboveThreshold threshold enabled).map fun entry => entry.2.toNat) 1 <| by
    intro sample hsample
    obtain ⟨entry, hentry, rfl⟩ := List.mem_map.1 hsample
    have hgt : threshold.setWidth 16 < entry.2 := by simpa using (List.mem_filter.1 hentry).2
    exact Nat.lt_of_le_of_lt (Nat.zero_le _) hgt
  rw [List.length_map] at h
  exact (Nat.mul_one _).ge.trans h

/-- What the loop has counted and added up of some samples, when these are not more than a vector has. -/
theorem foldl_avgStep (threshold : BitVec 32) (h : enabled.length ≤ maxVectorSensors) :
    (enabled.foldl (avgStep (threshold.setWidth 16)) (0, 0)).1.toNat = (aboveThreshold threshold enabled).length ∧
      (enabled.foldl (avgStep (threshold.setWidth 16)) (0, 0)).2.toNat =
        ((aboveThreshold threshold enabled).map fun entry => entry.2.toNat).sum := by
  induction enabled using List.reverseRecOn with
  | nil => exact ⟨rfl, rfl⟩
  | append_singleton enabled entry ih =>
    unfold maxVectorSensors at ih h
    rw [List.length_append, List.length_singleton] at h
    obtain ⟨hnumber, hsum⟩ := ih (by omega)
    have hsample := Nat.le_of_lt entry.2.isLt
    have hcount : (aboveThreshold threshold enabled).length ≤ enabled.length := List.length_filter_le _ _
    have hbound := (sum_samples_le (aboveThreshold threshold enabled)).trans
      (Nat.mul_le_mul_right 65535 (show (aboveThreshold threshold enabled).length ≤ 31 by omega))
    rw [List.foldl_append]
    generalize enabled.foldl (avgStep (threshold.setWidth 16)) (0, 0) = acc at *
    simp only [List.foldl_cons, List.foldl_nil]
    unfold avgStep
    by_cases hgt : entry.2 > threshold.setWidth 16
    · have hkeep : aboveThreshold threshold (enabled ++ [entry]) = aboveThreshold threshold enabled ++ [entry] := by
        unfold aboveThreshold
        rw [List.filter_append, List.filter_cons_of_pos (by simpa using hgt), List.filter_nil]
      rw [if_pos hgt, hkeep, List.length_append, List.length_singleton, List.map_append, List.sum_append]
      constructor
      · rw [BitVec.toNat_add, hnumber]
        exact Nat.mod_eq_of_lt (Nat.lt_of_le_of_lt (Nat.succ_le_succ hcount) (by omega))
      · rw [BitVec.toNat_add, BitVec.toNat_setWidth_of_le (by decide), hsum, List.map_singleton, List.sum_singleton]
        exact Nat.mod_eq_of_lt (Nat.lt_of_le_of_lt (Nat.add_le_add hbound hsample) (by decide))
    · have hdrop : aboveThreshold threshold (enabled ++ [entry]) = aboveThreshold threshold enabled := by
        unfold aboveThreshold
        rw [List.filter_append, List.filter_cons_of_neg (by simpa using hgt), List.filter_nil, List.append_nil]
      rw [if_neg hgt, hdrop]
      exact ⟨hnumber, hsum⟩

theorem sensorOpAvg_eq (samples : List (BitVec 8 × BitVec 16)) (threshold : BitVec 16) : sensorOpAvg samples threshold =
    if (samples.foldl (avgStep threshold) (0, 0)).1 ≠ 0 then
      ((samples.foldl (avgStep threshold) (0, 0)).2 / (samples.foldl (avgStep threshold) (0, 0)).1.setWidth 32).setWidth 16
    else (samples.foldl (avgStep threshold) (0, 0)).2.setWidth 16 := rfl

/-- The average of the samples above the threshold, of which there is one at least. -/
theorem sensorOpAvg_some {threshold : BitVec 32} (hlength : enabled.length ≤ maxVectorSensors)
    (h : aboveThreshold threshold enabled ≠ []) :
    (sensorOpAvg enabled (threshold.setWidth 16)).toNat =
        ((aboveThreshold threshold enabled).map fun entry => entry.2.toNat).sum / (aboveThreshold threshold enabled).length ∧
      sensorOpAvg enabled (threshold.setWidth 16) ≠ 0 := by
  obtain ⟨hnumber, hsum⟩ := foldl_avgStep threshold hlength
  have hpos := List.length_pos_iff.2 h
  have hlow := @length_le_sum_above enabled threshold
  have hhigh := sum_samples_le (aboveThreshold threshold enabled)
  have hvalue : (sensorOpAvg enabled (threshold.setWidth 16)).toNat =
      ((aboveThreshold threshold enabled).map fun entry => entry.2.toNat).sum /
        (aboveThreshold threshold enabled).length := by
    have hne : (enabled.foldl (avgStep (threshold.setWidth 16)) (0, 0)).1 ≠ 0 := by
      intro hzero
      rw [hzero] at hnumber
      exact absurd hnumber.symm (Nat.ne_of_gt hpos)
    rw [sensorOpAvg_eq, if_pos hne, BitVec.toNat_setWidth, BitVec.toNat_udiv, BitVec.toNat_setWidth_of_le (by decide),
      hnumber, hsum]
    apply Nat.mod_eq_of_lt
    rw [Nat.div_lt_iff_lt_mul hpos]
    omega
  refine ⟨hvalue, ?_⟩
  intro hzero
  rw [hzero] at hvalue
  have hone := (Nat.le_div_iff_mul_le hpos).2 ((Nat.one_mul _).le.trans hlow)
  rw [← hvalue] at hone
  exact absurd hone (by decide)

theorem sensorOpAvg_nil {threshold : BitVec 32} (hlength : enabled.length ≤ maxVectorSensors)
    (h : aboveThreshold threshold enabled = []) : sensorOpAvg enabled (threshold.setWidth 16) = 0 := by
  obtain ⟨hnumber, hsum⟩ := foldl_avgStep threshold hlength
  rw [h] at hnumber hsum
  rw [sensorOpAvg_eq, if_neg (not_not_intro (BitVec.eq_of_toNat_eq hnumber))]
  apply BitVec.eq_of_toNat_eq
  rw [BitVec.toNat_setWidth, hsum]
  rfl

/-! ## Updates -/

theorem operation_opened (s : SensorState) :
    s.opened.vector.map VectorSensor.operation = s.vector.map VectorSensor.operation := by
  unfold SensorState.opened
  split
  · rcases s with ⟨_, _, vector, _, _⟩
    rcases vector with _ | vector <;> rfl
  · rfl

theorem withPos_none (s : SensorState) : s.withPos none none = s := by
  rcases s with ⟨_, _, vector, _, _⟩
  rcases vector with _ | vector <;> rfl

theorem sensorVectorUpdate_eq {tod : BitVec 64} {threshold : BitVec 32} {sample : σ → BitVec 16} {s : SensorState}
    (h : v.enabledSamples sample = some enabled) : sensorVectorUpdate tod threshold v sample s =
      match s.vector.map VectorSensor.operation with
      | some .min => some (if (sensorOpMin enabled 0).1 ≠ uint16Max then
          (s.opened.withPos (some (sensorOpMin enabled 0).2) none).update tod (sensorOpMin enabled 0).1
          else s.opened.withPos (some (sensorOpMin enabled 0).2) none)
      | some .max => some (if (sensorOpMax enabled 0).1 ≠ uint16Min then
          (s.opened.withPos none (some (sensorOpMax enabled 0).2)).update tod (sensorOpMax enabled 0).1
          else s.opened.withPos none (some (sensorOpMax enabled 0).2))
      | some .avg => some (if sensorOpAvg enabled (threshold.setWidth 16) ≠ 0 then
          s.opened.update tod (sensorOpAvg enabled (threshold.setWidth 16)) else s.opened)
      | _ => some s.opened := by
  have hopen : (if s.resetPending then s.reset else s) = s.opened := rfl
  unfold sensorVectorUpdate
  simp only [hopen, h, Option.map_some, operation_opened]

/-- An update from the samples of enabled elements keeps the law. -/
theorem vectorLaw_update {tod : BitVec 64} {threshold : BitVec 32} {sample : σ → BitVec 16} {s : SensorState}
    (h : v.enabledSamples sample = some enabled) (hlength : enabled.length ≤ maxVectorSensors) :
    ∃ t, sensorVectorUpdate tod threshold v sample s = some t ∧ VectorLaw tod threshold enabled s t := by
  have heq := @sensorVectorUpdate_eq σ v enabled tod threshold sample s h
  obtain ⟨t, ht⟩ : ∃ t, sensorVectorUpdate tod threshold v sample s = some t := by
    rw [heq]
    split <;> exact ⟨_, rfl⟩
  refine ⟨t, ht, ?_⟩
  rw [heq] at ht
  constructor
  case min =>
    intro hop hsome
    obtain ⟨hmem, hne, hbest⟩ := @sensorOpMin_some enabled 0 hsome
    rw [hop] at ht
    cases ht
    exact ⟨_, hmem, hbest, if_pos hne⟩
  case max =>
    intro hop hsome
    obtain ⟨hmem, hne, hbest⟩ := @sensorOpMax_some enabled 0 hsome
    rw [hop] at ht
    cases ht
    exact ⟨_, hmem, hbest, if_pos hne⟩
  case avg =>
    intro hop habove
    obtain ⟨hvalue, hne⟩ := sensorOpAvg_some hlength habove
    rw [hop] at ht
    cases ht
    exact ⟨_, hvalue, if_pos hne⟩
  case none =>
    rintro rfl
    rcases hop : s.vector.map VectorSensor.operation with _ | _ | _ | _ | _ <;> rw [hop] at ht <;> cases ht
    case none => exact ⟨none, none, (withPos_none _).symm⟩
    case some.none => exact ⟨none, none, (withPos_none _).symm⟩
    case some.max => exact ⟨none, some 0, if_neg (not_not_intro rfl)⟩
    case some.min => exact ⟨some 0, none, if_neg (not_not_intro rfl)⟩
    case some.avg =>
      have hzero := sensorOpAvg_nil hlength (show aboveThreshold threshold [] = [] from rfl)
      exact ⟨none, none, (if_neg (not_not_intro hzero)).trans (withPos_none _).symm⟩
  case noneAbove =>
    intro hop habove
    rw [hop] at ht
    cases ht
    exact if_neg (not_not_intro (sensorOpAvg_nil hlength habove))

/-- After any sequence of calls the vector holds exactly the elements that were added, and an update takes exactly those
that are enabled. -/
theorem vector_law (calls : List (ElemCall σ)) (tod : BitVec 64) (threshold : BitVec 32) (sample : σ → BitVec 16)
    (s : SensorState) :
    (calls.foldl VectorElems.call VectorElems.zero).Covers (Elems.added calls) ∧
      ∃ t, sensorVectorUpdate tod threshold (calls.foldl VectorElems.call VectorElems.zero) sample s = some t ∧
        VectorLaw tod threshold ((Elems.added calls).enabled sample) s t := by
  have hcovers := covers_calls calls
  exact ⟨hcovers, vectorLaw_update (hcovers.enabledSamples sample) (length_enabled _ _)⟩

/-- Two elements with the samples 1 and 3: with a threshold of 1 the average is 3, although both are enabled. -/
theorem average_above_threshold :
    ((Elems.added [.add 0 (some (1 : BitVec 16)), .add 1 (some 3)]).enabled id) = [(0, 1), (1, 3)] ∧
      (sensorVectorUpdate 0 1 ([.add 0 (some (1 : BitVec 16)), .add 1 (some 3)].foldl VectorElems.call VectorElems.zero) id
        ((sensorInit 0 none).vectorize .avg)).map (fun t => t.sample) = some 3 ∧ (1 + 3) / 2 ≠ 3 := by
  decide

end Occ.Sensor
