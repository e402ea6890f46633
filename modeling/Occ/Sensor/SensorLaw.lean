/-
The history law of a sensor: what its fields hold after any sequence of updates, clears and resets, in
terms of the values since the last of them that starts the field over.
-/
import Occ.Sensor.Sensor
import Occ.Lib.Watermark
import Mathlib

namespace Occ.Sensor

open Occ Watermark

/-! ## What the fields should hold -/

/-- The owners of a minimum and a maximum. -/
inductive Client
  | sample | csm | profiler | jobS
deriving DecidableEq, Repr

def Client.clearType : Client → BitVec 32
  | .sample => clearSampleMinmax
  | .csm => clearCsmSampleMinmax
  | .profiler => clearProfilerSampleMinmax
  | .jobS => clearJobSSampleMinmax

def SensorState.marks (s : SensorState) : Client → Marks Nat
  | .sample => ⟨s.sampleMin.toNat, s.sampleMax.toNat⟩
  | .csm => ⟨s.csmSampleMin.toNat, s.csmSampleMax.toNat⟩
  | .profiler => ⟨s.profilerSampleMin.toNat, s.profilerSampleMax.toNat⟩
  | .jobS => ⟨s.jobSSampleMin.toNat, s.jobSSampleMax.toNat⟩

/-- The values of a cleared pair. -/
def emptyMarks : Marks Nat := ⟨65535, 0⟩

namespace SensorOp

def value : SensorOp → Option Nat
  | update _ v => some v.toNat
  | _ => none

def resets : SensorOp → Bool
  | reset => true
  | _ => false

def clears (c : Client) : SensorOp → Bool
  | clearMinmax clearType => clearType &&& c.clearType ≠ 0
  | reset => true
  | _ => false

/-- The calls that leave no reset pending. -/
def opens : SensorOp → Bool
  | update .. => true
  | reset => true
  | _ => false

/-- The calls after which the zeros of a new sensor are gone from a client's pair. -/
def starts (c : Client) (op : SensorOp) : Bool := op.opens || op.clears c

end SensorOp

structure SensorLaw (ops : List SensorOp) (s : SensorState) : Prop where
  sample : s.sample.toNat = (since SensorOp.resets SensorOp.value ops).getLast?.getD 0
  accumulator : s.accumulator.toNat = (since SensorOp.resets SensorOp.value ops).sum % 2 ^ 64
  updateTag : s.updateTag.toNat = (ops.filterMap SensorOp.value).length % 2 ^ 32
  marks : ∀ c, (∃ op ∈ ops, op.starts c) →
    Marks.Of emptyMarks (since (SensorOp.clears c) SensorOp.value ops) (s.marks c)
  fresh : ∀ c, (∀ op ∈ ops, op.starts c = false) → s.marks c = ⟨0, 0⟩

/-! ## What one call does -/

section Calls

variable (s : SensorState) (c : Client)

/-- What a clear leaves alone. -/
structure Cleared (s s' : SensorState) : Prop where
  sample : s'.sample = s.sample
  accumulator : s'.accumulator = s.accumulator
  updateTag : s'.updateTag = s.updateTag
  resetPending : s'.resetPending = s.resetPending

variable {s} in
theorem Cleared.trans {t u : SensorState} (h₁ : Cleared s t) (h₂ : Cleared t u) : Cleared s u where
  sample := h₂.sample.trans h₁.sample
  accumulator := h₂.accumulator.trans h₁.accumulator
  updateTag := h₂.updateTag.trans h₁.updateTag
  resetPending := h₂.resetPending.trans h₁.resetPending

variable (clearType : BitVec 32)

variable {s} {c} in
theorem cleared_stage {t : SensorState} {p : Prop} [Decidable p] (hc : Cleared s t) (hown : t.marks c = emptyMarks)
    (hother : ∀ d, d ≠ c → t.marks d = s.marks d) :
    Cleared s (if p then t else s) ∧
      ∀ d, (if p then t else s).marks d = if d = c ∧ p then emptyMarks else s.marks d := by
  by_cases h : p
  · rw [if_pos h]
    refine ⟨hc, fun d => ?_⟩
    by_cases hd : d = c
    · rw [if_pos ⟨hd, h⟩, hd, hown]
    · rw [if_neg fun hn => hd hn.1, hother d hd]
  · rw [if_neg h]
    exact ⟨⟨rfl, rfl, rfl, rfl⟩, fun d => (if_neg fun hd => h hd.2).symm⟩

theorem clearSample_spec : Cleared s (s.clearSample clearType) ∧ ∀ d, (s.clearSample clearType).marks d =
    if d = .sample ∧ clearType &&& clearSampleMinmax ≠ 0 then emptyMarks else s.marks d := by
  unfold SensorState.clearSample
  apply cleared_stage
  · exact ⟨rfl, rfl, rfl, rfl⟩
  · rfl
  · rintro (_ | _ | _ | _) hd
    exacts [absurd rfl hd, rfl, rfl, rfl]

theorem clearCsm_spec : Cleared s (s.clearCsm clearType) ∧ ∀ d, (s.clearCsm clearType).marks d =
    if d = .csm ∧ clearType &&& clearCsmSampleMinmax ≠ 0 then emptyMarks else s.marks d := by
  unfold SensorState.clearCsm
  apply cleared_stage
  · exact ⟨rfl, rfl, rfl, rfl⟩
  · rfl
  · rintro (_ | _ | _ | _) hd
    exacts [rfl, absurd rfl hd, rfl, rfl]

theorem clearProfiler_spec : Cleared s (s.clearProfiler clearType) ∧ ∀ d, (s.clearProfiler clearType).marks d =
    if d = .profiler ∧ clearType &&& clearProfilerSampleMinmax ≠ 0 then emptyMarks else s.marks d := by
  unfold SensorState.clearProfiler
  apply cleared_stage
  · exact ⟨rfl, rfl, rfl, rfl⟩
  · rfl
  · rintro (_ | _ | _ | _) hd
    exacts [rfl, rfl, absurd rfl hd, rfl]

theorem clearJobS_spec : Cleared s (s.clearJobS clearType) ∧ ∀ d, (s.clearJobS clearType).marks d =
    if d = .jobS ∧ clearType &&& clearJobSSampleMinmax ≠ 0 then emptyMarks else s.marks d := by
  unfold SensorState.clearJobS
  apply cleared_stage
  · exact ⟨rfl, rfl, rfl, rfl⟩
  · rfl
  · rintro (_ | _ | _ | _) hd
    exacts [rfl, rfl, rfl, absurd rfl hd]

theorem cleared_clearMinmax : Cleared s (s.clearMinmax clearType) :=
  ((((clearSample_spec s clearType).1).trans (clearCsm_spec _ clearType).1).trans
    (clearProfiler_spec _ clearType).1).trans (clearJobS_spec _ clearType).1

theorem marks_clearMinmax :
    (s.clearMinmax clearType).marks c = if clearType &&& c.clearType ≠ 0 then emptyMarks else s.marks c := by
  rw [SensorState.clearMinmax, (clearJobS_spec _ clearType).2, (clearProfiler_spec _ clearType).2,
    (clearCsm_spec _ clearType).2, (clearSample_spec _ clearType).2]
  cases c <;> simp only [reduceCtorEq, false_and, true_and, if_false, Client.clearType] <;> congr

theorem marks_reset : s.reset.marks c = emptyMarks := by
  have h := marks_clearMinmax
    { s with timestamp := 0, accumulator := 0, sample := 0, miniSensor := s.miniSensor.map fun _ => 0 } c
    clearAllMinmax
  have hall : clearAllMinmax &&& c.clearType ≠ 0 := by cases c <;> decide
  rw [if_pos hall] at h
  cases c <;> exact h

theorem resetPending_reset : s.reset.resetPending = false := rfl

theorem updateTag_reset : s.reset.updateTag = s.updateTag := (cleared_clearMinmax _ clearAllMinmax).updateTag

theorem sample_reset : s.reset.sample = 0 := (cleared_clearMinmax _ clearAllMinmax).sample

theorem accumulator_reset : s.reset.accumulator = 0 := (cleared_clearMinmax _ clearAllMinmax).accumulator

/-- The sensor that the fields of an update are stored in. -/
def SensorState.opened : SensorState := if s.resetPending then s.reset else s

variable (tod : BitVec 64) (value : BitVec 16)

theorem marks_update : (s.update tod value).marks c = (s.opened.marks c).note value.toNat := by
  have hlow : ∀ m : BitVec 16, (if value < m then value else m).toNat = if value.toNat < m.toNat then value.toNat
      else m.toNat := fun m => apply_ite BitVec.toNat (value < m) value m
  have hhigh : ∀ m : BitVec 16, (if m < value then value else m).toNat = if m.toNat < value.toNat then value.toNat
      else m.toNat := fun m => apply_ite BitVec.toNat (m < value) value m
  cases c <;> exact Marks.ext (hlow _) (hhigh _)

theorem sample_update : (s.update tod value).sample = value := rfl

theorem accumulator_update :
    (s.update tod value).accumulator = s.opened.accumulator + value.setWidth 64 := rfl

theorem updateTag_opened : s.opened.updateTag = s.updateTag := by
  unfold SensorState.opened
  split_ifs
  · exact updateTag_reset s
  · rfl

theorem updateTag_update : (s.update tod value).updateTag = s.updateTag + 1 :=
  congrArg (· + 1) (updateTag_opened s)

theorem resetPending_opened : s.opened.resetPending = false := by
  unfold SensorState.opened
  split_ifs with h
  · exact resetPending_reset s
  · exact Bool.eq_false_iff.2 h

theorem resetPending_update : (s.update tod value).resetPending = false := resetPending_opened s

end Calls

/-! ## Runs -/

/-- The law, with what a pending reset says of the calls so far. -/
structure SensorInv (ops : List SensorOp) (s : SensorState) : Prop extends SensorLaw ops s where
  pending : s.resetPending = true ↔ ∀ op ∈ ops, op.opens = false

section Runs

variable {ops : List SensorOp} {s : SensorState} {c : Client}

theorem sensorInv_init (gsid : BitVec 16) (miniSensor : Option (BitVec 16)) :
    SensorInv [] (sensorInit gsid miniSensor) where
  sample := rfl
  accumulator := rfl
  updateTag := rfl
  marks := by rintro c ⟨op, hop, -⟩; cases hop
  fresh := by rintro (_ | _ | _ | _) - <;> rfl
  pending := ⟨fun _ op hop => absurd hop List.not_mem_nil, fun _ => rfl⟩

theorem since_eq_nil {stop : SensorOp → Bool} (h : ∀ op ∈ ops, op.opens = false) :
    since stop SensorOp.value ops = [] := by
  rw [since, List.filterMap_eq_nil_iff]
  intro op hop
  have hmem : op ∈ ops := (List.rtakeWhile_suffix _ ops).subset hop
  have := h op hmem
  cases op with
  | update tod v => cases this
  | _ => rfl

theorem forall_concat {P : SensorOp → Prop} {op : SensorOp} :
    (∀ o ∈ ops ++ [op], P o) ↔ (∀ o ∈ ops, P o) ∧ P op := by
  rw [List.forall_mem_append, List.forall_mem_singleton]

theorem SensorInv.opened (h : SensorInv ops s) :
    s.opened.accumulator.toNat = (since SensorOp.resets SensorOp.value ops).sum % 2 ^ 64 ∧
      ∀ c, Marks.Of emptyMarks (since (SensorOp.clears c) SensorOp.value ops) (s.opened.marks c) := by
  unfold SensorState.opened
  by_cases hp : s.resetPending
  · have hno := h.pending.1 hp
    rw [if_pos hp, accumulator_reset, since_eq_nil hno]
    refine ⟨rfl, fun c => ?_⟩
    rw [since_eq_nil hno, marks_reset]
    exact Marks.Of.clear emptyMarks
  · rw [if_neg hp]
    refine ⟨h.accumulator, fun c => h.marks c ?_⟩
    have hsome : ∃ op ∈ ops, op.opens = true := by
      by_contra hnone
      simp only [not_exists, not_and, Bool.not_eq_true] at hnone
      exact hp (h.pending.2 hnone)
    obtain ⟨op, hop, ho⟩ := hsome
    exact ⟨op, hop, by rw [SensorOp.starts, ho, Bool.true_or]⟩

theorem SensorInv.update (h : SensorInv ops s) (tod : BitVec 64) (value : BitVec 16) :
    SensorInv (ops ++ [.update tod value]) (s.update tod value) := by
  obtain ⟨hacc, hmarks⟩ := h.opened
  have hsince : ∀ stop : SensorOp → Bool, stop (.update tod value) = false →
      since stop SensorOp.value (ops ++ [.update tod value]) = since stop SensorOp.value ops ++ [value.toNat] :=
    fun stop hstop => since_value stop SensorOp.value ops hstop rfl
  refine ⟨⟨?_, ?_, ?_, fun c _ => ?_, fun c hnone => ?_⟩, ?_⟩
  · rw [hsince _ rfl, List.getLast?_concat, sample_update]
    rfl
  · rw [hsince _ rfl, List.sum_append, List.sum_singleton, accumulator_update, BitVec.toNat_add, hacc,
      BitVec.toNat_setWidth, Nat.add_mod_mod, Nat.mod_add_mod]
  · rw [List.filterMap_append, List.length_append, updateTag_update, BitVec.toNat_add, h.updateTag]
    exact Nat.mod_add_mod _ _ _
  · have hv := value.isLt
    rw [hsince _ rfl, marks_update]
    exact (hmarks c).note (by simp only [emptyMarks]; omega) (Nat.zero_le _)
  · cases (forall_concat.1 hnone).2
  · rw [resetPending_update, forall_concat]
    exact iff_of_false Bool.false_ne_true fun hno => Bool.noConfusion hno.2

theorem SensorInv.reset (h : SensorInv ops s) : SensorInv (ops ++ [.reset]) s.reset := by
  have hsince : ∀ stop : SensorOp → Bool, stop .reset = true → since stop SensorOp.value (ops ++ [.reset]) = [] :=
    fun stop hstop => since_stop stop SensorOp.value ops hstop
  refine ⟨⟨?_, ?_, ?_, fun c _ => ?_, fun c hnone => ?_⟩, ?_⟩
  · rw [hsince _ rfl, sample_reset]
    rfl
  · rw [hsince _ rfl, accumulator_reset]
    rfl
  · rw [updateTag_reset, h.updateTag, List.filterMap_append, List.length_append]
    rfl
  · rw [hsince _ rfl, marks_reset]
    exact Marks.Of.clear emptyMarks
  · cases (forall_concat.1 hnone).2
  · rw [resetPending_reset, forall_concat]
    exact iff_of_false Bool.false_ne_true fun hno => Bool.noConfusion hno.2

/-- A call that stores no value and resets nothing. -/
theorem SensorInv.quiet {s' : SensorState} {op : SensorOp} (h : SensorInv ops s) (hc : Cleared s s')
    (hquiet : op.opens = false)
    (hmarks : ∀ c, s'.marks c = if op.clears c then emptyMarks else s.marks c) : SensorInv (ops ++ [op]) s' := by
  have hvalue : op.value = none := by cases op <;> first | rfl | cases hquiet
  have hresets : op.resets = false := by cases op <;> first | rfl | cases hquiet
  refine ⟨⟨?_, ?_, ?_, fun c hsome => ?_, fun c hnone => ?_⟩, ?_⟩
  · rw [since_skip _ _ _ hresets hvalue, hc.sample, h.sample]
  · rw [since_skip _ _ _ hresets hvalue, hc.accumulator, h.accumulator]
  · rw [List.filterMap_append, List.filterMap_cons_none hvalue, List.filterMap_nil, List.append_nil, hc.updateTag,
      h.updateTag]
  · rw [hmarks c]
    by_cases hclears : op.clears c
    · rw [if_pos hclears, since_stop _ _ _ hclears]
      exact Marks.Of.clear emptyMarks
    · rw [if_neg hclears, since_skip _ _ _ (Bool.eq_false_iff.2 hclears) hvalue]
      apply h.marks c
      obtain ⟨o, ho, hs⟩ := hsome
      rcases List.mem_append.1 ho with ho | ho
      · exact ⟨o, ho, hs⟩
      · rw [List.mem_singleton.1 ho, SensorOp.starts, hquiet, Bool.false_or] at hs
        exact absurd hs hclears
  · obtain ⟨hall, hop⟩ := forall_concat.1 hnone
    rw [SensorOp.starts, hquiet, Bool.false_or] at hop
    rw [hmarks c, if_neg (by rw [hop]; exact Bool.false_ne_true), h.fresh c hall]
  · rw [hc.resetPending, forall_concat, h.pending, and_iff_left hquiet]

theorem SensorInv.step (h : SensorInv ops s) (op : SensorOp) : SensorInv (ops ++ [op]) (s.step op) := by
  cases op with
  | update tod value => exact h.update tod value
  | reset => exact h.reset
  | clearMinmax clearType =>
    apply h.quiet (cleared_clearMinmax s clearType) rfl
    intro c
    simp only [marks_clearMinmax, SensorOp.clears, decide_eq_true_eq]
  | vectorize op =>
    have hmarks : ∀ c, (s.vectorize op).marks c =
        if (SensorOp.vectorize op).clears c then emptyMarks else s.marks c := by
      rintro (_ | _ | _ | _) <;> rfl
    exact h.quiet ⟨rfl, rfl, rfl, rfl⟩ rfl hmarks

theorem sensorInv_run (gsid : BitVec 16) (miniSensor : Option (BitVec 16)) (ops : List SensorOp) :
    SensorInv ops ((sensorInit gsid miniSensor).run ops) := by
  induction ops using List.reverseRecOn with
  | nil => exact sensorInv_init gsid miniSensor
  | append_singleton ops op ih =>
    rw [SensorState.run_concat]
    exact ih.step op

/-- After every sequence of calls, a sensor holds what its history says. -/
theorem sensorLaw_run (gsid : BitVec 16) (miniSensor : Option (BitVec 16)) (ops : List SensorOp) :
    SensorLaw ops ((sensorInit gsid miniSensor).run ops) := (sensorInv_run gsid miniSensor ops).toSensorLaw

/-- Sixty-five thousand updates with the largest value carry the accumulator past 32 bits, which it keeps. -/
theorem accumulator_past_uint32 :
    ((sensorInit 0 none).run (List.replicate 65538 (.update 0 0xFFFF))).accumulator.toNat ≠
      (since SensorOp.resets SensorOp.value (List.replicate 65538 (.update 0 0xFFFF))).sum % 2 ^ 32 := by
  have hsince : since SensorOp.resets SensorOp.value (List.replicate 65538 (.update 0 0xFFFF)) =
      List.replicate 65538 65535 := by
    rw [since, List.rtakeWhile_eq_self_iff.2, List.filterMap_replicate_of_some (b := 65535)]
    · rfl
    · intro op hop
      rw [List.eq_of_mem_replicate hop]
      rfl
  have hsum : (List.replicate 65538 65535).sum = 4295032830 := by rw [List.sum_replicate_nat]
  rw [(sensorInv_run 0 none _).accumulator, hsince, hsum]
  decide

end Runs

end Occ.Sensor
