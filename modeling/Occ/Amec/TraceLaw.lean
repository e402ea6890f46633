/-
The recorder of the trace buffers stays inside the buffers, as long as no set-config command names a trace that does not
exist, is empty, or is rejected in the middle on a trace that is set up, and no tick records into a trace that is being
rewritten.
-/
import Occ.Amec.TraceBuffer

namespace Occ.Amec.Tb

open Transition
open Function (update)

/-! ## The law -/

/-- The configuration of a trace, without what the recorder changes. -/
structure SameConfig (t u : Trace) : Prop where
  entrySize : u.entrySize = t.entrySize
  entryN : u.entryN = t.entryN
  sensorsN : u.sensorsN = t.sensorsN
  parmN : u.parmN = t.parmN
  sensors : ∀ i < t.sensorsN, u.sensorsNum i = t.sensorsNum i ∧ u.sensorsField i = t.sensorsField i
  parms : ∀ i < t.parmN, u.parmNum i = t.parmNum i

theorem SameConfig.refl (t : Trace) : SameConfig t t :=
  ⟨rfl, rfl, rfl, rfl, fun _ _ => ⟨rfl, rfl⟩, fun _ _ => rfl⟩

/-- Recording stays in its bounds. -/
structure TraceLaw (h : History) : Prop where
  contained : ∀ e ∈ h.entries, ∀ k < e.length, e.guid.base ≤ e.start + k ∧ e.start + k < e.guid.base + e.guid.size
  entries : ∀ e ∈ h.entries, e.length = e.entrySize ∧ e.entryN * e.entrySize ≤ e.guid.size
  indices : ∀ i ∈ h.indices, i < numberOfTraces
  nullUsed : h.nullUsed = false
  dividedByZero : h.dividedByZero = false
  rejected : ∀ r ∈ h.rejected, SameConfig r.1 r.2 ∨ r.2.entryN = 0

/-! ## The condition -/

/-- A set-config command that passes the checks on its sensors and parameters. -/
def Cmd.Valid (c : Chip) (cmd : Cmd) : Prop :=
  cmd.parmN ≤ parmMax ∧ (∀ i < cmd.sensorsN, cmd.sensorNum i < c.sensorCount ∧ cmd.sensorField i ≤ 6) ∧
    ∀ i < cmd.parmN, cmd.parm i < numberOfParameters

instance (c : Chip) (cmd : Cmd) : Decidable (cmd.Valid c) := inferInstanceAs (Decidable (_ ∧ _ ∧ _))

/-- A trace is between the first store of its set-config command and the division. -/
def State.rewriting (s : State) (i : Nat) : Bool :=
  match s.setConfig with
  | none => false
  | some cf =>
    decide (cf.trace = some i) && (decide (Store.entryN ∈ cf.todo) && decide (cf.todo.head? ≠ some .clearEntrySize))

/-- The condition on a step. -/
def TbOk (c : Chip) (s : State) : Event → Prop
  | .setConfig cmd => cmd.refusal ≠ none ∨
      (cmd.guid < numberOfTraces ∧
        if cmd.Valid c then cmd.sensorsN ≠ 0 ∨ cmd.parmN ≠ 0 else (s.list cmd.guid).entryN = 0)
  | .read cmd => cmd.guid ≠ numberOfTraces
  | .getConfig cmd => cmd.guid ≠ numberOfTraces
  | .tick guid _ => ¬(s.records guid.index = true ∧ s.rewriting guid.index = true)
  | _ => True

instance (c : Chip) (s : State) : ∀ e, Decidable (TbOk c s e)
  | .setConfig cmd => inferInstanceAs (Decidable (cmd.refusal ≠ none ∨ (cmd.guid < numberOfTraces ∧
      if cmd.Valid c then cmd.sensorsN ≠ 0 ∨ cmd.parmN ≠ 0 else (s.list cmd.guid).entryN = 0)))
  | .read cmd | .getConfig cmd => inferInstanceAs (Decidable (cmd.guid ≠ numberOfTraces))
  | .tick guid _ => inferInstanceAs (Decidable ¬(s.records guid.index = true ∧ s.rewriting guid.index = true))
  | .store | .startRecording | .stopRecording | .slaveInbox _ => inferInstanceAs (Decidable True)

/-! ## The stores of a command -/

section Stores

variable {c : Chip} {cmd : Cmd} {t u : Trace} {k i : Nat}

/-- Stores one after another. -/
def applyAll (c : Chip) (sts : List Store) (t : Trace) : Trace := sts.foldl (fun t st => st.apply c t) t

@[simp] theorem applyAll_nil : applyAll c [] t = t := rfl

@[simp] theorem applyAll_cons (st : Store) (sts : List Store) :
    applyAll c (st :: sts) t = applyAll c sts (st.apply c t) := rfl

theorem applyAll_append (xs ys : List Store) : applyAll c (xs ++ ys) t = applyAll c ys (applyAll c xs t) :=
  List.foldl_append

/-- The sensors of a command pass their checks from `i` on. -/
def Cmd.SensorsValid (c : Chip) (cmd : Cmd) (k i : Nat) : Prop :=
  ∀ j, i ≤ j → j < i + k → cmd.sensorNum j < c.sensorCount ∧ cmd.sensorField j ≤ 6

def Cmd.ParmsValid (cmd : Cmd) (k i : Nat) : Prop :=
  ∀ j, i ≤ j → j < i + k → cmd.parm j < numberOfParameters

theorem sensorLoop_bad : (sensorLoop c cmd k i).2 = none ↔ cmd.SensorsValid c k i := by
  induction k generalizing i with
  | zero =>
    constructor
    · intro _ j hj hj'
      omega
    · intro _
      rfl
  | succ k ih =>
    by_cases hnum : c.sensorCount ≤ cmd.sensorNum i
    · have hbad : (sensorLoop c cmd (k + 1) i).2 = some (Cmd.numIndex i) := by simp [sensorLoop, hnum]
      rw [hbad]
      refine ⟨nofun, fun h => ?_⟩
      have := (h i (Nat.le_refl i) (by omega)).1
      omega
    by_cases hfield : 6 < cmd.sensorField i
    · have hbad : (sensorLoop c cmd (k + 1) i).2 = some (cmd.fieldIndex i) := by simp [sensorLoop, hnum, hfield]
      rw [hbad]
      refine ⟨nofun, fun h => ?_⟩
      have := (h i (Nat.le_refl i) (by omega)).2
      omega
    have hrest : (sensorLoop c cmd (k + 1) i).2 = (sensorLoop c cmd k (i + 1)).2 := by
      simp [sensorLoop, hnum, hfield]
    rw [hrest, ih]
    constructor
    · intro h j hj hj'
      rcases Nat.eq_or_lt_of_le hj with rfl | hlt
      · exact ⟨by omega, by omega⟩
      · exact h j hlt (by omega)
    · intro h j hj hj'
      exact h j (by omega) (by omega)

theorem parmLoop_bad : (parmLoop cmd k i).2 = none ↔ cmd.ParmsValid k i := by
  induction k generalizing i with
  | zero =>
    constructor
    · intro _ j hj hj'
      omega
    · intro _
      rfl
  | succ k ih =>
    by_cases hnum : numberOfParameters ≤ cmd.parm i
    · have hbad : (parmLoop cmd (k + 1) i).2 = some (cmd.parmIndex i) := by simp [parmLoop, hnum]
      rw [hbad]
      refine ⟨nofun, fun h => ?_⟩
      have := h i (Nat.le_refl i) (by omega)
      omega
    have hrest : (parmLoop cmd (k + 1) i).2 = (parmLoop cmd k (i + 1)).2 := by simp [parmLoop, hnum]
    rw [hrest, ih]
    constructor
    · intro h j hj hj'
      rcases Nat.eq_or_lt_of_le hj with rfl | hlt
      · omega
      · exact h j hlt (by omega)
    · intro h j hj hj'
      exact h j (by omega) (by omega)

theorem setConfigStores_bad : (setConfigStores c cmd).2 = none ↔ cmd.Valid c := by
  have hsensors := @sensorLoop_bad c cmd cmd.sensorsN 0
  have hparms := @parmLoop_bad cmd cmd.parmN 0
  simp only [Cmd.SensorsValid, Cmd.ParmsValid, Nat.zero_le, Nat.zero_add, forall_const] at hsensors hparms
  unfold Cmd.Valid
  rw [← hsensors, ← hparms]
  unfold setConfigStores
  rcases hs : sensorLoop c cmd cmd.sensorsN 0 with ⟨sensors, bad⟩
  rcases hp : parmLoop cmd cmd.parmN 0 with ⟨parms, bad'⟩
  rcases bad with _ | bad
  · by_cases hmax : parmMax < cmd.parmN
    · simp only [ne_eq, not_true_eq_false, if_false, if_pos hmax]
      exact ⟨nofun, fun h => absurd h.1 (by omega)⟩
    · rcases bad' with _ | bad'
      · simp only [ne_eq, not_true_eq_false, if_false, if_neg hmax]
        exact ⟨fun _ => ⟨by omega, trivial, trivial⟩, fun _ => trivial⟩
      · simp [hmax]
  · simp

theorem mem_sensorLoop {st : Store} (h : st ∈ (sensorLoop c cmd k i).1) : st ≠ .clearEntrySize ∧ st ≠ .entryN := by
  induction k generalizing i with
  | zero => exact absurd h List.not_mem_nil
  | succ k ih =>
    simp only [sensorLoop] at h
    split at h
    · simp only [List.mem_cons, List.not_mem_nil, or_false] at h
      rcases h with rfl | rfl <;> exact ⟨nofun, nofun⟩
    split at h
    · simp only [List.mem_cons, List.not_mem_nil, or_false] at h
      rcases h with rfl | rfl <;> exact ⟨nofun, nofun⟩
    · simp only [List.cons_append, List.nil_append, List.mem_cons] at h
      rcases h with rfl | rfl | rfl | h
      iterate 3 exact ⟨nofun, nofun⟩
      exact ih h

theorem mem_parmLoop {st : Store} (h : st ∈ (parmLoop cmd k i).1) : st ≠ .clearEntrySize ∧ st ≠ .entryN := by
  induction k generalizing i with
  | zero => exact absurd h List.not_mem_nil
  | succ k ih =>
    simp only [parmLoop] at h
    split at h
    · rw [List.mem_singleton] at h
      subst h
      exact ⟨nofun, nofun⟩
    · simp only [List.mem_cons] at h
      rcases h with rfl | rfl | h
      iterate 2 exact ⟨nofun, nofun⟩
      exact ih h

/-- The stores of a valid command between the first one and the division. -/
def configStores (c : Chip) (cmd : Cmd) : List Store :=
  (sensorLoop c cmd cmd.sensorsN 0).1 ++ .sensorsN cmd.sensorsN :: ((parmLoop cmd cmd.parmN 0).1 ++ [.parmN cmd.parmN])

theorem setConfigStores_valid (h : cmd.Valid c) :
    (setConfigStores c cmd).1 = .clearEntrySize :: configStores c cmd ++ [.entryN, .clearRead, .clearWrite] := by
  obtain ⟨hmax, hsensors, hparms⟩ := h
  have hs : (sensorLoop c cmd cmd.sensorsN 0).2 = none := sensorLoop_bad.2 fun j _ hj => hsensors j (by omega)
  have hp : (parmLoop cmd cmd.parmN 0).2 = none := parmLoop_bad.2 fun j _ hj => hparms j (by omega)
  simp [setConfigStores, configStores, hs, hp, Nat.not_lt.2 hmax]

theorem mem_configStores {st : Store} (h : st ∈ configStores c cmd) : st ≠ .clearEntrySize ∧ st ≠ .entryN := by
  simp only [configStores, List.mem_append, List.mem_cons, List.not_mem_nil, or_false] at h
  rcases h with h | rfl | h | rfl
  · exact mem_sensorLoop h
  · exact ⟨nofun, nofun⟩
  · exact mem_parmLoop h
  · exact ⟨nofun, nofun⟩

theorem setConfigStores_invalid (h : ¬cmd.Valid c) : ∃ sts, (setConfigStores c cmd).1 = .clearEntrySize :: sts ∧
    ∀ st ∈ sts, st ≠ .clearEntrySize ∧ st ≠ .entryN := by
  rw [← setConfigStores_bad] at h
  unfold setConfigStores at h ⊢
  dsimp only at h ⊢
  split
  · exact ⟨_, rfl, fun st hst => mem_sensorLoop hst⟩
  split
  · exact ⟨_, rfl, fun st hst => mem_sensorLoop hst⟩
  split
  · refine ⟨_, List.cons_append, fun st hst => ?_⟩
    rcases List.mem_append.1 hst with hst | hst
    · exact mem_sensorLoop hst
    rcases List.mem_cons.1 hst with rfl | hst
    · exact ⟨nofun, nofun⟩
    · exact mem_parmLoop hst
  · simp_all

/-! ## What a command leaves -/

/-- The sensors from `i` on are stored, and nothing else. -/
structure SensorsStored (cmd : Cmd) (k i : Nat) (t u : Trace) : Prop where
  entrySize : u.entrySize = t.entrySize + ((List.range' i k).map fun j => fieldSize (cmd.sensorField j)).sum
  sensors : ∀ j, i ≤ j → j < i + k → u.sensorsNum j = cmd.sensorNum j ∧ u.sensorsField j = cmd.sensorField j
  earlier : ∀ j, j < i → u.sensorsNum j = t.sensorsNum j ∧ u.sensorsField j = t.sensorsField j
  rest : u = { t with entrySize := u.entrySize, sensorsNum := u.sensorsNum, sensorsField := u.sensorsField }

structure ParmsStored (cmd : Cmd) (k i : Nat) (t u : Trace) : Prop where
  entrySize : u.entrySize = t.entrySize + ((List.range' i k).map fun j => parmSize (cmd.parm j)).sum
  parms : ∀ j, i ≤ j → j < i + k → u.parmNum j = cmd.parm j
  earlier : ∀ j, j < i → u.parmNum j = t.parmNum j
  rest : u = { t with entrySize := u.entrySize, parmNum := u.parmNum }

theorem sensorLoop_stored (h : cmd.SensorsValid c k i) :
    SensorsStored cmd k i t (applyAll c (sensorLoop c cmd k i).1 t) := by
  induction k generalizing i t with
  | zero => exact ⟨rfl, fun j hj hj' => by omega, fun _ _ => ⟨rfl, rfl⟩, rfl⟩
  | succ k ih =>
    obtain ⟨hnum, hfield⟩ := h i (Nat.le_refl i) (by omega)
    have hloop : (sensorLoop c cmd (k + 1) i).1 =
        .sensorsNum i (cmd.sensorNum i) :: .sensorsField i (cmd.sensorField i) ::
          .addEntrySize (fieldSize (cmd.sensorField i)) :: (sensorLoop c cmd k (i + 1)).1 := by
      simp [sensorLoop, Nat.not_le.2 hnum, Nat.not_lt.2 hfield]
    rw [hloop, applyAll_cons, applyAll_cons, applyAll_cons]
    have hstored := ih (i := i + 1)
      (t := { t with entrySize := t.entrySize + fieldSize (cmd.sensorField i),
                     sensorsNum := update t.sensorsNum i (cmd.sensorNum i),
                     sensorsField := update t.sensorsField i (cmd.sensorField i) })
      fun j hj hj' => h j (by omega) (by omega)
    refine ⟨?_, fun j hj hj' => ?_, fun j hj => ?_, ?_⟩
    · refine hstored.entrySize.trans ?_
      rw [List.range'_succ, List.map_cons, List.sum_cons]
      exact Nat.add_assoc _ _ _
    · rcases Nat.eq_or_lt_of_le hj with rfl | hlt
      · obtain ⟨hn, hf⟩ := hstored.earlier i (Nat.lt_succ_self i)
        exact ⟨hn.trans (Function.update_self ..), hf.trans (Function.update_self ..)⟩
      · exact hstored.sensors j hlt (by omega)
    · obtain ⟨hn, hf⟩ := hstored.earlier j (by omega)
      exact ⟨hn.trans (Function.update_of_ne (by omega) ..), hf.trans (Function.update_of_ne (by omega) ..)⟩
    · exact hstored.rest

theorem parmLoop_stored (h : cmd.ParmsValid k i) : ParmsStored cmd k i t (applyAll c (parmLoop cmd k i).1 t) := by
  induction k generalizing i t with
  | zero => exact ⟨rfl, fun j hj hj' => by omega, fun _ _ => rfl, rfl⟩
  | succ k ih =>
    have hnum := h i (Nat.le_refl i) (by omega)
    have hloop : (parmLoop cmd (k + 1) i).1 =
        .parmNum i (cmd.parm i) :: .addEntrySize (parmSize (cmd.parm i)) :: (parmLoop cmd k (i + 1)).1 := by
      simp [parmLoop, Nat.not_le.2 hnum]
    rw [hloop, applyAll_cons, applyAll_cons]
    have hstored := ih (i := i + 1)
      (t := { t with entrySize := t.entrySize + parmSize (cmd.parm i),
                     parmNum := update t.parmNum i (cmd.parm i) })
      fun j hj hj' => h j (by omega) (by omega)
    refine ⟨?_, fun j hj hj' => ?_, fun j hj => ?_, ?_⟩
    · refine hstored.entrySize.trans ?_
      rw [List.range'_succ, List.map_cons, List.sum_cons]
      exact Nat.add_assoc _ _ _
    · rcases Nat.eq_or_lt_of_le hj with rfl | hlt
      · exact (hstored.earlier i (Nat.lt_succ_self i)).trans (Function.update_self ..)
      · exact hstored.parms j hlt (by omega)
    · exact (hstored.earlier j (by omega)).trans (Function.update_of_ne (by omega) ..)
    · exact hstored.rest

theorem configStores_stored (h : cmd.Valid c) (hu : applyAll c (.clearEntrySize :: configStores c cmd) t = u) :
    u.sensorsN = cmd.sensorsN ∧ u.parmN = cmd.parmN ∧
      (∀ j < cmd.sensorsN, u.sensorsNum j = cmd.sensorNum j ∧ u.sensorsField j = cmd.sensorField j) ∧
      (∀ j < cmd.parmN, u.parmNum j = cmd.parm j) ∧
      u.entrySize = ((List.range cmd.sensorsN).map fun j => fieldSize (cmd.sensorField j)).sum +
        ((List.range cmd.parmN).map fun j => parmSize (cmd.parm j)).sum := by
  obtain ⟨-, hsensors, hparms⟩ := h
  rw [applyAll_cons, configStores, applyAll_append, applyAll_cons, applyAll_append, applyAll_cons, applyAll_nil] at hu
  have hs := @sensorLoop_stored c cmd (Store.clearEntrySize.apply c t) cmd.sensorsN 0 fun j _ hj => hsensors j (by omega)
  generalize applyAll c (sensorLoop c cmd cmd.sensorsN 0).1 (Store.clearEntrySize.apply c t) = v at hs hu
  have hp := @parmLoop_stored c cmd ((Store.sensorsN cmd.sensorsN).apply c v) cmd.parmN 0 fun j _ hj => hparms j (by omega)
  generalize applyAll c (parmLoop cmd cmd.parmN 0).1 ((Store.sensorsN cmd.sensorsN).apply c v) = w at hp hu
  subst hu
  have hw := hp.rest
  refine ⟨congrArg Trace.sensorsN hw, rfl, fun j hj => ?_, fun j hj => hp.parms j (Nat.zero_le j) (by omega), ?_⟩
  · obtain ⟨hnum, hfield⟩ := hs.sensors j (Nat.zero_le j) (by omega)
    exact ⟨(congrFun (congrArg Trace.sensorsNum hw) j).trans hnum,
      (congrFun (congrArg Trace.sensorsField hw) j).trans hfield⟩
  · have hsize : v.entrySize = ((List.range cmd.sensorsN).map fun j => fieldSize (cmd.sensorField j)).sum := by
      rw [hs.entrySize, List.range_eq_range']
      exact Nat.zero_add _
    refine hp.entrySize.trans ?_
    rw [List.range_eq_range' (n := cmd.parmN), ← hsize]
    rfl

end Stores

/-! ## Traces that agree with themselves -/

/-- The bytes of an entry, as the lists of a trace say. -/
def Trace.layoutSize (t : Trace) : Nat :=
  ((List.range t.sensorsN).map fun j => fieldSize (t.sensorsField j)).sum +
    ((List.range t.parmN).map fun j => parmSize (t.parmNum j)).sum

/-- The four parts of a configuration agree. -/
structure Trace.Consistent (c : Chip) (t : Trace) : Prop where
  sensors : ∀ i < t.sensorsN, t.sensorsNum i < c.sensorCount ∧ t.sensorsField i ≤ 6
  parms : ∀ i < t.parmN, t.parmNum i < numberOfParameters
  entrySize : t.entrySize = t.layoutSize
  fits : t.entryN * t.entrySize ≤ t.size

/-- A trace is disabled, or its configuration is consistent. -/
def Trace.Settled (c : Chip) (t : Trace) : Prop := t.entryN = 0 ∨ t.Consistent c

theorem length_fieldBytes (x : Inputs) (num field : Nat) : (x.fieldBytes num field).length = fieldSize field := by
  unfold Inputs.fieldBytes fieldSize
  split <;> simp

theorem length_parmBytes (x : Inputs) {p : Nat} (h : p < numberOfParameters) : (x.parmBytes p).length = parmSize p := by
  simp [Inputs.parmBytes, h]

theorem length_entryBytes (x : Inputs) {c : Chip} {t : Trace} (h : t.Consistent c) :
    (x.entryBytes t).length = t.entrySize := by
  rw [h.entrySize, Inputs.entryBytes, List.length_append, List.length_flatMap, List.length_flatMap, Trace.layoutSize]
  congr 2
  · exact List.map_congr_left fun i _ => length_fieldBytes x _ _
  · exact List.map_congr_left fun i hi => length_parmBytes x (h.parms i (List.mem_range.1 hi))

theorem fieldSize_pos {f : Nat} (h : f ≤ 6) : 0 < fieldSize f := by
  have hall : ∀ f ≤ 6, 0 < fieldSize f := by decide
  exact hall f h

theorem parmSize_pos {p : Nat} (h : p < numberOfParameters) : 0 < parmSize p := by
  have hall : ∀ p < numberOfParameters, 0 < parmSize p := by decide
  exact hall p h

theorem configStores_layout {c : Chip} {cmd : Cmd} {t u : Trace} (h : cmd.Valid c) (hsome : cmd.sensorsN ≠ 0 ∨ cmd.parmN ≠ 0)
    (hu : applyAll c (.clearEntrySize :: configStores c cmd) t = u) :
    (∀ i < u.sensorsN, u.sensorsNum i < c.sensorCount ∧ u.sensorsField i ≤ 6) ∧
      (∀ i < u.parmN, u.parmNum i < numberOfParameters) ∧ u.entrySize = u.layoutSize ∧ 0 < u.entrySize := by
  obtain ⟨hsensorsN, hparmN, hsensors, hparms, hentry⟩ := configStores_stored h hu
  have hlayout : u.entrySize = u.layoutSize := by
    rw [hentry, Trace.layoutSize, hsensorsN, hparmN]
    congr 2
    · exact List.map_congr_left fun i hi => by rw [(hsensors i (List.mem_range.1 hi)).2]
    · exact List.map_congr_left fun i hi => by rw [hparms i (List.mem_range.1 hi)]
  refine ⟨fun i hi => ?_, fun i hi => ?_, hlayout, ?_⟩
  · rw [hsensorsN] at hi
    rw [(hsensors i hi).1, (hsensors i hi).2]
    exact h.2.1 i hi
  · rw [hparmN] at hi
    rw [hparms i hi]
    exact h.2.2 i hi
  · rw [hentry]
    rcases hsome with hs | hp
    · have hpos : 0 < ((List.range cmd.sensorsN).map fun j => fieldSize (cmd.sensorField j)).sum :=
        List.sum_pos_iff_exists_pos_nat.2 ⟨_, List.mem_map_of_mem (List.mem_range.2 (Nat.pos_of_ne_zero hs)),
          fieldSize_pos (h.2.1 0 (Nat.pos_of_ne_zero hs)).2⟩
      omega
    · have hpos : 0 < ((List.range cmd.parmN).map fun j => parmSize (cmd.parm j)).sum :=
        List.sum_pos_iff_exists_pos_nat.2 ⟨_, List.mem_map_of_mem (List.mem_range.2 (Nat.pos_of_ne_zero hp)),
          parmSize_pos (h.2.2 0 (Nat.pos_of_ne_zero hp))⟩
      omega

/-! ## Stores and the configuration -/

section Settled

variable {c : Chip} {t u : Trace} {st : Store} {cmd : Cmd}

/-- A trace without the entry it writes next. -/
def Trace.forget (t : Trace) : Trace := { t with write := 0 }

theorem Trace.consistent_forget : t.forget.Consistent c ↔ t.Consistent c :=
  ⟨fun h => ⟨h.sensors, h.parms, h.entrySize, h.fits⟩, fun h => ⟨h.sensors, h.parms, h.entrySize, h.fits⟩⟩

theorem Trace.settled_forget : t.forget.Settled c ↔ t.Settled c := or_congr Iff.rfl Trace.consistent_forget

theorem Trace.settled_congr (h : t.forget = u.forget) : t.Settled c ↔ u.Settled c := by
  rw [← Trace.settled_forget, h, Trace.settled_forget]

theorem Store.apply_forget : (st.apply c t.forget).forget = (st.apply c t).forget := by
  cases st <;> rfl

theorem Store.apply_congr (h : t.forget = u.forget) : (st.apply c t).forget = (st.apply c u).forget := by
  rw [← Store.apply_forget, h, Store.apply_forget]

@[simp] theorem Store.apply_bytes : (st.apply c t).bytes = t.bytes := by
  cases st <;> rfl

@[simp] theorem Store.apply_size : (st.apply c t).size = t.size := by
  cases st <;> rfl

theorem Store.apply_entryN (h : st ≠ .entryN) : (st.apply c t).entryN = t.entryN := by
  cases st <;> first | rfl | exact absurd rfl h

theorem consistent_entryN (h : cmd.Valid c) (hsome : cmd.sensorsN ≠ 0 ∨ cmd.parmN ≠ 0) :
    (Store.entryN.apply c (applyAll c (.clearEntrySize :: configStores c cmd) t)).Consistent c := by
  obtain ⟨hsensors, hparms, hlayout, hpos⟩ := configStores_layout (t := t) h hsome rfl
  refine ⟨hsensors, hparms, hlayout, ?_⟩
  simp only [Store.apply, if_neg (Nat.ne_of_gt hpos)]
  exact Nat.div_mul_le_self _ _

theorem consistent_tail {sts : List Store} (h : t.Consistent c) (hsts : ∀ st ∈ sts, st = .clearRead ∨ st = .clearWrite) :
    (applyAll c sts t).Consistent c := by
  induction sts generalizing t with
  | nil => exact h
  | cons st sts ih =>
    rw [applyAll_cons]
    refine ih ?_ fun st' hst' => hsts st' (List.mem_cons_of_mem _ hst')
    rcases hsts st List.mem_cons_self with rfl | rfl <;> exact ⟨h.sensors, h.parms, h.entrySize, h.fits⟩

theorem split_entryN (h : cmd.Valid c) {done todo : List Store}
    (hstores : (setConfigStores c cmd).1 = done ++ .entryN :: todo) :
    done = .clearEntrySize :: configStores c cmd ∧ todo = [.clearRead, .clearWrite] := by
  rw [setConfigStores_valid h] at hstores
  have hleft : Store.entryN ∉ Store.clearEntrySize :: configStores c cmd := by
    rintro (_ | ⟨-, hmem⟩)
    exact (mem_configStores hmem).2 rfl
  have hright : Store.entryN ∉ [Store.clearRead, Store.clearWrite] := by decide
  obtain ⟨hdone, -, htodo⟩ := (List.append_cons_inj_of_notMem hleft hright).1 hstores
  exact ⟨hdone.symm, htodo.symm⟩

theorem consistent_of_done (h : cmd.Valid c) (hsome : cmd.sensorsN ≠ 0 ∨ cmd.parmN ≠ 0) {done todo : List Store}
    (hstores : (setConfigStores c cmd).1 = done ++ todo) (hdone : .entryN ∉ todo) : (applyAll c done t).Consistent c := by
  have hmem : Store.entryN ∈ done := by
    have hin : Store.entryN ∈ (setConfigStores c cmd).1 := by simp [setConfigStores_valid h]
    rw [hstores, List.mem_append] at hin
    exact hin.resolve_right hdone
  obtain ⟨xs, ys, rfl⟩ := List.append_of_mem hmem
  rw [List.append_assoc, List.cons_append] at hstores
  obtain ⟨rfl, htail⟩ := split_entryN h hstores
  rw [applyAll_append, applyAll_cons]
  refine consistent_tail (consistent_entryN h hsome) fun st hst => ?_
  have hin : st ∈ [Store.clearRead, Store.clearWrite] := htail ▸ List.mem_append_left _ hst
  simpa using hin

end Settled

/-! ## Invariant -/

/-- How far a set-config command is with its trace `t`. -/
inductive Progress (c : Chip) (cf : SetConfig) (t : Trace) : Prop
  | rejected (bad : cf.bad ≠ none) (entryN : t.entryN = 0) (rest : Store.entryN ∉ cf.todo)
  | accepted (bad : cf.bad = none) (cmd : Cmd) (done : List Store) (valid : cmd.Valid c)
      (some : cmd.sensorsN ≠ 0 ∨ cmd.parmN ≠ 0) (stores : (setConfigStores c cmd).1 = done ++ cf.todo)
      (trace : t.forget = (applyAll c done cf.before).forget) (before : cf.before.Settled c)

/-- The invariant of the runs that meet the condition. -/
structure TbInv (c : Chip) (s : State) : Prop where
  law : TraceLaw s.hist
  place : ∀ g : Guid, (s.list g.index).bytes = g.base ∧ (s.list g.index).size = g.size
  settled : ∀ g : Guid, s.rewriting g.index = false → (s.list g.index).Settled c
  config : ∀ cf, s.setConfig = some cf → ∃ g : Guid, cf.trace = some g.index ∧ Progress c cf (s.list g.index)

variable {c : Chip} {s t : State} {cmd : Cmd} {cf : SetConfig}

theorem Guid.index_lt (g : Guid) : g.index < numberOfTraces := by
  cases g <;> decide

theorem Guid.index_inj {g h : Guid} (heq : g.index = h.index) : g = h := by
  cases g <;> cases h <;> first | rfl | exact absurd heq (by decide)

theorem Guid.exists_index {i : Nat} (h : i < numberOfTraces) : ∃ g : Guid, g.index = i := by
  have hi : i = 0 ∨ i = 1 := by
    unfold numberOfTraces at h
    omega
  rcases hi with rfl | rfl
  · exact ⟨.every8thTick, rfl⟩
  · exact ⟨.everyTick, rfl⟩

theorem State.rewriting_none {i : Nat} (h : s.setConfig = none) : s.rewriting i = false := by
  simp [State.rewriting, h]

theorem State.rewriting_congr {i : Nat} (h : t.setConfig = s.setConfig) : t.rewriting i = s.rewriting i := by
  simp [State.rewriting, h]

theorem Progress.congr {u v : Trace} (h : Progress c cf u) (hsame : v.forget = u.forget) : Progress c cf v := by
  cases h with
  | rejected hbad hentry hrest => exact .rejected hbad ((congrArg Trace.entryN hsame).trans hentry) hrest
  | accepted hbad cmd done hvalid hsome hstores htrace hbefore =>
    exact .accepted hbad cmd done hvalid hsome hstores (hsame.trans htrace) hbefore

theorem TbInv.frame (h : TbInv c s) (hlist : t.list = s.list) (hconfig : t.setConfig = s.setConfig)
    (hlaw : TraceLaw t.hist) : TbInv c t where
  law := hlaw
  place := by rw [hlist]; exact h.place
  settled g hg := by
    rw [hlist]
    rw [State.rewriting_congr hconfig] at hg
    exact h.settled g hg
  config cf hcf := by
    rw [hlist]
    rw [hconfig] at hcf
    exact h.config cf hcf

/-! ## Ticks -/

theorem State.advance_spec (s : State) (i : Nat) (u : Trace) : ∃ w, (s.advance i u).list = update s.list i { u with write := w } ∧
    (s.advance i u).setConfig = s.setConfig ∧ (s.advance i u).hist = s.hist := by
  unfold State.advance
  split
  · exact ⟨_, rfl, rfl, rfl⟩
  split
  · exact ⟨_, rfl, rfl, rfl⟩
  · exact ⟨_, rfl, rfl, rfl⟩

theorem entry_bounds {u : Trace} (h : u.Consistent c) (hwrite : u.write < u.entryN) :
    u.write * u.entrySize + u.entrySize ≤ u.size := by
  have hle : (u.write + 1) * u.entrySize ≤ u.entryN * u.entrySize := Nat.mul_le_mul_right _ hwrite
  have hfits := h.fits
  rw [Nat.succ_mul] at hle
  omega

theorem TbInv.tick (h : TbInv c s) (guid : Guid) (x : Inputs)
    (hok : ¬(s.records guid.index = true ∧ s.rewriting guid.index = true)) : TbInv c (s.tbRecord guid x) := by
  unfold State.tbRecord
  split
  · rename_i hrec
    have hrewriting : s.rewriting guid.index = false := by
      rcases hr : s.rewriting guid.index
      · rfl
      · exact absurd ⟨hrec, hr⟩ hok
    have hwrite : (s.list guid.index).write < (s.list guid.index).entryN := by
      simp only [State.records, Bool.and_eq_true, decide_eq_true_eq] at hrec
      exact hrec.2
    have hcons : (s.list guid.index).Consistent c := (h.settled guid hrewriting).resolve_left (by omega)
    have hlen := length_entryBytes x hcons
    have hbound := entry_bounds hcons hwrite
    obtain ⟨hbytes, hsize⟩ := h.place guid
    have hfits := hcons.fits
    dsimp only
    obtain ⟨w, hlist, hconfig, hhist⟩ :=
      (s.putEntry guid (s.list guid.index) (x.entryBytes (s.list guid.index))).advance_spec guid.index (s.list guid.index)
    have hforget : ∀ g : Guid, (update s.list guid.index { s.list guid.index with write := w } g.index).forget =
        (s.list g.index).forget := by
      intro g
      by_cases hg : g.index = guid.index
      · rw [hg, Function.update_self]
        rfl
      · rw [Function.update_of_ne hg]
    refine ⟨?_, fun g => ?_, fun g hg => ?_, fun cf hcf => ?_⟩
    · rw [hhist]
      refine ⟨?_, ?_, h.law.indices, h.law.nullUsed, h.law.dividedByZero, h.law.rejected⟩
      · rintro e (_ | ⟨-, he⟩)
        · intro k hk
          dsimp only at hk ⊢
          omega
        · exact h.law.contained e he
      · rintro e (_ | ⟨-, he⟩)
        · exact ⟨hlen, hsize ▸ hfits⟩
        · exact h.law.entries e he
    · rw [hlist]
      have hb := congrArg Trace.bytes (hforget g)
      have hs := congrArg Trace.size (hforget g)
      exact ⟨hb.trans (h.place g).1, hs.trans (h.place g).2⟩
    · rw [State.rewriting_congr hconfig] at hg
      rw [hlist]
      exact (Trace.settled_congr (hforget g)).2 (h.settled g hg)
    · rw [hconfig] at hcf
      obtain ⟨g, hg, hprog⟩ := h.config cf hcf
      rw [hlist]
      exact ⟨g, hg, hprog.congr (hforget g)⟩
  · exact h

/-! ## Stores -/

theorem Progress.store {u : Trace} {st : Store} {todo : List Store} (h : Progress c cf u) (htodo : cf.todo = st :: todo) :
    Progress c { cf with todo := todo } (st.apply c u) := by
  cases h with
  | rejected hbad hentry hrest =>
    rw [htodo, List.mem_cons, not_or] at hrest
    exact .rejected hbad ((Store.apply_entryN (Ne.symm hrest.1)).trans hentry) hrest.2
  | accepted hbad cmd done hvalid hsome hstores htrace hbefore =>
    refine .accepted hbad cmd (done ++ [st]) hvalid hsome ?_ ?_ hbefore
    · rw [hstores, htodo, List.append_assoc]
      rfl
    · rw [applyAll_append]
      exact Store.apply_congr htrace

theorem Progress.divides {u : Trace} {todo : List Store} (h : Progress c cf u) (htodo : cf.todo = .entryN :: todo) :
    u.entrySize ≠ 0 := by
  cases h with
  | rejected _ _ hrest =>
    rw [htodo] at hrest
    exact absurd List.mem_cons_self hrest
  | accepted _ cmd done hvalid hsome hstores htrace _ =>
    rw [htodo] at hstores
    obtain ⟨rfl, -⟩ := split_entryN hvalid hstores
    obtain ⟨-, -, -, hpos⟩ := configStores_layout (t := cf.before) hvalid hsome rfl
    have hsize := congrArg Trace.entrySize htrace
    exact Nat.ne_of_gt (hpos.trans_eq hsize.symm)

theorem Progress.settled {u : Trace} (h : Progress c cf u) (hdone : .entryN ∉ cf.todo) : u.Settled c := by
  cases h with
  | rejected _ hentry _ => exact .inl hentry
  | accepted _ cmd done hvalid hsome hstores htrace _ =>
    exact (Trace.settled_congr htrace).2 (.inr (consistent_of_done hvalid hsome hstores hdone))

theorem Progress.cleared {u : Trace} {st : Store} {todo : List Store} (h : Progress c cf u) (htodo : cf.todo = st :: todo)
    (hdiv : .entryN ∈ todo) : todo.head? ≠ some .clearEntrySize := by
  cases h with
  | rejected _ _ hrest =>
    rw [htodo] at hrest
    exact absurd (List.mem_cons_of_mem _ hdiv) hrest
  | accepted _ cmd done hvalid _ hstores _ _ =>
    intro hhead
    have htail : Store.clearEntrySize ∈ (setConfigStores c cmd).1.tail := by
      have hmem : Store.clearEntrySize ∈ todo := List.mem_of_mem_head? hhead
      rw [hstores, htodo]
      cases done with
      | nil => exact hmem
      | cons d ds => exact List.mem_append_right _ (List.mem_cons_of_mem _ hmem)
    rw [setConfigStores_valid hvalid, List.cons_append, List.tail_cons, List.mem_append] at htail
    rcases htail with hmem | hmem
    · exact (mem_configStores hmem).1 rfl
    · exact absurd hmem (by decide)

theorem TbInv.store {st : Store} {todo : List Store} (h : TbInv c s) (hcf : s.setConfig = some cf)
    (htodo : cf.todo = st :: todo) : TbInv c (s.doStore c cf st todo) := by
  obtain ⟨g, hg, hprog⟩ := h.config cf hcf
  have hstate : s.doStore c cf st todo =
      { s with
        setConfig := some { cf with todo := todo }
        list := update s.list g.index (st.apply c (s.list g.index))
        hist := { s.hist with
          indices := g.index :: s.hist.indices
          dividedByZero := s.hist.dividedByZero ||
            (decide (st = .entryN) && decide ((s.list g.index).entrySize = 0)) } } := by
    simp only [State.doStore, hg]
    rfl
  rw [hstate]
  have hnext := hprog.store htodo
  refine ⟨⟨h.law.contained, h.law.entries, ?_, h.law.nullUsed, ?_, h.law.rejected⟩, fun g' => ?_, fun g' hg' => ?_,
    fun cf' hcf' => ?_⟩
  · rintro i (_ | ⟨-, hi⟩)
    · exact g.index_lt
    · exact h.law.indices i hi
  · rw [Bool.or_eq_false_iff, Bool.and_eq_false_iff, decide_eq_false_iff_not, decide_eq_false_iff_not]
    refine ⟨h.law.dividedByZero, ?_⟩
    by_cases hst : st = .entryN
    · subst hst
      exact .inr (hprog.divides htodo)
    · exact .inl hst
  · by_cases hsame : g' = g
    · subst hsame
      simpa using h.place g'
    · dsimp only
      rw [Function.update_of_ne fun heq => hsame (Guid.index_inj heq)]
      exact h.place g'
  · by_cases hsame : g' = g
    · subst hsame
      dsimp only
      rw [Function.update_self]
      refine hnext.settled fun hdiv => ?_
      have hhead := hprog.cleared htodo hdiv
      simp [State.rewriting, hg, hdiv, hhead] at hg'
    · have hne : g'.index ≠ g.index := fun heq => hsame (Guid.index_inj heq)
      dsimp only
      rw [Function.update_of_ne hne]
      refine h.settled g' ?_
      simp [State.rewriting, hcf, hg, hne.symm]
  · obtain rfl : { cf with todo := todo } = cf' := by simpa using hcf'
    refine ⟨g, hg, ?_⟩
    dsimp only
    rw [Function.update_self]
    exact hnext

/-! ## Commands -/

theorem replySetConfig_list (bad : Option Nat) : (s.replySetConfig bad).list = s.list := by
  cases bad <;> rfl

theorem replySetConfig_setConfig (bad : Option Nat) : (s.replySetConfig bad).setConfig = s.setConfig := by
  cases bad <;> rfl

theorem replySetConfig_hist (bad : Option Nat) : (s.replySetConfig bad).hist = s.hist := by
  cases bad <;> rfl

theorem TraceLaw.logRejected {before after : Trace} (h : TraceLaw s.hist)
    (hafter : SameConfig before after ∨ after.entryN = 0) : TraceLaw (s.logRejected before after).hist := by
  refine ⟨h.contained, h.entries, h.indices, h.nullUsed, h.dividedByZero, ?_⟩
  rintro r (_ | ⟨-, hr⟩)
  · exact hafter
  · exact h.rejected r hr

theorem TraceLaw.useTrace {i : Nat} (h : TraceLaw s.hist) (hi : i < numberOfTraces) : TraceLaw (s.useTrace i).hist := by
  refine ⟨h.contained, h.entries, ?_, h.nullUsed, h.dividedByZero, h.rejected⟩
  rintro j (_ | ⟨-, hj⟩)
  · exact hi
  · exact h.indices j hj

/-- The end of a command: its trace is settled. -/
theorem TbInv.endSetConfig (h : TbInv c s) (hcf : s.setConfig = some cf) (htodo : cf.todo = []) :
    TbInv c (s.endSetConfig cf) := by
  obtain ⟨g, hg, hprog⟩ := h.config cf hcf
  have hlist : (s.endSetConfig cf).list = s.list := by
    unfold State.endSetConfig
    rw [replySetConfig_list]
    split
    · rfl
    · rw [hg]
      rfl
  have hconfig : (s.endSetConfig cf).setConfig = none := by
    unfold State.endSetConfig
    rw [replySetConfig_setConfig]
    split
    · rfl
    · rw [hg]
      rfl
  refine ⟨?_, fun g' => ?_, fun g' _ => ?_, fun cf' hcf' => ?_⟩
  · unfold State.endSetConfig
    rw [replySetConfig_hist]
    split
    · exact h.law
    · rename_i hbad
      rw [hg]
      refine TraceLaw.logRejected (s := { s with setConfig := none }) h.law (.inr ?_)
      cases hprog with
      | rejected _ hentry _ => exact hentry
      | accepted hnone => exact absurd hnone hbad
  · rw [hlist]
    exact h.place g'
  · rw [hlist]
    by_cases hsame : g' = g
    · subst hsame
      exact hprog.settled (by rw [htodo]; exact List.not_mem_nil)
    · refine h.settled g' ?_
      have hne : g.index ≠ g'.index := fun heq => hsame (Guid.index_inj heq).symm
      simp [State.rewriting, hcf, hg, hne]
  · rw [hconfig] at hcf'
    cases hcf'

theorem TbInv.cmdSetConfig (h : TbInv c s) (hnone : s.setConfig = none) (hok : TbOk c s (.setConfig cmd)) :
    TbInv c (s.cmdSetConfig c cmd) := by
  unfold State.cmdSetConfig
  dsimp only
  by_cases href : cmd.refusal ≠ none
  · rw [if_pos href]
    refine h.frame ?_ ?_ ?_
    · rw [replySetConfig_list]
      split <;> rfl
    · rw [replySetConfig_setConfig]
      split <;> rfl
    · rw [replySetConfig_hist]
      split
      · exact h.law
      · exact TraceLaw.logRejected (s := { s with record := false }) h.law (.inl (.refl _))
  · rw [if_neg href]
    obtain ⟨hguid, hvalid⟩ := hok.resolve_left href
    obtain ⟨g, hg⟩ := Guid.exists_index hguid
    have hget : tbGetByGuid cmd.guid = some g.index := by
      rw [hg, tbGetByGuid, if_neg (by omega)]
    have hsettled : ∀ g : Guid, (s.list g.index).Settled c := fun g => h.settled g (State.rewriting_none hnone)
    refine ⟨h.law, h.place, fun g _ => hsettled g, fun cf hcf => ?_⟩
    obtain rfl := Option.some.inj hcf
    refine ⟨g, hget, ?_⟩
    dsimp only
    by_cases hv : cmd.Valid c
    · rw [if_pos hv] at hvalid
      refine .accepted (setConfigStores_bad.2 hv) cmd [] hv hvalid rfl ?_ ?_
      · rw [hget]
        rfl
      · rw [hget]
        exact hsettled g
    · rw [if_neg hv, ← hg] at hvalid
      obtain ⟨sts, hsts, hno⟩ := setConfigStores_invalid hv
      refine .rejected (fun hbad => hv (setConfigStores_bad.1 hbad)) hvalid ?_
      rw [hsts]
      rintro (_ | ⟨-, hmem⟩)
      exact (hno _ hmem).2 rfl

theorem tbGetByGuid_lt {guid i : Nat} (h : tbGetByGuid guid = some i) (hguid : guid ≠ numberOfTraces) :
    i < numberOfTraces := by
  unfold tbGetByGuid at h
  split at h
  · cases h
  · cases h
    omega

theorem TbInv.step {e : Event} (h : TbInv c s) (hok : TbOk c s e) (hstep : StepOf (State.next c) s e t) : TbInv c t := by
  cases e with
  | slaveInbox tbRecord =>
    cases hstep
    exact h.frame rfl rfl h.law
  | tick guid x =>
    cases hstep
    exact h.tick guid x hok
  | store =>
    simp only [StepOf, State.next] at hstep
    split at hstep
    · cases hstep
    rename_i cf hcf
    split at hstep
    · rename_i htodo
      cases hstep
      exact h.endSetConfig hcf htodo
    · rename_i st todo htodo
      cases hstep
      exact h.store hcf htodo
  | setConfig cmd =>
    simp only [StepOf, State.next, Option.ite_none_left_eq_some, Bool.not_eq_true, Option.isSome_eq_false_iff,
      Option.isNone_iff_eq_none] at hstep
    obtain ⟨hnone, ⟨⟩⟩ := hstep
    exact h.cmdSetConfig hnone hok
  | startRecording =>
    obtain ⟨-, ⟨⟩⟩ := Option.ite_none_left_eq_some.1 hstep
    exact h.frame rfl rfl h.law
  | stopRecording =>
    obtain ⟨-, ⟨⟩⟩ := Option.ite_none_left_eq_some.1 hstep
    exact h.frame rfl rfl h.law
  | read cmd =>
    obtain ⟨-, ⟨⟩⟩ := Option.ite_none_left_eq_some.1 hstep
    unfold State.cmdRead
    split
    · exact h.frame rfl rfl h.law
    · rename_i i hi
      exact h.frame rfl rfl (TraceLaw.useTrace h.law (tbGetByGuid_lt hi hok))
  | getConfig cmd =>
    obtain ⟨-, ⟨⟩⟩ := Option.ite_none_left_eq_some.1 hstep
    unfold State.cmdGetConfig
    split
    · exact h.frame rfl rfl h.law
    · rename_i i hi
      exact h.frame rfl rfl (TraceLaw.useTrace h.law (tbGetByGuid_lt hi hok))

theorem Boot.inv (h : Boot s) : TbInv c s where
  law := by
    rw [h.hist]
    exact ⟨nofun, nofun, nofun, rfl, rfl, nofun⟩
  place g := by
    rw [h.list g]
    exact ⟨rfl, rfl⟩
  settled g _ := by
    rw [h.list g]
    exact .inl rfl
  config cf hcf := by
    rw [h.setConfig] at hcf
    cases hcf

theorem tbInv_run {es : List Event} (hboot : Boot s) (hrun : Run (Guarded (TbOk c) (StepOf (State.next c))) s es t) :
    TbInv c t :=
  hrun.invariant (P := TbInv c) (fun _ _ _ hinv hstep => hinv.step hstep.1 hstep.2) hboot.inv

/-- Recording stays in its bounds in every run whose steps meet the condition. -/
theorem traceLaw_of_tbOk {es : List Event} (hboot : Boot s)
    (hrun : Run (Guarded (TbOk c) (StepOf (State.next c))) s es t) : TraceLaw t.hist :=
  (tbInv_run hboot hrun).law

/-! ## Runs -/

def bootTrace (i : Nat) : Trace := if i = 0 then freshTrace 0 sizeBytes2ms else freshTrace sizeBytes2ms sizeBytes250us

def bootState : State where
  list := bootTrace
  tbBytes _ := 0
  record := false
  continuous := false
  slvRecord := false
  setConfig := none
  retval := .normal
  resp := []
  hist := ⟨[], [], false, false, []⟩

theorem boot_bootState : Boot bootState where
  list g := by cases g <;> rfl
  record := rfl
  continuous := rfl
  setConfig := rfl
  hist := rfl

def firstChip : Chip where
  sensorCount := 710
  tbBytesAddr := 0xFFF80000
  maxDataLength := 246
  undefinedQuotient := 0

def zeroInputs : Inputs where
  sample _ := 0
  sampleMin _ := 0
  sampleMax _ := 0
  accumulator _ := 0
  updateTag _ := 0
  rCnt := 0
  parm _ _ := 0
  beyond _ := []

/-- A command of some bytes. -/
def Cmd.ofBytes (bs : List (BitVec 8)) : Cmd := fun i => bs.getD i 0

/-- The value of the first sensor is traced every eighth tick. -/
def oneSensor : List Event :=
  .setConfig (.ofBytes [0, 0, 0, 1, 0, 0, 0, 0, 0, 0, 0, 0, 0, 0, 0]) :: List.replicate 10 .store

def recording : List Event := [.startRecording, .slaveInbox true]

def tick8 : Event := .tick .every8thTick zeroInputs

theorem traceLaw_of_tbOk_oneSensor :
    ∃ t, Run (Guarded (TbOk firstChip) (StepOf (State.next firstChip))) bootState (oneSensor ++ recording ++ [tick8, tick8]) t ∧
      t.hist.entries.map (fun e => (e.start, e.length)) = [(2, 2), (0, 2)] ∧ TraceLaw t.hist := by
  have hrun : (exec (fun s e => if TbOk firstChip s e then State.next firstChip s e else none) bootState
      (oneSensor ++ recording ++ [tick8, tick8])).map (fun t => t.hist.entries.map fun e => (e.start, e.length)) =
      some [(2, 2), (0, 2)] := by decide
  obtain ⟨t, ht, he⟩ := Option.map_eq_some_iff.1 hrun
  have h := run_guarded_of_exec ht
  exact ⟨t, h, he, traceLaw_of_tbOk boot_bootState h⟩

/-- One sensor and ten long parameters, and an eleventh that does not exist. -/
def badParm : List Event :=
  .setConfig (.ofBytes ([0, 0, 0, 1, 0, 11, 0, 0, 0, 0, 0, 0, 0, 0, 0] ++
    (List.replicate 10 [0, 3]).flatten ++ [0, 148])) :: List.replicate 27 .store

def rejectedWhileRecording : List Event :=
  oneSensor ++ recording ++ List.replicate 9 tick8 ++ badParm ++ [tick8]

theorem rejectedWhileRecording_rejected : (exec (State.next firstChip) bootState rejectedWhileRecording).map
    (fun t => t.hist.rejected.head?.map fun r => (r.1.entrySize, r.2.entrySize, r.2.entryN)) =
    some (some (2, 962, 4096)) := by decide

theorem rejectedWhileRecording_entries : (exec (State.next firstChip) bootState rejectedWhileRecording).map
    (fun t => t.hist.entries.head?.map fun e => (e.guid, e.start, e.length)) =
    some (some (.every8thTick, 8658, 2)) := by decide

/-- The accumulator of the first sensor, as far as the first store. -/
def accumulatorBegun : List Event :=
  [.setConfig (.ofBytes [0, 0, 0, 1, 0, 0, 0, 0, 0, 0, 0, 0, 0, 0, 3]), .store]

/-- A trace behind the list, a NULL trace, an empty configuration, a configuration that is rejected at its end with the
recording of the old one under way, and a tick after the first store of another one. -/
theorem traceLaw_fails :
    (∃ es t, Run (StepOf (State.next firstChip)) bootState es t ∧ ¬∀ i ∈ t.hist.indices, i < numberOfTraces) ∧
      (∃ es t, Run (StepOf (State.next firstChip)) bootState es t ∧ t.hist.nullUsed ≠ false) ∧
      (∃ es t, Run (StepOf (State.next firstChip)) bootState es t ∧ t.hist.dividedByZero ≠ false) ∧
      (∃ es t, Run (StepOf (State.next firstChip)) bootState es t ∧
        (¬∀ r ∈ t.hist.rejected, SameConfig r.1 r.2 ∨ r.2.entryN = 0) ∧
        ¬∀ e ∈ t.hist.entries, ∀ k < e.length, e.guid.base ≤ e.start + k ∧ e.start + k < e.guid.base + e.guid.size) ∧
      ∃ es t, Run (StepOf (State.next firstChip)) bootState es t ∧ ¬∀ e ∈ t.hist.entries, e.length = e.entrySize := by
  refine ⟨?_, ?_, ?_, ?_, ?_⟩
  · have hrun : (exec (State.next firstChip) bootState [.read (.ofBytes [0, 2])]).map (·.hist.indices) = some [2] := by
      decide
    obtain ⟨t, ht, he⟩ := Option.map_eq_some_iff.1 hrun
    refine ⟨_, t, exec_eq_some_iff.1 ht, fun h => ?_⟩
    have := h 2 (he ▸ List.mem_cons_self)
    exact absurd this (by decide)
  · have hrun : (exec (State.next firstChip) bootState [.setConfig (.ofBytes [0, 3]), .store]).map (·.hist.nullUsed) =
        some true := by decide
    obtain ⟨t, ht, he⟩ := Option.map_eq_some_iff.1 hrun
    exact ⟨_, t, exec_eq_some_iff.1 ht, by rw [he]; decide⟩
  · have hrun : (exec (State.next firstChip) bootState
        (.setConfig (.ofBytes [0, 0]) :: List.replicate 4 .store)).map (·.hist.dividedByZero) = some true := by
      decide
    obtain ⟨t, ht, he⟩ := Option.map_eq_some_iff.1 hrun
    exact ⟨_, t, exec_eq_some_iff.1 ht, by rw [he]; decide⟩
  · obtain ⟨t, ht, hrej⟩ := Option.map_eq_some_iff.1 rejectedWhileRecording_rejected
    have hent := rejectedWhileRecording_entries
    rw [ht] at hent
    refine ⟨_, t, exec_eq_some_iff.1 ht, fun h => ?_, fun h => ?_⟩
    · obtain ⟨r, hr, hvals⟩ := Option.map_eq_some_iff.1 hrej
      simp only [Prod.mk.injEq] at hvals
      rcases h r (List.mem_of_mem_head? hr) with hsame | hzero
      · have := hsame.entrySize
        omega
      · omega
    · obtain ⟨e, hmem, hvals⟩ := Option.map_eq_some_iff.1 (Option.some.inj hent)
      simp only [Prod.mk.injEq] at hvals
      obtain ⟨hguid, hstart, hlen⟩ := hvals
      have := (h e (List.mem_of_mem_head? hmem) 0 (by omega)).2
      rw [hguid, hstart] at this
      exact absurd this (by decide)
  · have hrun : (exec (State.next firstChip) bootState
        (oneSensor ++ recording ++ [tick8] ++ accumulatorBegun ++ [tick8])).map
        (fun t => t.hist.entries.head?.map fun e => (e.entrySize, e.length)) = some (some (0, 2)) := by decide
    obtain ⟨t, ht, he⟩ := Option.map_eq_some_iff.1 hrun
    refine ⟨_, t, exec_eq_some_iff.1 ht, fun h => ?_⟩
    obtain ⟨e, hmem, hvals⟩ := Option.map_eq_some_iff.1 he
    simp only [Prod.mk.injEq] at hvals
    have := h e (List.mem_of_mem_head? hmem)
    omega

end Occ.Amec.Tb
