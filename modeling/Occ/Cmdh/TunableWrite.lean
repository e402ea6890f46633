/-
The write of tunable parameters (`cmdh_tunable_parms_write`): it stores a list of values one after another and asks for an
overwrite. It keeps everything on a rejection, and stays inside the limits and the received data on an acceptance, exactly for
the commands and states that do not need any of the checks it does not make.
-/
import Occ.Dcom.Tunable

namespace Occ.Cmdh

open Dcom

/-! ## The tables -/

def cmdhDefaultTunableParamNum : Nat := 10

/-- The constant columns of `G_mst_tunable_parameter_table` and of its extension. -/
structure TunableColumns where
  min : BitVec 16
  max : BitVec 16
  defValue : BitVec 16
  multiplier : BitVec 16
deriving DecidableEq, Repr

def mstTunableParameterTable : Vector TunableColumns 10 :=
  #v[⟨0, 1000, 980, 10⟩, ⟨0, 1000, 980, 10⟩, ⟨1, 1024, 16, 1⟩, ⟨1, 1000, 8, 1⟩, ⟨1, 1000, 8, 1⟩,
    ⟨0, 100, 18, 100⟩, ⟨0, 1000, 980, 10⟩, ⟨0, 1, 0, 1⟩, ⟨10, 100, 10, 1⟩, ⟨0, 1, 1, 1⟩]

/-- The tables, whose constant columns are those of the image, and `G_mst_tunable_parameter_overwrite`. -/
structure TunableGlobals where
  table : TunableTable
  overwrite : BitVec 8
  columns : ∀ i : Fin 10, table[i].defValue = mstTunableParameterTable[i].defValue ∧
    table[i].multiplier = mstTunableParameterTable[i].multiplier

/-- A command in its buffer, which goes on behind the data that was received. -/
structure TunableWriteCmd where
  dataLength : BitVec 16
  data : Nat → BitVec 8

namespace TunableWriteCmd

variable (c : TunableWriteCmd)

def version : BitVec 8 := c.data 1
def numParms : BitVec 8 := c.data 2
def id (i : Nat) : BitVec 8 := c.data (3 + 3 * i)
/-- `CONVERT_UINT8_ARRAY_UINT16` of the two bytes -/
def value (i : Nat) : BitVec 16 := c.data (3 + 3 * i + 1) ++ c.data (3 + 3 * i + 2)

/-- The pairs of id and value, in order. -/
def entries : List (BitVec 8 × BitVec 16) := (List.range c.numParms.toNat).map fun i => (c.id i, c.value i)

end TunableWriteCmd

def tunableParmsWriteVersion : BitVec 8 := 0

/-- `(l_id>0) && (l_id<=CMDH_DEFAULT_TUNABLE_PARAM_NUM)` -/
def ValidId (id : BitVec 8) : Prop := 0 < id.toNat ∧ id.toNat ≤ cmdhDefaultTunableParamNum

instance (id : BitVec 8) : Decidable (ValidId id) := inferInstanceAs (Decidable (_ ∧ _))

theorem getElem_store (t : TunableTable) (id : BitVec 8) (value : BitVec 16) (i : Fin 10) :
    (t.store id value)[i] =
      if id.toNat = i + 1 then { t[i] with value := value, adjValue := value * t[i].multiplier } else t[i] := by
  unfold TunableTable.store
  by_cases hvalid : 0 < id.toNat ∧ id.toNat ≤ 10
  · rw [dif_pos hvalid]
    show (t.set (id.toNat - 1) _ _)[i.val] = _
    rw [Vector.getElem_set]
    by_cases hid : id.toNat = i + 1
    · have hindex : id.toNat - 1 = i := by omega
      rw [if_pos hid, if_pos hindex]
      simp only [hindex]
      rfl
    · rw [if_neg hid, if_neg (by omega)]
      rfl
  · rw [dif_neg hvalid, if_neg (by have := i.isLt; omega)]

namespace TunableGlobals

variable (s : TunableGlobals)

/-- An entry of the loop. -/
def store (e : BitVec 8 × BitVec 16) : TunableGlobals where
  table := s.table.store e.1 e.2
  overwrite := s.overwrite
  columns i := by
    rw [getElem_store]
    split
    · exact s.columns i
    · exact s.columns i

/-- The loop of `cmdh_tunable_parms_write`, with whether all ids were valid. -/
def writeEntries (entries : List (BitVec 8 × BitVec 16)) : TunableGlobals × Bool :=
  entries.foldl (fun r e => (r.1.store e, r.2 && decide (ValidId e.1))) (s, true)

/-- `cmdh_tunable_parms_write`: whether it succeeds; the alternative is `ERRL_RC_INVALID_DATA`. -/
def cmdhTunableParmsWrite (c : TunableWriteCmd) : TunableGlobals × Bool :=
  let r := if c.version ≠ tunableParmsWriteVersion then (s, false) else s.writeEntries c.entries
  ({ r.1 with overwrite := 1 }, r.2)

end TunableGlobals

/-- The bytes of the data that `cmdh_tunable_parms_write` reads. -/
def TunableWriteCmd.bytesRead (c : TunableWriteCmd) : List Nat :=
  1 :: if c.version ≠ tunableParmsWriteVersion then []
    else 2 :: (List.range c.numParms.toNat).flatMap fun i => [3 + 3 * i, 3 + 3 * i + 1, 3 + 3 * i + 2]

/-! ## The loop -/

/-- The last value that the entries have for a place of the table. -/
def lastValue (entries : List (BitVec 8 × BitVec 16)) (i : Fin 10) : Option (BitVec 16) :=
  (entries.reverse.find? fun e => e.1.toNat == (i : Nat) + 1).map Prod.snd

section
variable {s : TunableGlobals} {entries : List (BitVec 8 × BitVec 16)} {e : BitVec 8 × BitVec 16}

theorem lastValue_concat (i : Fin 10) :
    lastValue (entries ++ [e]) i = if e.1.toNat = i + 1 then some e.2 else lastValue entries i := by
  unfold lastValue
  rw [List.reverse_append, List.reverse_singleton, List.singleton_append]
  by_cases hid : e.1.toNat = i + 1
  · rw [List.find?_cons_of_pos (p := fun e : BitVec 8 × BitVec 16 => e.1.toNat == (i : Nat) + 1) (beq_iff_eq.2 hid), if_pos hid]
    rfl
  · rw [List.find?_cons_of_neg (p := fun e : BitVec 8 × BitVec 16 => e.1.toNat == (i : Nat) + 1) fun h => hid (beq_iff_eq.1 h), if_neg hid]

theorem writeEntries_concat :
    s.writeEntries (entries ++ [e]) =
      ((s.writeEntries entries).1.store e, (s.writeEntries entries).2 && decide (ValidId e.1)) := by
  unfold TunableGlobals.writeEntries
  rw [List.foldl_append]
  rfl

theorem getElem_writeEntries (i : Fin 10) :
    (s.writeEntries entries).1.table[i] =
      match lastValue entries i with
      | none => s.table[i]
      | some v => { s.table[i] with value := v, adjValue := v * s.table[i].multiplier } := by
  induction entries using List.reverseRecOn with
  | nil => rfl
  | append_singleton entries e ih =>
    rw [writeEntries_concat, lastValue_concat]
    show ((s.writeEntries entries).1.table.store e.1 e.2)[i] = _
    rw [getElem_store, ih]
    by_cases hid : e.1.toNat = i + 1
    · rw [if_pos hid, if_pos hid]
      cases lastValue entries i with
      | none => rfl
      | some v => rfl
    · rw [if_neg hid, if_neg hid]

theorem writeEntries_snd : (s.writeEntries entries).2 = true ↔ ∀ e ∈ entries, ValidId e.1 := by
  induction entries using List.reverseRecOn with
  | nil => exact iff_of_true rfl nofun
  | append_singleton entries e ih =>
    rw [writeEntries_concat, Bool.and_eq_true, ih, decide_eq_true_iff]
    constructor
    · rintro ⟨hall, hlast⟩ f hf
      obtain hf | hf := List.mem_append.1 hf
      · exact hall f hf
      · exact List.mem_singleton.1 hf ▸ hlast
    · intro hall
      exact ⟨fun f hf => hall f (List.mem_append_left _ hf), hall e (List.mem_append_right _ (List.mem_singleton_self e))⟩

theorem lastValue_mem {i : Fin 10} {v : BitVec 16} (h : lastValue entries i = some v) :
    ∃ e ∈ entries, e.1.toNat = i + 1 ∧ e.2 = v := by
  obtain ⟨e, he, rfl⟩ := Option.map_eq_some_iff.1 h
  have hid := List.find?_some he
  exact ⟨e, List.mem_reverse.1 (List.mem_of_find?_eq_some he), beq_iff_eq.1 hid, rfl⟩

theorem exists_lastValue {i : Fin 10} (he : e ∈ entries) (hid : e.1.toNat = i + 1) :
    ∃ v, lastValue entries i = some v := by
  cases hlast : lastValue entries i with
  | some v => exact ⟨v, rfl⟩
  | none =>
    have hfind := Option.map_eq_none_iff.1 hlast
    exact absurd (beq_iff_eq.2 hid) (List.find?_eq_none.1 hfind e (List.mem_reverse.2 he))

end

/-! ## The law -/

/-- The value is in the limits that the table has for its id. -/
def InLimits (e : BitVec 8 × BitVec 16) : Prop :=
  ∀ i : Fin 10, e.1.toNat = i + 1 → mstTunableParameterTable[i].min ≤ e.2 ∧ e.2 ≤ mstTunableParameterTable[i].max

instance (e : BitVec 8 × BitVec 16) : Decidable (InLimits e) := by
  unfold InLimits
  infer_instance

/-- A write is done in full and within the limits, from the received data, or not at all. -/
structure TunableWriteLaw (s : TunableGlobals) (c : TunableWriteCmd) : Prop where
  rejected : (s.cmdhTunableParmsWrite c).2 = false →
    (s.cmdhTunableParmsWrite c).1.table = s.table ∧ (s.cmdhTunableParmsWrite c).1.overwrite = s.overwrite
  limits : (s.cmdhTunableParmsWrite c).2 = true → ∀ e ∈ c.entries, InLimits e
  adjusted : (s.cmdhTunableParmsWrite c).2 = true → ∀ e ∈ c.entries, ∀ i : Fin 10, e.1.toNat = i + 1 →
    ∃ v, lastValue c.entries i = some v ∧ (s.cmdhTunableParmsWrite c).1.table[i].value = v ∧
      (s.cmdhTunableParmsWrite c).1.table[i].adjValue.toNat = v.toNat * mstTunableParameterTable[i].multiplier.toNat
  received : (s.cmdhTunableParmsWrite c).2 = true → ∀ k ∈ c.bytesRead, k < c.dataLength.toNat

/-- The version is known and so are all ids. -/
def TunableWriteCmd.Accepted (c : TunableWriteCmd) : Prop :=
  c.version = tunableParmsWriteVersion ∧ ∀ e ∈ c.entries, ValidId e.1

instance (c : TunableWriteCmd) : Decidable c.Accepted := inferInstanceAs (Decidable (_ ∧ _))

/-- An accepted command has its values in the limits and all its entries in the received data; for a rejected one an overwrite
is pending already, and its valid entries, if its version lets them in, repeat what the table holds. -/
def TunableWriteOk (s : TunableGlobals) (c : TunableWriteCmd) : Prop :=
  if c.Accepted then (∀ e ∈ c.entries, InLimits e) ∧ 3 + 3 * c.numParms.toNat ≤ c.dataLength.toNat
  else s.overwrite = 1 ∧ (c.version = tunableParmsWriteVersion → ∀ i : Fin 10, ∀ v, lastValue c.entries i = some v →
    s.table[i].value = v ∧ s.table[i].adjValue = v * s.table[i].multiplier)

section
variable {s : TunableGlobals} {c : TunableWriteCmd}

theorem write_eq_of_version (h : c.version = tunableParmsWriteVersion) :
    s.cmdhTunableParmsWrite c = ({ (s.writeEntries c.entries).1 with overwrite := 1 }, (s.writeEntries c.entries).2) := by
  unfold TunableGlobals.cmdhTunableParmsWrite
  rw [if_neg (not_not.2 h)]

theorem write_eq_of_ne (h : c.version ≠ tunableParmsWriteVersion) :
    s.cmdhTunableParmsWrite c = ({ s with overwrite := 1 }, false) := by
  unfold TunableGlobals.cmdhTunableParmsWrite
  rw [if_pos h]

theorem write_snd : (s.cmdhTunableParmsWrite c).2 = true ↔ c.Accepted := by
  unfold TunableWriteCmd.Accepted
  by_cases h : c.version = tunableParmsWriteVersion
  · rw [write_eq_of_version h, writeEntries_snd, and_iff_right h]
  · rw [write_eq_of_ne h]
    exact iff_of_false Bool.false_ne_true fun hc => h hc.1

theorem max_mul_multiplier (i : Fin 10) :
    mstTunableParameterTable[i].max.toNat * mstTunableParameterTable[i].multiplier.toNat < 2 ^ 16 := by
  revert i
  decide

theorem mem_bytesRead {k : Nat} (h : c.version = tunableParmsWriteVersion) :
    k ∈ c.bytesRead ↔ k = 1 ∨ k = 2 ∨ ∃ i < c.numParms.toNat, 3 + 3 * i ≤ k ∧ k ≤ 3 + 3 * i + 2 := by
  unfold TunableWriteCmd.bytesRead
  rw [if_neg (not_not.2 h), List.mem_cons, List.mem_cons, List.mem_flatMap]
  refine or_congr_right (or_congr_right ?_)
  constructor
  · rintro ⟨i, hi, hk⟩
    refine ⟨i, List.mem_range.1 hi, ?_⟩
    simp only [List.mem_cons, List.not_mem_nil, or_false] at hk
    omega
  · rintro ⟨i, hi, hlow, hhigh⟩
    refine ⟨i, List.mem_range.2 hi, ?_⟩
    simp only [List.mem_cons, List.not_mem_nil, or_false]
    omega

theorem received_iff (h : c.version = tunableParmsWriteVersion) :
    (∀ k ∈ c.bytesRead, k < c.dataLength.toNat) ↔ 3 + 3 * c.numParms.toNat ≤ c.dataLength.toNat := by
  constructor
  · intro hread
    obtain hzero | hpos := Nat.eq_zero_or_pos c.numParms.toNat
    · have htwo := hread 2 ((mem_bytesRead h).2 (.inr (.inl rfl)))
      omega
    · have hlast := hread (3 + 3 * (c.numParms.toNat - 1) + 2)
        ((mem_bytesRead h).2 (.inr (.inr ⟨c.numParms.toNat - 1, by omega, by omega, le_rfl⟩)))
      omega
  · rintro hfits k hk
    obtain rfl | rfl | ⟨i, hi, -, hhigh⟩ := (mem_bytesRead h).1 hk
    · omega
    · omega
    · omega

theorem adjusted_of_limits (h : c.version = tunableParmsWriteVersion) (hlimits : ∀ e ∈ c.entries, InLimits e)
    {e : BitVec 8 × BitVec 16} (he : e ∈ c.entries) {i : Fin 10} (hid : e.1.toNat = i + 1) :
    ∃ v, lastValue c.entries i = some v ∧ (s.cmdhTunableParmsWrite c).1.table[i].value = v ∧
      (s.cmdhTunableParmsWrite c).1.table[i].adjValue.toNat = v.toNat * mstTunableParameterTable[i].multiplier.toNat := by
  obtain ⟨v, hlast⟩ := exists_lastValue he hid
  obtain ⟨f, hf, hfid, rfl⟩ := lastValue_mem hlast
  have hplace := @getElem_writeEntries s c.entries i
  rw [hlast] at hplace
  rw [write_eq_of_version h]
  refine ⟨_, hlast, congrArg (·.value) hplace, ?_⟩
  rw [show (s.writeEntries c.entries).1.table[i].adjValue = f.2 * s.table[i].multiplier from congrArg (·.adjValue) hplace,
    (s.columns i).2, BitVec.toNat_mul, Nat.mod_eq_of_lt]
  have hle : f.2.toNat ≤ mstTunableParameterTable[i].max.toNat := (hlimits f hf i hfid).2
  exact (Nat.mul_le_mul_right _ hle).trans_lt (max_mul_multiplier i)

theorem table_eq_iff :
    (s.writeEntries c.entries).1.table = s.table ↔ ∀ i : Fin 10, ∀ v, lastValue c.entries i = some v →
      s.table[i].value = v ∧ s.table[i].adjValue = v * s.table[i].multiplier := by
  constructor
  · rintro heq i v hlast
    have hplace := @getElem_writeEntries s c.entries i
    rw [heq, hlast] at hplace
    exact ⟨congrArg (·.value) hplace, congrArg (·.adjValue) hplace⟩
  · intro hall
    refine Vector.ext fun i hi => ?_
    have hplace := @getElem_writeEntries s c.entries ⟨i, hi⟩
    refine hplace.trans ?_
    cases hlast : lastValue c.entries ⟨i, hi⟩ with
    | none => rfl
    | some v =>
      obtain ⟨hvalue, hadj⟩ := hall ⟨i, hi⟩ v hlast
      show _ = s.table[(⟨i, hi⟩ : Fin 10)]
      generalize s.table[(⟨i, hi⟩ : Fin 10)] = p at *
      dsimp only
      rw [← hadj, ← hvalue]

theorem rejected_iff :
    ((s.cmdhTunableParmsWrite c).1.table = s.table ∧ (s.cmdhTunableParmsWrite c).1.overwrite = s.overwrite) ↔
      s.overwrite = 1 ∧ (c.version = tunableParmsWriteVersion → ∀ i : Fin 10, ∀ v, lastValue c.entries i = some v →
        s.table[i].value = v ∧ s.table[i].adjValue = v * s.table[i].multiplier) := by
  by_cases hversion : c.version = tunableParmsWriteVersion
  · rw [write_eq_of_version hversion]
    show (s.writeEntries c.entries).1.table = s.table ∧ 1 = s.overwrite ↔ _
    rw [table_eq_iff, and_comm, eq_comm]
    exact and_congr_right fun _ => ⟨fun hall _ => hall, fun hall => hall hversion⟩
  · rw [write_eq_of_ne hversion]
    show s.table = s.table ∧ 1 = s.overwrite ↔ _
    constructor
    · rintro ⟨-, hflag⟩
      exact ⟨hflag.symm, fun hv => absurd hv hversion⟩
    · rintro ⟨hflag, -⟩
      exact ⟨rfl, hflag.symm⟩

/-- The writes that are atomic and within bounds. -/
theorem tunableWriteLaw_iff (s : TunableGlobals) (c : TunableWriteCmd) : TunableWriteLaw s c ↔ TunableWriteOk s c := by
  unfold TunableWriteOk
  by_cases haccepted : c.Accepted
  · rw [if_pos haccepted]
    have htrue := (@write_snd s c).2 haccepted
    constructor
    · rintro ⟨-, hlimits, -, hreceived⟩
      exact ⟨hlimits htrue, (received_iff haccepted.1).1 (hreceived htrue)⟩
    · rintro ⟨hlimits, hfits⟩
      refine ⟨fun hfalse => ?_, fun _ => hlimits, fun _ e he i hid => ?_, fun _ => (received_iff haccepted.1).2 hfits⟩
      · exact absurd (htrue.symm.trans hfalse) Bool.true_eq_false.mp
      · exact adjusted_of_limits haccepted.1 hlimits he hid
  · rw [if_neg haccepted, ← rejected_iff]
    have hfalse : (s.cmdhTunableParmsWrite c).2 = false :=
      Bool.eq_false_of_not_eq_true fun htrue => haccepted (write_snd.1 htrue)
    have hnot : ¬ (s.cmdhTunableParmsWrite c).2 = true := fun htrue => haccepted (write_snd.1 htrue)
    constructor
    · rintro ⟨hrejected, -, -, -⟩
      exact hrejected hfalse
    · intro hkept
      exact ⟨fun _ => hkept, fun h => absurd h hnot, fun h => absurd h hnot, fun h => absurd h hnot⟩

end

/-! ## A rejected write that is done in part -/

/-- The tables as the image has them, with the parameters as they are restored. -/
def TunableGlobals.restored : TunableGlobals where
  table := mstTunableParameterTable.map fun p => ⟨p.defValue, p.defValue, p.multiplier, p.defValue * p.multiplier⟩
  overwrite := 0
  columns := by decide +kernel

/-- A sample count of 0, then an id that the table does not have. -/
def partWrittenCmd : TunableWriteCmd where
  dataLength := 9
  data k := if k = 0 then 1 else if k = 2 then 2 else if k = 3 then 3 else if k = 6 then 200 else 0

/-- The command is rejected, and the sample count is 0 and an overwrite is asked for. -/
theorem rejected_write_stores :
    (TunableGlobals.restored.cmdhTunableParmsWrite partWrittenCmd).2 = false ∧
      TunableGlobals.restored.table[(2 : Fin 10)].value = 16 ∧
      (TunableGlobals.restored.cmdhTunableParmsWrite partWrittenCmd).1.table[(2 : Fin 10)].value = 0 ∧
      TunableGlobals.restored.overwrite = 0 ∧
      (TunableGlobals.restored.cmdhTunableParmsWrite partWrittenCmd).1.overwrite = 1 := by
  decide +kernel

end Occ.Cmdh
