/-
The addresses of the units: which fields of an address say that it is one of a unit, which unit's address the
translation makes, and when the accesses of two units, or a read and a write of one, can meet at a wrong register.
-/
import Occ.Firdata.ScomUtil
import Mathlib.Tactic.IntervalCases

namespace Occ.Firdata

variable {t : TrgtType} {u v : Nat} {a : BitVec 64}

/-! ## The units of an address -/

/-- The address lies in one of the ranges of the unit type that the translation tells apart. -/
def InRange (t : TrgtType) (a : BitVec 64) : Prop :=
  match t with
  | .xbus => 3 ≤ ring.get a % 16 ∧ ring.get a % 16 ≤ 8
  | .ex => 0x10 ≤ chipletId.get a ∧ chipletId.get a ≤ 0x15 ∨ 0x20 ≤ chipletId.get a ∧ chipletId.get a ≤ 0x37
  | .mcc => chipletId.get a = 5 ∨ chipletId.get a = 3 ∨
      (chipletId.get a = 7 ∨ chipletId.get a = 8) ∧ 4 ≤ satId.get a ∧ satId.get a ≤ 0xB
  | .omic => 4 ≤ ring.get a % 16 ∧ ring.get a % 16 ≤ 6 ∨ 9 ≤ ring.get a % 16 ∧ ring.get a % 16 ≤ 0xB
  | .npu => ring.get a % 16 = 4 ∨ ring.get a % 16 = 5 ∨ ring.get a % 16 = 7 ∨ ring.get a % 16 = 8 ∨ ring.get a % 16 = 0xF
  | _ => True

/-- The PEC of a PHB, and the place of the PHB among those of its PEC: there are one, two and three. -/
def phbPec (u : Nat) : Nat := if u < 1 then 0 else if u < 3 then 1 else 2
def phbStack (u : Nat) : Nat := if u < 1 then u else if u < 3 then u - 1 else u - 3

/-- Every field that names a unit names the unit `u`. -/
def OfUnit (t : TrgtType) (u : Nat) (a : BitVec 64) : Prop :=
  match t with
  | .proc | .ocmb => True
  | .capp => chipletId.get a = 2 + 2 * u
  | .xbus => InRange .xbus a → ring.get a = 3 + u ∨ ring.get a = 6 + u
  | .obus => chipletId.get a = 9 + u
  | .pec => if chipletId.get a = 4 then ring.get a = 3 + u else chipletId.get a = 0xD + u
  | .phb => (if chipletId.get a = 4 then ring.get a = 3 + phbPec u else chipletId.get a = 0xD + phbPec u) ∧
      (satId.get a = 1 + phbStack u ∨ satId.get a = 4 + phbStack u)
  | .ex =>
      if chipletId.get a < 0x20 then InRange .ex a → chipletId.get a = 0x10 + u / 2 ∧ ring.get a < 16 ∧ ring.get a % 2 = u % 2
      else InRange .ex a → chipletId.get a / 2 = 0x10 + u
  | .eq => chipletId.get a = 0x10 + u
  | .ec => chipletId.get a = 0x20 + u
  | .mcs | .mi => chipletId.get a = 5 - 2 * (u / 2) ∧ satId.get a = 2 * (u % 2)
  | .mcbist | .mc => chipletId.get a = 7 + u
  | .mca =>
      if chipletId.get a = 7 ∨ chipletId.get a = 8 then
        chipletId.get a = 7 + u / 4 ∧ if ring.get a % 16 = 2 then satId.get a % 4 = u % 4 else ring.get a = 4 + u % 4
      else
        chipletId.get a = 5 - 2 * (u / 4) ∧ satId.get a = 2 * (u / 2 % 2) ∧ satOffset.get a / 16 % 2 = u % 2
  | .mcc =>
      if chipletId.get a = 5 ∨ chipletId.get a = 3 then
        chipletId.get a = 5 - 2 * (u / 4) ∧ satId.get a = 2 * (u / 2 % 2) ∧ satOffset.get a / 16 = 2 + u % 2
      else if chipletId.get a = 7 ∨ chipletId.get a = 8 then
        chipletId.get a = 7 + u / 4 ∧ (InRange .mcc a → satId.get a % 4 = u % 4)
      else True
  | .omic => chipletId.get a = 7 + u / 3 ∧ (InRange .omic a → ring.get a = 4 + u % 3 ∨ ring.get a = 9 + u % 3)
  | .npu =>
      chipletId.get a = (if u = 2 then 3 else 5) ∧
        (InRange .npu a → if u = 2 then ring.get a = 7 ∨ ring.get a = 8 ∧ satId.get a < 3
          else ring.get a = 4 + u ∨ ring.get a = 0xF ∧ satId.get a / 3 = u)

theorem OfUnit.unique (hr : InRange t a) (hu : u < t.maxUnits) (hv : v < t.maxUnits) (h : OfUnit t u a) (h' : OfUnit t v a) :
    u = v := by
  cases t <;> simp only [OfUnit, InRange, TrgtType.maxUnits, phbPec, phbStack] at hr hu hv h h'
  all_goals grind

/-! ## The unit whose address is made -/

/-- The unit whose address the translation makes for the unit `u`. The stack of a PHB is computed with `2 * u / 5` for
`2 * (u / 5)`, and the satellite of an MCA's register in the MCS follows the parity of the MCA, not that of the MCS. -/
def takenFor (t : TrgtType) (u : Nat) (a : BitVec 64) : Nat :=
  match t with
  | .phb => if u = 3 ∨ u = 4 then u + 1 else u
  | .mca => if chipletId.get a = 7 ∨ chipletId.get a = 8 then u else u / 4 * 4 + if u % 2 = 0 then 0 else 3
  | _ => u

theorem takenFor_lt (hu : u < t.maxUnits) : takenFor t u a < t.maxUnits := by
  cases t <;> simp only [takenFor, TrgtType.maxUnits] at hu ⊢ <;> grind

theorem takenFor_zero : takenFor t 0 a = 0 := by
  cases t <;> simp [takenFor]

@[simp] theorem toNat_mcsSatOffset (u : Nat) :
    (mcsSatOffset u a).toNat = satOffset.get a / 32 * 32 + satOffset.get a % 16 + 16 * (u % 2) := by
  unfold mcsSatOffset
  have hbytes : ∀ o < 64, ∀ p < 2, (0x2F &&& BitVec.ofNat 8 o ||| BitVec.ofNat 8 p <<< 4).toNat = o / 32 * 32 + o % 16 + 16 * p := by
    decide
  have hoff : getSatOffset a = BitVec.ofNat 8 (satOffset.get a) := by
    rw [← toNat_getSatOffset, BitVec.ofNat_toNat, BitVec.setWidth_eq]
  rw [hoff]
  exact hbytes _ BitField.get_lt _ (Nat.mod_lt _ (by decide))

section
variable (n : Nat) (b : BitVec 8)

@[simp] theorem chipletId_setChipletId : chipletId.get (setChipletId b a) = b.toNat % 64 := by
  rw [setChipletId_eq_put, BitField.get_put (by decide)]
  rfl

@[simp] theorem ring_setRing : ring.get (setRing b a) = b.toNat % 64 := by
  rw [setRing_eq_put, BitField.get_put (by decide)]
  rfl

@[simp] theorem satId_setSatId : satId.get (setSatId b a) = b.toNat % 16 := by
  rw [setSatId_eq_put, BitField.get_put (by decide)]
  rfl

@[simp] theorem satOffset_setSatOffset : satOffset.get (setSatOffset b a) = b.toNat % 64 := by
  rw [setSatOffset_eq_put, BitField.get_put (by decide)]
  rfl

theorem get_setChipletId {f : BitField} (hf : f.Apart chipletId) : f.get (setChipletId b a) = f.get a := by
  rw [setChipletId_eq_put, BitField.get_put_of_apart hf]

theorem get_setRing {f : BitField} (hf : f.Apart ring) : f.get (setRing b a) = f.get a := by
  rw [setRing_eq_put, BitField.get_put_of_apart hf]

theorem get_setSatId {f : BitField} (hf : f.Apart satId) : f.get (setSatId b a) = f.get a := by
  rw [setSatId_eq_put, BitField.get_put_of_apart hf]

theorem get_setSatOffset {f : BitField} (hf : f.Apart satOffset) : f.get (setSatOffset b a) = f.get a := by
  rw [setSatOffset_eq_put, BitField.get_put_of_apart hf]

end

theorem and_15 (n : Nat) : n &&& 15 = n % 16 := Nat.and_two_pow_sub_one_eq_mod n 4

theorem ofUnit_xbusAddr (hu : u < 3) : OfUnit .xbus u (xbusAddr u a) := by
  simp only [xbusAddr, OfUnit, InRange]
  split_ifs
  all_goals simp [and_15] at *
  all_goals omega

theorem ofUnit_pecAddr (hu : u < 3) : OfUnit .pec u (pecAddr u a) := by
  simp only [pecAddr, OfUnit]
  split_ifs with hnest
  all_goals simp (disch := decide) [and_15, get_setRing, get_setChipletId] at *
  all_goals omega

theorem phbAddr_eq (hu : u < 6) :
    phbAddr u a =
      setSatId (.ofNat 8 ((if (getSatId a).toNat < 4 then 1 else 4) + phbStack (takenFor .phb u a)))
        (if (getChipletId a).toNat = 4 then setRing (.ofNat 8 (3 + phbPec u)) a
          else setChipletId (.ofNat 8 (0xD + phbPec u)) a) := by
  unfold phbAddr
  generalize (if (getSatId a).toNat < 4 then 1 else 4) = base
  by_cases hnest : (getChipletId a).toNat = 4
  · simp only [hnest, n2ChipletId, if_true]
    interval_cases u <;> simp [takenFor, phbStack, phbPec, Nat.add_assoc]
  · simp only [hnest, n2ChipletId, if_false]
    interval_cases u <;> simp [takenFor, phbStack, phbPec, Nat.add_assoc]

theorem phbPec_takenFor : phbPec (takenFor .phb u a) = phbPec u := by
  simp only [takenFor, phbPec]
  grind

theorem phbPec_lt : phbPec u < 3 := by
  unfold phbPec
  split_ifs <;> decide

theorem phbStack_lt (hu : u < 6) : phbStack u < 3 := by
  unfold phbStack
  split_ifs <;> omega

theorem ofUnit_phbAddr (hu : u < 6) : OfUnit .phb (takenFor .phb u a) (phbAddr u a) := by
  have hstack := phbStack_lt (takenFor_lt (t := .phb) (a := a) hu)
  have hpec := @phbPec_lt u
  simp only [phbAddr_eq hu, OfUnit, phbPec_takenFor]
  generalize phbStack (takenFor .phb u a) = stack at hstack
  generalize phbPec u = pec at hpec
  split_ifs
  all_goals simp (disch := decide) [get_setRing, get_setChipletId, get_setSatId] at *
  all_goals omega

theorem ofUnit_exAddr (hu : u < 12) : OfUnit .ex u (exAddr u a) := by
  simp only [exAddr, OfUnit, InRange]
  split_ifs
  all_goals simp (disch := decide) [and_15, get_setRing, get_setChipletId] at *
  all_goals omega

theorem ofUnit_mcsAddr (hu : u < 4) : OfUnit .mcs u (mcsAddr u a) := by
  simp (disch := decide) only [mcsAddr, OfUnit, get_setSatId, chipletId_setChipletId, satId_setSatId, n3ChipletId,
    BitVec.toNat_sub, BitVec.toNat_ofNat]
  omega

theorem ofUnit_mcaAddr (hu : u < 8) : OfUnit .mca (takenFor .mca u a) (mcaAddr u a) := by
  simp only [mcaAddr, OfUnit, takenFor]
  split_ifs
  all_goals simp (disch := decide) [and_15, get_setRing, get_setChipletId, get_setSatId, get_setSatOffset] at *
  all_goals omega

theorem ofUnit_mccAddr (hu : u < 8) : OfUnit .mcc u (mccAddr u a) := by
  simp only [mccAddr, OfUnit, InRange]
  split_ifs
  all_goals simp (disch := decide) [and_15, get_setChipletId, get_setSatId, get_setSatOffset] at *
  all_goals omega

theorem ofUnit_omicAddr (hu : u < 6) : OfUnit .omic u (omicAddr u a) := by
  simp only [omicAddr, OfUnit, InRange]
  split_ifs
  all_goals simp (disch := decide) [and_15, get_setChipletId, get_setRing] at *
  all_goals omega

theorem ofUnit_npuAddr (hu : u < 3) : OfUnit .npu u (npuAddr u a) := by
  obtain rfl | rfl | rfl : u = 0 ∨ u = 1 ∨ u = 2 := by omega
  all_goals simp only [npuAddr, OfUnit, InRange]
  all_goals split_ifs
  all_goals simp (disch := decide) [and_15, get_setChipletId, get_setRing, get_setSatId] at *
  all_goals omega

theorem ofUnit_unitAddr (hu : u < t.maxUnits) : OfUnit t (takenFor t u a) (unitAddr t u a) := by
  cases t with
  | proc | ocmb => exact trivial
  | xbus => exact ofUnit_xbusAddr hu
  | pec => exact ofUnit_pecAddr hu
  | phb => exact ofUnit_phbAddr hu
  | ex => exact ofUnit_exAddr hu
  | mcs | mi => exact ofUnit_mcsAddr hu
  | mca => exact ofUnit_mcaAddr hu
  | mcc => exact ofUnit_mccAddr hu
  | omic => exact ofUnit_omicAddr hu
  | npu => exact ofUnit_npuAddr hu
  | capp | obus | eq | ec | mcbist | mc =>
    simp only [TrgtType.maxUnits] at hu
    simp [OfUnit, unitAddr, takenFor]
    omega

/-! ## What the translation changes -/

/-- The unit is named in the satellite offset as well: registers of an MCA or an MCC in the nest chiplet of its MCS. -/
def EncodesOffset (t : TrgtType) (a : BitVec 64) : Prop :=
  t = .mca ∧ ¬ (chipletId.get a = 7 ∨ chipletId.get a = 8) ∨ t = .mcc ∧ (chipletId.get a = 5 ∨ chipletId.get a = 3)

/-- The bit is in a field that the translation may change. -/
def MayChange (t : TrgtType) (a : BitVec 64) (i : Nat) : Prop :=
  chipletId.Has i ∨ ring.Has i ∨ satId.Has i ∨ EncodesOffset t a ∧ satOffset.Has i

section
variable {i : Nat} (b : BitVec 8)

theorem getLsbD_setChipletId (h : ¬ chipletId.Has i) : (setChipletId b a).getLsbD i = a.getLsbD i := by
  rw [setChipletId_eq_put, BitField.getLsbD_put_of_not_has h]

theorem getLsbD_setRing (h : ¬ ring.Has i) : (setRing b a).getLsbD i = a.getLsbD i := by
  rw [setRing_eq_put, BitField.getLsbD_put_of_not_has h]

theorem getLsbD_setSatId (h : ¬ satId.Has i) : (setSatId b a).getLsbD i = a.getLsbD i := by
  rw [setSatId_eq_put, BitField.getLsbD_put_of_not_has h]

theorem getLsbD_setSatOffset (h : ¬ satOffset.Has i) : (setSatOffset b a).getLsbD i = a.getLsbD i := by
  rw [setSatOffset_eq_put, BitField.getLsbD_put_of_not_has h]

theorem getLsbD_unitAddr (t : TrgtType) (u : Nat) (h : ¬ MayChange t a i) : (unitAddr t u a).getLsbD i = a.getLsbD i := by
  simp only [MayChange, not_or, not_and] at h
  obtain ⟨hchiplet, hring, hsat, hoffset⟩ := h
  cases t <;> simp only [unitAddr, xbusAddr, pecAddr, phbAddr, exAddr, mcsAddr, mcaAddr, mccAddr, omicAddr, npuAddr]
  case mca =>
    split_ifs with hmc
    · simp only [getLsbD_setSatId _ hsat, getLsbD_setChipletId _ hchiplet]
    · simp only [getLsbD_setRing _ hring, getLsbD_setChipletId _ hchiplet]
    · have hoff : ¬ satOffset.Has i := hoffset (.inl ⟨rfl, by simpa using hmc⟩)
      simp only [getLsbD_setSatOffset _ hoff, getLsbD_setSatId _ hsat, getLsbD_setChipletId _ hchiplet]
  case mcc =>
    split_ifs with hnest
    · have hoff : ¬ satOffset.Has i := hoffset (.inr ⟨rfl, by simpa using hnest⟩)
      simp only [getLsbD_setSatOffset _ hoff, getLsbD_setSatId _ hsat, getLsbD_setChipletId _ hchiplet]
    all_goals simp only [getLsbD_setSatId _ hsat, getLsbD_setChipletId _ hchiplet]
  all_goals
    try split_ifs
    all_goals simp only [getLsbD_setRing _ hring, getLsbD_setSatId _ hsat, getLsbD_setChipletId _ hchiplet]

end

/-- The fields that can name a unit are the same. -/
structure SameFields (a b : BitVec 64) : Prop where
  chiplet : chipletId.get a = chipletId.get b
  ring : ring.get a = ring.get b
  sat : satId.get a = satId.get b
  offset : satOffset.get a = satOffset.get b

theorem getLsbD_eq_of_get_eq {f : BitField} {b : BitVec 64} {i : Nat} (h : f.get a = f.get b) (hi : f.Has i) :
    a.getLsbD i = b.getLsbD i := by
  obtain ⟨hlo, hhi⟩ := hi
  have hbit : (f.get a).testBit (i - f.lo) = (f.get b).testBit (i - f.lo) := by rw [h]
  have hoff : i - f.lo < f.len := by omega
  simpa [BitField.testBit_get, hoff, Nat.add_sub_cancel' hlo] using hbit

theorem unitAddr_eq_self (h : SameFields (unitAddr t u a) a) : unitAddr t u a = a := by
  apply BitVec.eq_of_getLsbD_eq
  intro i _
  by_cases hmay : MayChange t a i
  · rcases hmay with hi | hi | hi | ⟨_, hi⟩
    · exact getLsbD_eq_of_get_eq h.chiplet hi
    · exact getLsbD_eq_of_get_eq h.ring hi
    · exact getLsbD_eq_of_get_eq h.sat hi
    · exact getLsbD_eq_of_get_eq h.offset hi
  · exact getLsbD_unitAddr t u hmay

theorem ring_lt : ring.get a < 64 := BitField.get_lt
theorem satId_lt : satId.get a < 16 := BitField.get_lt
theorem satOffset_lt : satOffset.get a < 64 := BitField.get_lt

theorem sameFields_xbusAddr (hu : u < 3) (h : OfUnit .xbus u a) : SameFields (xbusAddr u a) a := by
  have hring := @ring_lt a
  simp only [OfUnit, InRange] at h
  constructor <;> simp only [xbusAddr] <;> split_ifs
  all_goals simp (disch := decide) [and_15, get_setRing] at *
  all_goals omega

theorem sameFields_pecAddr (hu : u < 3) (h : OfUnit .pec u a) : SameFields (pecAddr u a) a := by
  have hring := @ring_lt a
  simp only [OfUnit] at h
  constructor <;> simp only [pecAddr] <;> split_ifs
  all_goals simp (disch := decide) [and_15, get_setRing, get_setChipletId] at *
  all_goals grind

theorem sameFields_phbAddr (hu : u < 6) (h : OfUnit .phb (takenFor .phb u a) a) : SameFields (phbAddr u a) a := by
  have hstack := phbStack_lt (takenFor_lt (t := .phb) (a := a) hu)
  have hpec := @phbPec_lt u
  simp only [OfUnit, phbPec_takenFor] at h
  rw [phbAddr_eq hu]
  generalize phbStack (takenFor .phb u a) = stack at h hstack
  generalize phbPec u = pec at h hpec
  constructor <;> split_ifs
  all_goals simp (disch := decide) [get_setRing, get_setChipletId, get_setSatId] at *
  all_goals grind

theorem sameFields_exAddr (hu : u < 12) (h : OfUnit .ex u a) : SameFields (exAddr u a) a := by
  have hring := @ring_lt a
  simp only [OfUnit, InRange] at h
  constructor <;> simp only [exAddr] <;> split_ifs
  all_goals simp (disch := decide) [and_15, get_setRing, get_setChipletId] at *
  all_goals grind

theorem sameFields_mcsAddr (hu : u < 4) (h : OfUnit .mcs u a) : SameFields (mcsAddr u a) a := by
  obtain ⟨hchiplet, hsat⟩ := h
  constructor <;> simp only [mcsAddr]
  all_goals simp (disch := decide) [get_setSatId, get_setChipletId]
  all_goals omega

theorem sameFields_mcaAddr (hu : u < 8) (h : OfUnit .mca (takenFor .mca u a) a) : SameFields (mcaAddr u a) a := by
  have hsat := @satId_lt a
  have hoff := @satOffset_lt a
  simp only [OfUnit, takenFor] at h
  constructor <;> simp only [mcaAddr] <;> split_ifs
  all_goals simp (disch := decide) [and_15, get_setRing, get_setChipletId, get_setSatId, get_setSatOffset] at *
  all_goals grind

theorem sameFields_mccAddr (hu : u < 8) (h : OfUnit .mcc u a) : SameFields (mccAddr u a) a := by
  have hsat := @satId_lt a
  have hoff := @satOffset_lt a
  simp only [OfUnit, InRange] at h
  constructor <;> simp only [mccAddr] <;> split_ifs
  all_goals simp (disch := decide) [and_15, Nat.shiftLeft_eq, get_setChipletId, get_setSatId, get_setSatOffset] at *
  all_goals grind

theorem sameFields_omicAddr (hu : u < 6) (h : OfUnit .omic u a) : SameFields (omicAddr u a) a := by
  have hring := @ring_lt a
  simp only [OfUnit, InRange] at h
  constructor <;> simp only [omicAddr] <;> split_ifs
  all_goals simp (disch := decide) [and_15, get_setChipletId, get_setRing] at *
  all_goals omega

theorem sameFields_npuAddr (hu : u < 3) (h : OfUnit .npu u a) : SameFields (npuAddr u a) a := by
  have hring := @ring_lt a
  have hsat := @satId_lt a
  simp only [OfUnit, InRange] at h
  constructor <;> simp only [npuAddr] <;> split_ifs
  all_goals simp (disch := decide) [and_15, get_setChipletId, get_setRing, get_setSatId] at *
  all_goals grind

theorem unitAddr_eq_self_iff (hu : u < t.maxUnits) : unitAddr t u a = a ↔ OfUnit t (takenFor t u a) a := by
  constructor
  · intro h
    have hof := ofUnit_unitAddr (a := a) hu
    rwa [h] at hof
  · intro h
    apply unitAddr_eq_self
    cases t with
    | proc | ocmb => exact ⟨rfl, rfl, rfl, rfl⟩
    | xbus => exact sameFields_xbusAddr hu h
    | pec => exact sameFields_pecAddr hu h
    | phb => exact sameFields_phbAddr hu h
    | ex => exact sameFields_exAddr hu h
    | mcs | mi => exact sameFields_mcsAddr hu h
    | mca => exact sameFields_mcaAddr hu h
    | mcc => exact sameFields_mccAddr hu h
    | omic => exact sameFields_omicAddr hu h
    | npu => exact sameFields_npuAddr hu h
    | capp | obus | eq | ec | mcbist | mc =>
      simp only [OfUnit, takenFor, TrgtType.maxUnits] at h hu
      simp only [unitAddr]
      constructor
      · simp
        omega
      all_goals rw [get_setChipletId _ (by decide)]

/-! ## Units that are confused -/

/-- The two units get one address: the last two PHBs, and in an MCS's chiplet the MCAs of one half and one parity. -/
def Confused (t : TrgtType) (u v : Nat) (a : BitVec 64) : Prop :=
  match t with
  | .phb => u = 4 ∧ v = 5 ∨ u = 5 ∧ v = 4
  | .mca => ¬ (chipletId.get a = 7 ∨ chipletId.get a = 8) ∧ u ≠ v ∧ u / 4 = v / 4 ∧ u % 2 = v % 2
  | _ => False

theorem confused_iff (hu : u < t.maxUnits) (hv : v < t.maxUnits) :
    Confused t u v a ↔ u ≠ v ∧ takenFor t u a = takenFor t v a := by
  cases t <;> simp only [Confused, takenFor, TrgtType.maxUnits] at hu hv ⊢
  all_goals grind

theorem unitAddr_eq_of_confused (h : Confused t u v a) : unitAddr t u a = unitAddr t v a := by
  cases t <;> simp only [Confused] at h
  case phb =>
    rcases h with ⟨rfl, rfl⟩ | ⟨rfl, rfl⟩
    · rfl
    · rfl
  case mca =>
    obtain ⟨hmcs, _, hhalf, hparity⟩ := h
    have hmcs' : ¬ ((getChipletId a).toNat = mc01ChipletId ∨ (getChipletId a).toNat = mc23ChipletId) := by simpa using hmcs
    have hunit : u / 2 / 2 = v / 2 / 2 := by omega
    simp only [unitAddr, mcaAddr, if_neg hmcs', mcsSatOffset, hunit, hparity]

theorem inRange_unitAddr (hu : u < t.maxUnits) (h : InRange t a) : InRange t (unitAddr t u a) := by
  cases t with
  | proc | ocmb | capp | obus | pec | phb | eq | ec | mcbist | mcs | mca | mc | mi => exact trivial
  | xbus | ex | mcc | omic | npu =>
    simp only [InRange, unitAddr, xbusAddr, exAddr, mccAddr, omicAddr, npuAddr, TrgtType.maxUnits] at h hu ⊢
    split_ifs
    all_goals simp (disch := decide) [and_15, Nat.shiftLeft_eq, get_setChipletId, get_setRing, get_setSatId, get_setSatOffset] at *
    all_goals omega

theorem unitAddr_eq_iff (hr : InRange t a) (hu : u < t.maxUnits) (hv : v < t.maxUnits) (hne : u ≠ v) :
    unitAddr t u a = unitAddr t v a ↔ Confused t u v a := by
  constructor
  · intro h
    rw [confused_iff hu hv]
    refine ⟨hne, ?_⟩
    have hofv := ofUnit_unitAddr (a := a) hv
    rw [← h] at hofv
    exact (ofUnit_unitAddr hu).unique (inRange_unitAddr hu hr) (takenFor_lt hu) (takenFor_lt hv) hofv
  · exact unitAddr_eq_of_confused

/-! ## The law of the translation -/

/-- What holds of the translation for two targets of one type, and of the accesses to the first. -/
structure ScomLaw (hw : ScomHardware) (trgt other : ScomTrgt) (a : BitVec 64) (addr : BitVec 32) (val : BitVec 64) : Prop where
  /-- different units have different addresses -/
  apart : trgt.getChipUnitPos ≠ other.getChipUnitPos → translateAddr trgt a ≠ translateAddr other a
  frame : ∀ i, ¬ MayChange trgt.type a i → (translateAddr trgt a).getLsbD i = a.getLsbD i
  unitZero : trgt.getChipUnitPos = 0 → OfUnit trgt.type 0 a → translateAddr trgt a = a
  get : (getScom hw trgt addr).access.chipAddr = translateAddr trgt (addr.setWidth 64)
  put : (putScom hw trgt addr val).access.chipAddr = translateAddr trgt (addr.setWidth 64)

/-- The units are not confused, and the target is on the master chip or the address already is the one to access. -/
structure ScomOk (trgt other : ScomTrgt) (a : BitVec 64) (addr : BitVec 32) : Prop where
  apart : ¬ Confused trgt.type trgt.getChipUnitPos.toNat other.getChipUnitPos.toNat a
  put : trgt.getParentChip.isMaster = true ∨
    OfUnit trgt.type (takenFor trgt.type trgt.getChipUnitPos.toNat (addr.setWidth 64)) (addr.setWidth 64)

theorem chipAddr_direct (trgt : ScomTrgt) (addr : BitVec 32) :
    ((translateAddr trgt (addr.setWidth 64)).setWidth 32).setWidth 64 = translateAddr trgt (addr.setWidth 64) := by
  apply BitVec.eq_of_getLsbD_eq
  intro i hi
  simp only [BitVec.getLsbD_setWidth, hi, decide_true, Bool.true_and]
  by_cases hlow : i < 32
  · simp [hlow]
  · -- no field lies that high
    have hmay : ¬ MayChange trgt.type (addr.setWidth 64) i := by
      simp only [MayChange, BitField.Has, chipletId, ring, satId, satOffset]
      omega
    rw [translateAddr, getLsbD_unitAddr _ _ hmay, BitVec.getLsbD_setWidth, BitVec.getLsbD_of_ge addr i (by omega)]
    simp [hlow]

theorem getScom_chipAddr (hw : ScomHardware) (trgt : ScomTrgt) (addr : BitVec 32) :
    (getScom hw trgt addr).access.chipAddr = translateAddr trgt (addr.setWidth 64) := by
  cases hm : trgt.getParentChip.isMaster
  · simp only [getScom, hm, Bool.not_false, if_true]
    rfl
  · simp only [getScom, hm, Bool.not_true, Bool.false_eq_true, if_false]
    exact chipAddr_direct trgt addr

theorem putScom_chipAddr (hw : ScomHardware) (trgt : ScomTrgt) (addr : BitVec 32) (val : BitVec 64) :
    (putScom hw trgt addr val).access.chipAddr =
      if trgt.getParentChip.isMaster then translateAddr trgt (addr.setWidth 64) else addr.setWidth 64 := by
  cases hm : trgt.getParentChip.isMaster
  · simp only [putScom, hm, Bool.not_false, if_true, Bool.false_eq_true, if_false]
    rfl
  · simp only [putScom, hm, Bool.not_true, Bool.false_eq_true, if_false, if_true]
    exact chipAddr_direct trgt addr

theorem scomLaw_iff {hw : ScomHardware} {trgt other : ScomTrgt} {a : BitVec 64} {addr : BitVec 32} {val : BitVec 64}
    (htype : other.type = trgt.type) (hu : trgt.getChipUnitPos.toNat < trgt.type.maxUnits)
    (hv : other.getChipUnitPos.toNat < other.type.maxUnits) (hr : InRange trgt.type a) :
    ScomLaw hw trgt other a addr val ↔ ScomOk trgt other a addr := by
  rw [htype] at hv
  constructor
  · intro h
    refine ⟨fun hc => ?_, ?_⟩
    · have hne : trgt.getChipUnitPos ≠ other.getChipUnitPos := by
        intro heq
        rw [confused_iff hu hv, heq] at hc
        exact hc.1 rfl
      apply h.apart hne
      rw [translateAddr, translateAddr, htype]
      exact unitAddr_eq_of_confused hc
    · cases hm : trgt.getParentChip.isMaster
      · right
        have hput := h.put
        rw [putScom_chipAddr, hm] at hput
        exact (unitAddr_eq_self_iff hu).mp hput.symm
      · exact .inl rfl
  · intro h
    constructor
    · intro hne heq
      rw [translateAddr, translateAddr, htype] at heq
      have hne' : trgt.getChipUnitPos.toNat ≠ other.getChipUnitPos.toNat := by
        rwa [ne_eq, ← BitVec.toNat_inj] at hne
      exact h.apart ((unitAddr_eq_iff hr hu hv hne').mp heq)
    · intro i hi
      exact getLsbD_unitAddr _ _ hi
    · intro hzero hof
      apply (unitAddr_eq_self_iff hu).mpr
      rw [hzero]
      exact takenFor_zero (t := trgt.type) (a := a) ▸ hof
    · exact getScom_chipAddr hw trgt addr
    · rw [putScom_chipAddr]
      rcases h.put with hm | hof
      · rw [if_pos hm]
      · split
        · rfl
        · exact ((unitAddr_eq_self_iff hu).mpr hof).symm

/-- Hardware whose accesses succeed. -/
def idleHardware : ScomHardware := ⟨fun _ => (0, 0), fun _ _ => 0⟩

/-- The last two PHBs have one address, two MCAs of one half have one in the chiplet of their MCS, and a write to the
second PHB of a slave chip goes to the first. -/
theorem scomLaw_fails :
    ¬ ScomLaw idleHardware ⟨.phb, 1, 4, true, 0⟩ ⟨.phb, 1, 5, true, 0⟩ 0x04010C40 0x04010C40 0 ∧
      ¬ ScomLaw idleHardware ⟨.mca, 1, 0, true, 0⟩ ⟨.mca, 1, 2, true, 0⟩ 0x05010800 0x05010800 0 ∧
      ¬ ScomLaw idleHardware ⟨.phb, 1, 1, false, 0⟩ ⟨.phb, 1, 0, false, 0⟩ 0x04010C40 0x04010C40 0 := by
  refine ⟨fun h => ?_, fun h => ?_, fun h => ?_⟩
  · exact absurd (h.apart (by decide)) (by decide)
  · exact absurd (h.apart (by decide)) (by decide)
  · exact absurd h.put (by decide)

/-- The law holds of the first and the last PHB of the master chip. -/
theorem scomLaw_iff_phb :
    ScomLaw idleHardware ⟨.phb, 0, 0, true, 0⟩ ⟨.phb, 0, 5, true, 0⟩ 0x04010C40 0x04010C40 0 ↔
      ScomOk ⟨.phb, 0, 0, true, 0⟩ ⟨.phb, 0, 5, true, 0⟩ 0x04010C40 0x04010C40 :=
  scomLaw_iff rfl (by decide) (by decide) trivial

end Occ.Firdata
