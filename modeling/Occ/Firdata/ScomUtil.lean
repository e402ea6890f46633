/-
SCOM access to the units of a chip (`firdata/scom_util.c`, `scom_addr_util.c`, `scom_trgt.c`): a register of a unit is
named by the address it has in the first unit of the type, and translated to the address in the chip before the access.
-/
import Occ.Lib.BitField
import Mathlib

namespace Occ.Firdata

/-- `TrgtType_t` -/
inductive TrgtType
  | proc | capp | xbus | obus | pec | phb | eq | ex | ec
  | mcbist | mcs | mca
  | mc | mi | mcc | omic | npu
  | ocmb
deriving DecidableEq, Repr

/-- `MAX_..._PER_PROC`; a chip has no unit but itself, at the unit position 0. -/
def TrgtType.maxUnits : TrgtType → Nat
  | .proc | .ocmb => 1
  | .capp | .mcbist | .mc => 2
  | .xbus | .pec | .npu => 3
  | .obus | .mcs | .mi => 4
  | .phb | .eq | .omic => 6
  | .mca | .mcc => 8
  | .ex => 12
  | .ec => 24

/-- `SCOM_Trgt_t` -/
structure ScomTrgt where
  type : TrgtType
  procPos : BitVec 8
  procUnitPos : BitVec 8
  isMaster : Bool
  fsiBaseAddr : BitVec 32
deriving DecidableEq

namespace ScomTrgt

def getTrgt (type : TrgtType) (procPos procUnitPos : BitVec 8) (fsiBaseAddr : BitVec 32) (isMaster : Bool) : ScomTrgt where
  type
  procPos
  procUnitPos := if type = .proc then 0 else procUnitPos
  -- only processor targets can be on the master processor
  isMaster := isMaster && type != .ocmb
  fsiBaseAddr

def getChipUnitPos (trgt : ScomTrgt) : BitVec 8 :=
  match trgt.type with
  | .proc | .ocmb => 0
  | _ => trgt.procUnitPos

def getParentChip (trgt : ScomTrgt) : ScomTrgt :=
  getTrgt (if trgt.type = .ocmb then .ocmb else .proc) trgt.procPos trgt.procUnitPos trgt.fsiBaseAddr trgt.isMaster

end ScomTrgt

/-! ## The fields of an address -/

def setSatId (satId : BitVec 8) (addr : BitVec 64) : BitVec 64 :=
  (addr &&& 0xFFFFFFFFFFFFFC3F) ||| ((satId &&& 0xF).setWidth 64 <<< 6)

def setChipletId (chipletId : BitVec 8) (addr : BitVec 64) : BitVec 64 :=
  (addr &&& 0xFFFFFFFFC0FFFFFF) ||| ((chipletId &&& 0x3F).setWidth 64 <<< 24)

def setRing (ring : BitVec 8) (addr : BitVec 64) : BitVec 64 :=
  (addr &&& 0xFFFFFFFFFFFF03FF) ||| ((ring &&& 0x3F).setWidth 64 <<< 10)

def setSatOffset (satOffset : BitVec 8) (addr : BitVec 64) : BitVec 64 :=
  (addr &&& 0xFFFFFFFFFFFFFFC0) ||| (satOffset &&& 0x3F).setWidth 64

def getSatId (addr : BitVec 64) : BitVec 8 := (addr >>> 6 &&& 0xF).setWidth 8

def getChipletId (addr : BitVec 64) : BitVec 8 := (addr >>> 24 &&& 0x3F).setWidth 8

def getRing (addr : BitVec 64) : BitVec 8 := (addr >>> 10 &&& 0x3F).setWidth 8

def getSatOffset (addr : BitVec 64) : BitVec 8 := (addr &&& 0x3F).setWidth 8

def satOffset : BitField := ⟨0, 6⟩
def satId : BitField := ⟨6, 4⟩
def ring : BitField := ⟨10, 6⟩
def chipletId : BitField := ⟨24, 6⟩

section
variable (v : BitVec 8) (a : BitVec 64)

theorem setWidth_and_ones (n : Nat) (hn : n ≤ 8) :
    (v &&& BitVec.ofNat 8 (2 ^ n - 1)).setWidth 64 = BitVec.ofNat 64 (v.toNat % 2 ^ n) := by
  have hpow : 2 ^ n ≤ 2 ^ 8 := Nat.pow_le_pow_right (by decide) hn
  have hv := v.isLt
  have hmod : v.toNat % 2 ^ n ≤ v.toNat := Nat.mod_le _ _
  apply BitVec.eq_of_toNat_eq
  rw [BitVec.toNat_setWidth, BitVec.toNat_and, BitVec.toNat_ofNat, Nat.mod_eq_of_lt (a := 2 ^ n - 1) (by omega),
    Nat.and_two_pow_sub_one_eq_mod, BitVec.toNat_ofNat]

theorem setSatId_eq_put : setSatId v a = satId.put v.toNat a := by
  unfold setSatId BitField.put
  rw [show (0xF : BitVec 8) = BitVec.ofNat 8 (2 ^ 4 - 1) from rfl, setWidth_and_ones v 4 (by decide)]
  rfl

theorem setChipletId_eq_put : setChipletId v a = chipletId.put v.toNat a := by
  unfold setChipletId BitField.put
  rw [show (0x3F : BitVec 8) = BitVec.ofNat 8 (2 ^ 6 - 1) from rfl, setWidth_and_ones v 6 (by decide)]
  rfl

theorem setRing_eq_put : setRing v a = ring.put v.toNat a := by
  unfold setRing BitField.put
  rw [show (0x3F : BitVec 8) = BitVec.ofNat 8 (2 ^ 6 - 1) from rfl, setWidth_and_ones v 6 (by decide)]
  rfl

theorem setSatOffset_eq_put : setSatOffset v a = satOffset.put v.toNat a := by
  unfold setSatOffset BitField.put
  rw [show (0x3F : BitVec 8) = BitVec.ofNat 8 (2 ^ 6 - 1) from rfl, setWidth_and_ones v 6 (by decide)]
  simp [satOffset, BitField.mask]

theorem toNat_field (n : Nat) (hn : n ≤ 8) (x : BitVec 64) :
    ((x &&& BitVec.ofNat 64 (2 ^ n - 1)).setWidth 8).toNat = x.toNat % 2 ^ n := by
  have hpow : 2 ^ n ≤ 2 ^ 8 := Nat.pow_le_pow_right (by decide) hn
  have hlt : x.toNat % 2 ^ n < 2 ^ n := Nat.mod_lt _ (Nat.two_pow_pos n)
  rw [BitVec.toNat_setWidth, BitVec.toNat_and, BitVec.toNat_ofNat, Nat.mod_eq_of_lt (a := 2 ^ n - 1) (by omega),
    Nat.and_two_pow_sub_one_eq_mod, Nat.mod_eq_of_lt (by omega)]

@[simp] theorem toNat_getSatId : (getSatId a).toNat = satId.get a := by
  rw [getSatId, show (0xF : BitVec 64) = BitVec.ofNat 64 (2 ^ 4 - 1) from rfl, toNat_field 4 (by decide),
    BitVec.toNat_ushiftRight, Nat.shiftRight_eq_div_pow]
  rfl

@[simp] theorem toNat_getChipletId : (getChipletId a).toNat = chipletId.get a := by
  rw [getChipletId, show (0x3F : BitVec 64) = BitVec.ofNat 64 (2 ^ 6 - 1) from rfl, toNat_field 6 (by decide),
    BitVec.toNat_ushiftRight, Nat.shiftRight_eq_div_pow]
  rfl

@[simp] theorem toNat_getRing : (getRing a).toNat = ring.get a := by
  rw [getRing, show (0x3F : BitVec 64) = BitVec.ofNat 64 (2 ^ 6 - 1) from rfl, toNat_field 6 (by decide),
    BitVec.toNat_ushiftRight, Nat.shiftRight_eq_div_pow]
  rfl

@[simp] theorem toNat_getSatOffset : (getSatOffset a).toNat = satOffset.get a := by
  rw [getSatOffset, show (0x3F : BitVec 64) = BitVec.ofNat 64 (2 ^ 6 - 1) from rfl, toNat_field 6 (by decide)]
  simp [satOffset, BitField.get]

end

/-! ## Translation -/

-- `p9_chiplet_id_t`
@[simp] def n0ChipletId : Nat := 0x02
@[simp] def n1ChipletId : Nat := 0x03
@[simp] def n2ChipletId : Nat := 0x04
@[simp] def n3ChipletId : Nat := 0x05
@[simp] def mc01ChipletId : Nat := 0x07
@[simp] def mc23ChipletId : Nat := 0x08
@[simp] def ob0ChipletId : Nat := 0x09
@[simp] def pci0ChipletId : Nat := 0x0D
@[simp] def ep00ChipletId : Nat := 0x10
@[simp] def ep05ChipletId : Nat := 0x15
@[simp] def ec00ChipletId : Nat := 0x20
@[simp] def ec23ChipletId : Nat := 0x37

-- `p9_mc_ring_id_t`, `p9_xb_ring_id_t`, `p9_n2_ring_id_t`, `p9a_mc_ring_id_t`, `p9a_npu_ring_id_t`
@[simp] def mcMc01Ring0 : Nat := 0x2
@[simp] def mcIom01Ring0 : Nat := 0x4
@[simp] def xbIoxRing0 : Nat := 0x3
@[simp] def xbIoxRing2 : Nat := 0x5
@[simp] def xbPbioxRing0 : Nat := 0x6
@[simp] def xbPbioxRing2 : Nat := 0x8
@[simp] def n2Pcis0Ring0 : Nat := 0x3
@[simp] def mcOmic0Ring : Nat := 0x4
@[simp] def mcOmic2Ring : Nat := 0x6
@[simp] def mcOmic0PpeRing : Nat := 0x9
@[simp] def mcOmic2PpeRing : Nat := 0xB
@[simp] def n3Npu0Ring : Nat := 0x4
@[simp] def n3Npu1Ring : Nat := 0x5
@[simp] def npu2Ring : Nat := 0x7
@[simp] def npu2FirRing : Nat := 0x8
@[simp] def npu0FirRing : Nat := 0xF

-- `p9a_mc_sat_id_t`
@[simp] def mcDstlChan0SatId : Nat := 0x4
@[simp] def mcDstlChan3SatId : Nat := 0x7
@[simp] def mcUstlChan0SatId : Nat := 0x8
@[simp] def mcUstlChan3SatId : Nat := 0xB

section
variable (unit : Nat) (addr : BitVec 64)

def xbusAddr : BitVec 64 :=
  let ringId := (getRing addr &&& 0xF).toNat
  if ringId ≤ xbIoxRing2 ∧ ringId ≥ xbIoxRing0 then
    setRing (.ofNat 8 (xbIoxRing0 + unit) &&& 0xF) addr
  else if ringId ≤ xbPbioxRing2 ∧ ringId ≥ xbPbioxRing0 then
    setRing (.ofNat 8 (xbPbioxRing0 + unit) &&& 0xF) addr
  else
    addr

def pecAddr : BitVec 64 :=
  if (getChipletId addr).toNat = n2ChipletId then
    setRing (.ofNat 8 (n2Pcis0Ring0 + unit) &&& 0xF) addr
  else
    setChipletId (.ofNat 8 (pci0ChipletId + unit)) addr

def phbAddr : BitVec 64 :=
  let base := if (getSatId addr).toNat < 4 then 1 else 4
  if (getChipletId addr).toNat = n2ChipletId then
    -- nest
    if unit = 0 then
      setSatId (.ofNat 8 base) (setRing (.ofNat 8 n2Pcis0Ring0 &&& 0xF) addr)
    else
      setSatId (.ofNat 8 (base + (if unit % 2 ≠ 0 then 0 else 1) + 2 * unit / 5))
        (setRing (.ofNat 8 (n2Pcis0Ring0 + unit / 3 + 1) &&& 0xF) addr)
  else
    -- pci
    if unit = 0 then
      setSatId (.ofNat 8 base) (setChipletId (.ofNat 8 pci0ChipletId) addr)
    else
      setSatId (.ofNat 8 (base + (if unit % 2 ≠ 0 then 0 else 1) + 2 * unit / 5))
        (setChipletId (.ofNat 8 (pci0ChipletId + unit / 3 + 1)) addr)

def exAddr : BitVec 64 :=
  let chiplet := (getChipletId addr).toNat
  if chiplet ≤ ep05ChipletId ∧ chiplet ≥ ep00ChipletId then
    let ringId := (getRing addr &&& 0xF).toNat
    setRing (.ofNat 8 (ringId - ringId % 2 + unit % 2) &&& 0xF) (setChipletId (.ofNat 8 (ep00ChipletId + unit / 2)) addr)
  else if chiplet ≤ ec23ChipletId ∧ chiplet ≥ ec00ChipletId then
    setChipletId (.ofNat 8 (ec00ChipletId + chiplet % 2 + unit * 2)) addr
  else
    addr

def mcsAddr : BitVec 64 :=
  setSatId (.ofNat 8 (2 * (unit % 2))) (setChipletId (.ofNat 8 n3ChipletId - .ofNat 8 (2 * (unit / 2))) addr)

/-- `l_mcs_sat_offset` -/
def mcsSatOffset : BitVec 8 := 0x2F &&& getSatOffset addr ||| BitVec.ofNat 8 (unit % 2) <<< 4

def mcaAddr : BitVec 64 :=
  let chiplet := (getChipletId addr).toNat
  if chiplet = mc01ChipletId ∨ chiplet = mc23ChipletId then
    let mcAddr := setChipletId (.ofNat 8 (mc01ChipletId + unit / 4)) addr
    if (getRing addr &&& 0xF).toNat = mcMc01Ring0 then
      -- mc
      let sat := (getSatId addr).toNat
      setSatId (.ofNat 8 (sat - sat % 4 + unit % 4)) mcAddr
    else
      -- iomc
      setRing (.ofNat 8 (mcIom01Ring0 + unit % 4) &&& 0xF) mcAddr
  else
    -- mcs->mca registers
    let mcsUnitnum := unit / 2
    setSatOffset (mcsSatOffset unit addr)
      (setSatId (.ofNat 8 (2 * (unit % 2))) (setChipletId (.ofNat 8 n3ChipletId - .ofNat 8 (2 * (mcsUnitnum / 2))) addr))

/-- The two conditions look at the address that came in, and at most one holds. -/
def mccAddr : BitVec 64 :=
  let chiplet := (getChipletId addr).toNat
  if chiplet = n3ChipletId ∨ chiplet = n1ChipletId then
    let offset := (getSatOffset addr &&& 0xF) + .ofNat 8 ((2 + unit % 2) <<< 4)
    setSatOffset offset
      (setSatId (.ofNat 8 (2 * (unit / 2 % 2))) (setChipletId (.ofNat 8 n3ChipletId - .ofNat 8 (2 * (unit / 4))) addr))
  else if chiplet = mc01ChipletId ∨ chiplet = mc23ChipletId then
    let mcAddr := setChipletId (.ofNat 8 (mc01ChipletId + unit / 4)) addr
    let sat := (getSatId addr).toNat
    if mcDstlChan0SatId ≤ sat ∧ sat ≤ mcDstlChan3SatId then
      setSatId (.ofNat 8 (mcDstlChan0SatId + unit % 4)) mcAddr
    else if mcUstlChan0SatId ≤ sat ∧ sat ≤ mcUstlChan3SatId then
      setSatId (.ofNat 8 (mcUstlChan0SatId + unit % 4)) mcAddr
    else
      mcAddr
  else
    addr

def omicAddr : BitVec 64 :=
  let mcAddr := setChipletId (.ofNat 8 (mc01ChipletId + unit / 3)) addr
  let ringId := (getRing addr &&& 0xF).toNat
  if mcOmic0Ring ≤ ringId ∧ ringId ≤ mcOmic2Ring then
    setRing (.ofNat 8 (mcOmic0Ring + unit % 3)) mcAddr
  else if mcOmic0PpeRing ≤ ringId ∧ ringId ≤ mcOmic2PpeRing then
    setRing (.ofNat 8 (mcOmic0PpeRing + unit % 3)) mcAddr
  else
    mcAddr

/-- The first two units are on the chiplet N3, the third is on N1. -/
def npuAddr : BitVec 64 :=
  let chiplet := if unit = 2 then n1ChipletId else n3ChipletId
  let nestAddr := setChipletId (.ofNat 8 chiplet) addr
  let sat := (getSatId addr).toNat
  let ringId := (getRing addr &&& 0xF).toNat
  if n3Npu0Ring = ringId ∨ n3Npu1Ring = ringId ∨ npu2Ring = ringId then
    if chiplet = n3ChipletId then
      setRing (.ofNat 8 (n3Npu0Ring + unit)) nestAddr
    else
      setRing (.ofNat 8 npu2Ring) nestAddr
  else if npu0FirRing = ringId ∨ npu2FirRing = ringId then
    if chiplet = n3ChipletId then
      setSatId (.ofNat 8 (sat % 3 + 3 * unit)) (setRing (.ofNat 8 npu0FirRing) nestAddr)
    else
      setSatId (.ofNat 8 (sat % 3)) (setRing (.ofNat 8 npu2FirRing) nestAddr)
  else
    nestAddr

end

/-- The address in the chip of the register that `addr` names, in the unit at a position. -/
def unitAddr (type : TrgtType) (unit : Nat) (addr : BitVec 64) : BitVec 64 :=
  match type with
  | .proc | .ocmb => addr
  | .capp => setChipletId (.ofNat 8 (n0ChipletId + unit * 2)) addr
  | .xbus => xbusAddr unit addr
  | .obus => setChipletId (.ofNat 8 (ob0ChipletId + unit)) addr
  | .pec => pecAddr unit addr
  | .phb => phbAddr unit addr
  | .ex => exAddr unit addr
  | .eq => setChipletId (.ofNat 8 (ep00ChipletId + unit)) addr
  | .ec => setChipletId (.ofNat 8 (ec00ChipletId + unit)) addr
  | .mcs | .mi => mcsAddr unit addr
  | .mcbist | .mc => setChipletId (.ofNat 8 (mc01ChipletId + unit)) addr
  | .mca => mcaAddr unit addr
  | .mcc => mccAddr unit addr
  | .omic => omicAddr unit addr
  | .npu => npuAddr unit addr

/-- `translate_addr`, which fails for no type of the enumeration. -/
def translateAddr (trgt : ScomTrgt) (addr : BitVec 64) : BitVec 64 :=
  unitAddr trgt.type trgt.getChipUnitPos.toNat addr

/-! ## Access -/

/-- One access of the SCOM hardware: through the SBE FIFO of a slave chip, or from the OCC's own chip. -/
inductive ScomAccess
  | fifo (chip : ScomTrgt) (addr : BitVec 64)
  | direct (addr : BitVec 32)
deriving DecidableEq

/-- The chip address of an access. -/
def ScomAccess.chipAddr : ScomAccess → BitVec 64
  | .fifo _ addr => addr
  | .direct addr => addr.setWidth 64

/-- What the access functions return: `getFifoScom` and `getscom_abs`, `putFifoScom` and `putscom_abs`. -/
structure ScomHardware where
  get : ScomAccess → BitVec 32 × BitVec 64
  put : ScomAccess → BitVec 64 → BitVec 32

/-- An access, its return code and the value read. -/
structure ScomDone where
  access : ScomAccess
  rc : BitVec 32
  val : BitVec 64

def getScom (hw : ScomHardware) (trgt : ScomTrgt) (addr : BitVec 32) : ScomDone :=
  let chipTarg := trgt.getParentChip
  let transAddr := translateAddr trgt (addr.setWidth 64)
  if !chipTarg.isMaster then
    let access := .fifo chipTarg transAddr
    let (rc, val) := hw.get access
    ⟨access, rc, val⟩
  else
    let access := .direct (transAddr.setWidth 32)
    let (rc, val) := hw.get access
    -- a chiplet that is offline does not make the value of a broadcast register wrong
    ⟨access, if rc = 2 ∧ (0x50040018 = addr ∨ 0x50040009 = addr) then 0 else rc, val⟩

def putScom (hw : ScomHardware) (trgt : ScomTrgt) (addr : BitVec 32) (val : BitVec 64) : ScomDone :=
  let chipTarg := trgt.getParentChip
  let transAddr := translateAddr trgt (addr.setWidth 64)
  if !chipTarg.isMaster then
    -- the slave's branch passes on the address that came in
    let access := .fifo chipTarg (addr.setWidth 64)
    ⟨access, hw.put access val, val⟩
  else
    let access := .direct (transAddr.setWidth 32)
    ⟨access, hw.put access val, val⟩

end Occ.Firdata
