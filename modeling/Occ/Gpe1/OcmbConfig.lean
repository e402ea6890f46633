/-
The configuration of the OCMB memory buffers (`occ_gpe1/gpe_ocmb.c`): the MMIO BARs of the channels are read and
un-swizzled, the BAR of the PBA is set up, and the sensor cache of every memory buffer is read to find its thermal sensors.
What the hardware answers is an input; the addresses of the accesses are in `MembufScom`.
-/
import Occ.Gpe1.MembufScom

namespace Occ.Gpe1

-- `MemBufConfigurationCreateRc` and the return codes of an access
def membufBarMaskError : Nat := 0x007ccc07
def membufNotConfigured : Nat := 0x007ccc0b
def membufMaskError : Nat := 0x007ccc0c
def membufBarnGetscomFailure : Nat := 0x007ccc0d
def membufBarmsknPutscomFailure : Nat := 0x007ccc0e
def membufBarnPutscomFailure : Nat := 0x007ccc0f
def membufBarmsknGetscomFailure : Nat := 0x007ccc10
def membufPbmodeGetscomFailure : Nat := 0x007ccc11
def membufPmodeDataMismatch : Nat := 0x007ccc12
def membufGetMemDataCollectInvalid : Nat := 200
def membufScacheError : Nat := 204

/-! ## What the hardware answers -/

/-- A SCOM of the chip: its return code, and what the variable holds then. -/
structure Scom where
  rc : Nat
  value : BitVec 64

/-- An access to a memory buffer: the two SCOMs that set up the PBA, and what is loaded, in the memory buffer's byte order. -/
structure Inband (α : Type) where
  barRc : Nat
  barMaskRc : Nat
  fails : Bool
  loaded : α

/-- What the sensor cache of a memory buffer answers. The packets are sixteen words. -/
structure SensorHw where
  mfir : Inband (BitVec 64)
  mfirAnd : Inband Unit
  merrctl : Inband (BitVec 64)
  merrctlPut : Inband Unit
  packets : Inband (Nat → BitVec 32)

structure OcmbHw where
  pbMode : Scom
  mcfgpr : Nat → Scom
  mcsync : Nat → Scom
  barMaskPutRc : Nat
  barPutRc : Nat
  bar : Scom
  barMask : Scom
  sensor : Nat → SensorHw

/-! ## One memory buffer -/

/-- `inband_scom_setup` -/
def Inband.setUp {α : Type} (a : Inband α) : Nat := if a.barRc ≠ 0 then a.barRc else a.barMaskRc

/-- The memory buffer is taken out of the configuration. -/
def MemBufConfiguration.remove (cfg : MemBufConfiguration) (i : Nat) : MemBufConfiguration :=
  { cfg with config := cfg.config &&& ~~~chipConfigMembuf i }

/-- The configuration after an access, its return code and what was read. -/
structure Fetched (α : Type) where
  cfg : MemBufConfiguration
  rc : Nat
  data : α

/-- `inband_access`: a memory buffer whose access fails is taken out. -/
def inband {α : Type} (a : Inband α) (cfg : MemBufConfiguration) (i : Nat) (data : α) : Fetched α :=
  if a.fails then ⟨cfg.remove i, membufChannelCheckstop, data⟩ else ⟨cfg, 0, data⟩

/-- `membuf_get_scom` -/
def membufGetScom (a : Inband (BitVec 64)) (cfg : MemBufConfiguration) (i : Nat) : Fetched (BitVec 64) :=
  if a.setUp = 0 ∧ cfg.configured i = true then inband a cfg i (cfg.membufType.swap a.loaded) else ⟨cfg, a.setUp, 0⟩

/-- `membuf_put_scom` -/
def membufPutScom (a : Inband Unit) (cfg : MemBufConfiguration) (i : Nat) : Fetched Unit :=
  if a.setUp = 0 ∧ cfg.configured i = true then inband a cfg i () else ⟨cfg, a.setUp, ()⟩

/-- The sensor cache errors of the MMIO FIR. -/
def sensorCacheErr (mfir : BitVec 64) : Bool := mfir.getMsbD 7 || mfir.getMsbD 8 || mfir.getMsbD 9 || mfir.getMsbD 10

/-- `check_and_reset_mmio_fir` -/
def checkAndResetMmioFir (hw : SensorHw) (cfg : MemBufConfiguration) (i : Nat) : Fetched Unit :=
  let mfir := membufGetScom hw.mfir cfg i
  if mfir.rc ≠ 0 then ⟨mfir.cfg, mfir.rc, ()⟩
  else if sensorCacheErr mfir.data then
    -- what the reset returns is not looked at
    ⟨(membufPutScom hw.mfirAnd mfir.cfg i).cfg, membufScacheError, ()⟩
  else ⟨mfir.cfg, 0, ()⟩

/-- `ocmb_check_sensor_cache_enabled` -/
def ocmbCheckSensorCacheEnabled (hw : SensorHw) (cfg : MemBufConfiguration) (i : Nat) : Fetched Unit :=
  let merrctl := membufGetScom hw.merrctl cfg i
  if merrctl.rc ≠ 0 then ⟨merrctl.cfg, merrctl.rc, ()⟩
  else if merrctl.data.getMsbD 52 = false then membufPutScom hw.merrctlPut merrctl.cfg i
  else ⟨merrctl.cfg, 0, ()⟩

def swapU32 (data : BitVec 32) : BitVec 32 :=
  let val := (data <<< 8 &&& 0xff00ff00) ||| (data >>> 8 &&& 0x00ff00ff)
  val <<< 16 ||| val >>> 16

/-- `extract_32b`, for both packets: the words of each come in reverse order. -/
def extract32b (packets : Nat → BitVec 32) (j : Nat) : BitVec 32 := if j < 8 then packets (7 - j) else packets (23 - j)

/-- `get_ocmb_sensorcache`. `none` is a `collect` of -1, `data` what the caller's buffer holds before. -/
def getOcmbSensorcache (hw : SensorHw) (cfg : MemBufConfiguration) (collect : Option Nat) (data : Nat → BitVec 32) :
    Fetched (Nat → BitVec 32) :=
  match collect with
  | none => ⟨cfg, 0, data⟩
  | some i =>
    if 16 ≤ i ∨ cfg.configured i = false then ⟨cfg, membufGetMemDataCollectInvalid, data⟩
    else
      let rc1 := checkAndResetMmioFir hw cfg i
      let rc2 := ocmbCheckSensorCacheEnabled hw rc1.cfg i
      if rc2.rc ≠ 0 then ⟨rc2.cfg, rc2.rc, data⟩
      else if rc1.rc ≠ 0 then ⟨rc2.cfg, rc1.rc, data⟩
      else if hw.packets.setUp ≠ 0 then ⟨rc2.cfg, hw.packets.setUp, data⟩
      else inband hw.packets rc2.cfg i fun j => swapU32 (extract32b hw.packets.loaded j)

/-! ## The MMIO BARs -/

/-- `EXT_MASK_REORDER`: an extension mask, and where the bits 6 to 13 of the BAR go. -/
def extMaskReorder : List (Nat × List Nat) :=
  [(0x00, [15, 18, 16, 17, 21, 20, 19, 14]),
   (0x04, [15, 18, 16, 17, 21, 20, 14, 19]),
   (0x06, [15, 18, 16, 17, 21, 14, 20, 19]),
   (0x07, [15, 18, 16, 17, 14, 21, 20, 19]),
   (0x80, [15, 18, 16, 17, 21, 20, 19, 14]),
   (0x84, [15, 18, 16, 17, 21, 20, 14, 19]),
   (0x86, [15, 18, 16, 17, 21, 14, 20, 19]),
   (0x87, [15, 18, 16, 17, 14, 21, 20, 19]),
   (0xC0, [15, 21, 17, 18, 20, 19, 14, 16]),
   (0xC4, [15, 21, 17, 18, 20, 14, 19, 16]),
   (0xC6, [15, 21, 17, 18, 14, 20, 19, 16]),
   (0xC7, [15, 14, 17, 18, 21, 20, 19, 16]),
   (0xE0, [15, 20, 18, 21, 19, 14, 17, 16]),
   (0xE4, [15, 20, 18, 21, 14, 19, 17, 16]),
   (0xE6, [15, 14, 18, 21, 20, 19, 17, 16]),
   (0xE7, [15, 21, 18, 14, 20, 19, 17, 16]),
   (0xF0, [15, 19, 21, 20, 14, 18, 17, 16]),
   (0xF4, [15, 14, 21, 20, 19, 18, 17, 16]),
   (0xF6, [15, 20, 21, 14, 19, 18, 17, 16]),
   (0xF7, [15, 20, 14, 21, 19, 18, 17, 16])]

/-- `l_mask` and `l_reordered` -/
structure Reorder where
  mask : BitVec 32
  reordered : BitVec 32

/-- One column of the table. -/
def reorderStep (row : List Nat) (mmioBar : BitVec 32) (k : Reorder) (col : Nat) : Reorder where
  mask := k.mask >>> 1
  reordered := if k.mask &&& mmioBar != 0 then k.reordered ||| 0x80000000#32 >>> row.getD col 0 else k.reordered

/-- The BAR with its bits 6 to 13 in their order. -/
def unswizzle (row : List Nat) (mmioBar : BitVec 32) : BitVec 32 :=
  mmioBar &&& 0xfc03ffff#32 ||| (sweep (reorderStep row mmioBar) ⟨0x02000000, 0⟩ 8).reordered <<< 8

/-- The base address that a BAR value stands for. -/
def mmioBaseAddr (row : List Nat) (groupBaseAddr : BitVec 31) : BitVec 64 :=
  (unswizzle row (groupBaseAddr.setWidth 32 <<< 1)).setWidth 64 <<< 32 >>> 8

def extAddrMask (pbMode : BitVec 64) : Nat := (pbMode.extractLsb' 4 4).toNat <<< 4 ||| (pbMode.extractLsb' 1 3).toNat

/-! ## The configuration -/

/-- The fields of `MemBufConfiguration_t` that are set here, without what `gpe_pba_parms_create` fills in, which cannot
fail. -/
structure OcmbConfiguration extends MemBufConfiguration where
  mcSyncAddr : BitVec 32
  dtsConfig : BitVec 64
  configRc : Nat

/-- `CHIP_CONFIG_MCS` -/
def chipConfigMcs (n : Nat) : BitVec 32 := 0x80000000#32 >>> 0 >>> n

def ocmbIbBarBBit : BitVec 64 := 0x0000000080000000

/-- `AXONE_MCSYNC` -/
def axoneMcsync : List (BitVec 32) := [0x05010815, 0x05010895, 0x03010815, 0x03010895]

/-- One channel: a channel whose BAR cannot be read, or is not valid, is ignored. -/
def channelStep (hw : OcmbHw) (row : List Nat) (cfg : OcmbConfiguration) (i : Nat) : OcmbConfiguration :=
  let mcfgpr := hw.mcfgpr i
  if mcfgpr.rc ≠ 0 then cfg
  else if mcfgpr.value.getMsbD 1 = false then cfg
  else
    let addr := mmioBaseAddr row (mcfgpr.value.setWidth 31)
    let base := Function.update cfg.baseAddress (2 * i) addr
    { cfg with
      baseAddress := if cfg.configured (2 * i + 1) then Function.update base (2 * i + 1) (addr ||| ocmbIbBarBBit) else base
      config := cfg.config ||| chipConfigMcs i }

/-- The first MCSYNC register that is set up. A SCOM that fails is not looked at, only what it has left in the variable. -/
def mcSync (hw : OcmbHw) : BitVec 32 :=
  match (List.range 4).find? fun i => (hw.mcsync i).value != 0 with
  | some i => axoneMcsync.getD i 0
  | none => 0

/-- `configure_pba_bar_for_inband_access` -/
def configurePbaBarForInbandAccess (hw : OcmbHw) (cfg : OcmbConfiguration) : Nat :=
  if cfg.config = 0 then 0
  else if hw.barMaskPutRc ≠ 0 then membufBarmsknPutscomFailure
  else if hw.barPutRc ≠ 0 then membufBarnPutscomFailure
  else if hw.bar.rc ≠ 0 then membufBarnGetscomFailure
  else if hw.barMask.rc ≠ 0 then membufBarmsknGetscomFailure
  else
    let bar := hw.bar.value &&& 0x00fffffffff00000
    let mask := hw.barMask.value &&& 0x000001fffff00000
    if mask &&& 0x0000000003f00000 ≠ 0x0000000003f00000 then membufMaskError
    else if (List.range 16).any fun i => cfg.baseAddress i != 0 && (cfg.baseAddress i &&& ~~~mask) != (bar &&& ~~~mask) then
      membufBarMaskError
    else 0

/-- Up to the sensor caches. -/
def setUpOcmbs (hw : OcmbHw) (cfg : OcmbConfiguration) : OcmbConfiguration × Nat :=
  if hw.pbMode.rc ≠ 0 then (cfg, membufPbmodeGetscomFailure)
  else
    match extMaskReorder.find? fun rule => rule.1 == extAddrMask hw.pbMode.value with
    | none => (cfg, membufPmodeDataMismatch)
    | some rule =>
      let cfg := { sweep (channelStep hw rule.2) cfg 8 with mcSyncAddr := mcSync hw }
      (cfg, configurePbaBarForInbandAccess hw cfg)

/-- `CONFIG_UBDTS0`, `CONFIG_MEMDTS0` and `CONFIG_MEMDTS1`, for the sensors 0, 1 and 2. -/
def configDts (sensor n : Nat) : BitVec 64 := 0x8000000000000000#64 >>> sensor >>> (4 * n)

/-- The bits `..._present` of the status, which is the first half of the first word. -/
def dtsPresent (data : Nat → BitVec 32) (sensor : Nat) : Bool := (data 0).getMsbD (3 * sensor + 2)

structure DtsState where
  cfg : OcmbConfiguration
  rc : Nat
  escache : Nat → BitVec 32

def dtsOf (data : Nat → BitVec 32) (i sensor : Nat) : BitVec 64 := if dtsPresent data sensor then configDts sensor i else 0

/-- One memory buffer. -/
def dtsStep (hw : OcmbHw) (k : DtsState) (i : Nat) : DtsState :=
  if k.cfg.configured i then
    let cache := getOcmbSensorcache (hw.sensor i) k.cfg.toMemBufConfiguration (some i) k.escache
    let cfg := { k.cfg with toMemBufConfiguration := cache.cfg }
    if cache.rc ≠ 0 then
      ⟨{ cfg with toMemBufConfiguration := cache.cfg.remove i }, cache.rc, cache.data⟩
    else
      ⟨{ cfg with dtsConfig := cfg.dtsConfig ||| dtsOf cache.data i 0 ||| dtsOf cache.data i 1 ||| dtsOf cache.data i 2 },
        0, cache.data⟩
  else k

def clearedOcmbs (config : BitVec 32) : OcmbConfiguration where
  baseAddress _ := 0
  membufType := .ocmb
  config := config
  mcSyncAddr := 0
  dtsConfig := 0
  configRc := membufNotConfigured

/-- `gpe_ocmb_configuration_create`, with the `config` that the 405 passes in and what its stack holds. -/
def gpeOcmbConfigurationCreate (hw : OcmbHw) (config : BitVec 32) (stack : Nat → BitVec 32) : OcmbConfiguration × Nat :=
  let up := setUpOcmbs hw (clearedOcmbs config)
  if up.2 ≠ 0 then ({ up.1 with configRc := up.2 }, up.2)
  else
    let k := sweep (dtsStep hw) ⟨up.1, 0, stack⟩ 16
    ({ k.cfg with configRc := k.rc }, k.rc)

/-! ## The law -/

/-- The return code of reading the sensor cache of a memory buffer of the configuration. -/
def SensorHw.rc (hw : SensorHw) : Nat :=
  (getOcmbSensorcache hw ⟨fun _ => 0, .ocmb, BitVec.allOnes 32⟩ (some 0) fun _ => 0).rc

/-- The sensor caches are read. -/
def SetsUp (hw : OcmbHw) (config : BitVec 32) : Prop := (setUpOcmbs hw (clearedOcmbs config)).2 = 0

def OcmbUnread (hw : OcmbHw) (config : BitVec 32) (i : Nat) : Prop := SetsUp hw config ∧ (hw.sensor i).rc ≠ 0

/-- The memory buffers behave as others of them did. -/
def OcmbHw.permuted (hw : OcmbHw) (f : Nat → Nat) : OcmbHw := { hw with sensor := fun i => hw.sensor (f i) }

/-- The sensor cache that is read of a memory buffer. -/
def SensorHw.data (hw : SensorHw) (j : Nat) : BitVec 32 := swapU32 (extract32b hw.packets.loaded j)

structure CreateLaw (hw : OcmbHw) (config : BitVec 32) (stack : Nat → BitVec 32) : Prop where
  /-- Exactly the memory buffers whose sensor cache could not be read are removed. -/
  removed : ∀ j, Mask.On (gpeOcmbConfigurationCreate hw config stack).1.config j = true ↔
    Mask.On (setUpOcmbs hw (clearedOcmbs config)).1.config j = true ∧ ¬(16 ≤ j ∧ OcmbUnread hw config (j - 16))
  /-- The thermal sensors of the others are recorded. -/
  dts : ∀ j, (gpeOcmbConfigurationCreate hw config stack).1.dtsConfig.getMsbD j = true ↔
    SetsUp hw config ∧ j % 4 < 3 ∧ (gpeOcmbConfigurationCreate hw config stack).1.configured (j / 4) = true ∧
      dtsPresent (hw.sensor (j / 4)).data (j % 4) = true
  /-- Which ones failed is not seen in the return code. -/
  whichever : ∀ σ : Nat ≃ Nat, (∀ i, (clearedOcmbs config).configured (σ i) = (clearedOcmbs config).configured i) →
    (gpeOcmbConfigurationCreate (hw.permuted σ) config stack).2 = (gpeOcmbConfigurationCreate hw config stack).2
  configRc : (gpeOcmbConfigurationCreate hw config stack).1.configRc = (gpeOcmbConfigurationCreate hw config stack).2
  unswizzles : ∀ rule ∈ extMaskReorder, Function.Injective (mmioBaseAddr rule.2)

/-- All memory buffers of the configuration can be read, or they all fail in the same way. -/
def AllAlike (hw : OcmbHw) (config : BitVec 32) : Prop :=
  SetsUp hw config → ∀ i j, (clearedOcmbs config).configured i = true → (clearedOcmbs config).configured j = true →
    (hw.sensor i).rc = (hw.sensor j).rc

end Occ.Gpe1
