/-
The GPE1's part of the memory power control (`occ_gpe1/gpe1_memory_power_control.c`): the power control register and the
self-timed refresh register of one MCA are read, changed as the setting says and written back.
-/
import Occ.Lib.Mask
import Mathlib.Data.BitVec
import Mathlib.Logic.Function.Basic

namespace Occ.Gpe1

open Function (update)

def gpeRcSuccess : BitVec 32 := 0x00
def gpeRcScomGetFailed : BitVec 32 := 0x02
def gpeRcScomPutFailed : BitVec 32 := 0x03
def gpeRcInvalidMemPwrCtl : BitVec 32 := 0x20

-- `MEM_PWR_CTL_...`
def memPwrCtlOff : BitVec 8 := 0x00
def memPwrCtlPowerDown : BitVec 8 := 0x01
def memPwrCtlPdAndStr : BitVec 8 := 0x02
def memPwrCtlPdAndStrClkStop : BitVec 8 := 0x03
def memPwrCtlNoSupport : BitVec 8 := 0xFF

/-- `GpeErrorStruct` -/
structure GpeErrorStruct where
  rc : BitVec 32
  addr : BitVec 32
  ffdc : BitVec 64
deriving DecidableEq

/-- `mem_power_control_args_t` -/
structure MemPowerControlArgs where
  error : GpeErrorStruct
  memPwrCtl : BitVec 8
  port : Nat
  mc : Nat
deriving DecidableEq

/-- The MCA that the arguments name. -/
def MemPowerControlArgs.mca (args : MemPowerControlArgs) : Nat := 4 * args.mc + args.port

/-- The return codes of the four SCOMs. -/
structure PowerScoms where
  getPcr : BitVec 32
  getStr : BitVec 32
  putPcr : BitVec 32
  putStr : BitVec 32

/-- The registers of the MCAs. -/
structure PowerRegs where
  pcr : Nat → BitVec 64
  str : Nat → BitVec 64

def powerCtrlReg0 (mc port : Nat) : BitVec 32 := BitVec.ofNat 32 (0x07010934 + 0x01000000 * mc + 0x40 * port)
def strReg0 (mc port : Nat) : BitVec 32 := BitVec.ofNat 32 (0x07010935 + 0x01000000 * mc + 0x40 * port)

-- bits of the two registers
def pcr0MasterEnableBit : Nat := 2
def pcr0PowerdownEnableBit : Nat := 22
def str0StrEnableBit : Nat := 0
def str0DisableMemoryClocksBit : Nat := 1

/-- `SET_BIT` and `CLR_BIT` -/
def setBit (var : BitVec 64) (bit : Nat) : BitVec 64 := Mask.set var (Mask.flag 64 bit)
def clrBit (var : BitVec 64) (bit : Nat) : BitVec 64 := Mask.clr var (Mask.flag 64 bit)

/-- What a setting makes of the two registers. -/
def applyMemPwrCtl (memPwrCtl : BitVec 8) (pcr str : BitVec 64) : Option (BitVec 64 × BitVec 64) :=
  if memPwrCtl = memPwrCtlOff then
    some (clrBit (clrBit pcr pcr0MasterEnableBit) pcr0PowerdownEnableBit,
      clrBit (clrBit str str0StrEnableBit) str0DisableMemoryClocksBit)
  else if memPwrCtl = memPwrCtlPowerDown then
    some (setBit (setBit pcr pcr0MasterEnableBit) pcr0PowerdownEnableBit,
      clrBit (clrBit str str0StrEnableBit) str0DisableMemoryClocksBit)
  else if memPwrCtl = memPwrCtlPdAndStr ∨ memPwrCtl = memPwrCtlPdAndStrClkStop then
    -- disabling the memory clocks does not work
    some (setBit (setBit pcr pcr0MasterEnableBit) pcr0PowerdownEnableBit,
      clrBit (setBit str str0StrEnableBit) str0DisableMemoryClocksBit)
  else none

/-- `gpe_mem_power_control` of the GPE1, up to its response. -/
def gpeMemPowerControl (args : MemPowerControlArgs) (scoms : PowerScoms) (regs : PowerRegs) :
    MemPowerControlArgs × PowerRegs :=
  let failed := fun (rc addr : BitVec 32) (ffdc : BitVec 64) => { args with error := ⟨rc, addr, ffdc⟩ }
  let pcrAddr := powerCtrlReg0 args.mc args.port
  let strAddr := strReg0 args.mc args.port
  if scoms.getPcr ≠ 0 then (failed gpeRcScomGetFailed pcrAddr (scoms.getPcr.setWidth 64), regs)
  else if scoms.getStr ≠ 0 then (failed gpeRcScomGetFailed strAddr (scoms.getStr.setWidth 64), regs)
  else
    match applyMemPwrCtl args.memPwrCtl (regs.pcr args.mca) (regs.str args.mca) with
    | none => (failed gpeRcInvalidMemPwrCtl 0 (args.memPwrCtl.setWidth 64), regs)
    | some (pcr, str) =>
      if scoms.putPcr ≠ 0 then (failed gpeRcScomPutFailed pcrAddr (scoms.putPcr.setWidth 64), regs)
      else
        let regs := { regs with pcr := update regs.pcr args.mca pcr }
        if scoms.putStr ≠ 0 then (failed gpeRcScomPutFailed strAddr (scoms.putStr.setWidth 64), regs)
        else (failed gpeRcSuccess 0 0, { regs with str := update regs.str args.mca str })

section

variable {args : MemPowerControlArgs} {scoms : PowerScoms} {regs : PowerRegs}

/-- The request itself stays as the 405 has written it. -/
theorem gpeMemPowerControl_args : (gpeMemPowerControl args scoms regs).1 =
    { args with error := (gpeMemPowerControl args scoms regs).1.error } := by
  unfold gpeMemPowerControl
  dsimp only
  split
  · rfl
  · split
    · rfl
    · split
      · rfl
      · split
        · rfl
        · split <;> rfl

/-- A request succeeds where the setting is known and all SCOMs succeed, and then both registers are as the setting says. -/
theorem gpeMemPowerControl_success : (gpeMemPowerControl args scoms regs).1.error.rc = gpeRcSuccess ↔
    scoms.getPcr = 0 ∧ scoms.getStr = 0 ∧ scoms.putPcr = 0 ∧ scoms.putStr = 0 ∧
      ∃ pcr str, applyMemPwrCtl args.memPwrCtl (regs.pcr args.mca) (regs.str args.mca) = some (pcr, str) ∧
        (gpeMemPowerControl args scoms regs).2 = ⟨update regs.pcr args.mca pcr, update regs.str args.mca str⟩ := by
  have hget : gpeRcScomGetFailed ≠ gpeRcSuccess := by decide
  have hput : gpeRcScomPutFailed ≠ gpeRcSuccess := by decide
  have hinvalid : gpeRcInvalidMemPwrCtl ≠ gpeRcSuccess := by decide
  unfold gpeMemPowerControl
  dsimp only
  by_cases hgetPcr : scoms.getPcr = 0
  · rw [if_neg (not_not.2 hgetPcr)]
    by_cases hgetStr : scoms.getStr = 0
    · rw [if_neg (not_not.2 hgetStr)]
      cases happly : applyMemPwrCtl args.memPwrCtl (regs.pcr args.mca) (regs.str args.mca) with
      | none =>
        constructor
        · intro h
          exact absurd h hinvalid
        · rintro ⟨-, -, -, -, pcr, str, hsome, -⟩
          cases hsome
      | some p =>
        obtain ⟨pcr, str⟩ := p
        dsimp only
        by_cases hputPcr : scoms.putPcr = 0
        · rw [if_neg (not_not.2 hputPcr)]
          by_cases hputStr : scoms.putStr = 0
          · rw [if_neg (not_not.2 hputStr)]
            exact ⟨fun _ => ⟨hgetPcr, hgetStr, hputPcr, hputStr, pcr, str, rfl, rfl⟩, fun _ => rfl⟩
          · rw [if_pos hputStr]
            exact ⟨fun h => absurd h hput, fun h => absurd h.2.2.2.1 hputStr⟩
        · rw [if_pos hputPcr]
          exact ⟨fun h => absurd h hput, fun h => absurd h.2.2.1 hputPcr⟩
    · rw [if_pos hgetStr]
      exact ⟨fun h => absurd h hget, fun h => absurd h.2.1 hgetStr⟩
  · rw [if_pos hgetPcr]
    exact ⟨fun h => absurd h hget, fun h => absurd h.1 hgetPcr⟩

end

end Occ.Gpe1
