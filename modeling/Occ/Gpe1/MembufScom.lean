/-
SCOM access to the memory buffers through the PBA (`occ_gpe1/gpe_membuf_scom.c`): a register is accessed in all memory
buffers of the configuration in turn, and a memory buffer whose access fails is taken out of the configuration.
-/
import Occ.Lib.Mask
import Occ.Lib.Loops
import Mathlib.Data.BitVec
import Mathlib.Logic.Function.Basic

namespace Occ.Gpe1

/-! ## Data -/

/-- `MEMTYPE_CENTAUR` and `MEMTYPE_OCMB` -/
inductive MemType
  | centaur | ocmb
deriving DecidableEq, Repr

/-- `OCCHW_N_CENT`, `OCCHW_N_MEMBUF`: the value of `max_mb`. -/
def MemType.maxMb : MemType → Nat
  | .centaur => 8
  | .ocmb => 16

/-- The fields of `MemBufConfiguration_t` that an access uses. -/
structure MemBufConfiguration where
  baseAddress : Nat → BitVec 64
  membufType : MemType
  config : BitVec 32

/-- `CHIP_CONFIG_MEMBUF` -/
def chipConfigMembuf (n : Nat) : BitVec 32 := 0x80000000#32 >>> 16 >>> n

def MemBufConfiguration.configured (cfg : MemBufConfiguration) (inst : Nat) : Bool :=
  chipConfigMembuf inst &&& cfg.config != 0

def membufChannelCheckstop : Nat := 203

inductive AccessKind
  | read | write
deriving DecidableEq, Repr

structure Access where
  membuf : Nat
  kind : AccessKind
  fails : Bool
deriving DecidableEq, Repr

/-- How an access ends. After a failed one the variable that was read into, or the register written to, holds anything. -/
inductive Outcome
  | done
  | failed (left : BitVec 64)
deriving DecidableEq, Repr

def Outcome.fails : Outcome → Bool
  | .done => false
  | .failed _ => true

/-- How the hardware behaves during one call: the return codes of the two SCOMs that set up the PBA, and the accesses. -/
structure Bus where
  barRc : Nat → Nat
  barMaskRc : Nat → Nat
  read : Nat → Outcome
  write : Nat → Outcome

structure Membufs where
  cfg : MemBufConfiguration
  /-- the PBA BAR -/
  bar : BitVec 64
  /-- the registers of each memory buffer by their Power Bus addresses, in its byte order -/
  regs : Nat → BitVec 64 → BitVec 64
  -- history, newest first
  log : List Access

def swapU64 (data : BitVec 64) : BitVec 64 :=
  let val := (data <<< 8 &&& 0xff00ff00ff00ff00) ||| (data >>> 8 &&& 0x00ff00ff00ff00ff)
  let val := (val <<< 16 &&& 0xffff0000ffff0000) ||| (val >>> 16 &&& 0x0000ffff0000ffff)
  val <<< 32 ||| val >>> 32

/-- A value in the byte order of the memory buffer, and back. -/
def MemType.swap (t : MemType) (data : BitVec 64) : BitVec 64 := if t = .centaur then data else swapU64 data

/-! ## One access -/

/-- The Power Bus address of a register. -/
def pbAddr (cfg : MemBufConfiguration) (inst : Nat) (scomAddress : BitVec 32) : BitVec 64 :=
  match cfg.membufType with
  | .centaur =>
    -- compressed to 21 bits, with the bit that indicates OCC
    let localAddr := scomAddress &&& 0x00001fff
    let port := scomAddress &&& 0x000f0000
    let slave := scomAddress &&& 0x03000000
    let multi := scomAddress &&& 0xc0000000
    let compressed := localAddr + (port >>> 3) + (slave >>> 7) + (multi >>> 11)
    cfg.baseAddress inst ||| 0x0000000002000000 ||| compressed.setWidth 64 <<< 3
  | .ocmb => cfg.baseAddress inst ||| scomAddress.setWidth 64 <<< 3

/-- The part of the address that goes to the BAR, and the OCI address in the window that the BAR opens. -/
def barOf (pbAddr : BitVec 64) : BitVec 64 := pbAddr &&& 0x00fffffffff00000
def ociOf (pbAddr : BitVec 64) : BitVec 32 := (pbAddr &&& 0x07ffffff).setWidth 32 ||| (1 ||| 0x8 : BitVec 32) <<< 28

/-- The Power Bus address of an access: the BAR mask is zero, so that the window has 20 bits. -/
def busAddr (bar : BitVec 64) (ociAddr : BitVec 32) : BitVec 64 := bar ||| (ociAddr &&& 0x000fffff).setWidth 64

structure SetUp where
  m : Membufs
  rc : Nat
  ociAddr : BitVec 32

def inbandScomSetup (bus : Bus) (m : Membufs) (inst : Nat) (scomAddress : BitVec 32) : SetUp :=
  let pb := pbAddr m.cfg inst scomAddress
  if bus.barRc inst ≠ 0 then
    ⟨m, bus.barRc inst, ociOf pb⟩
  else
    ⟨{ m with bar := barOf pb }, bus.barMaskRc inst, ociOf pb⟩

/-- The state after an access, its return code and the data of the caller. -/
structure Accessed where
  m : Membufs
  rc : Nat
  data : BitVec 64

/-- The end of an access: the memory buffer is taken out of the configuration if it failed. -/
def pollError (m : Membufs) (inst : Nat) (kind : AccessKind) (o : Outcome) : Membufs :=
  { m with
    cfg := if o.fails then { m.cfg with config := m.cfg.config &&& ~~~chipConfigMembuf inst } else m.cfg
    log := ⟨inst, kind, o.fails⟩ :: m.log }

def accessRc (o : Outcome) : Nat := if o.fails then membufChannelCheckstop else 0

def inbandAccess (bus : Bus) (m : Membufs) (inst : Nat) (ociAddr : BitVec 32) (data : BitVec 64) :
    AccessKind → Accessed
  | .read =>
    let o := bus.read inst
    let loaded := match o with
      | .done => m.regs inst (busAddr m.bar ociAddr)
      | .failed left => left
    ⟨pollError m inst .read o, accessRc o, m.cfg.membufType.swap loaded⟩
  | .write =>
    let o := bus.write inst
    -- the caller's variable is converted in place
    let data := m.cfg.membufType.swap data
    let stored := match o with
      | .done => data
      | .failed left => left
    let regs := Function.update m.regs inst
      (Function.update (m.regs inst) (busAddr m.bar ociAddr) stored)
    ⟨pollError { m with regs := regs } inst .write o, accessRc o, data⟩

/-! ## All memory buffers -/

structure GetState where
  m : Membufs
  rc : Nat
  /-- the entries of `o_data` -/
  out : Nat → BitVec 64

def getStep (bus : Bus) (scomAddress : BitVec 32) (k : GetState) (inst : Nat) : GetState :=
  if k.m.cfg.configured inst then
    let up := inbandScomSetup bus k.m inst scomAddress
    if up.rc ≠ 0 then
      ⟨up.m, up.rc, Function.update k.out inst 0⟩
    else
      let a := inbandAccess bus up.m inst up.ociAddr (k.out inst) .read
      -- the entry is cleared only if nothing has failed before
      if k.rc = 0 ∧ a.rc ≠ 0 then
        ⟨a.m, a.rc, Function.update k.out inst 0⟩
      else
        ⟨a.m, k.rc, Function.update k.out inst a.data⟩
  else
    { k with out := Function.update k.out inst 0 }

def membufGetScomVector (bus : Bus) (m : Membufs) (scomAddress : BitVec 32) (out : Nat → BitVec 64) : GetState :=
  sweep (getStep bus scomAddress) ⟨m, 0, out⟩ m.cfg.membufType.maxMb

structure PutState where
  m : Membufs
  rc : Nat
  /-- `i_data`, which all accesses share -/
  data : BitVec 64

def putStep (bus : Bus) (scomAddress : BitVec 32) (k : PutState) (inst : Nat) : PutState :=
  if k.m.cfg.configured inst then
    let up := inbandScomSetup bus k.m inst scomAddress
    if up.rc ≠ 0 then
      ⟨up.m, up.rc, k.data⟩
    else
      let a := inbandAccess bus up.m inst up.ociAddr k.data .write
      ⟨a.m, if k.rc = 0 ∧ a.rc ≠ 0 then a.rc else k.rc, a.data⟩
  else
    k

def membufPutScomAll (bus : Bus) (m : Membufs) (scomAddress : BitVec 32) (data : BitVec 64) : PutState :=
  sweep (putStep bus scomAddress) ⟨m, 0, data⟩ m.cfg.membufType.maxMb

structure RmwState where
  m : Membufs
  rc : Nat
  accessRc : Nat

def rmwStep (bus : Bus) (scomAddress : BitVec 32) (mask data : BitVec 64) (k : RmwState) (inst : Nat) : RmwState :=
  if k.m.cfg.configured inst then
    let up := inbandScomSetup bus k.m inst scomAddress
    if up.rc ≠ 0 then
      ⟨up.m, up.rc, k.accessRc⟩
    else
      let r := inbandAccess bus up.m inst up.ociAddr 0 .read
      let a := if r.rc = 0 then
          inbandAccess bus r.m inst up.ociAddr (r.data &&& (mask ^^^ 0xffffffffffffffff) ||| data) .write
        else r
      ⟨a.m, if k.rc = 0 ∧ a.rc ≠ 0 then a.rc else k.rc, a.rc⟩
  else
    k

def membufScomRmwAll (bus : Bus) (m : Membufs) (scomAddress : BitVec 32) (mask data : BitVec 64) : RmwState :=
  sweep (rmwStep bus scomAddress mask data) ⟨m, 0, 0⟩ m.cfg.membufType.maxMb

end Occ.Gpe1
