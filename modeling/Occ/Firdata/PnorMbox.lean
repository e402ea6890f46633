/-
Access to the PNOR flash through windows that the BMC opens in the LPC space (`firdata/pnor_mboxdd.c`): a read or a
write asks for a window that contains its address, accesses the part of its data that lies in the window, and goes on
behind it; a write also tells the BMC what it has written.
-/
import Mathlib.Data.BitVec
import Mathlib.Tactic.Common

namespace Occ.Firdata

/-- The fields of `pnorMbox_t` that an access uses. -/
structure PnorMbox where
  protocolVersion : BitVec 32
  blockShift : BitVec 32
  curWindowOpen : Bool
  curWindowWrite : Bool
  curWindowOffset : BitVec 32
  curWindowSize : BitVec 32
  curWindowLpcOffset : BitVec 32
  readWindowSize : BitVec 32
  writeWindowSize : BitVec 32

/-- The commands of an access: `MBOX_C_...` -/
inductive Command
  | createReadWindow | createWriteWindow | markWriteDirty | writeFlush
deriving DecidableEq, Repr

/-- What an access does, in order, and whether it failed; `advance` is the step to the rest of the data. -/
inductive Event
  | command (cmd : Command) (arg0 : BitVec 16) (arg2 : BitVec 32) (fails : Bool)
  | access (window : PnorMbox) (lpcAddr : BitVec 32) (pos len : Nat) (fails : Bool)
  | advance (size chunk : BitVec 32)

/-- The words at 0, 2 and 4 of the BMC's answer, or none if `doMessage` fails. -/
abbrev WindowAnswer := Option (BitVec 16 × BitVec 16 × BitVec 16)

/-- How the BMC behaves while one chunk is accessed: its answers to the window commands, which LPC accesses fail, and
whether the command that marks the chunk as dirty fails. -/
structure Turn where
  windows : Nat → WindowAnswer
  lpcFails : Nat → Bool
  dirtyFails : Bool

section
-- what a shift by 32 or more gives
variable (undefinedShift : BitVec 32 → BitVec 32 → BitVec 32)

def shiftLeft (x n : BitVec 32) : BitVec 32 := if n.toNat < 32 then x <<< n.toNat else undefinedShift x n

def shiftRight (x n : BitVec 32) : BitVec 32 := if n.toNat < 32 then x >>> n.toNat else undefinedShift x n

namespace PnorMbox

variable (m : PnorMbox)

/-- `l_wEnd` -/
def windowEnd : BitVec 32 := m.curWindowOffset + m.curWindowSize

/-- The window is open, of the right type and contains the address. -/
def covers (isWrite : Bool) (reqAddr : BitVec 32) : Bool :=
  m.curWindowOpen && (m.curWindowWrite || !isWrite) && BitVec.ule m.curWindowOffset reqAddr &&
    BitVec.ult reqAddr m.windowEnd

/-- `l_gap`: what is left of the window from the address on. -/
def gap (reqAddr : BitVec 32) : BitVec 32 := m.windowEnd - reqAddr

/-- `o_lpcAddr` -/
def lpcAddr (reqAddr : BitVec 32) : BitVec 32 := m.curWindowLpcOffset + (reqAddr - m.curWindowOffset)

/-- `o_chunkLen` -/
def chunkLen (reqAddr reqSize : BitVec 32) : BitVec 32 :=
  if BitVec.ule reqSize (m.gap reqAddr) then reqSize else m.gap reqAddr

def blockMask : BitVec 32 := shiftLeft undefinedShift 1 m.blockShift - 1

/-- The size of the windows of the first protocol version: `l_wSize` -/
def windowSize (isWrite : Bool) : BitVec 32 := if isWrite then m.writeWindowSize else m.readWindowSize

/-- `l_pos` -/
def windowPos (isWrite : Bool) (reqAddr : BitVec 32) : BitVec 32 :=
  if m.protocolVersion = 1 then reqAddr &&& ~~~(m.windowSize isWrite - 1)
  else reqAddr &&& ~~~(m.blockMask undefinedShift)

/-- `l_reqSize` -/
def windowReqSize (isWrite : Bool) (reqAddr reqSize : BitVec 32) : BitVec 32 :=
  if m.protocolVersion = 1 then 0
  else ((reqAddr + reqSize + m.blockMask undefinedShift) &&& ~~~(m.blockMask undefinedShift)) -
    m.windowPos undefinedShift isWrite reqAddr

/-- `winMsg`, and whether its command fails. -/
def windowCommand (isWrite : Bool) (reqAddr reqSize : BitVec 32) (fails : Bool) : Event :=
  .command (if isWrite then .createWriteWindow else .createReadWindow)
    ((shiftRight undefinedShift (m.windowPos undefinedShift isWrite reqAddr) m.blockShift).setWidth 16)
    (((shiftRight undefinedShift (m.windowReqSize undefinedShift isWrite reqAddr reqSize)
      m.blockShift).setWidth 16).setWidth 32) fails

/-- The window of an answer. -/
def openWindow (isWrite : Bool) (reqAddr : BitVec 32) (answer : BitVec 16 × BitVec 16 × BitVec 16) : PnorMbox :=
  let blocks (x : BitVec 16) := shiftLeft undefinedShift (x.setWidth 32) m.blockShift
  let m' := { m with curWindowOpen := true, curWindowWrite := isWrite, curWindowLpcOffset := blocks answer.1 }
  if m.protocolVersion = 1 then
    { m' with
      curWindowOffset := m.windowPos undefinedShift isWrite reqAddr, curWindowSize := m.windowSize isWrite }
  else { m' with curWindowOffset := blocks answer.2.2, curWindowSize := blocks answer.2.1 }

end PnorMbox

/-- `adjustMboxWindow`: what it does, the mailbox after it, and the LPC address and the length of the chunk, or none
if it returns an error. It returns nothing when its loop needs more than `fuel` windows. -/
def adjustMboxWindow : Nat → (Nat → WindowAnswer) → PnorMbox → Bool → BitVec 32 → BitVec 32 →
    Option (List Event × PnorMbox × Option (BitVec 32 × BitVec 32))
  | 0, _, _, _, _, _ => none
  | fuel + 1, windows, m, isWrite, reqAddr, reqSize =>
    if m.covers isWrite reqAddr then some ([], m, some (m.lpcAddr reqAddr, m.chunkLen reqAddr reqSize))
    else
      let m := { m with curWindowOpen := false }
      match windows 0 with
      | none => some ([m.windowCommand undefinedShift isWrite reqAddr reqSize true], m, none)
      | some answer =>
        (adjustMboxWindow fuel (fun n => windows (n + 1)) (m.openWindow undefinedShift isWrite reqAddr answer)
          isWrite reqAddr reqSize).map fun r =>
            (m.windowCommand undefinedShift isWrite reqAddr reqSize false :: r.1, r.2)

/-! ## Reading -/

/-- The loop of `readFlash`: what it does, the mailbox after it and whether it ends with an error; `pos` is what
`o_data` has advanced. -/
def readLoop : Nat → (Nat → Turn) → PnorMbox → BitVec 32 → BitVec 32 → Nat → Option (List Event × PnorMbox × Bool)
  | 0, _, _, _, _, _ => none
  | fuel + 1, turns, m, addr, size, pos =>
    if size = 0 then some ([], m, false)
    else
      match adjustMboxWindow undefinedShift fuel (turns 0).windows m false addr size with
      | none => none
      | some (log, m, none) => some (log, m, true)
      | some (log, m, some (lpcAddr, chunkLen)) =>
        let fails := (turns 0).lpcFails 0
        let log := log ++ [.access m lpcAddr pos chunkLen.toNat fails]
        if fails then some (log, m, true)
        else (readLoop fuel (fun n => turns (n + 1)) m (addr + chunkLen) (size - chunkLen)
          (pos + chunkLen.toNat)).map fun r => (log ++ .advance size chunkLen :: r.1, r.2)

/-- `readFlash` -/
def readFlash (fuel : Nat) (turns : Nat → Turn) (m : PnorMbox) (addr size : BitVec 32) :
    Option (List Event × PnorMbox × Bool) :=
  if size.toNat % 4 ≠ 0 ∧ addr.toNat % 4 ≠ 0 then some ([], m, true)
  else readLoop undefinedShift fuel turns m addr size 0

/-! ## Writing -/

/-- `PAGE_PROGRAM_BYTES` -/
def pageBytes : BitVec 32 := 256

/-- What a write asks for: a page at least. -/
def requestSize (size : BitVec 32) : BitVec 32 := if BitVec.ult size pageBytes then pageBytes else size

/-- The LPC writes of a chunk, four bytes at a time; the first that fails is the last. -/
def lpcWriteLoop (fails : Nat → Bool) (m : PnorMbox) (lpcAddr : BitVec 32) (pos size chunkLen : Nat) :
    Nat → Nat → List Event
  | 0, _ => []
  | fuel + 1, written =>
    if written < size ∧ written < chunkLen then
      let len := if size - written < 4 then size - written else 4
      let failed := fails (written / 4)
      .access m (lpcAddr + BitVec.ofNat 32 written) (pos + written) len failed ::
        if failed then [] else lpcWriteLoop fails m lpcAddr pos size chunkLen fuel (written + len)
    else []

/-- `writeDirty` -/
def writeDirty (m : PnorMbox) (addr size : BitVec 32) (fails : Bool) : Event :=
  let mask := m.blockMask undefinedShift
  let start := addr &&& ~~~mask
  let stop := (addr + size + mask) &&& ~~~mask
  if m.protocolVersion = 1 then
    .command .markWriteDirty ((shiftRight undefinedShift addr m.blockShift).setWidth 16) (stop - start) fails
  else
    .command .markWriteDirty ((shiftRight undefinedShift (addr - m.curWindowOffset) m.blockShift).setWidth 16)
      (((shiftRight undefinedShift (stop - start) m.blockShift).setWidth 16).setWidth 32) fails

/-- `writeFlush` -/
def writeFlush (fails : Bool) : Event := .command .writeFlush 0 0 fails

/-- The loop of `writeFlash`. The result of `writeDirty` takes the place of that of the LPC writes. -/
def writeLoop : Nat → (Nat → Turn) → PnorMbox → BitVec 32 → BitVec 32 → Nat → Option (List Event × PnorMbox × Bool)
  | 0, _, _, _, _, _ => none
  | fuel + 1, turns, m, addr, size, pos =>
    if size = 0 then some ([], m, false)
    else
      match adjustMboxWindow undefinedShift fuel (turns 0).windows m true addr (requestSize size) with
      | none => none
      | some (log, m, none) => some (log, m, true)
      | some (log, m, some (lpcAddr, chunkLen)) =>
        let writes := lpcWriteLoop (turns 0).lpcFails m lpcAddr pos size.toNat chunkLen.toNat size.toNat 0
        let dirty := (turns 0).dirtyFails
        let log := log ++ writes ++ [writeDirty undefinedShift m addr chunkLen dirty]
        if dirty then some (log, m, true)
        else (writeLoop fuel (fun n => turns (n + 1)) m (addr + chunkLen) (size - chunkLen)
          (pos + chunkLen.toNat)).map fun r => (log ++ .advance size chunkLen :: r.1, r.2)

/-- `writeFlash`; the flush comes whether there was an error or not. -/
def writeFlash (fuel : Nat) (turns : Nat → Turn) (flushFails : Bool) (m : PnorMbox) (addr size : BitVec 32) :
    Option (List Event × PnorMbox × Bool) :=
  if size.toNat % 4 ≠ 0 then some ([], m, true)
  else (writeLoop undefinedShift fuel turns m addr size 0).map fun (log, m, failed) =>
    (log ++ [writeFlush flushFails], m, failed || flushFails)

end

end Occ.Firdata
