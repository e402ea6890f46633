/-
Writing FIR data into PNOR (`firdata/pnor_util.c`): words of eight bytes become nine with their ECC, go through a
write cache of one flash page, and the page is written when it is full. The write cache, its index and the place
of the next page outlive a call.
-/
import Occ.Firdata.Ecc
import Occ.Lib.Paged
import Occ.Lib.Staged
import Occ.Lib.Transition

namespace Occ.Firdata

open Transition

abbrev Byte := BitVec 8

abbrev Flash := BitVec 32 → Byte

/-- The globals of `pnor_util.c`, and the flash. -/
structure Pnor where
  nextByte : BitVec 32
  pnorSize : BitVec 32
  writeCache : Staged.Memory
  writeCacheIndex : Nat
  flash : Flash

/-- `PAGE_PROGRAM_BYTES` -/
def pageProgramBytes : Nat := 256

def Pnor.init (flash : Flash) : Pnor where
  nextByte := 0xFFFFFFFF
  pnorSize := 0
  writeCache := Staged.zeros
  writeCacheIndex := 0
  flash := flash

/-- What `writeFlash` reports for a page; a failed write leaves any content. -/
inductive FlashAnswer
  | noError
  | error (left : Flash)

/-- The write cache after its `memset`. -/
def blankCache : Staged.Memory := fun _ => 0xFF

/-! ## A word -/

/-- There is no place to write to, or no room for nine more bytes. -/
def noRoom (nextByte pnorSize : BitVec 32) : Bool :=
  nextByte == 0xFFFFFFFF || BitVec.ult (nextByte + pnorSize) (nextByte + 9)

/-- `cpsz`: the bytes of a word that still fit in the page. -/
def copySize (index : Nat) : Nat := if pageProgramBytes < index + 9 then pageProgramBytes - index else 9

/-- `pnor_write_8B`; `answer` is the one to the page write, if there is one. -/
def pnorWrite8B (answer : FlashAnswer) (s : Pnor) (data : List Byte) : Except Pnor Pnor :=
  let s := if pageProgramBytes < s.writeCacheIndex then { s with writeCacheIndex := 0, nextByte := 0xFFFFFFFF } else s
  if noRoom s.nextByte s.pnorSize then .error s
  else
    let data9 := (injectECC data).getD []
    let cpsz := copySize s.writeCacheIndex
    let cache := Staged.write s.writeCache s.writeCacheIndex (data9.take cpsz)
    let index := s.writeCacheIndex + cpsz
    if index = pageProgramBytes then
      match answer with
      | .error left =>
        .error { s with
          writeCache := cache, writeCacheIndex := index, flash := left, nextByte := 0xFFFFFFFF, pnorSize := 0 }
      | .noError =>
        .ok { s with
          flash := Paged.lay s.flash s.nextByte cache pageProgramBytes
          nextByte := s.nextByte + BitVec.ofNat 32 pageProgramBytes
          -- the bytes of the word that did not fit begin the next page
          writeCache := Staged.write blankCache 0 (data9.drop cpsz)
          writeCacheIndex := 9 - cpsz }
    else .ok { s with writeCache := cache, writeCacheIndex := index }

/-- The words are written one after another until one fails; `answers` has an answer for each. -/
def writeChunks (answers : Nat → FlashAnswer) : List (List Byte) → Pnor → Except Pnor Pnor
  | [], s => .ok s
  | data :: rest, s =>
    match pnorWrite8B (answers 0) s data with
    | .error s => .error s
    | .ok s => writeChunks (fun j => answers (j + 1)) rest s

/-! ## A call -/

/-- The arguments of `PNOR_writeFirData`. -/
structure FirWrite where
  pnorOffset : BitVec 32
  pnorSize : BitVec 32
  buf : List Byte
  small : buf.length < 2 ^ 32

/-- What the arguments do not say: the memory behind the buffer, whether `hwInit` succeeds and the answers to
the page writes. -/
structure Surroundings where
  behind : Staged.Memory
  hwInit : Bool
  writeFlash : Nat → FlashAnswer

/-- `pnor_prep` -/
def pnorPrep (hwInit : Bool) (s : Pnor) (pnorOffset pnorSize : BitVec 32) : Except Pnor Pnor :=
  let s := { s with pnorSize := pnorSize, nextByte := pnorOffset, writeCache := blankCache }
  if hwInit then .ok s else .error { s with nextByte := 0xFFFFFFFF, pnorSize := 0 }

namespace FirWrite

variable (c : FirWrite) (behind : Staged.Memory)

/-- The memory from `i_buf` on. -/
def memory : Staged.Memory := fun x => (c.buf[x]?).getD (behind x)

def chunkAt (idx : Nat) : List Byte := (List.range 8).map fun r => c.memory behind (idx + r)

/-- The number of words the first loop writes; its `idx` ends at eight times that. -/
def fullChunks : Nat := (c.buf.length + 7) / 8

/-- The words of the first loop. -/
def bufferChunks : List (List Byte) := (List.range' 0 c.fullChunks 8).map (c.chunkAt behind)

/-- `extraBytes`: how far the first loop went beyond the end of the buffer. -/
def extraBytes : Nat := 8 * c.fullChunks - c.buf.length

/-- The word written when the size of the buffer is no multiple of eight: the last one, its first bytes
overwritten with those at `idx`. -/
def extraChunk : List (List Byte) :=
  if 8 * c.fullChunks ≠ c.buf.length then
    [(c.chunkAt behind (8 * c.fullChunks)).take c.extraBytes ++
      (c.chunkAt behind (8 * c.fullChunks - 8)).drop c.extraBytes]
  else []

/-- The words of the fill loop. -/
def fillChunks : List (List Byte) :=
  List.replicate ((c.pnorSize.toNat - c.buf.length + 7) / 8) (List.replicate 8 0xFF)

/-- `PNOR_writeFirData`. The room check refuses a word before `idx` could wrap around, so it is a plain number. -/
def writeFirData (w : Surroundings) (s : Pnor) : Except Pnor Pnor :=
  match pnorPrep w.hwInit s c.pnorOffset c.pnorSize with
  | .error s => .error s
  | .ok s =>
    let buffer := c.bufferChunks w.behind
    let extra := c.extraChunk w.behind
    match writeChunks w.writeFlash buffer s with
    | .error s => .error s
    | .ok s =>
      match writeChunks (fun j => w.writeFlash (buffer.length + j)) extra s with
      | .error s => .error s
      | .ok s => writeChunks (fun j => w.writeFlash (buffer.length + (extra.length + j))) c.fillChunks s

end FirWrite

/-- The state that a result leaves, whatever is returned. -/
def outcome : Except Pnor Pnor → Pnor
  | .error s => s
  | .ok s => s

/-- Any call, whatever it returns. -/
def Pnor.next (s : Pnor) (e : FirWrite × Surroundings) : Option Pnor := some (outcome (e.1.writeFirData e.2 s))

end Occ.Firdata
