/-
The ECC of the PNOR flash (`firdata/ecc.c`): eight check bits for a word of eight bytes, the correction of a bit by its
syndrome, and streams of bytes with and without ECC.
-/
import Occ.Lib.Bytes

namespace Occ.Firdata

/-! ## Matrices -/

/-- `ECC_GD` and `ECC_UE` -/
def eccGd : BitVec 8 := 0xff
def eccUe : BitVec 8 := 0xfe

/-- The bits of the ECC itself, by their number in the hardware. -/
def eccE0 : BitVec 8 := 71
def eccE1 : BitVec 8 := 70
def eccE2 : BitVec 8 := 69
def eccE3 : BitVec 8 := 68
def eccE4 : BitVec 8 := 67
def eccE5 : BitVec 8 := 66
def eccE6 : BitVec 8 := 65
def eccE7 : BitVec 8 := 64

/-- The data bits that each bit of the ECC is the parity of. -/
def eccMatrix : List (BitVec 64) := [
  0x0000e8423c0f99ff, 0x00e8423c0f99ff00,
  0xe8423c0f99ff0000, 0x423c0f99ff0000e8,
  0x3c0f99ff0000e842, 0x0f99ff0000e8423c,
  0x99ff0000e8423c0f, 0xff0000e8423c0f99]

/-- The bit that is bad, by the difference of the good and the bad ECC. -/
def syndromeMatrix : List (BitVec 8) := [
  eccGd, eccE7, eccE6, eccUe, eccE5, eccUe, eccUe, 47,
  eccE4, eccUe, eccUe, 37, eccUe, 35, 39, eccUe,
  eccE3, eccUe, eccUe, 48, eccUe, 30, 29, eccUe,
  eccUe, 57, 27, eccUe, 31, eccUe, eccUe, eccUe,
  eccE2, eccUe, eccUe, 17, eccUe, 18, 40, eccUe,
  eccUe, 58, 22, eccUe, 21, eccUe, eccUe, eccUe,
  eccUe, 16, 49, eccUe, 19, eccUe, eccUe, eccUe,
  23, eccUe, eccUe, eccUe, eccUe, 20, eccUe, eccUe,
  eccE1, eccUe, eccUe, 51, eccUe, 46, 9, eccUe,
  eccUe, 34, 10, eccUe, 32, eccUe, eccUe, 36,
  eccUe, 62, 50, eccUe, 14, eccUe, eccUe, eccUe,
  13, eccUe, eccUe, eccUe, eccUe, eccUe, eccUe, eccUe,
  eccUe, 61, 8, eccUe, 41, eccUe, eccUe, eccUe,
  11, eccUe, eccUe, eccUe, eccUe, eccUe, eccUe, eccUe,
  15, eccUe, eccUe, eccUe, eccUe, eccUe, eccUe, eccUe,
  eccUe, eccUe, 12, eccUe, eccUe, eccUe, eccUe, eccUe,
  eccE0, eccUe, eccUe, 55, eccUe, 45, 43, eccUe,
  eccUe, 56, 38, eccUe, 1, eccUe, eccUe, eccUe,
  eccUe, 25, 26, eccUe, 2, eccUe, eccUe, eccUe,
  24, eccUe, eccUe, eccUe, eccUe, eccUe, 28, eccUe,
  eccUe, 59, 54, eccUe, 42, eccUe, eccUe, 44,
  6, eccUe, eccUe, eccUe, eccUe, eccUe, eccUe, eccUe,
  5, eccUe, eccUe, eccUe, eccUe, eccUe, eccUe, eccUe,
  eccUe, eccUe, eccUe, eccUe, eccUe, eccUe, eccUe, eccUe,
  eccUe, 63, 53, eccUe, 0, eccUe, eccUe, eccUe,
  33, eccUe, eccUe, eccUe, eccUe, eccUe, eccUe, eccUe,
  3, eccUe, eccUe, 52, eccUe, eccUe, eccUe, eccUe,
  eccUe, eccUe, eccUe, eccUe, eccUe, eccUe, eccUe, eccUe,
  7, eccUe, eccUe, eccUe, eccUe, eccUe, eccUe, eccUe,
  eccUe, 60, eccUe, eccUe, eccUe, eccUe, eccUe, eccUe,
  eccUe, eccUe, eccUe, eccUe, 4, eccUe, eccUe, eccUe,
  eccUe, eccUe, eccUe, eccUe, eccUe, eccUe, eccUe, eccUe]

/-! ## A word -/

/-- `parity_check` -/
def parityCheck (data : BitVec 64) : BitVec 8 :=
  .ofNat 8 ((List.range 64).countP (fun x => data &&& ((0x8000000000000000 : BitVec 64) >>> x) ≠ 0) % 2)

/-- `generateECC` -/
def generateECC (data : BitVec 64) : BitVec 8 :=
  (List.range 8).foldl (fun result i => result ||| parityCheck (eccMatrix.getD i 0 &&& data) <<< i) 0

/-- `verifyECC` -/
def verifyECC (data : BitVec 64) (ecc : BitVec 8) : BitVec 8 := syndromeMatrix.getD (generateECC data ^^^ ecc).toNat 0

section
-- what shifting an `unsigned long` by its width or more gives
variable (undefinedShift : Nat → BitVec 32)

/-- `1ul << n`, of 32 bits on the GPE. -/
def shiftUl (n : Nat) : BitVec 32 := if n < 32 then (1 : BitVec 32) <<< n else undefinedShift n

/-- `correctECC`: its result, the data and the ECC. -/
def correctECC (data : BitVec 64) (ecc : BitVec 8) : BitVec 8 × BitVec 64 × BitVec 8 :=
  let badBit := verifyECC data ecc
  if badBit ≠ eccGd ∧ badBit ≠ eccUe then
    if eccE7 ≤ badBit then (badBit, data, ecc ^^^ (1 : BitVec 8) <<< (badBit - eccE7).toNat)
    else (badBit, data ^^^ (shiftUl undefinedShift (63 - badBit.toNat)).setWidth 64, ecc)
  else (badBit, data, ecc)

end

/-! ## Streams -/

/-- `eccStatus` -/
inductive EccStatus
  | clean | corrected | uncorrectable
deriving DecidableEq, Repr

/-- The words of `n` times eight bytes, each followed by its ECC. -/
def injectWords (src : List (BitVec 8)) : Nat → List (BitVec 8)
  | 0 => []
  | n + 1 => src.take 8 ++ [generateECC (Bytes.toWord 64 (src.take 8))] ++ injectWords (src.drop 8) n

/-- `injectECC`: what is written to the destination, if anything. -/
def injectECC (src : List (BitVec 8)) : Option (List (BitVec 8)) :=
  if src.length % 8 ≠ 0 then none else some (injectWords src (src.length / 8))

section
variable (undefinedShift : Nat → BitVec 32)

/-- The loop of `removeECC` over `n` words: the status, what becomes of the source, and the destination. -/
def removeWords (rc : EccStatus) (src : List (BitVec 8)) : Nat → EccStatus × List (BitVec 8) × List (BitVec 8)
  | 0 => (rc, [], [])
  | n + 1 =>
    let (badBit, data, ecc) := correctECC undefinedShift (Bytes.toWord 64 (src.take 8)) (src.getD 8 0)
    let fixed := badBit ≠ eccUe ∧ badBit ≠ eccGd
    let rc := if badBit = eccUe then .uncorrectable
      else if badBit ≠ eccGd then if rc ≠ .uncorrectable then .corrected else rc
      else rc
    let (rc, src', dst) := removeWords rc (src.drop 9) n
    (rc, (if fixed then Bytes.ofWord 8 data ++ [ecc] else src.take 9) ++ src', Bytes.ofWord 8 data ++ dst)

/-- `removeECC`, for a destination of `dstSz` bytes; none if it returns -1. -/
def removeECC (src : List (BitVec 8)) (dstSz : Nat) : Option (EccStatus × List (BitVec 8) × List (BitVec 8)) :=
  if dstSz % 8 ≠ 0 then none else some (removeWords undefinedShift .clean src (dstSz / 8))

end

end Occ.Firdata
