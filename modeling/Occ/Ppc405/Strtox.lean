/-
The conversion of strings to integers (`strtox.c`): white space, a sign, a radix mark and digits, and what the four target types
make of the number.
-/
import Occ.Lib.Numeral
import Mathlib

namespace Occ.Ppc405

/-! ## Characters -/

/-- A `char`; a string is the list of its characters up to the null byte. -/
abbrev CChar := BitVec 8

/-- The code of a character. -/
def ch (c : Char) : CChar := BitVec.ofNat 8 c.toNat

/-- The characters of a text. -/
def text (s : String) : List CChar := s.toList.map ch

/-- The character at the pointer: the null byte at the end. -/
def deref (s : List CChar) : CChar := s.headD 0

def isspace (c : CChar) : Bool := (0x09 ≤ c ∧ c ≤ 0x0D) ∨ c = 0x20

def isdigit (c : CChar) : Bool := ch '0' ≤ c ∧ c ≤ ch '9'

def islower (c : CChar) : Bool := ch 'a' ≤ c ∧ c ≤ ch 'z'

def isupper (c : CChar) : Bool := ch 'A' ≤ c ∧ c ≤ ch 'Z'

/-! ## The common conversion -/

/-- The return codes. -/
inductive StrtoxRc
  | success | noConversionEmpty | noConversionParse | invalidArgument
  | underflowStrtol1 | underflowStrtol2 | underflowStrtoll1 | underflowStrtoll2
  | overflowStrtol1 | overflowStrtol2 | overflowStrtoll1 | overflowStrtoll2 | overflowStrtoul | overflowStrtoull
deriving DecidableEq, Repr

def StrtoxRc.code : StrtoxRc → BitVec 32
  | success => 0
  | noConversionEmpty => 0x00787901
  | noConversionParse => 0x00787902
  | invalidArgument => 0x00787903
  | underflowStrtol1 => 0x00787905
  | underflowStrtol2 => 0x00787906
  | underflowStrtoll1 => 0x00787907
  | underflowStrtoll2 => 0x00787908
  | overflowStrtol1 => 0x00787909
  | overflowStrtol2 => 0x0078790a
  | overflowStrtoll1 => 0x0078790b
  | overflowStrtoll2 => 0x0078790c
  | overflowStrtoul => 0x0078790d
  | overflowStrtoull => 0x0078790e

/-- `skip_whitespace` -/
def skipWhitespace (s : List CChar) : List CChar := s.dropWhile isspace

/-- Whether the value is negated, and the string after the sign. -/
def sign (s : List CChar) : Bool × List CChar :=
  if deref s = ch '+' then (false, s.drop 1)
  else if deref s = ch '-' then (true, s.drop 1)
  else (false, s)

/-- `radix_mark`: a hex mark is skipped, a simple 0 is not. -/
def radixMark (s : List CChar) : Nat × List CChar :=
  if deref s = ch '0' then
    if deref (s.drop 1) = ch 'x' ∨ deref (s.drop 1) = ch 'X' then (16, s.drop 2) else (8, s)
  else (10, s)

/-- `parse_digit`, with `none` for -1. -/
def parseDigit (c : CChar) (radix : Nat) : Option Nat :=
  if isdigit c then if c.toNat - (ch '0').toNat < radix then some (c.toNat - (ch '0').toNat) else none
  else if radix ≤ 10 then none
  else if islower c then
    if c.toNat - (ch 'a').toNat < radix - 10 then some (c.toNat - (ch 'a').toNat + 10) else none
  else if isupper c then
    if c.toNat - (ch 'A').toNat < radix - 10 then some (c.toNat - (ch 'A').toNat + 10) else none
  else none

/-- `rc`, `*value` and `*overflow` of the loop over the digits -/
structure DigitLoop where
  rc : StrtoxRc
  value : BitVec 64
  overflow : Bool

/-- A digit; once overflow is detected the data is ignored. -/
def DigitLoop.digit (radix : Nat) (l : DigitLoop) (digit : Nat) : DigitLoop :=
  if l.overflow then l
  else
    let new := l.value * BitVec.ofNat 64 radix + BitVec.ofNat 64 digit
    if new < l.value then ⟨.success, l.value, true⟩ else ⟨.success, new, false⟩

/-- The loop over the digits, with the string after them. -/
def digitLoop (radix : Nat) : List CChar → DigitLoop → DigitLoop × List CChar
  | [], l => (l, [])
  | c :: s, l =>
    match parseDigit c radix with
    | some digit => digitLoop radix s (l.digit radix digit)
    | none => (l, c :: s)

/-- What `strtox` returns: `*endptr` is given by its distance from the start of the string. -/
structure Strtox where
  rc : StrtoxRc
  value : BitVec 64
  negative : Bool
  overflow : Bool
  endptr : Nat

/-- `strtox` -/
def strtox (str : List CChar) (base : Nat) : Strtox :=
  if base ≠ 0 ∧ (base < 2 ∨ 36 < base) then ⟨.invalidArgument, 0, false, false, 0⟩
  else
    let s := skipWhitespace str
    if deref s = 0 then ⟨.noConversionEmpty, 0, false, false, 0⟩
    else
      let signed := sign s
      let marked :=
        if base = 0 then radixMark signed.2
        else if base = 16 then (16, (radixMark signed.2).2)
        else (base, signed.2)
      let parsed := digitLoop marked.1 marked.2 ⟨.noConversionParse, 0, false⟩
      ⟨parsed.1.rc, parsed.1.value, signed.1, parsed.1.overflow,
        if parsed.1.rc = .success then str.length - parsed.2.length else 0⟩

/-! ## The four types -/

/-- The return code, `*value` of a type of `w` bits, and the distance of `*endptr`. -/
structure Converted (w : Nat) where
  rc : StrtoxRc
  value : BitVec w
  endptr : Nat
deriving DecidableEq

/-- `LONG_MIN` and `LONG_MAX` -/
def longMin : BitVec 32 := 0x80000000

def longMax : BitVec 32 := 0x7FFFFFFF

/-- `LLONG_MIN` and `LLONG_MAX` -/
def llongMin : BitVec 64 := 0x8000000000000000

def llongMax : BitVec 64 := 0x7FFFFFFFFFFFFFFF

/-- `_strtol` -/
def strtol (str : List CChar) (base : Nat) : Converted 32 :=
  let r := strtox str base
  if r.rc ≠ .success then ⟨r.rc, 0, r.endptr⟩
  else if r.overflow ∨ r.value ≠ (r.value.setWidth 32).setWidth 64 then
    if r.negative then ⟨.underflowStrtol1, longMin, r.endptr⟩ else ⟨.overflowStrtol1, longMax, r.endptr⟩
  else if r.negative then
    if longMax.setWidth 64 + 1 < r.value then ⟨.underflowStrtol2, longMin, r.endptr⟩
    else ⟨.success, (~~~r.value + 1).setWidth 32, r.endptr⟩
  else if longMax.setWidth 64 < r.value then ⟨.overflowStrtol2, longMax, r.endptr⟩
  else ⟨.success, r.value.setWidth 32, r.endptr⟩

/-- `_strtoll` -/
def strtoll (str : List CChar) (base : Nat) : Converted 64 :=
  let r := strtox str base
  if r.rc ≠ .success then ⟨r.rc, 0, r.endptr⟩
  else if r.overflow then
    if r.negative then ⟨.underflowStrtoll1, llongMin, r.endptr⟩ else ⟨.overflowStrtoll1, llongMax, r.endptr⟩
  else if r.negative then
    if llongMax + 1 < r.value then ⟨.underflowStrtoll2, llongMin, r.endptr⟩
    else ⟨.success, ~~~r.value + 1, r.endptr⟩
  else if llongMax < r.value then ⟨.overflowStrtoll2, llongMax, r.endptr⟩
  else ⟨.success, r.value, r.endptr⟩

/-- `_strtoul` -/
def strtoul (str : List CChar) (base : Nat) : Converted 32 :=
  let r := strtox str base
  if r.rc ≠ .success then ⟨r.rc, 0, r.endptr⟩
  else if r.overflow ∨ r.value ≠ (r.value.setWidth 32).setWidth 64 then ⟨.overflowStrtoul, 0xFFFFFFFF, r.endptr⟩
  else if r.negative then ⟨.success, ~~~(r.value.setWidth 32) + 1, r.endptr⟩
  else ⟨.success, r.value.setWidth 32, r.endptr⟩

/-- `_strtoull` -/
def strtoull (str : List CChar) (base : Nat) : Converted 64 :=
  let r := strtox str base
  if r.rc ≠ .success then ⟨r.rc, 0, r.endptr⟩
  else if r.overflow then ⟨.overflowStrtoull, 0xFFFFFFFFFFFFFFFF, r.endptr⟩
  else if r.negative then ⟨.success, ~~~r.value + 1, r.endptr⟩
  else ⟨.success, r.value, r.endptr⟩

end Occ.Ppc405
