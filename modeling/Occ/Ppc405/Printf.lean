/-
Formatted output (`printf.c`), to a stream that accepts all bytes: the padding, the conversions of characters, strings and
integers with their digit buffer, and `vfprintf`, which goes through the format.
-/
import Occ.Lib.Loops
import Occ.Ppc405.Strtox

namespace Occ.Ppc405

open While

/-! ## Options -/

/-- The formatting options; a field width and a precision are kept with their values. -/
structure Options where
  alternate : Bool := false
  padZero : Bool := false
  plusSign : Bool := false
  long : Bool := false
  longLong : Bool := false
  sizeT : Bool := false
  uppercase : Bool := false
  hex : Bool := false
  space : Bool := false
deriving DecidableEq

/-- Where the field width comes from: none is given, the digits in the format, an argument for `*`, or `p` without flags. -/
inductive Width
  | absent
  | digits (ds : { ds : List CChar // ∀ c ∈ ds, isdigit c = true })
  | star (arg : BitVec 32)
  | pointer

/-- `options & OPTION_FIELD_WIDTH` -/
def Width.given : Width → Bool
  | absent => false
  | _ => true

/-- The loops over the decimal digits of a width or a precision. -/
def decimal (ds : List CChar) : BitVec 32 :=
  ds.foldl (fun width c => width * 10 + (c.setWidth 32 - (ch '0').setWidth 32)) 0

/-- `width` -/
def Width.size : Width → BitVec 32
  | absent => 0
  | digits ds => decimal ds.1
  | star arg => arg
  | pointer => 2 * 4 + 2

/-! ## Padding -/

/-- What a function that formats returns, and the text it writes. -/
structure Written where
  rc : BitVec 32
  text : List CChar

def zeros : List CChar := List.replicate 8 (ch '0')

def blanks : List CChar := List.replicate 8 (ch ' ')

/-- The characters written at once: `MIN(chars, PAD_SIZE)` -/
def padSize (chars : BitVec 32) : BitVec 32 := if chars < 8 then chars else 8

theorem padSize_toNat (chars : BitVec 32) : (padSize chars).toNat = min chars.toNat 8 := by
  have h8 : (8 : BitVec 32).toNat = 8 := rfl
  unfold padSize
  split
  · rename_i h
    rw [BitVec.lt_def, h8] at h
    omega
  · rename_i h
    rw [BitVec.lt_def, h8] at h
    omega

theorem sub_padSize_toNat (chars : BitVec 32) : (chars - padSize chars).toNat = chars.toNat - 8 := by
  have hle : padSize chars ≤ chars := by
    rw [BitVec.le_def, padSize_toNat]
    omega
  rw [BitVec.toNat_sub_of_le hle, padSize_toNat]
  omega

/-- The loop of `pad`, with the characters that remain and those that are written. -/
def padLoop (padchars : List CChar) (chars : BitVec 32) : BitVec 32 × List CChar :=
  whileLoop (fun s => s.1 != 0) (fun s => (s.1 - padSize s.1, s.2 ++ padchars.take (padSize s.1).toNat)) (fun s => s.1.toNat)
    (by
      rintro ⟨n, out⟩ h
      have hn : n.toNat ≠ 0 := fun h0 => bne_iff_ne.1 h (BitVec.eq_of_toNat_eq h0)
      show (n - padSize n).toNat < n.toNat
      rw [sub_padSize_toNat]
      omega)
    (chars, [])

/-- `pad` -/
def pad (nchars : BitVec 32) (padZero : Bool) (width : Width) : Written :=
  if !width.given ∨ width.size ≤ nchars then ⟨0, []⟩
  else ⟨width.size - nchars, (padLoop (if padZero then zeros else blanks) (width.size - nchars)).2⟩

/-! ## Characters and strings -/

/-- `format_char` -/
def formatChar (c : CChar) (o : Options) (width : Width) : Written :=
  let padchars := pad 1 o.padZero width
  if padchars.rc.slt 0 then padchars else ⟨padchars.rc + 1, padchars.text ++ [c]⟩

def strlen (s : List CChar) : BitVec 32 := BitVec.ofNat 32 (s.takeWhile (· ≠ 0)).length

/-- The string that is written: the null pointer has a text of its own, if the precision has room for it. -/
def stringOf (s : Option (List CChar)) (precision : Option (BitVec 32)) : List CChar :=
  match s with
  | some s => s
  | none => if precision.any (· < 6) then [] else text "(null)"

/-- `len` -/
def stringLen (s : Option (List CChar)) (precision : Option (BitVec 32)) : BitVec 32 :=
  let len := strlen (stringOf s precision)
  match precision with
  | some precision => if len < precision then len else precision
  | none => len

/-- `format_string`, which always pads with blanks -/
def formatString (s : Option (List CChar)) (width : Width) (precision : Option (BitVec 32)) : Written :=
  let len := stringLen s precision
  let padchars := pad len false width
  if padchars.rc.slt 0 then padchars
  else ⟨padchars.rc + len, padchars.text ++ (stringOf s precision).take len.toNat⟩

/-! ## Integers -/

def lower : List CChar := text "0123456789abcdef"

def upper : List CChar := text "0123456789ABCDEF"

/-! ## The digits of a number -/

section

variable {w : Nat} {x : BitVec w} {negative : Bool} {more : BitVec w → Bool}

theorem natAbs_pos_of_ne_zero (hx : x ≠ 0) : 0 < x.toInt.natAbs := by
  refine Int.natAbs_pos.2 fun h => hx ?_
  exact BitVec.eq_of_toInt_eq (h.trans BitVec.toInt_zero.symm)

theorem toNat_of_toInt_eq {k : Nat} (h : x.toInt = k) : x.toNat = k := by
  have hx := x.isLt
  rw [BitVec.toInt_eq_toNat_cond] at h
  split at h <;> omega

theorem ten_toNat (hw : 5 ≤ w) : (10 : BitVec w).toNat = 10 := by
  have hpow : 2 ^ 5 ≤ 2 ^ w := Nat.pow_le_pow_right (by decide) hw
  exact Nat.mod_eq_of_lt (show 10 < 2 ^ w by omega)

theorem ten_toInt (hw : 5 ≤ w) : (10 : BitVec w).toInt = 10 := by
  have hpow : 2 ^ 5 ≤ 2 ^ w := Nat.pow_le_pow_right (by decide) hw
  rw [BitVec.toInt_eq_toNat_of_lt (by rw [ten_toNat hw]; omega), ten_toNat hw]
  rfl

theorem toInt_sdiv_ten (hw : 5 ≤ w) (x : BitVec w) : (x.sdiv 10).toInt = x.toInt.tdiv 10 := by
  have hpow : 2 ^ 5 ≤ 2 ^ w := Nat.pow_le_pow_right (by decide) hw
  have hne : (10 : BitVec w) ≠ -1#w := by
    intro h
    have hnat := congrArg BitVec.toNat h
    rw [ten_toNat hw, BitVec.neg_one_eq_allOnes, BitVec.toNat_allOnes] at hnat
    omega
  rw [BitVec.toInt_sdiv_of_ne_or_ne _ _ (.inr hne), ten_toInt hw]

theorem natAbs_sdiv_ten (hw : 5 ≤ w) (x : BitVec w) : (x.sdiv 10).toInt.natAbs = x.toInt.natAbs / 10 := by
  rw [toInt_sdiv_ten hw, Int.natAbs_tdiv]
  rfl

theorem sdiv_ten_sign (hw : 5 ≤ w) (x : BitVec w) :
    (x.toInt ≤ 0 → (x.sdiv 10).toInt ≤ 0) ∧ (0 ≤ x.toInt → 0 ≤ (x.sdiv 10).toInt) := by
  rw [toInt_sdiv_ten hw]
  constructor
  · intro h
    have hneg := Int.tdiv_nonneg (show 0 ≤ -x.toInt by omega) (show (0 : Int) ≤ 10 by omega)
    rw [Int.neg_tdiv] at hneg
    omega
  · intro h
    exact Int.tdiv_nonneg h (by omega)

/-- The index of the digit: `-(lli % 10)` for a negative number. -/
theorem srem_ten_toNat (hw : 5 ≤ w) (hsign : if negative then x.toInt ≤ 0 else 0 ≤ x.toInt) :
    (if negative then -(x.srem 10) else x.srem 10).toNat = x.toInt.natAbs % 10 := by
  apply toNat_of_toInt_eq
  have hrem : (x.srem 10).toInt = x.toInt.tmod 10 := by rw [BitVec.toInt_srem, ten_toInt hw]
  have habs : (x.toInt.tmod 10).natAbs = x.toInt.natAbs % 10 := Int.natAbs_tmod _ _
  cases negative with
  | false =>
    have hnonneg : 0 ≤ x.toInt.tmod 10 := Int.tmod_nonneg _ hsign
    rw [if_neg Bool.false_ne_true, hrem]
    omega
  | true =>
    have hnonpos : x.toInt.tmod 10 ≤ 0 := by
      rw [if_pos rfl] at hsign
      have hneg := Int.tmod_nonneg 10 (show 0 ≤ -x.toInt by omega)
      rw [Int.neg_tmod] at hneg
      omega
    have hmin : x.srem 10 ≠ BitVec.intMin w := by
      intro h
      have hint := congrArg BitVec.toInt h
      rw [hrem, BitVec.toInt_intMin_of_pos (by omega)] at hint
      have hpow : (2 : Int) ^ 4 ≤ 2 ^ (w - 1) := by exact_mod_cast Nat.pow_le_pow_right (by decide) (by omega)
      omega
    rw [if_pos rfl, BitVec.toInt_neg_of_ne_intMin hmin, hrem]
    omega

/-- A loop of `format_int`, with the number that remains and the digits from `digits[k]` on. -/
def signedLoop (hw : 5 ≤ w) (negative : Bool) (more : BitVec w → Bool) (hmore : ∀ x, more x = true → x ≠ 0) (x : BitVec w)
    (digits : List CChar) : BitVec w × List CChar :=
  whileLoop (fun s => more s.1)
    (fun s => (s.1.sdiv 10, lower.getD (if negative then -(s.1.srem 10) else s.1.srem 10).toNat 0 :: s.2))
    (fun s => s.1.toInt.natAbs)
    (by
      rintro ⟨y, digits⟩ h
      have hpos := natAbs_pos_of_ne_zero (hmore y h)
      show (y.sdiv 10).toInt.natAbs < y.toInt.natAbs
      rw [natAbs_sdiv_ten hw]
      omega)
    (x, digits)

/-- A loop of `format_unsigned`. -/
def unsignedLoop (hw : 5 ≤ w) (hex : Bool) (xchars : List CChar) (more : BitVec w → Bool)
    (hmore : ∀ x, more x = true → x ≠ 0) (x : BitVec w) (digits : List CChar) : BitVec w × List CChar :=
  whileLoop (fun s => more s.1)
    (fun s => if hex then (s.1 >>> 4, xchars.getD (s.1 &&& 0xf).toNat 0 :: s.2)
      else (s.1 / 10, xchars.getD (s.1 % 10).toNat 0 :: s.2))
    (fun s => s.1.toNat)
    (by
      rintro ⟨y, digits⟩ h
      have hpos : 0 < y.toNat := Nat.pos_of_ne_zero fun h0 => hmore y h (BitVec.eq_of_toNat_eq h0)
      cases hex with
      | false =>
        show (y / 10).toNat < y.toNat
        rw [BitVec.toNat_udiv, ten_toNat hw]
        omega
      | true =>
        show (y >>> 4).toNat < y.toNat
        rw [BitVec.toNat_ushiftRight, Nat.shiftRight_eq_div_pow]
        omega)
    (x, digits)

/-- The digits of a number in a radix. -/
def charsOf (r : Nat) (xchars : List CChar) (n : Nat) : List CChar := (Numeral.digitsOf r n).map (xchars.getD · 0)

theorem charsOf_step {r n : Nat} (xchars : List CChar) (hr : 1 < r) (hn : 0 < n) (digits : List CChar) :
    charsOf r xchars (n / r) ++ xchars.getD (n % r) 0 :: digits = charsOf r xchars n ++ digits := by
  unfold charsOf
  rw [Numeral.digitsOf_step hr hn, List.map_append, List.append_assoc]
  rfl

/-- A loop of `format_int` moves digits of the number to the buffer, until it ends. -/
theorem signedLoop_spec (hw : 5 ≤ w) (hmore : ∀ x, more x = true → x ≠ 0) (digits : List CChar)
    (hsign : if negative then x.toInt ≤ 0 else 0 ≤ x.toInt) :
    ((if negative then (signedLoop hw negative more hmore x digits).1.toInt ≤ 0
        else 0 ≤ (signedLoop hw negative more hmore x digits).1.toInt) ∧
      charsOf 10 lower (signedLoop hw negative more hmore x digits).1.toInt.natAbs ++
        (signedLoop hw negative more hmore x digits).2 = charsOf 10 lower x.toInt.natAbs ++ digits) ∧
    more (signedLoop hw negative more hmore x digits).1 = false := by
  unfold signedLoop
  refine whileLoop_rule (I := fun (s : BitVec w × List CChar) => (if negative then s.1.toInt ≤ 0 else 0 ≤ s.1.toInt) ∧
    charsOf 10 lower s.1.toInt.natAbs ++ s.2 = charsOf 10 lower x.toInt.natAbs ++ digits) ⟨hsign, rfl⟩ ?_
  rintro ⟨y, digits'⟩ hy ⟨hneg, hchars⟩
  constructor
  · obtain ⟨hnonpos, hnonneg⟩ := sdiv_ten_sign hw y
    split
    · rename_i h
      exact hnonpos (by rwa [if_pos h] at hneg)
    · rename_i h
      exact hnonneg (by rwa [if_neg h] at hneg)
  · dsimp only at hneg hchars ⊢
    rw [← hchars, natAbs_sdiv_ten hw, srem_ten_toNat hw hneg]
    exact charsOf_step lower (by decide) (natAbs_pos_of_ne_zero (hmore y hy)) digits'

/-- A loop of `format_unsigned` does the same. -/
theorem unsignedLoop_spec (hw : 5 ≤ w) (hex : Bool) (xchars : List CChar) (hmore : ∀ x, more x = true → x ≠ 0)
    (x : BitVec w) (digits : List CChar) :
    charsOf (if hex then 16 else 10) xchars (unsignedLoop hw hex xchars more hmore x digits).1.toNat ++
        (unsignedLoop hw hex xchars more hmore x digits).2 = charsOf (if hex then 16 else 10) xchars x.toNat ++ digits ∧
      more (unsignedLoop hw hex xchars more hmore x digits).1 = false := by
  unfold unsignedLoop
  refine whileLoop_rule (I := fun (s : BitVec w × List CChar) => charsOf (if hex then 16 else 10) xchars s.1.toNat ++ s.2 =
    charsOf (if hex then 16 else 10) xchars x.toNat ++ digits) rfl ?_
  rintro ⟨y, digits'⟩ hy hchars
  have hpos : 0 < y.toNat := Nat.pos_of_ne_zero fun h0 => hmore y hy (BitVec.eq_of_toNat_eq h0)
  dsimp only at hchars ⊢
  rw [← hchars]
  cases hex with
  | false =>
    have hdiv : (y / 10).toNat = y.toNat / 10 := by rw [BitVec.toNat_udiv, ten_toNat hw]
    have hmod : (y % 10).toNat = y.toNat % 10 := by rw [BitVec.toNat_umod, ten_toNat hw]
    rw [if_neg Bool.false_ne_true, if_neg Bool.false_ne_true]
    dsimp only
    rw [hdiv, hmod]
    exact charsOf_step xchars (by decide) hpos digits'
  | true =>
    have hpow : 2 ^ 5 ≤ 2 ^ w := Nat.pow_le_pow_right (by decide) hw
    have hdiv : (y >>> 4).toNat = y.toNat / 16 := by rw [BitVec.toNat_ushiftRight, Nat.shiftRight_eq_div_pow]
    have hmod : (y &&& 0xf).toNat = y.toNat % 16 := by
      have hmask : (0xf : BitVec w).toNat = 2 ^ 4 - 1 := Nat.mod_eq_of_lt (show 15 < 2 ^ w by omega)
      rw [BitVec.toNat_and, hmask, Nat.and_two_pow_sub_one_eq_mod]
    rw [if_pos rfl, if_pos rfl]
    dsimp only
    rw [hdiv, hmod]
    exact charsOf_step xchars (by decide) hpos digits'

end

/-- `lli != (int)lli` -/
def wideInt (lli : BitVec 64) : Bool := lli != (lli.setWidth 32).signExtend 64

theorem ne_zero_of_wideInt (x : BitVec 64) (h : wideInt x = true) : x ≠ 0 := by
  rintro rfl
  exact absurd h (by decide)

/-- `ull != (unsigned)ull` -/
def wideUnsigned (ull : BitVec 64) : Bool := ull != (ull.setWidth 32).setWidth 64

theorem ne_zero_of_wideUnsigned (x : BitVec 64) (h : wideUnsigned x = true) : x ≠ 0 := by
  rintro rfl
  exact absurd h (by decide)

/-- `i != 0` -/
def nonzero (i : BitVec 32) : Bool := i != 0

theorem ne_zero_of_nonzero (x : BitVec 32) (h : nonzero x = true) : x ≠ 0 := bne_iff_ne.1 h

/-- `digits` of `format_int` from `digits[k]` on: 64-bit divisions first, then 32-bit ones. -/
def intDigits (lli : BitVec 64) : List CChar :=
  if lli = 0 then [ch '0']
  else
    let s := signedLoop (by decide) (lli.slt 0) wideInt ne_zero_of_wideInt lli []
    (signedLoop (by decide) (lli.slt 0) nonzero ne_zero_of_nonzero (s.1.setWidth 32) s.2).2

/-- `digits` of `format_unsigned` from `digits[k]` on. -/
def unsignedDigits (ull : BitVec 64) (hex : Bool) (xchars : List CChar) : List CChar :=
  if ull = 0 then [ch '0']
  else
    let s := unsignedLoop (by decide) hex xchars wideUnsigned ne_zero_of_wideUnsigned ull []
    (unsignedLoop (by decide) hex xchars nonzero ne_zero_of_nonzero (s.1.setWidth 32) s.2).2

/-- The sign that `format_int` writes. -/
def signMark (lli : BitVec 64) (o : Options) : List CChar :=
  if lli.slt 0 then [ch '-']
  else if (0 : BitVec 64).slt lli then if o.plusSign then [ch '+'] else if o.space then [ch ' '] else []
  else []

/-- `format_int`: the sign goes before the zeros of the padding, or into the buffer. -/
def formatInt (lli : BitVec 64) (o : Options) (width : Width) : Written :=
  let digits := intDigits lli
  let sign := signMark lli o
  if o.padZero then
    let output := BitVec.ofNat 32 sign.length
    let padded := pad (BitVec.ofNat 32 digits.length + output) o.padZero width
    if padded.rc.slt 0 then ⟨padded.rc, sign ++ padded.text⟩
    else ⟨output + padded.rc + BitVec.ofNat 32 digits.length, sign ++ padded.text ++ digits⟩
  else
    let digits := sign ++ digits
    let padded := pad (BitVec.ofNat 32 digits.length) o.padZero width
    if padded.rc.slt 0 then padded
    else ⟨padded.rc + BitVec.ofNat 32 digits.length, padded.text ++ digits⟩

/-- `xchars` -/
def xcharsOf (o : Options) : List CChar := if o.hex && o.uppercase then upper else lower

/-- `alternate`, where it is used: not for zero -/
def alternateMark (ull : BitVec 64) (o : Options) : List CChar :=
  if ull ≠ 0 ∧ o.hex && o.alternate then if o.uppercase then text "0X" else text "0x" else []

/-- `format_unsigned`: before blanks, `output` counts the alternate mark once for the padding and once more when it is written. -/
def formatUnsigned (ull : BitVec 64) (o : Options) (width : Width) : Written :=
  let digits := unsignedDigits ull o.hex (xcharsOf o)
  let alternate := alternateMark ull o
  let output := BitVec.ofNat 32 alternate.length
  let padded := pad (BitVec.ofNat 32 digits.length + output) o.padZero width
  if o.padZero then
    if padded.rc.slt 0 then ⟨padded.rc, alternate ++ padded.text⟩
    else ⟨output + padded.rc + BitVec.ofNat 32 digits.length, alternate ++ padded.text ++ digits⟩
  else
    if padded.rc.slt 0 then padded
    else ⟨output + padded.rc + output + BitVec.ofNat 32 digits.length, padded.text ++ alternate ++ digits⟩

/-! ## The format -/

/-- An argument, as `va_arg` finds it: `int`, `long` and `size_t` are alike. -/
inductive Arg
  | word (v : BitVec 32)
  | dword (v : BitVec 64)
  | string (s : Option (List CChar))
  | intPtr

/-- Where the format ends: at its null byte, with `EINVAL`, or at an argument that is missing or of another kind. -/
inductive Stop
  | finish | einval | undefined
deriving DecidableEq

/-- What is written next; `count` is `%n`. -/
inductive Piece
  | text (s : List CChar)
  | percent
  | count
  | char (c : CChar) (o : Options) (width : Width)
  | int (lli : BitVec 64) (o : Options) (width : Width)
  | unsigned (ull : BitVec 64) (o : Options) (width : Width)
  | string (s : Option (List CChar)) (width : Width) (precision : Option (BitVec 32))

def vaWord : List Arg → Except Stop (BitVec 32 × List Arg)
  | .word v :: args => .ok (v, args)
  | _ => .error .undefined

def vaDword : List Arg → Except Stop (BitVec 64 × List Arg)
  | .dword v :: args => .ok (v, args)
  | _ => .error .undefined

def vaString : List Arg → Except Stop (Option (List CChar) × List Arg)
  | .string s :: args => .ok (s, args)
  | _ => .error .undefined

def vaIntPtr : List Arg → Except Stop (List Arg)
  | .intPtr :: args => .ok args
  | _ => .error .undefined

/-- The padding options. -/
def collectFlags (o : Options) : List CChar → Except Stop (Options × List CChar)
  | [] => .error .einval
  | c :: fmt =>
    if c = 0 then .error .einval
    else if c = ch '#' then collectFlags { o with alternate := true } fmt
    else if c = ch '0' then collectFlags { o with padZero := true } fmt
    else if c = ch '+' then collectFlags { o with plusSign := true } fmt
    else if c = ch ' ' then collectFlags { o with space := true } fmt
    else if c = ch '-' then .error .einval
    else .ok (o, c :: fmt)

/-- The field width. -/
def collectWidth (fmt : List CChar) (args : List Arg) : Except Stop (Width × List CChar × List Arg) :=
  if isdigit (deref fmt) then
    .ok (.digits ⟨fmt.takeWhile isdigit, fun _ hc => List.mem_takeWhile_imp hc⟩, fmt.dropWhile isdigit, args)
  else if deref fmt = ch '*' then do
    let (arg, args) ← vaWord args
    if arg.slt 0 then .error .einval else .ok (.star arg, fmt.drop 1, args)
  else .ok (.absent, fmt, args)

/-- The precision. -/
def collectPrecision (fmt : List CChar) (args : List Arg) : Except Stop (Option (BitVec 32) × List CChar × List Arg) :=
  if deref fmt = ch '.' then
    let fmt := fmt.drop 1
    if isdigit (deref fmt) then .ok (some (decimal (fmt.takeWhile isdigit)), fmt.dropWhile isdigit, args)
    else if deref fmt = ch '*' then do
      let (arg, args) ← vaWord args
      .ok (some (if arg.slt 0 then 0 else arg), fmt.drop 1, args)
    else .ok (some 0, fmt, args)
  else .ok (none, fmt, args)

/-- The length modifiers. -/
def collectLength (o : Options) : List CChar → Except Stop (Options × List CChar)
  | [] => .error .einval
  | c :: fmt =>
    if c = 0 then .error .einval
    else if c = ch 'l' then
      if !o.long && o.longLong then .error .einval
      else if o.sizeT then .error .einval
      else if o.long then collectLength { o with long := false, longLong := true } fmt
      else collectLength { o with long := true } fmt
    else if c = ch 'z' then
      if o.long || o.longLong then .error .einval else collectLength { o with sizeT := true } fmt
    else .ok (o, c :: fmt)

/-- The argument of an integer conversion, extended by `extend` if it has 32 bits. -/
def vaInteger (o : Options) (extend : BitVec 32 → BitVec 64) (args : List Arg) : Except Stop (BitVec 64 × List Arg) :=
  if o.long then (vaWord args).map fun v => (extend v.1, v.2)
  else if o.longLong then vaDword args
  else (vaWord args).map fun v => (extend v.1, v.2)

/-- The conversion specifier. -/
def convert (o : Options) (width : Width) (precision : Option (BitVec 32)) (specifier : CChar) (args : List Arg) :
    Except Stop (Piece × List Arg) :=
  if specifier = ch 'c' then do
    let (arg, args) ← vaWord args
    .ok (.char (arg.setWidth 8) o width, args)
  else if specifier = ch 'd' ∨ specifier = ch 'i' then do
    let (arg, args) ← vaInteger o (BitVec.signExtend 64) args
    .ok (.int arg o width, args)
  else if specifier = ch 'p' then do
    let (arg, args) ← vaWord args
    let plain := !o.padZero && !width.given
    let o := { o with alternate := true, hex := true, padZero := o.padZero || plain }
    let width := if plain then .pointer else width
    if arg = 0 then .ok (.string (some (text "(nil)")) width none, args)
    else .ok (.unsigned (arg.setWidth 64) o width, args)
  else if specifier = ch 's' then do
    let (arg, args) ← vaString args
    .ok (.string arg width precision, args)
  else if specifier = ch 'X' then do
    let (arg, args) ← vaInteger o (BitVec.setWidth 64) args
    .ok (.unsigned arg { o with uppercase := true, hex := true } width, args)
  else if specifier = ch 'x' then do
    let (arg, args) ← vaInteger o (BitVec.setWidth 64) args
    .ok (.unsigned arg { o with hex := true } width, args)
  else if specifier = ch 'u' then do
    let (arg, args) ← vaInteger o (BitVec.setWidth 64) args
    .ok (.unsigned arg o width, args)
  else .error .einval

/-- The format after `%`: what is written next, the format after it, and the arguments that are left. -/
def directive (fmt : List CChar) (args : List Arg) : Except Stop (Piece × List CChar × List Arg) :=
  if deref fmt = 0 then .error .einval
  else if deref fmt = ch '%' then .ok (.percent, fmt.drop 1, args)
  else if deref fmt = ch 'n' then do
    let args ← vaIntPtr args
    .ok (.count, fmt.drop 1, args)
  else do
    let (o, fmt) ← collectFlags {} fmt
    let (width, fmt, args) ← collectWidth fmt args
    let (precision, fmt, args) ← collectPrecision fmt args
    let (o, fmt) ← collectLength o fmt
    let (piece, args) ← convert o width precision (deref fmt) args
    .ok (piece, fmt.drop 1, args)

/-! ## The rest of the format is shorter -/

theorem bind_eq_ok {ε α β : Type} {x : Except ε α} {f : α → Except ε β} {b : β} :
    x >>= f = .ok b ↔ ∃ a, x = .ok a ∧ f a = .ok b := by
  cases x with
  | error e => exact ⟨nofun, fun ⟨_, h, _⟩ => nomatch h⟩
  | ok a => exact ⟨fun h => ⟨a, rfl, h⟩, fun ⟨_, h, hf⟩ => Except.ok.inj h ▸ hf⟩

section

variable {o o' : Options} {fmt fmt' : List CChar} {args args' : List Arg} {width : Width} {precision : Option (BitVec 32)}
  {piece : Piece}

theorem collectFlags_length (h : collectFlags o fmt = .ok (o', fmt')) : fmt'.length ≤ fmt.length := by
  fun_induction collectFlags o fmt <;> grind

theorem collectLength_length (h : collectLength o fmt = .ok (o', fmt')) : fmt'.length ≤ fmt.length := by
  fun_induction collectLength o fmt <;> grind

theorem dropWhile_length (p : CChar → Bool) (s : List CChar) : (s.dropWhile p).length ≤ s.length :=
  (List.dropWhile_suffix p).length_le

theorem collectWidth_length (h : collectWidth fmt args = .ok (width, fmt', args')) : fmt'.length ≤ fmt.length := by
  unfold collectWidth at h
  split at h
  · obtain ⟨-, h⟩ := Prod.mk.inj (Except.ok.inj h)
    obtain ⟨rfl, -⟩ := Prod.mk.inj h
    exact dropWhile_length _ _
  · split at h
    · obtain ⟨⟨arg, args⟩, -, h⟩ := bind_eq_ok.1 h
      dsimp only at h
      split at h
      · cases h
      · obtain ⟨-, h⟩ := Prod.mk.inj (Except.ok.inj h)
        obtain ⟨rfl, -⟩ := Prod.mk.inj h
        rw [List.length_drop]
        omega
    · obtain ⟨-, h⟩ := Prod.mk.inj (Except.ok.inj h)
      obtain ⟨rfl, -⟩ := Prod.mk.inj h
      exact Nat.le_refl _

theorem collectPrecision_length (h : collectPrecision fmt args = .ok (precision, fmt', args')) :
    fmt'.length ≤ fmt.length := by
  unfold collectPrecision at h
  dsimp only at h
  have hdrop : (fmt.drop 1).length ≤ fmt.length := by
    rw [List.length_drop]
    omega
  split at h
  · split at h
    · obtain ⟨-, h⟩ := Prod.mk.inj (Except.ok.inj h)
      obtain ⟨rfl, -⟩ := Prod.mk.inj h
      exact Nat.le_trans (dropWhile_length _ _) hdrop
    · split at h
      · obtain ⟨⟨arg, args⟩, -, h⟩ := bind_eq_ok.1 h
        obtain ⟨-, h⟩ := Prod.mk.inj (Except.ok.inj h)
        obtain ⟨rfl, -⟩ := Prod.mk.inj h
        rw [List.length_drop]
        omega
      · obtain ⟨-, h⟩ := Prod.mk.inj (Except.ok.inj h)
        obtain ⟨rfl, -⟩ := Prod.mk.inj h
        exact hdrop
  · obtain ⟨-, h⟩ := Prod.mk.inj (Except.ok.inj h)
    obtain ⟨rfl, -⟩ := Prod.mk.inj h
    exact Nat.le_refl _

theorem directive_length (h : directive fmt args = .ok (piece, fmt', args')) : fmt'.length ≤ fmt.length := by
  have hdrop : ∀ s : List CChar, (s.drop 1).length ≤ s.length := by
    intro s
    rw [List.length_drop]
    omega
  unfold directive at h
  split at h
  · cases h
  · split at h
    · obtain ⟨-, h⟩ := Prod.mk.inj (Except.ok.inj h)
      obtain ⟨rfl, -⟩ := Prod.mk.inj h
      exact hdrop _
    · split at h
      · obtain ⟨args, -, h⟩ := bind_eq_ok.1 h
        obtain ⟨-, h⟩ := Prod.mk.inj (Except.ok.inj h)
        obtain ⟨rfl, -⟩ := Prod.mk.inj h
        exact hdrop _
      · obtain ⟨⟨o, fmt₁⟩, hflags, h⟩ := bind_eq_ok.1 h
        obtain ⟨⟨width, fmt₂, args₂⟩, hwidth, h⟩ := bind_eq_ok.1 h
        obtain ⟨⟨precision, fmt₃, args₃⟩, hprecision, h⟩ := bind_eq_ok.1 h
        obtain ⟨⟨o', fmt₄⟩, hlength, h⟩ := bind_eq_ok.1 h
        obtain ⟨⟨piece, args₅⟩, -, h⟩ := bind_eq_ok.1 h
        obtain ⟨-, h⟩ := Prod.mk.inj (Except.ok.inj h)
        obtain ⟨rfl, -⟩ := Prod.mk.inj h
        calc (fmt₄.drop 1).length ≤ fmt₄.length := hdrop _
          _ ≤ fmt₃.length := collectLength_length hlength
          _ ≤ fmt₂.length := collectPrecision_length hprecision
          _ ≤ fmt₁.length := collectWidth_length hwidth
          _ ≤ fmt.length := collectFlags_length hflags

end

/-! ## `vfprintf` -/

/-- A character before the next `%` or the end of the format. -/
def plain (c : CChar) : Bool := c ≠ 0 ∧ c ≠ ch '%'

/-- The text before the next `%`, if there is one. -/
def textBefore (fmt : List CChar) : List Piece := if fmt.takeWhile plain = [] then [] else [.text (fmt.takeWhile plain)]

/-- What is written for a format, in order, and where it ends. -/
def pieces (fmt : List CChar) (args : List Arg) : List Piece × Stop :=
  match _h : fmt.dropWhile plain with
  | [] => (textBefore fmt, .finish)
  | c :: rest =>
    if c = 0 then (textBefore fmt, .finish)
    else
      match _hd : directive rest args with
      | .error stop => (textBefore fmt, stop)
      | .ok (piece, fmt', args') => (textBefore fmt ++ piece :: (pieces fmt' args').1, (pieces fmt' args').2)
termination_by fmt.length
decreasing_by
  all_goals
    have hrest := congrArg List.length _h
    have hdrop := dropWhile_length plain fmt
    have hlength := directive_length _hd
    rw [List.length_cons] at hrest
    omega

/-- What the functions that format return and write for a piece. -/
def Piece.write : Piece → Written
  | text s => ⟨0, s⟩
  | percent => ⟨0, [ch '%']⟩
  | count => ⟨0, []⟩
  | char c o width => formatChar c o width
  | int lli o width => formatInt lli o width
  | unsigned ull o width => formatUnsigned ull o width
  | string s width precision => formatString s width precision

/-- What is added to `total_chars`: a character counts 1 whatever `format_char` returns. -/
def Piece.counted : Piece → BitVec 32
  | text s => BitVec.ofNat 32 s.length
  | percent => 1
  | count => 0
  | char _ _ _ => 1
  | piece => piece.write.rc

/-- What `vfprintf` returns: `total_chars` at the end of the format, or an error. -/
inductive PrintfRc
  | total (n : BitVec 32)
  | error (rc : BitVec 32)
  | undefined
deriving DecidableEq

/-- What `vfprintf` returns, the text it writes, and what it stores for `%n`. -/
structure Printed where
  rc : PrintfRc
  text : List CChar
  stored : List (BitVec 32)

/-- `-EINVAL` -/
def minusEinval : BitVec 32 := -0x00377601

def writeAll (stop : Stop) : List Piece → BitVec 32 → Printed
  | [], totalChars =>
    match stop with
    | .finish => ⟨.total totalChars, [], []⟩
    | .einval => ⟨.error minusEinval, [], []⟩
    | .undefined => ⟨.undefined, [], []⟩
  | piece :: ps, totalChars =>
    if piece.write.rc.slt 0 then ⟨.error piece.write.rc, piece.write.text, []⟩
    else
      let rest := writeAll stop ps (totalChars + piece.counted)
      ⟨rest.rc, piece.write.text ++ rest.text,
        match piece with
        | .count => totalChars :: rest.stored
        | _ => rest.stored⟩

/-- `vfprintf` -/
def vfprintf (fmt : List CChar) (args : List Arg) : Printed := writeAll (pieces fmt args).2 (pieces fmt args).1 0

end Occ.Ppc405
