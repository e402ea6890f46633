/-
What `vfprintf` counts and writes: every integer conversion writes the shortest numeral in a field of its width, and the count
is that of the characters written, but for the padding of a character, which is not counted, and for an alternate mark after
blanks, which is counted twice.
-/
import Occ.Ppc405.Printf

namespace Occ.Ppc405

open While Numeral

/-! ## The digit buffer -/

section

variable {n r : Nat} {xchars : List CChar}

/-- The characters of a numeral. -/
def numeralText (r : Nat) (xchars : List CChar) (n : Nat) : List CChar := (numeral r n).map (xchars.getD · 0)

@[simp] theorem charsOf_zero (r : Nat) (xchars : List CChar) : charsOf r xchars 0 = [] := by
  unfold charsOf
  rw [digitsOf_zero, List.map_nil]

theorem charsOf_of_ne_zero (hn : n ≠ 0) : charsOf r xchars n = numeralText r xchars n := by
  unfold charsOf numeralText numeral
  rw [if_neg hn]

theorem numeralText_zero (r : Nat) (hx : xchars.getD 0 0 = ch '0') : numeralText r xchars 0 = [ch '0'] := by
  unfold numeralText numeral
  rw [if_pos rfl, List.map_singleton, hx]

theorem numeralText_length_le {k : Nat} (hr : 1 < r) (hk : 0 < k) (h : n < r ^ k) :
    (numeralText r xchars n).length ≤ k := by
  unfold numeralText
  rw [List.length_map]
  exact numeral_length_le hr hk h

end

theorem toInt_zero_iff {w : Nat} {x : BitVec w} : x.toInt = 0 ↔ x = 0 :=
  ⟨fun h => BitVec.eq_of_toInt_eq (h.trans BitVec.toInt_zero.symm), fun h => h ▸ BitVec.toInt_zero⟩

theorem slt_zero_iff {w : Nat} {x : BitVec w} : x.slt 0 = true ↔ x.toInt < 0 := by
  rw [BitVec.slt_iff_toInt_lt]
  exact iff_of_eq (congrArg (x.toInt < ·) BitVec.toInt_zero)

/-- The 64-bit loop ends at a number of 32 bits with its sign, the 32-bit loop at 0. -/
theorem intDigits_eq (lli : BitVec 64) : intDigits lli = numeralText 10 lower lli.toInt.natAbs := by
  unfold intDigits
  split
  · rename_i h0
    rw [toInt_zero_iff.2 h0]
    exact (numeralText_zero 10 rfl).symm
  · rename_i h0
    have hsign : if lli.slt 0 then lli.toInt ≤ 0 else 0 ≤ lli.toInt := by
      split
      · rename_i h
        have := slt_zero_iff.1 h
        omega
      · rename_i h
        have := mt slt_zero_iff.2 h
        omega
    obtain ⟨⟨hsign₁, hchars₁⟩, hnarrow⟩ := signedLoop_spec (w := 64) (by decide) ne_zero_of_wideInt [] hsign
    dsimp only
    generalize signedLoop (w := 64) (by decide) (lli.slt 0) wideInt ne_zero_of_wideInt lli [] = s at hsign₁ hchars₁ hnarrow
    have hint : (s.1.setWidth 32).toInt = s.1.toInt := by
      have h := congrArg BitVec.toInt (bne_eq_false_iff_eq.1 hnarrow)
      rw [BitVec.toInt_signExtend_of_le (by decide)] at h
      exact h.symm
    rw [← hint] at hsign₁ hchars₁
    obtain ⟨⟨-, hchars₂⟩, hzero⟩ := signedLoop_spec (w := 32) (by decide) ne_zero_of_nonzero s.2 hsign₁
    generalize signedLoop (w := 32) (by decide) (lli.slt 0) nonzero ne_zero_of_nonzero (s.1.setWidth 32) s.2 = t
      at hchars₂ hzero
    rw [toInt_zero_iff.2 (bne_eq_false_iff_eq.1 hzero), hchars₁] at hchars₂
    have hne : lli.toInt.natAbs ≠ 0 := (natAbs_pos_of_ne_zero h0).ne'
    calc t.2 = charsOf 10 lower (0 : Int).natAbs ++ t.2 := by rw [Int.natAbs_zero, charsOf_zero, List.nil_append]
      _ = charsOf 10 lower lli.toInt.natAbs ++ [] := hchars₂
      _ = numeralText 10 lower lli.toInt.natAbs := by rw [List.append_nil, charsOf_of_ne_zero hne]

theorem unsignedDigits_eq (ull : BitVec 64) (hex : Bool) {xchars : List CChar} (hx : xchars.getD 0 0 = ch '0') :
    unsignedDigits ull hex xchars = numeralText (if hex then 16 else 10) xchars ull.toNat := by
  unfold unsignedDigits
  split
  · rename_i h0
    rw [h0]
    exact (numeralText_zero _ hx).symm
  · rename_i h0
    obtain ⟨hchars₁, hnarrow⟩ := unsignedLoop_spec (w := 64) (by decide) hex xchars ne_zero_of_wideUnsigned ull []
    dsimp only
    generalize unsignedLoop (w := 64) (by decide) hex xchars wideUnsigned ne_zero_of_wideUnsigned ull [] = s
      at hchars₁ hnarrow
    have hnat : (s.1.setWidth 32).toNat = s.1.toNat := by
      have h := congrArg BitVec.toNat (bne_eq_false_iff_eq.1 hnarrow)
      rw [BitVec.toNat_setWidth_of_le (by decide)] at h
      exact h.symm
    rw [← hnat] at hchars₁
    obtain ⟨hchars₂, hzero⟩ := unsignedLoop_spec (w := 32) (by decide) hex xchars ne_zero_of_nonzero (s.1.setWidth 32) s.2
    generalize unsignedLoop (w := 32) (by decide) hex xchars nonzero ne_zero_of_nonzero (s.1.setWidth 32) s.2 = t
      at hchars₂ hzero
    have ht : t.1.toNat = 0 := congrArg BitVec.toNat (bne_eq_false_iff_eq.1 hzero)
    rw [ht, hchars₁] at hchars₂
    have hne : ull.toNat ≠ 0 := fun h => h0 (BitVec.eq_of_toNat_eq h)
    calc t.2 = charsOf (if hex then 16 else 10) xchars 0 ++ t.2 := by rw [charsOf_zero, List.nil_append]
      _ = charsOf (if hex then 16 else 10) xchars ull.toNat ++ [] := hchars₂
      _ = numeralText (if hex then 16 else 10) xchars ull.toNat := by rw [List.append_nil, charsOf_of_ne_zero hne]

/-! ## Padding -/

section

variable {c : CChar} {chars nchars : BitVec 32} {padZero : Bool} {width : Width}

theorem padLoop_eq (c : CChar) (chars : BitVec 32) : (padLoop (List.replicate 8 c) chars).2 = List.replicate chars.toNat c := by
  have hrule : ((padLoop (List.replicate 8 c) chars).1.toNat ≤ chars.toNat ∧
      (padLoop (List.replicate 8 c) chars).2 = List.replicate (chars.toNat - (padLoop (List.replicate 8 c) chars).1.toNat) c) ∧
      ((padLoop (List.replicate 8 c) chars).1 != 0) = false := by
    unfold padLoop
    refine whileLoop_rule (I := fun (s : BitVec 32 × List CChar) => s.1.toNat ≤ chars.toNat ∧
      s.2 = List.replicate (chars.toNat - s.1.toNat) c) ⟨Nat.le_refl _, by rw [Nat.sub_self]; rfl⟩ ?_
    rintro ⟨n, out⟩ - ⟨hle, hout⟩
    dsimp only at hle hout ⊢
    rw [sub_padSize_toNat, padSize_toNat, hout, List.take_replicate, List.replicate_append_replicate]
    refine ⟨by omega, congrArg (List.replicate · c) ?_⟩
    omega
  obtain ⟨⟨-, htext⟩, hzero⟩ := hrule
  rw [htext, bne_eq_false_iff_eq.1 hzero]
  rfl

theorem size_of_not_given (h : width.given = false) : width.size = 0 := by
  cases width with
  | absent => rfl
  | digits | star | pointer => cases h

/-- The characters of the padding. -/
def padChar (padZero : Bool) : CChar := if padZero then ch '0' else ch ' '

theorem pad_eq (nchars : BitVec 32) (padZero : Bool) (width : Width) : pad nchars padZero width =
    ⟨BitVec.ofNat 32 (width.size.toNat - nchars.toNat),
      List.replicate (width.size.toNat - nchars.toNat) (padChar padZero)⟩ := by
  have hsub : ∀ h : nchars ≤ width.size, (width.size - nchars).toNat = width.size.toNat - nchars.toNat :=
    fun h => BitVec.toNat_sub_of_le h
  unfold pad
  split
  · rename_i h
    have hzero : width.size.toNat - nchars.toNat = 0 := by
      rcases h with hgiven | hle
      · rw [size_of_not_given (by simpa using hgiven)]
        exact Nat.zero_sub _
      · rw [BitVec.le_def] at hle
        omega
    rw [hzero]
    rfl
  · rename_i h
    obtain ⟨-, hle⟩ := not_or.1 h
    have hsub := BitVec.toNat_sub_of_le (BitVec.le_of_lt (BitVec.not_le.1 hle))
    rw [← hsub, BitVec.ofNat_toNat, BitVec.setWidth_eq]
    cases padZero with
    | false => exact congrArg (Written.mk _) (padLoop_eq (ch ' ') _)
    | true => exact congrArg (Written.mk _) (padLoop_eq (ch '0') _)

end

/-! ## What the functions that format return and write -/

/-- The result for a field that counts as `counted`: an error if that is no `ssize_t`. -/
structure Formats (w : Written) (counted : Nat) (text : List CChar) : Prop where
  fails_iff : w.rc.slt 0 = true ↔ 2 ^ 31 ≤ counted
  done : counted < 2 ^ 31 → w = ⟨BitVec.ofNat 32 counted, text⟩

theorem ofNat_slt_zero {n : Nat} (h : n < 2 ^ 32) : (BitVec.ofNat 32 n).slt 0 = true ↔ 2 ^ 31 ≤ n := by
  rw [slt_zero_iff, BitVec.toInt_neg_iff, BitVec.toNat_ofNat, Nat.mod_eq_of_lt h]
  omega

/-- A function that pads by `p`, and stops if that is no `ssize_t`. -/
theorem Formats.of_pad {w : Written} {p k : Nat} {text : List CChar} (before : List CChar) (hp : p < 2 ^ 32)
    (hbound : p < 2 ^ 31 → p + k < 2 ^ 32)
    (heq : w = if (BitVec.ofNat 32 p).slt 0 then ⟨BitVec.ofNat 32 p, before⟩ else ⟨BitVec.ofNat 32 (p + k), text⟩) :
    Formats w (p + k) text := by
  split at heq
  · rename_i hfail
    have hle := (ofNat_slt_zero hp).1 hfail
    constructor
    · rw [heq]
      exact iff_of_true hfail (by omega)
    · intro h
      omega
  · rename_i hfail
    have hlt := mt (ofNat_slt_zero hp).2 hfail
    constructor
    · rw [heq]
      exact ofNat_slt_zero (hbound (by omega))
    · exact fun _ => heq

/-- A mark and digits in a field: zeros go after the mark, blanks before it. -/
def field (padZero : Bool) (width : Nat) (mark digits : List CChar) : List CChar :=
  if padZero then mark ++ List.replicate (width - (mark.length + digits.length)) (ch '0') ++ digits
  else List.replicate (width - (mark.length + digits.length)) (ch ' ') ++ mark ++ digits

theorem field_length (padZero : Bool) (width : Nat) (mark digits : List CChar) :
    (field padZero width mark digits).length = max width (mark.length + digits.length) := by
  unfold field
  split
  · rw [List.length_append, List.length_append, List.length_replicate]
    omega
  · rw [List.length_append, List.length_append, List.length_replicate]
    omega

theorem formatChar_formats (c : CChar) (o : Options) (width : Width) :
    Formats (formatChar c o width) (width.size.toNat - 1 + 1)
      (List.replicate (width.size.toNat - 1) (padChar o.padZero) ++ [c]) := by
  have hsize := width.size.isLt
  have hone : (1 : BitVec 32).toNat = 1 := rfl
  refine Formats.of_pad (List.replicate (width.size.toNat - 1) (padChar o.padZero)) (by omega) (by omega) ?_
  unfold formatChar
  rw [pad_eq, hone, BitVec.ofNat_add]
  rfl

theorem formatString_formats (s : Option (List CChar)) (width : Width) (precision : Option (BitVec 32)) :
    Formats (formatString s width precision)
      (width.size.toNat - (stringLen s precision).toNat + (stringLen s precision).toNat)
      (List.replicate (width.size.toNat - (stringLen s precision).toNat) (padChar false) ++
        (stringOf s precision).take (stringLen s precision).toNat) := by
  have hsize := width.size.isLt
  unfold formatString
  generalize stringLen s precision = len
  have hlen := len.isLt
  refine Formats.of_pad (List.replicate (width.size.toNat - len.toNat) (padChar false)) (by omega) (by omega) ?_
  dsimp only
  rw [pad_eq, BitVec.ofNat_add, BitVec.ofNat_toNat 32 len, BitVec.setWidth_eq]

theorem signMark_length_le (lli : BitVec 64) (o : Options) : (signMark lli o).length ≤ 1 := by
  unfold signMark
  grind

theorem natAbs_toInt_le (lli : BitVec 64) : lli.toInt.natAbs ≤ 2 ^ 63 := by
  have hlo := BitVec.le_toInt lli
  have hhi := BitVec.toInt_lt (x := lli)
  omega

theorem intDigits_length_le (lli : BitVec 64) : (intDigits lli).length ≤ 19 := by
  rw [intDigits_eq]
  exact numeralText_length_le (by decide) (by decide) (Nat.lt_of_le_of_lt (natAbs_toInt_le lli) (by decide))

theorem formatInt_formats (lli : BitVec 64) (o : Options) (width : Width) :
    Formats (formatInt lli o width)
      (width.size.toNat - ((signMark lli o).length + (intDigits lli).length) +
        ((signMark lli o).length + (intDigits lli).length))
      (field o.padZero width.size.toNat (signMark lli o) (intDigits lli)) := by
  have hsize := width.size.isLt
  have hsign := signMark_length_le lli o
  have hdigits := intDigits_length_le lli
  unfold formatInt field
  generalize signMark lli o = sign at hsign
  generalize intDigits lli = digits at hdigits
  generalize hp : width.size.toNat - (sign.length + digits.length) = p
  have hnchars : (BitVec.ofNat 32 (sign.length + digits.length)).toNat = sign.length + digits.length :=
    Nat.mod_eq_of_lt (by omega)
  cases o.padZero with
  | true =>
    refine Formats.of_pad (sign ++ List.replicate p (ch '0')) (by omega) (by omega) ?_
    dsimp only
    rw [if_pos rfl, if_pos rfl, BitVec.add_comm (BitVec.ofNat 32 digits.length), ← BitVec.ofNat_add, pad_eq, hnchars, hp]
    dsimp only
    rw [← BitVec.ofNat_add, ← BitVec.ofNat_add, Nat.add_comm sign.length p, Nat.add_assoc]
    rfl
  | false =>
    refine Formats.of_pad (List.replicate p (ch ' ')) (by omega) (by omega) ?_
    dsimp only
    rw [if_neg Bool.false_ne_true, if_neg Bool.false_ne_true, List.length_append, pad_eq, hnchars, hp]
    dsimp only
    rw [← BitVec.ofNat_add, List.append_assoc]
    rfl

theorem alternateMark_length_le (ull : BitVec 64) (o : Options) : (alternateMark ull o).length ≤ 2 := by
  unfold alternateMark
  split
  · split <;> exact Nat.le_refl 2
  · exact Nat.zero_le 2

theorem xcharsOf_zero (o : Options) : (xcharsOf o).getD 0 0 = ch '0' := by
  unfold xcharsOf
  split <;> rfl

theorem unsignedDigits_length_le (ull : BitVec 64) (o : Options) : (unsignedDigits ull o.hex (xcharsOf o)).length ≤ 20 := by
  rw [unsignedDigits_eq ull o.hex (xcharsOf_zero o)]
  have hull := ull.isLt
  cases o.hex with
  | false => exact numeralText_length_le (by decide) (by decide) (Nat.lt_of_lt_of_le hull (by decide))
  | true => exact numeralText_length_le (by decide) (by decide) (Nat.lt_of_lt_of_le hull (by decide))

/-- Before blanks the alternate mark is counted twice. -/
def extra (ull : BitVec 64) (o : Options) : Nat := if o.padZero then 0 else (alternateMark ull o).length

theorem formatUnsigned_formats (ull : BitVec 64) (o : Options) (width : Width) :
    Formats (formatUnsigned ull o width)
      (width.size.toNat - ((alternateMark ull o).length + (unsignedDigits ull o.hex (xcharsOf o)).length) +
        ((alternateMark ull o).length + (unsignedDigits ull o.hex (xcharsOf o)).length + extra ull o))
      (field o.padZero width.size.toNat (alternateMark ull o) (unsignedDigits ull o.hex (xcharsOf o))) := by
  have hsize := width.size.isLt
  have hmark := alternateMark_length_le ull o
  have hdigits := unsignedDigits_length_le ull o
  unfold formatUnsigned field extra
  generalize alternateMark ull o = mark at hmark
  generalize unsignedDigits ull o.hex (xcharsOf o) = digits at hdigits
  generalize hp : width.size.toNat - (mark.length + digits.length) = p
  have hnchars : (BitVec.ofNat 32 (mark.length + digits.length)).toNat = mark.length + digits.length :=
    Nat.mod_eq_of_lt (by omega)
  cases o.padZero with
  | true =>
    refine Formats.of_pad (mark ++ List.replicate p (ch '0')) (by omega) (by rw [if_pos rfl]; omega) ?_
    dsimp only
    rw [if_pos rfl, if_pos rfl, if_pos rfl, BitVec.add_comm (BitVec.ofNat 32 digits.length), ← BitVec.ofNat_add, pad_eq,
      hnchars, hp]
    dsimp only
    rw [← BitVec.ofNat_add, ← BitVec.ofNat_add, Nat.add_comm mark.length p, Nat.add_assoc]
    rfl
  | false =>
    have hcount : mark.length + p + mark.length + digits.length = p + (mark.length + digits.length + mark.length) := by omega
    refine Formats.of_pad (List.replicate p (ch ' ')) (by omega) (by rw [if_neg Bool.false_ne_true]; omega) ?_
    dsimp only
    rw [if_neg Bool.false_ne_true, if_neg Bool.false_ne_true, if_neg Bool.false_ne_true,
      BitVec.add_comm (BitVec.ofNat 32 digits.length), ← BitVec.ofNat_add, pad_eq, hnchars, hp]
    dsimp only
    rw [← BitVec.ofNat_add, ← BitVec.ofNat_add, ← BitVec.ofNat_add, hcount]
    rfl

/-! ## Pieces -/

def radix (o : Options) : Nat := if o.hex then 16 else 10

/-- The characters of a piece: a conversion fills a field of its width. -/
def Piece.extent : Piece → Nat
  | text s => s.length
  | percent => 1
  | count => 0
  | char _ _ width => max width.size.toNat 1
  | int lli o width => max width.size.toNat ((signMark lli o).length + (numeral 10 lli.toInt.natAbs).length)
  | unsigned ull o width => max width.size.toNat ((alternateMark ull o).length + (numeral (radix o) ull.toNat).length)
  | string s width precision => max width.size.toNat (stringLen s precision).toNat

/-- What the function that formats a conversion returns, if it is an `ssize_t`. -/
def Piece.formatted : Piece → Nat
  | text _ | percent | count => 0
  | unsigned ull o width => (unsigned ull o width).extent + extra ull o
  | piece => piece.extent

def Piece.Returns (piece : Piece) : Prop := piece.formatted < 2 ^ 31

instance (piece : Piece) : Decidable piece.Returns := inferInstanceAs (Decidable (_ < _))

/-- What a piece adds to the count. -/
def Piece.counts : Piece → Nat
  | text s => s.length
  | percent => 1
  | count => 0
  | char _ _ _ => 1
  | piece => piece.formatted

/-- The text of an integer conversion. -/
def Piece.fieldText : Piece → List CChar
  | int lli o width => field o.padZero width.size.toNat (signMark lli o) (numeralText 10 lower lli.toInt.natAbs)
  | unsigned ull o width =>
    field o.padZero width.size.toNat (alternateMark ull o) (numeralText (radix o) (xcharsOf o) ull.toNat)
  | piece => piece.write.text

theorem numeralText_length (r : Nat) (xchars : List CChar) (n : Nat) : (numeralText r xchars n).length = (numeral r n).length :=
  List.length_map _

/-- What is returned, counted and written for a piece. -/
structure WriteSpec (piece : Piece) : Prop where
  fails_iff : piece.write.rc.slt 0 = true ↔ ¬piece.Returns
  length : piece.Returns → piece.write.text.length = piece.extent
  counted : piece.Returns → piece.counted = BitVec.ofNat 32 piece.counts
  text : piece.Returns → piece.write.text = piece.fieldText

theorem Formats.writeSpec {piece : Piece} {text : List CChar} (h : Formats piece.write piece.formatted text)
    (hlength : text.length = piece.extent) (htext : piece.Returns → text = piece.fieldText)
    (hcounted : piece.counted = BitVec.ofNat 32 piece.counts ∨ piece.counted = piece.write.rc ∧ piece.counts = piece.formatted) :
    WriteSpec piece where
  fails_iff := h.fails_iff.trans Nat.not_lt.symm
  length hreturns := by rw [h.done hreturns, hlength]
  counted hreturns := by
    rcases hcounted with hcounted | ⟨hrc, hcounts⟩
    · exact hcounted
    · rw [hrc, hcounts, h.done hreturns]
  text hreturns := by
    rw [← htext hreturns, h.done hreturns]

theorem stringLen_le (s : Option (List CChar)) (precision : Option (BitVec 32)) :
    (stringLen s precision).toNat ≤ (stringOf s precision).length := by
  have hstrlen : (strlen (stringOf s precision)).toNat ≤ (stringOf s precision).length := by
    unfold strlen
    rw [BitVec.toNat_ofNat]
    exact (Nat.mod_le _ _).trans (List.takeWhile_prefix _).length_le
  unfold stringLen
  cases precision with
  | none => exact hstrlen
  | some precision =>
    dsimp only
    split
    · exact hstrlen
    · rename_i hle
      exact (BitVec.le_def.1 (BitVec.not_lt.1 hle)).trans hstrlen

theorem write_spec (piece : Piece) : WriteSpec piece := by
  have hzero : ¬(0 : BitVec 32).slt 0 = true := by decide
  have hreturns : (0 : Nat) < 2 ^ 31 := by decide
  cases piece with
  | text s => exact ⟨iff_of_false hzero (not_not.2 hreturns), fun _ => rfl, fun _ => rfl, fun _ => rfl⟩
  | percent => exact ⟨iff_of_false hzero (not_not.2 hreturns), fun _ => rfl, fun _ => rfl, fun _ => rfl⟩
  | count => exact ⟨iff_of_false hzero (not_not.2 hreturns), fun _ => rfl, fun _ => rfl, fun _ => rfl⟩
  | char c o width =>
    have h := formatChar_formats c o width
    rw [Nat.sub_add_eq_max] at h
    refine @Formats.writeSpec (.char c o width) _ h ?_ (fun hr => ?_) (.inl rfl)
    · rw [List.length_append, List.length_replicate]
      exact Nat.sub_add_eq_max _ _
    · exact (congrArg Written.text (h.done hr)).symm
  | int lli o width =>
    have h := formatInt_formats lli o width
    rw [Nat.sub_add_eq_max, intDigits_eq] at h
    rw [numeralText_length] at h
    refine @Formats.writeSpec (.int lli o width) _ h ?_ (fun _ => rfl) (.inr ⟨rfl, rfl⟩)
    rw [field_length, numeralText_length]
    rfl
  | unsigned ull o width =>
    have h := formatUnsigned_formats ull o width
    rw [← Nat.add_assoc, Nat.sub_add_eq_max, unsignedDigits_eq ull o.hex (xcharsOf_zero o), numeralText_length] at h
    refine @Formats.writeSpec (.unsigned ull o width) _ h ?_ (fun _ => rfl) (.inr ⟨rfl, rfl⟩)
    rw [field_length, numeralText_length]
    rfl
  | string s width precision =>
    have h := formatString_formats s width precision
    rw [Nat.sub_add_eq_max] at h
    refine @Formats.writeSpec (.string s width precision) _ h ?_ (fun hr => ?_) (.inr ⟨rfl, rfl⟩)
    · rw [List.length_append, List.length_replicate, List.length_take, Nat.min_eq_left (stringLen_le s precision)]
      exact Nat.sub_add_eq_max _ _
    · exact (congrArg Written.text (h.done hr)).symm

/-! ## The law -/

/-- The width that is asked for, however many digits it has. -/
def Width.asked : Width → Nat
  | absent => 0
  | digits ds => value 10 (ds.1.map fun c => c.toNat - (ch '0').toNat)
  | star arg => arg.toNat
  | pointer => 10

/-- The sign of a number: with `+` or a blank also that of 0. -/
def signOf (lli : BitVec 64) (o : Options) : List CChar :=
  if lli.toInt < 0 then [ch '-'] else if o.plusSign then [ch '+'] else if o.space then [ch ' '] else []

/-- A mark and the shortest numeral of a number, in a field that is as wide as asked for or as they are. -/
def FieldText (r n : Nat) (xchars : List CChar) (padZero : Bool) (width : Nat) (mark text : List CChar) : Prop :=
  ∃ ds, Shortest r n ds ∧ text = field padZero width mark (ds.map (xchars.getD · 0)) ∧
    text.length = max width (mark.length + ds.length)

/-- What is written for an integer conversion. -/
def Piece.FieldLaw (piece : Piece) : Prop :=
  match piece with
  | int lli o width => FieldText 10 lli.toInt.natAbs lower o.padZero width.asked (signOf lli o) piece.write.text
  | unsigned ull o width =>
    FieldText (radix o) ull.toNat (xcharsOf o) o.padZero width.asked (alternateMark ull o) piece.write.text
  | _ => True

/-- The pieces that are written in full. -/
def writtenPieces (fmt : List CChar) (args : List Arg) : List Piece := (pieces fmt args).1.takeWhile fun p => decide p.Returns

/-- The law of formatted output, for a format and its arguments. -/
structure PrintfLaw (fmt : List CChar) (args : List Arg) : Prop where
  counted : ∀ n, (vfprintf fmt args).rc = .total n → n.toInt = (vfprintf fmt args).text.length
  texts : ∃ rest, (vfprintf fmt args).text = ((writtenPieces fmt args).map (·.write.text)).flatten ++ rest ∧
    ∀ n, (vfprintf fmt args).rc = .total n → rest = []
  fields : ∀ p ∈ writtenPieces fmt args, p.FieldLaw
  buffer : ∀ v o, (signMark v o ++ intDigits v).length ≤ 21 ∧ (unsignedDigits v o.hex (xcharsOf o)).length ≤ 21

/-- The condition on an integer conversion: the width fits in `size_t`, and 0 has no sign, or its blank is one of the padding. -/
def Piece.FieldOk : Piece → Prop
  | int lli o width => width.asked < 2 ^ 32 ∧
    (lli = 0 → o.plusSign = false ∧ (o.space = true → o.padZero = false ∧ 2 ≤ width.asked))
  | unsigned _ _ width => width.asked < 2 ^ 32
  | _ => True

/-- The condition: where the format is written to its end, the characters are fewer than `2 ^ 31` and as many as are counted. -/
structure PrintfOk (fmt : List CChar) (args : List Arg) : Prop where
  counts : (pieces fmt args).2 = .finish → (∀ p ∈ (pieces fmt args).1, p.Returns) →
    ((pieces fmt args).1.map Piece.extent).sum < 2 ^ 31 ∧
      ((pieces fmt args).1.map Piece.counts).sum = ((pieces fmt args).1.map Piece.extent).sum
  fields : ∀ p ∈ writtenPieces fmt args, p.FieldOk

/-! ## The fields -/

theorem decimal_toNat (ds : List CChar) (h : ∀ c ∈ ds, isdigit c = true) :
    (decimal ds).toNat = value 10 (ds.map fun c => c.toNat - (ch '0').toNat) % 2 ^ 32 := by
  induction ds using List.reverseRecOn with
  | nil => rfl
  | append_singleton ds c ih =>
    have hlast : decimal (ds ++ [c]) = decimal ds * 10 + (c.setWidth 32 - (ch '0').setWidth 32) := by
      unfold decimal
      rw [List.foldl_append]
      rfl
    have hdigit : (ch '0').toNat ≤ c.toNat := by
      have hc := h c (List.mem_append_right _ (List.mem_singleton_self c))
      unfold isdigit at hc
      exact BitVec.le_def.1 (of_decide_eq_true hc).1
    have hsub : (c.setWidth 32 - (ch '0').setWidth 32).toNat = c.toNat - (ch '0').toNat := by
      have hc : (c.setWidth 32).toNat = c.toNat := BitVec.toNat_setWidth_of_le (by decide)
      have h0 : ((ch '0').setWidth 32).toNat = (ch '0').toNat := rfl
      rw [BitVec.toNat_sub_of_le (BitVec.le_def.2 (by rw [hc, h0]; exact hdigit)), hc, h0]
    have hten : (10 : BitVec 32).toNat = 10 := rfl
    rw [hlast, List.map_append, List.map_singleton, value_concat, BitVec.toNat_add, BitVec.toNat_mul, hsub, hten,
      ih fun d hd => h d (List.mem_append_left _ hd)]
    omega

theorem size_toNat (width : Width) : width.size.toNat = width.asked % 2 ^ 32 := by
  cases width with
  | absent => rfl
  | digits ds => exact decimal_toNat ds.1 ds.2
  | star arg => exact (Nat.mod_eq_of_lt arg.isLt).symm
  | pointer => rfl

theorem fieldText_iff {r n : Nat} {xchars text mark : List CChar} {padZero : Bool} {width : Nat} (hr : 1 < r) :
    FieldText r n xchars padZero width mark text ↔ text = field padZero width mark (numeralText r xchars n) := by
  constructor
  · rintro ⟨ds, hds, htext, -⟩
    rw [htext, hds.unique hr (numeral_shortest hr n)]
    rfl
  · intro h
    refine ⟨numeral r n, numeral_shortest hr n, h, ?_⟩
    rw [h, field_length, numeralText_length]

theorem field_eq_iff_of_lt {width : Width} {padZero : Bool} {mark mark' digits : List CChar}
    (hlength : (field padZero width.size.toNat mark digits).length < 2 ^ 31) :
    field padZero width.size.toNat mark digits = field padZero width.asked mark' digits ↔
      width.asked < 2 ^ 32 ∧ field padZero width.asked mark digits = field padZero width.asked mark' digits := by
  by_cases hasked : width.asked < 2 ^ 32
  · rw [size_toNat, Nat.mod_eq_of_lt hasked]
    exact (and_iff_right hasked).symm
  · refine iff_of_false (fun h => ?_) fun h => hasked h.1
    rw [h, field_length] at hlength
    omega

theorem field_zero_iff {padZero : Bool} {width : Nat} {c : CChar} (hc : c ≠ ch '0') :
    field padZero width [] [ch '0'] = field padZero width [c] [ch '0'] ↔ c = ch ' ' ∧ padZero = false ∧ 2 ≤ width := by
  unfold field
  cases padZero with
  | true =>
    rw [if_pos rfl, if_pos rfl]
    refine iff_of_false (fun h => ?_) fun h => absurd h.2.1 (by decide)
    have hmem : c ∈ [] ++ List.replicate (width - (0 + 1)) (ch '0') ++ [ch '0'] := by
      rw [show [] ++ List.replicate (width - (0 + 1)) (ch '0') ++ [ch '0'] = _ from h]
      exact List.mem_cons_self
    rcases List.mem_append.1 hmem with hpad | hlast
    · exact hc (List.eq_of_mem_replicate hpad)
    · exact hc (List.mem_singleton.1 hlast)
  | false =>
    rw [if_neg Bool.false_ne_true, if_neg Bool.false_ne_true, List.append_nil, List.append_left_inj]
    show List.replicate (width - 1) (ch ' ') = List.replicate (width - 2) (ch ' ') ++ [c] ↔ _
    constructor
    · intro h
      have hlength := congrArg List.length h
      rw [List.length_replicate, List.length_append, List.length_replicate, List.length_singleton] at hlength
      have hmem : c ∈ List.replicate (width - 1) (ch ' ') := by
        rw [h]
        exact List.mem_append_right _ (List.mem_singleton_self c)
      exact ⟨List.eq_of_mem_replicate hmem, rfl, by omega⟩
    · rintro ⟨rfl, -, hwidth⟩
      rw [show width - 1 = width - 2 + 1 by omega, List.replicate_add]
      rfl

theorem signOf_of_ne_zero {lli : BitVec 64} (o : Options) (h : lli ≠ 0) : signOf lli o = signMark lli o := by
  have hne : lli.toInt ≠ 0 := fun h0 => h (toInt_zero_iff.1 h0)
  have hpos : (0 : BitVec 64).slt lli = true ↔ 0 < lli.toInt := by
    rw [BitVec.slt_iff_toInt_lt]
    exact iff_of_eq (congrArg (· < lli.toInt) BitVec.toInt_zero)
  unfold signOf signMark
  by_cases hneg : lli.toInt < 0
  · rw [if_pos hneg, if_pos (slt_zero_iff.2 hneg)]
  · rw [if_neg hneg, if_neg (mt slt_zero_iff.1 hneg), if_pos (hpos.2 (by omega))]

theorem signMark_zero (o : Options) : signMark 0 o = [] := rfl

/-- The text of a conversion is that of the law where its condition holds. -/
theorem fieldLaw_iff {piece : Piece} (h : piece.Returns) : piece.FieldLaw ↔ piece.FieldOk := by
  have hspec := write_spec piece
  have htext := hspec.text h
  have hlength := hspec.length h
  rw [htext] at hlength
  cases piece with
  | text | percent | count | char | string => exact Iff.rfl
  | unsigned ull o width =>
    have hr : 1 < radix o := by
      unfold radix
      split <;> decide
    have hshort : (Piece.unsigned ull o width).fieldText.length < 2 ^ 31 := by
      rw [hlength]
      exact Nat.lt_of_le_of_lt (Nat.le_add_right _ _) h
    dsimp only [Piece.FieldLaw, Piece.FieldOk]
    rw [fieldText_iff hr, htext]
    exact (field_eq_iff_of_lt hshort).trans (and_iff_left rfl)
  | int lli o width =>
    have hshort : (Piece.int lli o width).fieldText.length < 2 ^ 31 := by
      rw [hlength]
      exact h
    have hr : 1 < 10 := by decide
    dsimp only [Piece.FieldLaw, Piece.FieldOk]
    rw [fieldText_iff hr, htext]
    refine (field_eq_iff_of_lt hshort).trans (and_congr_right fun _ => ?_)
    by_cases hzero : lli = 0
    · have hdigits : numeralText 10 lower (0 : BitVec 64).toInt.natAbs = [ch '0'] := numeralText_zero 10 rfl
      have hnot : ¬(0 : BitVec 64).toInt < 0 := by decide
      rw [hzero, hdigits, signMark_zero]
      unfold signOf
      rw [if_neg hnot]
      split
      · rename_i hplus
        rw [field_zero_iff (by decide)]
        exact iff_of_false (fun h => absurd h.1 (by decide)) fun h => absurd ((h rfl).1.symm.trans hplus) (by decide)
      · rename_i hplus
        split
        · rename_i hspace
          rw [field_zero_iff (by decide)]
          exact ⟨fun h _ => ⟨Bool.eq_false_iff.2 hplus, fun _ => h.2⟩, fun h => ⟨rfl, (h rfl).2 hspace⟩⟩
        · rename_i hspace
          exact iff_of_true rfl fun _ => ⟨Bool.eq_false_iff.2 hplus, fun h => absurd h hspace⟩
    · rw [signOf_of_ne_zero o hzero]
      exact iff_of_true rfl fun h => absurd h hzero

/-! ## The count -/

theorem counts_le (piece : Piece) : piece.counts ≤ 2 * piece.extent := by
  cases piece with
  | text s => exact Nat.le_mul_of_pos_left _ (by decide)
  | percent => decide
  | count => exact Nat.le_refl 0
  | char c o width =>
    show 1 ≤ 2 * max width.size.toNat 1
    omega
  | int lli o width => exact Nat.le_mul_of_pos_left _ (by decide)
  | string s width precision => exact Nat.le_mul_of_pos_left _ (by decide)
  | unsigned ull o width =>
    have hextra : extra ull o ≤ (alternateMark ull o).length := by
      unfold extra
      split
      · exact Nat.zero_le _
      · exact Nat.le_refl _
    show max width.size.toNat ((alternateMark ull o).length + (numeral (radix o) ull.toNat).length) + extra ull o ≤
      2 * max width.size.toNat ((alternateMark ull o).length + (numeral (radix o) ull.toNat).length)
    omega

theorem sum_counts_le (ps : List Piece) : (ps.map Piece.counts).sum ≤ 2 * (ps.map Piece.extent).sum := by
  induction ps with
  | nil => exact Nat.le_refl 0
  | cons piece ps ih =>
    have hpiece := counts_le piece
    rw [List.map_cons, List.map_cons, List.sum_cons, List.sum_cons]
    omega

theorem writeAll_of_returns {stop : Stop} {ps : List Piece} {total : BitVec 32} (h : ∀ p ∈ ps, p.Returns) :
    (∀ n, (writeAll stop ps total).rc = .total n ↔
      stop = .finish ∧ n = total + BitVec.ofNat 32 (ps.map Piece.counts).sum) ∧
    (writeAll stop ps total).text = (ps.map (·.write.text)).flatten ∧
    (writeAll stop ps total).text.length = (ps.map Piece.extent).sum := by
  induction ps generalizing total with
  | nil =>
    cases stop with
    | finish =>
      refine ⟨fun n => ?_, rfl, rfl⟩
      rw [show total + BitVec.ofNat 32 ([].map Piece.counts).sum = total from BitVec.add_zero total]
      exact ⟨fun h => ⟨rfl, (PrintfRc.total.inj h).symm⟩, fun h => congrArg PrintfRc.total h.2.symm⟩
    | einval => exact ⟨fun n => ⟨nofun, fun h => absurd h.1 nofun⟩, rfl, rfl⟩
    | undefined => exact ⟨fun n => ⟨nofun, fun h => absurd h.1 nofun⟩, rfl, rfl⟩
  | cons piece ps ih =>
    have hreturns := h piece List.mem_cons_self
    have hspec := write_spec piece
    obtain ⟨hrc, htext, hlength⟩ := @ih (total + piece.counted) fun p hp => h p (List.mem_cons_of_mem _ hp)
    unfold writeAll
    rw [if_neg (mt hspec.fails_iff.1 (not_not.2 hreturns))]
    dsimp only
    refine ⟨fun n => ?_, ?_, ?_⟩
    · rw [hrc, List.map_cons, List.sum_cons, BitVec.ofNat_add, ← hspec.counted hreturns, BitVec.add_assoc]
    · rw [htext, List.map_cons, List.flatten_cons]
    · rw [List.length_append, hspec.length hreturns, hlength, List.map_cons, List.sum_cons]

theorem writeAll_text (stop : Stop) (ps : List Piece) (total : BitVec 32) :
    ∃ rest, (writeAll stop ps total).text = ((ps.takeWhile fun p => decide p.Returns).map (·.write.text)).flatten ++ rest ∧
      ∀ n, (writeAll stop ps total).rc = .total n → rest = [] ∧ ∀ p ∈ ps, p.Returns := by
  induction ps generalizing total with
  | nil =>
    refine ⟨[], ?_, fun _ _ => ⟨rfl, fun _ hp => absurd hp List.not_mem_nil⟩⟩
    cases stop <;> rfl
  | cons piece ps ih =>
    have hspec := write_spec piece
    unfold writeAll
    by_cases hreturns : piece.Returns
    · obtain ⟨rest, htext, hrest⟩ := ih (total + piece.counted)
      rw [if_neg (mt hspec.fails_iff.1 (not_not.2 hreturns)), List.takeWhile_cons_of_pos (p := fun p : Piece => decide p.Returns) (decide_eq_true hreturns),
        List.map_cons, List.flatten_cons]
      refine ⟨rest, ?_, fun n hn => ⟨(hrest n hn).1, fun p hp => ?_⟩⟩
      · rw [List.append_assoc, ← htext]
      · rcases List.mem_cons.1 hp with rfl | hp
        · exact hreturns
        · exact (hrest n hn).2 p hp
    · rw [if_pos (hspec.fails_iff.2 hreturns), List.takeWhile_cons_of_neg (p := fun p : Piece => decide p.Returns) (by rwa [decide_eq_true_iff])]
      exact ⟨piece.write.text, rfl, nofun⟩

theorem counted_iff (fmt : List CChar) (args : List Arg) :
    (∀ n, (vfprintf fmt args).rc = .total n → n.toInt = (vfprintf fmt args).text.length) ↔
      ((pieces fmt args).2 = .finish → (∀ p ∈ (pieces fmt args).1, p.Returns) →
        ((pieces fmt args).1.map Piece.extent).sum < 2 ^ 31 ∧
          ((pieces fmt args).1.map Piece.counts).sum = ((pieces fmt args).1.map Piece.extent).sum) := by
  unfold vfprintf
  generalize (pieces fmt args).1 = ps
  generalize (pieces fmt args).2 = stop
  have hle := sum_counts_le ps
  have hadd : (0 : BitVec 32) + BitVec.ofNat 32 (ps.map Piece.counts).sum = BitVec.ofNat 32 (ps.map Piece.counts).sum :=
    BitVec.zero_add _
  constructor
  · rintro h rfl hreturns
    obtain ⟨hrc, -, hlength⟩ := @writeAll_of_returns .finish ps 0 hreturns
    have hn := h _ ((hrc _).2 ⟨rfl, rfl⟩)
    rw [hlength, hadd, BitVec.toInt_eq_toNat_cond, BitVec.toNat_ofNat] at hn
    split at hn <;> omega
  · intro h n hn
    obtain ⟨rest, -, hrest⟩ := writeAll_text stop ps 0
    have hreturns := (hrest n hn).2
    obtain ⟨hrc, -, hlength⟩ := @writeAll_of_returns stop ps 0 hreturns
    obtain ⟨hstop, rfl⟩ := (hrc n).1 hn
    obtain ⟨hlt, heq⟩ := h hstop hreturns
    rw [hlength, hadd, heq, BitVec.toInt_eq_toNat_of_lt, BitVec.toNat_ofNat, Nat.mod_eq_of_lt (by omega)]
    rw [BitVec.toNat_ofNat]
    omega

/-- Formatted output keeps the law exactly where the condition holds. -/
theorem printfLaw_iff (fmt : List CChar) (args : List Arg) : PrintfLaw fmt args ↔ PrintfOk fmt args := by
  have hfields : (∀ p ∈ writtenPieces fmt args, p.FieldLaw) ↔ ∀ p ∈ writtenPieces fmt args, p.FieldOk :=
    forall₂_congr fun _ hp =>
      fieldLaw_iff (of_decide_eq_true (List.mem_takeWhile_imp (p := fun p : Piece => decide p.Returns) hp))
  constructor
  · intro h
    exact ⟨(counted_iff fmt args).1 h.counted, hfields.1 h.fields⟩
  · intro h
    refine ⟨(counted_iff fmt args).2 h.counts, ?_, hfields.2 h.fields, fun v o => ⟨?_, ?_⟩⟩
    · obtain ⟨rest, htext, hrest⟩ := writeAll_text (pieces fmt args).2 (pieces fmt args).1 0
      exact ⟨rest, htext, fun n hn => (hrest n hn).1⟩
    · have hsign := signMark_length_le v o
      have hdigits := intDigits_length_le v
      rw [List.length_append]
      omega
    · exact (unsignedDigits_length_le v o).trans (by decide)

theorem pieces_nil (args : List Arg) : pieces [] args = ([], .finish) := by
  rw [pieces]
  rfl

theorem pieces_of_directive {rest fmt' : List CChar} {args args' : List Arg} {piece : Piece}
    (hd : directive rest args = .ok (piece, fmt', args')) :
    pieces (ch '%' :: rest) args = (piece :: (pieces fmt' args').1, (pieces fmt' args').2) := by
  have hdrop : (ch '%' :: rest).dropWhile plain = ch '%' :: rest := rfl
  have htext : textBefore (ch '%' :: rest) = [] := rfl
  rw [pieces]
  split
  · rename_i h
    rw [hdrop] at h
    cases h
  · rename_i c rest' h
    rw [hdrop] at h
    obtain ⟨rfl, rfl⟩ := List.cons.inj h
    rw [if_neg (by decide)]
    split
    · rename_i stop he
      rw [hd] at he
      cases he
    · rename_i piece' fmt'' args'' he
      rw [hd] at he
      cases he
      rw [htext, List.nil_append]

theorem not_printfLaw_of_counts {rest : List CChar} {args args' : List Arg} {piece : Piece}
    (hd : directive rest args = .ok (piece, [], args')) (hreturns : piece.Returns) (hcounts : piece.counts ≠ piece.extent) :
    ¬PrintfLaw (ch '%' :: rest) args := by
  intro h
  have hcounted := (counted_iff _ _).1 h.counted
  rw [pieces_of_directive hd, pieces_nil] at hcounted
  have hsum := (hcounted rfl fun p hp => List.mem_singleton.1 hp ▸ hreturns).2
  exact hcounts hsum

/-- The padding of a character is not counted, and an alternate mark after blanks is counted twice. -/
theorem miscounted : ¬PrintfLaw (text "%5c") [.word 65] ∧ ¬PrintfLaw (text "%#x") [.word 1] := by
  constructor
  · have hd : directive (text "5c") [.word 65] =
        .ok (.char (ch 'A') {} (.digits ⟨text "5", by decide⟩), [], []) := rfl
    exact not_printfLaw_of_counts hd (by decide) (by decide)
  · have hd : directive (text "#x") [.word 1] =
        .ok (.unsigned 1 { alternate := true, hex := true } .absent, [], []) := rfl
    refine not_printfLaw_of_counts hd ?_ ?_
    · have hdigits : (numeral 16 1).length ≤ 1 := numeral_length_le (by decide) (by decide) (by decide)
      show max 0 (2 + (numeral 16 1).length) + 2 < 2 ^ 31
      omega
    · exact (Nat.lt_add_of_pos_right (show 0 < 2 by decide)).ne'

end Occ.Ppc405
