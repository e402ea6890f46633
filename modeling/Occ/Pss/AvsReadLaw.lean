/-
What the check code of the AVS bus is, and which reads of the bus succeed: the code is the remainder of a command by x³ + x + 1, which
finds every burst of up to three wrong bits, and over any run a reset is requested exactly when the last reads of one quantity of one rail
have failed as often as the bus allows.
-/
import Mathlib.Tactic.ComputeDegree
import Occ.Lib.Remainder
import Occ.Lib.Transition
import Occ.Pss.AvsBus

namespace Occ.Pss

open Polynomial Remainder Transition
open Cmdh (Avsbus AvsbusConfig)

/-! ## Division -/

/-- The divisor of the check code. -/
noncomputable def avsPolynomial : (ZMod 2)[X] := X ^ 3 + X + 1

theorem avsPolynomial_degree : avsPolynomial.degree = 3 := by
  unfold avsPolynomial
  compute_degree!

theorem avsPolynomial_monic : avsPolynomial.Monic := by
  unfold avsPolynomial
  monicity!

theorem avsPolynomial_coprime : IsCoprime avsPolynomial X := by
  refine ⟨1, X ^ 2 + 1, ?_⟩
  unfold avsPolynomial
  have htwo : (2 : (ZMod 2)[X]) = 0 := by
    rw [show (2 : (ZMod 2)[X]) = C 2 from rfl, show (2 : ZMod 2) = 0 from rfl, C_0]
  calc 1 * (X ^ 3 + X + 1) + (X ^ 2 + 1) * X = 2 * (X ^ 3 + X) + 1 := by ring
    _ = 1 := by rw [htwo, zero_mul, zero_add]

theorem poly_divisor : poly (0xB : BitVec 32) = avsPolynomial := by
  rw [show (0xB : BitVec 32) = BitVec.twoPow 32 3 ^^^ BitVec.twoPow 32 1 ^^^ BitVec.twoPow 32 0 by decide, poly_xor, poly_xor,
    poly_twoPow (by omega), poly_twoPow (by omega), poly_twoPow (by omega), pow_one, pow_zero]
  rfl

/-- `l_polynomial` after so many passes is a multiple of the divisor. -/
theorem dvd_polynomial {n : Nat} (h : n ≤ 28) : avsPolynomial ∣ poly ((0xB0000000 : BitVec 32) >>> n) := by
  have hlow : ∀ i < 28, (0xB0000000 : BitVec 32).getLsbD i = false := by decide
  have hshift : ∀ i < 28 - n, ((0xB0000000 : BitVec 32) >>> n).getLsbD i = false := by
    intro i hi
    rw [BitVec.getLsbD_ushiftRight]
    exact hlow _ (by omega)
  rw [poly_ushiftRight hshift, ← BitVec.shiftRight_add, Nat.add_sub_cancel' h,
    show (0xB0000000 : BitVec 32) >>> 28 = 0xB by decide, poly_divisor]
  exact dvd_mul_left _ _

/-- After so many passes the rest differs from the command by a multiple of the divisor, and the bits passed are 0. -/
structure Divided (cmd : BitVec 32) (n : Nat) (crc : BitVec 32) : Prop where
  dvd : avsPolynomial ∣ poly cmd - poly crc
  passed : ∀ i, 32 ≤ i + n → crc.getLsbD i = false

theorem poly_divided {cmd r : BitVec 32} (h : Divided cmd 29 r) : poly r = poly cmd %ₘ avsPolynomial := by
  refine poly_eq_modByMonic avsPolynomial_monic h.dvd ?_
  rw [avsPolynomial_degree]
  have hlow : ∀ i, 3 ≤ i → r.getLsbD i = false := fun i hi => h.passed i (by omega)
  exact degree_poly_lt hlow

theorem msb_eq_twoPow {n : Nat} (h : n < 32) : (0x80000000 : BitVec 32) >>> n = BitVec.twoPow 32 (31 - n) := by
  refine BitVec.eq_of_getLsbD_eq fun i _ => ?_
  rw [BitVec.getLsbD_ushiftRight, show (0x80000000 : BitVec 32) = BitVec.twoPow 32 31 by decide, BitVec.getLsbD_twoPow,
    BitVec.getLsbD_twoPow, Bool.eq_iff_iff, Bool.and_eq_true, Bool.and_eq_true, decide_eq_true_eq, decide_eq_true_eq, decide_eq_true_eq,
    decide_eq_true_eq]
  omega

theorem and_msb_ne_zero (crc : BitVec 32) {n : Nat} (h : n < 32) :
    crc &&& (0x80000000 : BitVec 32) >>> n ≠ 0 ↔ crc.getLsbD (31 - n) = true := by
  rw [msb_eq_twoPow h, BitVec.and_twoPow]
  split_ifs with hbit
  · rw [hbit]
    refine iff_of_true (fun hzero => ?_) rfl
    have hself := congrArg (fun a => a.getLsbD (31 - n)) hzero
    rw [BitVec.getLsbD_twoPow] at hself
    simp at hself
    omega
  · exact iff_of_false (fun hne => hne rfl) hbit

theorem and_dataMask_eq_zero {crc : BitVec 32} : crc &&& avsCrcDataMask = 0 ↔ ∀ i, 3 ≤ i → crc.getLsbD i = false := by
  have hmask : ∀ i < 32, avsCrcDataMask.getLsbD i = decide (3 ≤ i) := by decide
  constructor
  · intro h i hi
    by_cases hlt : i < 32
    · have hbit := congrArg (fun a => a.getLsbD i) h
      rw [BitVec.getLsbD_and, hmask i hlt, decide_eq_true hi, Bool.and_true] at hbit
      exact hbit.trans BitVec.getLsbD_zero
    · exact BitVec.getLsbD_of_ge crc i (by omega)
  · intro h
    refine BitVec.eq_of_getLsbD_eq fun i hi => ?_
    rw [BitVec.getLsbD_and, hmask i hi]
    by_cases hle : 3 ≤ i
    · rw [h i hle, Bool.false_and]
      exact BitVec.getLsbD_zero.symm
    · rw [decide_eq_false hle, Bool.and_false]
      exact BitVec.getLsbD_zero.symm

theorem Divided.pass {cmd crc : BitVec 32} {n : Nat} (h : Divided cmd n crc) (hn : n ≤ 28) :
    Divided cmd (n + 1) (if crc &&& (0x80000000 : BitVec 32) >>> n ≠ 0 then crc ^^^ (0xB0000000 : BitVec 32) >>> n else crc) := by
  split_ifs with hmsb
  · refine ⟨dvd_sub_xor h.dvd (dvd_polynomial hn), fun i hi => ?_⟩
    rw [BitVec.getLsbD_xor, BitVec.getLsbD_ushiftRight]
    have hbit := (and_msb_ne_zero crc (by omega : n < 32)).1 hmsb
    rcases Nat.lt_or_ge i (32 - n) with hlt | hge
    · rw [show i = 31 - n by omega, hbit, show n + (31 - n) = 31 by omega]
      rfl
    · rw [h.passed i (by omega), BitVec.getLsbD_of_ge _ _ (by omega)]
      rfl
  · refine ⟨h.dvd, fun i hi => ?_⟩
    rcases Nat.lt_or_ge i (32 - n) with hlt | hge
    · rw [show i = 31 - n by omega]
      exact Bool.eq_false_iff.2 fun hbit => hmsb ((and_msb_ne_zero crc (by omega)).2 hbit)
    · exact h.passed i (by omega)

theorem avsCrcLoop_divided {cmd crc : BitVec 32} {n passes : Nat} (h : Divided cmd n crc) (hn : n ≤ 29) (hpasses : 29 ≤ n + passes) :
    ∃ r, avsCrcLoop passes crc ((0xB0000000 : BitVec 32) >>> n) ((0x80000000 : BitVec 32) >>> n) = some r ∧ Divided cmd 29 r := by
  induction passes generalizing n crc with
  | zero =>
    obtain rfl : n = 29 := by omega
    refine ⟨crc, ?_, h⟩
    rw [avsCrcLoop, if_neg fun hne => hne (and_dataMask_eq_zero.2 fun i hi => h.passed i (by omega))]
  | succ passes ih =>
    rw [avsCrcLoop]
    by_cases hmask : crc &&& avsCrcDataMask = 0
    · rw [if_neg (not_not.2 hmask)]
      exact ⟨crc, rfl, h.dvd, fun i hi => and_dataMask_eq_zero.1 hmask i (by omega)⟩
    · have hlt : n ≤ 28 := by
        by_contra hgt
        exact hmask (and_dataMask_eq_zero.2 fun i hi => h.passed i (by omega))
      rw [if_pos hmask, ← BitVec.shiftRight_add, ← BitVec.shiftRight_add]
      exact ih (h.pass hlt) (by omega) (by omega)

theorem avsCrcLoop_eq (cmd : BitVec 32) {passes : Nat} (h : 29 ≤ passes) :
    avsCrcLoop passes (cmd &&& avsCrcDataMask) 0xB0000000 0x80000000 = some (avsCrcCalculate cmd) ∧
      Divided (cmd &&& avsCrcDataMask) 29 (avsCrcCalculate cmd) := by
  have hstart : Divided (cmd &&& avsCrcDataMask) 0 (cmd &&& avsCrcDataMask) :=
    ⟨by rw [sub_self]; exact dvd_zero _, fun i hi => BitVec.getLsbD_of_ge _ _ (by omega)⟩
  have hunique : ∀ {r r' : BitVec 32}, Divided (cmd &&& avsCrcDataMask) 29 r → Divided (cmd &&& avsCrcDataMask) 29 r' → r = r' := by
    intro r r' h h'
    exact poly_injective ((poly_divided h).trans (poly_divided h').symm)
  obtain ⟨r, hloop, hdiv⟩ := avsCrcLoop_divided hstart (by omega) (by omega : 29 ≤ 0 + passes)
  obtain ⟨r', hloop', hdiv'⟩ := avsCrcLoop_divided hstart (by omega) (by omega : 29 ≤ 0 + 29)
  have hcalc : avsCrcCalculate cmd = r' := by
    unfold avsCrcCalculate
    exact congrArg (fun r => Option.getD r 0) hloop'
  rw [hcalc, ← hunique hdiv hdiv']
  exact ⟨hloop, hdiv⟩

/-! ## Law of the check code -/

/-- A word with the check code in its lowest bits. -/
def CrcValid (word : BitVec 32) : Prop := avsCrcCalculate word = word &&& avsCrcMask

/-- What the check code of a word is, and what it finds: it is the same with any lowest three bits, leaves no remainder when it is
appended, and in a word that passes it no burst of one, two or three wrong bits goes unseen. -/
structure CrcLaw (word : BitVec 32) : Prop where
  ends : ∀ passes, 29 ≤ passes → avsCrcLoop passes (word &&& avsCrcDataMask) 0xB0000000 0x80000000 = some (avsCrcCalculate word)
  remainder : poly (avsCrcCalculate word) = poly (word &&& avsCrcDataMask) %ₘ avsPolynomial
  lowBits : ∀ other, other &&& avsCrcDataMask = word &&& avsCrcDataMask → avsCrcCalculate other = avsCrcCalculate word
  appended : poly (withCrc (word &&& avsCrcDataMask)) %ₘ avsPolynomial = 0
  detected : CrcValid word → ∀ error, Burst 3 error → ¬ CrcValid (word ^^^ error)

theorem avsCrcCalculate_bit (word : BitVec 32) {i : Nat} (h : 3 ≤ i) : (avsCrcCalculate word).getLsbD i = false :=
  (avsCrcLoop_eq word (Nat.le_refl 29)).2.passed i (by omega)

/-- The check code is valid exactly when the word is a multiple of the divisor. -/
theorem crcValid_iff (word : BitVec 32) : CrcValid word ↔ avsPolynomial ∣ poly word := by
  have hsplit : word = (word &&& avsCrcDataMask) ^^^ (word &&& avsCrcMask) := by
    refine BitVec.eq_of_getLsbD_eq fun i hi => ?_
    have hmask : ∀ i < 32, avsCrcMask.getLsbD i = !avsCrcDataMask.getLsbD i := by decide
    rw [BitVec.getLsbD_xor, BitVec.getLsbD_and, BitVec.getLsbD_and, hmask i hi]
    cases word.getLsbD i <;> cases avsCrcDataMask.getLsbD i <;> rfl
  have hcrc := (avsCrcLoop_eq word (Nat.le_refl 29)).2
  have hlow : Divided (word &&& avsCrcDataMask) 29 (word &&& avsCrcMask) ↔ avsPolynomial ∣ poly word := by
    have hsub : poly (word &&& avsCrcDataMask) - poly (word &&& avsCrcMask) = poly word := by
      conv_rhs => rw [hsplit, poly_xor]
      rw [sub_eq_add_neg, CharTwo.neg_eq]
    constructor
    · intro h
      rw [← hsub]
      exact h.dvd
    · intro h
      refine ⟨by rw [hsub]; exact h, fun i hi => ?_⟩
      have hmask : ∀ i < 32, 3 ≤ i → avsCrcMask.getLsbD i = false := by decide
      rw [BitVec.getLsbD_and]
      rcases Nat.lt_or_ge i 32 with hlt | hge
      · rw [hmask i hlt (by omega), Bool.and_false]
      · rw [BitVec.getLsbD_of_ge _ _ hge, Bool.false_and]
  rw [← hlow]
  constructor
  · intro h
    rw [← show avsCrcCalculate word = word &&& avsCrcMask from h]
    exact hcrc
  · intro h
    exact poly_injective ((poly_divided hcrc).trans (poly_divided h).symm)

/-- A command with its check code passes the check. -/
theorem crcValid_withCrc (word : BitVec 32) : CrcValid (withCrc (word &&& avsCrcDataMask)) := by
  have hdata : ∀ i < 32, avsCrcDataMask.getLsbD i = decide (3 ≤ i) := by decide
  have hmask : ∀ i < 32, avsCrcMask.getLsbD i = decide (i < 3) := by decide
  have hcrc := fun i => @avsCrcCalculate_bit (word &&& avsCrcDataMask) i
  have hsame : withCrc (word &&& avsCrcDataMask) &&& avsCrcDataMask = word &&& avsCrcDataMask &&& avsCrcDataMask := by
    refine BitVec.eq_of_getLsbD_eq fun i hi => ?_
    unfold withCrc
    rw [BitVec.getLsbD_and, BitVec.getLsbD_or, BitVec.getLsbD_and, BitVec.getLsbD_and, BitVec.getLsbD_and, hdata i hi]
    by_cases hle : 3 ≤ i
    · rw [hcrc i hle, Bool.or_false]
    · rw [decide_eq_false hle, Bool.and_false, Bool.and_false]
  unfold CrcValid avsCrcCalculate
  rw [hsame]
  refine BitVec.eq_of_getLsbD_eq fun i hi => ?_
  rw [show (avsCrcLoop 29 (word &&& avsCrcDataMask &&& avsCrcDataMask) 0xB0000000 0x80000000).getD 0 =
    avsCrcCalculate (word &&& avsCrcDataMask) from rfl]
  unfold withCrc
  rw [BitVec.getLsbD_and, BitVec.getLsbD_or, BitVec.getLsbD_and, hdata i hi, hmask i hi]
  by_cases hle : 3 ≤ i
  · rw [hcrc i hle, decide_eq_false (Nat.not_lt.2 hle), Bool.and_false]
  · rw [decide_eq_false hle, decide_eq_true (Nat.not_le.1 hle), Bool.and_false, Bool.false_or, Bool.and_true]

theorem crcLaw (word : BitVec 32) : CrcLaw word where
  ends _ h := (avsCrcLoop_eq word h).1
  remainder := poly_divided (avsCrcLoop_eq word (Nat.le_refl 29)).2
  lowBits other h := by
    unfold avsCrcCalculate
    rw [h]
  appended := (modByMonic_eq_zero_iff_dvd avsPolynomial_monic).2 ((crcValid_iff _).1 (crcValid_withCrc word))
  detected := by
    intro hvalid error hburst hother
    rw [crcValid_iff] at hvalid hother
    rw [poly_xor] at hother
    exact hburst.not_dvd avsPolynomial_coprime (by rw [avsPolynomial_degree]; rfl) ((dvd_add_right hvalid).1 hother)

/-! ## Reads -/

/-- The words of a read that is complete, without an error, and acknowledged with a valid check code. -/
structure Good (w : BusWords) : Prop where
  noError : w.status &&& avsbusStatusErrors = 0
  complete : w.status &&& avsbusStatusOngoing = 0
  crc : CrcValid w.value
  slaveAck : w.value &&& 0xC0000000 = 0

/-- CmdData -/
def BusWords.data (w : BusWords) : BitVec 16 := (w.value >>> 8).setWidth 16

theorem checkResponse_good {w : BusWords} (h : Good w) : checkResponse w = .ok w.data := by
  unfold checkResponse
  rw [if_neg (not_not.2 h.noError), if_neg (not_not.2 h.complete), if_neg (not_not.2 (show avsCrcCalculate w.value = _ from h.crc)), if_pos h.slaveAck]
  rfl

theorem checkResponse_not_good {w : BusWords} (h : ¬ Good w) : ∃ failure, checkResponse w = .error failure := by
  unfold checkResponse
  split_ifs with herror hongoing hcrc hack
  · exact ⟨_, rfl⟩
  · exact ⟨_, rfl⟩
  · exact ⟨_, rfl⟩
  · exact absurd ⟨not_not.1 herror, not_not.1 hongoing, not_not.1 hcrc, hack⟩ h
  · exact ⟨_, rfl⟩

instance (w : BusWords) : Decidable (Good w) :=
  decidable_of_iff ((checkResponse w).isOk = true) <| by
    by_cases h : Good w
    · rw [checkResponse_good h]
      exact iff_of_true rfl h
    · obtain ⟨failure, hfailure⟩ := checkResponse_not_good h
      rw [hfailure]
      exact iff_of_false Bool.false_ne_true h

/-- A read of the bus that was made. -/
structure ReadDone where
  type : Rail
  cmdtype : Quantity
  words : BusWords
deriving DecidableEq, Repr

/-- How many of the last reads of a quantity of a rail have failed since a good one, of the reads made with the last one first. -/
def streak (type : Rail) (cmdtype : Quantity) : List ReadDone → Nat
  | [] => 0
  | read :: history =>
    if read.type = type ∧ read.cmdtype = cmdtype then
      if Good read.words then 0 else streak type cmdtype history + 1
    else streak type cmdtype history

/-- What happens to the state and the reads made: a read, of which none is made once the reset is requested, or anything else that leaves the
counts alone and takes no request back. -/
inductive ReadStep : Avs × List ReadDone → Option ReadDone → Avs × List ReadDone → Prop
  | read (s : Avs) (history : List ReadDone) (read : ReadDone) :
      ReadStep (s, history) (some read)
        ((avsbusRead read.type read.cmdtype read.words s).1, if s.safeStateRequested then history else read :: history)
  | rest (s t : Avs) (history : List ReadDone) (hcount : t.errorCount = s.errorCount)
      (hreset : s.safeStateRequested = true → t.safeStateRequested = true) : ReadStep (s, history) none (t, history)

/-! ## Invariant -/

/-- The counts are those of the failed reads, and below the limit until the reset is requested. -/
structure ReadInv (p : Avs × List ReadDone) : Prop where
  count : ∀ type cmdtype, (p.1.errorCount type cmdtype).toNat = streak type cmdtype p.2
  below : p.1.safeStateRequested = false → ∀ type cmdtype, streak type cmdtype p.2 < 3

section
variable {s : Avs} {history : List ReadDone} {type : Rail} {cmdtype : Quantity} {w : BusWords}

theorem avsbusRead_safe (h : s.safeStateRequested = true) : avsbusRead type cmdtype w s = (s, 0) := if_pos h

theorem avsbusRead_good (hsafe : s.safeStateRequested = false) (h : Good w) :
    (avsbusRead type cmdtype w s).2 = w.data ∧ (avsbusRead type cmdtype w s).1.errls = s.errls ∧
      (avsbusRead type cmdtype w s).1.safeStateRequested = false ∧
      (avsbusRead type cmdtype w s).1.errorCount = (s.countError type cmdtype 0).errorCount := by
  unfold avsbusRead
  rw [if_neg (by rw [hsafe]; exact Bool.false_ne_true), checkResponse_good h]
  cases cmdtype <;> exact ⟨rfl, rfl, hsafe, rfl⟩

theorem avsbusRead_retry (hsafe : s.safeStateRequested = false) (h : ¬ Good w) (hcount : s.errorCount type cmdtype + 1 ≠ maxReadAttempts) :
    (avsbusRead type cmdtype w s).2 = 0 ∧ (avsbusRead type cmdtype w s).1.errls = s.errls ∧
      (avsbusRead type cmdtype w s).1.safeStateRequested = false ∧
      (avsbusRead type cmdtype w s).1.errorCount = (s.countError type cmdtype (s.errorCount type cmdtype + 1)).errorCount := by
  obtain ⟨failure, hfailure⟩ := checkResponse_not_good h
  unfold avsbusRead
  rw [if_neg (by rw [hsafe]; exact Bool.false_ne_true)]
  simp only [hfailure, if_neg hcount]
  exact ⟨trivial, rfl, hsafe, rfl⟩

theorem avsbusRead_last (hsafe : s.safeStateRequested = false) (h : ¬ Good w) (hcount : s.errorCount type cmdtype + 1 = maxReadAttempts) :
    (avsbusRead type cmdtype w s).2 = 0 ∧
      (∃ failure userdata1, checkResponse w = .error failure ∧
        (avsbusRead type cmdtype w s).1.errls = ⟨some failure, readErc type cmdtype, userdata1, w.status⟩ :: s.errls) ∧
      (avsbusRead type cmdtype w s).1.safeStateRequested = true ∧
      (avsbusRead type cmdtype w s).1.errorCount = (s.countError type cmdtype (s.errorCount type cmdtype + 1)).errorCount := by
  obtain ⟨failure, hfailure⟩ := checkResponse_not_good h
  have hrc : s.errorCount type cmdtype + 1 = 1 ∨ s.errorCount type cmdtype + 1 = maxReadAttempts := Or.inr hcount
  unfold avsbusRead
  rw [if_neg (by rw [hsafe]; exact Bool.false_ne_true)]
  simp only [hfailure, if_pos hcount, if_pos hrc]
  exact ⟨trivial, ⟨failure, _, rfl, rfl⟩, trivial, rfl⟩

theorem countError_errorCount (type' : Rail) (cmdtype' : Quantity) (count : BitVec 32) :
    (s.countError type cmdtype count).errorCount type' cmdtype' =
      if type = type' ∧ cmdtype = cmdtype' then count else s.errorCount type' cmdtype' := by
  unfold Avs.countError
  by_cases htype : type' = type
  · subst htype
    by_cases hcmd : cmdtype' = cmdtype
    · subst hcmd
      rw [if_pos ⟨rfl, rfl⟩]
      simp only [Function.update_self]
    · rw [if_neg fun h => hcmd h.2.symm]
      simp only [Function.update_self, Function.update_of_ne hcmd]
  · rw [if_neg fun h => htype h.1.symm]
    simp only [Function.update_of_ne htype]

/-- The reset is requested by the last of three failed reads in a row, with its reason in the log. -/
structure ReadLaw (s : Avs) (history : List ReadDone) (type : Rail) (cmdtype : Quantity) (w : BusWords) : Prop where
  good : (avsbusRead type cmdtype w s).2 ≠ 0 → Good w
  reading : Good w → (avsbusRead type cmdtype w s).2 = w.data
  reset : (avsbusRead type cmdtype w s).1.safeStateRequested = true ↔ streak type cmdtype (⟨type, cmdtype, w⟩ :: history) = 3
  log : streak type cmdtype (⟨type, cmdtype, w⟩ :: history) = 3 →
    ∃ failure userdata1, checkResponse w = .error failure ∧
      (avsbusRead type cmdtype w s).1.errls = ⟨some failure, readErc type cmdtype, userdata1, w.status⟩ :: s.errls
  quiet : streak type cmdtype (⟨type, cmdtype, w⟩ :: history) ≠ 3 → (avsbusRead type cmdtype w s).1.errls = s.errls
  restart : Good w → (avsbusRead type cmdtype w s).1.errorCount type cmdtype = 0

theorem streak_good (h : Good w) : streak type cmdtype (⟨type, cmdtype, w⟩ :: history) = 0 := by
  rw [streak, if_pos ⟨rfl, rfl⟩, if_pos h]

theorem streak_failed (h : ¬ Good w) : streak type cmdtype (⟨type, cmdtype, w⟩ :: history) = streak type cmdtype history + 1 := by
  rw [streak, if_pos ⟨rfl, rfl⟩, if_neg h]

theorem ReadInv.last_iff (hinv : ReadInv (s, history)) (hsafe : s.safeStateRequested = false) :
    s.errorCount type cmdtype + 1 = maxReadAttempts ↔ streak type cmdtype history + 1 = 3 := by
  have hcount : (s.errorCount type cmdtype).toNat = streak type cmdtype history := hinv.count type cmdtype
  have hbelow : streak type cmdtype history < 3 := hinv.below hsafe type cmdtype
  rw [← BitVec.toNat_inj, BitVec.toNat_add, hcount, show maxReadAttempts.toNat = 3 from rfl, show (1 : BitVec 32).toNat = 1 from rfl,
    Nat.mod_eq_of_lt (by omega)]

theorem ReadInv.readLaw (hinv : ReadInv (s, history)) (hsafe : s.safeStateRequested = false) : ReadLaw s history type cmdtype w := by
  by_cases hgood : Good w
  · obtain ⟨hdata, hlog, hreset, hcount⟩ := @avsbusRead_good s type cmdtype w hsafe hgood
    have hstreak : streak type cmdtype (⟨type, cmdtype, w⟩ :: history) = 0 := streak_good hgood
    refine ⟨fun _ => hgood, fun _ => hdata, ?_, ?_, fun _ => hlog, fun _ => ?_⟩
    · rw [hreset, hstreak]
      exact iff_of_false Bool.false_ne_true (by decide)
    · intro h
      rw [hstreak] at h
      exact absurd h (by decide)
    · rw [hcount, countError_errorCount, if_pos ⟨rfl, rfl⟩]
  · have hstreak : streak type cmdtype (⟨type, cmdtype, w⟩ :: history) = streak type cmdtype history + 1 := streak_failed hgood
    have hlast : s.errorCount type cmdtype + 1 = maxReadAttempts ↔ streak type cmdtype history + 1 = 3 := hinv.last_iff hsafe
    by_cases h : s.errorCount type cmdtype + 1 = maxReadAttempts
    · obtain ⟨hdata, hlog, hreset, hcount⟩ := avsbusRead_last hsafe hgood h
      refine ⟨fun hne => absurd hdata hne, fun hg => absurd hg hgood, ?_, fun _ => hlog, ?_, fun hg => absurd hg hgood⟩
      · rw [hstreak]
        exact iff_of_true hreset (hlast.1 h)
      · rw [hstreak]
        exact fun hne => absurd (hlast.1 h) hne
    · obtain ⟨hdata, hlog, hreset, hcount⟩ := avsbusRead_retry hsafe hgood h
      refine ⟨fun hne => absurd hdata hne, fun hg => absurd hg hgood, ?_, ?_, fun _ => hlog, fun hg => absurd hg hgood⟩
      · rw [hstreak, hreset]
        exact iff_of_false Bool.false_ne_true fun h3 => h (hlast.2 h3)
      · rw [hstreak]
        exact fun h3 => absurd (hlast.2 h3) h

/-- A read keeps the counts in step with the reads made. -/
theorem ReadInv.read (hinv : ReadInv (s, history)) (hsafe : s.safeStateRequested = false) :
    ReadInv ((avsbusRead type cmdtype w s).1, ⟨type, cmdtype, w⟩ :: history) := by
  have hcount : ∀ type cmdtype, (s.errorCount type cmdtype).toNat = streak type cmdtype history := hinv.count
  have hbelow : ∀ type cmdtype, streak type cmdtype history < 3 := hinv.below hsafe
  -- the count of the quantity that was read, the others being as before
  have hnew : (avsbusRead type cmdtype w s).1.errorCount =
      (s.countError type cmdtype (if Good w then 0 else s.errorCount type cmdtype + 1)).errorCount := by
    by_cases hgood : Good w
    · rw [if_pos hgood]
      exact (avsbusRead_good hsafe hgood).2.2.2
    · rw [if_neg hgood]
      by_cases h : s.errorCount type cmdtype + 1 = maxReadAttempts
      · exact (avsbusRead_last hsafe hgood h).2.2.2
      · exact (avsbusRead_retry hsafe hgood h).2.2.2
  refine ⟨fun type' cmdtype' => ?_, fun hsafe' type' cmdtype' => ?_⟩
  · show ((avsbusRead type cmdtype w s).1.errorCount type' cmdtype').toNat = streak type' cmdtype' (⟨type, cmdtype, w⟩ :: history)
    rw [hnew, countError_errorCount, streak]
    by_cases hsame : type = type' ∧ cmdtype = cmdtype'
    · obtain ⟨rfl, rfl⟩ := hsame
      have hself : type = type ∧ cmdtype = cmdtype := ⟨rfl, rfl⟩
      rw [if_pos hself, if_pos hself]
      by_cases hgood : Good w
      · rw [if_pos hgood, if_pos hgood]
        rfl
      · have hlt := hbelow type cmdtype
        rw [if_neg hgood, if_neg hgood, BitVec.toNat_add, hcount, show (1 : BitVec 32).toNat = 1 from rfl, Nat.mod_eq_of_lt (by omega)]
    · rw [if_neg hsame, if_neg hsame]
      exact hcount type' cmdtype'
  · have hlaw : ReadLaw s history type cmdtype w := hinv.readLaw hsafe
    have hne : streak type cmdtype (⟨type, cmdtype, w⟩ :: history) ≠ 3 := fun h3 => by
      have := hlaw.reset.2 h3
      rw [show (avsbusRead type cmdtype w s).1.safeStateRequested = false from hsafe'] at this
      exact Bool.false_ne_true this
    show streak type' cmdtype' (⟨type, cmdtype, w⟩ :: history) < 3
    have hlt := hbelow type' cmdtype'
    rw [streak] at hne ⊢
    by_cases hsame : type = type' ∧ cmdtype = cmdtype'
    · obtain ⟨rfl, rfl⟩ := hsame
      rw [if_pos ⟨rfl, rfl⟩] at hne ⊢
      split_ifs at hne ⊢
      · decide
      · omega
    · rw [if_neg hsame]
      exact hlt

end

theorem ReadInv.step {p q : Avs × List ReadDone} {e : Option ReadDone} (hinv : ReadInv p) (h : ReadStep p e q) : ReadInv q := by
  cases h with
  | read s history read =>
    cases hsafe : s.safeStateRequested with
    | true =>
      rw [avsbusRead_safe hsafe]
      exact hinv
    | false => exact hinv.read hsafe
  | rest s t history hcount hreset =>
    refine ⟨fun type cmdtype => ?_, fun hsafe => hinv.below ?_⟩
    · show (t.errorCount type cmdtype).toNat = _
      rw [hcount]
      exact hinv.count type cmdtype
    · exact Bool.eq_false_iff.2 fun htrue => Bool.false_ne_true ((show t.safeStateRequested = false from hsafe).symm.trans (hreset htrue))

theorem readInv_init (wofDisabled : BitVec 32) : ReadInv (Avs.init wofDisabled, []) :=
  ⟨fun _ _ => rfl, fun _ _ _ => Nat.zero_lt_succ 2⟩

/-! ## Law -/

/-- The check code is the remainder of the command and finds the errors, and in every run the next read of any quantity of any rail, unless a
reset is requested already, returns a reading from a good response only, and requests the reset when it is the third in a row that failed. -/
theorem avsReadLaw (wofDisabled : BitVec 32) {es : List (Option ReadDone)} {s : Avs} {history : List ReadDone}
    (h : Run ReadStep (Avs.init wofDisabled, []) es (s, history)) :
    (∀ word, CrcLaw word) ∧ ∀ type cmdtype w,
      (s.safeStateRequested = true → avsbusRead type cmdtype w s = (s, 0)) ∧
      (s.safeStateRequested = false → ReadLaw s history type cmdtype w) := by
  have hinv : ReadInv (s, history) := h.invariant (fun _ _ _ hinv hstep => hinv.step hstep) (readInv_init wofDisabled)
  refine ⟨crcLaw, fun type cmdtype w => ⟨avsbusRead_safe, hinv.readLaw⟩⟩

/-- Three reads of the Vdd current in a row fail, each in its own way, with a good read of its voltage between them. -/
theorem avsReadLaw_retries : ReadLaw
    (avsbusRead .vdd .current ⟨0x80000000, 0⟩ (avsbusRead .vdd .voltage ⟨0, 0⟩ (avsbusRead .vdd .current ⟨0x04000000, 0⟩ (.init 0)).1).1).1
    [⟨.vdd, .current, ⟨0x80000000, 0⟩⟩, ⟨.vdd, .voltage, ⟨0, 0⟩⟩, ⟨.vdd, .current, ⟨0x04000000, 0⟩⟩] .vdd .current ⟨0, 1⟩ := by
  refine ((avsReadLaw 0 (.cons (.read (.init 0) [] ⟨.vdd, .current, ⟨0x04000000, 0⟩⟩)
    (.cons (.read _ [⟨.vdd, .current, ⟨0x04000000, 0⟩⟩] ⟨.vdd, .voltage, ⟨0, 0⟩⟩)
      (.cons (.read _ [⟨.vdd, .voltage, ⟨0, 0⟩⟩, ⟨.vdd, .current, ⟨0x04000000, 0⟩⟩] ⟨.vdd, .current, ⟨0x80000000, 0⟩⟩) (.nil _))))).2
    .vdd .current ⟨0, 1⟩).2 ?_
  decide

/-! ## Task -/

/-- What happens between two states is reads, and changes that leave the counts and the request alone. -/
def Reads (s t : Avs) : Prop := ∀ history, ∃ es history', Run ReadStep (s, history) es (t, history')

section
variable {s t u : Avs} {type : Rail} {cmdtype : Quantity} {words : Rail → BusWords}

theorem Reads.trans (h : Reads s t) (h' : Reads t u) : Reads s u := by
  intro history
  obtain ⟨es, history₁, hrun⟩ := h history
  obtain ⟨es', history₂, hrun'⟩ := h' history₁
  exact ⟨es ++ es', history₂, hrun.append hrun'⟩

theorem reads_rest (hcount : t.errorCount = s.errorCount) (hreset : t.safeStateRequested = s.safeStateRequested) : Reads s t :=
  fun history => ⟨[none], history, .single (.rest s t history hcount fun h => hreset.trans h)⟩

theorem Reads.refl (s : Avs) : Reads s s := reads_rest rfl rfl

theorem reads_read (w : BusWords) : Reads s (avsbusRead type cmdtype w s).1 :=
  fun history => ⟨_, _, .single (.read s history ⟨type, cmdtype, w⟩)⟩

theorem Reads.ite {P : Prop} [Decidable P] (h : Reads s t) (h' : Reads s u) : Reads s (if P then t else u) := by
  split_ifs
  · exact h
  · exact h'

theorem reads_out (rail : Rail) (bus : BitVec 8) (word : BitVec 32) : Reads s (s.out rail bus word) := reads_rest rfl rfl

theorem reads_sensorUpdate (sensor : AvsSensor) (sample : BitVec 16) : Reads s (s.sensorUpdate sensor sample) := reads_rest rfl rfl

theorem reads_goto (state : AvsbusState) : Reads s (s.goto state) := reads_rest rfl rfl

theorem reads_readStart : Reads s (avsbusReadStart type cmdtype s) := (Reads.refl s).ite (reads_out _ _ _)

theorem reads_initiate : Reads s (initiateAvsbusReads cmdtype s) := by
  have hvdd : Reads s (if s.config.vdd.monitoring then avsbusReadStart .vdd cmdtype s else s) := reads_readStart.ite (.refl s)
  exact hvdd.trans (reads_readStart.ite (.refl _))

theorem reads_startTemperature : Reads s (startTemperature s) := reads_readStart.trans (reads_goto _)

theorem reads_startVoltages : Reads s (startVoltages s) := reads_initiate.trans (reads_goto _)

theorem reads_startCurrents : Reads s (startCurrents s) := by
  have hclear : Reads s (clearForRollover s) := (reads_out _ _ _).ite (.refl s)
  exact (hclear.trans reads_initiate).trans (reads_goto _)

theorem reads_startStatus : Reads s (startStatus s) := by
  have hvdd : Reads s (if s.config.vdd.monitoring ∧ s.config.vdd.bus ≠ 0xFF then s.out .vdd s.config.vdd.bus readStatusCommand else s) :=
    (reads_out _ _ _).ite (.refl s)
  have hread : Reads s (initiateAvsbusReadStatus s) := (Reads.refl s).ite (hvdd.trans ((reads_out _ _ _).ite (.refl _)))
  exact hread.trans (reads_goto _)

theorem reads_voltage : Reads s (processAvsbusVoltage words s) := by
  have hrail : ∀ (s : Avs) (type : Rail) (sensor : AvsSensor), Reads s (if (avsbusRead type .voltage (words type) s).2 ≠ 0 then
      (avsbusRead type .voltage (words type) s).1.sensorUpdate sensor ((avsbusRead type .voltage (words type) s).2 * 10)
      else (avsbusRead type .voltage (words type) s).1) :=
    fun s type sensor => (reads_read (words type)).trans ((reads_sensorUpdate _ _).ite (.refl _))
  have hvdd := (hrail s .vdd .voltvdd).ite (P := s.config.vdd.monitoring = true) (.refl s)
  exact hvdd.trans ((hrail _ .vdn .voltvdn).ite (.refl _))

theorem reads_processVddCurrent (current : BitVec 16) : Reads s (processVddCurrent current s) := by
  unfold processVddCurrent
  split_ifs
  · exact reads_rest rfl rfl
  · exact reads_rest rfl rfl
  · exact .refl s

theorem reads_current : Reads s (processAvsbusCurrent words s) := by
  have hread : Reads s (processVddCurrent (avsbusRead .vdd .current (words .vdd) s).2 (avsbusRead .vdd .current (words .vdd) s).1) :=
    (reads_read _).trans (reads_processVddCurrent _)
  have hvdd := hread.ite (P := s.config.vdd.monitoring = true) (.refl s)
  exact hvdd.trans (((reads_read (words .vdn)).trans ((reads_sensorUpdate _ _).ite (.refl _))).ite (.refl _))

theorem reads_avsbusReadStatus (w : BusWords) : Reads s (avsbusReadStatus type w s).1 := by
  unfold avsbusReadStatus
  split_ifs
  · exact .refl s
  · split
    · exact reads_rest rfl rfl
    · exact reads_rest rfl rfl

theorem reads_processVddStatus (status : BitVec 16) : Reads s (processVddStatus status s) := by
  unfold processVddStatus
  simp only []
  split_ifs <;> exact reads_rest rfl rfl

theorem reads_processVdnStatus (status : BitVec 16) : Reads s (processVdnStatus status s) := by
  unfold processVdnStatus
  simp only []
  split_ifs <;> exact reads_rest rfl rfl

theorem reads_status : Reads s (processAvsbusStatus words s) := by
  have hread : Reads s (if (avsbusReadStatus .vdd (words .vdd) s).2 ≠ avsbusStatusReadError then
      processVddStatus (avsbusReadStatus .vdd (words .vdd) s).2 (avsbusReadStatus .vdd (words .vdd) s).1
      else (avsbusReadStatus .vdd (words .vdd) s).1) := (reads_avsbusReadStatus _).trans ((reads_processVddStatus _).ite (.refl _))
  have hvdd := hread.ite (P := s.config.vdd.monitoring = true) (.refl s)
  exact hvdd.trans (((reads_avsbusReadStatus (words .vdn)).trans ((reads_processVdnStatus _).ite (.refl _))).ite (.refl _))

/-- The task reads the bus by `avsbus_read` alone, so that the law holds over its ticks. -/
theorem reads_amecUpdateAvsbusSensors (shared : Bool) (t : AvsTick) (s : Avs) : Reads s (amecUpdateAvsbusSensors shared t s) := by
  have hstop : Reads s (s.stopMonitoring.goto .disabled) := reads_rest rfl rfl
  have hstart : Reads s (if s.safeStateRequested then s.stopMonitoring.goto .disabled else s) := hstop.ite (.refl s)
  refine hstart.trans ?_
  unfold amecUpdateAvsbusSensors
  generalize (if s.safeStateRequested then s.stopMonitoring.goto .disabled else s) = s
  simp only []
  split
  · exact ((reads_startTemperature.ite (reads_startVoltages.ite ((Reads.refl s).ite reads_startTemperature)))).ite
      (reads_startCurrents.ite reads_startTemperature)
  · exact (reads_read _).trans (reads_startVoltages.ite (reads_startCurrents.ite reads_startStatus))
  · exact reads_voltage.trans reads_startCurrents
  · exact reads_current.trans reads_startStatus
  · exact reads_status.trans reads_startTemperature
  · exact .refl s

end

end Occ.Pss
