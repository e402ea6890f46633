/-
Errors in words with ECC and in streams of them: which single bits are corrected, that two bits are always detected, and
what becomes of a stream with at most one bad bit in each group of nine bytes.
-/
import Occ.Firdata.Ecc
import Occ.Lib.Parity

namespace Occ.Firdata

open Occ.Parity

/-! ## Errors -/

/-- What flipping bit `b` of the nine bytes does to the data; the bits of the ECC follow those of the data. -/
def flipData (b : Fin 72) : BitVec 64 := if b.val < 64 then (1 : BitVec 64) <<< (63 - b.val) else 0

/-- What flipping bit `b` of the nine bytes does to the ECC. -/
def flipEcc (b : Fin 72) : BitVec 8 := if b.val < 64 then 0 else (1 : BitVec 8) <<< (b.val - 64)

/-- The effect of a bit: its column of the matrix, or the bit of the ECC itself. -/
def column (b : Fin 72) : BitVec 8 :=
  if b.val < 64 then
    (List.range 8).foldl (fun r i => r ||| BitVec.ofNat 8 ((eccMatrix.getD i 0).getLsbD (63 - b.val)).toNat <<< i) 0
  else (1 : BitVec 8) <<< (b.val - 64)

section
variable (undefinedShift : Nat → BitVec 32)

/-- The bit is corrected, and reported. -/
def Corrects (data : BitVec 64) (b : Fin 72) : Prop :=
  correctECC undefinedShift (data ^^^ flipData b) (generateECC data ^^^ flipEcc b) =
    (.ofNat 8 b.val, data, generateECC data)

/-- The two bits are reported as not correctable, and nothing is changed. -/
def Detects (data : BitVec 64) (b c : Fin 72) : Prop :=
  correctECC undefinedShift (data ^^^ flipData b ^^^ flipData c) (generateECC data ^^^ flipEcc b ^^^ flipEcc c) =
    (eccUe, data ^^^ flipData b ^^^ flipData c, generateECC data ^^^ flipEcc b ^^^ flipEcc c)

end

/-! ## The code is linear -/

theorem parityCheck_eq (data : BitVec 64) :
    parityCheck data = BitVec.ofNat 8 (odd (List.range 64) fun x => data.getMsbD x).toNat := by
  have hbit : ∀ x ∈ List.range 64,
      (decide (data &&& ((0x8000000000000000 : BitVec 64) >>> x) ≠ 0) = true ↔ data.getMsbD x = true) := by
    intro x hx
    have hlt : x < 64 := List.mem_range.1 hx
    have hmask : ∀ y : Fin 64, (0x8000000000000000 : BitVec 64) >>> y.val = BitVec.twoPow 64 (63 - y.val) := by decide
    have hne : ∀ y : Fin 64, BitVec.twoPow 64 (63 - y.val) ≠ 0 := by decide
    rw [hmask ⟨x, hlt⟩, BitVec.and_twoPow, BitVec.getMsbD_eq_getLsbD, decide_eq_true_iff]
    have hidx : 64 - 1 - x = 63 - x := by omega
    rw [hidx, decide_eq_true hlt, Bool.true_and]
    split
    · rename_i hset
      exact ⟨fun _ => hset, fun _ => hne ⟨x, hlt⟩⟩
    · rename_i hclear
      exact ⟨fun h => absurd rfl h, fun h => absurd h hclear⟩
  unfold parityCheck
  rw [List.countP_congr hbit, countP_mod_two]

theorem getLsbD_generateECC (data : BitVec 64) (i : Nat) : (generateECC data).getLsbD i =
    (decide (i < 8) && decide (i < 8) && odd (List.range 64) fun x => (eccMatrix.getD i 0 &&& data).getMsbD x) := by
  unfold generateECC
  simp only [parityCheck_eq]
  exact getLsbD_foldl_or (fun i => odd (List.range 64) fun x => (eccMatrix.getD i 0 &&& data).getMsbD x) 8 i

theorem generateECC_linear : Linear generateECC := by
  intro x y
  apply BitVec.eq_of_getLsbD_eq
  intro i hi
  have hrow : (fun b => (eccMatrix.getD i 0 &&& (x ^^^ y)).getMsbD b) =
      fun b => (eccMatrix.getD i 0 &&& x).getMsbD b ^^ (eccMatrix.getD i 0 &&& y).getMsbD b := by
    funext b
    rw [BitVec.getMsbD_and, BitVec.getMsbD_and, BitVec.getMsbD_and, BitVec.getMsbD_xor]
    cases (eccMatrix.getD i 0).getMsbD b <;> simp
  rw [BitVec.getLsbD_xor, getLsbD_generateECC, getLsbD_generateECC, getLsbD_generateECC, hrow, odd_xor,
    decide_eq_true hi, Bool.true_and, Bool.true_and, Bool.true_and, Bool.true_and]

/-! ## Syndromes -/

/-- The ECC of a word with one bit is the bit's column. -/
theorem getLsbD_generateECC_twoPow {k : Nat} (hk : k < 64) (i : Nat) : (generateECC (.twoPow 64 k)).getLsbD i =
    (decide (i < 8) && (eccMatrix.getD i 0).getLsbD k) := by
  have hbit : ∀ x, (eccMatrix.getD i 0 &&& BitVec.twoPow 64 k).getMsbD x =
      (decide (x = 63 - k) && (eccMatrix.getD i 0).getLsbD k) := by
    intro x
    rw [BitVec.and_twoPow, BitVec.getMsbD_eq_getLsbD]
    by_cases hx : x = 63 - k
    · have hidx : 64 - 1 - x = k := by omega
      have hlt : x < 64 := by omega
      rw [hidx, decide_eq_true hlt, decide_eq_true hx]
      cases (eccMatrix.getD i 0).getLsbD k <;> simp [hk]
    · have hne : ¬(k = 64 - 1 - x) ∨ ¬x < 64 := by omega
      rw [decide_eq_false hx]
      cases (eccMatrix.getD i 0).getLsbD k
      · simp
      · obtain hne | hge := hne
        · simp [BitVec.getLsbD_twoPow, hne]
        · simp [hge]
  have hmem : 63 - k ∈ List.range 64 := List.mem_range.2 (by omega)
  rw [getLsbD_generateECC, odd_single List.nodup_range hmem fun x hx => by rw [hbit, decide_eq_false hx, Bool.false_and],
    hbit, decide_eq_true rfl, Bool.true_and]
  cases decide (i < 8) <;> rfl

theorem syndrome_flip (b : Fin 72) : generateECC (flipData b) ^^^ flipEcc b = column b := by
  unfold flipData flipEcc column
  split
  · have hone : (1 : BitVec 64) <<< (63 - b.val) = BitVec.twoPow 64 (63 - b.val) := (BitVec.twoPow_eq 64 _).symm
    apply BitVec.eq_of_getLsbD_eq
    intro i hi
    rw [hone, BitVec.getLsbD_xor, getLsbD_generateECC_twoPow (by omega),
      getLsbD_foldl_or fun i => (eccMatrix.getD i 0).getLsbD (63 - b.val), decide_eq_true hi]
    simp
  · rw [generateECC_linear.zero]
    exact BitVec.zero_xor

theorem syndromeMatrix_column : ∀ b : Fin 72, syndromeMatrix.getD (column b).toNat 0 = BitVec.ofNat 8 b.val := by
  decide

/-- Whether an odd number of its bits is set. -/
def oddWeight (s : BitVec 8) : Bool := odd (List.range 8) s.getLsbD

theorem oddWeight_xor (s t : BitVec 8) : oddWeight (s ^^^ t) = (oddWeight s ^^ oddWeight t) := by
  unfold oddWeight
  rw [← odd_xor]
  congr 1
  funext i
  exact BitVec.getLsbD_xor

theorem oddWeight_column : ∀ b : Fin 72, oddWeight (column b) = true := by
  decide

theorem syndromeMatrix_even : ∀ s : BitVec 8, s ≠ 0 → oddWeight s = false → syndromeMatrix.getD s.toNat 0 = eccUe := by
  decide

theorem column_injective {b c : Fin 72} (h : column b = column c) : b = c := by
  have hb := syndromeMatrix_column b
  rw [h, syndromeMatrix_column c] at hb
  have hnat := congrArg BitVec.toNat hb
  rw [BitVec.toNat_ofNat, BitVec.toNat_ofNat] at hnat
  have hblt := b.isLt
  have hclt := c.isLt
  exact Fin.ext (by omega)

theorem verifyECC_clean (data : BitVec 64) : verifyECC data (generateECC data) = eccGd := by
  unfold verifyECC
  rw [BitVec.xor_self]
  rfl

theorem verifyECC_flip (data : BitVec 64) (b : Fin 72) :
    verifyECC (data ^^^ flipData b) (generateECC data ^^^ flipEcc b) = BitVec.ofNat 8 b.val := by
  unfold verifyECC
  rw [generateECC_linear.syndrome, syndrome_flip]
  exact syndromeMatrix_column b

theorem verifyECC_flip_two (data : BitVec 64) {b c : Fin 72} (hne : b ≠ c) :
    verifyECC (data ^^^ flipData b ^^^ flipData c) (generateECC data ^^^ flipEcc b ^^^ flipEcc c) = eccUe := by
  unfold verifyECC
  rw [generateECC_linear.syndrome_two, syndrome_flip, syndrome_flip]
  refine syndromeMatrix_even (column b ^^^ column c) (fun h => hne (column_injective (BitVec.xor_eq_zero_iff.1 h))) ?_
  rw [oddWeight_xor, oddWeight_column, oddWeight_column]
  rfl

/-! ## A word -/

section
variable {undefinedShift : Nat → BitVec 32} {data : BitVec 64} {b c : Fin 72}

theorem ofNat_ne_results : ∀ b : Fin 72, BitVec.ofNat 8 b.val ≠ eccGd ∧ BitVec.ofNat 8 b.val ≠ eccUe := by
  decide

theorem correctECC_clean (data : BitVec 64) :
    correctECC undefinedShift data (generateECC data) = (eccGd, data, generateECC data) := by
  unfold correctECC
  rw [verifyECC_clean]
  rfl

/-- A bad bit of the ECC is flipped back, one of the data as far as the shift reaches it. -/
theorem correctECC_flip (data : BitVec 64) (b : Fin 72) :
    correctECC undefinedShift (data ^^^ flipData b) (generateECC data ^^^ flipEcc b) =
      (BitVec.ofNat 8 b.val,
        if b.val < 64 then data ^^^ flipData b ^^^ (shiftUl undefinedShift (63 - b.val)).setWidth 64 else data,
        generateECC data) := by
  have hval : (BitVec.ofNat 8 b.val).toNat = b.val := by
    rw [BitVec.toNat_ofNat]
    have hlt := b.isLt
    omega
  have hE7 : (eccE7 ≤ BitVec.ofNat 8 b.val) ↔ ¬b.val < 64 := by
    rw [BitVec.le_def, hval]
    exact Nat.not_lt.symm
  unfold correctECC
  rw [verifyECC_flip]
  dsimp only
  rw [if_pos (ofNat_ne_results b)]
  by_cases hdata : b.val < 64
  · have hecc : flipEcc b = 0 := if_pos hdata
    rw [if_neg (fun h => hE7.1 h hdata), if_pos hdata, hval, hecc]
    exact congrArg (fun e => (BitVec.ofNat 8 b.val, _, e)) BitVec.xor_zero
  · have hflip : flipData b = 0 := if_neg hdata
    have hecc : flipEcc b = (1 : BitVec 8) <<< (b.val - 64) := if_neg hdata
    have hshift : (BitVec.ofNat 8 b.val - eccE7).toNat = b.val - 64 := by
      rw [BitVec.toNat_sub_of_le (hE7.2 hdata), hval]
      rfl
    rw [if_pos (hE7.2 hdata), if_neg hdata, hshift, hecc, hflip, BitVec.xor_assoc, BitVec.xor_self, BitVec.xor_zero]
    exact congrArg (fun d => (BitVec.ofNat 8 b.val, d, generateECC data)) BitVec.xor_zero

/-- The shift reaches the lower 32 bits of the data. -/
theorem xor_shiftUl_eq_iff (hb : b.val < 64) :
    data ^^^ flipData b ^^^ (shiftUl undefinedShift (63 - b.val)).setWidth 64 = data ↔ 32 ≤ b.val := by
  have hflip : flipData b = (1 : BitVec 64) <<< (63 - b.val) := if_pos hb
  have hcancel : ∀ mask : BitVec 64, data ^^^ mask = data ↔ mask = 0#64 := by
    intro mask
    have hcancel := BitVec.xor_right_inj (x := mask) (y := 0#64) data
    rwa [BitVec.xor_zero] at hcancel
  rw [BitVec.xor_assoc, hcancel, BitVec.xor_eq_zero_iff, hflip]
  constructor
  · intro h
    by_contra hlow
    -- bit 63 - b of the mask is beyond the 32 bits
    have hbit := congrArg (fun x => x.getLsbD (63 - b.val)) h
    rw [BitVec.getLsbD_setWidth, BitVec.getLsbD_of_ge (shiftUl undefinedShift (63 - b.val)) _ (by omega), Bool.and_false,
      show (1 : BitVec 64) = 1#64 from rfl, ← BitVec.twoPow_eq, BitVec.getLsbD_twoPow] at hbit
    have hlt : 63 - b.val < 64 := by omega
    simp [hlt] at hbit
  · intro hle
    have hreach : ∀ n : Fin 32, (1 : BitVec 64) <<< n.val = ((1 : BitVec 32) <<< n.val).setWidth 64 := by decide
    have hlt : 63 - b.val < 32 := by omega
    unfold shiftUl
    rw [if_pos hlt]
    exact hreach ⟨63 - b.val, hlt⟩

theorem corrects_iff : Corrects undefinedShift data b ↔ 32 ≤ b.val := by
  unfold Corrects
  rw [correctECC_flip]
  by_cases hdata : b.val < 64
  · rw [if_pos hdata, ← xor_shiftUl_eq_iff hdata]
    constructor
    · intro h
      exact (Prod.ext_iff.1 (Prod.ext_iff.1 h).2).1
    · intro h
      rw [h]
  · rw [if_neg hdata]
    exact ⟨fun _ => by omega, fun _ => rfl⟩

theorem detects (hne : b ≠ c) : Detects undefinedShift data b c := by
  unfold Detects correctECC
  rw [verifyECC_flip_two data hne]
  rfl

end

/-! ## Streams -/

/-- A group of nine bytes with at most one bit flipped. -/
def flipGroup (group : List (BitVec 8)) : Option (Fin 72) → List (BitVec 8)
  | none => group
  | some b => Bytes.ofWord 8 (Bytes.toWord 64 (group.take 8) ^^^ flipData b) ++ [group.getD 8 0 ^^^ flipEcc b]

/-- A stream with at most one bit flipped in each group of nine bytes. -/
def flipStream (s : List (BitVec 8)) : List (Option (Fin 72)) → List (BitVec 8)
  | [] => []
  | f :: flips => flipGroup (s.take 9) f ++ flipStream (s.drop 9) flips

/-- The status of a stream in which some bits have been flipped. -/
def statusOf (flips : List (Option (Fin 72))) : EccStatus := if flips.all (· = none) then .clean else .corrected

section
variable {undefinedShift : Nat → BitVec 32} {s : List (BitVec 8)} {flips : List (Option (Fin 72))} {rc : EccStatus}

theorem flipGroup_eq {bytes : List (BitVec 8)} (hlen : bytes.length = 8) (ecc : BitVec 8) (f : Option (Fin 72)) :
    flipGroup (bytes ++ [ecc]) f =
      Bytes.ofWord 8 (Bytes.toWord 64 bytes ^^^ f.elim 0 flipData) ++ [ecc ^^^ f.elim 0 flipEcc] := by
  cases f with
  | none =>
    have hdata : Bytes.toWord 64 bytes ^^^ 0 = Bytes.toWord 64 bytes := BitVec.xor_zero
    have hecc : ecc ^^^ 0 = ecc := BitVec.xor_zero
    show bytes ++ [ecc] = Bytes.ofWord 8 (Bytes.toWord 64 bytes ^^^ 0) ++ [ecc ^^^ 0]
    rw [hdata, hecc, Bytes.ofWord_toWord hlen (by decide)]
  | some b =>
    have htake : (bytes ++ [ecc]).take 8 = bytes := List.take_left' hlen
    have hget : (bytes ++ [ecc]).getD 8 0 = ecc := by
      rw [List.getD_append_right _ _ _ _ (by rw [hlen]), hlen]
      rfl
    show Bytes.ofWord 8 (Bytes.toWord 64 ((bytes ++ [ecc]).take 8) ^^^ flipData b) ++ [(bytes ++ [ecc]).getD 8 0 ^^^ flipEcc b] = _
    rw [htake, hget]
    rfl

theorem removeWords_cons {bytes : List (BitVec 8)} (hlen : bytes.length = 8) (ecc : BitVec 8) (rest : List (BitVec 8)) (n : Nat) :
    removeWords undefinedShift rc (bytes ++ [ecc] ++ rest) (n + 1) =
      let (badBit, data, ecc') := correctECC undefinedShift (Bytes.toWord 64 bytes) ecc
      let fixed := badBit ≠ eccUe ∧ badBit ≠ eccGd
      let rc := if badBit = eccUe then .uncorrectable
        else if badBit ≠ eccGd then if rc ≠ .uncorrectable then .corrected else rc
        else rc
      let (rc, src', dst) := removeWords undefinedShift rc rest n
      (rc, (if fixed then Bytes.ofWord 8 data ++ [ecc'] else bytes ++ [ecc]) ++ src', Bytes.ofWord 8 data ++ dst) := by
  have hlen' : (bytes ++ [ecc]).length = 9 := by rw [List.length_append, hlen]; rfl
  have htake : (bytes ++ [ecc] ++ rest).take 8 = bytes := by rw [List.append_assoc]; exact List.take_left' hlen
  have hget : (bytes ++ [ecc] ++ rest).getD 8 0 = ecc := by
    rw [List.append_assoc, List.getD_append_right _ _ _ _ (by rw [hlen]), hlen]
    rfl
  have htake' : (bytes ++ [ecc] ++ rest).take 9 = bytes ++ [ecc] := List.take_left' hlen'
  have hdrop : (bytes ++ [ecc] ++ rest).drop 9 = rest := List.drop_left' hlen'
  rw [removeWords, htake, hget, htake', hdrop]

/-- A group with at most one flipped bit: the status, and when the data are those that the ECC was made for. -/
theorem removeWords_group {bytes : List (BitVec 8)} (hlen : bytes.length = 8) (f : Option (Fin 72))
    (hrc : rc ≠ .uncorrectable) (rest : List (BitVec 8)) (n : Nat) :
    ∃ rc' group data, rc' = (if f = none then rc else .corrected) ∧
      removeWords undefinedShift rc (flipGroup (bytes ++ [generateECC (Bytes.toWord 64 bytes)]) f ++ rest) (n + 1) =
        ((removeWords undefinedShift rc' rest n).1, group ++ (removeWords undefinedShift rc' rest n).2.1,
          Bytes.ofWord 8 data ++ (removeWords undefinedShift rc' rest n).2.2) ∧
      (data = Bytes.toWord 64 bytes ↔ ∀ b, f = some b → 32 ≤ b.val) := by
  cases f with
  | none =>
    refine ⟨rc, bytes ++ [generateECC (Bytes.toWord 64 bytes)], Bytes.toWord 64 bytes, rfl, ?_, ⟨fun _ => nofun, fun _ => rfl⟩⟩
    show removeWords undefinedShift rc (bytes ++ [generateECC (Bytes.toWord 64 bytes)] ++ rest) (n + 1) = _
    rw [removeWords_cons hlen, correctECC_clean]
    rfl
  | some b =>
    obtain ⟨hgd, hue⟩ := ofNat_ne_results b
    rw [flipGroup_eq hlen, removeWords_cons (Bytes.length_ofWord 8 _), Bytes.toWord_ofWord _ (by decide)]
    dsimp only [Option.elim_some]
    rw [correctECC_flip]
    dsimp only
    rw [if_neg hue, if_pos hgd, if_pos hrc, if_pos (show _ ≠ eccUe ∧ _ ≠ eccGd from ⟨hue, hgd⟩)]
    refine ⟨.corrected, _, _, rfl, rfl, ?_⟩
    by_cases hdata : b.val < 64
    · rw [if_pos hdata, xor_shiftUl_eq_iff hdata]
      exact ⟨fun hle c hc => by cases hc; exact hle, fun h => h b rfl⟩
    · rw [if_neg hdata]
      exact ⟨fun _ c hc => by cases hc; omega, fun _ => rfl⟩

/-- The loop of `removeECC` over a stream with at most one bit flipped in each group. -/
theorem removeWords_flipStream (flips : List (Option (Fin 72))) {s : List (BitVec 8)} (hlen : s.length = 8 * flips.length)
    (hrc : rc ≠ .uncorrectable) : ∃ src' dst,
    removeWords undefinedShift rc (flipStream (injectWords s flips.length) flips) flips.length =
      (if flips.all (· = none) then rc else .corrected, src', dst) ∧
    (dst = s ↔ ∀ b, some b ∈ flips → 32 ≤ b.val) := by
  induction flips generalizing s rc with
  | nil =>
    obtain rfl := List.length_eq_zero_iff.1 hlen
    exact ⟨[], [], rfl, ⟨fun _ b hb => absurd hb List.not_mem_nil, fun _ => rfl⟩⟩
  | cons f flips ih =>
    rw [List.length_cons] at hlen
    have hword : (s.take 8).length = 8 := by rw [List.length_take]; omega
    have hrest : (s.drop 8).length = 8 * flips.length := by rw [List.length_drop]; omega
    have hnine : (s.take 8 ++ [generateECC (Bytes.toWord 64 (s.take 8))]).length = 9 := by
      rw [List.length_append, hword]
      rfl
    have hstream : flipStream (injectWords s (f :: flips).length) (f :: flips) =
        flipGroup (s.take 8 ++ [generateECC (Bytes.toWord 64 (s.take 8))]) f ++
          flipStream (injectWords (s.drop 8) flips.length) flips := by
      rw [List.length_cons, injectWords, flipStream, List.take_left' hnine, List.drop_left' hnine]
    obtain ⟨rc', group, data, hrc', hgroup, hdata⟩ := @removeWords_group undefinedShift _ _ hword f hrc
      (flipStream (injectWords (s.drop 8) flips.length) flips) flips.length
    have hne : rc' ≠ .uncorrectable := by
      rw [hrc']
      split
      · exact hrc
      · exact nofun
    obtain ⟨src', dst, hloop, hdst⟩ := ih hrest hne
    rw [hstream, List.length_cons, hgroup, hloop]
    refine ⟨_, _, Prod.ext_iff.2 ⟨?_, rfl⟩, ?_⟩
    · cases f with
      | none =>
        rw [hrc']
        simp
      | some b =>
        rw [hrc']
        simp
    · -- the destination is the source when its first word and the rest are
      have hbytes : Bytes.ofWord 8 data = s.take 8 ↔ data = Bytes.toWord 64 (s.take 8) := by
        constructor
        · intro h
          rw [← h, Bytes.toWord_ofWord _ (by decide)]
        · intro h
          rw [h, Bytes.ofWord_toWord hword (by decide)]
      have hsplit : Bytes.ofWord 8 data ++ dst = s ↔ Bytes.ofWord 8 data = s.take 8 ∧ dst = s.drop 8 := by
        constructor
        · intro h
          have happ : Bytes.ofWord 8 data ++ dst = s.take 8 ++ s.drop 8 := by rw [h, List.take_append_drop]
          exact List.append_inj happ (by rw [Bytes.length_ofWord, hword])
        · rintro ⟨hfirst, hrest⟩
          rw [hfirst, hrest, List.take_append_drop]
      rw [hsplit, hbytes, hdata, hdst]
      constructor
      · rintro ⟨hfirst, hothers⟩ b hb
        obtain hb | hb := List.mem_cons.1 hb
        · exact hfirst b hb.symm
        · exact hothers b hb
      · intro hall
        exact ⟨fun b hb => hall b (hb ▸ List.mem_cons_self), fun b hb => hall b (List.mem_cons_of_mem f hb)⟩

end

/-! ## SEC-DED -/

section
variable (undefinedShift : Nat → BitVec 32)

/-- Removing the ECC gives back the bytes that it was injected into, with the status of the bits flipped since. -/
def Restores (s : List (BitVec 8)) (flips : List (Option (Fin 72))) : Prop :=
  ∃ sEcc src', injectECC s = some sEcc ∧
    removeECC undefinedShift (flipStream sEcc flips) s.length = some (statusOf flips, src', s)

theorem restores_iff {s : List (BitVec 8)} {flips : List (Option (Fin 72))} (hlen : s.length = 8 * flips.length) :
    Restores undefinedShift s flips ↔ ∀ b, some b ∈ flips → 32 ≤ b.val := by
  have hmod : s.length % 8 = 0 := by omega
  have hdiv : s.length / 8 = flips.length := by omega
  have hinject : injectECC s = some (injectWords s flips.length) := by
    unfold injectECC
    rw [if_neg (not_not.2 hmod), hdiv]
  obtain ⟨src', dst, hloop, hdst⟩ := @removeWords_flipStream undefinedShift .clean flips _ hlen nofun
  have hremove : removeECC undefinedShift (flipStream (injectWords s flips.length) flips) s.length =
      some (statusOf flips, src', dst) := by
    unfold removeECC statusOf
    rw [if_neg (not_not.2 hmod), hdiv, hloop]
  rw [← hdst]
  constructor
  · rintro ⟨sEcc, src'', hsEcc, hrestored⟩
    rw [hinject] at hsEcc
    cases hsEcc
    rw [hremove] at hrestored
    exact (Prod.ext_iff.1 (Prod.ext_iff.1 (Option.some.inj hrestored)).2).2
  · intro h
    refine ⟨_, src', hinject, ?_⟩
    rw [hremove, h]

/-- A flipped bit is corrected, alone or in a stream, exactly when it is not in the upper half of the data; two are always
detected. -/
theorem pnorEcc : (∀ data b, Corrects undefinedShift data b ↔ 32 ≤ b.val) ∧
    (∀ data b c, b ≠ c → Detects undefinedShift data b c) ∧
    ∀ s flips, s.length = 8 * flips.length →
      (Restores undefinedShift s flips ↔ ∀ b, some b ∈ flips → 32 ≤ b.val) :=
  ⟨fun _ _ => corrects_iff, fun _ _ _ hne => detects hne, fun _ _ hlen => restores_iff undefinedShift hlen⟩

end

/-- Shifting by 32 or more gives zero, as the GPE's instruction does. -/
def zeroShift : Nat → BitVec 32 := fun _ => 0

theorem pnorEcc_lowBit : Corrects zeroShift 0xDEADBEEF00C0FFEE 45 ∧ Detects zeroShift 0 0 71 ∧
    Restores zeroShift [0x13, 0x57, 0x9B, 0xDF, 0x02, 0x46, 0x8A, 0xCE, 1, 2, 3, 4, 5, 6, 7, 8] [some 63, none] :=
  have h := pnorEcc zeroShift
  ⟨(h.1 _ _).2 (by decide), h.2.1 _ _ _ (by decide), (h.2.2 _ _ rfl).2 (by decide)⟩

/-- The highest bit of the data is reported as corrected, and is not. -/
theorem not_corrects_highBit : correctECC zeroShift (0 ^^^ flipData 0) (generateECC 0 ^^^ flipEcc 0) =
    (0, 0x8000000000000000, generateECC 0) ∧ ¬Corrects zeroShift 0 0 := by
  have hflip := @correctECC_flip zeroShift 0 0
  constructor
  · rw [hflip]
    rfl
  · rw [corrects_iff]
    decide

end Occ.Firdata
