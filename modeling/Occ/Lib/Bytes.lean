/-
Words and their bytes, the highest byte first: the bytes of a word give the word back, and a word's bytes are those it
was made of.
-/
import Mathlib.Data.BitVec
import Mathlib.Data.List.GetD
import Mathlib.Tactic.Common

namespace Occ.Bytes

variable {w n : Nat}

/-- The lower `n` bytes of a word. -/
def ofWord (n : Nat) (x : BitVec w) : List (BitVec 8) :=
  (List.range n).map fun i => x.extractLsb' (8 * (n - 1 - i)) 8

/-- The word of some bytes. -/
def toWord (w : Nat) (bs : List (BitVec 8)) : BitVec w :=
  bs.foldl (fun x b => x <<< 8 ||| b.setWidth w) 0

@[simp] theorem length_ofWord (n : Nat) (x : BitVec w) : (ofWord n x).length = n := by
  simp [ofWord]

theorem toWord_concat (bs : List (BitVec 8)) (b : BitVec 8) :
    toWord w (bs ++ [b]) = toWord w bs <<< 8 ||| b.setWidth w := by
  simp [toWord]

/-- A bit of the word is a bit of one of its bytes. -/
theorem getLsbD_toWord (bs : List (BitVec 8)) (i : Nat) : (toWord w bs).getLsbD i =
    (decide (i < w) && decide (i < 8 * bs.length) && (bs.getD (bs.length - 1 - i / 8) 0).getLsbD (i % 8)) := by
  induction bs using List.reverseRecOn generalizing i with
  | nil => simp [toWord]
  | append_singleton bs b ih =>
    rw [toWord_concat, BitVec.getLsbD_or, BitVec.getLsbD_shiftLeft, BitVec.getLsbD_setWidth, ih, List.length_append,
      List.length_singleton]
    by_cases hlow : i < 8
    · have hdiv : i / 8 = 0 := by omega
      have hmod : i % 8 = i := by omega
      have hlast : (bs ++ [b]).getD (bs.length + 1 - 1 - 0) 0 = b := by simp
      have hin : i < 8 * (bs.length + 1) := by omega
      rw [hdiv, hmod, hlast]
      simp [hlow, hin]
    · -- a bit of an earlier byte
      have hb : b.getLsbD i = false := BitVec.getLsbD_of_ge b i (by omega)
      have hpos : 1 ≤ i / 8 := by omega
      have hdiv : (i - 8) / 8 = i / 8 - 1 := by omega
      have hmod : (i - 8) % 8 = i % 8 := by omega
      rw [hb, hdiv, hmod]
      by_cases hin : i < 8 * (bs.length + 1)
      · have hidx : bs.length + 1 - 1 - i / 8 < bs.length := by omega
        have hidx' : bs.length - 1 - (i / 8 - 1) = bs.length + 1 - 1 - i / 8 := by omega
        rw [hidx', List.getD_append _ _ _ _ hidx]
        have hin' : i - 8 < 8 * bs.length := by omega
        by_cases hiw : i < w
        · have hiw' : i - 8 < w := by omega
          simp [hlow, hin, hin', hiw, hiw']
        · simp [hiw]
      · have hin' : ¬i - 8 < 8 * bs.length := by omega
        simp [hin, hin']

theorem getLsbD_ofWord {x : BitVec w} {i j : Nat} (hi : i < n) :
    ((ofWord n x).getD i 0).getLsbD j = (decide (j < 8) && x.getLsbD (8 * (n - 1 - i) + j)) := by
  unfold ofWord
  rw [List.getD_eq_getElem _ _ (by simpa using hi), List.getElem_map, List.getElem_range, BitVec.getLsbD_extractLsb']

/-- The bytes of a word give it back. -/
theorem toWord_ofWord (x : BitVec w) (hw : w ≤ 8 * n) : toWord w (ofWord n x) = x := by
  apply BitVec.eq_of_getLsbD_eq
  intro i hi
  rw [getLsbD_toWord, length_ofWord, getLsbD_ofWord (by omega)]
  have hidx : 8 * (n - 1 - (n - 1 - i / 8)) + i % 8 = i := by omega
  have hlt : i % 8 < 8 := by omega
  have hin : i < 8 * n := by omega
  rw [hidx]
  simp [hi, hlt, hin]

/-- A word's bytes are those it was made of. -/
theorem ofWord_toWord {bs : List (BitVec 8)} (hlen : bs.length = n) (hw : 8 * n ≤ w) : ofWord n (toWord w bs) = bs := by
  apply List.ext_getElem (by rw [length_ofWord, hlen])
  intro i hi hi'
  rw [length_ofWord] at hi
  apply BitVec.eq_of_getLsbD_eq
  intro j hj
  have hget := getLsbD_ofWord (x := toWord w bs) (j := j) hi
  rw [List.getD_eq_getElem _ _ (by simpa using hi)] at hget
  rw [hget, getLsbD_toWord, hlen]
  have hdiv : (8 * (n - 1 - i) + j) / 8 = n - 1 - i := by omega
  have hmod : (8 * (n - 1 - i) + j) % 8 = j := by omega
  have hidx : n - 1 - (n - 1 - i) = i := by omega
  have hw' : 8 * (n - 1 - i) + j < w := by omega
  have hn : 8 * (n - 1 - i) + j < 8 * n := by omega
  rw [hdiv, hmod, hidx, List.getD_eq_getElem _ _ hi']
  simp [hj, hw', hn]

end Occ.Bytes
