/-
What a part of a trace buffer says: the header of the copy describes it, and its data area holds the newest bytes that were
traced, as many as there is room for.
-/
import Occ.Lib.Overlay
import Occ.Trac.Copy

namespace Occ.Trac

open Occ.Staged (Byte Memory)
open Occ.Overlay (block overlay)

/-! ## The law -/

/-- The bytes of all entries. -/
def stream (calls : List (TraceCall × Bool)) : List Byte := (calls.map fun c => c.1.entry c.2).flatten

/-- The last `n` bytes. -/
def newest (n : Nat) (bs : List Byte) : List Byte := bs.drop (bs.length - n)

/-- The words of a header that change. -/
structure CopyHeader (out : Memory) (size timesWrap nextFree : BitVec 32) : Prop where
  size : block out 20 4 = Bytes.ofWord 4 size
  timesWrap : block out 24 4 = Bytes.ofWord 4 timesWrap
  nextFree : block out 28 4 = Bytes.ofWord 4 nextFree

/-- The data area as its header tells a reader: a buffer that has wrapped begins at `next_free`, up to its size. -/
def readOut (out : Memory) (size timesWrap nextFree : BitVec 32) : List Byte :=
  if timesWrap = 0 then block out 40 (nextFree.toNat - 40)
  else block out nextFree.toNat (size.toNat - nextFree.toNat) ++ block out 40 (nextFree.toNat - 40)

/-- What a reader gets from a copy of some bytes. -/
def Copied (copy : TraceCopy) (m : Memory) (bs : List Byte) : Prop :=
  ∃ size timesWrap nextFree, CopyHeader (overlay m copy.writes) size timesWrap nextFree ∧ size.toNat = copy.size ∧
    40 ≤ nextFree.toNat ∧ nextFree.toNat ≤ size.toNat ∧ readOut (overlay m copy.writes) size timesWrap nextFree = bs

/-- A copy of `ioSize` bytes to the memory `m`. -/
structure CopyLaw (b : TraceBuf) (written : List Byte) (ioSize : Nat) (m : Memory) (copy : TraceCopy) : Prop where
  inside : ∀ w ∈ copy.writes, w.1 + w.2.length ≤ ioSize
  source : ∀ data : Memory, (∀ i < traceBufferSize, data i = b.data i) →
    tracGetBufferPartial true { b with data := data } ioSize = copy
  copied : written ≠ [] ∨ ioSize = traceBufferSize → Copied copy m (newest (min (ioSize - 40) written.length) written)
  empty : written = [] → ioSize < traceBufferSize → copy.size = 0 ∧ block (overlay m copy.writes) 0 40 = b.headBytes

/-! ## The newest bytes in the ring -/

theorem newest_min (n : Nat) (bs : List Byte) : newest (min n bs.length) bs = newest n bs := by
  unfold newest
  congr 1
  omega

namespace Ringed

variable {b : TraceBuf} {written : List Byte} {n : Nat}

theorem slot (h : Ringed b written n) {j : Nat} (hj : j < written.length) (hlow : written.length ≤ j + dataAreaSize) :
    written[j]? = some (b.data (40 + j % dataAreaSize)) := by
  have hslot := h.window.slots (dataAreaSize + j) (by omega)
    (by rw [List.length_append, List.length_replicate]; omega)
  rw [List.getElem?_append_right (by rw [List.length_replicate]; omega), List.length_replicate,
    Nat.add_sub_cancel_left, Nat.zero_add, Nat.add_mod_left] at hslot
  exact hslot

/-- The bytes up to `next_free` are the newest. -/
theorem newest_below (h : Ringed b written n) {w r k : Nat} (htotal : written.length = dataAreaSize * w + r)
    (hr : r ≤ dataAreaSize) (hk : k ≤ r) : block b.data (40 + r - k) k = newest k written := by
  have harea : dataAreaSize = 8152 := rfl
  apply List.ext_getElem?
  intro i
  unfold newest
  by_cases hi : i < k
  · have hmod : (written.length - k + i) % dataAreaSize = r - k + i := by
      have hplace : written.length - k + i = dataAreaSize * w + (r - k + i) := by omega
      rw [hplace, Nat.mul_add_mod, Nat.mod_eq_of_lt (by omega)]
    rw [Overlay.getElem?_block hi, List.getElem?_drop, h.slot (by omega) (by omega), hmod]
    congr 2
    omega
  · rw [List.getElem?_eq_none (by rw [Overlay.length_block]; omega), List.getElem?_eq_none]
    rw [List.length_drop]
    omega

/-- Those at the end of the buffer come before them when it has wrapped. -/
theorem newest_around (h : Ringed b written n) {w r k : Nat} (htotal : written.length = dataAreaSize * (w + 1) + r)
    (hk : k + r ≤ dataAreaSize) :
    block b.data (traceBufferSize - k) k ++ block b.data 40 r = newest (k + r) written := by
  have harea : dataAreaSize = 8152 := rfl
  have hsize : traceBufferSize = 8192 := rfl
  rw [Nat.mul_succ] at htotal
  have hlow : block b.data 40 r = newest r written := by
    have := @newest_below b written n h (w + 1) r r (by rw [Nat.mul_succ]; omega) (by omega) (Nat.le_refl r)
    rwa [Nat.add_sub_cancel] at this
  have hsplit : newest (k + r) written = (newest (k + r) written).take k ++ newest r written := by
    have hdrop : newest r written = (newest (k + r) written).drop k := by
      unfold newest
      rw [List.drop_drop]
      congr 1
      omega
    rw [hdrop, List.take_append_drop]
  rw [hlow, hsplit]
  congr 1
  apply List.ext_getElem?
  intro i
  by_cases hi : i < k
  · have hmod : (written.length - (k + r) + i) % dataAreaSize = dataAreaSize - k + i := by
      have hplace : written.length - (k + r) + i = dataAreaSize * w + (dataAreaSize - k + i) := by omega
      rw [hplace, Nat.mul_add_mod, Nat.mod_eq_of_lt (by omega)]
    rw [Overlay.getElem?_block hi, List.getElem?_take_of_lt hi, newest, List.getElem?_drop, h.slot (by omega) (by omega),
      hmod]
    congr 2
    omega
  · rw [List.getElem?_eq_none (by rw [Overlay.length_block]; omega), List.getElem?_eq_none]
    rw [List.length_take]
    omega

end Ringed

/-! ## The header -/

theorem drop_take_append {pre mid post : List Byte} {n k : Nat} (hpre : pre.length = n) (hmid : mid.length = k) :
    ((pre ++ (mid ++ post)).drop n).take k = mid := by
  subst hpre
  subst hmid
  rw [List.drop_left, List.take_left]

/-- The words of a header of 40 bytes. -/
theorem headBytes_words {b : TraceBuf} (h : b.headBytes.length = 40) :
    (b.headBytes.drop 20).take 4 = Bytes.ofWord 4 b.size ∧ (b.headBytes.drop 24).take 4 = Bytes.ofWord 4 b.timesWrap ∧
      (b.headBytes.drop 28).take 4 = Bytes.ofWord 4 b.nextFree := by
  have hcomp : b.comp.length = 16 := by
    rw [length_headBytes] at h
    omega
  have hword : ∀ x : BitVec 32, (Bytes.ofWord 4 x).length = 4 := Bytes.length_ofWord 4
  have hfirst : ([b.ver, b.hdrLen, b.timeFlg, b.endianFlg] ++ b.comp).length = 20 := by
    rw [List.length_append, hcomp]
    rfl
  have hsecond : ([b.ver, b.hdrLen, b.timeFlg, b.endianFlg] ++ b.comp ++ Bytes.ofWord 4 b.size).length = 24 := by
    rw [List.length_append, hfirst, hword]
  have hthird : ([b.ver, b.hdrLen, b.timeFlg, b.endianFlg] ++ b.comp ++ Bytes.ofWord 4 b.size ++
      Bytes.ofWord 4 b.timesWrap).length = 28 := by
    rw [List.length_append, hsecond, hword]
  unfold TraceBuf.headBytes
  refine ⟨?_, ?_, ?_⟩
  · rw [List.append_assoc _ _ (Bytes.ofWord 4 b.extracted), List.append_assoc _ _ (Bytes.ofWord 4 b.teCount ++ _),
      List.append_assoc _ (Bytes.ofWord 4 b.timesWrap), List.append_assoc _ (Bytes.ofWord 4 b.size)]
    exact drop_take_append hfirst (hword _)
  · rw [List.append_assoc _ _ (Bytes.ofWord 4 b.extracted), List.append_assoc _ _ (Bytes.ofWord 4 b.teCount ++ _),
      List.append_assoc _ (Bytes.ofWord 4 b.timesWrap)]
    exact drop_take_append hsecond (hword _)
  · rw [List.append_assoc _ _ (Bytes.ofWord 4 b.extracted), List.append_assoc _ _ (Bytes.ofWord 4 b.teCount ++ _)]
    exact drop_take_append hthird (hword _)

theorem tracWriteData_size (b : TraceBuf) (bs : List Byte) : (tracWriteData b bs).1.size = b.size := by
  unfold tracWriteData
  dsimp only
  split
  · rfl
  · split
    · rfl
    · rfl

theorem tracedBuf_size (comp : TraceComp) (calls : List (TraceCall × Bool)) : (tracedBuf comp calls).size = 8192 := by
  have hfold : ∀ (es : List (List Byte)) (b : TraceBuf), (es.foldl TraceBuf.writeEntry b).size = b.size := by
    intro es
    induction es with
    | nil =>
      intro b
      rfl
    | cons e es ih =>
      intro b
      rw [List.foldl_cons, ih]
      exact tracWriteData_size { b with teCount := b.teCount + 1 } e
  exact hfold _ _

/-! ## The regimes -/

section
variable {b : TraceBuf} {ioSize : Nat} {m : Memory}

theorem partial_full (hsize : traceBufferSize ≤ ioSize) : tracGetBufferPartial true b ioSize =
    ⟨[(0, List.replicate ioSize 0), (0, b.headBytes ++ block b.data 40 8152)], traceBufferSize⟩ := by
  have hroom : ¬ioSize < traceBufHeadSize := Nat.not_lt.2 (Nat.le_trans (by decide) hsize)
  unfold tracGetBufferPartial
  rw [if_neg hroom, if_neg (by decide), if_pos hsize]
  rfl

variable (hhdr : b.hdrLen = 40) (hlow : 40 ≤ ioSize) (hpart : ioSize < traceBufferSize)
include hhdr hlow hpart

theorem partial_none (hnext : b.nextFree.toNat = 40) (hwrap : b.timesWrap = 0) : tracGetBufferPartial true b ioSize =
    ⟨[(0, List.replicate ioSize 0), (0, b.headBytes.take 40)], 0⟩ := by
  have hfree : b.nextFree = b.hdrLen.setWidth 32 := by
    rw [hhdr]
    exact BitVec.eq_of_toNat_eq hnext
  unfold tracGetBufferPartial
  rw [if_neg (show ¬ioSize < traceBufHeadSize from Nat.not_lt.2 hlow), if_neg (by decide)]
  dsimp only
  rw [if_neg (Nat.not_le.2 hpart), if_pos ⟨hfree, hwrap⟩, hhdr]
  rfl

/-- The data up to `next_free` do not fit. -/
theorem partial_cut (hnext : ioSize < b.nextFree.toNat) : tracGetBufferPartial true b ioSize =
    ⟨[(0, List.replicate ioSize 0), (0, b.headBytes.take 40),
      (40, block b.data (b.nextFree.toNat - (ioSize - 40)) (ioSize - 40)), (20, Bytes.ofWord 4 (BitVec.ofNat 32 ioSize)),
      (28, Bytes.ofWord 4 (40 : BitVec 32)),
      (24, Bytes.ofWord 4 (if b.timesWrap = 0 then 1 else b.timesWrap))], ioSize⟩ := by
  have hdata : ¬(b.nextFree = b.hdrLen.setWidth 32 ∧ b.timesWrap = 0) := by
    rintro ⟨hfree, -⟩
    have hforty : b.nextFree.toNat = 40 := by
      rw [hfree, hhdr]
      rfl
    omega
  unfold tracGetBufferPartial
  rw [if_neg (show ¬ioSize < traceBufHeadSize from Nat.not_lt.2 hlow), if_neg (by decide)]
  dsimp only
  rw [if_neg (Nat.not_le.2 hpart), if_neg hdata, if_pos hnext, hhdr]
  rfl

theorem partial_wrapped (hnext : b.nextFree.toNat ≤ ioSize) (hwrap : b.timesWrap ≠ 0) :
    tracGetBufferPartial true b ioSize =
    ⟨[(0, List.replicate ioSize 0), (0, b.headBytes.take 40), (40, block b.data 40 (b.nextFree.toNat - 40)),
      (b.nextFree.toNat, block b.data (traceBufferSize - (ioSize - b.nextFree.toNat)) (ioSize - b.nextFree.toNat)),
      (20, Bytes.ofWord 4 (BitVec.ofNat 32 ioSize))], ioSize⟩ := by
  unfold tracGetBufferPartial
  rw [if_neg (show ¬ioSize < traceBufHeadSize from Nat.not_lt.2 hlow), if_neg (by decide)]
  dsimp only
  rw [if_neg (Nat.not_le.2 hpart), if_neg (fun h => hwrap h.2), if_neg (Nat.not_lt.2 hnext), if_pos hwrap, hhdr]
  rfl

theorem partial_fits (hfree : 40 < b.nextFree.toNat) (hnext : b.nextFree.toNat ≤ ioSize) (hwrap : b.timesWrap = 0) :
    tracGetBufferPartial true b ioSize =
      ⟨[(0, List.replicate ioSize 0), (0, b.headBytes.take 40), (40, block b.data 40 (b.nextFree.toNat - 40)),
        (20, Bytes.ofWord 4 b.nextFree)], b.nextFree.toNat⟩ := by
  have hdata : ¬(b.nextFree = b.hdrLen.setWidth 32 ∧ b.timesWrap = 0) := by
    rintro ⟨heq, -⟩
    have hforty : b.nextFree.toNat = 40 := by
      rw [heq, hhdr]
      rfl
    omega
  unfold tracGetBufferPartial
  rw [if_neg (show ¬ioSize < traceBufHeadSize from Nat.not_lt.2 hlow), if_neg (by decide)]
  dsimp only
  rw [if_neg (Nat.not_le.2 hpart), if_neg hdata, if_neg (Nat.not_lt.2 hnext), if_neg (fun h => h hwrap), hhdr]
  rfl

end

/-! ## What a reader gets -/

section
variable {b : TraceBuf} {written : List Byte} {n ioSize : Nat} {m out : Memory}

theorem head_words (h : b.headBytes.length = 40) :
    CopyHeader (Staged.write m 0 (b.headBytes.take 40)) b.size b.timesWrap b.nextFree := by
  have htake : b.headBytes.take 40 = b.headBytes := List.take_of_length_le (Nat.le_of_eq h)
  obtain ⟨hsize, hwrap, hnext⟩ := headBytes_words h
  rw [htake]
  constructor
  · rw [Overlay.block_write_inside (by omega) (by omega)]
    exact hsize
  · rw [Overlay.block_write_inside (by omega) (by omega)]
    exact hwrap
  · rw [Overlay.block_write_inside (by omega) (by omega)]
    exact hnext

theorem CopyHeader.write {size timesWrap nextFree : BitVec 32} {a : Nat} {bs : List Byte}
    (h : CopyHeader m size timesWrap nextFree) (ha : 40 ≤ a) :
    CopyHeader (Staged.write m a bs) size timesWrap nextFree := by
  constructor
  · rw [Overlay.block_write_apart (.inl (by omega))]
    exact h.size
  · rw [Overlay.block_write_apart (.inl (by omega))]
    exact h.timesWrap
  · rw [Overlay.block_write_apart (.inl (by omega))]
    exact h.nextFree

theorem CopyHeader.setSize {size timesWrap nextFree size' : BitVec 32} (h : CopyHeader m size timesWrap nextFree) :
    CopyHeader (Staged.write m 20 (Bytes.ofWord 4 size')) size' timesWrap nextFree := by
  have hlen : (Bytes.ofWord 4 size').length = 4 := Bytes.length_ofWord 4 size'
  constructor
  · exact Overlay.block_write_self hlen
  · rw [Overlay.block_write_apart (.inr (by omega))]
    exact h.timesWrap
  · rw [Overlay.block_write_apart (.inr (by omega))]
    exact h.nextFree

/-- Where there are no older data, all bytes are below `next_free`. -/
theorem Ringed.flat (h : Ringed b written n) (hwrap : wraps written.length = 0) :
    written.length = b.nextFree.toNat - 40 ∧ block b.data 40 (b.nextFree.toNat - 40) = written := by
  obtain ⟨r, hnext, htotal, hr, -⟩ := h.place
  have hhead : traceBufHeadSize = 40 := rfl
  rw [hwrap, Nat.mul_zero, Nat.zero_add] at htotal
  have hbelow := @newest_below b written n h 0 r r (by omega) hr (Nat.le_refl r)
  rw [Nat.add_sub_cancel, ← htotal, newest, Nat.sub_self, List.drop_zero] at hbelow
  have hroom : b.nextFree.toNat - 40 = written.length := by omega
  rw [hroom]
  exact ⟨rfl, hbelow⟩

theorem readOut_around (h : Ringed b written n) (hwrap : b.timesWrap ≠ 0) (size : BitVec 32)
    (hnext : b.nextFree.toNat ≤ size.toNat) (hsize : size.toNat ≤ traceBufferSize)
    (hfirst : block out 40 (b.nextFree.toNat - 40) = block b.data 40 (b.nextFree.toNat - 40))
    (hsecond : block out b.nextFree.toNat (size.toNat - b.nextFree.toNat) =
      block b.data (traceBufferSize - (size.toNat - b.nextFree.toNat)) (size.toNat - b.nextFree.toNat)) :
    readOut out size b.timesWrap b.nextFree = newest (size.toNat - 40) written := by
  obtain ⟨r, hplace, htotal, hr, -⟩ := h.place
  have hhead : traceBufHeadSize = 40 := rfl
  have hbuf : traceBufferSize = 8192 := rfl
  have harea : dataAreaSize = 8152 := rfl
  obtain ⟨w, hw⟩ : ∃ w, wraps written.length = w + 1 := by
    refine Nat.exists_eq_add_of_le' (Nat.pos_of_ne_zero fun hzero => hwrap ?_)
    rw [h.timesWrap, hzero]
    rfl
  rw [hw] at htotal
  have haround := h.newest_around (k := size.toNat - b.nextFree.toNat) htotal (by omega)
  have hr' : b.nextFree.toNat - 40 = r := by omega
  have hall : size.toNat - b.nextFree.toNat + r = size.toNat - 40 := by omega
  unfold readOut
  rw [if_neg hwrap, hfirst, hsecond, hr', haround, hall]

end

/-! ## The copies -/

section
variable {b : TraceBuf} {written : List Byte} {n ioSize : Nat} {m : Memory}
variable (h : Ringed b written n) (hready : CopyReady b) (hwrap : b.timesWrap = 0 → wraps written.length = 0)
include h hready hwrap

theorem copied_full (hsize : b.size = 8192) (hfull : ioSize = traceBufferSize) :
    Copied (tracGetBufferPartial true b ioSize) m (newest (ioSize - 40) written) := by
  obtain ⟨hlow, hhigh⟩ := hready.nextFree
  have hbuf : traceBufferSize = 8192 := rfl
  have harea : dataAreaSize = 8152 := rfl
  have hsizeNat : b.size.toNat = 8192 := by
    rw [hsize]
    rfl
  have htake : b.headBytes.take 40 = b.headBytes := List.take_of_length_le (Nat.le_of_eq hready.header)
  rw [partial_full (Nat.le_of_eq hfull.symm)]
  have hout : overlay m [(0, List.replicate ioSize 0), (0, b.headBytes ++ block b.data 40 8152)] =
      Staged.write (Staged.write (Staged.write m 0 (List.replicate ioSize 0)) 0 (b.headBytes.take 40)) 40
        (block b.data 40 8152) := by
    show Staged.write (Staged.write m 0 (List.replicate ioSize 0)) 0 (b.headBytes ++ block b.data 40 8152) = _
    rw [Overlay.write_append, hready.header, htake]
  have hcopy : ∀ a k, 40 ≤ a → a + k ≤ 8192 →
      block (Staged.write (Staged.write (Staged.write m 0 (List.replicate ioSize 0)) 0 (b.headBytes.take 40)) 40
        (block b.data 40 8152)) a k = block b.data a k := by
    intro a k ha hk
    have hplace : 40 + (a - 40) = a := by omega
    rw [Overlay.block_write_inside ha (by rw [Overlay.length_block]; omega), Overlay.block_part (by omega), hplace]
  refine ⟨b.size, b.timesWrap, b.nextFree, ?_, hsizeNat, hlow, by omega, ?_⟩
  · dsimp only
    rw [hout]
    exact (head_words hready.header).write (Nat.le_refl 40)
  · dsimp only
    rw [hout]
    by_cases htimes : b.timesWrap = 0
    · obtain ⟨hlen, hdata⟩ := h.flat (hwrap htimes)
      unfold readOut
      rw [if_pos htimes, hcopy 40 _ (Nat.le_refl 40) (by omega), hdata, newest, Nat.sub_eq_zero_of_le (by omega),
        List.drop_zero]
    · have hread := readOut_around h htimes b.size (by omega) (by omega) (hcopy 40 _ (Nat.le_refl 40) (by omega))
        ((hcopy b.nextFree.toNat (b.size.toNat - b.nextFree.toNat) hlow (by omega)).trans (by congr 1; omega))
      have hroom : b.size.toNat - 40 = ioSize - 40 := by omega
      rw [hread, hroom]

variable (hlow : 40 ≤ ioSize) (hpart : ioSize < traceBufferSize)
include hlow hpart

omit hready hwrap in
theorem copied_cut (hnext : ioSize < b.nextFree.toNat) :
    Copied (tracGetBufferPartial true b ioSize) m (newest (ioSize - 40) written) := by
  have hbuf : traceBufferSize = 8192 := rfl
  have hio : (BitVec.ofNat 32 ioSize).toNat = ioSize := by
    rw [BitVec.toNat_ofNat]
    omega
  have hword : ∀ x : BitVec 32, (Bytes.ofWord 4 x).length = 4 := Bytes.length_ofWord 4
  rw [partial_cut h.hdrLen hlow hpart hnext]
  refine ⟨BitVec.ofNat 32 ioSize, if b.timesWrap = 0 then 1 else b.timesWrap, 40, ?_, hio, Nat.le_refl 40,
    hlow.trans_eq hio.symm, ?_⟩
  · constructor
    · show block (Staged.write (Staged.write (Staged.write _ 20 _) 28 _) 24 _) 20 4 = _
      rw [Overlay.block_write_apart (.inl (by omega)), Overlay.block_write_apart (.inl (by omega)),
        Overlay.block_write_self (hword _)]
    · show block (Staged.write _ 24 _) 24 4 = _
      exact Overlay.block_write_self (hword _)
    · show block (Staged.write (Staged.write _ 28 _) 24 _) 28 4 = _
      rw [Overlay.block_write_apart (.inr (by rw [hword])), Overlay.block_write_self (hword _)]
  · obtain ⟨r, hplace, htotal, hr, -⟩ := h.place
    have hhead : traceBufHeadSize = 40 := rfl
    have htimes : (if b.timesWrap = 0 then 1 else b.timesWrap) ≠ 0 := by
      split
      · decide
      · assumption
    have hnewest := h.newest_below (k := ioSize - 40) htotal hr (by omega)
    have hstart : b.nextFree.toNat - (ioSize - 40) = 40 + r - (ioSize - 40) := by omega
    have hforty : (40 : BitVec 32).toNat = 40 := rfl
    have hdata : block (overlay m [(0, List.replicate ioSize 0), (0, b.headBytes.take 40),
        (40, block b.data (b.nextFree.toNat - (ioSize - 40)) (ioSize - 40)), (20, Bytes.ofWord 4 (BitVec.ofNat 32 ioSize)),
        (28, Bytes.ofWord 4 (40 : BitVec 32)), (24, Bytes.ofWord 4 (if b.timesWrap = 0 then 1 else b.timesWrap))]) 40
        (ioSize - 40) = newest (ioSize - 40) written := by
      show block (Staged.write (Staged.write (Staged.write (Staged.write _ 40 _) 20 _) 28 _) 24 _) 40 (ioSize - 40) = _
      rw [Overlay.block_write_apart (.inr (by rw [hword]; omega)), Overlay.block_write_apart (.inr (by rw [hword]; omega)),
        Overlay.block_write_apart (.inr (by rw [hword]; omega)), Overlay.block_write_self Overlay.length_block, hstart,
        hnewest]
    unfold readOut
    dsimp only
    rw [if_neg htimes, hio, hforty, hdata, Nat.sub_self]
    exact List.append_nil _

omit hwrap in
theorem copied_wrapped (hnext : b.nextFree.toNat ≤ ioSize) (htimes : b.timesWrap ≠ 0) :
    Copied (tracGetBufferPartial true b ioSize) m (newest (ioSize - 40) written) := by
  obtain ⟨hfree, -⟩ := hready.nextFree
  have hbuf : traceBufferSize = 8192 := rfl
  have hio : (BitVec.ofNat 32 ioSize).toNat = ioSize := by
    rw [BitVec.toNat_ofNat]
    omega
  have hword : ∀ x : BitVec 32, (Bytes.ofWord 4 x).length = 4 := Bytes.length_ofWord 4
  rw [partial_wrapped h.hdrLen hlow hpart hnext htimes]
  refine ⟨BitVec.ofNat 32 ioSize, b.timesWrap, b.nextFree, ?_, hio, hfree, hnext.trans_eq hio.symm, ?_⟩
  · exact (((head_words hready.header).write (Nat.le_refl 40)).write hfree).setSize
  · dsimp only
    rw [readOut_around h htimes _, hio]
    · rw [hio]
      exact hnext
    · rw [hio]
      exact Nat.le_of_lt hpart
    · show block (Staged.write (Staged.write (Staged.write _ 40 _) b.nextFree.toNat _) 20 _) 40 _ = _
      rw [Overlay.block_write_apart (.inr (by rw [hword]; omega)), Overlay.block_write_apart (.inl (by omega)),
        Overlay.block_write_self Overlay.length_block]
    · rw [hio]
      show block (Staged.write (Staged.write _ b.nextFree.toNat _) 20 _) b.nextFree.toNat _ = _
      rw [Overlay.block_write_apart (.inr (by rw [hword]; omega)), Overlay.block_write_self Overlay.length_block]

theorem copied_fits (hfree : 40 < b.nextFree.toNat) (hnext : b.nextFree.toNat ≤ ioSize) (htimes : b.timesWrap = 0) :
    Copied (tracGetBufferPartial true b ioSize) m (newest (ioSize - 40) written) := by
  have hword : ∀ x : BitVec 32, (Bytes.ofWord 4 x).length = 4 := Bytes.length_ofWord 4
  obtain ⟨hlen, hdata⟩ := h.flat (hwrap htimes)
  rw [partial_fits h.hdrLen hlow hpart hfree hnext htimes]
  refine ⟨b.nextFree, b.timesWrap, b.nextFree, ?_, rfl, Nat.le_of_lt hfree, Nat.le_refl _, ?_⟩
  · exact ((head_words hready.header).write (Nat.le_refl 40)).setSize
  · unfold readOut
    dsimp only
    rw [if_pos htimes]
    show block (Staged.write (Staged.write _ 40 _) 20 _) 40 _ = _
    rw [Overlay.block_write_apart (.inr (by rw [hword]; omega)), Overlay.block_write_self Overlay.length_block, hdata,
      newest, Nat.sub_eq_zero_of_le (by omega), List.drop_zero]

end

/-- A copy reads only the bytes of the buffer. -/
theorem partial_source {b : TraceBuf} {ioSize : Nat} (hready : CopyReady b) (hlow : 40 ≤ ioSize)
    {data : Memory} (hdata : ∀ i < traceBufferSize, data i = b.data i) :
    tracGetBufferPartial true { b with data := data } ioSize = tracGetBufferPartial true b ioSize := by
  obtain ⟨hfree, hbound⟩ := hready.nextFree
  have hbuf : traceBufferSize = 8192 := rfl
  have hblock : ∀ a k, a + k ≤ 8192 → block data a k = block b.data a k := fun a k hk =>
    Overlay.block_congr fun i _ hi => hdata i (by omega)
  obtain hpart | hfull := Nat.lt_or_ge ioSize traceBufferSize
  · by_cases hcut : ioSize < b.nextFree.toNat
    · have hb' := partial_cut (b := { b with data := data }) hready.hdrLen hlow hpart hcut
      dsimp only at hb'
      rw [hb', partial_cut (b := b) hready.hdrLen hlow hpart hcut, hblock _ _ (by omega)]
      rfl
    have hnext : b.nextFree.toNat ≤ ioSize := Nat.not_lt.1 hcut
    by_cases htimes : b.timesWrap = 0
    · obtain hnone | hsome := Nat.eq_or_lt_of_le hfree
      · have hb' := partial_none (b := { b with data := data }) hready.hdrLen hlow hpart hnone.symm htimes
        rw [hb', partial_none (b := b) hready.hdrLen hlow hpart hnone.symm htimes]
        rfl
      · have hb' := partial_fits (b := { b with data := data }) hready.hdrLen hlow hpart hsome hnext htimes
        dsimp only at hb'
        rw [hb', partial_fits (b := b) hready.hdrLen hlow hpart hsome hnext htimes, hblock _ _ (by omega)]
        rfl
    · have hb' := partial_wrapped (b := { b with data := data }) hready.hdrLen hlow hpart hnext htimes
      dsimp only at hb'
      rw [hb', partial_wrapped (b := b) hready.hdrLen hlow hpart hnext htimes, hblock _ _ (by omega), hblock _ _ (by omega)]
      rfl
  · have hb' := @partial_full { b with data := data } ioSize hfull
    dsimp only at hb'
    rw [hb', @partial_full b ioSize hfull, hblock _ _ (by omega)]
    rfl

theorem tracedBuf_ringed (comp : TraceComp) (calls : List (TraceCall × Bool)) :
    Ringed (tracedBuf comp calls) (stream calls) calls.length := by
  have hsized : ∀ e ∈ calls.map fun c => c.1.entry c.2, Sized e := by
    intro e he
    obtain ⟨c, -, rfl⟩ := List.mem_map.1 he
    exact c.1.sized_entry c.2
  have hring := ringed_writeEntries comp _ hsized
  rwa [List.length_map] at hring

/-- A copy of a part of any buffer that has been traced to, while its count of wraps has not come around to 0. -/
theorem partial_law (comp : TraceComp) (calls : List (TraceCall × Bool)) (ioSize : Nat) (m : Memory) (hlow : 40 ≤ ioSize)
    (hhigh : ioSize ≤ traceBufferSize)
    (hwrap : (tracedBuf comp calls).timesWrap = 0 → wraps (stream calls).length = 0) :
    CopyLaw (tracedBuf comp calls) (stream calls) ioSize m (tracGetBufferPartial true (tracedBuf comp calls) ioSize) := by
  have hring := tracedBuf_ringed comp calls
  have hready := tracedBuf_ready comp calls
  obtain ⟨hfree, -⟩ := hready.nextFree
  constructor
  · exact tracGetBufferPartial_inside hready
  · intro data hdata
    exact partial_source hready hlow hdata
  · intro hsome
    rw [newest_min]
    obtain hpart | hfull := Nat.lt_or_ge ioSize traceBufferSize
    · by_cases hcut : ioSize < (tracedBuf comp calls).nextFree.toNat
      · exact copied_cut hring hlow hpart hcut
      have hnext := Nat.not_lt.1 hcut
      by_cases htimes : (tracedBuf comp calls).timesWrap = 0
      · obtain hnone | hdata := Nat.eq_or_lt_of_le hfree
        · -- then nothing has been traced
          obtain ⟨hlen, -⟩ := hring.flat (hwrap htimes)
          rw [← hnone, Nat.sub_self] at hlen
          obtain hne | hfull := hsome
          · exact absurd (List.eq_nil_of_length_eq_zero hlen) hne
          · omega
        · exact copied_fits hring hready hwrap hlow hpart hdata hnext htimes
      · exact copied_wrapped hring hready hlow hpart hnext htimes
    · exact copied_full hring hready hwrap (tracedBuf_size comp calls) (Nat.le_antisymm hhigh hfull)
  · intro hempty hpart
    obtain ⟨r, hnext, htotal, -, -⟩ := hring.place
    have hwraps : wraps (stream calls).length = 0 := by
      rw [hempty]
      rfl
    have htimes : (tracedBuf comp calls).timesWrap = 0 := by
      rw [hring.timesWrap, hwraps]
      rfl
    have hforty : (tracedBuf comp calls).nextFree.toNat = 40 := by
      have hhead : traceBufHeadSize = 40 := rfl
      rw [hwraps, hempty, List.length_nil] at htotal
      omega
    have htake : (tracedBuf comp calls).headBytes.take 40 = (tracedBuf comp calls).headBytes :=
      List.take_of_length_le (Nat.le_of_eq hready.header)
    rw [partial_none hring.hdrLen hlow hpart hforty htimes, htake]
    constructor
    · rfl
    · show block (Staged.write _ 0 (tracedBuf comp calls).headBytes) 0 40 = _
      exact Overlay.block_write_self hready.header

/-- Two calls. -/
def twoCalls : List (TraceCall × Bool) :=
  [(⟨.inf, 0x1234, 10, [1, 2], by decide, 0, 1⟩, true), (⟨.inf, 0x5678, 20, [3], by decide, 0, 2⟩, false)]

/-- The newest 30 bytes of two entries. -/
theorem partial_law_twoCalls : CopyLaw (tracedBuf .inf twoCalls) (stream twoCalls) 70 Staged.zeros
    (tracGetBufferPartial true (tracedBuf .inf twoCalls) 70) :=
  partial_law .inf twoCalls 70 Staged.zeros (by decide) (by decide) (fun _ => by decide)

/-- An empty buffer is reported as 0 bytes, and the header that has been copied says 8192. -/
theorem empty_buffer_inconsistent : ¬Copied (tracGetBufferPartial true (tracedBuf .inf []) 100) Staged.zeros
    (newest (min (100 - 40) (stream []).length) (stream [])) := by
  rintro ⟨size, timesWrap, nextFree, hheader, hsize, -, -, -⟩
  have hword : block (overlay Staged.zeros (tracGetBufferPartial true (tracedBuf .inf []) 100).writes) 20 4 =
      Bytes.ofWord 4 (8192 : BitVec 32) := by decide
  have hzero : (tracGetBufferPartial true (tracedBuf .inf []) 100).size = 0 := by decide
  have hsame := hheader.size.symm.trans hword
  have hsizes := congrArg (Bytes.toWord 32) hsame
  rw [Bytes.toWord_ofWord size (by decide), Bytes.toWord_ofWord (8192 : BitVec 32) (by decide)] at hsizes
  rw [hsizes, hzero] at hsize
  exact absurd hsize (by decide)

end Occ.Trac
