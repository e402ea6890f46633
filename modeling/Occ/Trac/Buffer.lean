/-
Trace buffers (`trac_interface.c`): a header and a data area that is written around, the entries that
`trac_write_int` makes, and the copy of a part of a buffer.

The data area of a trace buffer is a ring: whatever entries are written, it holds the last bytes of all of them, and the
header says where they begin and how many entries and wraps there have been.
-/
import Occ.Lib.Bytes
import Occ.Lib.Staged
import Occ.Lib.Ring

namespace Occ.Trac

open Occ.Staged (Byte Memory)

/-! ## Buffers -/

/-- `INF_TRACE_DESCRIPTOR`, `ERR_TRACE_DESCRIPTOR` and `IMP_TRACE_DESCRIPTOR` -/
inductive TraceComp
  | inf | err | imp
deriving DecidableEq, Repr

/-- `TRACE_BUFFER_SIZE` -/
def traceBufferSize : Nat := 8192

/-- `sizeof(trace_buf_head_t)` -/
def traceBufHeadSize : Nat := 40

/-- A trace buffer: `trace_buf_head_t`, and the bytes of the buffer by their offset. -/
structure TraceBuf where
  ver : BitVec 8
  hdrLen : BitVec 8
  timeFlg : BitVec 8
  endianFlg : BitVec 8
  comp : List Byte
  size : BitVec 32
  timesWrap : BitVec 32
  nextFree : BitVec 32
  teCount : BitVec 32
  extracted : BitVec 32
  data : Memory

/-- The name of a component, with the rest of `comp` in the header. -/
def compName : TraceComp → List Byte
  | .inf => [0x49, 0x4E, 0x46] ++ List.replicate 13 0
  | .err => [0x45, 0x52, 0x52] ++ List.replicate 13 0
  | .imp => [0x49, 0x4D, 0x50] ++ List.replicate 13 0

/-- `trac_init_values_buffer` -/
def tracInitValuesBuffer (comp : TraceComp) : TraceBuf :=
  { ver := 0x01
    hdrLen := 40
    timeFlg := 0
    endianFlg := 0x42
    comp := compName comp
    size := 8192
    timesWrap := 0
    nextFree := 40
    teCount := 0
    extracted := 0
    data := Staged.zeros }

namespace TraceBuf

/-- The bytes of the header. -/
def headBytes (b : TraceBuf) : List Byte :=
  [b.ver, b.hdrLen, b.timeFlg, b.endianFlg] ++ b.comp ++ Bytes.ofWord 4 b.size ++ Bytes.ofWord 4 b.timesWrap ++
    Bytes.ofWord 4 b.nextFree ++ Bytes.ofWord 4 b.teCount ++ Bytes.ofWord 4 b.extracted

/-- Some bytes of the data area. -/
def dataBytes (b : TraceBuf) (offset n : Nat) : List Byte := (List.range n).map fun i => b.data (offset + i)

end TraceBuf

/-! ## Writing an entry -/

/-- `(x + 3) & ~3`: the buffers start at word boundaries. -/
def wordAlign (x : BitVec 32) : BitVec 32 := (x + 3) &&& ~~~3

/-- `trac_write_data`; false if the data are too large. -/
def tracWriteData (b : TraceBuf) (bs : List Byte) : TraceBuf × Bool :=
  if traceBufferSize < bs.length then (b, false)
  else
    let totalSize := BitVec.ofNat 32 bs.length
    let (b, offset) :=
      if traceBufferSize < (b.nextFree + totalSize).toNat then
        let offset := (8192 : BitVec 32) - b.nextFree
        ({ b with
            data := Staged.write b.data (wordAlign b.nextFree).toNat (bs.take offset.toNat)
            timesWrap := b.timesWrap + 1
            nextFree := b.hdrLen.setWidth 32 }, offset)
      else (b, 0)
    ({ b with
        data := Staged.write b.data (wordAlign b.nextFree).toNat (bs.drop offset.toNat)
        nextFree := b.nextFree + wordAlign (totalSize - offset) }, true)

/-- What `trac_write_int` does to a buffer that it has locked. -/
def TraceBuf.writeEntry (b : TraceBuf) (bs : List Byte) : TraceBuf :=
  (tracWriteData { b with teCount := b.teCount + 1 } bs).1

/-! ## Entries -/

/-- `TRACE_MAX_ARGS` -/
def traceMaxArgs : Nat := 5

/-- `TRACE_FIELDTRACE` -/
def traceFieldtrace : BitVec 16 := 0x4654

/-- A call of `trac_write_int`, with the time it takes. -/
structure TraceCall where
  comp : TraceComp
  hash : BitVec 32
  line : BitVec 32
  args : List (BitVec 32)
  max_args : args.length ≤ traceMaxArgs
  tbh : BitVec 32
  tbl : BitVec 32
deriving DecidableEq

/-- The call that `trace_adal_write_all` makes: it takes the first arguments. -/
def traceAdalWriteAll (comp : TraceComp) (hash line : BitVec 32) (args : List (BitVec 32)) (tbh tbl : BitVec 32) : TraceCall :=
  { comp := comp
    hash := hash
    line := line
    args := args.take traceMaxArgs
    max_args := List.length_take_le _ _
    tbh := tbh
    tbl := tbl }

/-- The entry: a stamp, a head, the arguments and the size of it all. -/
def TraceCall.entry (c : TraceCall) (thread : Bool) : List Byte :=
  Bytes.ofWord 4 c.tbh ++ Bytes.ofWord 4 c.tbl ++ Bytes.ofWord 4 (if thread then (1 : BitVec 32) else 0) ++
    Bytes.ofWord 2 (BitVec.ofNat 16 (c.args.length * 4)) ++ Bytes.ofWord 2 traceFieldtrace ++ Bytes.ofWord 4 c.hash ++
    Bytes.ofWord 4 c.line ++ c.args.flatMap (Bytes.ofWord 4) ++ Bytes.ofWord 4 (BitVec.ofNat 32 (28 + c.args.length * 4))

theorem TraceCall.length_entry (c : TraceCall) (thread : Bool) : (c.entry thread).length = 28 + 4 * c.args.length := by
  have hargs : (c.args.flatMap (Bytes.ofWord 4)).length = 4 * c.args.length := by
    rw [List.length_flatMap]
    simp [Nat.mul_comm]
  unfold TraceCall.entry
  simp only [List.length_append, Bytes.length_ofWord, hargs]
  omega

/-! ## Copying a part of a buffer -/

/-- The writes of a copy, from where it goes, and the size of the data copied. -/
structure TraceCopy where
  writes : List (Nat × List Byte)
  size : Nat
deriving DecidableEq, Repr

/-- `TRAC_get_buffer_partial`, with or without the lock, for `ioSize` bytes. -/
def tracGetBufferPartial (locked : Bool) (b : TraceBuf) (ioSize : Nat) : TraceCopy :=
  if ioSize < traceBufHeadSize then ⟨[], 0⟩
  else if locked = false then ⟨[], ioSize⟩
  else
    let zeroed : List (Nat × List Byte) := [(0, List.replicate ioSize 0)]
    if traceBufferSize ≤ ioSize then
      ⟨zeroed ++ [(0, b.headBytes ++ b.dataBytes traceBufHeadSize (traceBufferSize - traceBufHeadSize))], traceBufferSize⟩
    else
      let head := zeroed ++ [(0, b.headBytes.take b.hdrLen.toNat)]
      if b.nextFree = b.hdrLen.setWidth 32 ∧ b.timesWrap = 0 then ⟨head, 0⟩
      else if ioSize < b.nextFree.toNat then
        let partSize := ioSize - b.hdrLen.toNat
        ⟨head ++ [(b.hdrLen.toNat, b.dataBytes (b.nextFree.toNat - partSize) partSize),
            (20, Bytes.ofWord 4 (BitVec.ofNat 32 ioSize)), (28, Bytes.ofWord 4 (b.hdrLen.setWidth 32)),
            (24, Bytes.ofWord 4 (if b.timesWrap = 0 then 1 else b.timesWrap))], ioSize⟩
      else
        let first := head ++ [(b.hdrLen.toNat, b.dataBytes b.hdrLen.toNat (b.nextFree.toNat - b.hdrLen.toNat))]
        if b.timesWrap ≠ 0 then
          let partSize := ioSize - b.nextFree.toNat
          ⟨first ++ [(b.nextFree.toNat, b.dataBytes (traceBufferSize - partSize) partSize),
              (20, Bytes.ofWord 4 (BitVec.ofNat 32 ioSize))], ioSize⟩
        else ⟨first ++ [(20, Bytes.ofWord 4 b.nextFree)], b.nextFree.toNat⟩

open Occ.Ring (Window)
open Occ.Staged (Byte Memory)

/-! ## The law -/

/-- The size of the data area. -/
def dataAreaSize : Nat := traceBufferSize - traceBufHeadSize

/-- The entries as `trac_write_int` sizes them: whole words that fit into the data area. -/
def Sized (e : List Byte) : Prop := 4 ∣ e.length ∧ e.length ≤ dataAreaSize

/-- The data area from `next_free` on, around its end. -/
def TraceBuf.readCircular (b : TraceBuf) : List Byte :=
  (List.range dataAreaSize).map fun i => b.data (traceBufHeadSize + (b.nextFree.toNat - traceBufHeadSize + i) % dataAreaSize)

/-- How often `total` bytes go around the data area. -/
def wraps (total : Nat) : Nat := (total - 1) / dataAreaSize

/-- What a buffer says of the entries that have been written to it since it was initialised. -/
structure RingLaw (b : TraceBuf) (es : List (List Byte)) : Prop where
  aligned : 4 ∣ b.nextFree.toNat
  header : b.hdrLen.toNat ≤ b.nextFree.toNat
  bound : b.nextFree.toNat ≤ traceBufferSize
  teCount : b.teCount = .ofNat 32 es.length
  timesWrap : b.timesWrap = .ofNat 32 (wraps es.flatten.length)
  read : b.readCircular = (List.replicate dataAreaSize 0 ++ es.flatten).drop es.flatten.length

/-! ## Alignment -/

theorem wordAlign_eq {x : BitVec 32} (h : 4 ∣ x.toNat) : wordAlign x = x := by
  have hlow : x &&& 3 = 0#32 := by
    apply BitVec.eq_of_toNat_eq
    rw [BitVec.toNat_and]
    exact (Nat.and_two_pow_sub_one_eq_mod x.toNat 2).trans (Nat.mod_eq_zero_of_dvd h)
  unfold wordAlign
  rw [BitVec.add_eq_or_of_and_eq_zero _ _ hlow]
  ext i hi
  have hbit : (x &&& 3)[i] = false := by rw [hlow]; exact BitVec.getElem_zero hi
  rw [BitVec.getElem_and] at hbit
  rw [BitVec.getElem_and, BitVec.getElem_or, BitVec.getElem_not]
  cases hx : x[i]
  · simp
  · rw [hx, Bool.true_and] at hbit
    rw [hbit]
    rfl

/-! ## One entry -/

section
variable {b : TraceBuf} {e : List Byte}

/-- An entry that fits is written at `next_free`. -/
theorem writeEntry_fits (haligned : 4 ∣ b.nextFree.toNat) (he : Sized e)
    (hfits : b.nextFree.toNat + e.length ≤ traceBufferSize) : b.writeEntry e =
      { b with
        teCount := b.teCount + 1
        data := Staged.write b.data b.nextFree.toNat e
        nextFree := b.nextFree + BitVec.ofNat 32 e.length } := by
  have hsize : traceBufferSize = 8192 := rfl
  have hlen : (BitVec.ofNat 32 e.length).toNat = e.length := by
    rw [BitVec.toNat_ofNat]
    omega
  have hsum : (b.nextFree + BitVec.ofNat 32 e.length).toNat = b.nextFree.toNat + e.length := by
    rw [BitVec.toNat_add, hlen]
    omega
  have hwords : 4 ∣ (BitVec.ofNat 32 e.length).toNat := by rw [hlen]; exact he.1
  have hsub : BitVec.ofNat 32 e.length - 0 = BitVec.ofNat 32 e.length := BitVec.sub_zero _
  unfold TraceBuf.writeEntry tracWriteData
  rw [if_neg (by omega)]
  dsimp only
  rw [if_neg (by rw [hsum]; omega)]
  dsimp only
  rw [wordAlign_eq haligned, hsub, wordAlign_eq hwords]
  rfl

/-- An entry that does not fit is split at the end of the buffer. -/
theorem writeEntry_wraps (haligned : 4 ∣ b.nextFree.toNat) (hhdr : b.hdrLen = 40) (hbound : b.nextFree.toNat ≤ traceBufferSize)
    (he : Sized e) (hwraps : traceBufferSize < b.nextFree.toNat + e.length) : b.writeEntry e =
      { b with
        teCount := b.teCount + 1
        timesWrap := b.timesWrap + 1
        data := Staged.write (Staged.write b.data b.nextFree.toNat (e.take (traceBufferSize - b.nextFree.toNat))) traceBufHeadSize
          (e.drop (traceBufferSize - b.nextFree.toNat))
        nextFree := 40 + BitVec.ofNat 32 (e.length - (traceBufferSize - b.nextFree.toNat)) } := by
  have hsize : traceBufferSize = 8192 := rfl
  obtain ⟨hwords, harea⟩ := he
  have harea : e.length ≤ 8152 := harea
  have hlen : (BitVec.ofNat 32 e.length).toNat = e.length := by
    rw [BitVec.toNat_ofNat]
    omega
  have hsum : (b.nextFree + BitVec.ofNat 32 e.length).toNat = b.nextFree.toNat + e.length := by
    rw [BitVec.toNat_add, hlen]
    omega
  have hoffset : ((8192 : BitVec 32) - b.nextFree).toNat = traceBufferSize - b.nextFree.toNat :=
    BitVec.toNat_sub_of_le (show b.nextFree.toNat ≤ (8192 : BitVec 32).toNat from hbound)
  have hrest : BitVec.ofNat 32 e.length - ((8192 : BitVec 32) - b.nextFree) =
      BitVec.ofNat 32 (e.length - (traceBufferSize - b.nextFree.toNat)) := by
    apply BitVec.eq_of_toNat_eq
    rw [BitVec.toNat_sub_of_le (by rw [BitVec.le_def, hlen, hoffset]; omega), hlen, hoffset, BitVec.toNat_ofNat]
    omega
  have hrestWords : 4 ∣ (BitVec.ofNat 32 (e.length - (traceBufferSize - b.nextFree.toNat))).toNat := by
    rw [BitVec.toNat_ofNat]
    omega
  have hstart : wordAlign ((40 : BitVec 8).setWidth 32) = 40 := rfl
  unfold TraceBuf.writeEntry tracWriteData
  rw [if_neg (by omega)]
  dsimp only
  rw [if_pos (by rw [hsum]; omega)]
  dsimp only
  rw [wordAlign_eq haligned, hhdr, hstart, hrest, wordAlign_eq hrestWords, hoffset]
  rfl

end

/-! ## The ring -/

/-- The buffer, with `written` all bytes and `n` the number of entries so far. -/
structure Ringed (b : TraceBuf) (written : List Byte) (n : Nat) : Prop where
  hdrLen : b.hdrLen = 40
  teCount : b.teCount = .ofNat 32 n
  timesWrap : b.timesWrap = .ofNat 32 (wraps written.length)
  words : 4 ∣ written.length
  nextFree : b.nextFree.toNat + dataAreaSize * wraps written.length = traceBufHeadSize + written.length
  window : Window dataAreaSize 0 (fun p => b.data (traceBufHeadSize + p)) (List.replicate dataAreaSize 0 ++ written) written.length

theorem ringed_init (comp : TraceComp) : Ringed (tracInitValuesBuffer comp) [] 0 := by
  refine ⟨rfl, rfl, rfl, Nat.dvd_zero 4, rfl, ⟨Nat.zero_le _, ?_, ?_⟩⟩
  · rw [List.append_nil, List.length_replicate, List.length_nil, Nat.zero_add]
  · intro i _ hi
    rw [List.append_nil] at hi ⊢
    rw [List.getElem?_eq_getElem hi, List.getElem_replicate]
    rfl

namespace Ringed

variable {b : TraceBuf} {written e : List Byte} {n : Nat}

theorem place (h : Ringed b written n) : ∃ r, b.nextFree.toNat = traceBufHeadSize + r ∧
    written.length = dataAreaSize * wraps written.length + r ∧ r ≤ dataAreaSize ∧ (0 < r ∨ wraps written.length = 0) := by
  have hsize : dataAreaSize = 8152 := rfl
  have hnext := h.nextFree
  have hdiv := Nat.div_add_mod (written.length - 1) dataAreaSize
  have hmod := Nat.mod_lt (written.length - 1) (show 0 < dataAreaSize by decide)
  unfold wraps at hnext ⊢
  rw [hsize] at *
  refine ⟨written.length - 8152 * ((written.length - 1) / 8152), ?_, ?_, ?_, ?_⟩ <;> omega

theorem wraps_eq {total w r : Nat} (htotal : total = dataAreaSize * w + r) (hr : r ≤ dataAreaSize) (hpos : 0 < r ∨ w = 0) :
    wraps total = w := by
  unfold wraps
  obtain hpos | rfl := hpos
  · have hsub : total - 1 = dataAreaSize * w + (r - 1) := by omega
    rw [hsub, Nat.mul_add_div (by decide), Nat.div_eq_of_lt (by omega), Nat.add_zero]
  · have hsize : 0 < dataAreaSize := by decide
    exact Nat.div_eq_of_lt (by omega)

/-- What has to be shown of a buffer after an entry. -/
theorem append {b' : TraceBuf} {w r : Nat} (h : Ringed b written n) (he : Sized e) (hhdr : b'.hdrLen = 40)
    (hcount : b'.teCount = b.teCount + 1) (hwraps : b'.timesWrap = .ofNat 32 w)
    (htotal : written.length + e.length = dataAreaSize * w + r) (hr : r ≤ dataAreaSize) (hpos : 0 < r ∨ w = 0)
    (hnext : b'.nextFree.toNat = traceBufHeadSize + r)
    (hslot : ∀ i, i < e.length → e[i]? = some (b'.data (traceBufHeadSize + (written.length + i) % dataAreaSize)))
    (hother : ∀ p, (∀ i, i < e.length → p ≠ (written.length + i) % dataAreaSize) →
      b'.data (traceBufHeadSize + p) = b.data (traceBufHeadSize + p)) : Ringed b' (written ++ e) (n + 1) := by
  have hlen : (written ++ e).length = written.length + e.length := List.length_append
  have hplace : ∀ i, (0 + (List.replicate dataAreaSize 0 ++ written).length + i) % dataAreaSize =
      (written.length + i) % dataAreaSize := by
    intro i
    rw [List.length_append, List.length_replicate, Nat.zero_add, Nat.add_assoc, Nat.add_mod_left]
  have hw := wraps_eq htotal hr hpos
  refine ⟨hhdr, ?_, ?_, ?_, ?_, ?_⟩
  · rw [hcount, h.teCount, BitVec.ofNat_add]
    rfl
  · rw [hlen, hw, hwraps]
  · rw [hlen]
    exact Nat.dvd_add h.words he.1
  · rw [hlen, hw, htotal, hnext]
    omega
  · rw [hlen, ← List.append_assoc]
    refine h.window.append (fun i hi => ?_) (fun p hp => hother p fun i hi => ?_) (Nat.le_add_right _ _) ?_ ?_
    · rw [hplace]
      exact hslot i hi
    · rw [← hplace]
      exact hp i hi
    · rw [List.length_append]
      omega
    · rw [List.length_append, List.length_replicate]
      omega

theorem aligned (h : Ringed b written n) : 4 ∣ b.nextFree.toNat := by
  obtain ⟨r, hnext, htotal, -, -⟩ := h.place
  have hhead : traceBufHeadSize = 40 := rfl
  have harea : dataAreaSize = 8152 := rfl
  have hwords := h.words
  rw [harea] at htotal
  omega

/-- The next entry, when it fits up to the end of the buffer. -/
theorem writeEntry_inside (h : Ringed b written n) (he : Sized e)
    (hfits : b.nextFree.toNat + e.length ≤ traceBufferSize) : Ringed (b.writeEntry e) (written ++ e) (n + 1) := by
  obtain ⟨r, hnext, htotal, hr, hpos⟩ := h.place
  have hsize : traceBufferSize = 8192 := rfl
  have hhead : traceBufHeadSize = 40 := rfl
  have harea : dataAreaSize = 8152 := rfl
  have hmod : ∀ i, (written.length + i) % dataAreaSize = (r + i) % dataAreaSize := by
    intro i
    rw [htotal, Nat.add_assoc, Nat.mul_add_mod]
  have hlen : (b.nextFree + BitVec.ofNat 32 e.length).toNat = b.nextFree.toNat + e.length := by
    rw [BitVec.toNat_add, BitVec.toNat_ofNat]
    omega
  rw [writeEntry_fits h.aligned he hfits]
  refine h.append (w := wraps written.length) (r := r + e.length) he h.hdrLen rfl h.timesWrap (by omega) (by omega) (by omega)
    (by rw [hlen, hnext, Nat.add_assoc]) (fun i hi => ?_) (fun p hp => ?_)
  · have hi' : (r + i) % dataAreaSize = r + i := Nat.mod_eq_of_lt (by omega)
    rw [hmod, hi', List.getElem?_eq_getElem hi, hnext, ← Nat.add_assoc]
    exact congrArg some (Staged.holds_write i e[i] (List.getElem?_eq_getElem hi)).symm
  · by_cases hbelow : p < r
    · exact Staged.write_below (by omega)
    · by_cases habove : r + e.length ≤ p
      · exact Staged.write_above (by omega)
      · have hp' := hp (p - r) (by omega)
        rw [hmod, Nat.mod_eq_of_lt (by omega)] at hp'
        omega

/-- The next entry, when its first part ends the buffer and the rest goes to the start of the data area. -/
theorem writeEntry_around (h : Ringed b written n) (he : Sized e)
    (hfits : ¬b.nextFree.toNat + e.length ≤ traceBufferSize) : Ringed (b.writeEntry e) (written ++ e) (n + 1) := by
  obtain ⟨r, hnext, htotal, hr, hpos⟩ := h.place
  have hsize : traceBufferSize = 8192 := rfl
  have hhead : traceBufHeadSize = 40 := rfl
  have harea : dataAreaSize = 8152 := rfl
  have helen := he.2
  have hmod : ∀ i, (written.length + i) % dataAreaSize = (r + i) % dataAreaSize := by
    intro i
    rw [htotal, Nat.add_assoc, Nat.mul_add_mod]
  have hbound : b.nextFree.toNat ≤ traceBufferSize := by omega
  obtain ⟨t, ht⟩ : ∃ t, traceBufferSize - b.nextFree.toNat = t := ⟨_, rfl⟩
  have hlen : ((40 : BitVec 32) + BitVec.ofNat 32 (e.length - t)).toNat = 40 + (e.length - t) := by
    have hforty : (40 : BitVec 32).toNat = 40 := rfl
    rw [BitVec.toNat_add, BitVec.toNat_ofNat, hforty]
    omega
  have hdrop : (e.drop t).length = e.length - t := List.length_drop
  have htake : (e.take t).length = t := by rw [List.length_take]; omega
  rw [writeEntry_wraps h.aligned h.hdrLen hbound he (by omega), ht]
  have htimes : b.timesWrap + 1 = BitVec.ofNat 32 (wraps written.length + 1) := by
    rw [h.timesWrap, BitVec.ofNat_add]
    rfl
  refine h.append (w := wraps written.length + 1) (r := e.length - t) he h.hdrLen rfl htimes (by rw [Nat.mul_succ]; omega) (by omega)
    (by omega) (by rw [hlen]; rfl) (fun i hi => ?_) (fun p hp => ?_)
  · rw [hmod]
    dsimp only
    by_cases hfirst : i < t
    · -- up to the end of the buffer
      rw [Nat.mod_eq_of_lt (by omega)]
      have habove : traceBufHeadSize + (e.drop t).length ≤ traceBufHeadSize + (r + i) := by omega
      have hget : (e.take t)[i]? = some e[i] := by rw [List.getElem?_take_of_lt hfirst, List.getElem?_eq_getElem hi]
      rw [Staged.write_above habove, hnext, ← Nat.add_assoc, Staged.holds_write i e[i] hget, List.getElem?_eq_getElem hi]
    · -- from the start of the data area
      have hwrap : (r + i) % dataAreaSize = i - t := by
        rw [Nat.mod_eq_sub_mod (by omega), Nat.mod_eq_of_lt (by omega)]
        omega
      have hget : (e.drop t)[i - t]? = some e[i] := by
        rw [List.getElem?_drop, List.getElem?_eq_getElem (by omega)]
        congr 2
        omega
      rw [hwrap, Staged.holds_write (i - t) e[i] hget, List.getElem?_eq_getElem hi]
  · by_cases hlow : p < e.length - t
    · have hp' := hp (t + p) (by omega)
      rw [hmod, Nat.mod_eq_sub_mod (by omega), Nat.mod_eq_of_lt (by omega)] at hp'
      omega
    · have habove : traceBufHeadSize + (e.drop t).length ≤ traceBufHeadSize + p := by omega
      dsimp only
      rw [Staged.write_above habove]
      by_cases hbelow : p < r
      · exact Staged.write_below (by omega)
      · by_cases hend : dataAreaSize ≤ p
        · exact Staged.write_above (by omega)
        · have hp' := hp (p - r) (by omega)
          rw [hmod, Nat.mod_eq_of_lt (by omega)] at hp'
          omega

theorem writeEntry (h : Ringed b written n) (he : Sized e) : Ringed (b.writeEntry e) (written ++ e) (n + 1) := by
  by_cases hfits : b.nextFree.toNat + e.length ≤ traceBufferSize
  · exact h.writeEntry_inside he hfits
  · exact h.writeEntry_around he hfits

theorem readCircular (h : Ringed b written n) :
    b.readCircular = (List.replicate dataAreaSize 0 ++ written).drop written.length := by
  obtain ⟨r, hnext, htotal, hr, -⟩ := h.place
  apply List.ext_getElem?
  intro i
  unfold TraceBuf.readCircular
  rw [List.getElem?_map, List.getElem?_drop]
  by_cases hi : i < dataAreaSize
  · have hslot := h.window.slots (written.length + i) (Nat.le_add_right _ _)
      (by rw [List.length_append, List.length_replicate]; omega)
    have hplace : (0 + (written.length + i)) % dataAreaSize = (b.nextFree.toNat - traceBufHeadSize + i) % dataAreaSize := by
      rw [hnext, Nat.add_sub_cancel_left, Nat.zero_add, htotal, Nat.add_assoc, Nat.mul_add_mod]
    rw [hslot, hplace, List.getElem?_range hi]
    rfl
  · rw [List.getElem?_eq_none (by rw [List.length_range]; omega), List.getElem?_eq_none]
    · rfl
    · rw [List.length_append, List.length_replicate]
      omega

end Ringed

/-! ## All entries -/

theorem ringed_writeEntries (comp : TraceComp) (es : List (List Byte)) (h : ∀ e ∈ es, Sized e) :
    Ringed (es.foldl TraceBuf.writeEntry (tracInitValuesBuffer comp)) es.flatten es.length := by
  induction es using List.reverseRecOn with
  | nil => exact ringed_init comp
  | append_singleton es e ih =>
    have hes := ih fun e' he' => h e' (List.mem_append_left _ he')
    have hnext := hes.writeEntry (h e (List.mem_append_right _ List.mem_cons_self))
    rw [List.foldl_append, List.flatten_append, List.length_append]
    rwa [List.flatten_cons, List.flatten_nil, List.append_nil]

/-- Whatever whole words are written to an initialised trace buffer, the data area holds the last of them. -/
theorem ringLaw (comp : TraceComp) (es : List (List Byte)) (h : ∀ e ∈ es, Sized e) :
    RingLaw (es.foldl TraceBuf.writeEntry (tracInitValuesBuffer comp)) es := by
  have hring := ringed_writeEntries comp es h
  obtain ⟨r, hnext, htotal, hr, -⟩ := hring.place
  have hwords := hring.words
  have harea : dataAreaSize = 8152 := rfl
  have hhead : traceBufHeadSize = 40 := rfl
  have hsize : traceBufferSize = 8192 := rfl
  refine ⟨?_, ?_, ?_, hring.teCount, hring.timesWrap, hring.readCircular⟩
  · rw [harea] at htotal
    omega
  · rw [hring.hdrLen, hnext]
    exact Nat.le_add_right _ _
  · omega

/-- What `trac_write_int` writes is sized so. -/
theorem TraceCall.sized_entry (c : TraceCall) (thread : Bool) : Sized (c.entry thread) := by
  have hmax : c.args.length ≤ 5 := c.max_args
  have harea : dataAreaSize = 8152 := rfl
  unfold Sized
  rw [c.length_entry]
  constructor <;> omega

theorem ringLaw_calls (comp : TraceComp) (cs : List TraceCall) :
    RingLaw ((cs.map (·.entry true)).foldl TraceBuf.writeEntry (tracInitValuesBuffer comp)) (cs.map (·.entry true)) := by
  refine ringLaw comp _ fun e he => ?_
  obtain ⟨c, -, rfl⟩ := List.mem_map.1 he
  exact c.sized_entry true

/-- A trace with one argument. -/
def oneArgument : TraceCall := traceAdalWriteAll .inf 0x12345678 42 [7] 1 0

/-- More entries than the data area holds. -/
theorem ringLaw_wrap : RingLaw ((List.replicate 256 (oneArgument.entry true)).foldl TraceBuf.writeEntry (tracInitValuesBuffer .inf))
    (List.replicate 256 (oneArgument.entry true)) := by
  refine ringLaw .inf _ fun e he => ?_
  rw [List.eq_of_mem_replicate he]
  exact oneArgument.sized_entry true

end Occ.Trac
