/-
Copies of a part of a trace buffer: whatever has been traced, `TRAC_get_buffer_partial` writes only the bytes it was given,
fills all of them when it gets the lock, and says that it filled no more.
-/
import Occ.Trac.Buffer

namespace Occ.Trac

open Occ.Staged (Byte)

/-- A buffer that some calls have traced to since it was initialised, in threads or not. -/
def tracedBuf (comp : TraceComp) (calls : List (TraceCall × Bool)) : TraceBuf :=
  (calls.map fun c => c.1.entry c.2).foldl TraceBuf.writeEntry (tracInitValuesBuffer comp)

/-- What a copy relies on. -/
structure CopyReady (b : TraceBuf) : Prop where
  hdrLen : b.hdrLen = 40
  header : b.headBytes.length = 40
  nextFree : 40 ≤ b.nextFree.toNat ∧ b.nextFree.toNat ≤ 8192

theorem tracWriteData_comp (b : TraceBuf) (bs : List Byte) : (tracWriteData b bs).1.comp = b.comp := by
  unfold tracWriteData
  dsimp only
  split
  · rfl
  · split
    · rfl
    · rfl

theorem writeEntry_comp (b : TraceBuf) (bs : List Byte) : (b.writeEntry bs).comp = b.comp :=
  tracWriteData_comp { b with teCount := b.teCount + 1 } bs

theorem foldl_writeEntry_comp (b : TraceBuf) (es : List (List Byte)) : (es.foldl TraceBuf.writeEntry b).comp = b.comp := by
  induction es generalizing b with
  | nil => rfl
  | cons e es ih =>
    rw [List.foldl_cons, ih, writeEntry_comp]

theorem length_headBytes (b : TraceBuf) : b.headBytes.length = 24 + b.comp.length := by
  unfold TraceBuf.headBytes
  simp only [List.length_append, Bytes.length_ofWord, List.length_cons, List.length_nil]
  omega

theorem length_dataBytes (b : TraceBuf) (offset n : Nat) : (b.dataBytes offset n).length = n := by
  simp [TraceBuf.dataBytes]

theorem tracedBuf_ready (comp : TraceComp) (calls : List (TraceCall × Bool)) : CopyReady (tracedBuf comp calls) := by
  have hsized : ∀ e ∈ calls.map fun c => c.1.entry c.2, Sized e := by
    intro e he
    obtain ⟨c, -, rfl⟩ := List.mem_map.1 he
    exact c.1.sized_entry c.2
  have hring := ringed_writeEntries comp _ hsized
  obtain ⟨r, hnext, -, hr, -⟩ := hring.place
  have harea : dataAreaSize = 8152 := rfl
  have hhead : traceBufHeadSize = 40 := rfl
  have hnext' : (tracedBuf comp calls).nextFree.toNat = traceBufHeadSize + r := hnext
  refine ⟨hring.hdrLen, ?_, ?_, ?_⟩
  · have hcomp : (tracInitValuesBuffer comp).comp.length = 16 := by
      cases comp
      all_goals rfl
    unfold tracedBuf
    rw [length_headBytes, foldl_writeEntry_comp, hcomp]
  · omega
  · omega

section
variable {b : TraceBuf} {locked : Bool} {ioSize : Nat}

theorem tracGetBufferPartial_size : (tracGetBufferPartial locked b ioSize).size ≤ ioSize := by
  unfold tracGetBufferPartial
  dsimp only
  repeat' split
  all_goals dsimp only
  all_goals omega

/-- Only the bytes there is room for are written. -/
theorem tracGetBufferPartial_inside (h : CopyReady b) :
    ∀ w ∈ (tracGetBufferPartial locked b ioSize).writes, w.1 + w.2.length ≤ ioSize := by
  obtain ⟨hlow, hhigh⟩ := h.nextFree
  have hhdr : b.hdrLen.toNat = 40 := by
    rw [h.hdrLen]
    rfl
  have hhead : traceBufHeadSize = 40 := rfl
  have hsize : traceBufferSize = 8192 := rfl
  unfold tracGetBufferPartial
  dsimp only
  split
  · simp
  split
  · simp
  have hzeroed : 0 + (List.replicate ioSize (0 : Byte)).length ≤ ioSize := by
    rw [List.length_replicate]
    omega
  have htake : (b.headBytes.take 40).length = 40 := by
    rw [List.length_take, h.header]
    rfl
  split
  · simp only [List.mem_append, List.mem_singleton]
    rintro w (rfl | rfl)
    · exact hzeroed
    · dsimp only
      rw [List.length_append, h.header, length_dataBytes]
      omega
  split
  · simp only [List.mem_append, List.mem_singleton]
    rintro w (rfl | rfl)
    · exact hzeroed
    · dsimp only
      rw [hhdr, htake]
      omega
  split
  · simp only [List.mem_append, List.mem_cons, List.not_mem_nil, or_false]
    rintro w ((rfl | rfl) | rfl | rfl | rfl | rfl)
    · exact hzeroed
    all_goals
      dsimp only
      simp only [hhdr, htake, length_dataBytes, Bytes.length_ofWord]
      omega
  split
  all_goals
    simp only [List.mem_append, List.mem_cons, List.not_mem_nil, or_false]
  · rintro w (((rfl | rfl) | rfl) | rfl | rfl)
    · exact hzeroed
    all_goals
      dsimp only
      simp only [hhdr, htake, length_dataBytes, Bytes.length_ofWord]
      omega
  · rintro w (((rfl | rfl) | rfl) | rfl)
    · exact hzeroed
    all_goals
      dsimp only
      simp only [hhdr, htake, length_dataBytes, Bytes.length_ofWord]
      omega

theorem tracGetBufferPartial_fills (hroom : 40 ≤ ioSize) :
    (0, List.replicate ioSize 0) ∈ (tracGetBufferPartial true b ioSize).writes := by
  have hhead : traceBufHeadSize = 40 := rfl
  unfold tracGetBufferPartial
  dsimp only
  rw [if_neg (by omega), if_neg (by decide)]
  repeat' split
  all_goals simp

theorem tracGetBufferPartial_room (h : (tracGetBufferPartial locked b ioSize).size ≠ 0) : 40 ≤ ioSize := by
  by_contra hroom
  have hlt : ioSize < traceBufHeadSize := by
    have hhead : traceBufHeadSize = 40 := rfl
    omega
  unfold tracGetBufferPartial at h
  rw [if_pos hlt] at h
  exact h rfl

end

end Occ.Trac
