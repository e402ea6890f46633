/-
What a call of `PNOR_writeFirData` owes its caller: the flash holds the ECC encoding of the buffer and its fill,
and nothing around it was written. The bytes that go through the write cache are one stream, cut into pages: after
every word the flash holds the full pages of the stream and the cache the rest. So the call keeps its promise in
exactly the cases where the stream begins with the first word and ends with a page.
-/
import Occ.Firdata.PnorUtil

namespace Occ.Firdata

open Transition

/-! ## The law -/

namespace FirWrite

variable (c : FirWrite)

/-- The words of the section. -/
def wordCount : Nat := (c.pnorSize.toNat + 7) / 8

/-- The buffer, followed by fill. -/
def image : Staged.Memory := fun x => (c.buf[x]?).getD 0xFF

def encoding : List Byte := (injectECC ((List.range (8 * c.wordCount)).map c.image)).getD []

/-- The bytes from the offset on that belong to the call: nine for each eight of its size. -/
def extent : Nat := (9 * c.pnorSize.toNat + 7) / 8

/-- The flash holds the encoding, and is as it was everywhere else. -/
structure Written (before after : Flash) : Prop where
  encoded : ∀ i, i < c.extent → c.encoding[i]? = some (after (c.pnorOffset + BitVec.ofNat 32 i))
  frame : ∀ a, (∀ i, i < c.extent → a ≠ c.pnorOffset + BitVec.ofNat 32 i) → after a = before a

/-- A call that returns success has written its section. -/
def FirLaw (s : Pnor) : Prop :=
  ∀ flash w t, c.writeFirData w { s with flash := flash } = .ok t → c.Written flash t.flash

/-! ## The condition -/

/-- The words the call writes when none is refused. -/
def chunkCount : Nat :=
  c.fullChunks + (if 8 * c.fullChunks ≠ c.buf.length then 1 else 0) + (c.pnorSize.toNat - c.buf.length + 7) / 8

/-- The full pages before word `j`, when the first word finds `index` bytes in the cache; they are written with the
word that fills them. -/
def pagesBefore (index j : Nat) : Nat := if j = 0 then 0 else (index + 9 * j) / 256

/-- The room check refuses one of the words. -/
def Refused (index : Nat) : Prop :=
  ∃ j, j < c.chunkCount ∧ noRoom (c.pnorOffset + BitVec.ofNat 32 (256 * pagesBefore index j)) c.pnorSize = true

/-- Nothing is to be written, or the call fails for want of room, or it begins with an empty cache, has a buffer
of whole words and ends with a whole page. -/
def FirOk (s : Pnor) : Prop :=
  c.pnorSize = 0 ∨ c.Refused s.writeCacheIndex ∨ (s.writeCacheIndex = 0 ∧ 8 ∣ c.buf.length ∧ 256 ∣ c.extent)

instance (index : Nat) : Decidable (c.Refused index) :=
  decidable_of_iff (∃ j ∈ List.range c.chunkCount,
    noRoom (c.pnorOffset + BitVec.ofNat 32 (256 * pagesBefore index j)) c.pnorSize = true)
    (by simp only [List.mem_range]; rfl)

instance (s : Pnor) : Decidable (c.FirOk s) := inferInstanceAs (Decidable (_ ∨ _ ∨ _))

end FirWrite

/-! ## Encoded words -/

/-- Word `q` of the bytes `g`. -/
def wordAt (g : Staged.Memory) (q : Nat) : List Byte := (List.range 8).map fun r => g (8 * q + r)

/-- Byte `i` of the encoding of the bytes `g`. -/
def eccByte (g : Staged.Memory) (i : Nat) : Byte :=
  if i % 9 = 8 then generateECC (Bytes.toWord 64 (wordAt g (i / 9))) else g (8 * (i / 9) + i % 9)

section Encoding

variable {g h : Staged.Memory} {i n q r : Nat}

theorem wordAt_shift : wordAt (fun x => g (8 * q + x)) n = wordAt g (q + n) := by
  unfold wordAt
  refine List.map_congr_left fun r _ => ?_
  show g (8 * q + (8 * n + r)) = _
  rw [show 8 * q + (8 * n + r) = 8 * (q + n) + r by omega]

theorem eccByte_shift : eccByte (fun x => g (8 * q + x)) i = eccByte g (9 * q + i) := by
  unfold eccByte
  rw [wordAt_shift, show (9 * q + i) % 9 = i % 9 by omega, show (9 * q + i) / 9 = q + i / 9 by omega]
  split
  · rfl
  · show g (8 * q + (8 * (i / 9) + i % 9)) = _
    rw [show 8 * q + (8 * (i / 9) + i % 9) = 8 * (q + i / 9) + i % 9 by omega]

theorem eccByte_data (hr : r < 8) : eccByte g (9 * q + r) = g (8 * q + r) := by
  unfold eccByte
  rw [if_neg (by omega), show (9 * q + r) / 9 = q by omega, show (9 * q + r) % 9 = r by omega]

theorem eccByte_congr (hgh : ∀ x, x < 8 * n → g x = h x) (hi : i < 9 * n) : eccByte g i = eccByte h i := by
  have hword : wordAt g (i / 9) = wordAt h (i / 9) := by
    refine List.map_congr_left fun r hr => hgh _ ?_
    have := List.mem_range.1 hr
    omega
  unfold eccByte
  rw [hword]
  split
  · rfl
  · exact hgh _ (by omega)

theorem eccByte_fill (hg : ∀ r, r < 8 → g r = 0xFF) : eccByte g 8 = 0 := by
  have hword : wordAt g 0 = List.replicate 8 0xFF := by
    unfold wordAt
    refine List.ext_getElem (by simp) fun r hr _ => ?_
    simp only [List.length_map, List.length_range] at hr
    simp only [List.getElem_map, List.getElem_range, List.getElem_replicate, Nat.mul_zero, Nat.zero_add]
    exact hg r hr
  unfold eccByte
  rw [if_pos (by decide), show 8 / 9 = 0 by decide, hword]
  decide

theorem map_range_add {β : Type} (f : Nat → β) (m n : Nat) :
    (List.range (m + n)).map f = (List.range m).map f ++ (List.range n).map fun x => f (m + x) := by
  rw [List.range_add, List.map_append, List.map_map]
  rfl

theorem injectWords_map : injectWords ((List.range (8 * n)).map g) n = (List.range (9 * n)).map (eccByte g) := by
  induction n generalizing g with
  | zero => rfl
  | succ n ih =>
    have hhead : (List.range 9).map (eccByte g) = wordAt g 0 ++ [generateECC (Bytes.toWord 64 (wordAt g 0))] := by
      rfl
    have htake : ((List.range 8).map g).length = 8 := by rw [List.length_map, List.length_range]
    have hshift : (fun x => g (8 + x)) = fun x => g (8 * 1 + x) := rfl
    rw [show 8 * (n + 1) = 8 + 8 * n by omega, show 9 * (n + 1) = 9 + 9 * n by omega, map_range_add, map_range_add,
      injectWords, List.take_left' htake, List.drop_left' htake, ih, hhead, hshift]
    have hword : (List.range 8).map g = wordAt g 0 := by
      simp only [wordAt, Nat.mul_zero, Nat.zero_add]
    rw [hword, List.append_right_inj]
    exact List.map_congr_left fun i _ => eccByte_shift

theorem injectECC_map : injectECC ((List.range (8 * n)).map g) = some ((List.range (9 * n)).map (eccByte g)) := by
  unfold injectECC
  rw [List.length_map, List.length_range, if_neg (by omega), Nat.mul_div_cancel_left n (by decide), injectWords_map]

theorem injectECC_wordAt : injectECC (wordAt g q) = some ((List.range 9).map fun r => eccByte g (9 * q + r)) := by
  have h := @injectECC_map (fun x => g (8 * q + x)) 1
  rw [show wordAt g q = (List.range (8 * 1)).map fun x => g (8 * q + x) from rfl, h]
  congr 1
  exact List.map_congr_left fun r _ => eccByte_shift

theorem FirWrite.encoding_get (c : FirWrite) (hi : i < 9 * c.wordCount) : c.encoding[i]? = some (eccByte c.image i) := by
  unfold FirWrite.encoding
  rw [injectECC_map, Option.getD_some, List.getElem?_map, List.getElem?_range hi]
  rfl

end Encoding

/-! ## The stream -/

/-- The bytes that go through the cache: the `index` bytes it begins with, then the encoded words. -/
def stream (index : Nat) (g : Staged.Memory) (i : Nat) : Byte := if i < index then 0xFF else eccByte g (i - index)

open FirWrite (pagesBefore)

/-- After `q` words the flash has the full pages of the stream and the cache has the rest. -/
structure Streamed (c : FirWrite) (index : Nat) (g : Staged.Memory) (flash : Flash) (q : Nat) (s : Pnor) : Prop where
  size : s.pnorSize = c.pnorSize
  next : s.nextByte = c.pnorOffset + BitVec.ofNat 32 (256 * pagesBefore index q)
  filled : 256 * pagesBefore index q + s.writeCacheIndex = index + 9 * q
  bound : s.writeCacheIndex ≤ 256
  cache : ∀ i, i < 256 → s.writeCache i =
    if i < s.writeCacheIndex then stream index g (256 * pagesBefore index q + i) else 0xFF
  flash : 256 * pagesBefore index q ≤ 2 ^ 32 →
    s.flash = Paged.lay flash c.pnorOffset (stream index g) (256 * pagesBefore index q)

section Stream

variable {c : FirWrite} {index q n : Nat} {g : Staged.Memory} {flash : Flash} {s t : Pnor} {answer : FlashAnswer}

theorem write_take {m : Staged.Memory} {f : Nat → Byte} {a k x : Nat} (hn : n ≤ k) :
    Staged.write m a (((List.range k).map f).take n) x = if a ≤ x ∧ x < a + n then f (x - a) else m x := by
  unfold Staged.write
  by_cases ha : a ≤ x
  · rw [if_pos ha]
    by_cases hx : x < a + n
    · rw [if_pos ⟨ha, hx⟩, List.getElem?_take_of_lt (by omega), List.getElem?_map, List.getElem?_range (by omega)]
      rfl
    · rw [if_neg (by omega), List.getElem?_eq_none]
      · rfl
      · rw [List.length_take, List.length_map, List.length_range]
        omega
  · rw [if_neg ha, if_neg (by omega)]

theorem write_drop {m : Staged.Memory} {f : Nat → Byte} {k x : Nat} :
    Staged.write m 0 (((List.range k).map f).drop n) x = if x < k - n then f (n + x) else m x := by
  unfold Staged.write
  rw [if_pos (Nat.zero_le x), Nat.sub_zero, List.getElem?_drop, List.getElem?_map]
  by_cases hx : x < k - n
  · rw [if_pos hx, List.getElem?_range (by omega)]
    rfl
  · rw [if_neg hx, List.getElem?_eq_none (by rw [List.length_range]; omega)]
    rfl

theorem stream_word {i : Nat} (h : index + 9 * q ≤ i) : stream index g i = eccByte g (9 * q + (i - (index + 9 * q))) := by
  unfold stream
  rw [if_neg (by omega), show i - index = 9 * q + (i - (index + 9 * q)) by omega]

theorem Streamed.cache_write (h : Streamed c index g flash q s) (hn : n ≤ 9) {i : Nat} (hi : i < 256) :
    Staged.write s.writeCache s.writeCacheIndex
        (((List.range 9).map fun r => eccByte g (9 * q + r)).take n) i =
      if i < s.writeCacheIndex + n then stream index g (256 * pagesBefore index q + i) else 0xFF := by
  have hfilled := h.filled
  rw [write_take hn, h.cache i hi]
  by_cases hold : i < s.writeCacheIndex
  · rw [if_neg (by omega), if_pos hold, if_pos (by omega)]
  · by_cases hnew : i < s.writeCacheIndex + n
    · have hword : index + 9 * q ≤ 256 * pagesBefore index q + i := by omega
      rw [if_pos (by omega), if_pos hnew, stream_word hword]
      congr 1
      omega
    · rw [if_neg (by omega), if_neg hold, if_neg hnew]

theorem Streamed.pages_lt (h : Streamed c index g flash q s) (hlt : s.writeCacheIndex + 9 < 256) :
    pagesBefore index (q + 1) = pagesBefore index q := by
  have hfilled := h.filled
  rw [show pagesBefore index (q + 1) = (index + 9 * (q + 1)) / 256 from rfl]
  omega

theorem Streamed.pages_ge (h : Streamed c index g flash q s) (hge : 256 ≤ s.writeCacheIndex + 9) :
    pagesBefore index (q + 1) = pagesBefore index q + 1 := by
  have hfilled := h.filled
  have hbound := h.bound
  rw [show pagesBefore index (q + 1) = (index + 9 * (q + 1)) / 256 from rfl]
  omega

/-- What a word does: it is refused, it is streamed, or the write of its page fails. -/
theorem Streamed.write8B (h : Streamed c index g flash q s) :
    (noRoom s.nextByte s.pnorSize = true ∧ pnorWrite8B answer s (wordAt g q) = .error s) ∨
    (noRoom s.nextByte s.pnorSize = false ∧
      ((∃ t, pnorWrite8B answer s (wordAt g q) = .ok t ∧ Streamed c index g flash (q + 1) t) ∨
        (answer ≠ .noError ∧ ∃ t, pnorWrite8B answer s (wordAt g q) = .error t))) := by
  have hbound := h.bound
  have hfilled := h.filled
  have hle : ¬pageProgramBytes < s.writeCacheIndex := by
    unfold pageProgramBytes
    omega
  cases hroom : noRoom s.nextByte s.pnorSize with
  | true =>
    refine .inl ⟨rfl, ?_⟩
    unfold pnorWrite8B
    rw [if_neg hle]
    exact if_pos hroom
  | false =>
    refine .inr ⟨rfl, ?_⟩
    unfold pnorWrite8B
    rw [if_neg hle, injectECC_wordAt]
    have hcopied : copySize s.writeCacheIndex ≤ 9 ∧ (s.writeCacheIndex + 9 < 256 ∧ copySize s.writeCacheIndex = 9 ∨
        256 ≤ s.writeCacheIndex + 9 ∧ s.writeCacheIndex + copySize s.writeCacheIndex = 256) := by
      unfold copySize pageProgramBytes
      split <;> omega
    simp only [hroom, Bool.false_eq_true, if_false, Option.getD_some]
    generalize copySize s.writeCacheIndex = cpsz at hcopied ⊢
    obtain ⟨hnine, ⟨hlt, rfl⟩ | ⟨hge, hfull⟩⟩ := hcopied
    · -- the word fits and leaves the page unfinished
      have hpages := h.pages_lt hlt
      rw [if_neg (show ¬s.writeCacheIndex + 9 = pageProgramBytes by unfold pageProgramBytes; omega)]
      refine .inl ⟨_, rfl, h.size, ?_, ?_, ?_, fun i hi => ?_, ?_⟩
      · rw [hpages]; exact h.next
      · rw [hpages]; show _ + (s.writeCacheIndex + 9) = _; omega
      · show s.writeCacheIndex + 9 ≤ 256; omega
      · rw [hpages]; exact h.cache_write le_rfl hi
      · rw [hpages]; exact h.flash
    · -- the word finishes the page
      have hpages := h.pages_ge hge
      rw [if_pos (show s.writeCacheIndex + cpsz = pageProgramBytes from hfull)]
      cases answer with
      | error left => exact .inr ⟨nofun, _, rfl⟩
      | noError =>
        refine .inl ⟨_, rfl, h.size, ?_, ?_, ?_, fun i hi => ?_, fun hwrap => ?_⟩
        · show s.nextByte + _ = _
          rw [hpages, h.next, BitVec.add_assoc, ← BitVec.ofNat_add, Nat.mul_add]
          rfl
        · show _ + (9 - cpsz) = _
          omega
        · show 9 - cpsz ≤ 256
          omega
        · show Staged.write blankCache 0 _ i = if i < 9 - cpsz then _ else _
          rw [write_drop]
          by_cases hi9 : i < 9 - cpsz
          · have hword : index + 9 * q ≤ 256 * pagesBefore index (q + 1) + i := by omega
            rw [if_pos hi9, if_pos hi9, stream_word hword]
            congr 1
            omega
          · rw [if_neg hi9, if_neg hi9]
            rfl
        · show Paged.lay s.flash s.nextByte _ 256 = _
          rw [hpages] at hwrap ⊢
          rw [h.flash (by omega), h.next, Paged.lay_lay (by omega), Nat.mul_add]
          intro i hi
          rw [h.cache_write hnine hi, if_pos (by omega)]

/-- Room for every word from `q` to `q + n`. -/
def RoomFor (c : FirWrite) (index q n : Nat) : Prop :=
  ∀ j, q ≤ j → j < q + n → noRoom (c.pnorOffset + BitVec.ofNat 32 (256 * pagesBefore index j)) c.pnorSize = false

/-- What a run of words does: they are all streamed, or one is refused, or the write of a page fails. -/
theorem Streamed.writeChunks {answers : Nat → FlashAnswer} (h : Streamed c index g flash q s) :
    (RoomFor c index q n ∧ ∃ t, writeChunks answers ((List.range' q n).map (wordAt g)) s = .ok t ∧
      Streamed c index g flash (q + n) t) ∨
    (¬(RoomFor c index q n ∧ ∀ j, answers j = .noError) ∧
      ∃ t, writeChunks answers ((List.range' q n).map (wordAt g)) s = .error t) := by
  induction n generalizing q s answers with
  | zero => exact .inl ⟨fun j hj hlt => absurd hlt (by omega), s, rfl, h⟩
  | succ n ih =>
    have hroomq : RoomFor c index q (n + 1) → noRoom s.nextByte s.pnorSize = false := by
      intro hroom
      rw [h.next, h.size]
      exact hroom q le_rfl (by omega)
    rw [List.range'_succ, List.map_cons]
    unfold Firdata.writeChunks
    rcases @Streamed.write8B _ _ _ _ _ _ (answers 0) h with ⟨hfull, heq⟩ | ⟨hfree, ⟨u, heq, hu⟩ | ⟨hanswer, u, heq⟩⟩
    · rw [heq]
      refine .inr ⟨fun hall => ?_, s, rfl⟩
      rw [hroomq hall.1] at hfull
      cases hfull
    · rw [heq]
      rcases @ih _ _ (fun j => answers (j + 1)) hu with ⟨hroom, t, ht, hstreamed⟩ | ⟨hnot, t, ht⟩
      · refine .inl ⟨fun j hj hlt => ?_, t, ht, ?_⟩
        · rcases Nat.eq_or_lt_of_le hj with rfl | hj
          · rw [← h.next, ← h.size]
            exact hfree
          · exact hroom j hj (by omega)
        · rw [show q + (n + 1) = q + 1 + n by omega]
          exact hstreamed
      · refine .inr ⟨fun hall => hnot ⟨fun j hj hlt => ?_, fun j => hall.2 (j + 1)⟩, t, ht⟩
        exact hall.1 j (by omega) (by omega)
    · rw [heq]
      exact .inr ⟨fun hall => hanswer (hall.2 0), u, rfl⟩

end Stream

/-! ## A call -/

theorem writeChunks_append {answers : Nat → FlashAnswer} {xs ys : List (List Byte)} {s : Pnor} :
    writeChunks answers (xs ++ ys) s =
      match writeChunks answers xs s with
      | .error s => .error s
      | .ok s => writeChunks (fun j => answers (xs.length + j)) ys s := by
  induction xs generalizing answers s with
  | nil =>
    simp only [List.nil_append, writeChunks, List.length_nil, Nat.zero_add]
  | cons x xs ih =>
    simp only [List.cons_append, writeChunks]
    cases hx : pnorWrite8B (answers 0) s x with
    | error u => rfl
    | ok u =>
      simp only [ih]
      cases writeChunks (fun j => answers (j + 1)) xs u with
      | error v => rfl
      | ok v =>
        simp only [List.length_cons]
        congr 1
        funext j
        congr 1
        omega

namespace FirWrite

variable {c : FirWrite} {behind : Staged.Memory} {index : Nat}

/-- The words of the call in order. -/
def chunks (c : FirWrite) (behind : Staged.Memory) : List (List Byte) :=
  c.bufferChunks behind ++ (c.extraChunk behind ++ c.fillChunks)

theorem writeFirData_eq (w : Surroundings) (s : Pnor) : c.writeFirData w s =
    match pnorPrep w.hwInit s c.pnorOffset c.pnorSize with
    | .error s => .error s
    | .ok s => writeChunks w.writeFlash (c.chunks w.behind) s := by
  unfold writeFirData chunks
  cases pnorPrep w.hwInit s c.pnorOffset c.pnorSize with
  | error t => rfl
  | ok t =>
    simp only
    rw [writeChunks_append]
    cases writeChunks w.writeFlash (c.bufferChunks w.behind) t with
    | error u => rfl
    | ok u => exact writeChunks_append.symm

/-- The bytes of the words of the call, in order. -/
def sent (c : FirWrite) (behind : Staged.Memory) (x : Nat) : Byte :=
  if x < 8 * c.fullChunks then c.memory behind x
  else if 8 * c.fullChunks ≠ c.buf.length ∧ x < 8 * c.fullChunks + 8 then
    if x < 8 * c.fullChunks + c.extraBytes then c.memory behind x else c.memory behind (x - 8)
  else 0xFF

theorem bufferChunks_eq : c.bufferChunks behind = (List.range' 0 c.fullChunks).map (wordAt (c.sent behind)) := by
  unfold bufferChunks
  refine List.ext_getElem (by simp) fun q hq _ => ?_
  simp only [List.length_map, List.length_range'] at hq
  simp only [List.getElem_map, List.getElem_range', Nat.zero_add, Nat.one_mul, chunkAt, wordAt]
  refine List.map_congr_left fun r hr => ?_
  have := List.mem_range.1 hr
  unfold sent
  rw [if_pos (by omega)]

theorem extraChunk_eq (halign : 4 ∣ c.buf.length) : c.extraChunk behind =
    (List.range' c.fullChunks (if 8 * c.fullChunks ≠ c.buf.length then 1 else 0)).map (wordAt (c.sent behind)) := by
  unfold extraChunk
  by_cases hextra : 8 * c.fullChunks ≠ c.buf.length
  · have hfull : 8 * c.fullChunks = c.buf.length + 4 := by
      unfold fullChunks at hextra ⊢
      omega
    have hbytes : c.extraBytes = 4 := by
      unfold extraBytes
      omega
    rw [if_pos hextra, if_pos hextra, hbytes]
    show [_] = [wordAt _ _]
    congr 1
    refine List.ext_getElem (by simp [chunkAt, wordAt]) fun r hr _ => ?_
    simp only [chunkAt, List.length_append, List.length_take, List.length_drop, List.length_map, List.length_range] at hr
    rw [List.getElem_append]
    simp only [chunkAt, wordAt, List.length_take, List.length_map, List.length_range, List.getElem_take, List.getElem_drop,
      List.getElem_map, List.getElem_range]
    unfold sent
    rw [if_neg (by omega), if_pos ⟨hextra, by omega⟩, hbytes]
    by_cases hr4 : r < 4
    · rw [dif_pos (by omega), if_pos (by omega)]
    · rw [dif_neg (by omega), if_neg (by omega)]
      congr 1
      omega
  · rw [if_neg hextra, if_neg hextra]
    rfl

theorem fillChunks_eq {n : Nat} (hn : c.fullChunks + (if 8 * c.fullChunks ≠ c.buf.length then 1 else 0) ≤ n) :
    c.fillChunks = (List.range' n ((c.pnorSize.toNat - c.buf.length + 7) / 8)).map (wordAt (c.sent behind)) := by
  unfold fillChunks
  refine List.ext_getElem (by simp) fun q hq _ => ?_
  simp only [List.getElem_replicate, List.getElem_map, List.getElem_range', wordAt]
  refine List.ext_getElem (by simp) fun r hr _ => ?_
  simp only [List.length_replicate] at hr
  simp only [List.getElem_replicate, List.getElem_map, List.getElem_range]
  unfold sent
  rw [if_neg (by omega), if_neg]
  rintro ⟨hextra, hlt⟩
  rw [if_pos hextra] at hn
  omega

theorem chunks_eq (halign : 4 ∣ c.buf.length) :
    c.chunks behind = (List.range' 0 c.chunkCount).map (wordAt (c.sent behind)) := by
  unfold chunks chunkCount
  rw [bufferChunks_eq, extraChunk_eq halign, @fillChunks_eq c behind _ le_rfl, ← List.map_append, ← List.map_append]
  congr 1
  rw [List.range'_append_1, Nat.add_assoc]
  have h := @List.range'_append_1 0 c.fullChunks
  simp only [Nat.zero_add] at h
  exact h

theorem not_refused : ¬c.Refused index ↔ RoomFor c index 0 c.chunkCount := by
  constructor
  · intro h j _ hj
    exact Bool.eq_false_iff.2 fun hfull => h ⟨j, by omega, hfull⟩
  · rintro h ⟨j, hj, hfull⟩
    rw [h j (Nat.zero_le j) (by omega)] at hfull
    cases hfull

theorem noRoom_false {next size : BitVec 32} (h : noRoom next size = false) :
    (next.toNat + 9) % 2 ^ 32 ≤ (next.toNat + size.toNat) % 2 ^ 32 := by
  unfold noRoom at h
  have hult := (Bool.or_eq_false_iff.1 h).2
  simp only [BitVec.ult, BitVec.toNat_add, decide_eq_false_iff_not, Nat.not_lt] at hult
  exact hult

theorem pages_bound (hle : c.buf.length ≤ c.pnorSize.toNat) (hindex : index ≤ 256) (hroom : RoomFor c index 0 c.chunkCount) :
    (index + 9 * c.chunkCount) / 256 < 2 ^ 24 := by
  by_contra hmany
  have hsmall := c.small
  have hoff := c.pnorOffset.isLt
  have hsize := c.pnorSize.isLt
  have hcount : 8 * c.chunkCount ≤ c.pnorSize.toNat + c.buf.length + 30 := by
    unfold chunkCount fullChunks
    split <;> omega
  -- the first word after `k` pages
  have hreach : ∀ k, k < 2 ^ 24 → ∃ j, j < c.chunkCount ∧ pagesBefore index j = k := by
    intro k hk
    rcases Nat.eq_zero_or_pos k with rfl | hpos
    · exact ⟨0, by omega, rfl⟩
    · refine ⟨(256 * k - index + 8) / 9 + (if 256 * k ≤ index then 1 else 0), by split <;> omega, ?_⟩
      unfold pagesBefore
      split <;> split <;> omega
  have hcheck : ∀ k, k < 2 ^ 24 → ((c.pnorOffset.toNat + 256 * k) % 2 ^ 32 + 9) % 2 ^ 32 ≤
      ((c.pnorOffset.toNat + 256 * k) % 2 ^ 32 + c.pnorSize.toNat) % 2 ^ 32 := by
    intro k hk
    obtain ⟨j, hj, rfl⟩ := hreach k hk
    have h := noRoom_false (hroom j (Nat.zero_le j) (by omega))
    rw [BitVec.toNat_add, BitVec.toNat_ofNat, Nat.add_mod_mod] at h
    exact h
  by_cases hnear : c.pnorOffset.toNat ≤ 2 ^ 32 - 10
  · have h := hcheck ((2 ^ 32 - 10 - c.pnorOffset.toNat) / 256) (by omega)
    omega
  · have h := hcheck ((2 ^ 33 - 10 - c.pnorOffset.toNat) / 256) (by omega)
    omega

/-- The state once the call is prepared. -/
def prepared (c : FirWrite) (s : Pnor) (flash : Flash) : Pnor :=
  { s with flash := flash, pnorSize := c.pnorSize, nextByte := c.pnorOffset, writeCache := blankCache }

theorem prepared_streamed {s : Pnor} {flash : Flash} {g : Staged.Memory} (hindex : s.writeCacheIndex ≤ 256) :
    Streamed c s.writeCacheIndex g flash 0 (c.prepared s flash) where
  size := rfl
  next := by
    show c.pnorOffset = _
    rw [show pagesBefore s.writeCacheIndex 0 = 0 from rfl, Nat.mul_zero]
    exact (BitVec.add_zero _).symm
  filled := by
    show 256 * 0 + s.writeCacheIndex = _
    omega
  bound := hindex
  cache i _ := by
    show (0xFF : Byte) = if i < s.writeCacheIndex then _ else _
    rw [show pagesBefore s.writeCacheIndex 0 = 0 from rfl, Nat.mul_zero, Nat.zero_add]
    unfold stream
    split <;> rfl
  flash _ := by
    rw [show pagesBefore s.writeCacheIndex 0 = 0 from rfl, Nat.mul_zero, Paged.lay_zero]
    rfl

theorem writeFirData_ok {s t : Pnor} {flash : Flash} {w : Surroundings} (halign : 4 ∣ c.buf.length)
    (hindex : s.writeCacheIndex ≤ 256) (h : c.writeFirData w { s with flash := flash } = .ok t) :
    RoomFor c s.writeCacheIndex 0 c.chunkCount ∧
      Streamed c s.writeCacheIndex (c.sent w.behind) flash c.chunkCount t := by
  rw [writeFirData_eq] at h
  unfold pnorPrep at h
  cases hinit : w.hwInit with
  | false => rw [hinit] at h; cases h
  | true =>
    rw [hinit, if_pos rfl, chunks_eq halign] at h
    replace h : writeChunks w.writeFlash ((List.range' 0 c.chunkCount).map (wordAt (c.sent w.behind)))
      (c.prepared s flash) = .ok t := h
    rcases @Streamed.writeChunks _ _ _ c.chunkCount _ _ _ w.writeFlash
      (@prepared_streamed c _ flash (c.sent w.behind) hindex) with ⟨hroom, u, hu, hstreamed⟩ | ⟨_, u, hu⟩
    · rw [hu] at h
      cases h
      rw [Nat.zero_add] at hstreamed
      exact ⟨hroom, hstreamed⟩
    · rw [hu] at h
      cases h

theorem writeFirData_succeeds {s : Pnor} (flash : Flash) (halign : 4 ∣ c.buf.length)
    (hindex : s.writeCacheIndex ≤ 256) (hroom : RoomFor c s.writeCacheIndex 0 c.chunkCount) :
    ∃ t, c.writeFirData ⟨behind, true, fun _ => .noError⟩ { s with flash := flash } = .ok t := by
  rw [writeFirData_eq]
  unfold pnorPrep
  rw [if_pos rfl, chunks_eq halign]
  rcases @Streamed.writeChunks _ _ _ c.chunkCount _ _ _ (fun _ => .noError)
    (@prepared_streamed c _ flash (c.sent behind) hindex) with ⟨_, t, ht, _⟩ | ⟨hnot, _⟩
  · exact ⟨t, ht⟩
  · exact absurd ⟨hroom, fun _ => rfl⟩ hnot

/-! ## When the law holds -/

theorem extent_le : c.extent ≤ 9 * c.wordCount := by
  unfold extent wordCount
  omega

theorem wordCount_le (hle : c.buf.length ≤ c.pnorSize.toNat) : c.wordCount ≤ c.chunkCount := by
  unfold wordCount chunkCount fullChunks
  omega

theorem chunkCount_eq (hle : c.buf.length ≤ c.pnorSize.toNat) (h8 : 8 ∣ c.buf.length) : c.chunkCount = c.wordCount := by
  unfold wordCount chunkCount fullChunks
  rw [if_neg (by omega)]
  omega

theorem sent_eq_image (h : 8 * c.fullChunks = c.buf.length) {x : Nat} : c.sent behind x = c.image x := by
  unfold sent image memory
  rw [h]
  by_cases hx : x < c.buf.length
  · rw [if_pos hx, List.getElem?_eq_getElem hx]
    rfl
  · rw [if_neg hx, if_neg (by omega), List.getElem?_eq_none (by omega)]
    rfl

theorem sent_blank (halign : 4 ∣ c.buf.length) {x : Nat} : c.sent blankCache x = c.image x := by
  have hmem : ∀ y, c.memory blankCache y = c.image y := fun _ => rfl
  have hfill : ∀ y, c.buf.length ≤ y → c.image y = 0xFF := by
    intro y hy
    unfold image
    rw [List.getElem?_eq_none hy]
    rfl
  unfold sent
  simp only [hmem]
  split
  · rfl
  · rename_i hx
    have hlen : c.buf.length ≤ 8 * c.fullChunks := by
      unfold fullChunks
      omega
    rw [hfill x (by omega)]
    split
    · split
      · rfl
      · unfold extraBytes fullChunks at *
        exact hfill _ (by omega)
    · rfl

theorem flash_eq {t : Pnor} {flash : Flash} {g : Staged.Memory} (hle : c.buf.length ≤ c.pnorSize.toNat)
    (hindex : index ≤ 256) (hpos : 0 < c.chunkCount) (hroom : RoomFor c index 0 c.chunkCount)
    (h : Streamed c index g flash c.chunkCount t) :
    t.flash = Paged.lay flash c.pnorOffset (stream index g) (256 * ((index + 9 * c.chunkCount) / 256)) := by
  have hbound := pages_bound hle hindex hroom
  have hpages : pagesBefore index c.chunkCount = (index + 9 * c.chunkCount) / 256 := if_neg (by omega)
  rw [← hpages] at hbound ⊢
  exact h.flash (by omega)

theorem firLaw_of_aligned {s : Pnor} (hle : c.buf.length ≤ c.pnorSize.toNat) (hindex : s.writeCacheIndex = 0)
    (h8 : 8 ∣ c.buf.length) (hpages : 256 ∣ c.extent) : c.FirLaw s := by
  intro flash w t ht
  have hcount := chunkCount_eq hle h8
  have hfull : 8 * c.fullChunks = c.buf.length := by
    unfold fullChunks
    omega
  obtain ⟨hroom, hstreamed⟩ := writeFirData_ok (by omega) (by omega) ht
  have hwritten : 256 * ((s.writeCacheIndex + 9 * c.chunkCount) / 256) = c.extent := by
    rw [hindex, hcount]
    unfold extent wordCount at *
    omega
  have hlt : c.extent < 2 ^ 32 := by
    have hbound := pages_bound hle (by omega) hroom
    omega
  have hflash : t.flash = Paged.lay flash c.pnorOffset (stream s.writeCacheIndex (c.sent w.behind)) c.extent := by
    rcases Nat.eq_zero_or_pos c.chunkCount with hzero | hpos
    · have hnone : c.extent = 0 := by omega
      have hzeroPages : pagesBefore s.writeCacheIndex c.chunkCount = 0 := if_pos hzero
      have h := hstreamed.flash
      rw [hzeroPages] at h
      rw [hnone]
      exact h (by decide)
    · rw [← hwritten]
      exact flash_eq hle (by omega) hpos hroom hstreamed
  constructor
  · intro i hi
    rw [encoding_get c (by have := @extent_le c; omega), hflash, Paged.lay_inside hi (by omega)]
    unfold stream
    rw [if_neg (by omega), hindex, Nat.sub_zero]
    congr 1
    exact (@eccByte_congr _ _ i (i + 1) (fun x _ => sent_eq_image hfull) (by omega)).symm
  · intro a ha
    rw [hflash]
    refine Paged.lay_frame (Nat.le_of_not_lt fun hlt' => ha _ hlt' ?_)
    rw [BitVec.ofNat_toNat, BitVec.setWidth_eq, BitVec.add_comm, BitVec.sub_add_cancel]

theorem exists_flash {s : Pnor} (flash : Flash) (behind : Staged.Memory) (hle : c.buf.length ≤ c.pnorSize.toNat)
    (halign : 4 ∣ c.buf.length) (hindex : s.writeCacheIndex ≤ 256) (hpos : 0 < c.chunkCount)
    (hroom : RoomFor c s.writeCacheIndex 0 c.chunkCount) (hlaw : c.FirLaw s) :
    c.Written flash (Paged.lay flash c.pnorOffset (stream s.writeCacheIndex (c.sent behind))
      (256 * ((s.writeCacheIndex + 9 * c.chunkCount) / 256))) := by
  obtain ⟨t, ht⟩ := @writeFirData_succeeds _ behind _ flash halign hindex hroom
  have hstreamed := (writeFirData_ok halign hindex ht).2
  rw [← flash_eq hle hindex hpos hroom hstreamed]
  exact hlaw flash _ t ht

/-- The pages written are the section: a section that ends within a page is cut short or overrun. -/
theorem FirLaw.pages_eq {s : Pnor} (hlaw : c.FirLaw s) (hle : c.buf.length ≤ c.pnorSize.toNat) (halign : 4 ∣ c.buf.length)
    (hindex : s.writeCacheIndex ≤ 256) (hpos : 0 < c.chunkCount)
    (hroom : RoomFor c s.writeCacheIndex 0 c.chunkCount) :
    256 * ((s.writeCacheIndex + 9 * c.chunkCount) / 256) = c.extent := by
  have hbound := pages_bound hle hindex hroom
  have hextent := @extent_le c
  have hcount := wordCount_le hle
  have hwritten := fun flash => exists_flash flash Staged.zeros hle halign hindex hpos hroom hlaw
  generalize hw : 256 * ((s.writeCacheIndex + 9 * c.chunkCount) / 256) = written at hwritten ⊢
  rcases Nat.lt_trichotomy written c.extent with hlt | heq | hgt
  · -- a byte of the section that is left as it was
    have h := (hwritten fun _ => eccByte c.image written + 1).encoded written hlt
    rw [encoding_get c (by omega), Paged.lay_outside le_rfl (by omega), Option.some.injEq] at h
    have hne : eccByte c.image written + 1 ≠ eccByte c.image written := by
      generalize eccByte c.image written = b
      revert b
      decide
    exact absurd h.symm hne
  · exact heq
  · -- a byte behind the section that is written
    have h := (hwritten fun _ => stream s.writeCacheIndex (c.sent Staged.zeros) c.extent + 1).frame
      (c.pnorOffset + BitVec.ofNat 32 c.extent) fun i hi heq => by
        have hoff := congrArg (fun a => (a - c.pnorOffset).toNat) heq
        rw [Paged.toNat_offset (by omega), Paged.toNat_offset (by omega)] at hoff
        omega
    rw [Paged.lay_inside hgt (by omega)] at h
    have hne : stream s.writeCacheIndex (c.sent Staged.zeros) c.extent ≠
        stream s.writeCacheIndex (c.sent Staged.zeros) c.extent + 1 := by
      generalize stream s.writeCacheIndex (c.sent Staged.zeros) c.extent = b
      revert b
      decide
    exact absurd h hne

/-- A cache that is not empty shifts the section, which does not begin with fill. -/
theorem FirLaw.index_eq {s : Pnor} (hlaw : c.FirLaw s) (hle : c.buf.length ≤ c.pnorSize.toNat) (halign : 4 ∣ c.buf.length)
    (hindex : s.writeCacheIndex ≤ 256) (hpos : 0 < c.chunkCount)
    (hroom : RoomFor c s.writeCacheIndex 0 c.chunkCount) (hextent : 256 ≤ c.extent) : s.writeCacheIndex = 0 := by
  by_contra hne
  have hbound := pages_bound hle hindex hroom
  have hwritten := exists_flash (fun _ => 0) blankCache hle halign hindex hpos hroom hlaw
  rw [FirLaw.pages_eq hlaw hle halign hindex hpos hroom] at hwritten
  have hpages := FirLaw.pages_eq hlaw hle halign hindex hpos hroom
  have hcount := @extent_le c
  have hsame : ∀ i, i < 256 → eccByte c.image i = stream s.writeCacheIndex c.image i := by
    intro i hi
    have h := hwritten.encoded i (by omega)
    rw [encoding_get c (by omega), Paged.lay_inside (by omega) (by omega), Option.some.injEq] at h
    rw [h, show c.sent blankCache = c.image from funext fun x => sent_blank halign]
  -- the fill in the cache comes first, and what it displaces comes back behind it
  have hfill : ∀ i, i < 9 → eccByte c.image i = 0xFF := by
    intro i
    induction i using Nat.strong_induction_on with
    | _ i ih =>
      intro hi
      rw [hsame i (by omega)]
      unfold stream
      split
      · rfl
      · exact ih _ (by omega) (by omega)
  have hzero : eccByte c.image 8 = 0 := by
    refine eccByte_fill fun r hr => ?_
    have h := hfill r (by omega)
    have hdata := @eccByte_data c.image 0 r hr
    rw [Nat.mul_zero, Nat.zero_add] at hdata
    rw [← hdata]
    exact h
  rw [hfill 8 (by decide)] at hzero
  cases hzero

theorem FirLaw.whole_words {s : Pnor} (hlaw : c.FirLaw s) (hle : c.buf.length ≤ c.pnorSize.toNat) (halign : 4 ∣ c.buf.length)
    (hindex : s.writeCacheIndex = 0) (hpos : 0 < c.chunkCount)
    (hroom : RoomFor c s.writeCacheIndex 0 c.chunkCount) : 8 ∣ c.buf.length := by
  by_contra hpart
  have hbound := pages_bound hle (by omega) hroom
  have hwritten := exists_flash (fun _ => 0) Staged.zeros hle halign (by omega) hpos hroom hlaw
  rw [FirLaw.pages_eq hlaw hle halign (by omega) hpos hroom] at hwritten
  have hpages := FirLaw.pages_eq hlaw hle halign (by omega) hpos hroom
  have hcount := @extent_le c
  have hlast : 9 * (c.buf.length / 8) + 4 < c.extent := by
    unfold extent
    omega
  have hend : 8 * (c.buf.length / 8) + 4 = c.buf.length := by omega
  have h := hwritten.encoded (9 * (c.buf.length / 8) + 4) hlast
  rw [encoding_get c (by omega), Paged.lay_inside hlast (by omega), Option.some.injEq] at h
  unfold stream at h
  rw [if_neg (by omega), hindex, Nat.sub_zero, eccByte_data (by decide), eccByte_data (by decide), hend] at h
  have hfull : c.buf.length < 8 * c.fullChunks := by
    unfold fullChunks
    omega
  unfold sent image memory at h
  rw [if_pos hfull, List.getElem?_eq_none le_rfl] at h
  cases h

theorem firLaw_iff {s : Pnor} (hle : c.buf.length ≤ c.pnorSize.toNat) (halign : 4 ∣ c.buf.length)
    (hindex : s.writeCacheIndex ≤ 256) : c.FirLaw s ↔ c.FirOk s := by
  constructor
  · intro hlaw
    by_cases hzero : c.pnorSize = 0
    · exact .inl hzero
    · by_cases hrefused : c.Refused s.writeCacheIndex
      · exact .inr (.inl hrefused)
      · have hroom := not_refused.1 hrefused
        have hsize : 0 < c.pnorSize.toNat := by
          rcases Nat.eq_zero_or_pos c.pnorSize.toNat with h | h
          · exact absurd (BitVec.eq_of_toNat_eq h) hzero
          · exact h
        have hpos : 0 < c.chunkCount := by
          have := wordCount_le hle
          unfold wordCount at this
          omega
        have hpages := FirLaw.pages_eq hlaw hle halign hindex hpos hroom
        have hextent : 0 < c.extent := by
          unfold extent
          omega
        have hempty := FirLaw.index_eq hlaw hle halign hindex hpos hroom (by omega)
        refine .inr (.inr ⟨hempty, FirLaw.whole_words hlaw hle halign hempty hpos hroom, ?_⟩)
        rw [← hpages]
        exact Nat.dvd_mul_right 256 _
  · rintro (hzero | ⟨j, hj, hfull⟩ | ⟨hempty, h8, hpages⟩)
    · have hnone : c.pnorSize.toNat = 0 := by rw [hzero]; rfl
      have hcount : c.chunkCount = 0 := by
        unfold chunkCount fullChunks
        split <;> omega
      have hextent : c.extent = 0 := by
        unfold extent
        omega
      intro flash w t ht
      have hstreamed := (writeFirData_ok halign hindex ht).2
      have hsame := hstreamed.flash
      rw [hcount, show pagesBefore s.writeCacheIndex 0 = 0 from rfl, Nat.mul_zero, Paged.lay_zero] at hsame
      constructor
      · intro i hi
        omega
      · intro a _
        rw [hsame (by decide)]
    · intro flash w t ht
      have hroom := (writeFirData_ok halign hindex ht).1 j (Nat.zero_le j) (by omega)
      rw [hroom] at hfull
      cases hfull
    · exact firLaw_of_aligned hle hempty h8 hpages

end FirWrite

/-! ## Every state reached -/

theorem pnorWrite8B_index {answer : FlashAnswer} {s : Pnor} {data : List Byte} (h : s.writeCacheIndex ≤ 256) :
    (outcome (pnorWrite8B answer s data)).writeCacheIndex ≤ 256 := by
  unfold pnorWrite8B
  rw [if_neg (show ¬pageProgramBytes < s.writeCacheIndex by unfold pageProgramBytes; omega)]
  have hcopied : s.writeCacheIndex + copySize s.writeCacheIndex ≤ 256 := by
    unfold copySize pageProgramBytes
    split <;> omega
  simp only
  split
  · exact h
  · split
    · cases answer with
      | error left => exact hcopied
      | noError => exact le_trans (Nat.sub_le 9 _) (by decide)
    · exact hcopied

theorem writeChunks_index {answers : Nat → FlashAnswer} {ds : List (List Byte)} {s : Pnor}
    (h : s.writeCacheIndex ≤ 256) : (outcome (writeChunks answers ds s)).writeCacheIndex ≤ 256 := by
  induction ds generalizing answers s with
  | nil => exact h
  | cons d ds ih =>
    have hword := @pnorWrite8B_index (answers 0) _ d h
    unfold writeChunks
    cases hres : pnorWrite8B (answers 0) s d with
    | error u => rw [hres] at hword; exact hword
    | ok u => rw [hres] at hword; exact ih hword

theorem writeFirData_index {c : FirWrite} {w : Surroundings} {s : Pnor} (h : s.writeCacheIndex ≤ 256) :
    (outcome (c.writeFirData w s)).writeCacheIndex ≤ 256 := by
  rw [FirWrite.writeFirData_eq]
  unfold pnorPrep
  cases w.hwInit with
  | false => exact h
  | true => exact writeChunks_index h

theorem run_index {flash : Flash} {s : Pnor} {es : List (FirWrite × Surroundings)}
    (h : Run (StepOf Pnor.next) (.init flash) es s) : s.writeCacheIndex ≤ 256 := by
  refine h.invariant (P := fun s => s.writeCacheIndex ≤ 256) (fun s e t hs hstep => ?_) (Nat.zero_le _)
  cases hstep
  exact writeFirData_index hs

/-- After any calls, a call keeps the law in exactly the cases the condition names. -/
theorem run_firLaw_iff {flash : Flash} {s : Pnor} {es : List (FirWrite × Surroundings)} {c : FirWrite}
    (h : Run (StepOf Pnor.next) (.init flash) es s) (hle : c.buf.length ≤ c.pnorSize.toNat)
    (halign : 4 ∣ c.buf.length) : c.FirLaw s ↔ c.FirOk s :=
  FirWrite.firLaw_iff hle halign (run_index h)

/-- Sixteen bytes are written with success, and the flash is as it was: their eighteen bytes stay in the cache. -/
def smallWrite : FirWrite where
  pnorOffset := 0x1000
  pnorSize := 16
  buf := List.replicate 16 0x5A
  small := by decide

theorem run_firLaw_witness : smallWrite.FirLaw (.init fun _ => 0) ↔ smallWrite.FirOk (.init fun _ => 0) :=
  run_firLaw_iff (.nil _) (by decide) (by decide)

theorem smallWrite_not_firLaw : ¬smallWrite.FirLaw (.init fun _ => 0) := by
  intro h
  have hok := (FirWrite.firLaw_iff (c := smallWrite) (s := .init fun _ => 0) (by decide) (by decide) (by decide)).1 h
  revert hok
  decide

end Occ.Firdata
