/-
The framing of doorbells: what a call of the receiver returns is decided by the first start packet that comes and the
fifteen packets after it. It takes them for a doorbell when the last of them ends one, so a mixture of two doorbells is
taken if as many packets were lost as one doorbell has. After a doorbell that arrived whole, the next one that does is
accepted.
-/
import Occ.Dcom.DoorbellRx
import Occ.Lib.Transition

namespace Occ.Dcom

open Function (update)

/-! ## Streams -/

/-- The place of a packet in all that the master sent. -/
def QueuedPacket.pos (p : QueuedPacket) : Nat := 16 * p.doorbell + p.index

def QueuedPacket.starts (p : QueuedPacket) : Bool := Packet.magic1 p.word == pbaxMagicNumber2
def QueuedPacket.ends (p : QueuedPacket) : Bool := Packet.magic2 p.word == pbaxMagicNumber

/-- Doorbells with their magic numbers, in which no other packet begins with the one of the start. -/
structure FromMaster (d : Nat → SlvInboxDoorbell) : Prop where
  magic1 : ∀ k, (d k).magic1 = pbaxMagicNumber2
  magic2 : ∀ k, (d k).magic2 = pbaxMagicNumber
  payload : ∀ k j w, 0 < j → (d k).words[j]? = some w → Packet.magic1 w ≠ pbaxMagicNumber2

def packets (reads : List PbaxRead) : List QueuedPacket :=
  reads.filterMap fun | .packet p => some p | _ => none

/-- The packets come from the doorbells, in their order, and fewer than sixteen in a row are lost. -/
structure Formed (d : Nat → SlvInboxDoorbell) (reads : List PbaxRead) : Prop where
  packet : ∀ p ∈ packets reads, (d p.doorbell).words[p.index]? = some p.word
  order : (packets reads).IsChain fun p q => p.pos < q.pos ∧ q.pos ≤ p.pos + 16

theorem append4_extract_first {p q r t : Nat} (a : BitVec p) (b : BitVec q) (c : BitVec r) (e : BitVec t) :
    (a ++ b ++ c ++ e).extractLsb' (q + r + t) p = a := by
  rw [BitVec.extractLsb'_append_eq_of_le (by omega), Nat.add_sub_cancel]
  rw [BitVec.extractLsb'_append_eq_of_le (by omega), Nat.add_sub_cancel]
  exact BitVec.extractLsb'_append_eq_left

theorem words_magic1 (d : SlvInboxDoorbell) :
    (d.magic1 ++ d.pobId.nodeId ++ d.pobId.chipId ++ d.ppbFmax).extractLsb' 32 32 = d.magic1 :=
  append4_extract_first _ _ _ _

theorem words_magic2 (d : SlvInboxDoorbell) : (0#24 ++ d.magicCounter ++ d.magic2).extractLsb' 0 32 = d.magic2 :=
  BitVec.extractLsb'_append_eq_right

/-- The sixteen packets in the buffer are those of one doorbell. -/
def DoorbellBuffer.Holds (s : DoorbellBuffer) (k : Nat) : Prop := ∀ j < 16, (s.words j).doorbell = k ∧ (s.words j).index = j

/-! ## The law -/

/-- A call of the receiver stays in the buffer, ends, and returns the full size only with one doorbell. -/
structure FramingLaw (s : DoorbellBuffer) (reads : List PbaxRead) : Prop where
  contained : ∀ i, 16 ≤ i → (dcomRxSlvInboxDoorbell s reads).2.1.words i = s.words i
  ends : reads ≠ [] → (dcomRxSlvInboxDoorbell s reads).2.2.length < reads.length
  single : (dcomRxSlvInboxDoorbell s reads).1 = sizeofDoorbell → ∃ k, (dcomRxSlvInboxDoorbell s reads).2.1.Holds k

/-- The next packets, if they come without an error and without a pause that ends the message. -/
def gather : Nat → List PbaxRead → Option (List QueuedPacket)
  | 0, _ => some []
  | n + 1, .packet p :: reads => (gather n reads).map (p :: ·)
  | n + 1, .empty false :: reads => gather (n + 1) reads
  | _, _ => none

/-- The first start packet with the fifteen packets after it. -/
def frame : List PbaxRead → Option (List QueuedPacket)
  | .packet p :: reads => if p.starts then (gather 15 reads).map (p :: ·) else frame reads
  | .empty false :: reads => frame reads
  | _ => none

/-- When the sixteen packets end with the magic number of the end, none between them was lost. -/
def FrameOk (reads : List PbaxRead) : Prop :=
  ∀ l p q, frame reads = some l → l.head? = some p → l.getLast? = some q → q.ends = true → q.pos = p.pos + 15

/-! ## A turn of the loop -/

/-- In the loop there are fewer than sixteen packets, and the first of them is a start packet. -/
structure InFrame (n : Nat) (s : DoorbellBuffer) : Prop where
  lt : n < 16
  start : n = 1 → (s.words 0).starts = true

section Turn

variable {n : Nat} {s : DoorbellBuffer} {p : QueuedPacket}

theorem InFrame.zero (s : DoorbellBuffer) : InFrame 0 s := ⟨by decide, nofun⟩

theorem rxStep_empty (h : InFrame n s) : rxStep (8 * n) s (.empty false) = .more (8 * n) s := by
  have hlt := h.lt
  unfold rxStep rxCheck
  by_cases h1 : n = 1
  · subst h1
    have := h.start rfl
    simp only [QueuedPacket.starts, beq_iff_eq] at this
    simp [this]
  · rw [if_neg (by omega), if_neg (by unfold sizeofDoorbell; omega)]

theorem write_words (n : Nat) (p : QueuedPacket) : (s.write (8 * n) p).words = update s.words n p := by
  unfold DoorbellBuffer.write
  rw [Nat.mul_div_cancel_left n (by decide)]

theorem rxStep_first : rxStep 0 s (.packet p) =
    if p.starts then .more 8 (s.write 0 p) else .more 0 ((s.write 0 p).flag dcomDoorbellPacketDropErr) := by
  have hw : ((s.write 0 p).words 0) = p := by
    have := write_words (s := s) 0 p
    rw [Nat.mul_zero] at this
    rw [this]
    exact Function.update_self _ _ _
  show rxCheck (0 + 8) (s.write 0 p) = _
  unfold rxCheck
  rw [if_pos rfl, hw]
  unfold QueuedPacket.starts
  by_cases hm : Packet.magic1 p.word = pbaxMagicNumber2 <;> simp [hm]

theorem rxStep_next (h : 1 ≤ n) (hlt : n < 15) : rxStep (8 * n) s (.packet p) = .more (8 * (n + 1)) (s.write (8 * n) p) := by
  show rxCheck (8 * n + 8) (s.write (8 * n) p) = _
  unfold rxCheck
  rw [if_neg (by omega), if_neg (by unfold sizeofDoorbell; omega)]
  rfl

theorem rxStep_last : rxStep 120 s (.packet p) =
    if p.ends then .done 128 (s.write 120 p).sequence else .done 127 ((s.write 120 p).flag dcomDoorbellBadMagicNumErr) := by
  have hw : ((s.write 120 p).words 15) = p := by
    rw [show (120 : Nat) = 8 * 15 from rfl, write_words]
    exact Function.update_self _ _ _
  show rxCheck (120 + 8) (s.write 120 p) = _
  unfold rxCheck
  rw [if_neg (by decide), if_pos (show 120 + 8 = sizeofDoorbell from rfl), hw]
  unfold QueuedPacket.ends
  by_cases hm : Packet.magic2 p.word = pbaxMagicNumber <;> simp [hm, sizeofDoorbell]

theorem sequence_words (s : DoorbellBuffer) : s.sequence.words = s.words := by
  unfold DoorbellBuffer.sequence
  dsimp only
  split <;> rfl

theorem InFrame.write (h : 1 ≤ n) (hlt : n < 15) : InFrame (n + 1) (s.write (8 * n) p) :=
  ⟨by omega, by omega⟩

theorem InFrame.first (h : p.starts = true) : InFrame 1 (s.write 0 p) := by
  refine ⟨by decide, fun _ => ?_⟩
  have := write_words (s := s) 0 p
  rw [Nat.mul_zero] at this
  rw [this, Function.update_self]
  exact h

end Turn

/-! ## A call -/

/-- The words from `n` on are those of a list. -/
def overlay (n : Nat) (l : List QueuedPacket) (words : Nat → QueuedPacket) : Nat → QueuedPacket := fun i =>
  if i < n then words i else (l[i - n]?).getD (words i)

section Call

variable {n m : Nat} {s : DoorbellBuffer} {p : QueuedPacket} {l : List QueuedPacket} {reads : List PbaxRead}

theorem overlay_cons (words : Nat → QueuedPacket) : overlay n (p :: l) words = overlay (n + 1) l (update words n p) := by
  funext i
  unfold overlay
  rcases lt_trichotomy i n with h | rfl | h
  · rw [if_pos h, if_pos (by omega), Function.update_of_ne (by omega)]
  · simp
  · rw [if_neg (by omega), if_neg (by omega), Function.update_of_ne (by omega)]
    obtain ⟨k, rfl⟩ : ∃ k, i = n + 1 + k := ⟨i - (n + 1), by omega⟩
    rw [show n + 1 + k - n = k + 1 by omega, show n + 1 + k - (n + 1) = k by omega]
    rfl

theorem overlay_nil (words : Nat → QueuedPacket) : overlay n [] words = words := by
  funext i
  simp [overlay]

theorem gather_ne_nil : gather (m + 1) reads ≠ some [] := by
  induction reads with
  | nil => simp [gather]
  | cons r reads ih =>
    cases r with
    | error p => simp [gather]
    | packet p => simp [gather]
    | empty late => cases late <;> simp [gather, ih]

/-- From inside a frame, the packets that come next fill it and the last one decides; without them the call returns less. -/
theorem rxLoop_gather (hpos : 1 ≤ n) (hm : n + m = 16) (hmpos : 1 ≤ m) (h : InFrame n s) :
    match gather m reads with
    | some l => (rxLoop (8 * n) s reads).2.1.words = overlay n l s.words ∧
        ((rxLoop (8 * n) s reads).1 = if l.getLast?.any QueuedPacket.ends then 128 else 127)
    | none => (rxLoop (8 * n) s reads).1 < 127 := by
  obtain ⟨m, rfl⟩ : ∃ k, m = k + 1 := ⟨m - 1, by omega⟩
  induction reads generalizing n m s with
  | nil => simp only [gather, rxLoop]; omega
  | cons r reads ih =>
    cases r with
    | error p => simp only [gather, rxLoop, rxStep]; omega
    | empty late =>
      cases late with
      | true => simp only [gather, rxLoop, rxStep]; omega
      | false =>
        simp only [gather, rxLoop, rxStep_empty h]
        exact ih hpos h m hm hmpos
    | packet p =>
      rcases Nat.lt_or_ge n 15 with hlt | hge
      · obtain ⟨k, rfl⟩ : ∃ k, m = k + 1 := ⟨m - 1, by omega⟩
        have := ih (n := n + 1) (s := s.write (8 * n) p) (by omega) (InFrame.write hpos hlt) k (by omega) (by omega)
        simp only [rxLoop, rxStep_next hpos hlt, gather] at this ⊢
        cases hg : gather (k + 1) reads with
        | none =>
          rw [hg] at this
          exact this
        | some l =>
          rw [hg] at this
          obtain ⟨hwords, hbytes⟩ := this
          have hne : l ≠ [] := by
            rintro rfl
            exact gather_ne_nil hg
          refine ⟨?_, ?_⟩
          · rw [hwords, write_words, overlay_cons]
          · rw [hbytes, List.getLast?_cons_of_ne_nil hne]
      · obtain rfl : n = 15 := by have := h.lt; omega
        obtain rfl : m = 0 := by omega
        simp only [gather, rxLoop, Option.map_some]
        rw [show 8 * 15 = 120 from rfl, rxStep_last]
        have hwords := write_words (s := s) 15 p
        cases hp : p.ends with
        | true =>
          refine ⟨?_, by simp [hp]⟩
          rw [if_pos rfl, sequence_words, show (120 : Nat) = 8 * 15 from rfl, hwords, overlay_cons, overlay_nil]
        | false =>
          refine ⟨?_, by simp [hp]⟩
          rw [if_neg (by decide)]
          show (s.write 120 p).words = _
          rw [show (120 : Nat) = 8 * 15 from rfl, hwords, overlay_cons, overlay_nil]

/-- What the first start packet with those after it decides. -/
theorem call_frame :
    match frame reads with
    | some l => (∀ j p, l[j]? = some p → (dcomRxSlvInboxDoorbell s reads).2.1.words j = p) ∧
        ((dcomRxSlvInboxDoorbell s reads).1 = if l.getLast?.any QueuedPacket.ends then 128 else 127)
    | none => (dcomRxSlvInboxDoorbell s reads).1 < 127 := by
  unfold dcomRxSlvInboxDoorbell
  induction reads generalizing s with
  | nil => simp [frame, rxLoop]
  | cons r reads ih =>
    cases r with
    | error p => simp [frame, rxLoop, rxStep]
    | empty late =>
      cases late with
      | true => simp [frame, rxLoop, rxStep]
      | false =>
        simp only [frame, rxLoop, show rxStep 0 s (.empty false) = .more 0 s from rxStep_empty (n := 0) (.zero s)]
        exact ih
    | packet p =>
      simp only [frame, rxLoop, rxStep_first]
      cases hp : p.starts with
      | false =>
        simp only [Bool.false_eq_true, if_false]
        exact ih
      | true =>
        simp only [if_true]
        have := @rxLoop_gather 1 15 _ reads (by decide) rfl (by decide) (InFrame.first (s := s) hp)
        cases hg : gather 15 reads with
        | none =>
          rw [hg] at this
          exact this
        | some l =>
          rw [hg] at this
          obtain ⟨hwords, hbytes⟩ := this
          have hne : l ≠ [] := by
            rintro rfl
            exact gather_ne_nil hg
          refine ⟨fun j q hq => ?_, ?_⟩
          · show (rxLoop 8 (s.write 0 p) reads).2.1.words j = q
            rw [show (8 : Nat) = 8 * 1 from rfl, hwords]
            have hw : (s.write 0 p).words = update s.words 0 p := write_words (s := s) 0 p
            rw [hw, ← overlay_cons]
            simp [overlay, hq]
          · show (rxLoop 8 (s.write 0 p) reads).1 = _
            rw [show (8 : Nat) = 8 * 1 from rfl, hbytes, List.getLast?_cons_of_ne_nil hne]

/-! ## The law of a call -/

/-- No turn of the loop writes behind the buffer. -/
theorem rxLoop_contained (h : InFrame n s) {i : Nat} (hi : 16 ≤ i) : (rxLoop (8 * n) s reads).2.1.words i = s.words i := by
  have hwrite {n : Nat} {s : DoorbellBuffer} {p : QueuedPacket} (hlt : n < 16) : (s.write (8 * n) p).words i = s.words i := by
    rw [write_words, Function.update_of_ne (by omega)]
  induction reads generalizing n s with
  | nil => rfl
  | cons r reads ih =>
    have hlt := h.lt
    cases r with
    | error p =>
      cases p with
      | none => rfl
      | some p => exact hwrite hlt
    | empty late =>
      cases late with
      | true => rfl
      | false =>
        simp only [rxLoop, rxStep_empty h]
        exact ih h
    | packet p =>
      obtain rfl | hpos := Nat.eq_zero_or_pos n
      · have hw : (s.write 0 p).words i = s.words i := hwrite (n := 0) (by decide)
        simp only [rxLoop, Nat.mul_zero, rxStep_first]
        cases hp : p.starts with
        | true => exact (ih (n := 1) (.first hp)).trans hw
        | false => exact (ih (n := 0) (.zero _)).trans hw
      · rcases Nat.lt_or_ge n 15 with hlt' | hge
        · simp only [rxLoop, rxStep_next hpos hlt']
          exact (ih (InFrame.write hpos hlt')).trans (hwrite hlt)
        · obtain rfl : n = 15 := by omega
          have hw : (s.write 120 p).words i = s.words i := hwrite (n := 15) (by decide)
          simp only [rxLoop, show 8 * 15 = 120 from rfl, rxStep_last]
          cases hp : p.ends with
          | true =>
            rw [if_pos rfl, sequence_words]
            exact hw
          | false => exact hw

theorem rxLoop_length (bytes : Nat) (s : DoorbellBuffer) (r : PbaxRead) (reads : List PbaxRead) :
    (rxLoop bytes s (r :: reads)).2.2.length ≤ reads.length := by
  induction reads generalizing bytes s r with
  | nil =>
    unfold rxLoop
    split
    · exact Nat.le_refl _
    · exact Nat.le_refl _
  | cons r' reads ih =>
    unfold rxLoop
    split
    · exact (ih _ _ _).trans (Nat.le_succ _)
    · exact Nat.le_refl _

theorem gather_sublist (h : gather m reads = some l) : l.Sublist (packets reads) := by
  induction reads generalizing m l with
  | nil =>
    cases m with
    | zero => cases h; exact List.nil_sublist _
    | succ m => cases h
  | cons r reads ih =>
    cases m with
    | zero => cases h; exact List.nil_sublist _
    | succ m =>
      cases r with
      | error p => cases h
      | empty late =>
        cases late with
        | true => cases h
        | false => exact ih h
      | packet p =>
        obtain ⟨l', hl', rfl⟩ := Option.map_eq_some_iff.1 h
        exact (ih hl').cons_cons p

theorem gather_length (h : gather m reads = some l) : l.length = m := by
  induction reads generalizing m l with
  | nil =>
    cases m with
    | zero => cases h; rfl
    | succ m => cases h
  | cons r reads ih =>
    cases m with
    | zero => cases h; rfl
    | succ m =>
      cases r with
      | error p => cases h
      | empty late =>
        cases late with
        | true => cases h
        | false => exact ih h
      | packet p =>
        obtain ⟨l', hl', rfl⟩ := Option.map_eq_some_iff.1 h
        exact congrArg (· + 1) (ih hl')

theorem frame_spec (h : frame reads = some l) :
    l.Sublist (packets reads) ∧ l.length = 16 ∧ ∃ p, l.head? = some p ∧ p.starts = true := by
  induction reads with
  | nil => cases h
  | cons r reads ih =>
    cases r with
    | error p => cases h
    | empty late =>
      cases late with
      | true => cases h
      | false => exact ih h
    | packet p =>
      simp only [frame] at h
      split at h
      · rename_i hp
        obtain ⟨l', hl', rfl⟩ := Option.map_eq_some_iff.1 h
        exact ⟨(gather_sublist hl').cons_cons p, congrArg (· + 1) (gather_length hl'), p, rfl, hp⟩
      · obtain ⟨hsub, hrest⟩ := ih h
        exact ⟨hsub.cons p, hrest⟩

end Call

/-! ## One doorbell -/

section Single

variable {d : Nat → SlvInboxDoorbell} {reads : List PbaxRead} {l : List QueuedPacket} {p q : QueuedPacket}

theorem Formed.index_lt (h : Formed d reads) (hp : p ∈ packets reads) : p.index < 16 :=
  (Vector.getElem?_eq_some_iff.1 (h.packet p hp)).1

theorem Formed.pairwise (h : Formed d reads) : (packets reads).Pairwise fun p q => p.pos < q.pos :=
  have : Trans (fun p q : QueuedPacket => p.pos < q.pos) (fun p q : QueuedPacket => p.pos < q.pos)
      fun p q : QueuedPacket => p.pos < q.pos := ⟨fun h h' => Nat.lt_trans h h'⟩
  List.isChain_iff_pairwise.1 (h.order.imp fun _ _ h => h.1)

theorem Formed.index_of_starts (hd : FromMaster d) (h : Formed d reads) (hp : p ∈ packets reads) (hs : p.starts = true) :
    p.index = 0 := by
  by_contra hne
  exact hd.payload _ _ _ (Nat.pos_of_ne_zero hne) (h.packet p hp) (by simpa [QueuedPacket.starts] using hs)

theorem pos_le_pos (h : l.Pairwise fun p q => p.pos < q.pos) {i k : Nat} (hi : l[i]? = some p)
    (hk : l[i + k]? = some q) : p.pos + k ≤ q.pos := by
  induction k generalizing q with
  | zero =>
    rw [Nat.add_zero, hi] at hk
    cases hk
    exact Nat.le_refl _
  | succ k ih =>
    obtain ⟨hlt, he⟩ := List.getElem?_eq_some_iff.1 hk
    have hk' : l[i + k]? = some (l[i + k]) := List.getElem?_eq_getElem (by omega)
    have hstep : (l[i + k]).pos < (l[i + (k + 1)]).pos := List.pairwise_iff_getElem.1 h _ _ _ _ (by omega)
    have := ih hk'
    rw [he] at hstep
    omega

/-- A call returns the full size only with one doorbell exactly if the condition on the stream holds. -/
theorem single_iff (hd : FromMaster d) (h : Formed d reads) (s : DoorbellBuffer) :
    ((dcomRxSlvInboxDoorbell s reads).1 = sizeofDoorbell → ∃ k, (dcomRxSlvInboxDoorbell s reads).2.1.Holds k) ↔
      FrameOk reads := by
  have hcall := @call_frame s reads
  cases hf : frame reads with
  | none =>
    rw [hf] at hcall
    refine iff_of_true (fun hfull => ?_) fun l p q hl => nomatch hf.symm.trans hl
    dsimp only at hcall
    rw [hfull] at hcall
    exact absurd hcall (by decide)
  | some l =>
    rw [hf] at hcall
    obtain ⟨hwords, hbytes⟩ := hcall
    obtain ⟨hsub, hlen, p, hp, hstart⟩ := frame_spec hf
    have hpair := h.pairwise.sublist hsub
    have hmem (j : Nat) (x : QueuedPacket) (hx : l[j]? = some x) : x ∈ packets reads :=
      hsub.subset (List.mem_of_getElem? hx)
    have hp0 : l[0]? = some p := by rw [← List.head?_eq_getElem?]; exact hp
    have hindex : p.index = 0 := h.index_of_starts hd (hmem 0 p hp0) hstart
    obtain ⟨q, hq⟩ : ∃ q, l[15]? = some q := ⟨l[15], List.getElem?_eq_getElem (by omega)⟩
    have hlast : l.getLast? = some q := by
      rw [List.getLast?_eq_getElem?, hlen]
      exact hq
    rw [hlast] at hbytes
    have hok : FrameOk reads ↔ (q.ends = true → q.pos = p.pos + 15) := by
      constructor
      · exact fun hok hends => hok l p q hf hp hlast hends
      · rintro hok l' p' q' hl' hp' hq' hends
        cases hf.symm.trans hl'
        cases hp.symm.trans hp'
        cases hlast.symm.trans hq'
        exact hok hends
    rw [hok]
    cases hends : q.ends with
    | false =>
      refine iff_of_true (fun hfull => ?_) nofun
      rw [hfull] at hbytes
      simp [hends, sizeofDoorbell] at hbytes
    | true =>
      have hfull : (dcomRxSlvInboxDoorbell s reads).1 = sizeofDoorbell := by simpa [hends, sizeofDoorbell] using hbytes
      constructor
      · intro hsingle _
        obtain ⟨k, hk⟩ := hsingle hfull
        have h0 := hk 0 (by decide)
        have h15 := hk 15 (by decide)
        rw [hwords 0 p hp0] at h0
        rw [hwords 15 q hq] at h15
        unfold QueuedPacket.pos
        omega
      · intro hpos _
        refine ⟨p.doorbell, fun j hj => ?_⟩
        obtain ⟨x, hx⟩ : ∃ x, l[j]? = some x := ⟨l[j], List.getElem?_eq_getElem (by omega)⟩
        have hlow := pos_le_pos hpair hp0 (k := j) (by rw [Nat.zero_add]; exact hx)
        have hhigh := pos_le_pos hpair hx (k := 15 - j) (by rw [show j + (15 - j) = 15 by omega]; exact hq)
        have hxlt := h.index_lt (hmem j x hx)
        have := hpos rfl
        rw [hwords j x hx]
        unfold QueuedPacket.pos at *
        omega

theorem framingLaw_iff (hd : FromMaster d) (h : Formed d reads) (s : DoorbellBuffer) :
    FramingLaw s reads ↔ FrameOk reads := by
  rw [← single_iff hd h s]
  refine ⟨fun hlaw => hlaw.single, fun hsingle => ⟨fun i hi => rxLoop_contained (.zero s) hi, fun hne => ?_, hsingle⟩⟩
  cases reads with
  | nil => exact absurd rfl hne
  | cons r reads => exact Nat.lt_succ_of_le (rxLoop_length 0 s r reads)

end Single

/-! ## Doorbells that arrive whole -/

/-- Reads that bring these packets, without an error and without a pause that ends the message. -/
inductive Brings : List QueuedPacket → List PbaxRead → Prop
  | nil : Brings [] []
  | packet {l : List QueuedPacket} {b : List PbaxRead} (p : QueuedPacket) : Brings l b → Brings (p :: l) (.packet p :: b)
  | empty {l : List QueuedPacket} {b : List PbaxRead} : Brings l b → Brings l (.empty false :: b)

/-- All packets of a doorbell. -/
def doorbellPackets (d : Nat → SlvInboxDoorbell) (k : Nat) : List QueuedPacket :=
  (d k).words.toList.mapIdx fun j w => ⟨w, k, j⟩

section Whole

variable {d : Nat → SlvInboxDoorbell} {n k : Nat} {s : DoorbellBuffer} {l : List QueuedPacket} {b post : List PbaxRead}

theorem rxAll_drop (h : Brings l b) (hl : ∀ p ∈ l, p.starts = false) : ∃ t, rxAll 0 s (b ++ post) = rxAll 0 t post := by
  induction h generalizing s with
  | nil => exact ⟨s, rfl⟩
  | packet p _ ih =>
    have hp := hl p List.mem_cons_self
    obtain ⟨t, ht⟩ := ih (s := (s.write 0 p).flag dcomDoorbellPacketDropErr) fun q hq => hl q (List.mem_cons_of_mem _ hq)
    refine ⟨t, ?_⟩
    simp only [List.cons_append, rxAll, rxStep_first, hp, Bool.false_eq_true, if_false]
    exact ht
  | empty _ ih =>
    obtain ⟨t, ht⟩ := ih (s := s) hl
    refine ⟨t, ?_⟩
    simp only [List.cons_append, rxAll, show rxStep 0 s (.empty false) = .more 0 s from rxStep_empty (n := 0) (.zero s)]
    exact ht

/-- Inside a frame, enough packets end it; those after it are dropped when they are no start packets. -/
theorem rxAll_fill (h : Brings l b) (hpos : 1 ≤ n) (hn : InFrame n s) (hlen : 16 ≤ n + l.length)
    (hl : ∀ p ∈ l.drop (16 - n), p.starts = false) : ∃ r t, rxAll (8 * n) s (b ++ post) = r :: rxAll 0 t post ∧
      (n + l.length = 16 → l.getLast?.any QueuedPacket.ends = true → r.1 = 128 ∧ r.2.words = overlay n l s.words) := by
  induction h generalizing n s with
  | nil =>
    have := hn.lt
    simp only [List.length_nil] at hlen
    omega
  | @packet l b p hb ih =>
    rcases Nat.lt_or_ge n 15 with hlt | hge
    · have hdrop : (p :: l).drop (16 - n) = l.drop (16 - (n + 1)) := by
        rw [show 16 - n = 16 - (n + 1) + 1 by omega, List.drop_succ_cons]
      rw [hdrop] at hl
      simp only [List.length_cons] at hlen
      obtain ⟨r, t, hr, hfull⟩ := ih (n := n + 1) (s := s.write (8 * n) p) (by omega) (.write hpos hlt) (by omega) hl
      refine ⟨r, t, ?_, fun hex hlast => ?_⟩
      · simp only [List.cons_append, rxAll, rxStep_next hpos hlt]
        exact hr
      · simp only [List.length_cons] at hex
        have hne : l ≠ [] := by
          rintro rfl
          simp only [List.length_nil] at hex
          omega
        rw [List.getLast?_cons_of_ne_nil hne] at hlast
        obtain ⟨hbytes, hwords⟩ := hfull (by omega) hlast
        exact ⟨hbytes, by rw [hwords, write_words, overlay_cons]⟩
    · obtain rfl : n = 15 := by have := hn.lt; omega
      have hw : (s.write 120 p).words = update s.words 15 p := write_words (s := s) 15 p
      simp only [List.cons_append, rxAll, show 8 * 15 = 120 from rfl, rxStep_last]
      cases hp : p.ends with
      | true =>
        obtain ⟨t, ht⟩ := @rxAll_drop ((s.write 120 p).sequence) _ _ post hb hl
        refine ⟨(128, (s.write 120 p).sequence), t, congrArg _ ht, fun hex _ => ⟨rfl, ?_⟩⟩
        obtain rfl : l = [] := List.eq_nil_of_length_eq_zero (by simp only [List.length_cons] at hex; omega)
        rw [sequence_words, overlay_cons, overlay_nil, hw]
      | false =>
        obtain ⟨t, ht⟩ := @rxAll_drop ((s.write 120 p).flag dcomDoorbellBadMagicNumErr) _ _ post hb hl
        refine ⟨(127, (s.write 120 p).flag dcomDoorbellBadMagicNumErr), t, congrArg _ ht, fun hex hlast => ?_⟩
        obtain rfl : l = [] := List.eq_nil_of_length_eq_zero (by simp only [List.length_cons] at hex; omega)
        simp [hp] at hlast
  | empty _ ih =>
    obtain ⟨r, t, hr, hfull⟩ := ih hpos hn hlen hl
    refine ⟨r, t, ?_, hfull⟩
    simp only [List.cons_append, rxAll, rxStep_empty hn]
    exact hr

theorem rxAll_whole {p : QueuedPacket} (h : Brings (p :: l) b) (hp : p.starts = true) (hlen : l.length = 15) :
    ∃ r t, rxAll 0 s (b ++ post) = r :: rxAll 0 t post ∧
      (l.getLast?.any QueuedPacket.ends = true → r.1 = 128 ∧ r.2.words = overlay 0 (p :: l) s.words) := by
  generalize hg : p :: l = l' at h
  induction h generalizing s with
  | nil => cases hg
  | packet q hb _ =>
    cases hg
    obtain ⟨r, t, hr, hfull⟩ := @rxAll_fill 1 (s.write 0 p) _ _ post hb (by decide) (.first hp) (by omega)
      (by rw [List.drop_eq_nil_of_le (by omega)]; nofun)
    refine ⟨r, t, ?_, fun hlast => ?_⟩
    · simp only [List.cons_append, rxAll, rxStep_first, hp, if_true]
      exact hr
    · obtain ⟨hbytes, hwords⟩ := hfull (by omega) hlast
      have hw : (s.write 0 p).words = update s.words 0 p := write_words (s := s) 0 p
      exact ⟨hbytes, by rw [hwords, hw, overlay_cons]⟩
  | empty _ ih =>
    obtain ⟨r, t, hr, hfull⟩ := ih hg
    refine ⟨r, t, ?_, hfull⟩
    simp only [List.cons_append, rxAll, show rxStep 0 s (.empty false) = .more 0 s from rxStep_empty (n := 0) (.zero s)]
    exact hr

/-- Any reads leave the receiver in a turn of its loop. -/
theorem rxAll_initial (pre : List PbaxRead) (hn : InFrame n s) :
    ∃ out m t, InFrame m t ∧ rxAll (8 * n) s (pre ++ post) = out ++ rxAll (8 * m) t post := by
  induction pre generalizing n s with
  | nil => exact ⟨[], n, s, hn, rfl⟩
  | cons r pre ih =>
    -- a step goes on in a turn of the loop, or ends the call
    have hstep : (∃ m t, InFrame m t ∧ rxStep (8 * n) s r = .more (8 * m) t) ∨ ∃ c t, rxStep (8 * n) s r = .done c t := by
      cases r with
      | error p => exact .inr ⟨_, _, rfl⟩
      | empty late =>
        cases late with
        | true => exact .inr ⟨_, _, rfl⟩
        | false => exact .inl ⟨n, s, hn, rxStep_empty hn⟩
      | packet p =>
        obtain rfl | hpos := Nat.eq_zero_or_pos n
        · rw [Nat.mul_zero, rxStep_first]
          cases hp : p.starts with
          | true => exact .inl ⟨1, _, .first hp, rfl⟩
          | false => exact .inl ⟨0, _, .zero _, rfl⟩
        · rcases Nat.lt_or_ge n 15 with hlt | hge
          · exact .inl ⟨n + 1, _, .write hpos hlt, rxStep_next hpos hlt⟩
          · obtain rfl : n = 15 := by have := hn.lt; omega
            rw [show 8 * 15 = 120 from rfl, rxStep_last]
            cases p.ends with
            | true => exact .inr ⟨_, _, rfl⟩
            | false => exact .inr ⟨_, _, rfl⟩
    rcases hstep with ⟨m, t, hm, he⟩ | ⟨c, t, he⟩
    · obtain ⟨out, m', t', hm', hout⟩ := ih hm
      refine ⟨out, m', t', hm', ?_⟩
      simp only [List.cons_append, rxAll, he]
      exact hout
    · obtain ⟨out, m', t', hm', hout⟩ := ih (.zero t)
      refine ⟨(c, t) :: out, m', t', hm', ?_⟩
      simp only [List.cons_append, rxAll, he]
      exact congrArg _ hout

theorem doorbellPackets_getElem? (d : Nat → SlvInboxDoorbell) (k j : Nat) :
    (doorbellPackets d k)[j]? = ((d k).words[j]?).map fun w => ⟨w, k, j⟩ := by
  simp [doorbellPackets, List.getElem?_mapIdx]

theorem doorbellPackets_length (d : Nat → SlvInboxDoorbell) (k : Nat) : (doorbellPackets d k).length = 16 := by
  simp [doorbellPackets]

theorem doorbellPackets_cases (hd : FromMaster d) (k : Nat) :
    ∃ p l, doorbellPackets d k = p :: l ∧ p.starts = true ∧ l.length = 15 ∧ (∀ q ∈ l, q.starts = false) ∧
      l.getLast?.any QueuedPacket.ends = true := by
  have hlen := doorbellPackets_length d k
  obtain ⟨p, l, hpl⟩ := List.exists_cons_of_length_pos (l := doorbellPackets d k) (by omega)
  have hget (j : Nat) : (p :: l)[j]? = ((d k).words[j]?).map fun w => (⟨w, k, j⟩ : QueuedPacket) := by
    rw [← hpl]
    exact doorbellPackets_getElem? d k j
  rw [hpl, List.length_cons] at hlen
  refine ⟨p, l, hpl, ?_, by omega, fun q hq => ?_, ?_⟩
  · have h0 := hget 0
    simp only [List.getElem?_cons_zero, SlvInboxDoorbell.words] at h0
    cases h0
    simp only [QueuedPacket.starts, beq_iff_eq, Packet.magic1]
    rw [← hd.magic1 k]
    exact words_magic1 (d k)
  · obtain ⟨j, hj⟩ := List.mem_iff_getElem?.1 hq
    have hj1 := hget (j + 1)
    rw [List.getElem?_cons_succ, hj] at hj1
    obtain ⟨w, hw, rfl⟩ := Option.map_eq_some_iff.1 hj1.symm
    have := hd.payload k (j + 1) w (Nat.succ_pos _) hw
    simpa [QueuedPacket.starts] using this
  · have h15 := hget 15
    rw [List.getElem?_cons_succ] at h15
    rw [List.getLast?_eq_getElem?, show l.length - 1 = 14 by omega, h15]
    simp only [SlvInboxDoorbell.words]
    simp only [Vector.getElem?_mk, Option.any_map]
    show (Packet.magic2 _ == pbaxMagicNumber) = true
    rw [beq_iff_eq, ← hd.magic2 k]
    exact words_magic2 (d k)

theorem rxAll_gap {gap : List PbaxRead} (h : ∀ p, .packet p ∉ gap) :
    ∃ out t, rxAll 0 s (gap ++ post) = out ++ rxAll 0 t post := by
  induction gap generalizing s with
  | nil => exact ⟨[], s, rfl⟩
  | cons r gap ih =>
    have hrest : ∀ p, .packet p ∉ gap := fun p hp => h p (List.mem_cons_of_mem _ hp)
    have hstep : rxStep 0 s r = .more 0 s ∨ ∃ c t, rxStep 0 s r = .done c t := by
      cases r with
      | packet p => exact absurd List.mem_cons_self (h p)
      | error p => exact .inr ⟨_, _, rfl⟩
      | empty late =>
        cases late with
        | true => exact .inr ⟨_, _, rfl⟩
        | false => exact .inl (rxStep_empty (n := 0) (.zero s))
    rcases hstep with he | ⟨c, t, he⟩
    · obtain ⟨out, t, hout⟩ := ih hrest (s := s)
      refine ⟨out, t, ?_⟩
      simp only [List.cons_append, rxAll, he]
      exact hout
    · obtain ⟨out, t', hout⟩ := ih hrest (s := t)
      refine ⟨(c, t) :: out, t', ?_⟩
      simp only [List.cons_append, rxAll, he]
      exact congrArg _ hout

/-- After a doorbell that arrives whole, the next one that does is read in full, whatever came before. -/
theorem accepts_after_whole (hd : FromMaster d) {pre gap c : List PbaxRead} {i : Nat}
    (hb : Brings (doorbellPackets d i) b) (hgap : ∀ p, .packet p ∉ gap) (hc : Brings (doorbellPackets d k) c)
    (s : DoorbellBuffer) :
    ∃ r ∈ rxAll 0 s (pre ++ b ++ gap ++ c ++ post), r.1 = sizeofDoorbell ∧ r.2.Holds k := by
  obtain ⟨out, n, t, hn, hout⟩ := @rxAll_initial _ _ (b ++ (gap ++ (c ++ post))) pre (.zero s)
  -- the first whole doorbell ends the frame that is under way, or is one itself
  have hreset : ∃ r t', rxAll (8 * n) t (b ++ (gap ++ (c ++ post))) = r :: rxAll 0 t' (gap ++ (c ++ post)) := by
    obtain ⟨p, l, hpl, hp, hlen, hl, _⟩ := doorbellPackets_cases hd i
    rw [hpl] at hb
    obtain rfl | hpos := Nat.eq_zero_or_pos n
    · obtain ⟨r, t', hr, _⟩ := @rxAll_whole t _ _ (gap ++ (c ++ post)) _ hb hp hlen
      exact ⟨r, t', hr⟩
    · have hlt := hn.lt
      obtain ⟨r, t', hr, _⟩ := @rxAll_fill _ _ _ _ (gap ++ (c ++ post)) hb hpos hn (by simp only [List.length_cons]; omega) (by
        intro q hq
        rw [show 16 - n = 15 - n + 1 by omega, List.drop_succ_cons] at hq
        exact hl q (List.mem_of_mem_drop hq))
      exact ⟨r, t', hr⟩
  obtain ⟨r0, t', hout'⟩ := hreset
  obtain ⟨out'', u, hout''⟩ := @rxAll_gap t' (c ++ post) _ hgap
  obtain ⟨p, l, hpl, hp, hlen, _, hlast⟩ := doorbellPackets_cases hd k
  rw [hpl] at hc
  obtain ⟨r, t'', hr, hfull⟩ := @rxAll_whole u _ _ post _ hc hp hlen
  obtain ⟨hbytes, hwords⟩ := hfull hlast
  refine ⟨r, ?_, hbytes, fun j hj => ?_⟩
  · have : rxAll 0 s (pre ++ b ++ gap ++ c ++ post) = out ++ (r0 :: (out'' ++ r :: rxAll 0 t'' post)) := by
      rw [← hr, ← hout'', ← hout', ← hout]
      simp only [List.append_assoc, Nat.mul_zero]
    rw [this]
    simp
  · have hj' : (p :: l)[j]? = ((d k).words[j]?).map fun w => (⟨w, k, j⟩ : QueuedPacket) := by
      rw [← hpl]
      exact doorbellPackets_getElem? d k j
    obtain ⟨w, hw⟩ : ∃ w, (d k).words[j]? = some w := ⟨(d k).words[j], Vector.getElem?_eq_getElem hj⟩
    rw [hw] at hj'
    rw [hwords]
    simp only [overlay, Nat.not_lt_zero, if_false, Nat.sub_zero, hj']
    exact ⟨rfl, rfl⟩

end Whole

end Occ.Dcom
