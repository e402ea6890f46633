/-
What a slave does with the doorbells that it receives: nothing of a doorbell that was not read in full is used, and what
is used of one that was read in full is what the master sent, as long as no mixture of two doorbells was read.
-/
import Occ.Dcom.DoorbellLaw
import Mathlib.Data.List.Chain
import Mathlib.Tactic.IntervalCases

namespace Occ.Dcom

/-! ## A doorbell is read back from its packets -/

section Append

variable {p q r t : Nat} (a : BitVec p) (b : BitVec q) (c : BitVec r) (e : BitVec t)

theorem append3_extract : (a ++ b ++ c).extractLsb' (q + r) p = a ∧ (a ++ b ++ c).extractLsb' r q = b ∧
    (a ++ b ++ c).extractLsb' 0 r = c := by
  refine ⟨?_, ?_, BitVec.extractLsb'_append_eq_right⟩
  · rw [BitVec.extractLsb'_append_eq_of_le (by omega), Nat.add_sub_cancel]
    exact BitVec.extractLsb'_append_eq_left
  · rw [BitVec.extractLsb'_append_eq_of_le (Nat.le_refl _), Nat.sub_self]
    exact BitVec.extractLsb'_append_eq_right

theorem append4_extract : (a ++ b ++ c ++ e).extractLsb' (q + r + t) p = a ∧ (a ++ b ++ c ++ e).extractLsb' (r + t) q = b ∧
    (a ++ b ++ c ++ e).extractLsb' t r = c ∧ (a ++ b ++ c ++ e).extractLsb' 0 t = e := by
  obtain ⟨ha, hb, hc⟩ := append3_extract a b c
  refine ⟨?_, ?_, ?_, BitVec.extractLsb'_append_eq_right⟩
  · rw [BitVec.extractLsb'_append_eq_of_le (by omega), Nat.add_sub_cancel]
    exact ha
  · rw [BitVec.extractLsb'_append_eq_of_le (by omega), Nat.add_sub_cancel]
    exact hb
  · rw [BitVec.extractLsb'_append_eq_of_le (Nat.le_refl _), Nat.sub_self]
    exact hc

end Append

theorem halfwords_extract {a b c e : BitVec 16} {w : Packet} (h : w = halfwords a b c e) :
    w.extractLsb' 48 16 = a ∧ w.extractLsb' 32 16 = b ∧ w.extractLsb' 16 16 = c ∧ w.extractLsb' 0 16 = e := by
  subst h
  exact append4_extract a b c e

theorem halfwords_front {x y : BitVec 8} {b c e : BitVec 16} {w : Packet} (h : w = halfwords (x ++ y) b c e) :
    w.extractLsb' 56 8 = x ∧ w.extractLsb' 48 8 = y := by
  subst h
  unfold halfwords
  constructor
  · rw [BitVec.extractLsb'_append_eq_of_le (by decide), BitVec.extractLsb'_append_eq_of_le (by decide),
      BitVec.extractLsb'_append_eq_of_le (by decide)]
    exact BitVec.extractLsb'_append_eq_left
  · rw [BitVec.extractLsb'_append_eq_of_le (by decide), BitVec.extractLsb'_append_eq_of_le (by decide),
      BitVec.extractLsb'_append_eq_of_le (by decide)]
    exact BitVec.extractLsb'_append_eq_right

/-- A doorbell is what its packets say. -/
theorem ofWords_words (d : SlvInboxDoorbell) (w : Nat → Packet) (h : ∀ j p, d.words[j]? = some p → w j = p) :
    SlvInboxDoorbell.ofWords w = d := by
  -- the vectors are put together from their elements again
  have vector_two {α : Type} (v : Vector α 2) : #v[v[0], v[1]] = v := by
    ext i hi
    interval_cases i <;> rfl
  have vector_sixteen {α : Type} (v : Vector α 16) :
      #v[v[0], v[1], v[2], v[3], v[4], v[5], v[6], v[7], v[8], v[9], v[10], v[11], v[12], v[13], v[14], v[15]] = v := by
    ext i hi
    interval_cases i <;> rfl
  obtain ⟨magic1, ⟨nodeId, chipId⟩, ppbFmax, addr, ⟨current, softMin, hardMin, maxPcap, oversub, system, count, source⟩,
    gpio, adc, tod, apss, magicCounter, magic2⟩ := d
  have h0 : w 0 = magic1 ++ nodeId ++ chipId ++ ppbFmax := h 0 _ rfl
  have h1 : w 1 = addr ++ current ++ softMin := h 1 _ rfl
  have h2 : w 2 = halfwords hardMin maxPcap oversub system := h 2 _ rfl
  have h3 : w 3 = halfwords (count ++ source) 0 gpio[0] gpio[1] := h 3 _ rfl
  have h4 : w 4 = halfwords adc[0] adc[1] adc[2] adc[3] := h 4 _ rfl
  have h5 : w 5 = halfwords adc[4] adc[5] adc[6] adc[7] := h 5 _ rfl
  have h6 : w 6 = halfwords adc[8] adc[9] adc[10] adc[11] := h 6 _ rfl
  have h7 : w 7 = halfwords adc[12] adc[13] adc[14] adc[15] := h 7 _ rfl
  have h8 : w 8 = tod := h 8 _ rfl
  have h9 : w 9 = apss ++ 0#56 := h 9 _ rfl
  have h15 : w 15 = 0#24 ++ magicCounter ++ magic2 := h 15 _ rfl
  obtain ⟨a0, b0, c0, e0⟩ : (w 0).extractLsb' 32 32 = magic1 ∧ (w 0).extractLsb' 24 8 = nodeId ∧
      (w 0).extractLsb' 16 8 = chipId ∧ (w 0).extractLsb' 0 16 = ppbFmax := by
    rw [h0]
    exact append4_extract magic1 nodeId chipId ppbFmax
  obtain ⟨a1, b1, c1⟩ : (w 1).extractLsb' 32 32 = addr ∧ (w 1).extractLsb' 16 16 = current ∧
      (w 1).extractLsb' 0 16 = softMin := by
    rw [h1]
    exact append3_extract addr current softMin
  obtain ⟨a2, b2, c2, e2⟩ := halfwords_extract h2
  obtain ⟨count3, source3⟩ := halfwords_front h3
  obtain ⟨_, _, c3, e3⟩ := halfwords_extract h3
  obtain ⟨a4, b4, c4, e4⟩ := halfwords_extract h4
  obtain ⟨a5, b5, c5, e5⟩ := halfwords_extract h5
  obtain ⟨a6, b6, c6, e6⟩ := halfwords_extract h6
  obtain ⟨a7, b7, c7, e7⟩ := halfwords_extract h7
  have a9 : (w 9).extractLsb' 56 8 = apss := by
    rw [h9]
    exact BitVec.extractLsb'_append_eq_left
  obtain ⟨_, b15, c15⟩ : (w 15).extractLsb' 40 24 = 0#24 ∧ (w 15).extractLsb' 32 8 = magicCounter ∧
      (w 15).extractLsb' 0 32 = magic2 := by
    rw [h15]
    exact append3_extract 0#24 magicCounter magic2
  unfold SlvInboxDoorbell.ofWords
  simp only [Nat.reduceSub, Nat.reduceMul, a0, b0, c0, e0, a1, b1, c1, a2, b2, c2, e2, count3, source3, c3, e3, a4, b4, c4,
    e4, a5, b5, c5, e5, a6, b6, c6, e6, a7, b7, c7, e7, h8, a9, b15, c15, vector_two, vector_sixteen]

/-! ## The law -/

/-- The slave took nothing from the doorbells, or what a call that read one in full has in the buffer. -/
def UsesOnlyFull (chipId : BitVec 8) (kvm : Bool) (reads : List PbaxRead) (s t : SlaveRx) : Prop :=
  (t.pcap = s.pcap ∧ t.copies = s.copies) ∨
    ∃ u reads', reads' <:+ reads ∧ (dcomRxSlvInboxDoorbell u reads').1 = sizeofDoorbell ∧
      t.buffer = (dcomRxSlvInboxDoorbell u reads').2.1 ∧ t.pcap = amecDataWritePcap kvm t.buffer.doorbell s.pcap ∧
      (t.copies = s.copies ∨ t.copies = dcomCalcSlvInboxAddr t.buffer.doorbell chipId :: s.copies)

/-- The slave took nothing from the doorbells, or what the master put into one of them. -/
def TakesDoorbell (chipId : BitVec 8) (kvm : Bool) (d : Nat → SlvInboxDoorbell) (s t : SlaveRx) : Prop :=
  (t.pcap = s.pcap ∧ t.copies = s.copies) ∨
    ∃ k, t.pcap = amecDataWritePcap kvm (d k) s.pcap ∧
      (t.copies = s.copies ∨ t.copies = dcomCalcSlvInboxAddr (d k) chipId :: s.copies)

/-- The receiver on a stream of packets from the master: it stays in its buffer, it ends, it returns the full size only
with one doorbell in the buffer, it accepts a doorbell that arrives whole after one that did, and the task uses nothing
of the others. -/
structure DoorbellLaw (d : Nat → SlvInboxDoorbell) (s : DoorbellBuffer) (reads : List PbaxRead) : Prop where
  contained : ∀ i, 16 ≤ i → (dcomRxSlvInboxDoorbell s reads).2.1.words i = s.words i
  ends : reads ≠ [] → (dcomRxSlvInboxDoorbell s reads).2.2.length < reads.length
  single : (dcomRxSlvInboxDoorbell s reads).1 = sizeofDoorbell →
    ∃ k, (dcomRxSlvInboxDoorbell s reads).2.1.Holds k ∧ (dcomRxSlvInboxDoorbell s reads).2.1.doorbell = d k
  accepts : ∀ pre b gap c post i k, reads = pre ++ b ++ gap ++ c ++ post → Brings (doorbellPackets d i) b →
    (∀ p, .packet p ∉ gap) → Brings (doorbellPackets d k) c →
    ∃ r ∈ rxAll 0 s reads, r.1 = sizeofDoorbell ∧ r.2.Holds k
  unused : ∀ chipId kvm ready retries sl, sl.buffer = s →
    UsesOnlyFull chipId kvm reads sl (taskDcomRxSlvInbox chipId kvm ready retries sl reads).1

/-! ## The task -/

section Task

variable {d : Nat → SlvInboxDoorbell} {reads reads' : List PbaxRead} {chipId : BitVec 8} {kvm ready : Bool}

theorem rxLoop_suffix (bytes : Nat) (s : DoorbellBuffer) (reads : List PbaxRead) : (rxLoop bytes s reads).2.2 <:+ reads := by
  induction reads generalizing bytes s with
  | nil => exact List.suffix_refl _
  | cons r reads ih =>
    unfold rxLoop
    split
    · exact (ih _ _).trans (List.suffix_cons r reads)
    · exact List.suffix_cons r reads

theorem useDoorbell_pcap (s : SlaveRx) :
    (s.useDoorbell chipId kvm ready).pcap = amecDataWritePcap kvm s.buffer.doorbell s.pcap := rfl

theorem useDoorbell_copies (s : SlaveRx) : (s.useDoorbell chipId kvm ready).copies = s.copies ∨
    (s.useDoorbell chipId kvm ready).copies = dcomCalcSlvInboxAddr s.buffer.doorbell chipId :: s.copies := by
  unfold SlaveRx.useDoorbell
  dsimp only
  split
  · exact .inr rfl
  · exact .inl rfl

theorem rx_le (s : DoorbellBuffer) (reads : List PbaxRead) : (dcomRxSlvInboxDoorbell s reads).1 ≤ sizeofDoorbell := by
  have hcall := @call_frame s reads
  unfold sizeofDoorbell
  split at hcall
  · rw [hcall.2]
    split <;> decide
  · omega

theorem task_unused (retries : Nat) (s : SlaveRx) (reads : List PbaxRead) :
    UsesOnlyFull chipId kvm reads s (taskDcomRxSlvInbox chipId kvm ready retries s reads).1 := by
  induction retries generalizing s reads with
  | zero =>
    unfold taskDcomRxSlvInbox
    dsimp only
    split
    · rename_i hfull
      exact .inr ⟨s.buffer, reads, List.suffix_refl _, Nat.le_antisymm (rx_le _ _) hfull, rfl,
        useDoorbell_pcap _, useDoorbell_copies _⟩
    · exact .inl ⟨rfl, rfl⟩
  | succ retries ih =>
    unfold taskDcomRxSlvInbox
    dsimp only
    split
    · rename_i hfull
      exact .inr ⟨s.buffer, reads, List.suffix_refl _, Nat.le_antisymm (rx_le _ _) hfull, rfl,
        useDoorbell_pcap _, useDoorbell_copies _⟩
    · rcases ih { s with buffer := (dcomRxSlvInboxDoorbell s.buffer reads).2.1 }
        (dcomRxSlvInboxDoorbell s.buffer reads).2.2 with hnone | ⟨u, reads', hsuf, hused⟩
      · exact .inl hnone
      · exact .inr ⟨u, reads', hsuf.trans (rxLoop_suffix 0 s.buffer reads), hused⟩

theorem doorbell_of_holds (h : Formed d reads) {s : DoorbellBuffer} {k : Nat}
    (hfull : (dcomRxSlvInboxDoorbell s reads).1 = sizeofDoorbell) (hk : (dcomRxSlvInboxDoorbell s reads).2.1.Holds k) :
    (dcomRxSlvInboxDoorbell s reads).2.1.doorbell = d k := by
  have hcall := @call_frame s reads
  cases hf : frame reads with
  | none =>
    rw [hf] at hcall
    dsimp only at hcall
    rw [hfull] at hcall
    exact absurd hcall (by decide)
  | some l =>
    rw [hf] at hcall
    obtain ⟨hsub, hlen, -⟩ := frame_spec hf
    refine ofWords_words (d k) _ fun j w hw => ?_
    have hj : j < 16 := (Vector.getElem?_eq_some_iff.1 hw).1
    obtain ⟨x, hx⟩ : ∃ x, l[j]? = some x := ⟨l[j], List.getElem?_eq_getElem (by omega)⟩
    have hpacket := h.packet x (hsub.subset (List.mem_of_getElem? hx))
    obtain ⟨hdoorbell, hindex⟩ := hk j hj
    rw [hcall.1 j x hx] at hdoorbell hindex ⊢
    rw [hdoorbell, hindex, hw] at hpacket
    exact (Option.some.inj hpacket).symm

theorem Formed.suffix (h : Formed d reads) (hsuf : reads' <:+ reads) : Formed d reads' := by
  have hpackets : packets reads' <:+ packets reads := hsuf.filterMap _
  exact ⟨fun p hp => h.packet p (hpackets.subset hp), h.order.suffix hpackets⟩

theorem task_takes (hd : FromMaster d) (h : Formed d reads) (hok : ∀ reads', reads' <:+ reads → FrameOk reads')
    (retries : Nat) (s : SlaveRx) :
    TakesDoorbell chipId kvm d s (taskDcomRxSlvInbox chipId kvm ready retries s reads).1 := by
  rcases @task_unused chipId kvm ready retries s reads with
    hnone | ⟨u, reads', hsuf, hfull, hbuffer, hpcap, hcopies⟩
  · exact .inl hnone
  · have hform := h.suffix hsuf
    obtain ⟨k, hk⟩ := ((framingLaw_iff hd hform u).2 (hok reads' hsuf)).single hfull
    have hdoorbell := doorbell_of_holds hform hfull hk
    rw [← hbuffer] at hdoorbell
    rw [hdoorbell] at hpcap hcopies
    exact .inr ⟨k, hpcap, hcopies⟩

end Task

/-! ## The law holds exactly when no frame is a mixture -/

/-- The law of the receiver, with its exact condition; when all calls meet it, the slave takes what the master sent. -/
theorem doorbellLaw_iff_frameOk {d : Nat → SlvInboxDoorbell} {reads : List PbaxRead} (hd : FromMaster d)
    (h : Formed d reads) (s : DoorbellBuffer) :
    (DoorbellLaw d s reads ↔ FrameOk reads) ∧
      ((∀ reads', reads' <:+ reads → FrameOk reads') → ∀ chipId kvm ready retries sl,
        TakesDoorbell chipId kvm d sl (taskDcomRxSlvInbox chipId kvm ready retries sl reads).1) := by
  refine ⟨?_, fun hok chipId kvm ready retries sl => task_takes hd h hok retries sl⟩
  rw [← framingLaw_iff hd h s]
  constructor
  · intro hlaw
    refine ⟨hlaw.contained, hlaw.ends, fun hfull => ?_⟩
    obtain ⟨k, hk, -⟩ := hlaw.single hfull
    exact ⟨k, hk⟩
  · rintro ⟨hcontained, hends, hsingle⟩
    refine ⟨hcontained, hends, fun hfull => ?_, ?_, ?_⟩
    · obtain ⟨k, hk⟩ := hsingle hfull
      exact ⟨k, hk, doorbell_of_holds h hfull hk⟩
    · rintro pre b gap c post i k rfl hb hgap hc
      exact accepts_after_whole hd hb hgap hc s
    · rintro chipId kvm ready retries sl -
      exact task_unused retries sl reads

/-- A doorbell with some cap and sensor reading, and the next one with others. -/
def capDoorbell (cap adc : BitVec 16) (count : BitVec 8) : SlvInboxDoorbell :=
  { magic1 := pbaxMagicNumber2, pobId := ⟨0, 0⟩, ppbFmax := 2000, addrSlvInboxBuffer0 := slaveInboxPingCommonAddress
    pcap := ⟨cap, 500, 600, 3000, 0, 0, count, 1⟩, gpio := .replicate 2 0, adc := .replicate 16 adc, tod := 0
    apssRecoveryInProgress := 0, magicCounter := count, magic2 := pbaxMagicNumber }

def capDoorbells (k : Nat) : SlvInboxDoorbell :=
  if k = 0 then capDoorbell 1000 5 1 else capDoorbell 2000 7 2

theorem capDoorbell_payload : ∀ d ∈ [capDoorbell 1000 5 1, capDoorbell 2000 7 2], ∀ i : Fin 16, 0 < i.1 →
    Packet.magic1 (d.words.get i) ≠ pbaxMagicNumber2 := by decide

theorem capDoorbells_fromMaster : FromMaster capDoorbells where
  magic1 k := by unfold capDoorbells; split <;> rfl
  magic2 k := by unfold capDoorbells; split <;> rfl
  payload k j w hj hw := by
    obtain ⟨hlt, rfl⟩ := Vector.getElem?_eq_some_iff.1 hw
    unfold capDoorbells
    split
    · exact capDoorbell_payload _ (.head _) ⟨j, hlt⟩ hj
    · exact capDoorbell_payload _ (.tail _ (.head _)) ⟨j, hlt⟩ hj

def emptyBuffer : DoorbellBuffer := { words := fun _ => ⟨0, 0, 0⟩, doorbellErrorFlags := 0, doorbellSeq := 0 }

theorem doorbellLaw_iff_frameOk_whole :
    (DoorbellLaw capDoorbells emptyBuffer ((doorbellPackets capDoorbells 0).map .packet) ↔
        FrameOk ((doorbellPackets capDoorbells 0).map .packet)) ∧
      ((∀ reads', reads' <:+ (doorbellPackets capDoorbells 0).map .packet → FrameOk reads') →
        ∀ chipId kvm ready retries sl, TakesDoorbell chipId kvm capDoorbells sl
          (taskDcomRxSlvInbox chipId kvm ready retries sl ((doorbellPackets capDoorbells 0).map .packet)).1) :=
  doorbellLaw_iff_frameOk capDoorbells_fromMaster ⟨by decide, by decide⟩ emptyBuffer

/-- The start of one doorbell and its last packets, then the last packets of the next one. -/
def mixture : List PbaxRead :=
  ((doorbellPackets capDoorbells 0).filter (fun p => p.index = 0 || 9 ≤ p.index) ++
    (doorbellPackets capDoorbells 1).drop 8).map .packet

/-- Eight packets of each of two doorbells are read in full, as one. -/
theorem doorbellLaw_fails :
    FromMaster capDoorbells ∧ Formed capDoorbells mixture ∧ ¬DoorbellLaw capDoorbells emptyBuffer mixture := by
  refine ⟨capDoorbells_fromMaster, ⟨by decide, by decide⟩, fun hlaw => ?_⟩
  obtain ⟨k, hk, -⟩ := hlaw.single (by decide)
  have h0 : 0 = k := (hk 0 (by decide)).1
  have h15 : 1 = k := (hk 15 (by decide)).1
  omega

end Occ.Dcom
