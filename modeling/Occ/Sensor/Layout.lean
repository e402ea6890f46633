/-
The layout of the sensor data in main memory: the names entries of the valid sensors stand one after
another, each with the offset at which that sensor's readings are written, and a readings buffer holds
what was taken in its cycle at these offsets, whatever sensors are enabled meanwhile and however often a
copy cannot be scheduled. The invariant is about the memory with the outstanding copy done.
-/
import Occ.Sensor.Loops
import Occ.Lib.Transition

namespace Occ.Sensor

open Occ Staged Transition

/-! ## Copies -/

/-- The blocks of the sensor data: the header, the names and the two readings buffers. -/
def Platform.blocks (p : Platform) : List (Nat × Nat) :=
  [(p.dataBlock, headerBlockSize), (p.names, namesSize), (p.ping, readingsSize), (p.pong, readingsSize)]

/-- A copy that the engine supports, of bytes of one block. -/
def CopyOk (p : Platform) (addr count : Nat) : Prop :=
  addr % 128 = 0 ∧ count % 128 = 0 ∧ count ≤ bceBufSize ∧
    ∃ b ∈ p.blocks, b.1 ≤ addr ∧ addr + count ≤ b.1 + b.2

/-- The memory when the outstanding copy is done. -/
def settle (r : Option BceRequest) (m buf : Memory) : Memory :=
  match r with
  | none => m
  | some r => transfer m buf r.addr r.copied r.count

def Mm.settled (k : Mm) : Memory := settle k.request k.mem k.bceBuffer

/-- What scheduling a copy leaves: its request, or none for a copy of no bytes. -/
structure Scheduled (r : Option BceRequest) (scheduled : Bool) (addr count : Nat) : Prop where
  idle : scheduled = false → r = none
  empty : r = none → count = 0
  request : ∀ x, r = some x → x = ⟨addr, count, 0⟩

section Copies

variable {p : Platform} {k : Mm} {addr count : Nat} {ok : Bool} {r : Option BceRequest} {sch : Bool} {m buf : Memory}

theorem bceCopy_true (h : (k.bceCopy addr count ok).2 = true) (hr : k.request = none) :
    ∃ r sch, Scheduled r sch addr count ∧ (k.bceCopy addr count ok).1 =
      { k with copies := (addr, count) :: k.copies, request := r, scheduled := sch } := by
  unfold Mm.bceCopy at h ⊢
  simp only at h ⊢
  split at h
  · cases h
  rename_i hp
  rw [if_neg hp]
  split at h
  · cases h
  rename_i hs
  rw [if_neg hs]
  split at h
  · rename_i h0
    rw [if_pos h0]
    exact ⟨k.request, k.scheduled, ⟨fun _ => hr, fun _ => h0, by simp [hr]⟩, rfl⟩
  · rename_i h0
    rw [if_neg h0]
    cases ok
    · cases h
    · exact ⟨_, _, ⟨by simp, by simp, fun x hx => (Option.some.inj hx).symm⟩, rfl⟩

theorem bceCopy_false (h : ¬(k.bceCopy addr count ok).2 = true) :
    (k.bceCopy addr count ok).1 = { k with copies := (addr, count) :: k.copies } := by
  unfold Mm.bceCopy at h ⊢
  simp only at h ⊢
  split
  · rfl
  split
  · rfl
  split
  · rfl
  rename_i hp hs h0
  cases ok
  · rfl
  · simp [hp, hs, h0] at h

theorem bceCopy_split (P : Mm → Prop) (f : Mm → Mm) (hr : k.request = none)
    (hfail : P { k with copies := (addr, count) :: k.copies })
    (hok : ∀ r sch, Scheduled r sch addr count →
      P (f { k with copies := (addr, count) :: k.copies, request := r, scheduled := sch })) :
    P (if (k.bceCopy addr count ok).2 then f (k.bceCopy addr count ok).1 else (k.bceCopy addr count ok).1) := by
  split
  · rename_i hcopy
    obtain ⟨r, sch, hsch, he⟩ := bceCopy_true hcopy hr
    rw [he]
    exact hok r sch hsch
  · rename_i hcopy
    rw [bceCopy_false hcopy]
    exact hfail

theorem Scheduled.settle (h : Scheduled r sch addr count) : settle r m buf = transfer m buf addr 0 count := by
  cases r with
  | none =>
    rw [h.empty rfl, transfer_empty]
    rfl
  | some x =>
    rw [h.request x rfl]
    rfl

theorem isBceReqIdle_cases (hi : k.scheduled = false → k.request = none) :
    k.isBceReqIdle = (k, false) ∨ k.request = none ∧ k.isBceReqIdle = ({ k with scheduled := false }, true) := by
  unfold Mm.isBceReqIdle
  cases hs : k.scheduled with
  | false => exact .inr ⟨hi hs, by simp [← hs]⟩
  | true =>
    by_cases hr : k.request = none
    · exact .inr ⟨hr, by simp [hr]⟩
    · exact .inl (by simp [hr])

theorem saveLastWrite_eq : k.saveLastWrite addr count =
    { k with
      lastWriteBuf := if 128 ≤ count then fun i => k.bceBuffer (count - 128 + i) else k.lastWriteBuf
      lastWriteBufAddr := if 128 ≤ count then addr + (count - 128) else k.lastWriteBufAddr } := by
  unfold Mm.saveLastWrite minWriteSize
  split <;> rfl

theorem blocks_lines (p : Platform) : 128 ∣ p.dataBlock ∧ 128 ∣ p.names ∧ 128 ∣ p.ping ∧ 128 ∣ p.pong := by
  unfold Platform.names Platform.ping Platform.pong Platform.dataBlock sensorDataCommonAddress dataBlockSize
    namesOffset pingOffset pongOffset
  omega

end Copies

/-! ## The invariant -/

/-- The state of the sensor data, where `m` is the memory with the outstanding copy done. -/
structure MmAt (p : Platform) (k : Mm) (m : Memory) : Prop where
  fits : TableFits k.sensors
  idle : k.scheduled = false → k.request = none
  request : ∀ r, k.request = some r → (r.addr, r.count) ∈ k.copies ∧ r.copied ≤ r.count ∧ r.copied % 128 = 0
  copies : ∀ c ∈ k.copies, CopyOk p c.1 c.2
  internals : k.state ≠ .writeDataHeader → k.internals = true
  base : k.internals = true → k.readingsBufAddr = p.ping ∨ k.readingsBufAddr = p.pong
  fresh : k.state = .writeDataHeader → k.namesIndex = 0 ∧ ∀ b, (k.cycle b).taken = []
  -- the names block
  namesLe : k.namesIndex ≤ k.sensors.length
  entry : k.entryOffset = namesEntrySize * entryNumber k.sensors k.namesIndex
  namesOffset : k.namesReadingsOffset = readingOffset k.sensors k.namesIndex
  names : ∀ it ∈ namesItems p (k.sensors.take k.namesIndex) p.names readingsHeaderSize, Holds m it.1 it.2
  namesSaved : k.state = .writeSensorNames →
    Saved 128 m (namesItems p (k.sensors.take k.namesIndex) p.names readingsHeaderSize) k.lastWriteBuf
      k.lastWriteBufAddr (p.names + k.entryOffset)
  namesAll : k.state ≠ .writeDataHeader → k.state ≠ .writeSensorNames → k.namesIndex = k.sensors.length
  -- the readings buffers
  readingsLe : k.readingsIndex ≤ k.sensors.length
  offset : k.readingsOffset = readingOffset k.sensors k.readingsIndex
  taken : ∀ b, TakenOk k.sensors (k.cycle b).taken
  readings : ∀ b, b = p.ping ∨ b = p.pong → ∀ it ∈ readingsItems b k.sensors (k.cycle b).taken, Holds m it.1 it.2
  between : k.state ≠ .writeSensorReadings → k.readingsIndex = 0
  inCycle : k.readingsIndex ≠ 0 → 128 ≤ k.readingsOffset ∧
    Saved 128 m (readingsItems k.readingsBufAddr k.sensors (k.cycle k.readingsBufAddr).taken) k.lastWriteBuf
      k.lastWriteBufAddr (k.readingsBufAddr + k.readingsOffset)
  save : k.readingsIndex ≠ 0 ∨ k.state = .validateSensorReadings →
    ∀ i < 128, k.saveBuffer i = m (k.readingsBufAddr + i)

def MmInv (p : Platform) (k : Mm) : Prop := MmAt p k k.settled

section Steps

variable {p : Platform} {k k' : Mm} {m : Memory} {ok : Bool} {b : Nat}

theorem MmAt.names_bounds (h : MmAt p k m) {it : Item}
    (hit : it ∈ namesItems p (k.sensors.take k.namesIndex) p.names readingsHeaderSize) :
    p.names ≤ it.1 ∧ it.stop ≤ p.names + namesSize := by
  obtain ⟨h₁, h₂⟩ := namesItems_bounds hit
  have hle := h.fits.1
  have hlen : (k.sensors.take k.namesIndex).length ≤ k.sensors.length := List.length_take_le' _ _
  simp only [namesEntrySize, namesSize] at *
  omega

theorem MmAt.readings_bounds (h : MmAt p k m) {it : Item}
    (hit : it ∈ readingsItems b k.sensors (k.cycle b).taken) :
    b + readingsHeaderSize ≤ it.1 ∧ it.stop ≤ b + readingsSize := by
  obtain ⟨h₁, h₂⟩ := (h.taken b).bounds hit
  have hle := h.fits.2
  omega

theorem MmAt.stalled (h : MmAt p k m) {buf save : Memory} {c : Nat × Nat} (hc : CopyOk p c.1 c.2)
    (hsave : save = k.saveBuffer ∨ k.readingsIndex = 0 ∧ k.state ≠ .validateSensorReadings) :
    MmAt p { k with bceBuffer := buf, saveBuffer := save, copies := c :: k.copies } m :=
  { h with
    request := fun r hr => by
      obtain ⟨hmem, hrest⟩ := h.request r hr
      exact ⟨List.mem_cons_of_mem _ hmem, hrest⟩
    copies := fun x hx => by
      rcases List.mem_cons.1 hx with rfl | hx
      · exact hc
      · exact h.copies x hx
    save := fun hs => by
      rcases hsave with rfl | ⟨h0, hne⟩
      · exact h.save hs
      · rcases hs with hs | hs
        · exact absurd h0 hs
        · exact absurd hs hne }

theorem mmInv_idle (hr : k.request = none) (h : MmAt p k k.mem) : MmInv p k := by
  unfold MmInv Mm.settled
  rw [hr]
  exact h

theorem scheduled_request {copies : List (Nat × Nat)} {addr count : Nat} {r : Option BceRequest} {sch : Bool}
    (hs : Scheduled r sch addr count) (x : BceRequest) (hx : r = some x) :
    (x.addr, x.count) ∈ (addr, count) :: copies ∧ x.copied ≤ x.count ∧ x.copied % 128 = 0 := by
  rw [hs.request x hx]
  exact ⟨List.mem_cons_self, Nat.zero_le _, rfl⟩

theorem cons_copies {copies : List (Nat × Nat)} {c : Nat × Nat} (h : ∀ x ∈ copies, CopyOk p x.1 x.2)
    (hc : CopyOk p c.1 c.2) : ∀ x ∈ c :: copies, CopyOk p x.1 x.2 := by
  intro x hx
  rcases List.mem_cons.1 hx with rfl | hx
  · exact hc
  · exact h x hx

theorem MmAt.writeDataHeader (h : MmAt p k k.mem) (hr : k.request = none) (hst : k.state = .writeDataHeader)
    (hint : k.internals = true) :
    MmInv p (k.writeDataHeader p ok) := by
  obtain ⟨hz, ht⟩ := h.fresh hst
  have hb := h.between (by simp [hst])
  have hc : CopyOk p p.dataBlock (align128Up headerBlockSize) := by
    refine ⟨?_, by decide, by decide, _, List.mem_cons_self, Nat.le_refl _, Nat.le_refl _⟩
    have := blocks_lines p
    omega
  refine bceCopy_split (MmInv p) (fun k => { k with state := .writeSensorNames }) hr ?_ fun r sch hsch => ?_
  · exact mmInv_idle hr (h.stalled (c := (_, _)) hc (.inr ⟨hb, by simp [hst]⟩))
  · exact { h with
      idle := hsch.idle
      request := scheduled_request hsch
      copies := cons_copies h.copies hc
      internals := fun _ => hint
      fresh := by simp
      names := by simp [hz, namesItems]
      namesSaved := fun _ => by
        simp only [hz, List.take_zero, namesItems]
        exact Saved.nil
      namesAll := by simp
      readings := by simp [ht, readingsItems]
      between := fun _ => hb
      inCycle := fun hne => absurd hb hne
      save := by simp [hb] }

theorem holds_other {buf : Memory} {addr count lo hi : Nat} {it : Item} (h : Holds m it.1 it.2)
    (hin : lo ≤ addr ∧ addr + count ≤ hi) (hout : it.stop ≤ lo ∨ hi ≤ it.1) :
    Holds (transfer m buf addr 0 count) it.1 it.2 := by
  refine h.transfer ?_
  unfold Item.stop at hout
  omega

theorem blocks_apart (p : Platform) : p.dataBlock + headerBlockSize ≤ p.names ∧ p.names + namesSize < p.ping ∧
    p.ping + readingsSize < p.pong := by
  unfold Platform.names Platform.ping Platform.pong namesOffset pingOffset pongOffset headerBlockSize namesSize
    readingsSize
  omega

theorem MmAt.validateDataHeader (h : MmAt p k k.mem) (hr : k.request = none) (hst : k.state = .validateDataHeader) :
    MmInv p (k.validateDataHeader p ok) := by
  have hb := h.between (by simp [hst])
  have hapart := blocks_apart p
  have hc : CopyOk p p.dataBlock minWriteSize := by
    refine ⟨?_, by decide, by decide, (p.dataBlock, headerBlockSize), List.mem_cons_self, Nat.le_refl _,
      Nat.add_le_add_left (show minWriteSize ≤ headerBlockSize by decide) _⟩
    have := blocks_lines p
    omega
  have hin : p.dataBlock ≤ p.dataBlock ∧ p.dataBlock + minWriteSize ≤ p.dataBlock + headerBlockSize :=
    ⟨Nat.le_refl _, Nat.add_le_add_left (by decide) _⟩
  refine bceCopy_split (MmInv p) (fun k => { k with initialized := true, state := .writeSensorReadings }) hr ?_
    fun r sch hsch => ?_
  · exact mmInv_idle hr (h.stalled (c := (_, _)) hc (.inl rfl))
  · unfold MmInv Mm.settled
    simp only [hsch.settle]
    exact { h with
      idle := hsch.idle
      request := scheduled_request hsch
      copies := cons_copies h.copies hc
      internals := fun _ => h.internals (by simp [hst])
      fresh := by simp
      names := fun it hit => by
        have := h.names_bounds hit
        exact holds_other (h.names it hit) hin (by omega)
      namesSaved := by simp
      namesAll := fun _ _ => h.namesAll (by simp [hst]) (by simp [hst])
      readings := fun b hb it hit => by
        have := h.readings_bounds hit
        exact holds_other (h.readings b hb it hit) hin (by omega)
      between := fun _ => hb
      inCycle := fun hne => absurd hb hne
      save := by simp [hb] }

/-- What `mm_sensors_write_sensor_names` has when it copies the buffer. -/
structure NamesDone (p : Platform) (k : Mm) (w : Nat) (c : Mm.NamesCursor) : Prop where
  loop : NamesAt p k.sensors k.mem k.lastWriteBuf k.lastWriteBufAddr w c
  copy : CopyOk p w (align128Up c.bufOffset)
  block : p.names ≤ w ∧ w + align128Up c.bufOffset ≤ p.names + namesSize

theorem MmAt.namesDone (h : MmAt p k k.mem) (hst : k.state = .writeSensorNames) {e w : Nat} (he : e = p.names + k.entryOffset)
    (hw : w = align128Down e) :
    NamesDone p k w (Mm.namesLoop p (k.sensors.drop k.namesIndex)
      ⟨k.namesIndex, k.entryOffset, k.namesReadingsOffset, e - w, k.loadLastWrite w⟩) := by
  have hlines := blocks_lines p
  have hfit := h.fits.1
  obtain ⟨hdvd, hle, hlt⟩ := align128Down_spec e
  rw [← hw] at hdvd hle hlt
  have hstop : w + (e - w) = p.names + k.entryOffset := by omega
  -- the loop begins with the kept line
  have hstart : NamesAt p k.sensors k.mem k.lastWriteBuf k.lastWriteBufAddr w
      ⟨k.namesIndex, k.entryOffset, k.namesReadingsOffset, e - w, k.loadLastWrite w⟩ :=
    ⟨h.namesLe, h.entry, h.namesOffset, hstop, by simp only [bceBufSize]; omega,
      (h.namesSaved hst).stage hdvd (by omega) (by omega) (Nat.le_of_eq hstop) (.inr hstop)⟩
  have hloop := namesLoop_at hstart rfl
  generalize Mm.namesLoop p _ _ = c at hloop ⊢
  have hentry : c.entryOffset ≤ namesSize := by
    rw [hloop.entry]
    have := @entryNumber_le k.sensors c.index
    simp only [namesEntrySize, namesSize] at *
    omega
  have hup := align128Up_spec c.bufOffset
  have hbuf := hloop.buf
  have hblock : p.names ≤ w ∧ w + align128Up c.bufOffset ≤ p.names + namesSize := by
    constructor
    · rw [hw, he]
      unfold align128Down
      split <;> omega
    · simp only [namesSize] at *
      omega
  exact ⟨hloop, ⟨by omega, by omega, align128Up_le (by decide) hloop.size, (p.names, namesSize), by simp [Platform.blocks],
    hblock⟩, hblock⟩

theorem MmAt.writeSensorNames (h : MmAt p k k.mem) (hr : k.request = none) (hst : k.state = .writeSensorNames) :
    MmInv p (k.writeSensorNames p ok) := by
  have hb := h.between (by simp [hst])
  have hapart := blocks_apart p
  have hd := h.namesDone hst rfl rfl
  unfold Mm.writeSensorNames
  simp only
  generalize Mm.namesLoop p _ _ = c at hd ⊢
  generalize align128Down (p.names + k.entryOffset) = w at hd ⊢
  obtain ⟨hloop, hc, hin⟩ := hd
  have hup := align128Up_spec c.bufOffset
  refine bceCopy_split (MmInv p) (fun k => k.namesCopied c w (align128Up c.bufOffset)) hr ?_ fun r sch hsch => ?_
  · exact mmInv_idle hr (h.stalled (c := (_, _)) hc (.inl rfl))
  have hfin := hloop.staging.finish hup.2.1 hup.1 hup.2.2 (by decide)
  have hat : ∀ st, st = .writeSensorNames ∨ st = .validateDataHeader ∧ c.index = k.sensors.length →
      MmAt p
        { k with
          bceBuffer := c.buffer
          copies := (w, align128Up c.bufOffset) :: k.copies
          request := r
          scheduled := sch
          namesIndex := c.index
          entryOffset := c.entryOffset
          namesReadingsOffset := c.readingsOffset
          lastWriteBuf := if 128 ≤ align128Up c.bufOffset then fun i => c.buffer (align128Up c.bufOffset - 128 + i)
            else k.lastWriteBuf
          lastWriteBufAddr := if 128 ≤ align128Up c.bufOffset then w + (align128Up c.bufOffset - 128)
            else k.lastWriteBufAddr
          state := st } (transfer k.mem c.buffer w 0 (align128Up c.bufOffset)) := by
    intro st hstate
    exact { h with
      idle := hsch.idle
      request := scheduled_request hsch
      copies := cons_copies h.copies hc
      internals := fun _ => h.internals (by simp [hst])
      fresh := by rcases hstate with rfl | ⟨rfl, -⟩ <;> simp
      namesLe := hloop.le
      entry := hloop.entry
      namesOffset := hloop.offset
      names := hfin.holds
      namesSaved := fun _ => hfin
      namesAll := by
        rcases hstate with rfl | ⟨rfl, hall⟩
        · simp
        · exact fun _ _ => hall
      readings := fun b hb it hit => by
        have := h.readings_bounds hit
        exact holds_other (h.readings b hb it hit) hin (by omega)
      between := fun _ => hb
      inCycle := fun hne => absurd hb hne
      save := by rcases hstate with rfl | ⟨rfl, -⟩ <;> simp [hb] }
  unfold Mm.namesCopied MmInv Mm.settled
  simp only [saveLastWrite_eq]
  by_cases hall : k.sensors.length ≤ c.index
  · simp only [hall, if_true, hsch.settle]
    exact hat _ (.inr ⟨rfl, Nat.le_antisymm hloop.le hall⟩)
  · simp only [hall, if_false, hsch.settle]
    exact hat k.state (.inl hst)

/-- What `mm_sensors_write_sensor_readings` has when it copies the buffer: the first call of a cycle begins
with the header, and the later ones stay behind its line. -/
structure ReadingsDone (p : Platform) (k : Mm) (c : Mm.ReadingsCursor) : Prop where
  loop : ReadingsAt k.readingsBufAddr (if k.readingsIndex = 0 then k.readingsBufAddr else k.readingsBufAddr + 128)
    k.sensors k.mem k.lastWriteBuf k.lastWriteBufAddr c
  copy : CopyOk p c.writeAddr (align128Up c.byteCount)
  block : k.readingsBufAddr ≤ c.writeAddr ∧ c.writeAddr + align128Up c.byteCount ≤ k.readingsBufAddr + readingsSize
  offset : c.index ≠ k.sensors.length → 128 ≤ c.readingsOffset
  first : k.readingsIndex = 0 → 128 ≤ align128Up c.byteCount ∧ c.writeAddr = k.readingsBufAddr ∧ c.buffer 0 = 0

theorem MmAt.readingsDone (h : MmAt p k k.mem) (hst : k.state = .writeSensorReadings) (list : BitVec 16 → SensorT) :
    ReadingsDone p k (Mm.readingsLoop k.readingsBufAddr list (k.sensors.drop k.readingsIndex) k.readingsStart) := by
  have hbase := h.base (h.internals (by simp [hst]))
  have hlines := blocks_lines p
  have hline : 128 ∣ k.readingsBufAddr := by
    rcases hbase with hb | hb <;> rw [hb] <;> omega
  have hfits := h.fits.2
  have hindex : k.readingsStart.index = k.readingsIndex := by
    unfold Mm.readingsStart
    split
    · rename_i h0
      exact h0.symm
    · rfl
  have hstart : ReadingsAt k.readingsBufAddr
      (if k.readingsIndex = 0 then k.readingsBufAddr else k.readingsBufAddr + 128) k.sensors k.mem k.lastWriteBuf
      k.lastWriteBufAddr k.readingsStart := by
    have hoff := h.offset
    unfold Mm.readingsStart
    by_cases h0 : k.readingsIndex = 0
    · simp only [h0, if_true]
      rw [h0] at hoff
      refine ⟨Nat.zero_le _, hoff, by simp [TakenOk], Nat.le_refl _, Nat.le_add_right _ _,
        show readingsHeaderSize ≤ bceBufSize by decide, ?_⟩
      refine ⟨hline, ?_, by simp [readingsItems], by simp [readingsItems],
        fun hc => absurd hc (show readingsHeaderSize ≠ 0 by decide), by simp [readingsItems]⟩
      rw [hoff]
      exact Nat.add_le_add_left (Nat.le_add_right _ _) _
    · simp only [h0, if_false]
      obtain ⟨hge, hsaved⟩ := h.inCycle h0
      obtain ⟨hdvd, hle, hlt⟩ := align128Down_spec (k.readingsBufAddr + k.readingsOffset)
      exact ⟨h.readingsLe, hoff, h.taken _, by simp only; omega, hle, Nat.zero_le _,
        hsaved.stage hdvd hle hlt hle (.inl rfl)⟩
  have hloop := @readingsLoop_at _ _ list _ _ _ _ _ _ hstart (by rw [hindex])
  have hstops := @readingsLoop_stops k.readingsBufAddr list (k.sensors.drop k.readingsIndex) k.readingsStart
  obtain ⟨n, -, hidx, -⟩ := @readingsLoop_taken k.readingsBufAddr list (k.sensors.drop k.readingsIndex) k.readingsStart
  have hheader := @readingsLoop_header k.readingsBufAddr list (k.sensors.drop k.readingsIndex) k.readingsStart
  rw [hindex] at hstops hidx
  rw [List.length_drop] at hstops
  generalize Mm.readingsLoop _ _ _ _ = c at *
  have hfirst : k.readingsIndex = 0 →
      c.byteCount ≠ 0 ∧ c.writeAddr = k.readingsBufAddr ∧ ∀ x < readingsHeaderSize, c.buffer x = k.readingsStart.buffer x := by
    intro h0
    have hoff := h.offset
    unfold Mm.readingsStart at hheader ⊢
    simp only [h0, if_true] at hheader ⊢
    refine hheader (by decide) trivial ?_
    rw [hoff]
    exact Nat.le_add_right _ _
  have hup := align128Up_spec c.byteCount
  have hroom := hloop.staging.room
  have hlo : k.readingsBufAddr ≤ c.writeAddr := by
    have := hloop.lo
    split at this <;> omega
  have hoffle : c.readingsOffset ≤ readingsSize := by
    rw [hloop.offset]
    have hb := @readingsBytes_le (k.sensors.take c.index)
    have hl : (k.sensors.take c.index).length ≤ k.sensors.length := List.length_take_le' _ _
    unfold readingOffset
    omega
  have hwline := hloop.staging.line
  have hblock : k.readingsBufAddr ≤ c.writeAddr ∧
      c.writeAddr + align128Up c.byteCount ≤ k.readingsBufAddr + readingsSize := by
    refine ⟨hlo, ?_⟩
    simp only [readingsSize] at *
    omega
  refine ⟨hloop, ⟨by omega, by omega, align128Up_le (by decide) hloop.size, (k.readingsBufAddr, readingsSize), ?_, hblock⟩,
    hblock, fun hne => ?_, fun h0 => ?_⟩
  · rcases hbase with hb | hb <;> simp [Platform.blocks, hb]
  · by_cases h0 : k.readingsIndex = 0
    · -- the first call ends before the table with a full buffer
      have hw := (hfirst h0).2.1
      have hle := h.readingsLe
      rcases hstops with hs | hs
      · omega
      · rw [hw] at hs
        simp only [bceBufSize] at hs
        omega
    · have hge := (h.inCycle h0).1
      have hmono : readingOffset k.sensors k.readingsIndex ≤ readingOffset k.sensors c.index :=
        readingOffset_mono (by omega)
      rw [hloop.offset]
      rw [h.offset] at hge
      omega
  · obtain ⟨hc, hw, hbuf⟩ := hfirst h0
    refine ⟨by omega, hw, ?_⟩
    rw [hbuf 0 (by decide)]
    unfold Mm.readingsStart
    simp only [h0, if_true]
    rfl

theorem ReadingsDone.save {c : Mm.ReadingsCursor} (hd : ReadingsDone p k c) (h : MmAt p k k.mem) :
    ∀ i < 128, (if k.readingsIndex = 0 then transfer k.saveBuffer c.buffer 0 0 minWriteSize else k.saveBuffer) i =
      transfer k.mem c.buffer c.writeAddr 0 (align128Up c.byteCount) (k.readingsBufAddr + i) := by
  intro i hi
  by_cases h0 : k.readingsIndex = 0
  · obtain ⟨hn, hw, -⟩ := hd.first h0
    rw [if_pos h0, hw, transfer_of_mem (by omega) (by simp only [minWriteSize]; omega),
      transfer_of_mem (by omega) (by omega)]
    congr 1
    omega
  · have hlo := hd.loop.lo
    rw [if_neg h0] at hlo ⊢
    rw [transfer_below (by omega)]
    exact h.save (.inl h0) i hi

theorem MmAt.writeSensorReadings (h : MmAt p k k.mem) (hr : k.request = none) (hst : k.state = .writeSensorReadings)
    (list : BitVec 16 → SensorT) : MmInv p (k.writeSensorReadings list ok) := by
  have hd := h.readingsDone hst list
  have hbase := h.base (h.internals (by simp [hst]))
  have hapart := blocks_apart p
  unfold Mm.writeSensorReadings
  simp only
  split
  · exact mmInv_idle hr h
  generalize Mm.readingsLoop k.readingsBufAddr list _ _ = c at hd ⊢
  have hsave := hd.save h
  have hup := align128Up_spec c.byteCount
  have hfin := hd.loop.staging.finish hup.2.1 hup.1 hup.2.2 (by decide)
  -- the state but for the end of a cycle
  have hat : ∀ (r : Option BceRequest) (sch : Bool) (st : MmState) (idx off : Nat) (done : Bool),
      Scheduled r sch c.writeAddr (align128Up c.byteCount) →
      (st = .writeSensorReadings ∧ idx = c.index ∧ off = c.readingsOffset ∧ c.index ≠ k.sensors.length ∨
        st = .validateSensorReadings ∧ idx = 0 ∧ off = readingsHeaderSize) →
      MmAt p
        { k with
          bceBuffer := c.buffer
          saveBuffer := if k.readingsIndex = 0 then transfer k.saveBuffer c.buffer 0 0 minWriteSize else k.saveBuffer
          copies := (c.writeAddr, align128Up c.byteCount) :: k.copies
          request := r
          scheduled := sch
          readingsIndex := idx
          readingsOffset := off
          cycle := Function.update k.cycle k.readingsBufAddr ⟨c.taken, done⟩
          lastWriteBuf := if 128 ≤ align128Up c.byteCount then fun i => c.buffer (align128Up c.byteCount - 128 + i)
            else k.lastWriteBuf
          lastWriteBufAddr := if 128 ≤ align128Up c.byteCount then c.writeAddr + (align128Up c.byteCount - 128)
            else k.lastWriteBufAddr
          state := st } (transfer k.mem c.buffer c.writeAddr 0 (align128Up c.byteCount)) := by
    intro r sch st idx off done hsch hend
    have hst' : st ≠ .writeDataHeader ∧ st ≠ .writeSensorNames := by
      rcases hend with ⟨rfl, -⟩ | ⟨rfl, -⟩ <;> simp
    exact { h with
      idle := hsch.idle
      request := scheduled_request hsch
      copies := cons_copies h.copies hd.copy
      internals := fun _ => h.internals (by simp [hst])
      fresh := fun hf => absurd hf hst'.1
      names := fun it hit => by
        have := h.names_bounds hit
        exact holds_other (h.names it hit) hd.block (by rcases hbase with hb | hb <;> omega)
      namesSaved := fun hf => absurd hf hst'.2
      namesAll := fun _ _ => h.namesAll (by simp [hst]) (by simp [hst])
      readingsLe := by
        rcases hend with ⟨-, rfl, -⟩ | ⟨-, rfl, -⟩
        · exact hd.loop.le
        · exact Nat.zero_le _
      offset := by
        rcases hend with ⟨-, rfl, rfl, -⟩ | ⟨-, rfl, rfl⟩
        · exact hd.loop.offset
        · rfl
      taken := fun b => by
        by_cases hb : b = k.readingsBufAddr
        · subst hb
          simp only [Function.update_self]
          exact hd.loop.taken
        · simp only [Function.update_of_ne hb]
          exact h.taken b
      readings := fun b hb => by
        by_cases he : b = k.readingsBufAddr
        · subst he
          simp only [Function.update_self]
          exact hfin.holds
        · simp only [Function.update_of_ne he]
          intro it hit
          have := h.readings_bounds hit
          exact holds_other (h.readings b hb it hit) hd.block (by
            rcases hbase with hb' | hb' <;> rcases hb with hb | hb <;> omega)
      between := fun hne => by
        rcases hend with ⟨rfl, -⟩ | ⟨-, rfl, -⟩
        · exact absurd rfl hne
        · rfl
      inCycle := fun hne => by
        rcases hend with ⟨-, rfl, rfl, hidx⟩ | ⟨-, rfl, -⟩
        · simp only [Function.update_self]
          exact ⟨hd.offset hidx, hfin⟩
        · exact absurd rfl hne
      save := fun _ => hsave }
  refine bceCopy_split (MmInv p) (fun k => k.readingsCopied c (align128Up c.byteCount)) hr ?_ fun r sch hsch => ?_
  · refine mmInv_idle hr (h.stalled (c := (_, _)) hd.copy ?_)
    by_cases h0 : k.readingsIndex = 0
    · exact .inr ⟨h0, by simp [hst]⟩
    · exact .inl (if_neg h0)
  · unfold Mm.readingsCopied MmInv Mm.settled
    simp only [saveLastWrite_eq]
    by_cases hall : k.sensors.length ≤ c.index
    · simp only [hall, decide_true, if_true, hsch.settle]
      exact hat _ _ _ _ _ _ hsch (.inr ⟨rfl, rfl, rfl⟩)
    · simp only [hall, decide_false, if_false, Bool.false_eq_true, hsch.settle]
      exact hat _ _ k.state _ _ _ hsch (.inl ⟨hst, rfl, rfl, fun he => hall (Nat.le_of_eq he.symm)⟩)

theorem MmAt.validateSensorReadings (h : MmAt p k k.mem) (hr : k.request = none)
    (hst : k.state = .validateSensorReadings) : MmInv p (k.validateSensorReadings p ok) := by
  have hb := h.between (by simp [hst])
  have hbase := h.base (h.internals (by simp [hst]))
  have hapart := blocks_apart p
  have hlines := blocks_lines p
  have hin : k.readingsBufAddr ≤ k.readingsBufAddr ∧ k.readingsBufAddr + minWriteSize ≤ k.readingsBufAddr + readingsSize :=
    ⟨Nat.le_refl _, Nat.add_le_add_left (show minWriteSize ≤ readingsSize by decide) _⟩
  have hc : CopyOk p k.readingsBufAddr minWriteSize := by
    refine ⟨?_, by decide, by decide, (k.readingsBufAddr, readingsSize), ?_, hin⟩
    · rcases hbase with hb | hb <;> omega
    · rcases hbase with hb | hb <;> simp [Platform.blocks, hb]
  -- the copy writes back the first line and marks the header
  have hsame : ∀ x, x ≠ k.readingsBufAddr → transfer k.mem (Staged.write (transfer zeros k.saveBuffer 0 0 minWriteSize) 0 [1])
      k.readingsBufAddr 0 minWriteSize x = k.mem x := by
    intro x hx
    unfold minWriteSize
    by_cases hx' : k.readingsBufAddr ≤ x ∧ x < k.readingsBufAddr + 128
    · rw [transfer_of_mem (by omega) hx'.2, write_above (by simp; omega), transfer_of_mem (by omega) (by omega), Nat.sub_zero,
        h.save (.inr hst) _ (by omega)]
      congr 1
      omega
    · by_cases hlt : x < k.readingsBufAddr
      · exact transfer_below hlt
      · exact transfer_above (by omega)
  refine bceCopy_split (MmInv p) (fun k' => { k' with
    readingsBufAddr := if k.readingsBufAddr = p.ping then p.pong else p.ping, state := .writeSensorReadings }) hr ?_
    fun r sch hsch => ?_
  · exact mmInv_idle hr (h.stalled (c := (_, _)) hc (.inl rfl))
  · unfold MmInv Mm.settled
    simp only [hsch.settle]
    exact { h with
      idle := hsch.idle
      request := scheduled_request hsch
      copies := cons_copies h.copies hc
      internals := fun _ => h.internals (by simp [hst])
      base := fun _ => by simp only; split <;> simp
      fresh := by simp
      names := fun it hit => by
        have := h.names_bounds hit
        exact (h.names it hit).mono fun x hx hx' => hsame x (by
          unfold Item.stop at this
          rcases hbase with hb | hb <;> omega)
      namesSaved := by simp
      namesAll := fun _ _ => h.namesAll (by simp [hst]) (by simp [hst])
      readings := fun b hb it hit => by
        have := h.readings_bounds hit
        exact (h.readings b hb it hit).mono fun x hx hx' => hsame x (by
          unfold Item.stop at this
          unfold readingsHeaderSize at this
          rcases hbase with hb' | hb' <;> rcases hb with hb | hb <;> omega)
      between := fun _ => hb
      inCycle := fun hne => absurd hb hne
      save := by simp [hb] }

/-! ### Ticks -/

theorem MmAt.scheduled (h : MmAt p k m) (hr : k.request = none) : MmAt p { k with scheduled := false } m :=
  { h with idle := fun _ => hr }

theorem MmAt.sensors (h : MmAt p k m) {f : MmSensor → MmSensor} (hf : Static f) :
    MmAt p { k with sensors := k.sensors.map f } m := by
  have hitems : ∀ i, namesItems p ((k.sensors.map f).take i) p.names readingsHeaderSize =
      namesItems p (k.sensors.take i) p.names readingsHeaderSize := by
    intro i
    rw [← List.map_take, namesItems_map hf]
  exact { h with
    fits := by simpa only [TableFits, List.length_map] using h.fits
    namesLe := by simpa only [List.length_map] using h.namesLe
    entry := by simpa only [entryNumber_map hf] using h.entry
    namesOffset := by simpa only [readingOffset_map hf] using h.namesOffset
    names := by simpa only [hitems] using h.names
    namesSaved := by simpa only [hitems] using h.namesSaved
    namesAll := by simpa only [List.length_map] using h.namesAll
    readingsLe := by simpa only [List.length_map] using h.readingsLe
    offset := by simpa only [readingOffset_map hf] using h.offset
    taken := fun b => (h.taken b).map hf
    readings := by simpa only [readingsItems_map hf] using h.readings
    inCycle := by simpa only [readingsItems_map hf] using h.inCycle }

theorem MmAt.initInternals (h : MmAt p k m) (hint : k.internals = false) (smf : Bool) (role : OccRole) :
    MmAt p { k.initInternals p smf role with internals := true } m := by
  have hst : k.state = .writeDataHeader := by
    by_contra hne
    have := h.internals hne
    simp [hint] at this
  obtain ⟨hz, ht⟩ := h.fresh hst
  have hb := h.between (by simp [hst])
  unfold Mm.initInternals
  exact { h with
    fits := by simpa only [TableFits, List.length_map] using h.fits
    internals := fun _ => rfl
    base := fun _ => .inl rfl
    namesLe := by simp [hz]
    entry := by
      have := h.entry
      rw [hz] at this
      simp only [hz, this]
      rfl
    namesOffset := by
      have := h.namesOffset
      rw [hz] at this
      simp only [hz, this]
      rfl
    names := by simp [hz, namesItems]
    namesSaved := by simp [hst]
    namesAll := by simp [hst]
    readingsLe := by simp [hb]
    offset := by
      have := h.offset
      rw [hb] at this
      simp only [hb, this]
      rfl
    taken := by simp [ht, TakenOk]
    readings := by simp [ht, readingsItems]
    inCycle := fun hne => absurd hb hne
    save := by simp [hb, hst] }

theorem MmInv.polled (h : MmInv p k) (hr : k.request = none) : MmAt p { k with scheduled := false } k.mem := by
  have hset : k.settled = k.mem := by
    unfold Mm.settled
    rw [hr]
    rfl
  have := h.scheduled hr
  rwa [hset] at this

theorem MmInv.init (h : MmInv p k) (smf : Bool) (role : OccRole) : MmInv p (k.init p smf role ok) := by
  have h₁ : ∀ k₁, k₁ = (if k.internals then k else { k.initInternals p smf role with internals := true }) →
      MmInv p k₁ ∧ k₁.internals = true := by
    rintro k₁ rfl
    split
    · rename_i hint
      exact ⟨h, hint⟩
    · rename_i hint
      exact ⟨h.initInternals (by simpa using hint) smf role, rfl⟩
  unfold Mm.init
  simp only
  generalize (if k.internals then k else { k.initInternals p smf role with internals := true }) = k₁ at h₁ ⊢
  obtain ⟨h₁, hint⟩ := h₁ k₁ rfl
  split
  · exact h₁
  rcases isBceReqIdle_cases h₁.idle with he | ⟨hr, he⟩
  · rw [he]
    exact h₁
  rw [he]
  have hat := h₁.polled hr
  simp only [Bool.not_true, Bool.false_eq_true, if_false]
  split
  · rename_i hst
    exact hat.writeDataHeader hr hst hint
  · rename_i hst
    exact hat.writeSensorNames hr hst
  · rename_i hst
    exact hat.validateDataHeader hr hst
  · exact mmInv_idle hr hat

theorem MmInv.update (h : MmInv p k) (list : BitVec 16 → SensorT) : MmInv p (k.update p list ok) := by
  unfold Mm.update
  split
  · exact h
  rcases isBceReqIdle_cases h.idle with he | ⟨hr, he⟩
  · simp only [he]
    exact h
  have hat := h.polled hr
  simp only [he, Bool.not_true, Bool.false_eq_true, if_false]
  split
  · rename_i hst
    exact hat.writeSensorReadings hr hst list
  · rename_i hst
    exact hat.validateSensorReadings hr hst
  · exact mmInv_idle hr hat

theorem static_setEnabled (p : Platform) (type : BitVec 16) (enabled : Bool) :
    Static fun s => if type &&& (p.sensorInfo s.gsid).type ≠ 0 then { s with enabled := enabled } else s := by
  intro s
  simp only
  split <;> exact ⟨rfl, rfl, rfl⟩

theorem MmInv.setEnabled (h : MmInv p k) (type : BitVec 16) (enabled : Bool) : MmInv p (k.setEnabled p type enabled) :=
  MmAt.sensors h (static_setEnabled p type enabled)

theorem settled_copyLine {r : BceRequest} (hr : k.request = some r) (hle : r.copied + 128 ≤ r.count) :
    (k.copyLine p r).settled = k.settled := by
  unfold Mm.settled Mm.copyLine
  rw [hr]
  exact transfer_transfer (Nat.le_add_right _ _) hle

theorem MmInv.copyLine (h : MmInv p k) {r : BceRequest} (hr : k.request = some r) (hlt : r.copied < r.count) :
    MmInv p (k.copyLine p r) := by
  obtain ⟨hmem, -, hline⟩ := h.request r hr
  obtain ⟨-, hn, -⟩ := h.copies _ hmem
  simp only at hn
  have hle : r.copied + 128 ≤ r.count := by omega
  unfold MmInv
  rw [settled_copyLine hr hle]
  exact { h with
    idle := fun hs => by
      have := h.idle hs
      simp [hr] at this
    request := by
      rintro x ⟨rfl⟩
      exact ⟨hmem, hle, by simp only; omega⟩ }

theorem MmInv.done (h : MmInv p k) {r : BceRequest} (hr : k.request = some r) (he : r.copied = r.count) :
    MmInv p { k with request := none } := by
  have hset : k.settled = k.mem := by
    unfold Mm.settled
    rw [hr]
    show transfer k.mem k.bceBuffer r.addr r.copied r.count = k.mem
    rw [he, transfer_empty]
  have hat : MmAt p k k.mem := hset ▸ h
  exact { hat with idle := fun _ => rfl, request := by simp }

theorem mmInv_start {sensors : List MmSensor} (hfit : TableFits sensors) (mem : Memory) : MmInv p (Mm.start sensors mem) where
  fits := hfit
  idle := fun _ => rfl
  request := by simp [Mm.start]
  copies := by simp [Mm.start]
  internals := by simp [Mm.start]
  base := by simp [Mm.start]
  fresh := by simp [Mm.start]
  namesLe := Nat.zero_le _
  entry := rfl
  namesOffset := rfl
  names := by simp [Mm.start, namesItems]
  namesSaved := by simp [Mm.start]
  namesAll := by simp [Mm.start]
  readingsLe := Nat.zero_le _
  offset := rfl
  taken := by simp [Mm.start, TakenOk]
  readings := by simp [Mm.start, readingsItems]
  between := by simp [Mm.start]
  inCycle := by simp [Mm.start]
  save := by simp [Mm.start]

end Steps

/-! ## Runs -/

/-- No scheduled copy ends with an error. -/
def NoFail (_ : Mm) (e : MmEvent) : Prop := e ≠ .fail

theorem mmInv_next {p : Platform} {k k' : Mm} {e : MmEvent} (h : MmInv p k) (he : NoFail k e)
    (hk : k.next p e = some k') : MmInv p k' := by
  unfold Mm.next at hk
  cases e with
  | init smf role ok =>
    cases hk
    exact h.init smf role
  | update list ok =>
    cases hk
    exact h.update list
  | setEnabled type enabled =>
    cases hk
    exact h.setEnabled type enabled
  | line =>
    simp only at hk
    split at hk
    · rename_i r hr
      split at hk <;> cases hk
      rename_i hlt
      exact h.copyLine hr hlt
    · cases hk
  | done =>
    simp only at hk
    split at hk
    · rename_i r hr
      split at hk <;> cases hk
      rename_i hcount
      exact h.done hr hcount
    · cases hk
  | fail => exact absurd rfl he

/-- A chip whose sensors all read in degrees. -/
def oneChip : Platform where
  chipId := 1
  sensorInfo := fun _ => ⟨Vector.replicate 16 65, Vector.replicate 4 67, 4, 2, 2000, 0x100⟩
  apssChToFunction := fun _ => 0
  cumulus := false
  pwrapssch0 := 100
  pwrapssch15 := 115
  mrdm0 := 200
  mrdm11 := 211
  mwrm0 := 212
  mwrm11 := 223

def oneSensor : MmSensor := ⟨7, true, false, true, true, .full⟩

/-- The header, and the names block after a retry. -/
def namesRun : List MmEvent :=
  .init false .master true :: List.replicate 8 .line ++
    [.done, .init false .master false, .init false .master true, .line, .done]

end Occ.Sensor
