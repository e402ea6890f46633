/-
The loops that fill the BCE buffer, against the layout of a table of sensors: the names entries of the
valid sensors one after another, and the offset of a sensor's readings behind those of the valid sensors
before it. Each loop goes through the table from where it begins and keeps what it stored staged.
-/
import Occ.Sensor.MainMemory

namespace Occ.Sensor

open Occ Staged

/-! ## Sizes -/

section Sizes

variable {p : Platform} {s : MmSensor} {n : Nat}

@[simp] theorem be_length (n : Nat) (v : BitVec (8 * n)) : (be n v).length = n := by simp [be]

@[simp] theorem initNamesEntry_length : (initNamesEntry p s n).length = namesEntrySize := by
  simp [initNamesEntry, namesEntrySize]

@[simp] theorem initReadings_length {r : SensorT} : (initReadings s r).length = readingsStructSize s.structVer := by
  unfold initReadings
  cases s.structVer <;> simp [readingsStructSize]

theorem readingsStructSize_pos (v : StructVersion) : 0 < readingsStructSize v ∧ readingsStructSize v ≤ 48 := by
  cases v <;> simp [readingsStructSize]

theorem align128Down_spec (n : Nat) : 128 ∣ align128Down n ∧ align128Down n ≤ n ∧ n < align128Down n + 128 := by
  unfold align128Down
  split <;> omega

theorem align128Up_spec (n : Nat) : 128 ∣ align128Up n ∧ n ≤ align128Up n ∧ align128Up n < n + 128 := by
  unfold align128Up
  split <;> omega

theorem align128Up_le {b : Nat} (hb : 128 ∣ b) (h : n ≤ b) : align128Up n ≤ b := by
  have := align128Up_spec n
  omega

end Sizes

/-! ## The layout of a table -/

/-- The bytes of the readings of the valid sensors. -/
def readingsBytes : List MmSensor → Nat
  | [] => 0
  | s :: sensors => (if s.valid then readingsStructSize s.structVer else 0) + readingsBytes sensors

/-- The offset of the readings of sensor `i` in a readings buffer. -/
def readingOffset (sensors : List MmSensor) (i : Nat) : Nat := readingsHeaderSize + readingsBytes (sensors.take i)

/-- The number of the names entry of sensor `i`. -/
def entryNumber (sensors : List MmSensor) (i : Nat) : Nat := (sensors.take i).countP (·.valid)

/-- The names entries of the valid sensors, from an address and a readings offset on. -/
def namesItems (p : Platform) : List MmSensor → Nat → Nat → List Item
  | [], _, _ => []
  | s :: sensors, a, r =>
    if s.valid then
      (a, initNamesEntry p s r) :: namesItems p sensors (a + namesEntrySize) (r + readingsStructSize s.structVer)
    else namesItems p sensors a r

/-- The readings taken in a cycle, at their addresses in the buffer. -/
def readingsItems (base : Nat) (sensors : List MmSensor) (taken : List Item) : List Item :=
  taken.map fun it => (base + readingOffset sensors it.1, it.2)

/-- The readings of a list of sensors that are valid and enabled, with their indices from `i` on. -/
def readingsOf (list : BitVec 16 → SensorT) : List MmSensor → Nat → List Item
  | [], _ => []
  | s :: sensors, i =>
    (if s.valid && s.enabled then [(i, initReadings s (list s.gsid))] else []) ++ readingsOf list sensors (i + 1)

section Layout

variable {p : Platform} {sensors pre rest : List MmSensor} {s : MmSensor} {i j a r base : Nat}

theorem readingsBytes_append : readingsBytes (pre ++ rest) = readingsBytes pre + readingsBytes rest := by
  induction pre with
  | nil => simp [readingsBytes]
  | cons s pre ih => simp only [List.cons_append, readingsBytes, ih, Nat.add_assoc]

theorem readingsBytes_le : readingsBytes sensors ≤ sensors.length * 48 := by
  induction sensors with
  | nil => simp [readingsBytes]
  | cons s sensors ih =>
    have := readingsStructSize_pos s.structVer
    simp only [readingsBytes, List.length_cons]
    split <;> omega

theorem take_succ (h : sensors.drop i = s :: rest) : sensors.take (i + 1) = sensors.take i ++ [s] := by
  have hi : sensors[i]? = some s := by
    rw [← Nat.add_zero i, ← List.getElem?_drop, h]
    rfl
  rw [List.take_add_one, hi]
  rfl

theorem drop_succ (h : sensors.drop i = s :: rest) : i < sensors.length ∧ sensors.drop (i + 1) = rest := by
  constructor
  · by_contra hle
    rw [List.drop_eq_nil_of_le (by omega)] at h
    cases h
  · rw [← List.drop_drop, h]
    rfl

theorem readingOffset_succ (h : sensors[i]? = some s) :
    readingOffset sensors (i + 1) = readingOffset sensors i + if s.valid then readingsStructSize s.structVer else 0 := by
  unfold readingOffset
  rw [List.take_add_one, h, Option.toList_some, readingsBytes_append, Nat.add_assoc]
  simp [readingsBytes]

theorem readingOffset_mono (h : i ≤ j) : readingOffset sensors i ≤ readingOffset sensors j := by
  unfold readingOffset
  obtain ⟨d, rfl⟩ := Nat.exists_eq_add_of_le h
  rw [List.take_add, readingsBytes_append]
  omega

theorem entryNumber_le : entryNumber sensors i ≤ sensors.length :=
  Nat.le_trans List.countP_le_length (by rw [List.length_take]; exact Nat.min_le_right _ _)

theorem namesItems_append : namesItems p (pre ++ rest) a r =
    namesItems p pre a r ++
      namesItems p rest (a + namesEntrySize * pre.countP (·.valid)) (r + readingsBytes pre) := by
  induction pre generalizing a r with
  | nil => simp [namesItems, readingsBytes]
  | cons s pre ih =>
    simp only [List.cons_append, namesItems, readingsBytes, List.countP_cons]
    split
    · rw [ih, List.cons_append, Nat.mul_succ]
      congr 3 <;> omega
    · rw [ih, Nat.zero_add]
      rfl

theorem mem_namesItems (h : sensors[i]? = some s) (hs : s.valid) (hij : i < j) :
    (a + namesEntrySize * entryNumber sensors i, initNamesEntry p s (readingOffset sensors i)) ∈
      namesItems p (sensors.take j) a readingsHeaderSize := by
  have hsplit : sensors.take j = sensors.take i ++ s :: (sensors.take j).drop (i + 1) := by
    have htake : sensors.take i = (sensors.take j).take i := by
      rw [List.take_take, Nat.min_eq_left (by omega)]
    have hget : (sensors.take j)[i]? = some s := by
      rw [List.getElem?_take_of_lt hij, h]
    obtain ⟨hlt, hs'⟩ := List.getElem?_eq_some_iff.1 hget
    rw [htake]
    conv_lhs => rw [← List.take_append_drop i (sensors.take j), List.drop_eq_getElem_cons hlt, hs']
  rw [hsplit, namesItems_append]
  refine List.mem_append_right _ ?_
  simp only [namesItems, hs, if_true]
  exact List.mem_cons_self

theorem namesItems_bounds {it : Item} (h : it ∈ namesItems p sensors a r) :
    a ≤ it.1 ∧ it.stop ≤ a + namesEntrySize * sensors.length := by
  induction sensors generalizing a r with
  | nil => simp [namesItems] at h
  | cons s sensors ih =>
    simp only [namesItems] at h
    have hlen : namesEntrySize * (s :: sensors).length = namesEntrySize * sensors.length + namesEntrySize := by
      rw [List.length_cons, Nat.mul_succ]
    split at h
    · rcases List.mem_cons.1 h with rfl | h
      · unfold Item.stop
        rw [initNamesEntry_length]
        omega
      · obtain ⟨h₁, h₂⟩ := ih h
        omega
    · obtain ⟨h₁, h₂⟩ := ih h
      omega

/-- What was taken of sensor `i` fits before the next sensor's readings. -/
def TakenOk (sensors : List MmSensor) (taken : List Item) : Prop :=
  ∀ it ∈ taken, ∃ s, sensors[it.1]? = some s ∧ s.valid ∧ it.2.length = readingsStructSize s.structVer

theorem TakenOk.bounds {taken : List Item} (h : TakenOk sensors taken) {it : Item}
    (hit : it ∈ readingsItems base sensors taken) :
    base + readingsHeaderSize ≤ it.1 ∧ it.stop ≤ base + readingsHeaderSize + sensors.length * 48 := by
  obtain ⟨x, hx, rfl⟩ := List.mem_map.1 hit
  obtain ⟨s, hs, hv, hlen⟩ := h x hx
  have hsucc := readingOffset_succ hs
  rw [if_pos hv, ← hlen] at hsucc
  have hle : readingOffset sensors (x.1 + 1) ≤ readingsHeaderSize + sensors.length * 48 := by
    refine Nat.le_trans (readingOffset_mono (Nat.le_max_left (x.1 + 1) sensors.length)) ?_
    unfold readingOffset
    rw [List.take_of_length_le (Nat.le_max_right _ _)]
    exact Nat.add_le_add_left readingsBytes_le _
  constructor
  · show base + readingsHeaderSize ≤ base + readingOffset sensors x.1
    unfold readingOffset
    omega
  · show base + readingOffset sensors x.1 + x.2.length ≤ _
    omega

/-! ### Sensors with the same static parts -/

/-- The parts of the sensors that the layout depends on stay. -/
def Static (f : MmSensor → MmSensor) : Prop :=
  ∀ s, (f s).gsid = s.gsid ∧ (f s).valid = s.valid ∧ (f s).structVer = s.structVer

section Map

variable {f : MmSensor → MmSensor} {taken : List Item}

theorem readingsBytes_map (hf : Static f) : readingsBytes (sensors.map f) = readingsBytes sensors := by
  induction sensors with
  | nil => rfl
  | cons s sensors ih =>
    obtain ⟨-, hv, hs⟩ := hf s
    simp only [List.map_cons, readingsBytes, hv, hs, ih]

theorem readingOffset_map (hf : Static f) : readingOffset (sensors.map f) i = readingOffset sensors i := by
  unfold readingOffset
  rw [← List.map_take, readingsBytes_map hf]

theorem entryNumber_map (hf : Static f) : entryNumber (sensors.map f) i = entryNumber sensors i := by
  have hv : (fun s => (f s).valid) = fun s => s.valid := funext fun s => (hf s).2.1
  unfold entryNumber
  rw [← List.map_take, List.countP_map]
  exact congrArg (fun q => List.countP q _) hv

theorem namesItems_map (hf : Static f) : namesItems p (sensors.map f) a r = namesItems p sensors a r := by
  induction sensors generalizing a r with
  | nil => rfl
  | cons s sensors ih =>
    obtain ⟨hg, hv, hs⟩ := hf s
    have hentry : ∀ n, initNamesEntry p (f s) n = initNamesEntry p s n := by
      intro n
      unfold initNamesEntry
      rw [hg, hs]
    simp only [List.map_cons, namesItems, hv, hs, hentry, ih]

theorem readingsItems_map (hf : Static f) : readingsItems base (sensors.map f) taken = readingsItems base sensors taken := by
  unfold readingsItems
  simp only [readingOffset_map hf]

theorem TakenOk.map (h : TakenOk sensors taken) (hf : Static f) : TakenOk (sensors.map f) taken := by
  intro it hit
  obtain ⟨s, hs, hv, hl⟩ := h it hit
  refine ⟨f s, ?_, by rw [(hf s).2.1, hv], by rw [(hf s).2.2, hl]⟩
  rw [List.getElem?_map, hs]
  rfl

end Map

end Layout

/-! ## The names loop -/

section Names

variable {p : Platform} {sensors rest : List MmSensor} {m last : Memory} {L w : Nat} {c : Mm.NamesCursor}

/-- Where the names loop is: everything before its index is staged. -/
structure NamesAt (p : Platform) (sensors : List MmSensor) (m last : Memory) (L w : Nat) (c : Mm.NamesCursor) :
    Prop where
  le : c.index ≤ sensors.length
  entry : c.entryOffset = namesEntrySize * entryNumber sensors c.index
  offset : c.readingsOffset = readingOffset sensors c.index
  buf : w + c.bufOffset = p.names + c.entryOffset
  size : c.bufOffset ≤ bceBufSize
  staging : Staging 128 m last L (namesItems p (sensors.take c.index) p.names readingsHeaderSize) c.buffer w
    c.bufOffset (p.names + c.entryOffset)

theorem NamesAt.skip (h : NamesAt p sensors m last L w c) {s : MmSensor} (hd : sensors.drop c.index = s :: rest)
    (hs : s.valid = false) : NamesAt p sensors m last L w { c with index := c.index + 1 } := by
  have hitems : namesItems p (sensors.take (c.index + 1)) p.names readingsHeaderSize =
      namesItems p (sensors.take c.index) p.names readingsHeaderSize := by
    rw [take_succ hd, namesItems_append]
    simp [namesItems, hs]
  refine { h with le := (drop_succ hd).1, entry := ?_, offset := ?_, staging := ?_ }
  · rw [h.entry, entryNumber, entryNumber, take_succ hd]
    simp [hs]
  · rw [h.offset, readingOffset, readingOffset, take_succ hd, readingsBytes_append]
    simp [readingsBytes, hs]
  · show Staging 128 m last L (namesItems p (sensors.take (c.index + 1)) _ _) _ _ _ _
    rw [hitems]
    exact h.staging

/-- A valid sensor's entry is stored. -/
theorem NamesAt.store (h : NamesAt p sensors m last L w c) {s : MmSensor} (hd : sensors.drop c.index = s :: rest)
    (hs : s.valid = true) (hroom : c.bufOffset + namesEntrySize ≤ bceBufSize) :
    NamesAt p sensors m last L w
      { index := c.index + 1
        entryOffset := c.entryOffset + namesEntrySize
        readingsOffset := c.readingsOffset + readingsStructSize s.structVer
        bufOffset := c.bufOffset + namesEntrySize
        buffer := Staged.write c.buffer c.bufOffset (initNamesEntry p s c.readingsOffset) } := by
  have hbuf := h.buf
  have hlen : (initNamesEntry p s c.readingsOffset).length = namesEntrySize := initNamesEntry_length
  have hitems : namesItems p (sensors.take (c.index + 1)) p.names readingsHeaderSize =
      namesItems p (sensors.take c.index) p.names readingsHeaderSize ++
        [(p.names + c.entryOffset, initNamesEntry p s c.readingsOffset)] := by
    rw [take_succ hd, namesItems_append, h.entry, h.offset]
    simp only [namesItems, hs, if_true, entryNumber, readingOffset]
  have hne : initNamesEntry p s c.readingsOffset ≠ [] := by
    rw [← List.length_pos_iff, hlen]
    decide
  have hst := h.staging.store hne
  rw [hlen, show p.names + c.entryOffset - w = c.bufOffset by omega, ← hitems, Nat.add_assoc] at hst
  refine ⟨(drop_succ hd).1, ?_, ?_, ?_, hroom, hst⟩
  · rw [h.entry, entryNumber, entryNumber, take_succ hd, List.countP_append, Nat.mul_add]
    simp [hs]
  · show c.readingsOffset + _ = readingOffset sensors (c.index + 1)
    rw [h.offset, readingOffset, readingOffset, take_succ hd, readingsBytes_append, Nat.add_assoc]
    simp [readingsBytes, hs]
  · show w + (c.bufOffset + namesEntrySize) = p.names + (c.entryOffset + namesEntrySize)
    omega

theorem namesLoop_at (h : NamesAt p sensors m last L w c) (hd : sensors.drop c.index = rest) :
    NamesAt p sensors m last L w (Mm.namesLoop p rest c) := by
  induction rest generalizing c with
  | nil => exact h
  | cons s rest ih =>
    unfold Mm.namesLoop
    obtain ⟨-, hd'⟩ := drop_succ hd
    split
    · exact h
    · rename_i hroom
      split
      · rename_i hs
        exact ih (h.skip hd (by simpa using hs)) hd'
      · rename_i hs
        exact ih (h.store hd (by simpa using hs) (by omega)) hd'

end Names

/-! ## The readings loop -/

section Readings

variable {base lo : Nat} {list : BitVec 16 → SensorT} {sensors rest : List MmSensor} {m last : Memory} {L : Nat}
  {c : Mm.ReadingsCursor} {s : MmSensor}

/-- Where the readings loop is: the readings taken before its index are staged, from `lo` on. -/
structure ReadingsAt (base lo : Nat) (sensors : List MmSensor) (m last : Memory) (L : Nat) (c : Mm.ReadingsCursor) :
    Prop where
  le : c.index ≤ sensors.length
  offset : c.readingsOffset = readingOffset sensors c.index
  taken : TakenOk sensors c.taken
  lo : lo ≤ c.writeAddr
  addr : c.writeAddr ≤ base + c.readingsOffset
  size : c.byteCount ≤ bceBufSize
  staging : Staging 128 m last L (readingsItems base sensors c.taken) c.buffer c.writeAddr c.byteCount
    (base + c.readingsOffset)

theorem ReadingsAt.pass (h : ReadingsAt base lo sensors m last L c) (hd : sensors.drop c.index = s :: rest)
    (hs : s.valid = false) : ReadingsAt base lo sensors m last L { c with index := c.index + 1 } := by
  refine { h with le := (drop_succ hd).1, offset := ?_ }
  rw [h.offset, readingOffset, readingOffset, take_succ hd, readingsBytes_append]
  simp [readingsBytes, hs]

theorem readingOffset_take (h : c.readingsOffset = readingOffset sensors c.index) (hd : sensors.drop c.index = s :: rest)
    (hs : s.valid = true) :
    c.readingsOffset + readingsStructSize s.structVer = readingOffset sensors (c.index + 1) := by
  rw [h, readingOffset, readingOffset, take_succ hd, readingsBytes_append, Nat.add_assoc]
  simp [readingsBytes, hs]

/-- A sensor that is not enabled is passed over; the empty buffer can move forward. -/
theorem ReadingsAt.skip (h : ReadingsAt base lo sensors m last L c) (hd : sensors.drop c.index = s :: rest)
    (hs : s.valid = true) :
    ReadingsAt base lo sensors m last L { Mm.skipReadings base s c with index := c.index + 1 } := by
  have hoff := readingOffset_take h.offset hd hs
  have hlo := h.lo
  have haddr := h.addr
  have hpos := readingsStructSize_pos s.structVer
  obtain ⟨hdvd, hle, hlt⟩ := align128Down_spec (base + (c.readingsOffset + readingsStructSize s.structVer))
  unfold Mm.skipReadings
  simp only [hs, Bool.not_true, Bool.false_eq_true, if_false]
  by_cases hc : c.byteCount = 0
  · simp only [hc, if_true]
    have hst := h.staging
    rw [hc] at hst
    split
    · -- the line of the next readings is a later one
      rename_i hne
      have hwle : c.writeAddr ≤ align128Down (base + (c.readingsOffset + readingsStructSize s.structVer)) := by
        by_contra hgt
        have := line_le hdvd hst.line (by omega)
        omega
      have hw := Nat.lt_of_le_of_ne hwle (Ne.symm hne)
      exact ⟨(drop_succ hd).1, hoff, h.taken, Nat.le_trans hlo hwle, hle, Nat.zero_le _,
        (hst.skip (by simp only; omega)).move _ hw hdvd hle⟩
    · exact ⟨(drop_succ hd).1, hoff, h.taken, hlo, by simp only; omega, Nat.zero_le _, hst.skip (by simp only; omega)⟩
  · simp only [hc, if_false]
    exact ⟨(drop_succ hd).1, hoff, h.taken, hlo, by simp only; omega, h.size, h.staging.skip (by simp only; omega)⟩

/-- A sensor's readings are stored. -/
theorem ReadingsAt.store (h : ReadingsAt base lo sensors m last L c) (hd : sensors.drop c.index = s :: rest)
    (hs : s.valid = true) (r : SensorT)
    (hroom : base + c.readingsOffset - c.writeAddr + readingsStructSize s.structVer ≤ bceBufSize) :
    ReadingsAt base lo sensors m last L
      { Mm.storeReadings s r (base + c.readingsOffset - c.writeAddr) c with index := c.index + 1 } := by
  have hoff := readingOffset_take h.offset hd hs
  have haddr := h.addr
  have hget : sensors[c.index]? = some s := by
    rw [← Nat.add_zero c.index, ← List.getElem?_drop, hd]
    rfl
  have hlen : (initReadings s r).length = readingsStructSize s.structVer := initReadings_length
  have hne : initReadings s r ≠ [] := by
    rw [← List.length_pos_iff, hlen]
    exact (readingsStructSize_pos _).1
  have hst := h.staging.store hne
  have hitems : readingsItems base sensors (c.taken ++ [(c.index, initReadings s r)]) =
      readingsItems base sensors c.taken ++ [(base + c.readingsOffset, initReadings s r)] := by
    simp [readingsItems, h.offset]
  rw [← hitems, Nat.add_assoc] at hst
  rw [← hlen] at hoff hroom
  refine ⟨(drop_succ hd).1, hoff, ?_, h.lo, ?_, hroom, hst⟩
  swap
  · show c.writeAddr ≤ base + (c.readingsOffset + (initReadings s r).length)
    omega
  intro it hit
  rcases List.mem_append.1 hit with hit | hit
  · exact h.taken it hit
  · rw [List.mem_singleton] at hit
    subst hit
    exact ⟨s, hget, hs, hlen⟩

theorem skipReadings_index :
    (Mm.skipReadings base s c).index = c.index ∧ (Mm.skipReadings base s c).taken = c.taken := by
  unfold Mm.skipReadings
  simp only
  split
  · exact ⟨rfl, rfl⟩
  · split
    · split <;> exact ⟨rfl, rfl⟩
    · exact ⟨rfl, rfl⟩

theorem skipReadings_full (hc : c.byteCount ≠ 0) :
    ∃ o, c.readingsOffset ≤ o ∧ Mm.skipReadings base s c = { c with readingsOffset := o } := by
  unfold Mm.skipReadings
  simp only [hc, if_false]
  split
  · exact ⟨_, Nat.le_refl _, rfl⟩
  · exact ⟨_, Nat.le_add_right _ _, rfl⟩

theorem readingsLoop_at (h : ReadingsAt base lo sensors m last L c) (hd : sensors.drop c.index = rest) :
    ReadingsAt base lo sensors m last L (Mm.readingsLoop base list rest c) := by
  induction rest generalizing c with
  | nil => exact h
  | cons s rest ih =>
    unfold Mm.readingsLoop
    obtain ⟨-, hd'⟩ := drop_succ hd
    simp only
    split
    · exact h
    · rename_i hroom
      split
      · by_cases hs : s.valid = true
        · rw [skipReadings_index.1]
          exact ih (h.skip hd hs) hd'
        · rw [Bool.not_eq_true] at hs
          have hskip : Mm.skipReadings base s c = c := by
            unfold Mm.skipReadings
            simp [hs]
          rw [hskip]
          exact ih (h.pass hd hs) hd'
      · rename_i hve
        simp only [Bool.or_eq_true, Bool.not_eq_true', not_or, Bool.not_eq_false] at hve
        exact ih (h.store hd hve.1 _ (by omega)) hd'

/-- The loop takes the readings of the sensors that it passes when they are valid and enabled. -/
theorem readingsLoop_taken : ∃ n ≤ rest.length, (Mm.readingsLoop base list rest c).index = c.index + n ∧
    (Mm.readingsLoop base list rest c).taken = c.taken ++ readingsOf list (rest.take n) c.index := by
  induction rest generalizing c with
  | nil => exact ⟨0, Nat.le_refl _, rfl, by simp [Mm.readingsLoop, readingsOf]⟩
  | cons s rest ih =>
    unfold Mm.readingsLoop
    simp only
    split
    · exact ⟨0, Nat.zero_le _, rfl, by simp [readingsOf]⟩
    · split
      · rename_i hve
        have hnot : (s.valid && s.enabled) = false := by
          simpa only [Bool.or_eq_true, Bool.not_eq_true', ← Bool.and_eq_false_iff] using hve
        obtain ⟨n, hn, hidx, htaken⟩ := @ih { Mm.skipReadings base s c with index := c.index + 1 }
        obtain ⟨hi, ht⟩ := @skipReadings_index base c s
        rw [hi]
        refine ⟨n + 1, by rw [List.length_cons]; omega, by rw [hidx]; simp only; omega, ?_⟩
        rw [htaken, List.take_succ_cons, readingsOf, hnot]
        simp only [ht, Bool.false_eq_true, if_false, List.nil_append]
      · rename_i hve
        simp only [Bool.or_eq_true, Bool.not_eq_true', not_or, Bool.not_eq_false] at hve
        obtain ⟨n, hn, hidx, htaken⟩ := @ih { Mm.storeReadings s (list s.gsid) (base + c.readingsOffset - c.writeAddr) c with index := c.index + 1 }
        refine ⟨n + 1, by rw [List.length_cons]; omega, ?_, ?_⟩
        · refine Eq.trans hidx ?_
          simp only
          omega
        · refine Eq.trans htaken ?_
          rw [List.take_succ_cons, readingsOf, hve.1, hve.2]
          simp [Mm.storeReadings]

/-- The loop ends with the table, or with a full buffer. -/
theorem readingsLoop_stops : (Mm.readingsLoop base list rest c).index = c.index + rest.length ∨
    bceBufSize < base + (Mm.readingsLoop base list rest c).readingsOffset -
      (Mm.readingsLoop base list rest c).writeAddr + 48 := by
  induction rest generalizing c with
  | nil => exact .inl rfl
  | cons s rest ih =>
    unfold Mm.readingsLoop
    have hpos := readingsStructSize_pos s.structVer
    simp only
    split
    · exact .inr (by omega)
    · split
      · rcases @ih { Mm.skipReadings base s c with index := (Mm.skipReadings base s c).index + 1 } with h | h
        · rw [h, skipReadings_index.1, List.length_cons]
          exact .inl (by simp only; omega)
        · exact .inr h
      · rcases @ih { Mm.storeReadings s (list s.gsid) (base + c.readingsOffset - c.writeAddr) c with index := c.index + 1 }
          with h | h
        · rw [List.length_cons]
          exact .inl (h.trans (by simp only; omega))
        · exact .inr h

/-- A buffer that begins with the header keeps it, and its address. -/
theorem readingsLoop_header (hc : c.byteCount ≠ 0) (hw : c.writeAddr = base) (ho : readingsHeaderSize ≤ c.readingsOffset) :
    (Mm.readingsLoop base list rest c).byteCount ≠ 0 ∧ (Mm.readingsLoop base list rest c).writeAddr = base ∧
      ∀ x < readingsHeaderSize, (Mm.readingsLoop base list rest c).buffer x = c.buffer x := by
  induction rest generalizing c with
  | nil => exact ⟨hc, hw, fun _ _ => rfl⟩
  | cons s rest ih =>
    unfold Mm.readingsLoop
    have hpos := readingsStructSize_pos s.structVer
    simp only
    split
    · exact ⟨hc, hw, fun _ _ => rfl⟩
    · split
      · obtain ⟨o, hle, he⟩ := @skipReadings_full base c s hc
        rw [he]
        exact ih hc hw (Nat.le_trans ho hle)
      · obtain ⟨h₁, h₂, h₃⟩ := @ih
          { Mm.storeReadings s (list s.gsid) (base + c.readingsOffset - c.writeAddr) c with index := c.index + 1 }
          (by simp only [Mm.storeReadings, initReadings_length]; omega) hw
          (Nat.le_trans ho (Nat.le_add_right _ _))
        refine ⟨h₁, h₂, fun x hx => (h₃ x hx).trans ?_⟩
        exact write_below (by omega)

end Readings

end Occ.Sensor
