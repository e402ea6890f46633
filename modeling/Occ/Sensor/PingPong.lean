/-
The ping and pong buffers: while no copy ends with an error, a buffer's header is written as valid only over
the complete readings of a cycle, no byte of a buffer changes while its header is valid, and once a cycle
was completed one of the buffers is always valid. The engine copies lines, so that a header and the first
readings are written together.
-/
import Occ.Sensor.Layout

namespace Occ.Sensor

open Occ Staged Transition

/-- A readings buffer. -/
def Platform.IsBuf (p : Platform) (b : Nat) : Prop := b = p.ping ∨ b = p.pong

def Platform.other (p : Platform) (b : Nat) : Nat := if b = p.ping then p.pong else p.ping

/-- The state is past the names block. -/
def Mm.Named (k : Mm) : Prop := k.state ≠ .writeDataHeader ∧ k.state ≠ .writeSensorNames

/-- What the outstanding copy is. -/
inductive Flight (p : Platform) (k : Mm) (r : BceRequest) : Prop
  /-- the data header, marked when the names are written -/
  | header (addr : r.addr = p.dataBlock) (size : r.count ≤ headerBlockSize) (mark : k.bceBuffer 0 = 1 → k.Named)
  /-- a part of the names block -/
  | names (lo : p.names ≤ r.addr) (hi : r.addr + r.count ≤ p.names + namesSize) (unmarked : k.namesValidated = false)
  /-- the beginning of a readings buffer, with its header -/
  | first (named : k.Named) (buf : p.IsBuf k.readingsBufAddr) (addr : r.addr = k.readingsBufAddr)
    (hi : r.addr + r.count ≤ k.readingsBufAddr + readingsSize) (clear : k.bceBuffer 0 = 0)
    (mem : r.copied ≠ 0 → k.mem k.readingsBufAddr = 0)
  /-- a later part of a readings buffer -/
  | rest (named : k.Named) (buf : p.IsBuf k.readingsBufAddr) (lo : k.readingsBufAddr + 128 ≤ r.addr)
    (hi : r.addr + r.count ≤ k.readingsBufAddr + readingsSize) (mem : k.mem k.readingsBufAddr = 0)
  /-- the first line of the buffer that was just filled, marked as valid -/
  | validate (named : k.Named) (buf : p.IsBuf k.readingsBufAddr) (addr : r.addr = p.other k.readingsBufAddr)
    (size : r.count = 128) (mark : k.bceBuffer 0 = 1) (mem : r.copied = 0 → k.mem r.addr = 0)
    (complete : (k.cycle r.addr).complete = true)

/-- The cycle is in the memory, complete, under a valid header. -/
structure InMemory (sensors : List MmSensor) (mem : Memory) (b : Nat) (c : Cycle) : Prop where
  header : mem b = 1
  complete : c.complete = true
  taken : TakenOk sensors c.taken
  holds : ∀ it ∈ readingsItems b sensors c.taken, Holds mem it.1 it.2

/-- Every names entry is in the memory, under a valid data header. -/
structure NamesInMemory (p : Platform) (k : Mm) : Prop where
  header : k.mem p.dataBlock = 1
  holds : ∀ it ∈ namesItems p k.sensors p.names readingsHeaderSize, Holds k.mem it.1 it.2

structure PingInv (p : Platform) (k : Mm) : Prop where
  early : ¬k.Named → k.namesValidated = false ∧ ∀ b, k.validated b = none
  data : k.namesValidated = true → NamesInMemory p k
  valid : ∀ b, p.IsBuf b → ∀ c, k.validated b = some c → InMemory k.sensors k.mem b c
  one : (∃ b, p.IsBuf b ∧ k.validated b ≠ none) → k.validated (p.other k.readingsBufAddr) ≠ none ∨
    ∃ r, k.request = some r ∧ r.addr = p.other k.readingsBufAddr ∧ r.copied = 0
  writing : k.readingsIndex ≠ 0 ∨ k.state = .validateSensorReadings → k.settled k.readingsBufAddr = 0
  filled : k.state = .validateSensorReadings → (k.cycle k.readingsBufAddr).complete = true
  flight : ∀ r, k.request = some r → Flight p k r

section Lines

variable {p : Platform} {k k' : Mm} {r : BceRequest} {b x : Nat}

theorem isBuf_bounds (h : p.IsBuf b) : p.names + namesSize < b ∧ 128 ∣ b ∧
    ∀ b', p.IsBuf b' → b ≠ b' → b + readingsSize < b' ∨ b' + readingsSize < b := by
  have hapart := blocks_apart p
  have hlines := blocks_lines p
  unfold Platform.IsBuf at *
  refine ⟨?_, ?_, ?_⟩
  · rcases h with rfl | rfl <;> omega
  · rcases h with rfl | rfl <;> omega
  · rintro b' hb' hne
    rcases h with rfl | rfl <;> rcases hb' with rfl | rfl <;> omega

theorem isBuf_other (h : p.IsBuf b) : p.IsBuf (p.other b) ∧ p.other b ≠ b ∧ p.other (p.other b) = b ∧
    ∀ b', p.IsBuf b' → b' = b ∨ b' = p.other b := by
  have hapart := blocks_apart p
  have hne : p.ping ≠ p.pong := by
    unfold readingsSize at hapart
    omega
  unfold Platform.IsBuf Platform.other at *
  rcases h with rfl | rfl
  · simp [hne.symm]
  · refine ⟨?_, ?_, ?_, fun b' hb' => ?_⟩ <;> simp_all [hne.symm, or_comm]

theorem copyLine_mem (h : x < r.addr + r.copied ∨ r.addr + r.copied + 128 ≤ x) : (k.copyLine p r).mem x = k.mem x := by
  unfold Mm.copyLine
  rcases h with h | h
  · exact transfer_below h
  · exact transfer_above (by omega)

theorem copyLine_line (h : r.addr + r.copied = x) : (k.copyLine p r).mem x = k.bceBuffer r.copied := by
  unfold Mm.copyLine
  simp only
  rw [transfer_of_mem (by omega) (by omega)]
  congr 1
  omega

theorem InMemory.mono {sensors : List MmSensor} {mem mem' : Memory} {c : Cycle} (h : InMemory sensors mem b c)
    (hfit : TableFits sensors) (he : ∀ x, b ≤ x → x < b + readingsSize → mem' x = mem x) :
    InMemory sensors mem' b c where
  header := by
    rw [he b (Nat.le_refl _) (Nat.lt_add_of_pos_right (by decide))]
    exact h.header
  complete := h.complete
  taken := h.taken
  holds := fun it hit => by
    have hb := h.taken.bounds hit
    have hle := hfit.2
    unfold Item.stop at hb
    exact (h.holds it hit).mono fun x hx hx' => he x (by omega) (by omega)

theorem NamesInMemory.mono (h : NamesInMemory p k) (hfit : TableFits k.sensors) (hs : k'.sensors = k.sensors)
    (hh : k'.mem p.dataBlock = k.mem p.dataBlock)
    (he : ∀ x, p.names ≤ x → x < p.names + namesSize → k'.mem x = k.mem x) : NamesInMemory p k' where
  header := by
    rw [hh]
    exact h.header
  holds := fun it hit => by
    rw [hs] at hit
    have hb := namesItems_bounds hit
    have hle := hfit.1
    simp only [Item.stop, namesEntrySize] at hb hle
    exact (h.holds it hit).mono fun x hx hx' => he x (by omega) (by omega)

end Lines

/-! ## Lines -/

section Copy

variable {p : Platform} {k : Mm} {r : BceRequest}

theorem isBuf_other' (p : Platform) (b : Nat) : p.IsBuf (p.other b) := by
  unfold Platform.IsBuf Platform.other
  split <;> simp

/-- A line below the readings buffers. -/
theorem PingInv.lineBelow (h : PingInv p k) (hm : MmInv p k) (hr : k.request = some r)
    (hle : r.copied + 128 ≤ r.count) (hbelow : r.addr + r.count ≤ p.names + namesSize)
    (hearly : ¬k.Named → (k.copyLine p r).namesValidated = false)
    (hdata : (k.copyLine p r).namesValidated = true → NamesInMemory p (k.copyLine p r))
    (hflight : Flight p (k.copyLine p r) { r with copied := r.copied + 128 }) : PingInv p (k.copyLine p r) := by
  have hapart := blocks_apart p
  have hval : (k.copyLine p r).validated = k.validated := by
    unfold Mm.copyLine
    exact if_neg (by unfold readingsSize at hapart; omega)
  refine ⟨fun hn => ⟨hearly hn, fun b => ?_⟩, hdata, fun b hb c hc => ?_, fun hex => ?_, fun hw => ?_, h.filled, ?_⟩
  · rw [hval]
    exact (h.early hn).2 b
  · rw [hval] at hc
    have hb' := (isBuf_bounds hb).1
    exact (h.valid b hb c hc).mono hm.fits fun x hx _ => copyLine_mem (by omega)
  · rw [hval] at hex ⊢
    rcases h.one hex with ho | ⟨r', hr', ha, -⟩
    · exact .inl ho
    · rw [hr] at hr'
      cases hr'
      have hge := (isBuf_bounds (isBuf_other' p (k.copyLine p r).readingsBufAddr)).1
      rw [show k.readingsBufAddr = (k.copyLine p r).readingsBufAddr from rfl] at ha
      omega
  · rw [settled_copyLine hr hle]
    exact h.writing hw
  · rintro x ⟨rfl⟩
    exact hflight

/-- A line of the data header. -/
theorem PingInv.lineHeader (h : PingInv p k) (hm : MmInv p k) (hr : k.request = some r)
    (hle : r.copied + 128 ≤ r.count) (addr : r.addr = p.dataBlock) (size : r.count ≤ headerBlockSize)
    (mark : k.bceBuffer 0 = 1 → k.Named) : PingInv p (k.copyLine p r) := by
  have hapart := blocks_apart p
  refine h.lineBelow hm hr hle (by omega) (fun hn => ?_) (fun hd => ?_) (.header addr size mark)
  · unfold Mm.copyLine
    simp only
    split
    · have hc0 : r.copied = 0 := by omega
      rw [hc0]
      exact decide_eq_false fun h1 => hn (mark h1)
    · exact (h.early hn).1
  · unfold Mm.copyLine at hd
    simp only at hd
    by_cases h0 : r.addr + r.copied = p.dataBlock
    · -- the header's line is written as valid
      have hc0 : r.copied = 0 := by omega
      rw [if_pos h0, hc0, decide_eq_true_eq] at hd
      obtain ⟨hn₁, hn₂⟩ := mark hd
      refine ⟨by rw [copyLine_line h0, hc0, hd], fun it hit => ?_⟩
      have hall : it ∈ namesItems p (k.sensors.take k.namesIndex) p.names readingsHeaderSize := by
        rw [hm.namesAll hn₁ hn₂, List.take_length]
        exact hit
      refine (hm.names it hall).mono fun x hx hx' => ?_
      have hb := (hm.names_bounds hall).1
      rw [copyLine_mem (by omega)]
      unfold Mm.settled
      rw [hr]
      exact (transfer_above (by omega)).symm
    · rw [if_neg h0] at hd
      exact (h.data hd).mono hm.fits rfl (copyLine_mem (by omega)) fun x hx _ => copyLine_mem (by omega)

theorem PingInv.lineNames (h : PingInv p k) (hm : MmInv p k) (hr : k.request = some r)
    (hle : r.copied + 128 ≤ r.count) (lo : p.names ≤ r.addr) (hi : r.addr + r.count ≤ p.names + namesSize)
    (unmarked : k.namesValidated = false) : PingInv p (k.copyLine p r) := by
  have hapart := blocks_apart p
  have hun : (k.copyLine p r).namesValidated = false := by
    unfold Mm.copyLine
    simp only
    rw [if_neg (by unfold headerBlockSize at hapart; omega)]
    exact unmarked
  refine h.lineBelow hm hr hle hi (fun _ => hun) (fun hd => ?_) (.names lo hi hun)
  rw [hun] at hd
  cases hd

/-- A line of a readings buffer `b`. -/
theorem PingInv.lineBuf (h : PingInv p k) (hm : MmInv p k) (hr : k.request = some r) {b : Nat}
    (hle : r.copied + 128 ≤ r.count) (hb : p.IsBuf b) (lo : b ≤ r.addr)
    (hi : r.addr + r.count ≤ b + readingsSize) (named : k.Named)
    (hvalid : ∀ c, (k.copyLine p r).validated b = some c → InMemory k.sensors (k.copyLine p r).mem b c)
    (hone : (k.copyLine p r).validated (p.other k.readingsBufAddr) ≠ none ∨
      b = k.readingsBufAddr ∧ ((k.copyLine p r).validated b ≠ none → k.validated b ≠ none))
    (hflight : Flight p (k.copyLine p r) { r with copied := r.copied + 128 }) : PingInv p (k.copyLine p r) := by
  have hapart := blocks_apart p
  obtain ⟨hge, -, hdisj⟩ := isBuf_bounds hb
  have hun : (k.copyLine p r).namesValidated = k.namesValidated := by
    unfold Mm.copyLine
    exact if_neg (by unfold headerBlockSize at hapart; omega)
  have hval : ∀ b', p.IsBuf b' → b' ≠ b → (k.copyLine p r).validated b' = k.validated b' := by
    intro b' hb' hne
    unfold Mm.copyLine
    simp only
    split
    · refine Function.update_of_ne (fun he => ?_) _ _
      rcases hdisj b' hb' (Ne.symm hne) with hd | hd <;> omega
    · rfl
  refine ⟨fun hn => absurd named hn, fun hd => ?_, fun b' hb' c hc => ?_, fun hex => ?_, fun hw => ?_, h.filled, ?_⟩
  · rw [hun] at hd
    have hnames : p.dataBlock < p.names := by
      unfold headerBlockSize at hapart
      omega
    exact (h.data hd).mono hm.fits rfl (copyLine_mem (by omega)) fun x _ hx => copyLine_mem (by omega)
  · by_cases he : b' = b
    · subst he
      exact hvalid c hc
    · rw [hval b' hb' he] at hc
      refine (h.valid b' hb' c hc).mono hm.fits fun x hx hx' => copyLine_mem ?_
      rcases hdisj b' hb' (Ne.symm he) with hd | hd <;> omega
  · rcases hone with ho | ⟨rfl, ho⟩
    · exact .inl ho
    · -- the buffer being written loses its header at most
      obtain ⟨hob, hne, -, hall⟩ := isBuf_other hb
      have hex' : ∃ b, p.IsBuf b ∧ k.validated b ≠ none := by
        obtain ⟨b', hb', hv⟩ := hex
        refine ⟨b', hb', ?_⟩
        rcases hall b' hb' with rfl | rfl
        · exact ho hv
        · rwa [hval _ hob hne] at hv
      rcases h.one hex' with hv | ⟨r', hr', ha, -⟩
      · left
        rwa [show (k.copyLine p r).readingsBufAddr = k.readingsBufAddr from rfl, hval _ hob hne]
      · rw [hr] at hr'
        cases hr'
        rcases hdisj _ hob (Ne.symm hne) with hd | hd <;> omega
  · rw [settled_copyLine hr hle]
    exact h.writing hw
  · rintro x ⟨rfl⟩
    exact hflight

theorem copyLine_validated (hbuf : p.IsBuf (r.addr + r.copied)) :
    (k.copyLine p r).validated (r.addr + r.copied) =
      if k.bceBuffer r.copied = 1 then some (k.cycle (r.addr + r.copied)) else none := by
  unfold Mm.copyLine
  simp only
  rw [if_pos (show _ ∨ _ from hbuf), Function.update_self]

theorem copyLine_validated' (hbuf : ¬p.IsBuf (r.addr + r.copied)) : (k.copyLine p r).validated = k.validated := by
  unfold Mm.copyLine
  exact if_neg hbuf

theorem isBuf_inside {b x : Nat} (hb : p.IsBuf b) (hlo : b < x) (hhi : x < b + readingsSize) : ¬p.IsBuf x := by
  intro hx
  rcases (isBuf_bounds hb).2.2 x hx (by omega) with hd | hd <;> omega

theorem PingInv.copyLine (h : PingInv p k) (hm : MmInv p k) (hr : k.request = some r) (hlt : r.copied < r.count) :
    PingInv p (k.copyLine p r) := by
  obtain ⟨hcopy, -, hline⟩ := hm.request r hr
  obtain ⟨-, hn, -⟩ := hm.copies _ hcopy
  simp only at hn
  have hle : r.copied + 128 ≤ r.count := by omega
  have hfl := h.flight r hr
  cases hfl with
  | header addr size mark => exact h.lineHeader hm hr hle addr size mark
  | names lo hi unmarked => exact h.lineNames hm hr hle lo hi unmarked
  | first named buf addr hi clear mem =>
    have hmem : (k.copyLine p r).mem k.readingsBufAddr = 0 := by
      by_cases h0 : r.copied = 0
      · rw [copyLine_line (by omega), h0, clear]
      · rw [copyLine_mem (by omega), mem h0]
    have hnone : (k.copyLine p r).validated k.readingsBufAddr = none := by
      by_cases h0 : r.copied = 0
      · have ha : r.addr + r.copied = k.readingsBufAddr := by omega
        rw [← ha, copyLine_validated (by rw [ha]; exact buf), h0, clear]
        rfl
      · rw [copyLine_validated' (isBuf_inside buf (by omega) (by omega))]
        by_contra hne
        obtain ⟨c, hc⟩ := Option.ne_none_iff_exists'.1 hne
        have := (h.valid _ buf c hc).header
        rw [mem h0] at this
        cases this
    refine h.lineBuf hm hr hle buf (Nat.le_of_eq addr.symm) hi named (fun c hc => ?_) (.inr ⟨rfl, fun hv => absurd hnone hv⟩)
      (.first named buf addr hi clear fun _ => hmem)
    rw [hnone] at hc
    cases hc
  | rest named buf lo hi mem =>
    have hval : (k.copyLine p r).validated = k.validated :=
      copyLine_validated' (isBuf_inside buf (by omega) (by omega))
    refine h.lineBuf hm hr hle buf (by omega) hi named (fun c hc => ?_) (.inr ⟨rfl, fun hv => by rwa [hval] at hv⟩)
      (.rest named buf lo hi ?_)
    · rw [hval] at hc
      have := (h.valid _ buf c hc).header
      rw [mem] at this
      cases this
    · have hkeep : (k.copyLine p r).mem k.readingsBufAddr = k.mem k.readingsBufAddr := copyLine_mem (by omega)
      exact hkeep.trans mem
  | validate named buf addr size mark mem complete =>
    have hob := isBuf_other' p k.readingsBufAddr
    rw [← addr] at hob
    have h0 : r.copied = 0 := by omega
    have hval : (k.copyLine p r).validated r.addr = some (k.cycle r.addr) := by
      have := @copyLine_validated p k r (by rw [h0]; exact hob)
      rwa [h0, mark] at this
    have hmem : (k.copyLine p r).mem = k.settled := by
      unfold Mm.settled Mm.copyLine
      rw [hr, h0]
      show _ = transfer _ _ _ _ _
      rw [h0, size]
    refine h.lineBuf hm hr hle hob (Nat.le_refl _) (by rw [size]; exact Nat.add_le_add_left (by decide) _) named
      (fun c hc => ?_) (.inl ?_) (.validate named buf addr size mark (by simp) complete)
    · rw [hval] at hc
      cases hc
      refine ⟨by rw [copyLine_line (by rw [h0]; rfl), h0, mark], complete, hm.taken _, ?_⟩
      rw [hmem]
      exact hm.readings _ hob
    · rw [← addr, hval]
      simp

/-- While a header is valid before and after a line, no byte of its buffer changes. -/
theorem PingInv.line_unchanged (h : PingInv p k) (hm : MmInv p k) (hr : k.request = some r) (hlt : r.copied < r.count)
    {b x : Nat} (hb : p.IsBuf b) (h₁ : k.mem b = 1) (h₂ : (k.copyLine p r).mem b = 1) (hlo : b ≤ x)
    (hhi : x < b + readingsSize) : (k.copyLine p r).mem x = k.mem x := by
  obtain ⟨hcopy, -, hline⟩ := hm.request r hr
  obtain ⟨-, hn, -⟩ := hm.copies _ hcopy
  simp only at hn
  have hle : r.copied + 128 ≤ r.count := by omega
  have hapart := blocks_apart p
  obtain ⟨hge, -, hdisj⟩ := isBuf_bounds hb
  -- the buffer that is written is another one, or its header is not valid
  have hother : ∀ b', p.IsBuf b' → b' ≤ r.addr → r.addr + r.count ≤ b' + readingsSize → b' ≠ b →
      (k.copyLine p r).mem x = k.mem x := by
    intro b' hb' hlo' hhi' hne
    rcases hdisj b' hb' (Ne.symm hne) with hd | hd <;> exact copyLine_mem (by omega)
  have hfl := h.flight r hr
  cases hfl with
  | header addr size mark => exact copyLine_mem (by omega)
  | names lo hi unmarked => exact copyLine_mem (by omega)
  | first named buf addr hi clear mem =>
    refine hother _ buf (Nat.le_of_eq addr.symm) hi fun he => ?_
    subst he
    by_cases h0 : r.copied = 0
    · rw [copyLine_line (by omega), h0, clear] at h₂
      cases h₂
    · rw [mem h0] at h₁
      cases h₁
  | rest named buf lo hi mem =>
    refine hother _ buf (by omega) hi fun he => ?_
    subst he
    rw [mem] at h₁
    cases h₁
  | validate named buf addr size mark mem complete =>
    have hob := isBuf_other' p k.readingsBufAddr
    rw [← addr] at hob
    refine hother _ hob (Nat.le_refl _) (by rw [size]; exact Nat.add_le_add_left (by decide) _) fun he => ?_
    subst he
    rw [mem (by omega)] at h₁
    cases h₁

end Copy

/-! ## Ticks -/

section Ticks

variable {p : Platform} {k : Mm} {ok : Bool}

theorem settled_idle (hr : k.request = none) : k.settled = k.mem := by
  unfold Mm.settled
  rw [hr]
  rfl

theorem PingInv.stalled (h : PingInv p k) (hr : k.request = none) {buf save : Memory} {copies : List (Nat × Nat)} :
    PingInv p { k with bceBuffer := buf, saveBuffer := save, copies := copies } :=
  { h with
    data := fun hd => ⟨(h.data hd).header, (h.data hd).holds⟩
    writing := fun hw => by
      have := h.writing hw
      rw [settled_idle hr] at this
      rwa [settled_idle (by exact hr)]
    flight := fun r hr' => by
      rw [show k.request = some r from hr'] at hr
      cases hr }

theorem PingInv.polled (h : PingInv p k) : PingInv p { k with scheduled := false } :=
  { h with
    data := fun hd => ⟨(h.data hd).header, (h.data hd).holds⟩
    flight := fun r hr => by
      cases h.flight r hr with
      | header addr size mark => exact .header addr size mark
      | names lo hi unmarked => exact .names lo hi unmarked
      | first named buf addr hi clear mem => exact .first named buf addr hi clear mem
      | rest named buf lo hi mem => exact .rest named buf lo hi mem
      | validate named buf addr size mark mem complete => exact .validate named buf addr size mark mem complete }

theorem PingInv.writeDataHeader (h : PingInv p k) (hm : MmAt p k k.mem) (hr : k.request = none)
    (hst : k.state = .writeDataHeader) : PingInv p (k.writeDataHeader p ok) := by
  have hb := hm.between (by simp [hst])
  obtain ⟨hd, hv⟩ := h.early fun hn => hn.1 hst
  refine bceCopy_split (PingInv p) (fun k => { k with state := .writeSensorNames }) hr (h.stalled hr) fun r sch hsch => ?_
  refine ⟨fun _ => ⟨hd, hv⟩, fun hd' => by simp [hd] at hd', fun b _ c hc => by simp [hv] at hc,
    fun ⟨b, _, hb'⟩ => absurd (hv b) hb', by simp [hb], by simp, fun x hx => ?_⟩
  have hx' := hsch.request x hx
  subst hx'
  refine .header rfl (show align128Up headerBlockSize ≤ headerBlockSize by decide) fun h1 => ?_
  have h0 : Staged.write zeros 0 (initDataHeader k.sensors) 0 = 0 := holds_write (a := 0) 0 0 rfl
  rw [show Staged.write zeros 0 (initDataHeader k.sensors) 0 = 1 from h1] at h0
  cases h0

theorem PingInv.writeSensorNames (h : PingInv p k) (hm : MmAt p k k.mem) (hr : k.request = none)
    (hst : k.state = .writeSensorNames) : PingInv p (k.writeSensorNames p ok) := by
  have hb := hm.between (by simp [hst])
  obtain ⟨hd, hv⟩ := h.early fun hn => hn.2 hst
  have hdone := hm.namesDone hst rfl rfl
  unfold Mm.writeSensorNames
  simp only
  generalize Mm.namesLoop p _ _ = c at hdone ⊢
  generalize align128Down (p.names + k.entryOffset) = w at hdone ⊢
  refine bceCopy_split (PingInv p) (fun k => k.namesCopied c w (align128Up c.bufOffset)) hr (h.stalled hr) fun r sch hsch => ?_
  have hat : ∀ st, st = .writeSensorNames ∨ st = .validateDataHeader → ∀ k' : Mm, k'.state = st →
      k'.namesValidated = false → k'.validated = k.validated → k'.readingsIndex = 0 → k'.request = r → PingInv p k' := by
    intro st hst k' hst' hd' hv' hb' hr'
    refine ⟨fun _ => ⟨hd', by rw [hv']; exact hv⟩, fun h => by simp [hd'] at h, fun b _ c hc => by simp [hv', hv] at hc,
      fun ⟨b, _, hb'⟩ => absurd (hv b) (by rwa [hv'] at hb'), ?_, ?_, fun x hx => ?_⟩
    · rcases hst with rfl | rfl <;> simp [hst', hb']
    · rcases hst with rfl | rfl <;> simp [hst']
    · have hx' := hsch.request x (hr' ▸ hx)
      subst hx'
      exact .names hdone.block.1 hdone.block.2 hd'
  unfold Mm.namesCopied
  simp only [saveLastWrite_eq]
  by_cases hall : k.sensors.length ≤ c.index
  · simp only [hall, if_true]
    exact hat .validateDataHeader (.inr rfl) _ rfl hd rfl hb rfl
  · simp only [hall, if_false]
    exact hat .writeSensorNames (.inl rfl) _ hst hd rfl hb rfl

theorem PingInv.validateDataHeader (h : PingInv p k) (hm : MmAt p k k.mem) (hr : k.request = none)
    (hst : k.state = .validateDataHeader) : PingInv p (k.validateDataHeader p ok) := by
  have hb := hm.between (by simp [hst])
  refine bceCopy_split (PingInv p) (fun k => { k with initialized := true, state := .writeSensorReadings }) hr (h.stalled hr)
    fun r sch hsch => ?_
  refine ⟨fun hn => absurd ⟨by simp, by simp⟩ hn, fun hd => ⟨(h.data hd).header, (h.data hd).holds⟩, h.valid, fun hex => ?_,
    by simp [hb], by simp, fun x hx => ?_⟩
  · rcases h.one hex with ho | ⟨r', hr', -⟩
    · exact .inl ho
    · rw [hr] at hr'
      cases hr'
  · have hx' := hsch.request x hx
    subst hx'
    exact .header rfl (show minWriteSize ≤ headerBlockSize by decide) fun _ => ⟨by simp, by simp⟩

theorem PingInv.writeSensorReadings (h : PingInv p k) (hm : MmAt p k k.mem) (hr : k.request = none)
    (hst : k.state = .writeSensorReadings) (list : BitVec 16 → SensorT) :
    PingInv p (k.writeSensorReadings list ok) := by
  have hbase : p.IsBuf k.readingsBufAddr := hm.base (hm.internals (by simp [hst]))
  have hd := hm.readingsDone hst list
  unfold Mm.writeSensorReadings
  simp only
  split
  · exact h
  generalize Mm.readingsLoop k.readingsBufAddr list _ _ = c at hd ⊢
  refine bceCopy_split (PingInv p) (fun k => k.readingsCopied c (align128Up c.byteCount)) hr (h.stalled hr)
    fun r sch hsch => ?_
  have hclear : transfer k.mem c.buffer c.writeAddr 0 (align128Up c.byteCount) k.readingsBufAddr = 0 := by
    by_cases h0 : k.readingsIndex = 0
    · obtain ⟨hn, hw, hz⟩ := hd.first h0
      rw [hw, transfer_of_mem (by omega) (by omega), Nat.sub_self, hz]
    · have hlo := hd.loop.lo
      rw [if_neg h0] at hlo
      rw [transfer_below (by omega), ← settled_idle hr]
      exact h.writing (.inl h0)
  have hat : ∀ k' : Mm, (k'.state = .writeSensorReadings ∨ k'.state = .validateSensorReadings ∧
      (k'.cycle k.readingsBufAddr).complete = true) → k'.sensors = k.sensors → k'.mem = k.mem → k'.bceBuffer = c.buffer →
      k'.readingsBufAddr = k.readingsBufAddr → k'.validated = k.validated → k'.namesValidated = k.namesValidated →
      k'.request = r → PingInv p k' := by
    intro k' hst' hs hmem hbuf hbase' hv hn hr'
    have hnamed : k'.Named := by
      unfold Mm.Named
      rcases hst' with hst' | ⟨hst', -⟩ <;> simp [hst']
    refine ⟨fun hn => absurd hnamed hn, fun hd => ?_, fun b hb c hc => ?_, fun hex => ?_, fun _ => ?_, fun hf => ?_,
      fun x hx => ?_⟩
    · rw [hn] at hd
      exact ⟨by rw [hmem]; exact (h.data hd).header, by rw [hmem, hs]; exact (h.data hd).holds⟩
    · rw [hv] at hc
      rw [hmem, hs]
      exact h.valid b hb c hc
    · rw [hv] at hex ⊢
      rw [hbase']
      rcases h.one hex with ho | ⟨r', hr', -⟩
      · exact .inl ho
      · rw [hr] at hr'
        cases hr'
    · unfold Mm.settled
      rw [hr', hmem, hbuf, hsch.settle, hbase']
      exact hclear
    · rcases hst' with hst' | ⟨-, hc⟩
      · simp [hst'] at hf
      · rw [hbase']
        exact hc
    · have hx' := hsch.request x (hr' ▸ hx)
      subst hx'
      by_cases h0 : k.readingsIndex = 0
      · obtain ⟨-, hw, hz⟩ := hd.first h0
        exact .first hnamed (by rw [hbase']; exact hbase) (by rw [hbase']; exact hw) (by rw [hbase']; exact hd.block.2)
          (by rw [hbuf]; exact hz) (fun h0 => absurd rfl h0)
      · have hlo := hd.loop.lo
        rw [if_neg h0] at hlo
        refine .rest hnamed (by rw [hbase']; exact hbase) (by rw [hbase']; exact hlo) (by rw [hbase']; exact hd.block.2) ?_
        rw [hmem, hbase', ← settled_idle hr]
        exact h.writing (.inl h0)
  unfold Mm.readingsCopied
  simp only [saveLastWrite_eq]
  by_cases hall : k.sensors.length ≤ c.index
  · simp only [hall, decide_true, if_true]
    exact hat _ (.inr ⟨rfl, by simp⟩) rfl rfl rfl rfl rfl rfl rfl
  · simp only [hall, decide_false, if_false, Bool.false_eq_true]
    exact hat _ (.inl hst) rfl rfl rfl rfl rfl rfl rfl

theorem PingInv.validateSensorReadings (h : PingInv p k) (hm : MmAt p k k.mem) (hr : k.request = none)
    (hst : k.state = .validateSensorReadings) : PingInv p (k.validateSensorReadings p ok) := by
  have hb := hm.between (by simp [hst])
  have hbase : p.IsBuf k.readingsBufAddr := hm.base (hm.internals (by simp [hst]))
  obtain ⟨hother, -, hback, -⟩ := isBuf_other hbase
  refine bceCopy_split (PingInv p) (fun k' => { k' with
    readingsBufAddr := p.other k.readingsBufAddr, state := .writeSensorReadings }) hr (h.stalled hr) fun r sch hsch => ?_
  have hsome : ∃ x, r = some x := by
    cases r with
    | none => exact absurd (hsch.empty rfl) (by decide)
    | some x => exact ⟨x, rfl⟩
  obtain ⟨x, rfl⟩ := hsome
  have hx := hsch.request x rfl
  subst hx
  refine ⟨fun hn => absurd ⟨by simp, by simp⟩ hn, fun hd => ⟨(h.data hd).header, (h.data hd).holds⟩, h.valid,
    fun _ => .inr ⟨_, rfl, hback.symm, rfl⟩, by simp [hb], by simp, ?_⟩
  rintro x ⟨rfl⟩
  refine .validate ⟨by simp, by simp⟩ hother hback.symm rfl ?_ (fun _ => ?_) (h.filled hst)
  · exact @holds_write (transfer zeros k.saveBuffer 0 0 minWriteSize) 0 [1] 0 1 rfl
  · have := h.writing (.inr hst)
    rwa [settled_idle hr] at this

theorem PingInv.initInternals (h : PingInv p k) (hm : MmInv p k) (hint : k.internals = false) (smf : Bool)
    (role : OccRole) : PingInv p { k.initInternals p smf role with internals := true } := by
  have hst : k.state = .writeDataHeader := by
    by_contra hne
    have := hm.internals hne
    simp [hint] at this
  have hnot : ¬k.Named := fun hn => hn.1 hst
  obtain ⟨hd, hv⟩ := h.early hnot
  have hb := hm.between (by simp [hst])
  refine ⟨fun _ => ⟨hd, hv⟩, fun hd' => ?_, fun b _ c hc => ?_, fun ⟨b, _, hb'⟩ => absurd (hv b) hb', fun hw => ?_, fun hf => ?_,
    fun r hr => ?_⟩
  · rw [show k.namesValidated = true from hd'] at hd
    cases hd
  · have hnone : k.validated b = none := hv b
    rw [show k.validated b = some c from hc] at hnone
    cases hnone
  · rcases hw with hw | hw
    · exact absurd hb hw
    · rw [show k.state = _ from hw] at hst
      cases hst
  · rw [show k.state = _ from hf] at hst
    cases hst
  · cases h.flight r hr with
    | header addr size mark => exact .header addr size mark
    | names lo hi unmarked => exact .names lo hi unmarked
    | first named => exact absurd named hnot
    | rest named => exact absurd named hnot
    | validate named => exact absurd named hnot

theorem PingInv.init (h : PingInv p k) (hm : MmInv p k) (smf : Bool) (role : OccRole) : PingInv p (k.init p smf role ok) := by
  have h₁ : ∀ k₁, k₁ = (if k.internals then k else { k.initInternals p smf role with internals := true }) →
      PingInv p k₁ ∧ MmInv p k₁ := by
    rintro k₁ rfl
    split
    · exact ⟨h, hm⟩
    · rename_i hint
      rw [Bool.not_eq_true] at hint
      exact ⟨h.initInternals hm hint smf role, MmAt.initInternals hm hint smf role⟩
  unfold Mm.init
  simp only
  generalize (if k.internals then k else { k.initInternals p smf role with internals := true }) = k₁ at h₁ ⊢
  obtain ⟨h₁, hm₁⟩ := h₁ k₁ rfl
  split
  · exact h₁
  rcases isBceReqIdle_cases hm₁.idle with he | ⟨hr, he⟩
  · rw [he]
    exact h₁
  rw [he]
  have hat := hm₁.polled hr
  simp only [Bool.not_true, Bool.false_eq_true, if_false]
  split
  · rename_i hst
    exact h₁.polled.writeDataHeader hat hr hst
  · rename_i hst
    exact h₁.polled.writeSensorNames hat hr hst
  · rename_i hst
    exact h₁.polled.validateDataHeader hat hr hst
  · exact h₁.polled

theorem PingInv.update (h : PingInv p k) (hm : MmInv p k) (list : BitVec 16 → SensorT) :
    PingInv p (k.update p list ok) := by
  unfold Mm.update
  split
  · exact h
  rcases isBceReqIdle_cases hm.idle with he | ⟨hr, he⟩
  · simp only [he]
    exact h
  have hat := hm.polled hr
  simp only [he, Bool.not_true, Bool.false_eq_true, if_false]
  split
  · rename_i hst
    exact h.polled.writeSensorReadings hat hr hst list
  · rename_i hst
    exact h.polled.validateSensorReadings hat hr hst
  · exact h.polled

theorem PingInv.setEnabled (h : PingInv p k) (type : BitVec 16) (enabled : Bool) :
    PingInv p (k.setEnabled p type enabled) := by
  have hf := static_setEnabled p type enabled
  exact { h with
    data := fun hd => ⟨(h.data hd).header, fun it hit => by
      rw [show (k.setEnabled p type enabled).sensors = k.sensors.map _ from rfl, namesItems_map hf] at hit
      exact (h.data hd).holds it hit⟩
    valid := fun b hb c hc => by
      obtain ⟨h₁, h₂, h₃, h₄⟩ := h.valid b hb c hc
      exact ⟨h₁, h₂, h₃.map hf, fun it hit => h₄ it (by
        rwa [show (k.setEnabled p type enabled).sensors = k.sensors.map _ from rfl, readingsItems_map hf] at hit)⟩
    flight := fun r hr => by
      cases h.flight r hr with
      | header addr size mark => exact .header addr size mark
      | names lo hi unmarked => exact .names lo hi unmarked
      | first named buf addr hi clear mem => exact .first named buf addr hi clear mem
      | rest named buf lo hi mem => exact .rest named buf lo hi mem
      | validate named buf addr size mark mem complete => exact .validate named buf addr size mark mem complete }

theorem PingInv.done (h : PingInv p k) {r : BceRequest} (hr : k.request = some r) (he : r.copied = r.count) :
    PingInv p { k with request := none } := by
  have hset : k.settled = k.mem := by
    unfold Mm.settled
    rw [hr]
    show transfer k.mem k.bceBuffer r.addr r.copied r.count = k.mem
    rw [he, transfer_empty]
  exact { h with
    data := fun hd => ⟨(h.data hd).header, (h.data hd).holds⟩
    one := fun hex => by
      rcases h.one hex with ho | ⟨x, hx, ha, h0⟩
      · exact .inl ho
      · -- a copy that marks a buffer has a line
        rw [hr] at hx
        cases hx
        have hother := isBuf_bounds (isBuf_other' p k.readingsBufAddr)
        have hapart := blocks_apart p
        cases h.flight r hr with
        | header addr => omega
        | names lo hi => omega
        | first named buf addr => exact absurd (addr.symm.trans ha) (isBuf_other buf).2.1.symm
        | rest named buf lo hi =>
          have := (isBuf_other buf).2.1
          rcases (isBuf_bounds buf).2.2 _ (isBuf_other' p _) this.symm with hd | hd <;> omega
        | validate named buf addr size => omega
    writing := fun hw => by
      have := h.writing hw
      rwa [hset] at this
    flight := by simp }

end Ticks

/-! ## Runs -/

theorem pingInv_start {p : Platform} {sensors : List MmSensor} {mem : Memory} : PingInv p (.start sensors mem) := by
  refine ⟨?_, ?_, ?_, ?_, ?_, ?_, ?_⟩ <;> simp [Mm.start]

theorem pingInv_next {p : Platform} {k k' : Mm} {e : MmEvent} (h : PingInv p k) (hm : MmInv p k) (he : NoFail k e)
    (hk : k.next p e = some k') : PingInv p k' := by
  unfold Mm.next at hk
  cases e with
  | init smf role ok =>
    cases hk
    exact h.init hm smf role
  | update list ok =>
    cases hk
    exact h.update hm list
  | setEnabled type enabled =>
    cases hk
    exact h.setEnabled type enabled
  | line =>
    simp only at hk
    split at hk
    · rename_i r hr
      split at hk <;> cases hk
      rename_i hlt
      exact h.copyLine hm hr hlt
    · cases hk
  | done =>
    simp only at hk
    split at hk
    · rename_i r hr
      split at hk <;> cases hk
      rename_i hcount
      exact h.done hr hcount
    · cases hk
  | fail => exact absurd rfl he

/-! ### What the code leaves alone -/

/-- The code itself writes no main memory. -/
def Quiet (k k' : Mm) : Prop := k'.mem = k.mem ∧ k'.validated = k.validated

section Quiet

variable {p : Platform} {k : Mm} {ok : Bool}

theorem quiet_bceCopy (addr count : Nat) : Quiet k (k.bceCopy addr count ok).1 := by
  unfold Mm.bceCopy
  simp only
  split
  · exact ⟨rfl, rfl⟩
  split
  · exact ⟨rfl, rfl⟩
  split
  · exact ⟨rfl, rfl⟩
  split <;> exact ⟨rfl, rfl⟩

theorem quiet_isBceReqIdle : Quiet k k.isBceReqIdle.1 := by
  unfold Mm.isBceReqIdle
  split
  · exact ⟨rfl, rfl⟩
  split <;> exact ⟨rfl, rfl⟩

theorem quiet_copy {k₀ : Mm} {f : Mm → Mm} {addr count : Nat} (h : Quiet k₀ k) (hf : ∀ k, Quiet k (f k)) :
    Quiet k₀ (if (k.bceCopy addr count ok).2 then f (k.bceCopy addr count ok).1 else (k.bceCopy addr count ok).1) := by
  obtain ⟨h₁, h₂⟩ := @quiet_bceCopy k ok addr count
  split
  · obtain ⟨h₃, h₄⟩ := hf (k.bceCopy addr count ok).1
    exact ⟨h₃.trans (h₁.trans h.1), h₄.trans (h₂.trans h.2)⟩
  · exact ⟨h₁.trans h.1, h₂.trans h.2⟩

theorem quiet_writeSensorReadings (list : BitVec 16 → SensorT) : Quiet k (k.writeSensorReadings list ok) := by
  unfold Mm.writeSensorReadings
  simp only
  split
  · exact ⟨rfl, rfl⟩
  · refine quiet_copy (f := fun k => k.readingsCopied _ _) ⟨rfl, rfl⟩ fun k => ?_
    unfold Mm.readingsCopied
    simp only [saveLastWrite_eq]
    split <;> exact ⟨rfl, rfl⟩

theorem quiet_writeSensorNames : Quiet k (k.writeSensorNames p ok) := by
  refine quiet_copy (f := fun k => k.namesCopied _ _ _) ⟨rfl, rfl⟩ fun k => ?_
  unfold Mm.namesCopied
  simp only [saveLastWrite_eq]
  split <;> exact ⟨rfl, rfl⟩

theorem Quiet.trans {k₁ k₂ : Mm} (h : Quiet k k₁) (h' : Quiet k₁ k₂) : Quiet k k₂ :=
  ⟨h'.1.trans h.1, h'.2.trans h.2⟩

theorem quiet_init (smf : Bool) (role : OccRole) : Quiet k (k.init p smf role ok) := by
  have h₁ : Quiet k (if k.internals then k else { k.initInternals p smf role with internals := true }) := by
    split <;> exact ⟨rfl, rfl⟩
  refine h₁.trans ?_
  unfold Mm.init
  simp only
  generalize (if k.internals then k else { k.initInternals p smf role with internals := true }) = k₁
  split
  · exact ⟨rfl, rfl⟩
  refine Quiet.trans (quiet_isBceReqIdle (k := k₁)) ?_
  split
  · exact ⟨rfl, rfl⟩
  split
  · exact quiet_copy (f := fun k => { k with state := .writeSensorNames }) ⟨rfl, rfl⟩ fun _ => ⟨rfl, rfl⟩
  · exact quiet_writeSensorNames
  · exact quiet_copy (f := fun k => { k with initialized := true, state := .writeSensorReadings }) ⟨rfl, rfl⟩
      fun _ => ⟨rfl, rfl⟩
  · exact ⟨rfl, rfl⟩

theorem quiet_update (list : BitVec 16 → SensorT) : Quiet k (k.update p list ok) := by
  unfold Mm.update
  split
  · exact ⟨rfl, rfl⟩
  refine Quiet.trans (quiet_isBceReqIdle (k := k)) ?_
  simp only
  split
  · exact ⟨rfl, rfl⟩
  split
  · exact quiet_writeSensorReadings list
  · exact quiet_copy (f := fun k' => { k' with readingsBufAddr := _, state := .writeSensorReadings }) ⟨rfl, rfl⟩
      fun _ => ⟨rfl, rfl⟩
  · exact ⟨rfl, rfl⟩

end Quiet

/-- A step is a line of the outstanding copy, or leaves the memory and its marks. -/
theorem next_cases {p : Platform} {k k' : Mm} {e : MmEvent} (hk : k.next p e = some k') :
    (∃ r, k.request = some r ∧ r.copied < r.count ∧ k' = k.copyLine p r) ∨ Quiet k k' := by
  unfold Mm.next at hk
  cases e with
  | init smf role ok =>
    cases hk
    exact .inr (quiet_init smf role)
  | update list ok =>
    cases hk
    exact .inr (quiet_update list)
  | setEnabled type enabled =>
    cases hk
    exact .inr ⟨rfl, rfl⟩
  | line =>
    simp only at hk
    split at hk
    · rename_i r hr
      split at hk <;> cases hk
      rename_i hlt
      exact .inl ⟨r, hr, hlt, rfl⟩
    · cases hk
  | done =>
    simp only at hk
    split at hk
    · split at hk <;> cases hk
      exact .inr ⟨rfl, rfl⟩
    · cases hk
  | fail =>
    simp only at hk
    split at hk <;> cases hk
    exact .inr ⟨rfl, rfl⟩

/-- Some buffer's header was written as valid, and not written since. -/
def SomeValid (p : Platform) (k : Mm) : Prop := ∃ b, p.IsBuf b ∧ k.validated b ≠ none

/-- The buffer that is not being written keeps its mark. -/
theorem PingInv.line_someValid {p : Platform} {k : Mm} {r : BceRequest} (h : PingInv p k) (hm : MmInv p k)
    (hr : k.request = some r) (hlt : r.copied < r.count) (hv : SomeValid p k) : SomeValid p (k.copyLine p r) := by
  obtain ⟨hcopy, -, hline⟩ := hm.request r hr
  obtain ⟨-, hn, -⟩ := hm.copies _ hcopy
  simp only at hn
  have hapart := blocks_apart p
  have hob := isBuf_other' p k.readingsBufAddr
  obtain ⟨hge, -, hdisj⟩ := isBuf_bounds hob
  refine ⟨_, hob, ?_⟩
  by_cases ha : r.addr + r.copied = p.other k.readingsBufAddr
  · have hmark : k.bceBuffer r.copied = 1 := by
      cases h.flight r hr with
      | header addr size => omega
      | names lo hi => omega
      | first named buf addr hi =>
        have hne := (isBuf_other buf).2.1
        rcases hdisj _ buf hne with hd | hd <;> omega
      | rest named buf lo hi =>
        have hne := (isBuf_other buf).2.1
        rcases hdisj _ buf hne with hd | hd <;> omega
      | validate named buf addr size mark =>
        rw [show r.copied = 0 by omega]
        exact mark
    have := @copyLine_validated p k r (by rw [ha]; exact hob)
    rw [hmark, if_pos rfl, ha] at this
    rw [this]
    simp
  · have hkeep : (k.copyLine p r).validated (p.other k.readingsBufAddr) = k.validated (p.other k.readingsBufAddr) := by
      unfold Mm.copyLine
      simp only
      split
      · exact Function.update_of_ne (fun he => ha he.symm) _ _
      · rfl
    rw [hkeep]
    rcases h.one hv with ho | ⟨x, hx, hxa, h0⟩
    · exact ho
    · rw [hr] at hx
      cases hx
      exact absurd (by omega) ha

/-- The data header is marked only over all names, a readings buffer only over the complete readings of its
cycle, and both stay in the memory as long as the mark does. -/
structure PingPongOk (p : Platform) (k : Mm) : Prop where
  names : k.namesValidated = true → k.mem p.dataBlock = 1 ∧ ∀ i s, k.sensors[i]? = some s → s.valid →
    Holds k.mem (p.names + namesEntrySize * entryNumber k.sensors i) (initNamesEntry p s (readingOffset k.sensors i))
  readings : ∀ b, p.IsBuf b → ∀ c, k.validated b = some c → k.mem b = 1 ∧ c.complete = true ∧
    ∀ it ∈ c.taken, Holds k.mem (b + readingOffset k.sensors it.1) it.2

theorem PingInv.pingPongOk {p : Platform} {k : Mm} (h : PingInv p k) : PingPongOk p k where
  names := fun hd => by
    refine ⟨(h.data hd).header, fun i s hs hv => ?_⟩
    have hlt : i < k.sensors.length := (List.getElem?_eq_some_iff.1 hs).1
    have hmem := @mem_namesItems p _ _ _ k.sensors.length p.names hs hv hlt
    rw [List.take_length] at hmem
    exact (h.data hd).holds _ hmem
  readings := fun b hb c hc => by
    obtain ⟨h₁, h₂, -, h₄⟩ := h.valid b hb c hc
    exact ⟨h₁, h₂, fun it hit => h₄ _ (List.mem_map.2 ⟨it, hit, rfl⟩)⟩

/-- In every run whose copies do not end with an error: the marks are right, no byte of a buffer changes
while its header is valid, and from the first valid header on some buffer is valid. -/
theorem run_pingPongOk {p : Platform} {sensors : List MmSensor} {mem : Memory} {k : Mm} {es : List MmEvent}
    (hfit : TableFits sensors) (h : Run (Guarded NoFail (StepOf (Mm.next p))) (.start sensors mem) es k) :
    PingPongOk p k ∧
      (∀ e k', k.next p e = some k' → ∀ b, p.IsBuf b → k.mem b = 1 → k'.mem b = 1 →
        ∀ x, b ≤ x → x < b + readingsSize → k'.mem x = k.mem x) ∧
      ∀ es' k', Run (Guarded NoFail (StepOf (Mm.next p))) k es' k' → SomeValid p k → SomeValid p k' := by
  have hstep : ∀ s e t, MmInv p s ∧ PingInv p s → Guarded NoFail (StepOf (Mm.next p)) s e t → MmInv p t ∧ PingInv p t :=
    fun s e t hs he => ⟨mmInv_next hs.1 he.1 he.2, pingInv_next hs.2 hs.1 he.1 he.2⟩
  obtain ⟨hm, hp⟩ := h.invariant hstep ⟨mmInv_start hfit mem, pingInv_start⟩
  refine ⟨hp.pingPongOk, fun e k' hk b hb h₁ h₂ x hlo hhi => ?_, fun es' k' hrun hv => ?_⟩
  · rcases next_cases hk with ⟨r, hr, hlt, rfl⟩ | ⟨hmem, -⟩
    · exact hp.line_unchanged hm hr hlt hb h₁ h₂ hlo hhi
    · rw [hmem]
  · refine (hrun.invariant (P := fun s => (MmInv p s ∧ PingInv p s) ∧ SomeValid p s) (fun s e t hs he => ?_)
      ⟨⟨hm, hp⟩, hv⟩).2
    refine ⟨hstep s e t hs.1 he, ?_⟩
    rcases next_cases he.2 with ⟨r, hr, hlt, rfl⟩ | ⟨-, hval⟩
    · exact hs.1.2.line_someValid hs.1.1 hr hlt hs.2
    · obtain ⟨b, hb, hne⟩ := hs.2
      exact ⟨b, hb, by rwa [hval]⟩

def oneReading : SensorT := ⟨5, 40, 38, 41, 38, 41, 38, 41, 38, 41, 1200, 3⟩

/-- The names are written, and one cycle of readings. -/
def cycleRun : List MmEvent :=
  namesRun ++ [.init false .master true, .line, .done] ++
    [.update (fun _ => oneReading) true, .line, .done, .update (fun _ => oneReading) true, .line, .done]

theorem run_pingPongOk_cycle : ∃ k, exec (Mm.next oneChip) (.start [oneSensor] zeros) cycleRun = some k ∧
    PingPongOk oneChip k ∧ SomeValid oneChip k := by
  refine ⟨_, rfl, (@run_pingPongOk oneChip [oneSensor] zeros _ cycleRun ⟨by decide, by decide⟩ ?_).1,
    oneChip.ping, .inl rfl, by decide⟩
  refine (exec_eq_some_iff.1 rfl).guard fun e he _ => ?_
  simp only [cycleRun, namesRun, List.cons_append, List.mem_cons, List.mem_append, List.mem_replicate] at he
  unfold NoFail
  rintro rfl
  simp at he

/-- The copy of the names ends with an error, and the data header is marked all the same. -/
def failRun : List MmEvent :=
  .init false .master true :: List.replicate 8 .line ++
    [.done, .init false .master true, .fail, .init false .master true, .line, .done]

theorem not_pingPongOk_fail : ∃ k, exec (Mm.next oneChip) (.start [oneSensor] zeros) failRun = some k ∧
    ¬PingPongOk oneChip k :=
  ⟨_, rfl, fun h => absurd ((h.names (by decide)).2 0 oneSensor rfl rfl 0 65 rfl) (by decide)⟩

end Occ.Sensor
