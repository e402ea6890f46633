/-
What an access to the flash owes its caller whatever the BMC answers: it ends, it stays inside the open window, it
transfers each requested byte once, and it reports what failed. A read owes only its end to the BMC; a write also needs
windows that are cut at four bytes and that do not reach beyond the data, and loses the failure of an LPC write.
-/
import Occ.Firdata.PnorMbox

namespace Occ.Firdata

/-! ## The law -/

namespace Event

def fails : Event → Bool
  | .command _ _ _ fails => fails
  | .access _ _ _ _ fails => fails
  | .advance _ _ => false

/-- The bytes of the caller's data that are transferred. -/
def bytes : Event → List Nat
  | .access _ _ pos len _ => List.range' pos len
  | _ => []

@[simp] theorem bytes_access {m : PnorMbox} {lpcAddr : BitVec 32} {pos len : Nat} {fails : Bool} :
    (access m lpcAddr pos len fails).bytes = List.range' pos len := rfl

@[simp] theorem bytes_advance {size chunk : BitVec 32} : (advance size chunk).bytes = [] := rfl

/-- An access to data of `total` bytes from the flash address `addr` on lies in the open window and where its bytes
belong; a step does not go beyond the rest of the data. -/
def Sound (addr : BitVec 32) (total : Nat) : Event → Prop
  | .command _ _ _ _ => True
  | .access m lpcAddr pos len _ =>
    m.curWindowOpen = true ∧ (lpcAddr - m.curWindowLpcOffset).toNat + len ≤ m.curWindowSize.toNat ∧
      m.curWindowOffset + (lpcAddr - m.curWindowLpcOffset) = addr + BitVec.ofNat 32 pos ∧ pos + len ≤ total
  | .advance size chunk => chunk.toNat ≤ size.toNat

end Event

/-- What was done for an access, and whether it is reported as an error. -/
structure Served (addr size : BitVec 32) (log : List Event) (failed : Bool) : Prop where
  sound : ∀ e ∈ log, e.Sound addr size.toNat
  whole : failed = false → log.flatMap Event.bytes = List.range size.toNat
  reported : (∃ e ∈ log, e.fails = true) → failed = true

section
variable (undefinedShift : BitVec 32 → BitVec 32 → BitVec 32)

def ReadLaw (turns : Nat → Turn) (m : PnorMbox) (addr size : BitVec 32) : Prop :=
  ∃ fuel log m' failed, readFlash undefinedShift fuel turns m addr size = some (log, m', failed) ∧
    Served addr size log failed

def WriteLaw (turns : Nat → Turn) (flushFails : Bool) (m : PnorMbox) (addr size : BitVec 32) : Prop :=
  ∃ fuel log m' failed, writeFlash undefinedShift fuel turns flushFails m addr size = some (log, m', failed) ∧
    Served addr size log failed

/-! ## The condition -/

/-- The window commands for an address come to an end: with a window that covers it, or with a failed command. -/
inductive Settles (isWrite : Bool) (addr : BitVec 32) : (Nat → WindowAnswer) → PnorMbox → Option PnorMbox → Prop
  | covered {windows m} : m.covers isWrite addr = true → Settles isWrite addr windows m (some m)
  | refused {windows m} : m.covers isWrite addr = false → windows 0 = none → Settles isWrite addr windows m none
  | opened {windows m answer out} : m.covers isWrite addr = false → windows 0 = some answer →
      Settles isWrite addr (fun n => windows (n + 1))
        ({ m with curWindowOpen := false }.openWindow undefinedShift isWrite addr answer) out →
      Settles isWrite addr windows m out

/-- The state in which a chunk is begun. -/
structure Round where
  mbox : PnorMbox
  addr : BitVec 32
  size : BitVec 32

/-- The size that a read or a write asks for. -/
def request (isWrite : Bool) (size : BitVec 32) : BitVec 32 := if isWrite then requestSize size else size

/-- The operation goes on behind the chunk. -/
def Turn.goesOn (isWrite : Bool) (t : Turn) : Bool := if isWrite then !t.dirtyFails else !t.lpcFails 0

/-- The chunk of a round in the window `m`. -/
def Round.chunk (r : Round) (isWrite : Bool) (m : PnorMbox) : BitVec 32 := m.chunkLen r.addr (request isWrite r.size)

def Round.next (r : Round) (isWrite : Bool) (m : PnorMbox) : Round :=
  ⟨m, r.addr + r.chunk isWrite m, r.size - r.chunk isWrite m⟩

/-- The rounds of an operation, by their number. -/
inductive Reached (isWrite : Bool) (turns : Nat → Turn) (start : Round) : Nat → Round → Prop
  | start : Reached isWrite turns start 0 start
  | next {i r m} : Reached isWrite turns start i r → r.size ≠ 0 →
      Settles undefinedShift isWrite r.addr (turns i).windows r.mbox (some m) → (turns i).goesOn isWrite = true →
      Reached isWrite turns start (i + 1) (r.next isWrite m)

/-- In no round the BMC answers with other windows forever. -/
def RoundsSettle (isWrite : Bool) (turns : Nat → Turn) (start : Round) : Prop :=
  ∀ i r, Reached undefinedShift isWrite turns start i r → r.size ≠ 0 →
    ∃ out, Settles undefinedShift isWrite r.addr (turns i).windows r.mbox out

def ReadOk (turns : Nat → Turn) (m : PnorMbox) (addr size : BitVec 32) : Prop :=
  (size.toNat % 4 ≠ 0 ∧ addr.toNat % 4 ≠ 0) ∨ RoundsSettle undefinedShift false turns ⟨m, addr, size⟩

/-- The window of a round of a write is large enough for the rest of the data, or its rest is a multiple of four bytes,
or an LPC write fails before its end; and when the chunk is marked dirty, it is not larger than the rest of the data. -/
structure RoundOk (r : Round) (t : Turn) (m : PnorMbox) : Prop where
  fits : r.size.toNat ≤ (m.gap r.addr).toNat ∨ 4 ∣ (m.gap r.addr).toNat ∨
    ∃ k, 4 * (k + 1) ≤ (m.gap r.addr).toNat ∧ t.lpcFails k = true
  within : t.dirtyFails = false → 256 ≤ r.size.toNat ∨ (m.gap r.addr).toNat ≤ r.size.toNat

/-- An LPC write of the round fails, and the chunk is marked dirty all the same. -/
def Loses (r : Round) (t : Turn) (m : PnorMbox) : Prop :=
  t.dirtyFails = false ∧
    ∃ k, 4 * k < min r.size.toNat (r.chunk true m).toNat ∧ t.lpcFails k = true

/-- A command of the round fails. -/
def Stops (t : Turn) (out : Option PnorMbox) : Prop := out = none ∨ t.dirtyFails = true

structure RoundsOk (turns : Nat → Turn) (start : Round) : Prop where
  settle : RoundsSettle undefinedShift true turns start
  ok : ∀ i r m, Reached undefinedShift true turns start i r → r.size ≠ 0 →
    Settles undefinedShift true r.addr (turns i).windows r.mbox (some m) → RoundOk r (turns i) m

/-- A round of a write that is reached and asks for a window is as `P` says. -/
def SomeRound (P : Round → Turn → Option PnorMbox → Prop) (turns : Nat → Turn) (start : Round) : Prop :=
  ∃ i r out, Reached undefinedShift true turns start i r ∧ r.size ≠ 0 ∧
    Settles undefinedShift true r.addr (turns i).windows r.mbox out ∧ P r (turns i) out

/-- Some round loses the failure of an LPC write. -/
def LosesSome : (Nat → Turn) → Round → Prop := SomeRound undefinedShift fun r t out => ∃ m, out = some m ∧ Loses r t m

/-- Some command of a round fails. -/
def StopsSome : (Nat → Turn) → Round → Prop := SomeRound undefinedShift fun _ t out => Stops t out

def WriteOk (turns : Nat → Turn) (flushFails : Bool) (m : PnorMbox) (addr size : BitVec 32) : Prop :=
  size.toNat % 4 ≠ 0 ∨ (RoundsOk undefinedShift turns ⟨m, addr, size⟩ ∧
    (LosesSome undefinedShift turns ⟨m, addr, size⟩ →
      flushFails = true ∨ StopsSome undefinedShift turns ⟨m, addr, size⟩))

end

/-! ## Windows -/

section Windows

variable {m : PnorMbox} {isWrite : Bool} {addr size : BitVec 32}

theorem covers_spec (h : m.covers isWrite addr = true) :
    m.curWindowOpen = true ∧ m.curWindowOffset.toNat ≤ addr.toNat ∧ 0 < (m.gap addr).toNat ∧
      addr.toNat - m.curWindowOffset.toNat + (m.gap addr).toNat = m.curWindowSize.toNat := by
  unfold PnorMbox.covers PnorMbox.windowEnd at h
  simp only [Bool.and_eq_true, BitVec.ule, BitVec.ult, decide_eq_true_eq, BitVec.toNat_add] at h
  obtain ⟨⟨⟨hopen, _⟩, hle⟩, hlt⟩ := h
  have h1 := m.curWindowOffset.isLt
  have h2 := m.curWindowSize.isLt
  have h3 := addr.isLt
  unfold PnorMbox.gap PnorMbox.windowEnd
  rw [BitVec.toNat_sub, BitVec.toNat_add]
  refine ⟨hopen, hle, ?_, ?_⟩ <;> omega

theorem chunkLen_toNat : (m.chunkLen addr size).toNat = min size.toNat (m.gap addr).toNat := by
  unfold PnorMbox.chunkLen
  simp only [BitVec.ule, decide_eq_true_eq]
  split <;> omega

theorem chunkLen_pos (h : m.covers isWrite addr = true) (hsize : 0 < size.toNat) :
    0 < (m.chunkLen addr size).toNat := by
  have hgap := (covers_spec h).2.2.1
  rw [chunkLen_toNat]
  omega

theorem size_pos (h : size ≠ 0) : 0 < size.toNat :=
  Nat.pos_of_ne_zero fun h0 => h (BitVec.eq_of_toNat_eq h0)

theorem requestSize_toNat : (requestSize size).toNat = max 256 size.toNat := by
  have hpage : (256 : BitVec 32).toNat = 256 := rfl
  unfold requestSize pageBytes
  simp only [BitVec.ult, decide_eq_true_eq]
  split <;> omega

theorem sound_access (h : m.covers isWrite addr = true) {addr₀ : BitVec 32} {pos total written len : Nat} {fails : Bool}
    (haddr : addr = addr₀ + BitVec.ofNat 32 pos) (hlen : written + len ≤ (m.gap addr).toNat)
    (htotal : pos + written + len ≤ total) :
    (Event.access m (m.lpcAddr addr + BitVec.ofNat 32 written) (pos + written) len fails).Sound addr₀ total := by
  obtain ⟨hopen, hle, _, hsize⟩ := covers_spec h
  have hoff : m.lpcAddr addr + BitVec.ofNat 32 written - m.curWindowLpcOffset =
      addr - m.curWindowOffset + BitVec.ofNat 32 written := by
    unfold PnorMbox.lpcAddr
    rw [BitVec.add_assoc, BitVec.add_comm, BitVec.add_sub_cancel]
  have hlt := m.curWindowSize.isLt
  have haddr' := addr.isLt
  refine ⟨hopen, ?_, ?_, htotal⟩
  · rw [hoff, BitVec.toNat_add, BitVec.toNat_sub, BitVec.toNat_ofNat]
    omega
  · rw [hoff, haddr, ← BitVec.add_assoc, BitVec.ofNat_add, ← BitVec.add_assoc]
    congr 1
    rw [BitVec.add_comm, BitVec.sub_add_cancel]

theorem not_sound_access (h : m.covers isWrite addr = true) {addr₀ : BitVec 32} {pos total written len : Nat}
    {fails : Bool} (hwritten : written < (m.gap addr).toNat) (hlen : (m.gap addr).toNat < written + len) :
    ¬(Event.access m (m.lpcAddr addr + BitVec.ofNat 32 written) pos len fails).Sound addr₀ total := by
  rintro ⟨_, hin, _, _⟩
  obtain ⟨_, hle, _, hsize⟩ := covers_spec h
  have hoff : m.lpcAddr addr + BitVec.ofNat 32 written - m.curWindowLpcOffset =
      addr - m.curWindowOffset + BitVec.ofNat 32 written := by
    unfold PnorMbox.lpcAddr
    rw [BitVec.add_assoc, BitVec.add_comm, BitVec.add_sub_cancel]
  have hlt := m.curWindowSize.isLt
  have haddr' := addr.isLt
  rw [hoff, BitVec.toNat_add, BitVec.toNat_sub, BitVec.toNat_ofNat] at hin
  omega

end Windows

/-! ## The window commands -/

section Adjust

variable {undefinedShift : BitVec 32 → BitVec 32 → BitVec 32} {m m' : PnorMbox} {isWrite : Bool}
  {addr size : BitVec 32} {windows : Nat → WindowAnswer} {fuel : Nat} {log : List Event}
  {out : Option PnorMbox} {chunk : Option (BitVec 32 × BitVec 32)}

theorem Settles.unique {out' : Option PnorMbox} (h : Settles undefinedShift isWrite addr windows m out)
    (h' : Settles undefinedShift isWrite addr windows m out') : out = out' := by
  induction h with
  | covered hc =>
    cases h' with
    | covered _ => rfl
    | refused hc' _ => rw [hc] at hc'; cases hc'
    | opened hc' _ _ => rw [hc] at hc'; cases hc'
  | refused hc hw =>
    cases h' with
    | covered hc' => rw [hc] at hc'; cases hc'
    | refused _ _ => rfl
    | opened _ hw' _ => rw [hw] at hw'; cases hw'
  | opened hc hw _ ih =>
    cases h' with
    | covered hc' => rw [hc] at hc'; cases hc'
    | refused _ hw' => rw [hw] at hw'; cases hw'
    | opened _ hw' hs =>
      rw [hw] at hw'
      cases hw'
      exact ih hs

theorem Settles.covers (h : Settles undefinedShift isWrite addr windows m out) (hout : out = some m') :
    m'.covers isWrite addr = true := by
  induction h with
  | covered hc => cases hout; exact hc
  | refused _ _ => cases hout
  | opened _ _ _ ih => exact ih hout

/-- What `adjustMboxWindow` returns: the window that the BMC settles on and the chunk in it, or an error. -/
structure Adjusted (undefinedShift : BitVec 32 → BitVec 32 → BitVec 32) (isWrite : Bool) (addr size : BitVec 32)
    (windows : Nat → WindowAnswer) (m : PnorMbox) (log : List Event) (m' : PnorMbox)
    (chunk : Option (BitVec 32 × BitVec 32)) : Prop where
  settles : Settles undefinedShift isWrite addr windows m (chunk.map fun _ => m')
  place : ∀ c, chunk = some c → c = (m'.lpcAddr addr, m'.chunkLen addr size)
  commands : ∀ e ∈ log, (∀ addr₀ total, e.Sound addr₀ total) ∧ e.bytes = []
  failed : (∃ e ∈ log, e.fails = true) ↔ chunk = none

theorem adjustMboxWindow_spec
    (h : adjustMboxWindow undefinedShift fuel windows m isWrite addr size = some (log, m', chunk)) :
    Adjusted undefinedShift isWrite addr size windows m log m' chunk := by
  induction fuel generalizing windows m log with
  | zero => cases h
  | succ fuel ih =>
    unfold adjustMboxWindow at h
    cases hc : m.covers isWrite addr with
    | true =>
      rw [hc, if_pos rfl] at h
      cases h
      refine ⟨.covered hc, ?_, nofun, ?_⟩
      · intro c hc
        cases hc
        rfl
      · constructor
        · rintro ⟨e, he, _⟩
          cases he
        · intro hnone
          cases hnone
    | false =>
      rw [hc, if_neg (by decide)] at h
      simp only at h
      cases hw : windows 0 with
      | none =>
        rw [hw] at h
        cases h
        refine ⟨.refused hc hw, nofun, ?_, ?_⟩
        · intro e he
          cases List.mem_singleton.1 he
          exact ⟨fun _ _ => trivial, rfl⟩
        · exact ⟨fun _ => rfl, fun _ => ⟨_, List.mem_singleton.2 rfl, rfl⟩⟩
      | some answer =>
        rw [hw] at h
        obtain ⟨⟨log', m₂, chunk'⟩, hrec, heq⟩ := Option.map_eq_some_iff.1 h
        cases heq
        obtain ⟨hsettles, hchunk, hcommands, hfails⟩ := ih hrec
        refine ⟨.opened hc hw hsettles, hchunk, ?_, ?_⟩
        · intro e he
          rcases List.mem_cons.1 he with rfl | he
          · exact ⟨fun _ _ => trivial, rfl⟩
          · exact hcommands e he
        · rw [← hfails]
          constructor
          · rintro ⟨e, he, hf⟩
            rcases List.mem_cons.1 he with rfl | he
            · cases hf
            · exact ⟨e, he, hf⟩
          · rintro ⟨e, he, hf⟩
            exact ⟨e, List.mem_cons_of_mem _ he, hf⟩

theorem adjustMboxWindow_mono {k : Nat} {r : List Event × PnorMbox × Option (BitVec 32 × BitVec 32)}
    (h : adjustMboxWindow undefinedShift fuel windows m isWrite addr size = some r) :
    adjustMboxWindow undefinedShift (fuel + k) windows m isWrite addr size = some r := by
  induction fuel generalizing windows m r with
  | zero => cases h
  | succ fuel ih =>
    rw [show fuel + 1 + k = fuel + k + 1 by omega]
    unfold adjustMboxWindow at h ⊢
    split at h
    · rename_i hc
      rw [if_pos hc]
      exact h
    · rename_i hc
      rw [if_neg hc]
      simp only at h ⊢
      cases hw : windows 0 with
      | none => rw [hw] at h; exact h
      | some answer =>
        rw [hw] at h
        obtain ⟨r', hrec, heq⟩ := Option.map_eq_some_iff.1 h
        exact Option.map_eq_some_iff.2 ⟨r', ih hrec, heq⟩

theorem Settles.adjust (h : Settles undefinedShift isWrite addr windows m out) :
    ∃ fuel r, adjustMboxWindow undefinedShift fuel windows m isWrite addr size = some r := by
  induction h with
  | covered hc => exact ⟨1, _, if_pos hc⟩
  | refused hc hw =>
    refine ⟨1, ?_⟩
    unfold adjustMboxWindow
    rw [if_neg (by rw [hc]; decide)]
    simp only [hw]
    exact ⟨_, rfl⟩
  | opened hc hw _ ih =>
    obtain ⟨fuel, r, h⟩ := ih
    refine ⟨fuel + 1, ?_⟩
    unfold adjustMboxWindow
    rw [if_neg (by rw [hc]; decide)]
    simp only [hw, h]
    exact ⟨_, rfl⟩

end Adjust

/-! ## Rounds -/

section Rounds

variable {undefinedShift : BitVec 32 → BitVec 32 → BitVec 32} {isWrite : Bool} {turns : Nat → Turn}
  {r r' : Round} {m : PnorMbox} {i : Nat}

theorem Reached.tail (hsize : r.size ≠ 0)
    (hs : Settles undefinedShift isWrite r.addr (turns 0).windows r.mbox (some m))
    (hgo : (turns 0).goesOn isWrite = true)
    (h : Reached undefinedShift isWrite (fun n => turns (n + 1)) (r.next isWrite m) i r') :
    Reached undefinedShift isWrite turns r (i + 1) r' := by
  induction h with
  | start => exact .next .start hsize hs hgo
  | next _ hsize' hs' hgo' ih => exact .next ih hsize' hs' hgo'

theorem Reached.inv (h : Reached undefinedShift isWrite turns r i r') :
    (i = 0 ∧ r' = r) ∨ ∃ j m, i = j + 1 ∧ r.size ≠ 0 ∧
      Settles undefinedShift isWrite r.addr (turns 0).windows r.mbox (some m) ∧ (turns 0).goesOn isWrite = true ∧
      Reached undefinedShift isWrite (fun n => turns (n + 1)) (r.next isWrite m) j r' := by
  induction h with
  | start => exact .inl ⟨rfl, rfl⟩
  | next _ hsize hs hgo ih =>
    rcases ih with ⟨rfl, rfl⟩ | ⟨j, m', rfl, hsize', hs', hgo', h'⟩
    · exact .inr ⟨0, _, rfl, hsize, hs, hgo, .start⟩
    · exact .inr ⟨j + 1, m', rfl, hsize', hs', hgo', .next h' hsize hs hgo⟩

theorem Reached.cons {P : Nat → Round → Prop} (h0 : P 0 r)
    (hs : ∀ m, r.size ≠ 0 → Settles undefinedShift isWrite r.addr (turns 0).windows r.mbox (some m) →
      (turns 0).goesOn isWrite = true →
      ∀ i r', Reached undefinedShift isWrite (fun n => turns (n + 1)) (r.next isWrite m) i r' → P (i + 1) r')
    (h : Reached undefinedShift isWrite turns r i r') : P i r' := by
  rcases h.inv with ⟨rfl, rfl⟩ | ⟨j, m, rfl, hsize, hset, hgo, h'⟩
  · exact h0
  · exact hs m hsize hset hgo j r' h'

end Rounds

end Occ.Firdata
