/-
Writing the flash through the windows of the BMC: four bytes at a time, a page at least, and with the error of an LPC
write forgotten once its chunk is marked dirty.
-/
import Occ.Firdata.FlashRead

namespace Occ.Firdata

/-! ## The LPC writes of a chunk -/

section Writes

variable {fails : Nat → Bool} {m : PnorMbox} {addr addr₀ : BitVec 32} {pos total size chunkLen fuel written : Nat}

theorem lpcWriteLoop_sound (h : m.covers true addr = true) (haddr : addr = addr₀ + BitVec.ofNat 32 pos)
    (htotal : pos + size ≤ total) (hchunk : chunkLen ≤ (m.gap addr).toNat) (hdvd : 4 ∣ written ∨ size ≤ written)
    (hfits : size ≤ (m.gap addr).toNat ∨ 4 ∣ (m.gap addr).toNat ∨
      ∃ k, 4 * (k + 1) ≤ (m.gap addr).toNat ∧ fails k = true ∧ written ≤ 4 * k) :
    ∀ e ∈ lpcWriteLoop fails m (m.lpcAddr addr) pos size chunkLen fuel written, e.Sound addr₀ total := by
  induction fuel generalizing written with
  | zero => nofun
  | succ fuel ih =>
    intro e he
    unfold lpcWriteLoop at he
    split at he
    · rename_i hgo
      have hdvd : 4 ∣ written := hdvd.resolve_right (by omega)
      have hlen : (if size - written < 4 then size - written else 4) = min 4 (size - written) := by
        split <;> omega
      simp only [hlen] at he
      rcases List.mem_cons.1 he with rfl | he
      · refine sound_access h haddr ?_ (by omega)
        rcases hfits with hfits | hfits | ⟨k, hk, _, hle⟩ <;> omega
      · split at he
        · cases he
        · rename_i hok
          refine ih (by omega) ?_ e he
          rcases hfits with hfits | hfits | ⟨k, hk, hfail, hle⟩
          · exact .inl hfits
          · exact .inr (.inl hfits)
          · refine .inr (.inr ⟨k, hk, hfail, ?_⟩)
            have hne : written / 4 ≠ k := by
              rintro rfl
              exact hok hfail
            omega
    · cases he

theorem lpcWriteLoop_not_sound (h : m.covers true addr = true) (hchunk : chunkLen = (m.gap addr).toNat)
    (hsize : (m.gap addr).toNat < size) (hpart : ¬4 ∣ (m.gap addr).toNat) (hdvd : 4 ∣ written)
    (hwritten : written < (m.gap addr).toNat) (hfuel : size ≤ written + fuel)
    (hok : ∀ k, 4 * (k + 1) ≤ (m.gap addr).toNat → fails k = false) :
    ∃ e ∈ lpcWriteLoop fails m (m.lpcAddr addr) pos size chunkLen fuel written, ¬e.Sound addr₀ total := by
  induction fuel generalizing written with
  | zero => omega
  | succ fuel ih =>
    unfold lpcWriteLoop
    have hlen : (if size - written < 4 then size - written else 4) = min 4 (size - written) := by
      split <;> omega
    rw [if_pos (by omega)]
    simp only [hlen]
    by_cases hlast : (m.gap addr).toNat < written + 4
    · exact ⟨_, List.mem_cons_self, not_sound_access h hwritten (by omega)⟩
    · rw [hok (written / 4) (by omega), if_neg (by decide)]
      obtain ⟨e, he, hbad⟩ := @ih (written + min 4 (size - written)) (by omega) (by omega) (by omega)
      exact ⟨e, List.mem_cons_of_mem _ he, hbad⟩

theorem lpcWriteLoop_bytes (hdvd : 4 ∣ written ∨ size ≤ written) (hcut : size ≤ chunkLen ∨ 4 ∣ chunkLen)
    (hok : ∀ k, 4 * k < min size chunkLen → fails k = false) (hfuel : size ≤ written + fuel) :
    (lpcWriteLoop fails m (m.lpcAddr addr) pos size chunkLen fuel written).flatMap Event.bytes =
      List.range' (pos + written) (min size chunkLen - written) := by
  induction fuel generalizing written with
  | zero =>
    rw [show min size chunkLen - written = 0 by omega]
    rfl
  | succ fuel ih =>
    unfold lpcWriteLoop
    split
    · rename_i hgo
      have hlen : (if size - written < 4 then size - written else 4) = min 4 (size - written) := by
        split <;> omega
      have hrest := @ih (written + min 4 (size - written)) (by omega) (by omega)
      simp only [hlen]
      rw [hok (written / 4) (by omega), if_neg (by decide), List.flatMap_cons, hrest]
      show List.range' (pos + written) (min 4 (size - written)) ++ _ = _
      rw [← Nat.add_assoc, List.range'_append_1]
      congr 1
      omega
    · rw [show min size chunkLen - written = 0 by omega]
      rfl

theorem lpcWriteLoop_fails (hdvd : 4 ∣ written ∨ size ≤ written) (hfuel : size ≤ written + fuel) :
    (∃ e ∈ lpcWriteLoop fails m (m.lpcAddr addr) pos size chunkLen fuel written, e.fails = true) ↔
      ∃ k, written ≤ 4 * k ∧ 4 * k < min size chunkLen ∧ fails k = true := by
  induction fuel generalizing written with
  | zero =>
    constructor
    · rintro ⟨e, he, _⟩
      cases he
    · rintro ⟨k, hle, hlt, _⟩
      omega
  | succ fuel ih =>
    unfold lpcWriteLoop
    split
    · rename_i hgo
      obtain ⟨q, hq⟩ : 4 ∣ written := hdvd.resolve_right (by omega)
      have hlen : (if size - written < 4 then size - written else 4) = min 4 (size - written) := by
        split <;> omega
      simp only [hlen]
      cases hnow : fails (written / 4) with
      | true =>
        constructor
        · intro _
          exact ⟨written / 4, by omega, by omega, hnow⟩
        · intro _
          exact ⟨_, List.mem_cons_self, rfl⟩
      | false =>
        have hrest := @ih (written + min 4 (size - written)) (by omega) (by omega)
        rw [if_neg (by decide)]
        constructor
        · rintro ⟨e, he, hf⟩
          rcases List.mem_cons.1 he with rfl | he
          · cases hf
          · obtain ⟨k, hle, hlt, hk⟩ := hrest.1 ⟨e, he, hf⟩
            exact ⟨k, le_trans (Nat.le_add_right _ _) hle, hlt, hk⟩
        · rintro ⟨k, hle, hlt, hk⟩
          have hne : written / 4 ≠ k := by
            rintro rfl
            rw [hnow] at hk
            cases hk
          have hnext : written + min 4 (size - written) ≤ 4 * k := by
            clear hdvd hrest
            omega
          obtain ⟨e, he, hf⟩ := hrest.2 ⟨k, hnext, hlt, hk⟩
          exact ⟨e, List.mem_cons_of_mem _ he, hf⟩
    · constructor
      · rintro ⟨e, he, _⟩
        cases he
      · rintro ⟨k, hle, hlt, _⟩
        omega

end Writes

/-! ## Writing -/

section Write

variable {undefinedShift : BitVec 32 → BitVec 32 → BitVec 32} {turns : Nat → Turn} {m m' : PnorMbox}
  {addr addr₀ size : BitVec 32} {pos total fuel : Nat} {log : List Event} {failed : Bool} {r : Round}

/-- The LPC writes of a round in the window `w`. -/
def roundWrites (t : Turn) (w : PnorMbox) (addr size : BitVec 32) (pos : Nat) : List Event :=
  lpcWriteLoop t.lpcFails w (w.lpcAddr addr) pos size.toNat (w.chunkLen addr (requestSize size)).toNat size.toNat 0

/-- What a round of the loop of a write does. -/
inductive WriteRound (undefinedShift : BitVec 32 → BitVec 32 → BitVec 32) (fuel : Nat) (turns : Nat → Turn)
    (m : PnorMbox) (addr size : BitVec 32) (pos : Nat) : List Event → PnorMbox → Bool → Prop
  | done : size = 0 → WriteRound undefinedShift fuel turns m addr size pos [] m false
  | refused {log w} : size ≠ 0 → Settles undefinedShift true addr (turns 0).windows m none →
      (∀ e ∈ log, ∀ addr₀ total, e.Sound addr₀ total) → (∃ e ∈ log, e.fails = true) →
      WriteRound undefinedShift fuel turns m addr size pos log w true
  | marked {logw w log m' failed} : size ≠ 0 → Settles undefinedShift true addr (turns 0).windows m (some w) →
      (∀ e ∈ logw, (∀ addr₀ total, e.Sound addr₀ total) ∧ e.bytes = [] ∧ e.fails = false) →
      ((turns 0).dirtyFails = true ∧ log = [] ∧ m' = w ∧ failed = true ∨
        (turns 0).dirtyFails = false ∧
          ∃ log', writeLoop undefinedShift fuel (fun n => turns (n + 1)) w (addr + w.chunkLen addr (requestSize size))
              (size - w.chunkLen addr (requestSize size)) (pos + (w.chunkLen addr (requestSize size)).toNat) =
                some (log', m', failed) ∧ log = .advance size (w.chunkLen addr (requestSize size)) :: log') →
      WriteRound undefinedShift fuel turns m addr size pos
        (logw ++ roundWrites (turns 0) w addr size pos ++
          [writeDirty undefinedShift w addr (w.chunkLen addr (requestSize size)) (turns 0).dirtyFails] ++ log) m' failed

theorem writeLoop_cases (h : writeLoop undefinedShift (fuel + 1) turns m addr size pos = some (log, m', failed)) :
    WriteRound undefinedShift fuel turns m addr size pos log m' failed := by
  unfold writeLoop at h
  by_cases hsize : size = 0
  · rw [if_pos hsize] at h
    cases h
    exact .done hsize
  · rw [if_neg hsize] at h
    cases hadj : adjustMboxWindow undefinedShift fuel (turns 0).windows m true addr (requestSize size) with
    | none => rw [hadj] at h; cases h
    | some r =>
      obtain ⟨logw, w, chunk⟩ := r
      obtain ⟨hsettles, hplace, hcommands, hfailed⟩ := adjustMboxWindow_spec hadj
      rw [hadj] at h
      cases chunk with
      | none =>
        cases h
        exact .refused hsize hsettles (fun e he => (hcommands e he).1) (hfailed.2 rfl)
      | some c =>
        cases hplace c rfl
        have hquiet : ∀ e ∈ logw, (∀ addr₀ total, e.Sound addr₀ total) ∧ e.bytes = [] ∧ e.fails = false := by
          intro e he
          refine ⟨(hcommands e he).1, (hcommands e he).2, ?_⟩
          by_contra hf
          exact nomatch hfailed.1 ⟨e, he, by simpa using hf⟩
        simp only at h
        cases hdirty : (turns 0).dirtyFails with
        | true =>
          rw [hdirty, if_pos rfl] at h
          cases h
          have hround := @WriteRound.marked _ fuel _ _ _ _ pos _ _ [] m' true hsize
            hsettles hquiet (.inl ⟨hdirty, rfl, rfl, rfl⟩)
          rw [List.append_nil, hdirty] at hround
          exact hround
        | false =>
          rw [hdirty, if_neg (by decide)] at h
          obtain ⟨⟨log', m₂, failed'⟩, hrec, heq⟩ := Option.map_eq_some_iff.1 h
          cases heq
          have hround := @WriteRound.marked _ _ _ _ _ _ pos _ _ _ _ _ hsize hsettles hquiet (.inr ⟨hdirty, log', hrec, rfl⟩)
          rw [hdirty] at hround
          exact hround

theorem goesOn_write {t : Turn} (h : t.dirtyFails = false) : t.goesOn true = true := by
  unfold Turn.goesOn
  rw [if_pos rfl, h]
  rfl

theorem goesOn_write_iff {t : Turn} : t.goesOn true = true ↔ t.dirtyFails = false := by
  unfold Turn.goesOn
  rw [if_pos rfl, Bool.not_eq_true']

/-! ### Rounds of the rest -/

theorem SomeRound.size_ne {P : Round → Turn → Option PnorMbox → Prop}
    (h : SomeRound undefinedShift P turns r) : r.size ≠ 0 := by
  obtain ⟨i, r', out, hr, hsize, _⟩ := h
  rcases hr.inv with ⟨rfl, rfl⟩ | ⟨_, _, _, hne, _⟩
  · exact hsize
  · exact hne

theorem SomeRound.cases {P : Round → Turn → Option PnorMbox → Prop} {out : Option PnorMbox}
    (h : SomeRound undefinedShift P turns r)
    (hs : Settles undefinedShift true r.addr (turns 0).windows r.mbox out) :
    P r (turns 0) out ∨ ∃ w, out = some w ∧ (turns 0).dirtyFails = false ∧
      SomeRound undefinedShift P (fun n => turns (n + 1)) (r.next true w) := by
  obtain ⟨i, r', out', hr, hsize, hset, hP⟩ := h
  rcases hr.inv with ⟨rfl, rfl⟩ | ⟨j, w, rfl, _, hs', hgo, hr'⟩
  · cases hset.unique hs
    exact .inl hP
  · exact .inr ⟨w, hs.unique hs', goesOn_write_iff.1 hgo, j, r', out', hr', hsize, hset, hP⟩

theorem SomeRound.first {P : Round → Turn → Option PnorMbox → Prop} {out : Option PnorMbox} (hsize : r.size ≠ 0)
    (hs : Settles undefinedShift true r.addr (turns 0).windows r.mbox out) (hP : P r (turns 0) out) :
    SomeRound undefinedShift P turns r := ⟨0, r, out, .start, hsize, hs, hP⟩

theorem SomeRound.later {P : Round → Turn → Option PnorMbox → Prop} {w : PnorMbox} (hsize : r.size ≠ 0)
    (hs : Settles undefinedShift true r.addr (turns 0).windows r.mbox (some w)) (hgo : (turns 0).dirtyFails = false)
    (h : SomeRound undefinedShift P (fun n => turns (n + 1)) (r.next true w)) : SomeRound undefinedShift P turns r := by
  obtain ⟨i, r', out, hr, hrest⟩ := h
  exact ⟨i + 1, r', out, hr.tail hsize hs (goesOn_write hgo), hrest⟩

theorem RoundsOk.tail {w : PnorMbox} (h : RoundsOk undefinedShift turns r) (hsize : r.size ≠ 0)
    (hs : Settles undefinedShift true r.addr (turns 0).windows r.mbox (some w)) (hgo : (turns 0).dirtyFails = false) :
    RoundsOk undefinedShift (fun n => turns (n + 1)) (r.next true w) where
  settle i r' hr := h.settle (i + 1) r' (hr.tail hsize hs (goesOn_write hgo))
  ok i r' w' hr := h.ok (i + 1) r' w' (hr.tail hsize hs (goesOn_write hgo))

theorem RoundOk.chunk_le {w : PnorMbox} {t : Turn} (h : RoundOk r t w) (hdirty : t.dirtyFails = false) :
    (w.chunkLen r.addr (requestSize r.size)).toNat ≤ r.size.toNat := by
  rw [chunkLen_toNat, requestSize_toNat]
  rcases h.within hdirty with h | h <;> omega

theorem sound_writeDirty {w : PnorMbox} {a n : BitVec 32} {fails : Bool} :
    (writeDirty undefinedShift w a n fails).Sound addr₀ total ∧
      (writeDirty undefinedShift w a n fails).bytes = [] ∧
      (writeDirty undefinedShift w a n fails).fails = fails := by
  unfold writeDirty
  simp only
  split
  · exact ⟨trivial, rfl, rfl⟩
  · exact ⟨trivial, rfl, rfl⟩

/-! ### What a write does -/

/-- What the loop of a write does from the byte `pos` on, and how it ends. -/
structure WriteServed (undefinedShift : BitVec 32 → BitVec 32 → BitVec 32) (turns : Nat → Turn) (r : Round)
    (addr₀ : BitVec 32) (pos total : Nat) (log : List Event) (failed : Bool) : Prop where
  sound : ∀ e ∈ log, e.Sound addr₀ total
  stops : failed = true ↔ StopsSome undefinedShift turns r
  fails : (∃ e ∈ log, e.fails = true) ↔ failed = true ∨ LosesSome undefinedShift turns r
  whole : failed = false → ¬LosesSome undefinedShift turns r → log.flatMap Event.bytes = List.range' pos r.size.toNat

theorem exists_append_fails {xs ys : List Event} :
    (∃ e ∈ xs ++ ys, e.fails = true) ↔ (∃ e ∈ xs, e.fails = true) ∨ ∃ e ∈ ys, e.fails = true := by
  simp only [List.mem_append, or_and_right, exists_or]

theorem roundWrites_fails {t : Turn} {w : PnorMbox} (hdirty : t.dirtyFails = false) :
    (∃ e ∈ roundWrites t w r.addr r.size pos, e.fails = true) ↔ Loses r t w := by
  unfold roundWrites Loses Round.chunk request
  rw [lpcWriteLoop_fails (.inl (Nat.dvd_zero 4)) (by omega)]
  constructor
  · rintro ⟨k, _, hlt, hf⟩
    exact ⟨hdirty, k, hlt, hf⟩
  · rintro ⟨_, k, hlt, hf⟩
    exact ⟨k, Nat.zero_le _, hlt, hf⟩

theorem roundWrites_bytes {t : Turn} {w : PnorMbox} (hok : RoundOk r t w) (hdirty : t.dirtyFails = false)
    (hlost : ¬Loses r t w) : (roundWrites t w r.addr r.size pos).flatMap Event.bytes =
      List.range' pos (w.chunkLen r.addr (requestSize r.size)).toNat := by
  have hle := hok.chunk_le hdirty
  have hlen := @chunkLen_toNat w r.addr (requestSize r.size)
  have hreq := @requestSize_toNat r.size
  have hgood : ∀ k, 4 * k < min r.size.toNat (w.chunkLen r.addr (requestSize r.size)).toNat → t.lpcFails k = false := by
    intro k hk
    by_contra hf
    exact hlost ⟨hdirty, k, hk, by simpa using hf⟩
  have hcut : r.size.toNat ≤ (w.chunkLen r.addr (requestSize r.size)).toNat ∨
      4 ∣ (w.chunkLen r.addr (requestSize r.size)).toNat := by
    rcases hok.fits with h | h | ⟨k, hk, hf⟩
    · exact .inl (by omega)
    · by_cases hall : r.size.toNat ≤ (w.chunkLen r.addr (requestSize r.size)).toNat
      · exact .inl hall
      · rw [show (w.chunkLen r.addr (requestSize r.size)).toNat = (w.gap r.addr).toNat by omega]
        exact .inr h
    · by_cases hall : r.size.toNat ≤ (w.chunkLen r.addr (requestSize r.size)).toNat
      · exact .inl hall
      · rw [hgood k (by omega)] at hf
        cases hf
  unfold roundWrites
  rw [lpcWriteLoop_bytes (.inl (Nat.dvd_zero 4)) hcut hgood (by omega), Nat.min_eq_right hle]
  rfl

theorem roundWrites_sound {t : Turn} {w : PnorMbox} (hcovers : w.covers true r.addr = true) (hok : RoundOk r t w)
    (haddr : r.addr = addr₀ + BitVec.ofNat 32 pos) (htotal : pos + r.size.toNat ≤ total) :
    ∀ e ∈ roundWrites t w r.addr r.size pos, e.Sound addr₀ total := by
  have hlen := @chunkLen_toNat w r.addr (requestSize r.size)
  refine lpcWriteLoop_sound hcovers haddr htotal (by omega) (.inl (Nat.dvd_zero 4)) ?_
  rcases hok.fits with h | h | ⟨k, hk, hf⟩
  · exact .inl h
  · exact .inr (.inl h)
  · exact .inr (.inr ⟨k, hk, hf, Nat.zero_le _⟩)

theorem writeLoop_served
    (h : writeLoop undefinedShift fuel turns m addr size pos = some (log, m', failed))
    (hok : RoundsOk undefinedShift turns ⟨m, addr, size⟩)
    (haddr : addr = addr₀ + BitVec.ofNat 32 pos) (htotal : pos + size.toNat = total) :
    WriteServed undefinedShift turns ⟨m, addr, size⟩ addr₀ pos total log failed := by
  induction fuel generalizing turns m addr size pos log with
  | zero => cases h
  | succ fuel ih =>
    have hround := writeLoop_cases h
    clear h
    cases hround with
    | done hsize =>
      refine ⟨nofun, ⟨nofun, fun hs => absurd hsize hs.size_ne⟩, ⟨?_, ?_⟩, fun _ _ => ?_⟩
      · rintro ⟨e, he, _⟩
        cases he
      · rintro (hf | hl)
        · cases hf
        · exact absurd hsize hl.size_ne
      · show _ = List.range' pos size.toNat
        rw [hsize]
        rfl
    | refused hsize hs hsound hfails =>
      refine ⟨fun e he => hsound e he _ _, ⟨fun _ => .first hsize hs (.inl rfl), fun _ => rfl⟩,
        ⟨fun _ => .inl rfl, fun _ => hfails⟩, nofun⟩
    | @marked logw w rest _ failed hsize hs hquiet hrest =>
      have hcovers : w.covers true addr = true := hs.covers rfl
      have hround := hok.ok 0 _ w .start hsize hs
      have hwrites := @roundWrites_sound _ pos total ⟨m, addr, size⟩ _ _ hcovers hround haddr
        (by show pos + size.toNat ≤ total; omega)
      have hquietBytes : logw.flatMap Event.bytes = [] := by
        rw [List.flatMap_eq_nil_iff]
        exact fun e he => (hquiet e he).2.1
      have hquietFails : ¬∃ e ∈ logw, e.fails = true := by
        rintro ⟨e, he, hf⟩
        rw [(hquiet e he).2.2] at hf
        cases hf
      have hdirtySpec := @sound_writeDirty undefinedShift addr₀ total w addr (w.chunkLen addr (requestSize size))
        (turns 0).dirtyFails
      have hfirst : ∀ e ∈ logw ++ roundWrites (turns 0) w addr size pos ++
          [writeDirty undefinedShift w addr (w.chunkLen addr (requestSize size)) (turns 0).dirtyFails],
          e.Sound addr₀ total := by
        intro e he
        rcases List.mem_append.1 he with he | he
        · rcases List.mem_append.1 he with he | he
          · exact (hquiet e he).1 _ _
          · exact hwrites e he
        · cases List.mem_singleton.1 he
          exact hdirtySpec.1
      rcases hrest with ⟨hdirty, rfl, rfl, rfl⟩ | ⟨hdirty, log', hrec, rfl⟩
      · rw [List.append_nil]
        refine ⟨hfirst, ⟨fun _ => .first hsize hs (.inr hdirty), fun _ => rfl⟩, ⟨fun _ => .inl rfl, fun _ => ?_⟩, nofun⟩
        refine ⟨_, List.mem_append_right _ (List.mem_singleton.2 rfl), ?_⟩
        rw [hdirtySpec.2.2, hdirty]
      · have hle := hround.chunk_le hdirty
        have hrestSize : (size - w.chunkLen addr (requestSize size)).toNat =
            size.toNat - (w.chunkLen addr (requestSize size)).toNat :=
          BitVec.toNat_sub_of_le (BitVec.le_def.2 hle)
        have hle' : (w.chunkLen addr (requestSize size)).toNat ≤ size.toNat := hle
        obtain ⟨hsound, hstops, hfails, hwhole⟩ := ih hrec (hok.tail hsize hs hdirty)
          (by rw [haddr, BitVec.ofNat_add, BitVec.add_assoc, BitVec.ofNat_toNat, BitVec.setWidth_eq])
          (by omega)
        have hlosesFirst := @roundWrites_fails pos ⟨m, addr, size⟩ (turns 0) w hdirty
        refine ⟨fun e he => ?_, ?_, ?_, fun hgood hlost => ?_⟩
        · rcases List.mem_append.1 he with he | he
          · exact hfirst e he
          · rcases List.mem_cons.1 he with rfl | he
            · exact hle
            · exact hsound e he
        · rw [hstops]
          constructor
          · exact fun hlater => SomeRound.later (r := ⟨m, addr, size⟩) hsize hs hdirty hlater
          · intro hsome
            rcases hsome.cases hs with hstop | ⟨w', heq, _, hlater⟩
            · rcases hstop with hnone | hdirty'
              · cases hnone
              · rw [hdirty] at hdirty'
                cases hdirty'
            · cases heq
              exact hlater
        · rw [exists_append_fails, exists_append_fails, exists_append_fails]
          constructor
          · rintro (((hw | hl) | ⟨e, he, hf⟩) | ⟨e, he, hf⟩)
            · exact absurd hw hquietFails
            · exact .inr (.first hsize hs ⟨w, rfl, hlosesFirst.1 hl⟩)
            · cases List.mem_singleton.1 he
              rw [hdirtySpec.2.2, hdirty] at hf
              cases hf
            · rcases List.mem_cons.1 he with rfl | he
              · cases hf
              · rcases hfails.1 ⟨e, he, hf⟩ with hfail | hlose
                · exact .inl hfail
                · exact .inr (.later hsize hs hdirty hlose)
          · rintro (hfail | hlose)
            · obtain ⟨e, he, hf⟩ := hfails.2 (.inl hfail)
              exact .inr ⟨e, List.mem_cons_of_mem _ he, hf⟩
            · rcases hlose.cases hs with ⟨w', heq, hl⟩ | ⟨w', heq, _, hlater⟩
              · cases heq
                exact .inl (.inl (.inr (hlosesFirst.2 hl)))
              · cases heq
                obtain ⟨e, he, hf⟩ := hfails.2 (.inr hlater)
                exact .inr ⟨e, List.mem_cons_of_mem _ he, hf⟩
        · have hbytes := @roundWrites_bytes pos _ _ _ hround hdirty
            fun hl => hlost (.first hsize hs ⟨w, rfl, hl⟩)
          have hlater := hwhole hgood fun hl => hlost (.later hsize hs hdirty hl)
          replace hlater : log'.flatMap Event.bytes = List.range' (pos + (w.chunkLen addr (requestSize size)).toNat)
            (size - w.chunkLen addr (requestSize size)).toNat := hlater
          simp only at hbytes
          simp only [List.flatMap_append, hquietBytes, hbytes, List.flatMap_cons, List.flatMap_nil, hdirtySpec.2.1,
            Event.bytes_advance, List.nil_append, List.append_nil, hlater, hrestSize, List.range'_append_1,
            Nat.add_sub_cancel' hle']

/-! ### How a write ends -/

theorem writeLoop_mono {k : Nat} {r : List Event × PnorMbox × Bool}
    (h : writeLoop undefinedShift fuel turns m addr size pos = some r) :
    writeLoop undefinedShift (fuel + k) turns m addr size pos = some r := by
  induction fuel generalizing turns m addr size pos r with
  | zero => cases h
  | succ fuel ih =>
    rw [show fuel + 1 + k = fuel + k + 1 by omega]
    unfold writeLoop at h ⊢
    split at h
    · rename_i hsize
      rw [if_pos hsize]
      exact h
    · rename_i hsize
      rw [if_neg hsize]
      cases hadj : adjustMboxWindow undefinedShift fuel (turns 0).windows m true addr (requestSize size) with
      | none => rw [hadj] at h; cases h
      | some w =>
        obtain ⟨logw, w, chunk⟩ := w
        rw [hadj] at h
        rw [adjustMboxWindow_mono hadj]
        cases chunk with
        | none => exact h
        | some c =>
          simp only at h ⊢
          split at h
          · rename_i hdirty
            rw [if_pos hdirty]
            exact h
          · rename_i hdirty
            rw [if_neg hdirty]
            obtain ⟨r', hrec, heq⟩ := Option.map_eq_some_iff.1 h
            exact Option.map_eq_some_iff.2 ⟨r', ih hrec, heq⟩

theorem writeLoop_ends (h : RoundsOk undefinedShift turns ⟨m, addr, size⟩) :
    ∃ fuel r, writeLoop undefinedShift fuel turns m addr size pos = some r := by
  generalize hn : size.toNat = n
  induction n using Nat.strong_induction_on generalizing turns m addr size pos with
  | _ n ih =>
    by_cases hsize : size = 0
    · exact ⟨1, _, if_pos hsize⟩
    · obtain ⟨out, hout⟩ := h.settle 0 _ .start hsize
      obtain ⟨f₁, ⟨logw, w, chunk⟩, hadj⟩ := @Settles.adjust _ _ _ _ (requestSize size) _ _ hout
      obtain ⟨hsettles, hplace, _, _⟩ := adjustMboxWindow_spec hadj
      cases chunk with
      | none =>
        refine ⟨f₁ + 1, ?_⟩
        unfold writeLoop
        rw [if_neg hsize, hadj]
        exact ⟨_, rfl⟩
      | some c =>
        cases hplace c rfl
        cases hdirty : (turns 0).dirtyFails with
        | true =>
          refine ⟨f₁ + 1, ?_⟩
          unfold writeLoop
          rw [if_neg hsize, hadj]
          simp only [hdirty, if_true]
          exact ⟨_, rfl⟩
        | false =>
          have hcovers : w.covers true addr = true := hsettles.covers rfl
          have hreq := @requestSize_toNat size
          have hpos := chunkLen_pos hcovers (show 0 < (requestSize size).toNat by omega)
          have hle : (w.chunkLen addr (requestSize size)).toNat ≤ size.toNat :=
            (h.ok 0 _ w .start hsize hsettles).chunk_le hdirty
          have hrest : (size - w.chunkLen addr (requestSize size)).toNat =
              size.toNat - (w.chunkLen addr (requestSize size)).toNat :=
            BitVec.toNat_sub_of_le (BitVec.le_def.2 hle)
          obtain ⟨f₂, r, hrec⟩ := @ih (size - w.chunkLen addr (requestSize size)).toNat (by omega)
            (fun n => turns (n + 1)) w (addr + w.chunkLen addr (requestSize size))
            (size - w.chunkLen addr (requestSize size)) (pos + (w.chunkLen addr (requestSize size)).toNat)
            (h.tail hsize hsettles hdirty) rfl
          refine ⟨f₁ + f₂ + 1, ?_⟩
          unfold writeLoop
          rw [if_neg hsize, adjustMboxWindow_mono hadj]
          simp only [hdirty, Bool.false_eq_true, if_false]
          rw [show f₁ + f₂ = f₂ + f₁ by omega, writeLoop_mono hrec]
          exact ⟨_, rfl⟩

theorem roundOk_of_sound {t : Turn} {w : PnorMbox} (hcovers : w.covers true r.addr = true)
    (hwrites : ∀ e ∈ roundWrites t w r.addr r.size pos, e.Sound addr₀ total)
    (hle : t.dirtyFails = false → (w.chunkLen r.addr (requestSize r.size)).toNat ≤ r.size.toNat) : RoundOk r t w := by
  have hlen := @chunkLen_toNat w r.addr (requestSize r.size)
  have hreq := @requestSize_toNat r.size
  have hgap := (covers_spec hcovers).2.2.1
  constructor
  · by_contra hnot
    simp only [not_or, not_exists, not_and] at hnot
    obtain ⟨hsmall, hpart, hgood⟩ := hnot
    have hok : ∀ k, 4 * (k + 1) ≤ (w.gap r.addr).toNat → t.lpcFails k = false :=
      fun k hk => by simpa using hgood k hk
    obtain ⟨e, he, hbad⟩ := @lpcWriteLoop_not_sound t.lpcFails _ _ addr₀ pos total _
      (w.chunkLen r.addr (requestSize r.size)).toNat r.size.toNat 0 hcovers (by omega)
      (Nat.lt_of_not_le hsmall) hpart (Nat.dvd_zero 4) hgap (by omega) hok
    exact hbad (hwrites e he)
  · intro hdirty
    have h := hle hdirty
    omega

theorem writeLoop_roundsOk (h : writeLoop undefinedShift fuel turns m addr size pos = some (log, m', failed))
    (hsound : ∀ e ∈ log, e.Sound addr₀ total) : RoundsOk undefinedShift turns ⟨m, addr, size⟩ := by
  induction fuel generalizing turns m addr size pos log with
  | zero => cases h
  | succ fuel ih =>
    have hround := writeLoop_cases h
    clear h
    cases hround with
    | done hsize =>
      have hnone : ∀ i r, Reached undefinedShift true turns ⟨m', addr, size⟩ i r → r.size = 0 := by
        intro i r hr
        refine hr.cons (P := fun _ r => r.size = 0) hsize fun w hne => absurd hsize hne
      exact ⟨fun i r hr hne => absurd (hnone i r hr) hne, fun i r w hr hne => absurd (hnone i r hr) hne⟩
    | refused hsize hs _ _ =>
      have hfirst : ∀ i r, Reached undefinedShift true turns ⟨m, addr, size⟩ i r → i = 0 ∧ r = ⟨m, addr, size⟩ := by
        intro i r hr
        refine hr.cons (P := fun i r => i = 0 ∧ r = ⟨m, addr, size⟩) ⟨rfl, rfl⟩ fun w _ hs' => ?_
        cases hs.unique hs'
      constructor
      · intro i r hr _
        obtain ⟨rfl, rfl⟩ := hfirst i r hr
        exact ⟨none, hs⟩
      · intro i r w hr _ hs'
        obtain ⟨rfl, rfl⟩ := hfirst i r hr
        cases hs.unique hs'
    | @marked logw w rest _ failed hsize hs hquiet hrest =>
      have hcovers : w.covers true addr = true := hs.covers rfl
      have hwrites : ∀ e ∈ roundWrites (turns 0) w addr size pos, e.Sound addr₀ total := fun e he =>
        hsound e (List.mem_append_left _ (List.mem_append_left _ (List.mem_append_right _ he)))
      have hround : RoundOk ⟨m, addr, size⟩ (turns 0) w := by
        refine roundOk_of_sound (r := ⟨m, addr, size⟩) hcovers hwrites fun hdirty => ?_
        rcases hrest with ⟨hdirty', _⟩ | ⟨_, log', _, rfl⟩
        · rw [hdirty] at hdirty'
          cases hdirty'
        · exact hsound _ (List.mem_append_right _ List.mem_cons_self)
      have hlater : ∀ w', Settles undefinedShift true addr (turns 0).windows m (some w') →
          (turns 0).goesOn true = true →
          RoundsOk undefinedShift (fun n => turns (n + 1)) ((Round.mk m addr size).next true w') := by
        intro w' hs' hgo
        cases hs.unique hs'
        rcases hrest with ⟨hdirty, _⟩ | ⟨_, log', hrec, rfl⟩
        · rw [goesOn_write_iff.1 hgo] at hdirty
          cases hdirty
        · exact ih hrec fun e he => hsound e (List.mem_append_right _ (List.mem_cons_of_mem _ he))
      constructor
      · intro i r hr
        refine hr.cons (P := fun i r => r.size ≠ 0 → ∃ out, Settles undefinedShift true r.addr (turns i).windows
          r.mbox out) (fun _ => ⟨_, hs⟩) fun w' _ hs' hgo j r' hr' => ?_
        exact (hlater w' hs' hgo).settle j r' hr'
      · intro i r w₂ hr
        refine hr.cons (P := fun i r => r.size ≠ 0 → Settles undefinedShift true r.addr (turns i).windows r.mbox
          (some w₂) → RoundOk r (turns i) w₂) (fun _ hs₂ => ?_) fun w' _ hs' hgo j r' hr' => ?_
        · cases hs.unique hs₂
          exact hround
        · exact (hlater w' hs' hgo).ok j r' w₂ hr'

/-- A write owes its law to the windows of the BMC and to the commands that fail after an LPC write has. -/
theorem writeLaw_iff {flushFails : Bool} :
    WriteLaw undefinedShift turns flushFails m addr size ↔ WriteOk undefinedShift turns flushFails m addr size := by
  unfold WriteLaw WriteOk writeFlash
  by_cases halign : size.toNat % 4 ≠ 0
  · simp only [if_pos halign]
    constructor
    · exact fun _ => .inl halign
    · intro _
      refine ⟨0, _, _, _, rfl, nofun, nofun, ?_⟩
      rintro ⟨e, he, _⟩
      cases he
  · simp only [if_neg halign]
    have hserved : ∀ fuel log m' failed, writeLoop undefinedShift fuel turns m addr size 0 = some (log, m', failed) →
        RoundsOk undefinedShift turns ⟨m, addr, size⟩ →
        WriteServed undefinedShift turns ⟨m, addr, size⟩ addr 0 size.toNat log failed := fun _ _ _ _ h hok =>
      writeLoop_served h hok (BitVec.add_zero addr).symm (Nat.zero_add _)
    constructor
    · rintro ⟨fuel, log, m', failed, h, hlaw⟩
      obtain ⟨⟨log', m₂, failed'⟩, hloop, heq⟩ := Option.map_eq_some_iff.1 h
      cases heq
      have hok := writeLoop_roundsOk hloop fun e he => hlaw.sound e (List.mem_append_left _ he)
      obtain ⟨_, hstops, hfails, _⟩ := hserved _ _ _ _ hloop hok
      refine .inr ⟨hok, fun hlost => ?_⟩
      obtain ⟨e, he, hf⟩ := hfails.2 (.inr hlost)
      have hreported := hlaw.reported ⟨e, List.mem_append_left _ he, hf⟩
      rcases Bool.or_eq_true_iff.1 hreported with hfailed | hflush
      · exact .inr (hstops.1 hfailed)
      · exact .inl hflush
    · rintro (h | ⟨hok, hlost⟩)
      · exact absurd h halign
      · obtain ⟨fuel, ⟨log, m', failed⟩, hloop⟩ := @writeLoop_ends _ _ _ _ _ 0 hok
        obtain ⟨hsound, hstops, hfails, hwhole⟩ := hserved _ _ _ _ hloop hok
        refine ⟨fuel, _, _, _, Option.map_eq_some_iff.2 ⟨_, hloop, rfl⟩, fun e he => ?_, fun hgood => ?_, ?_⟩
        · rcases List.mem_append.1 he with he | he
          · exact hsound e he
          · cases List.mem_singleton.1 he
            exact trivial
        · obtain ⟨hfailed, hflush⟩ := Bool.or_eq_false_iff.1 hgood
          have hnone : ¬LosesSome undefinedShift turns ⟨m, addr, size⟩ := by
            intro hl
            rcases hlost hl with hf | hs
            · rw [hflush] at hf
              cases hf
            · rw [hstops.2 hs] at hfailed
              cases hfailed
          rw [List.flatMap_append, hwhole hfailed hnone, List.range_eq_range']
          exact List.append_nil _
        · rw [exists_append_fails]
          rintro (hlog | ⟨e, he, hf⟩)
          · rcases hfails.1 hlog with hfailed | hl
            · exact Bool.or_eq_true_iff.2 (.inl hfailed)
            · rcases hlost hl with hflush | hs
              · exact Bool.or_eq_true_iff.2 (.inr hflush)
              · exact Bool.or_eq_true_iff.2 (.inl (hstops.2 hs))
          · cases List.mem_singleton.1 he
            exact Bool.or_eq_true_iff.2 (.inr hf)

/-- For every BMC: a read and a write keep the law in exactly the cases their conditions name. -/
theorem flash_laws_iff {flushFails : Bool} :
    (ReadLaw undefinedShift turns m addr size ↔ ReadOk undefinedShift turns m addr size) ∧
      (WriteLaw undefinedShift turns flushFails m addr size ↔
        WriteOk undefinedShift turns flushFails m addr size) := ⟨readLaw_iff, writeLaw_iff⟩

theorem writeLoop_unique {f₁ f₂ : Nat} {r₁ r₂ : List Event × PnorMbox × Bool}
    (h₁ : writeLoop undefinedShift f₁ turns m addr size pos = some r₁)
    (h₂ : writeLoop undefinedShift f₂ turns m addr size pos = some r₂) : r₁ = r₂ := by
  have h := writeLoop_mono (k := f₂) h₁
  rw [Nat.add_comm, writeLoop_mono h₂] at h
  exact (Option.some.inj h).symm

end Write

/-- A write window over the first block of the flash. -/
def openBlock : PnorMbox where
  protocolVersion := 2
  blockShift := 12
  curWindowOpen := true
  curWindowWrite := true
  curWindowOffset := 0
  curWindowSize := 4096
  curWindowLpcOffset := 0
  readWindowSize := 0
  writeWindowSize := 0

/-- The first LPC write of a page fails, and nothing else does. -/
def deafTurns : Nat → Turn := fun _ => ⟨fun _ => none, fun k => k == 0, false⟩

/-- The page is reported as written, though its first LPC write has failed. -/
theorem writeLaw_deaf : ¬WriteLaw (fun _ _ => 0) deafTurns false openBlock 0 256 := by
  rintro ⟨fuel, log, m', failed, h, hlaw⟩
  obtain ⟨r, hloop, heq⟩ := Option.map_eq_some_iff.1 h
  have hrun : ∃ e log, writeLoop (fun _ _ => 0) 2 deafTurns openBlock 0 256 0 = some (e :: log, openBlock, false) ∧
      e.fails = true := ⟨_, _, rfl, rfl⟩
  obtain ⟨e, log', hrun, hfails⟩ := hrun
  cases writeLoop_unique hloop hrun
  cases heq
  exact Bool.noConfusion (hlaw.reported ⟨e, List.mem_cons_self, hfails⟩)

end Occ.Firdata
