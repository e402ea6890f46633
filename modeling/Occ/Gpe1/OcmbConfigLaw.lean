/-
The law of the OCMB configuration: what reading a sensor cache returns is the same for every memory buffer that is in the
configuration, the loop over the memory buffers by an invariant, and the un-swizzle one bit at a time.
-/
import Occ.Gpe1.OcmbConfig
import Occ.Gpe1.Collective
import Mathlib.Logic.Equiv.Basic

namespace Occ.Gpe1

/-! ## Reading one sensor cache -/

section Read

variable {cfg cfg' : MemBufConfiguration} {hw : SensorHw} {i i' j : Nat} {α : Type} {data data' : α}

theorem on_remove : Mask.On (cfg.remove i).config j = (Mask.On cfg.config j && !decide (j = 16 + i)) := by
  have hflag : chipConfigMembuf i = Mask.flag 32 (16 + i) := by
    rw [chipConfigMembuf, Mask.flag, ← BitVec.shiftRight_add]
    rfl
  show Mask.On (Mask.clr cfg.config (chipConfigMembuf i)) _ = _
  rw [hflag, Mask.on_clr]

theorem configured_remove : (cfg.remove i).configured j = (cfg.configured j && !decide (j = i)) := by
  rw [configured_eq, configured_eq, on_remove]
  congr 2
  exact decide_eq_decide.2 Nat.add_left_cancel_iff

@[simp] theorem remove_remove : (cfg.remove i).remove i = cfg.remove i := by
  unfold MemBufConfiguration.remove
  dsimp only
  rw [BitVec.and_assoc, BitVec.and_self]

/-- Two memory buffers are both in their configurations, or both are not. -/
structure Beside (cfg : MemBufConfiguration) (i : Nat) (cfg' : MemBufConfiguration) (i' : Nat) : Prop where
  configured : cfg.configured i = cfg'.configured i'
  membufType : cfg.membufType = cfg'.membufType

/-- What an access does: it tells the same of two memory buffers, changes nothing where it returns zero, and takes no other
memory buffer out. -/
structure Alike (cfg : MemBufConfiguration) (i : Nat) (cfg' : MemBufConfiguration) (i' : Nat) (a a' : Fetched α) : Prop where
  beside : Beside a.cfg i a'.cfg i'
  rc : a.rc = a'.rc
  data : a.data = a'.data
  kept : a.rc = 0 → a.cfg = cfg
  removed : a.cfg.remove i = cfg.remove i

theorem inband_alike {a : Inband α} (h : Beside cfg i cfg' i') (hdata : data = data') :
    Alike cfg i cfg' i' (inband a cfg i data) (inband a cfg' i' data') := by
  unfold inband
  split
  · refine ⟨⟨?_, h.membufType⟩, rfl, hdata, nofun, remove_remove⟩
    rw [configured_remove, configured_remove, h.configured, decide_eq_true rfl, decide_eq_true rfl]
  · exact ⟨h, rfl, hdata, fun _ => rfl, rfl⟩

theorem membufGetScom_alike {a : Inband (BitVec 64)} (h : Beside cfg i cfg' i') :
    Alike cfg i cfg' i' (membufGetScom a cfg i) (membufGetScom a cfg' i') := by
  unfold membufGetScom
  rw [h.configured]
  split
  · exact inband_alike h (by rw [h.membufType])
  · exact ⟨h, rfl, rfl, fun _ => rfl, rfl⟩

theorem membufPutScom_alike {a : Inband Unit} (h : Beside cfg i cfg' i') :
    Alike cfg i cfg' i' (membufPutScom a cfg i) (membufPutScom a cfg' i') := by
  unfold membufPutScom
  rw [h.configured]
  split
  · exact inband_alike h rfl
  · exact ⟨h, rfl, rfl, fun _ => rfl, rfl⟩

theorem checkAndResetMmioFir_alike (h : Beside cfg i cfg' i') :
    Alike cfg i cfg' i' (checkAndResetMmioFir hw cfg i) (checkAndResetMmioFir hw cfg' i') := by
  have hget := @membufGetScom_alike cfg cfg' i i' hw.mfir h
  unfold checkAndResetMmioFir
  dsimp only
  rw [← hget.rc, ← hget.data]
  split
  · exact ⟨hget.beside, rfl, rfl, hget.kept, hget.removed⟩
  · rename_i hrc
    split
    · have hput := @membufPutScom_alike _ _ i i' hw.mfirAnd hget.beside
      exact ⟨hput.beside, rfl, rfl, nofun, hput.removed.trans hget.removed⟩
    · exact ⟨hget.beside, rfl, rfl, fun _ => hget.kept (not_not.1 hrc), hget.removed⟩

theorem ocmbCheckSensorCacheEnabled_alike (h : Beside cfg i cfg' i') :
    Alike cfg i cfg' i' (ocmbCheckSensorCacheEnabled hw cfg i) (ocmbCheckSensorCacheEnabled hw cfg' i') := by
  have hget := @membufGetScom_alike cfg cfg' i i' hw.merrctl h
  unfold ocmbCheckSensorCacheEnabled
  dsimp only
  rw [← hget.rc, ← hget.data]
  split
  · exact ⟨hget.beside, rfl, rfl, hget.kept, hget.removed⟩
  · rename_i hrc
    split
    · have hput := @membufPutScom_alike _ _ i i' hw.merrctlPut hget.beside
      exact ⟨hput.beside, hput.rc, rfl, fun hz => (hput.kept hz).trans (hget.kept (not_not.1 hrc)),
        hput.removed.trans hget.removed⟩
    · exact ⟨hget.beside, rfl, rfl, fun _ => hget.kept (not_not.1 hrc), hget.removed⟩

/-- A sensor cache is read in the same way from all memory buffers that are configured. -/
theorem getOcmbSensorcache_alike {data data' : Nat → BitVec 32} (h : Beside cfg i cfg' i') (hi : i < 16) (hi' : i' < 16)
    (hc : cfg.configured i = true) :
    (getOcmbSensorcache hw cfg (some i) data).rc = (getOcmbSensorcache hw cfg' (some i') data').rc ∧
      ((getOcmbSensorcache hw cfg (some i) data).rc = 0 → (getOcmbSensorcache hw cfg (some i) data).cfg = cfg ∧
        (getOcmbSensorcache hw cfg (some i) data).data = hw.data) ∧
      (getOcmbSensorcache hw cfg (some i) data).cfg.remove i = cfg.remove i := by
  have hc' : cfg'.configured i' = true := h.configured.symm.trans hc
  have hfir := @checkAndResetMmioFir_alike cfg cfg' hw i i' h
  have henabled := @ocmbCheckSensorCacheEnabled_alike _ _ hw i i' hfir.beside
  have hpass : ¬(16 ≤ i ∨ cfg.configured i = false) := by
    rw [hc]
    rintro (hle | hf)
    · omega
    · cases hf
  have hpass' : ¬(16 ≤ i' ∨ cfg'.configured i' = false) := by
    rw [hc']
    rintro (hle | hf)
    · omega
    · cases hf
  unfold getOcmbSensorcache
  dsimp only
  rw [if_neg hpass, if_neg hpass', ← hfir.rc, ← henabled.rc]
  split
  · rename_i hrc
    exact ⟨rfl, fun hz => absurd hz hrc, henabled.removed.trans hfir.removed⟩
  · rename_i hrc₂
    split
    · rename_i hrc
      exact ⟨rfl, fun hz => absurd hz hrc, henabled.removed.trans hfir.removed⟩
    · rename_i hrc₁
      have hkept := (henabled.kept (not_not.1 hrc₂)).trans (hfir.kept (not_not.1 hrc₁))
      split
      · rename_i hrc
        exact ⟨rfl, fun hz => absurd hz hrc, henabled.removed.trans hfir.removed⟩
      · unfold inband
        split
        · exact ⟨rfl, nofun, remove_remove.trans (henabled.removed.trans hfir.removed)⟩
        · exact ⟨rfl, fun _ => ⟨hkept, rfl⟩, henabled.removed.trans hfir.removed⟩

theorem getOcmbSensorcache_spec {data : Nat → BitVec 32} (htype : cfg.membufType = .ocmb) (hi : i < 16)
    (hc : cfg.configured i = true) :
    (getOcmbSensorcache hw cfg (some i) data).rc = hw.rc ∧
      (hw.rc = 0 → (getOcmbSensorcache hw cfg (some i) data).cfg = cfg ∧
        (getOcmbSensorcache hw cfg (some i) data).data = hw.data) ∧
      (getOcmbSensorcache hw cfg (some i) data).cfg.remove i = cfg.remove i := by
  have h : Beside cfg i ⟨fun _ => 0, .ocmb, BitVec.allOnes 32⟩ 0 := ⟨hc.trans (by decide), htype⟩
  obtain ⟨hrc, hkept, hremoved⟩ := @getOcmbSensorcache_alike _ _ hw i 0 data (fun _ => 0) h hi (by decide) hc
  exact ⟨hrc, fun hz => hkept (hrc.trans hz), hremoved⟩

end Read

/-! ## The un-swizzle -/

section Unswizzle

variable {row : List Nat} {bar : BitVec 32} {n p l : Nat}

theorem flag_eq (i : Nat) : 0x80000000#32 >>> i = Mask.flag 32 i := rfl

/-- The columns so far have moved their bits. -/
theorem reorder_getMsbD (n : Nat) : (sweep (reorderStep row bar) ⟨0x02000000, 0⟩ n).mask = Mask.flag 32 (6 + n) ∧
    ∀ p, (sweep (reorderStep row bar) ⟨0x02000000, 0⟩ n).reordered.getMsbD p = true ↔
      ∃ l < n, row.getD l 0 = p ∧ p < 32 ∧ bar.getMsbD (6 + l) = true := by
  induction n with
  | zero =>
    refine ⟨rfl, fun p => ⟨fun h => ?_, fun ⟨l, hl, _⟩ => absurd hl (Nat.not_lt_zero l)⟩⟩
    rw [show (sweep (reorderStep row bar) ⟨0x02000000, 0⟩ 0).reordered = 0 from rfl] at h
    simp at h
  | succ n ih =>
    obtain ⟨hmask, hbits⟩ := ih
    rw [sweep]
    generalize sweep (reorderStep row bar) ⟨0x02000000, 0⟩ n = k at hmask hbits ⊢
    have hon : (k.mask &&& bar != 0) = bar.getMsbD (6 + n) := by
      rw [hmask, BitVec.and_comm]
      exact Mask.on_eq_getMsbD bar (6 + n)
    unfold reorderStep
    refine ⟨?_, fun p => ?_⟩
    · dsimp only
      rw [hmask, Mask.flag, Mask.flag, ← BitVec.shiftRight_add]
      rfl
    · dsimp only
      rw [hon]
      cases hbit : bar.getMsbD (6 + n) with
      | false =>
        rw [if_neg Bool.false_ne_true, hbits]
        constructor
        · rintro ⟨l, hl, hrest⟩
          exact ⟨l, Nat.lt_succ_of_lt hl, hrest⟩
        · rintro ⟨l, hl, hrow, hp, hset⟩
          obtain hlt | rfl := Nat.lt_or_eq_of_le (Nat.le_of_lt_succ hl)
          · exact ⟨l, hlt, hrow, hp, hset⟩
          · rw [hbit] at hset
            cases hset
      | true =>
        rw [if_pos rfl, BitVec.getMsbD_or, flag_eq, Mask.getMsbD_flag, Bool.or_eq_true, hbits, Bool.and_eq_true,
          decide_eq_true_iff, decide_eq_true_iff]
        constructor
        · rintro (⟨l, hl, hrest⟩ | ⟨hrow, hp⟩)
          · exact ⟨l, Nat.lt_succ_of_lt hl, hrest⟩
          · exact ⟨n, Nat.lt_succ_self n, hrow.symm, hp, hbit⟩
        · rintro ⟨l, hl, hrow, hp, hset⟩
          obtain hlt | rfl := Nat.lt_or_eq_of_le (Nat.le_of_lt_succ hl)
          · exact .inl ⟨l, hlt, hrow, hp, hset⟩
          · exact .inr ⟨hrow.symm, hp⟩

/-- A row moves the bits 6 to 13 among themselves. -/
def Permutes (row : List Nat) : Prop :=
  (∀ l < 8, 14 ≤ row.getD l 0 ∧ row.getD l 0 ≤ 21) ∧ ∀ l < 8, ∀ l' < 8, row.getD l 0 = row.getD l' 0 → l = l'

instance : Decidable (Permutes row) := inferInstanceAs (Decidable (_ ∧ _))

theorem extMaskReorder_permutes : ∀ rule ∈ extMaskReorder, Permutes rule.2 := by decide

theorem unswizzle_getMsbD : (unswizzle row bar).getMsbD p = true ↔
    (bar.getMsbD p = true ∧ (p < 6 ∨ 14 ≤ p)) ∨ ∃ l < 8, row.getD l 0 = p + 8 ∧ p + 8 < 32 ∧ bar.getMsbD (6 + l) = true := by
  have hmask : ∀ p < 32, (0xfc03ffff#32).getMsbD p = decide (p < 6 ∨ 14 ≤ p) := by decide
  unfold unswizzle
  rw [BitVec.getMsbD_or, BitVec.getMsbD_and, BitVec.getMsbD_shiftLeft, Bool.or_eq_true, Bool.and_eq_true,
    (reorder_getMsbD 8).2, Nat.add_comm p 8]
  refine or_congr_left (and_congr_right fun hbit => ?_)
  rw [hmask p (BitVec.lt_of_getMsbD hbit), decide_eq_true_iff]

theorem unswizzle_outside (h : Permutes row) (hp : p < 6 ∨ 14 ≤ p) : (unswizzle row bar).getMsbD p = bar.getMsbD p := by
  rw [Bool.eq_iff_iff, unswizzle_getMsbD]
  constructor
  · rintro (⟨hbit, -⟩ | ⟨l, hl, hrow, -, -⟩)
    · exact hbit
    · have hrange := h.1 l hl
      omega
  · intro hbit
    exact .inl ⟨hbit, hp⟩

theorem unswizzle_inside (h : Permutes row) (hl : l < 8) :
    (unswizzle row bar).getMsbD (row.getD l 0 - 8) = bar.getMsbD (6 + l) := by
  have hrange := h.1 l hl
  rw [Bool.eq_iff_iff, unswizzle_getMsbD]
  constructor
  · rintro (⟨-, hp⟩ | ⟨l', hl', hrow, -, hbit⟩)
    · omega
    · rw [h.2 l hl l' hl' (by omega)]
      exact hbit
  · intro hbit
    exact .inr ⟨l, hl, by omega, by omega, hbit⟩

theorem unswizzle_injective (h : Permutes row) : Function.Injective (unswizzle row) := by
  intro a b hab
  apply BitVec.eq_of_getMsbD_eq
  intro p hp
  by_cases hout : p < 6 ∨ 14 ≤ p
  · exact (unswizzle_outside h hout).symm.trans ((congrArg (BitVec.getMsbD · p) hab).trans (unswizzle_outside h hout))
  · have hl : p - 6 < 8 := by omega
    have hbits := (@unswizzle_inside _ a _ h hl).symm.trans ((congrArg (BitVec.getMsbD · _) hab).trans
      (@unswizzle_inside _ b _ h hl))
    rwa [show 6 + (p - 6) = p by omega] at hbits

theorem mmioBaseAddr_injective (h : Permutes row) : Function.Injective (mmioBaseAddr row) := by
  intro a b hab
  have hbar : unswizzle row (a.setWidth 32 <<< 1) = unswizzle row (b.setWidth 32 <<< 1) := by
    apply BitVec.eq_of_getLsbD_eq
    intro j hj
    have hbit := congrArg (BitVec.getLsbD · (j + 24)) hab
    simpa [mmioBaseAddr, hj, show 8 + (j + 24) - 32 = j by omega, show 8 + (j + 24) < 64 by omega,
      show ¬8 + (j + 24) < 32 by omega] using hbit
  have hgroup := unswizzle_injective h hbar
  apply BitVec.eq_of_getLsbD_eq
  intro j hj
  have hbit := congrArg (BitVec.getLsbD · (j + 1)) hgroup
  simpa [hj, show j + 1 < 32 by omega, show j < 32 by omega] using hbit

end Unswizzle

/-! ## The loop over the memory buffers -/

section Loop

variable {hw hw' : OcmbHw} {config : BitVec 32} {s : OcmbConfiguration} {k : DtsState} {n i j : Nat}

theorem dtsOf_getMsbD {data : Nat → BitVec 32} {sensor : Nat} (hi : i < 16) (hs : sensor < 3) :
    (dtsOf data i sensor).getMsbD j = true ↔ dtsPresent data sensor = true ∧ j = 4 * i + sensor := by
  have hflag : configDts sensor i = Mask.flag 64 (sensor + 4 * i) := by
    rw [configDts, Mask.flag, ← BitVec.shiftRight_add]
    rfl
  unfold dtsOf
  cases dtsPresent data sensor with
  | false =>
    rw [if_neg Bool.false_ne_true]
    simp
  | true =>
    rw [if_pos rfl, hflag, Mask.getMsbD_flag, Bool.and_eq_true, decide_eq_true_iff, decide_eq_true_iff]
    constructor
    · rintro ⟨rfl, -⟩
      exact ⟨rfl, Nat.add_comm _ _⟩
    · rintro ⟨-, rfl⟩
      exact ⟨Nat.add_comm _ _, by omega⟩

/-- The sensors of one memory buffer are added. -/
theorem dtsOf_all {x : BitVec 64} {data : Nat → BitVec 32} (hi : i < 16) :
    (x ||| dtsOf data i 0 ||| dtsOf data i 1 ||| dtsOf data i 2).getMsbD j = true ↔
      x.getMsbD j = true ∨ (j % 4 < 3 ∧ j / 4 = i ∧ dtsPresent data (j % 4) = true) := by
  rw [BitVec.getMsbD_or, BitVec.getMsbD_or, BitVec.getMsbD_or, Bool.or_eq_true, Bool.or_eq_true, Bool.or_eq_true,
    dtsOf_getMsbD hi (by decide), dtsOf_getMsbD hi (by decide), dtsOf_getMsbD hi (by decide)]
  constructor
  · rintro (((hx | ⟨hp, rfl⟩) | ⟨hp, rfl⟩) | ⟨hp, rfl⟩)
    · exact .inl hx
    · refine .inr ⟨by omega, by omega, ?_⟩
      rwa [show (4 * i + 0) % 4 = 0 by omega]
    · refine .inr ⟨by omega, by omega, ?_⟩
      rwa [show (4 * i + 1) % 4 = 1 by omega]
    · refine .inr ⟨by omega, by omega, ?_⟩
      rwa [show (4 * i + 2) % 4 = 2 by omega]
  · rintro (hx | ⟨hlt, hdiv, hp⟩)
    · exact .inl (.inl (.inl hx))
    · obtain h0 | h1 | h2 : j % 4 = 0 ∨ j % 4 = 1 ∨ j % 4 = 2 := by omega
      · rw [h0] at hp
        exact .inl (.inl (.inr ⟨hp, by omega⟩))
      · rw [h1] at hp
        exact .inl (.inr ⟨hp, by omega⟩)
      · rw [h2] at hp
        exact .inr ⟨hp, by omega⟩

/-- The return code of the last memory buffer of the configuration below `n`. -/
def lastRc (hw : OcmbHw) (s : OcmbConfiguration) : Nat → Nat
  | 0 => 0
  | n + 1 => if s.configured n then (hw.sensor n).rc else lastRc hw s n

theorem lastRc_cases (s : OcmbConfiguration) (n : Nat) : (∀ i < n, s.configured i = false) ∧ (∀ hw, lastRc hw s n = 0) ∨
    ∃ l < n, s.configured l = true ∧ ∀ hw, lastRc hw s n = (hw.sensor l).rc := by
  induction n with
  | zero => exact .inl ⟨fun i hi => absurd hi (Nat.not_lt_zero i), fun _ => rfl⟩
  | succ n ih =>
    cases hc : s.configured n with
    | true => exact .inr ⟨n, Nat.lt_succ_self n, hc, fun hw => if_pos hc⟩
    | false =>
      have hsame : ∀ hw, lastRc hw s (n + 1) = lastRc hw s n := fun hw => if_neg (by rw [hc]; decide)
      obtain ⟨hnone, hzero⟩ | ⟨l, hl, hlc, hrc⟩ := ih
      · refine .inl ⟨fun i hi => ?_, fun hw => (hsame hw).trans (hzero hw)⟩
        obtain hlt | rfl := Nat.lt_or_eq_of_le (Nat.le_of_lt_succ hi)
        · exact hnone i hlt
        · exact hc
      · exact .inr ⟨l, Nat.lt_succ_of_lt hl, hlc, fun hw => (hsame hw).trans (hrc hw)⟩

/-- The memory buffers below `n` have been read. -/
structure DtsInv (hw : OcmbHw) (s : OcmbConfiguration) (n : Nat) (k : DtsState) : Prop where
  membufType : k.cfg.membufType = .ocmb
  config : ∀ j, Mask.On k.cfg.config j = true ↔
    Mask.On s.config j = true ∧ ¬(16 ≤ j ∧ j - 16 < n ∧ (hw.sensor (j - 16)).rc ≠ 0)
  dts : ∀ j, k.cfg.dtsConfig.getMsbD j = true ↔ j % 4 < 3 ∧ j / 4 < n ∧ s.configured (j / 4) = true ∧
    (hw.sensor (j / 4)).rc = 0 ∧ dtsPresent (hw.sensor (j / 4)).data (j % 4) = true
  rc : k.rc = lastRc hw s n

theorem DtsInv.configured (h : DtsInv hw s n k) : k.cfg.configured n = s.configured n := by
  rw [configured_eq, configured_eq, Bool.eq_iff_iff, h.config]
  exact and_iff_left fun hno => by omega

theorem excluded_succ {R : Nat → Prop} (h : 16 ≤ j → j - 16 = n → ¬R (j - 16)) :
    ¬(16 ≤ j ∧ j - 16 < n + 1 ∧ R (j - 16)) ↔ ¬(16 ≤ j ∧ j - 16 < n ∧ R (j - 16)) := by
  refine not_congr ⟨?_, ?_⟩
  · rintro ⟨hj, hlt, hr⟩
    obtain hlt | heq := Nat.lt_succ_iff_lt_or_eq.1 hlt
    · exact ⟨hj, hlt, hr⟩
    · exact absurd hr (h hj heq)
  · rintro ⟨hj, hlt, hr⟩
    exact ⟨hj, Nat.lt_succ_of_lt hlt, hr⟩

theorem DtsInv.dts_succ (h : DtsInv hw s n k) (hno : s.configured n = true → (hw.sensor n).rc ≠ 0) :
    k.cfg.dtsConfig.getMsbD j = true ↔ j % 4 < 3 ∧ j / 4 < n + 1 ∧ s.configured (j / 4) = true ∧
      (hw.sensor (j / 4)).rc = 0 ∧ dtsPresent (hw.sensor (j / 4)).data (j % 4) = true := by
  rw [h.dts]
  constructor
  · rintro ⟨hj, hlt, hrest⟩
    exact ⟨hj, Nat.lt_succ_of_lt hlt, hrest⟩
  · rintro ⟨hj, hlt, hc, hrc, hpresent⟩
    obtain hlt | heq := Nat.lt_succ_iff_lt_or_eq.1 hlt
    · exact ⟨hj, hlt, hc, hrc, hpresent⟩
    · rw [heq] at hc hrc
      exact absurd hrc (hno hc)

theorem DtsInv.step (hn : n < 16) (h : DtsInv hw s n k) : DtsInv hw s (n + 1) (dtsStep hw k n) := by
  unfold dtsStep
  rw [h.configured]
  cases hc : s.configured n with
  | false =>
    rw [if_neg Bool.false_ne_true]
    refine ⟨h.membufType, fun j => ?_, fun j => h.dts_succ fun ht => absurd (hc.symm.trans ht) (by decide),
      h.rc.trans (if_neg (by rw [hc]; decide)).symm⟩
    rw [h.config, and_congr_right_iff]
    intro hon
    refine (excluded_succ (R := fun i => (hw.sensor i).rc ≠ 0) fun hj heq => ?_).symm
    rw [configured_eq, ← heq, Nat.add_sub_cancel' hj, hon] at hc
    cases hc
  | true =>
    rw [if_pos rfl]
    have hck := h.configured.trans hc
    obtain ⟨hrc, hkept, hremoved⟩ := @getOcmbSensorcache_spec _ (hw.sensor n) n k.escache h.membufType hn hck
    generalize getOcmbSensorcache (hw.sensor n) k.cfg.toMemBufConfiguration (some n) k.escache = cache at hrc hkept hremoved ⊢
    have hlast : lastRc hw s (n + 1) = (hw.sensor n).rc := if_pos hc
    dsimp only
    rw [hrc]
    split
    · rename_i hne
      refine ⟨?_, fun j => ?_, fun j => h.dts_succ fun _ => hne, hlast.symm⟩
      · rw [hremoved]
        exact h.membufType
      · dsimp only
        rw [hremoved, on_remove, Bool.and_eq_true, h.config, Bool.not_eq_true', decide_eq_false_iff_not]
        constructor
        · rintro ⟨⟨hon, hno⟩, hj⟩
          refine ⟨hon, fun ⟨h16, hlt, hr⟩ => ?_⟩
          obtain hlt | heq := Nat.lt_succ_iff_lt_or_eq.1 hlt
          · exact hno ⟨h16, hlt, hr⟩
          · omega
        · rintro ⟨hon, hno⟩
          refine ⟨⟨hon, fun ⟨h16, hlt, hr⟩ => hno ⟨h16, Nat.lt_succ_of_lt hlt, hr⟩⟩, fun hj => ?_⟩
          subst hj
          rw [Nat.add_sub_cancel_left] at hno
          exact hno ⟨Nat.le_add_right _ _, Nat.lt_succ_self n, hne⟩
    · rename_i hz
      rw [not_not] at hz
      obtain ⟨hcfg, hdata⟩ := hkept hz
      refine ⟨?_, fun j => ?_, fun j => ?_, ?_⟩
      · dsimp only
        rw [hcfg]
        exact h.membufType
      · dsimp only
        rw [hcfg, h.config, and_congr_right_iff]
        intro _
        refine (excluded_succ (R := fun i => (hw.sensor i).rc ≠ 0) fun _ heq hr => hr ?_).symm
        rw [heq]
        exact hz
      · dsimp only
        rw [dtsOf_all hn, h.dts, hdata]
        constructor
        · rintro (⟨hj, hlt, hrest⟩ | ⟨hj, rfl, hp⟩)
          · exact ⟨hj, Nat.lt_succ_of_lt hlt, hrest⟩
          · exact ⟨hj, Nat.lt_succ_self _, hc, hz, hp⟩
        · rintro ⟨hj, hlt, hconf, hr, hp⟩
          obtain hlt | rfl := Nat.lt_succ_iff_lt_or_eq.1 hlt
          · exact .inl ⟨hj, hlt, hconf, hr, hp⟩
          · exact .inr ⟨hj, rfl, hp⟩
      · rw [hlast, hz]

/-! ## The set-up -/

/-- What the channels do not change. -/
structure SameMembufs (config : BitVec 32) (cfg : OcmbConfiguration) : Prop where
  membufType : cfg.membufType = .ocmb
  configured : ∀ i, cfg.configured i = (clearedOcmbs config).configured i
  dtsConfig : cfg.dtsConfig = 0

theorem SameMembufs.channelStep {row : List Nat} {cfg : OcmbConfiguration} (hi : i < 8) (h : SameMembufs config cfg) :
    SameMembufs config (channelStep hw row cfg i) := by
  unfold Gpe1.channelStep
  dsimp only
  split
  · exact h
  · split
    · exact h
    · refine ⟨h.membufType, fun m => ?_, h.dtsConfig⟩
      have hflag : chipConfigMcs i = Mask.flag 32 i := by
        rw [chipConfigMcs, Mask.flag, ← BitVec.shiftRight_add, Nat.zero_add]
        rfl
      rw [← h.configured, configured_eq]
      show Mask.On (Mask.set cfg.config (chipConfigMcs i)) (16 + m) = _
      rw [hflag, Mask.on_set, decide_eq_false (by omega), Bool.false_and, Bool.or_false, configured_eq]

theorem setUpOcmbs_same : SameMembufs config (setUpOcmbs hw (clearedOcmbs config)).1 := by
  have hstart : SameMembufs config (clearedOcmbs config) := ⟨rfl, fun _ => rfl, rfl⟩
  unfold setUpOcmbs
  split
  · exact hstart
  · split
    · exact hstart
    · rename_i rule _
      have hall := @sweep_invariant _ (channelStep hw rule.2) _ 8 (fun _ cfg => SameMembufs config cfg) hstart
        fun i t hi ht => ht.channelStep hi
      exact ⟨hall.membufType, hall.configured, hall.dtsConfig⟩

theorem setUpOcmbs_permuted (f : Nat → Nat) : setUpOcmbs (hw.permuted f) = setUpOcmbs hw := rfl

/-! ## The whole creation -/

variable {stack : Nat → BitVec 32}

theorem create_of_fails (h : ¬SetsUp hw config) : gpeOcmbConfigurationCreate hw config stack =
    ({ (setUpOcmbs hw (clearedOcmbs config)).1 with configRc := (setUpOcmbs hw (clearedOcmbs config)).2 },
      (setUpOcmbs hw (clearedOcmbs config)).2) := if_pos h

theorem create_of_setsUp (h : SetsUp hw config) : ∃ k, DtsInv hw (setUpOcmbs hw (clearedOcmbs config)).1 16 k ∧
    gpeOcmbConfigurationCreate hw config stack = ({ k.cfg with configRc := k.rc }, k.rc) := by
  refine ⟨_, ?_, if_neg fun hne => hne h⟩
  have hsame := @setUpOcmbs_same hw config
  refine sweep_invariant (P := DtsInv hw (setUpOcmbs hw (clearedOcmbs config)).1) ?_ fun i t hi ht => ht.step hi
  refine ⟨hsame.membufType, fun j => ?_, fun j => ?_, rfl⟩
  · exact (and_iff_left fun hno => absurd hno.2.1 (Nat.not_lt_zero _)).symm
  · rw [hsame.dtsConfig]
    constructor
    · intro hbit
      simp at hbit
    · rintro ⟨-, hlt, -⟩
      exact absurd hlt (Nat.not_lt_zero _)

theorem create_rc (h : SetsUp hw config) (stack : Nat → BitVec 32) : (gpeOcmbConfigurationCreate hw config stack).2 =
    lastRc hw (setUpOcmbs hw (clearedOcmbs config)).1 16 := by
  obtain ⟨k, hk, heq⟩ := @create_of_setsUp hw config stack h
  rw [heq]
  exact hk.rc

theorem configured_lt {cfg : MemBufConfiguration} (h : cfg.configured i = true) : i < 16 := by
  rw [configured_eq, Mask.on_eq_getMsbD] at h
  have hlt := BitVec.lt_of_getMsbD h
  omega

theorem create_removed (j : Nat) : Mask.On (gpeOcmbConfigurationCreate hw config stack).1.config j = true ↔
    Mask.On (setUpOcmbs hw (clearedOcmbs config)).1.config j = true ∧ ¬(16 ≤ j ∧ OcmbUnread hw config (j - 16)) := by
  by_cases h : SetsUp hw config
  · obtain ⟨k, hk, heq⟩ := @create_of_setsUp hw config stack h
    rw [heq]
    dsimp only
    rw [hk.config, and_congr_right_iff]
    intro hon
    rw [Mask.on_eq_getMsbD] at hon
    have hlt := BitVec.lt_of_getMsbD hon
    refine not_congr (and_congr_right fun hj => ?_)
    exact ⟨fun hr => ⟨h, hr.2⟩, fun hr => ⟨by omega, hr.2⟩⟩
  · rw [create_of_fails h]
    exact (and_iff_left fun hno => h hno.2.1).symm

theorem create_dts (j : Nat) : (gpeOcmbConfigurationCreate hw config stack).1.dtsConfig.getMsbD j = true ↔
    SetsUp hw config ∧ j % 4 < 3 ∧ (gpeOcmbConfigurationCreate hw config stack).1.configured (j / 4) = true ∧
      dtsPresent (hw.sensor (j / 4)).data (j % 4) = true := by
  by_cases h : SetsUp hw config
  · have hleft : (gpeOcmbConfigurationCreate hw config stack).1.configured (j / 4) = true ↔
        (setUpOcmbs hw (clearedOcmbs config)).1.configured (j / 4) = true ∧ (hw.sensor (j / 4)).rc = 0 := by
      rw [configured_eq, create_removed, configured_eq, Nat.add_sub_cancel_left, and_congr_right_iff]
      intro _
      constructor
      · intro hno
        by_contra hr
        exact hno ⟨Nat.le_add_right _ _, h, hr⟩
      · rintro hr ⟨-, -, hne⟩
        exact hne hr
    rw [hleft]
    obtain ⟨k, hk, heq⟩ := @create_of_setsUp hw config stack h
    rw [heq]
    dsimp only
    rw [hk.dts]
    constructor
    · rintro ⟨hj, -, hc, hr, hp⟩
      exact ⟨h, hj, ⟨hc, hr⟩, hp⟩
    · rintro ⟨-, hj, ⟨hc, hr⟩, hp⟩
      exact ⟨hj, configured_lt hc, hc, hr, hp⟩
  · rw [create_of_fails h]
    dsimp only
    rw [setUpOcmbs_same.dtsConfig]
    constructor
    · intro hbit
      simp at hbit
    · rintro ⟨hs, -⟩
      exact absurd hs h

/-- The return code does not depend on which memory buffers fail where they are all alike, and only there. -/
theorem whichever_iff : (∀ σ : Nat ≃ Nat, (∀ i, (clearedOcmbs config).configured (σ i) = (clearedOcmbs config).configured i) →
    (gpeOcmbConfigurationCreate (hw.permuted σ) config stack).2 = (gpeOcmbConfigurationCreate hw config stack).2) ↔
    AllAlike hw config := by
  have hconf : ∀ i, (setUpOcmbs hw (clearedOcmbs config)).1.configured i = (clearedOcmbs config).configured i :=
    setUpOcmbs_same.configured
  by_cases h : SetsUp hw config
  · have hrc : ∀ f : Nat → Nat, (gpeOcmbConfigurationCreate (hw.permuted f) config stack).2 =
        lastRc (hw.permuted f) (setUpOcmbs hw (clearedOcmbs config)).1 16 := fun f => @create_rc (hw.permuted f) config h stack
    have hrc₀ := create_rc h stack
    obtain ⟨hnone, hzero⟩ | ⟨l, -, hl, hlast⟩ := lastRc_cases (setUpOcmbs hw (clearedOcmbs config)).1 16
    · constructor
      · intro _ _ i j hi
        rw [← hconf, hnone i (configured_lt hi)] at hi
        cases hi
      · intro _ σ _
        rw [hrc, hrc₀, hzero, hzero]
    · rw [hconf] at hl
      constructor
      · -- the last one and any other one change places
        intro hsame _
        have hall : ∀ i, (clearedOcmbs config).configured i = true → (hw.sensor i).rc = (hw.sensor l).rc := by
          intro i hi
          have hswap := hsame (Equiv.swap i l) fun m => by
            obtain rfl | hmi := eq_or_ne m i
            · rw [Equiv.swap_apply_left, hi, hl]
            · obtain rfl | hml := eq_or_ne m l
              · rw [Equiv.swap_apply_right, hi, hl]
              · rw [Equiv.swap_apply_of_ne_of_ne hmi hml]
          rw [hrc, hrc₀, hlast, hlast] at hswap
          have hsensor : ((hw.permuted (Equiv.swap i l)).sensor l).rc = (hw.sensor i).rc := by
            show (hw.sensor (Equiv.swap i l l)).rc = _
            rw [Equiv.swap_apply_right]
          exact hsensor.symm.trans hswap
        intro i j hi hj
        exact (hall i hi).trans (hall j hj).symm
      · intro hall σ hσ
        rw [hrc, hrc₀, hlast, hlast]
        exact hall h (σ l) l ((hσ l).trans hl) hl
  · refine ⟨fun _ hs => absurd hs h, fun _ σ _ => ?_⟩
    rw [create_of_fails h, @create_of_fails (hw.permuted σ) config stack h, setUpOcmbs_permuted]

/-- The creation keeps the law if and only if the memory buffers are all alike. -/
theorem createLaw_iff (hw : OcmbHw) (config : BitVec 32) (stack : Nat → BitVec 32) :
    CreateLaw hw config stack ↔ AllAlike hw config := by
  constructor
  · intro hlaw
    exact whichever_iff.1 hlaw.whichever
  · intro hall
    refine ⟨create_removed, create_dts, whichever_iff.2 hall, ?_, fun rule hrule => ?_⟩
    · unfold gpeOcmbConfigurationCreate
      dsimp only
      split <;> rfl
    · exact mmioBaseAddr_injective (extMaskReorder_permutes rule hrule)

end Loop

/-! ## Two memory buffers -/

def answers {α : Type} (x : α) : Inband α := ⟨0, 0, false, x⟩

/-- The sensor cache is enabled, without an error, and can be read. -/
def healthyCache : SensorHw := ⟨answers 0, answers (), answers (BitVec.allOnes 64), answers (), answers fun _ => 0⟩

/-- Two memory buffers on one channel, of which the second one cannot be read. -/
def secondFails : OcmbHw where
  pbMode := ⟨0, 0⟩
  mcfgpr i := if i = 0 then ⟨0, 0x4000000000000000⟩ else ⟨1, 0⟩
  mcsync _ := ⟨0, 0⟩
  barMaskPutRc := 0
  barPutRc := 0
  bar := ⟨0, 0⟩
  barMask := ⟨0, BitVec.allOnes 64⟩
  sensor i := if i = 1 then { healthyCache with packets := ⟨0, 0, true, fun _ => 0⟩ } else healthyCache

/-- The creation fails, and it does not when it is the first one that cannot be read. -/
theorem last_one_counts : ¬CreateLaw secondFails 0x0000C000 fun _ => 0 := by
  intro hlaw
  have hswap := hlaw.whichever (Equiv.swap 0 1) fun m => by
    obtain rfl | h0 := eq_or_ne m 0
    · decide
    · obtain rfl | h1 := eq_or_ne m 1
      · decide
      · rw [Equiv.swap_apply_of_ne_of_ne h0 h1]
  exact absurd hswap (by decide +kernel)

end Occ.Gpe1
