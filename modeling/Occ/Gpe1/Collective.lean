/-
What the loops over the memory buffers do at each of them: one step by its cases, and from it what the whole loop leaves
in the registers, the result and the configuration, and that it accesses no memory buffer that has failed.
-/
import Occ.Gpe1.MembufScom
import Mathlib.Algebra.Group.Nat.Even

namespace Occ.Gpe1

variable {bus : Bus} {m : Membufs} {i j n : Nat} {scom : BitVec 32}

/-! ## Byte order -/

/-- The bit that a bit is exchanged with when neighbouring blocks of `n` bits are. -/
def partner (n i : Nat) : Nat := if i / n % 2 = 0 then n + i else i - n

theorem getLsbD_exchange {x lo hi : BitVec 64} (hi64 : i < 64)
    (hlo : ∀ k < 64, lo.getLsbD k = decide (k / n % 2 = 0)) (hhi : ∀ k < 64, hi.getLsbD k = decide (k / n % 2 = 1)) :
    ((x <<< n &&& hi) ||| (x >>> n &&& lo)).getLsbD i = x.getLsbD (partner n i) := by
  simp only [BitVec.getLsbD_or, BitVec.getLsbD_and, BitVec.getLsbD_shiftLeft, BitVec.getLsbD_ushiftRight, hlo i hi64, hhi i hi64,
    hi64, decide_true, Bool.true_and, partner]
  rcases Nat.mod_two_eq_zero_or_one (i / n) with h | h
  · simp [h]
  · have hle : ¬ i < n := by
      intro hlt
      rw [Nat.div_eq_of_lt hlt] at h
      omega
    simp [h, hle]

theorem getLsbD_exchange_half (x : BitVec 64) (hi64 : i < 64) : (x <<< 32 ||| x >>> 32).getLsbD i = x.getLsbD (partner 32 i) := by
  simp only [BitVec.getLsbD_or, BitVec.getLsbD_shiftLeft, BitVec.getLsbD_ushiftRight, hi64, decide_true, Bool.true_and, partner]
  by_cases hlow : i < 32
  · have hblock : i / 32 % 2 = 0 := by omega
    simp [hlow, hblock]
  · have hblock : i / 32 % 2 = 1 := by omega
    have hout : 64 ≤ 32 + i := by omega
    simp [hlow, hblock, BitVec.getLsbD_of_ge x _ hout]

theorem getLsbD_swapU64 (x : BitVec 64) (hi : i < 64) : (swapU64 x).getLsbD i = x.getLsbD (8 * (7 - i / 8) + i % 8) := by
  have h32 : partner 32 i < 64 := by unfold partner; split <;> omega
  have h16 : partner 16 (partner 32 i) < 64 := by generalize partner 32 i = k at h32; unfold partner; split <;> omega
  have hrev : ∀ k < 64, partner 8 (partner 16 (partner 32 k)) = 8 * (7 - k / 8) + k % 8 := by decide
  rw [swapU64, getLsbD_exchange_half _ hi, getLsbD_exchange h32 (by decide) (by decide), getLsbD_exchange h16 (by decide) (by decide),
    hrev i hi]

theorem swapU64_swapU64 (x : BitVec 64) : swapU64 (swapU64 x) = x := by
  apply BitVec.eq_of_getLsbD_eq
  intro i hi
  rw [getLsbD_swapU64 _ hi, getLsbD_swapU64 _ (by omega)]
  congr 1
  omega

@[simp] theorem MemType.swap_swap (t : MemType) (x : BitVec 64) : t.swap (t.swap x) = x := by
  unfold MemType.swap
  split
  · rfl
  · exact swapU64_swapU64 x

theorem MemType.swap_zero (t : MemType) : t.swap 0 = 0 := by
  cases t <;> decide

/-! ## Frames -/

theorem configured_eq (cfg : MemBufConfiguration) (i : Nat) : cfg.configured i = Mask.On cfg.config (16 + i) := by
  rw [MemBufConfiguration.configured, Mask.On, BitVec.and_comm]
  congr 2
  rw [chipConfigMembuf, Mask.flag, ← BitVec.shiftRight_add]
  rfl

/-- Where the register of a memory buffer is. -/
def regAddr (cfg : MemBufConfiguration) (scom : BitVec 32) (i : Nat) : BitVec 64 :=
  busAddr (barOf (pbAddr cfg i scom)) (ociOf (pbAddr cfg i scom))

def Bus.sets (bus : Bus) (i : Nat) : Prop := bus.barRc i = 0 ∧ bus.barMaskRc i = 0

instance : Decidable (bus.sets i) := inferInstanceAs (Decidable (_ ∧ _))

/-- All but the BAR is as it was. -/
structure Untouched (m m' : Membufs) : Prop where
  cfg : m'.cfg = m.cfg
  regs : m'.regs = m.regs
  log : m'.log = m.log

theorem setup_cases (bus : Bus) (m : Membufs) (scom : BitVec 32) (i : Nat) :
    ∃ up, inbandScomSetup bus m i scom = up ∧ Untouched m up.m ∧
      (¬ bus.sets i ∧ up.rc ≠ 0 ∨ bus.sets i ∧ up.rc = 0 ∧ busAddr up.m.bar up.ociAddr = regAddr m.cfg scom i) := by
  refine ⟨_, rfl, ?_⟩
  unfold inbandScomSetup Bus.sets
  by_cases hbar : bus.barRc i = 0
  · rw [if_neg (by simp [hbar])]
    refine ⟨⟨rfl, rfl, rfl⟩, ?_⟩
    by_cases hmask : bus.barMaskRc i = 0
    · exact .inr ⟨⟨hbar, hmask⟩, hmask, rfl⟩
    · exact .inl ⟨fun h => hmask h.2, hmask⟩
  · rw [if_pos hbar]
    exact ⟨⟨rfl, rfl, rfl⟩, .inl ⟨fun h => hbar h.1, hbar⟩⟩

/-- What no access changes of the configuration. -/
def MemBufConfiguration.base (cfg : MemBufConfiguration) : MemType × (Nat → BitVec 64) := (cfg.membufType, cfg.baseAddress)

theorem regAddr_congr {cfg cfg' : MemBufConfiguration} (h : cfg.base = cfg'.base) : regAddr cfg scom i = regAddr cfg' scom i := by
  obtain ⟨htype, hbase⟩ := Prod.mk.inj h
  simp only [regAddr, pbAddr, htype, hbase]

section
variable {kind : AccessKind} {o : Outcome} {oci : BitVec 32} {data : BitVec 64}

@[simp] theorem pollError_base : (pollError m i kind o).cfg.base = m.cfg.base := by
  unfold pollError
  cases o <;> rfl

@[simp] theorem pollError_regs : (pollError m i kind o).regs = m.regs := rfl

@[simp] theorem configured_pollError :
    (pollError m i kind o).cfg.configured j = (m.cfg.configured j && !(o.fails && decide (j = i))) := by
  unfold pollError
  cases o.fails
  · simp
  · have hflag : chipConfigMembuf i = Mask.flag 32 (16 + i) := by
      rw [chipConfigMembuf, Mask.flag, ← BitVec.shiftRight_add]
      rfl
    simp only [configured_eq, if_true, hflag]
    rw [← Mask.clr, Mask.on_clr]
    simp

@[simp] theorem inbandAccess_base : (inbandAccess bus m i oci data kind).m.cfg.base = m.cfg.base := by
  cases kind <;> simp [inbandAccess]

/-- How an access of a kind ends. -/
def Bus.outcome (bus : Bus) (i : Nat) : AccessKind → Outcome
  | .read => bus.read i
  | .write => bus.write i

@[simp] theorem configured_inbandAccess :
    (inbandAccess bus m i oci data kind).m.cfg.configured j =
      (m.cfg.configured j && !((bus.outcome i kind).fails && decide (j = i))) := by
  cases kind <;> simp [inbandAccess, Bus.outcome]

theorem inbandAccess_rc : (inbandAccess bus m i oci data kind).rc = accessRc (bus.outcome i kind) := by
  cases kind <;> rfl

theorem accessRc_eq_zero : accessRc o = 0 ↔ o.fails = false := by
  unfold accessRc
  cases o.fails <;> simp [membufChannelCheckstop]

theorem inbandAccess_regs_of_ne (h : j ≠ i) : (inbandAccess bus m i oci data kind).m.regs j = m.regs j := by
  cases kind
  · simp [inbandAccess]
  · simp [inbandAccess, h]

@[simp] theorem inbandAccess_read_regs : (inbandAccess bus m i oci data .read).m.regs = m.regs := rfl

end

/-! ## Runs: a failed memory buffer is not accessed again -/

/-- No access goes to a memory buffer that had failed before. -/
def NoneAgain (log : List Access) : Prop := log.Pairwise fun later earlier => earlier.fails = true → later.membuf ≠ earlier.membuf

/-- What is known of the history: a memory buffer that has failed is not configured. -/
structure LogInv (m : Membufs) : Prop where
  noneAgain : NoneAgain m.log
  removed : ∀ e ∈ m.log, e.fails = true → m.cfg.configured e.membuf = false

theorem LogInv.congr {m' : Membufs} (h : LogInv m) (hcfg : m'.cfg = m.cfg) (hlog : m'.log = m.log) : LogInv m' := by
  obtain ⟨hnone, hremoved⟩ := h
  constructor
  · rwa [hlog]
  · rwa [hlog, hcfg]

theorem LogInv.pollError {kind : AccessKind} {o : Outcome} (h : LogInv m) (hconf : m.cfg.configured i = true) :
    LogInv (pollError m i kind o) := by
  constructor
  · refine List.Pairwise.cons ?_ h.noneAgain
    rintro e he hfails rfl
    rw [h.removed e he hfails] at hconf
    contradiction
  · rintro e he hfails
    rw [configured_pollError]
    rcases List.mem_cons.mp he with rfl | he
    · simp only at hfails
      simp [hfails]
    · rw [h.removed e he hfails, Bool.false_and]

theorem LogInv.inbandAccess {kind : AccessKind} {oci : BitVec 32} {data : BitVec 64} (h : LogInv m)
    (hconf : m.cfg.configured i = true) : LogInv (inbandAccess bus m i oci data kind).m := by
  cases kind
  · exact h.pollError hconf
  · exact LogInv.pollError (m := { m with regs := _ }) (h.congr rfl rfl) hconf

theorem LogInv.untouched {m' : Membufs} (h : LogInv m) (hm : Untouched m m') : LogInv m' := h.congr hm.cfg hm.log

/-! ## `membuf_get_scom_vector` -/

section
variable {k : GetState}

theorem getStep_cases (bus : Bus) (scom : BitVec 32) (k : GetState) (i : Nat) :
    (k.m.cfg.configured i = false ∧ getStep bus scom k i = { k with out := Function.update k.out i 0 }) ∨
    (k.m.cfg.configured i = true ∧ ∃ up : SetUp, Untouched k.m up.m ∧
      (¬ bus.sets i ∧ up.rc ≠ 0 ∧ getStep bus scom k i = ⟨up.m, up.rc, Function.update k.out i 0⟩ ∨
      bus.sets i ∧ busAddr up.m.bar up.ociAddr = regAddr k.m.cfg scom i ∧ ∃ a,
        a = inbandAccess bus up.m i up.ociAddr (k.out i) .read ∧
        getStep bus scom k i = if k.rc = 0 ∧ a.rc ≠ 0 then ⟨a.m, a.rc, Function.update k.out i 0⟩
          else ⟨a.m, k.rc, Function.update k.out i a.data⟩)) := by
  cases hconf : k.m.cfg.configured i
  · simp [getStep, hconf]
  · obtain ⟨up, hup, huntouched, ⟨hsets, hrc⟩ | ⟨hsets, hrc, haddr⟩⟩ := setup_cases bus k.m scom i
    · refine .inr ⟨rfl, up, huntouched, .inl ⟨hsets, hrc, ?_⟩⟩
      simp only [getStep, hconf, hup, if_true, if_pos hrc]
    · refine .inr ⟨rfl, up, huntouched, .inr ⟨hsets, haddr, _, rfl, ?_⟩⟩
      simp only [getStep, hconf, hup, if_true, hrc, ne_eq, not_true, if_false]

theorem getStep_logInv (h : LogInv k.m) : LogInv (getStep bus scom k i).m := by
  rcases getStep_cases bus scom k i with ⟨_, he⟩ | ⟨hconf, up, hup, ⟨_, _, he⟩ | ⟨_, _, a, rfl, he⟩⟩
  · rwa [he]
  · rw [he]
    exact h.untouched hup
  · have ha := @LogInv.inbandAccess bus _ _ .read up.ociAddr (k.out i) (h.untouched hup)
      (by rwa [hup.cfg])
    rw [he]
    split
    · exact ha
    · exact ha

/-- What a step can change at a memory buffer. -/
def GetState.part (k : GetState) (i : Nat) : Bool × (BitVec 64 → BitVec 64) × BitVec 64 :=
  (k.m.cfg.configured i, k.m.regs i, k.out i)

theorem getStep_part_of_ne (h : j ≠ i) : (getStep bus scom k i).part j = k.part j := by
  unfold GetState.part
  rcases getStep_cases bus scom k i with ⟨_, he⟩ | ⟨_, up, hup, ⟨_, _, he⟩ | ⟨_, _, a, rfl, he⟩⟩
  · simp [he, h]
  · simp [he, h, hup.cfg, hup.regs]
  · rw [he]
    split <;> simp [h, hup.cfg, hup.regs]

@[simp] theorem getStep_base : (getStep bus scom k i).m.cfg.base = k.m.cfg.base := by
  rcases getStep_cases bus scom k i with ⟨_, he⟩ | ⟨_, up, hup, ⟨_, _, he⟩ | ⟨_, _, a, rfl, he⟩⟩
  · rw [he]
  · rw [he, hup.cfg]
  · rw [he]
    split <;> simp [hup.cfg]

theorem getStep_regs : (getStep bus scom k i).m.regs = k.m.regs := by
  rcases getStep_cases bus scom k i with ⟨_, he⟩ | ⟨_, up, hup, ⟨_, _, he⟩ | ⟨_, _, a, rfl, he⟩⟩
  · rw [he]
  · rw [he, hup.regs]
  · rw [he]
    split <;> simp [hup.regs]

theorem getStep_configured : (getStep bus scom k i).m.cfg.configured i =
    (k.m.cfg.configured i && !(decide (bus.sets i) && (bus.read i).fails)) := by
  rcases getStep_cases bus scom k i with ⟨hc, he⟩ | ⟨hc, up, hup, ⟨hs, _, he⟩ | ⟨hs, _, a, rfl, he⟩⟩
  · rw [he, hc, Bool.false_and]
  · simp [he, hc, hup.cfg, hs]
  · rw [he]
    split <;> simp [hc, hs, hup.cfg, Bus.outcome]

theorem getStep_rc : (getStep bus scom k i).rc ≠ 0 ↔
    k.rc ≠ 0 ∨ k.m.cfg.configured i = true ∧ (¬ bus.sets i ∨ (bus.read i).fails = true) := by
  rcases getStep_cases bus scom k i with ⟨hc, he⟩ | ⟨hc, up, hup, ⟨hs, hrc, he⟩ | ⟨hs, _, a, rfl, he⟩⟩
  · simp [he, hc]
  · simp [he, hc, hs, hrc]
  · have hrc : (inbandAccess bus up.m i up.ociAddr (k.out i) .read).rc ≠ 0 ↔ (bus.read i).fails = true := by
      rw [inbandAccess_rc, ne_eq, accessRc_eq_zero, Bus.outcome, Bool.not_eq_false]
    rw [he]
    by_cases hk : k.rc = 0
    · by_cases hfails : (bus.read i).fails = true
      · simp [hk, hc, hfails, hrc.mpr hfails]
      · have hdone : (inbandAccess bus up.m i up.ociAddr (k.out i) .read).rc = 0 := not_not.mp fun h => hfails (hrc.mp h)
        simp [hk, hs, hfails, hdone]
    · simp [hk]

/-- What a read leaves in the entry. -/
theorem getStep_out : (getStep bus scom k i).out i =
    if k.m.cfg.configured i = true ∧ bus.sets i then
      match bus.read i with
      | .done => k.m.cfg.membufType.swap (k.m.regs i (regAddr k.m.cfg scom i))
      | .failed left => if k.rc = 0 then 0 else k.m.cfg.membufType.swap left
    else 0 := by
  rcases getStep_cases bus scom k i with ⟨hc, he⟩ | ⟨hc, up, hup, ⟨hs, hrc, he⟩ | ⟨hs, haddr, a, rfl, he⟩⟩
  · simp [he, hc]
  · simp [he, hs]
  · rw [he, if_pos (And.intro hc hs)]
    cases ho : bus.read i with
    | done =>
      have hrc : (inbandAccess bus up.m i up.ociAddr (k.out i) .read).rc = 0 := by
        simp [inbandAccess, ho, accessRc, Outcome.fails]
      rw [if_neg (by simp [hrc])]
      simp [inbandAccess, ho, hup.cfg, hup.regs, haddr]
    | failed left =>
      have hrc : (inbandAccess bus up.m i up.ociAddr (k.out i) .read).rc ≠ 0 := by
        simp [inbandAccess, ho, accessRc, Outcome.fails, membufChannelCheckstop]
      by_cases hk : k.rc = 0
      · simp [hk, hrc]
      · simp [hk, inbandAccess, ho, hup.cfg]

end

section
variable {k : PutState}

/-! ## `membuf_put_scom_all` -/

theorem putStep_cases (bus : Bus) (scom : BitVec 32) (k : PutState) (i : Nat) :
    (k.m.cfg.configured i = false ∧ putStep bus scom k i = k) ∨
    (k.m.cfg.configured i = true ∧ ∃ up : SetUp, Untouched k.m up.m ∧
      (¬ bus.sets i ∧ putStep bus scom k i = ⟨up.m, up.rc, k.data⟩ ∨
      bus.sets i ∧ busAddr up.m.bar up.ociAddr = regAddr k.m.cfg scom i ∧ ∃ a,
        a = inbandAccess bus up.m i up.ociAddr k.data .write ∧ ∃ rc, putStep bus scom k i = ⟨a.m, rc, a.data⟩)) := by
  cases hconf : k.m.cfg.configured i
  · simp [putStep, hconf]
  · obtain ⟨up, hup, huntouched, ⟨hsets, hrc⟩ | ⟨hsets, hrc, haddr⟩⟩ := setup_cases bus k.m scom i
    · refine .inr ⟨rfl, up, huntouched, .inl ⟨hsets, ?_⟩⟩
      simp only [putStep, hconf, hup, if_true, if_pos hrc]
    · refine .inr ⟨rfl, up, huntouched, .inr ⟨hsets, haddr, _, rfl, ?_⟩⟩
      simp only [putStep, hconf, hup, if_true, hrc, ne_eq, not_true, if_false]
      exact ⟨_, rfl⟩

theorem putStep_logInv (h : LogInv k.m) : LogInv (putStep bus scom k i).m := by
  rcases putStep_cases bus scom k i with ⟨_, he⟩ | ⟨hconf, up, hup, ⟨_, he⟩ | ⟨_, _, a, rfl, rc, he⟩⟩
  · rwa [he]
  · rw [he]
    exact h.untouched hup
  · rw [he]
    exact (h.untouched hup).inbandAccess (by rwa [hup.cfg])

/-- What a step can change at a memory buffer. -/
def Membufs.part (m : Membufs) (i : Nat) : Bool × (BitVec 64 → BitVec 64) := (m.cfg.configured i, m.regs i)

theorem putStep_part_of_ne (h : j ≠ i) : (putStep bus scom k i).m.part j = k.m.part j := by
  unfold Membufs.part
  rcases putStep_cases bus scom k i with ⟨_, he⟩ | ⟨_, up, hup, ⟨_, he⟩ | ⟨_, _, a, rfl, rc, he⟩⟩
  · rw [he]
  · rw [he, hup.cfg, hup.regs]
  · rw [he, inbandAccess_regs_of_ne h, hup.regs]
    simp [h, hup.cfg]

@[simp] theorem putStep_base : (putStep bus scom k i).m.cfg.base = k.m.cfg.base := by
  rcases putStep_cases bus scom k i with ⟨_, he⟩ | ⟨_, up, hup, ⟨_, he⟩ | ⟨_, _, a, rfl, rc, he⟩⟩
  · rw [he]
  · rw [he, hup.cfg]
  · rw [he, inbandAccess_base, hup.cfg]

theorem putStep_configured : (putStep bus scom k i).m.cfg.configured i =
    (k.m.cfg.configured i && !(decide (bus.sets i) && (bus.write i).fails)) := by
  rcases putStep_cases bus scom k i with ⟨hc, he⟩ | ⟨hc, up, hup, ⟨hs, he⟩ | ⟨hs, _, a, rfl, rc, he⟩⟩
  · rw [he, hc, Bool.false_and]
  · simp [he, hup.cfg, hc, hs]
  · simp [he, hup.cfg, hc, hs, Bus.outcome]

theorem putStep_data : (putStep bus scom k i).data =
    if k.m.cfg.configured i = true ∧ bus.sets i then k.m.cfg.membufType.swap k.data else k.data := by
  rcases putStep_cases bus scom k i with ⟨hc, he⟩ | ⟨hc, up, hup, ⟨hs, he⟩ | ⟨hs, _, a, rfl, rc, he⟩⟩
  · simp [he, hc]
  · simp [he, hs]
  · simp [he, hc, hs, inbandAccess, hup.cfg]

theorem putStep_regs (hc : k.m.cfg.configured i = true) (hs : bus.sets i) (ho : bus.write i = .done) :
    (putStep bus scom k i).m.regs i (regAddr k.m.cfg scom i) = k.m.cfg.membufType.swap k.data := by
  rcases putStep_cases bus scom k i with ⟨hc', _⟩ | ⟨_, up, hup, ⟨hs', _⟩ | ⟨_, haddr, a, rfl, rc, he⟩⟩
  · rw [hc] at hc'
    contradiction
  · contradiction
  · simp [he, inbandAccess, ho, haddr, pollError_regs, hup.cfg]

end

/-! ## `membuf_scom_rmw_all` -/

section
variable {k : RmwState} {mask data : BitVec 64}

/-- What a step does: the memory buffer is not configured, its set-up fails, its read fails, or it is written. -/
theorem rmwStep_cases (bus : Bus) (scom : BitVec 32) (mask data : BitVec 64) (k : RmwState) (i : Nat) :
    (k.m.cfg.configured i = false ∧ rmwStep bus scom mask data k i = k) ∨
    (k.m.cfg.configured i = true ∧ ∃ up : SetUp, Untouched k.m up.m ∧
      (¬ bus.sets i ∧ (rmwStep bus scom mask data k i).m = up.m ∨
      bus.sets i ∧ busAddr up.m.bar up.ociAddr = regAddr k.m.cfg scom i ∧ ∃ r,
        r = inbandAccess bus up.m i up.ociAddr 0 .read ∧
        ((bus.read i).fails = true ∧ (rmwStep bus scom mask data k i).m = r.m ∨
        bus.read i = .done ∧ (rmwStep bus scom mask data k i).m =
          (inbandAccess bus r.m i up.ociAddr (r.data &&& (mask ^^^ 0xffffffffffffffff) ||| data) .write).m))) := by
  cases hconf : k.m.cfg.configured i
  · simp [rmwStep, hconf]
  · obtain ⟨up, hup, huntouched, ⟨hsets, hrc⟩ | ⟨hsets, hrc, haddr⟩⟩ := setup_cases bus k.m scom i
    · refine .inr ⟨rfl, up, huntouched, .inl ⟨hsets, ?_⟩⟩
      simp only [rmwStep, hconf, hup, if_true, if_pos hrc]
    · refine .inr ⟨rfl, up, huntouched, .inr ⟨hsets, haddr, _, rfl, ?_⟩⟩
      simp only [rmwStep, hconf, hup, if_true, hrc, ne_eq, not_true, if_false]
      cases ho : bus.read i with
      | done =>
        have hread : (inbandAccess bus up.m i up.ociAddr 0 .read).rc = 0 := by
          rw [inbandAccess_rc, accessRc_eq_zero, Bus.outcome, ho]
          rfl
        right
        exact ⟨rfl, by rw [if_pos hread]⟩
      | failed left =>
        have hread : (inbandAccess bus up.m i up.ociAddr 0 .read).rc ≠ 0 := by
          rw [inbandAccess_rc, ne_eq, accessRc_eq_zero, Bus.outcome, ho]
          simp [Outcome.fails]
        left
        exact ⟨rfl, by rw [if_neg hread]⟩

theorem rmwStep_logInv (h : LogInv k.m) : LogInv (rmwStep bus scom mask data k i).m := by
  rcases rmwStep_cases bus scom mask data k i with
    ⟨_, he⟩ | ⟨hconf, up, hup, ⟨_, he⟩ | ⟨_, _, r, rfl, ⟨_, he⟩ | ⟨ho, he⟩⟩⟩
  · rwa [he]
  · rw [he]
    exact h.untouched hup
  · rw [he]
    exact (h.untouched hup).inbandAccess (by rwa [hup.cfg])
  · rw [he]
    apply ((h.untouched hup).inbandAccess (by rwa [hup.cfg])).inbandAccess
    -- the read did not fail, so that the memory buffer is still configured
    simp [Bus.outcome, ho, Outcome.fails, hup.cfg, hconf]

theorem rmwStep_part_of_ne (h : j ≠ i) : (rmwStep bus scom mask data k i).m.part j = k.m.part j := by
  unfold Membufs.part
  rcases rmwStep_cases bus scom mask data k i with
    ⟨_, he⟩ | ⟨hconf, up, hup, ⟨_, he⟩ | ⟨_, _, r, rfl, ⟨_, he⟩ | ⟨ho, he⟩⟩⟩
  · rw [he]
  · rw [he, hup.cfg, hup.regs]
  · rw [he, inbandAccess_regs_of_ne h, hup.regs]
    simp [h, hup.cfg]
  · rw [he, inbandAccess_regs_of_ne h, inbandAccess_regs_of_ne h, hup.regs]
    simp [h, hup.cfg]

@[simp] theorem rmwStep_base : (rmwStep bus scom mask data k i).m.cfg.base = k.m.cfg.base := by
  rcases rmwStep_cases bus scom mask data k i with
    ⟨_, he⟩ | ⟨hconf, up, hup, ⟨_, he⟩ | ⟨_, _, r, rfl, ⟨_, he⟩ | ⟨ho, he⟩⟩⟩
  · rw [he]
  · rw [he, hup.cfg]
  · rw [he, inbandAccess_base, hup.cfg]
  · rw [he, inbandAccess_base, inbandAccess_base, hup.cfg]

theorem rmwStep_configured : (rmwStep bus scom mask data k i).m.cfg.configured i =
    (k.m.cfg.configured i && !(decide (bus.sets i) && ((bus.read i).fails || (bus.write i).fails))) := by
  rcases rmwStep_cases bus scom mask data k i with
    ⟨hc, he⟩ | ⟨hc, up, hup, ⟨hs, he⟩ | ⟨hs, _, r, rfl, ⟨ho, he⟩ | ⟨ho, he⟩⟩⟩
  · rw [he, hc, Bool.false_and]
  · simp [he, hup.cfg, hc, hs]
  · simp [he, hup.cfg, hc, hs, Bus.outcome, ho]
  · simp [he, hup.cfg, hc, hs, Bus.outcome, ho, Outcome.fails]

theorem rmwStep_regs (hc : k.m.cfg.configured i = true) (hs : bus.sets i) (hr : bus.read i = .done) (hw : bus.write i = .done) :
    (rmwStep bus scom mask data k i).m.regs i (regAddr k.m.cfg scom i) = k.m.cfg.membufType.swap
      (k.m.cfg.membufType.swap (k.m.regs i (regAddr k.m.cfg scom i)) &&& ~~~mask ||| data) := by
  rcases rmwStep_cases bus scom mask data k i with
    ⟨hc', _⟩ | ⟨_, up, hup, ⟨hs', _⟩ | ⟨_, haddr, r, rfl, ⟨ho, _⟩ | ⟨_, he⟩⟩⟩
  · rw [hc] at hc'
    contradiction
  · contradiction
  · rw [hr] at ho
    simp [Outcome.fails] at ho
  · have hmask : mask ^^^ 0xffffffffffffffff = ~~~mask := by
      rw [show (0xffffffffffffffff : BitVec 64) = BitVec.allOnes 64 from rfl, BitVec.xor_allOnes]
    rw [← hmask]
    simp [he, inbandAccess, hr, hw, pollError, Outcome.fails, haddr, hup.cfg, hup.regs]

end

/-! ## Whole calls -/

section
variable {out : Nat → BitVec 64} {data mask : BitVec 64}

theorem base_sweep {σ : Type} {step : σ → Nat → σ} {mem : σ → Membufs} {s : σ} (n : Nat)
    (hstep : ∀ k i, (mem (step k i)).cfg.base = (mem k).cfg.base) : (mem (sweep step s n)).cfg.base = (mem s).cfg.base :=
  sweep_invariant (P := fun _ k => (mem k).cfg.base = (mem s).cfg.base) rfl fun i t _ h => (hstep t i).trans h

theorem logInv_sweep {σ : Type} {step : σ → Nat → σ} {mem : σ → Membufs} {s : σ} (n : Nat)
    (hstep : ∀ k i, LogInv (mem k) → LogInv (mem (step k i))) (h : LogInv (mem s)) : LogInv (mem (sweep step s n)) :=
  sweep_invariant (P := fun _ k => LogInv (mem k)) h fun i t _ h => hstep t i h

theorem getSweep_before (i : Nat) :
    (sweep (getStep bus scom) ⟨m, 0, out⟩ i).m.cfg.configured i = m.cfg.configured i ∧
      (sweep (getStep bus scom) ⟨m, 0, out⟩ i).m.regs i = m.regs i ∧
      (sweep (getStep bus scom) ⟨m, 0, out⟩ i).m.cfg.base = m.cfg.base := by
  have hpart : (sweep (getStep bus scom) ⟨m, 0, out⟩ i).part i = GetState.part ⟨m, 0, out⟩ i :=
    view_sweep_of_le (fun _ _ _ => getStep_part_of_ne) le_rfl
  simp only [GetState.part, Prod.mk.injEq] at hpart
  exact ⟨hpart.1, hpart.2.1, @base_sweep _ _ GetState.m _ i fun _ _ => getStep_base⟩

theorem getSweep_rc (n : Nat) : (sweep (getStep bus scom) ⟨m, 0, out⟩ n).rc ≠ 0 ↔
    ∃ j < n, m.cfg.configured j = true ∧ (¬ bus.sets j ∨ (bus.read j).fails = true) := by
  induction n with
  | zero => simp [sweep]
  | succ n ih =>
    rw [sweep, getStep_rc, ih, getSweep_before n |>.1]
    constructor
    · rintro (⟨j, hj, h⟩ | h)
      · exact ⟨j, by omega, h⟩
      · exact ⟨n, by omega, h⟩
    · rintro ⟨j, hj, h⟩
      rcases Nat.lt_succ_iff_lt_or_eq.mp hj with hj | rfl
      · exact .inl ⟨j, hj, h⟩
      · exact .inr h

/-- Something has failed before a position. -/
def EarlierFailure (bus : Bus) (m : Membufs) (i : Nat) : Prop :=
  ∃ j < i, m.cfg.configured j = true ∧ (¬ bus.sets j ∨ (bus.read j).fails = true)

theorem getVector_out_of_fails {left : BitVec 64} (hi : i < m.cfg.membufType.maxMb) (hc : m.cfg.configured i = true)
    (hs : bus.sets i) (ho : bus.read i = .failed left) :
    ((membufGetScomVector bus m scom out).out i = 0 ↔ (EarlierFailure bus m i → left = 0)) := by
  obtain ⟨hconf, hregs, hbase⟩ := @getSweep_before bus m scom out i
  have hview : (membufGetScomVector bus m scom out).part i = _ :=
    view_sweep_of_lt (fun _ _ _ => getStep_part_of_ne) hi
  simp only [GetState.part, Prod.mk.injEq] at hview
  rw [hview.2.2, getStep_out, if_pos (And.intro (hconf.trans hc) hs), ho]
  have hrc := @getSweep_rc bus m scom out i
  rw [← EarlierFailure] at hrc
  by_cases hearlier : EarlierFailure bus m i
  · simp only [if_neg (hrc.mpr hearlier), hearlier, true_implies]
    constructor
    · intro h
      rw [← MemType.swap_swap _ left, h, MemType.swap_zero]
    · rintro rfl
      exact MemType.swap_zero _
  · have hzero : (sweep (getStep bus scom) ⟨m, 0, out⟩ i).rc = 0 := not_not.mp fun h => hearlier (hrc.mp h)
    simp [hzero, hearlier]

theorem getVector_out_of_done (hi : i < m.cfg.membufType.maxMb) (hc : m.cfg.configured i = true) (hs : bus.sets i)
    (ho : bus.read i = .done) :
    (membufGetScomVector bus m scom out).out i = m.cfg.membufType.swap (m.regs i (regAddr m.cfg scom i)) := by
  obtain ⟨hconf, hregs, hbase⟩ := @getSweep_before bus m scom out i
  have hview : (membufGetScomVector bus m scom out).part i = _ :=
    view_sweep_of_lt (fun _ _ _ => getStep_part_of_ne) hi
  simp only [GetState.part, Prod.mk.injEq] at hview
  rw [hview.2.2, getStep_out, if_pos (And.intro (hconf.trans hc) hs), ho, hregs, regAddr_congr hbase]
  rw [(Prod.mk.inj hbase).1]

theorem getVector_out_of_not (hi : i < m.cfg.membufType.maxMb) (h : ¬ (m.cfg.configured i = true ∧ bus.sets i)) :
    (membufGetScomVector bus m scom out).out i = 0 := by
  have hview : (membufGetScomVector bus m scom out).part i = _ :=
    view_sweep_of_lt (fun _ _ _ => getStep_part_of_ne) hi
  simp only [GetState.part, Prod.mk.injEq] at hview
  rw [hview.2.2, getStep_out, (getSweep_before i).1, if_neg h]

theorem getVector_configured (i : Nat) : (membufGetScomVector bus m scom out).m.cfg.configured i =
    (m.cfg.configured i && !(decide (i < m.cfg.membufType.maxMb) && (decide (bus.sets i) && (bus.read i).fails))) := by
  by_cases hi : i < m.cfg.membufType.maxMb
  · have hview : (membufGetScomVector bus m scom out).part i = _ :=
      view_sweep_of_lt (fun _ _ _ => getStep_part_of_ne) hi
    simp only [GetState.part, Prod.mk.injEq] at hview
    rw [hview.1, getStep_configured, (getSweep_before i).1]
    simp [hi]
  · have hview : (membufGetScomVector bus m scom out).part i = GetState.part ⟨m, 0, out⟩ i :=
      view_sweep_of_le (fun _ _ _ => getStep_part_of_ne) (by omega)
    simp only [GetState.part, Prod.mk.injEq] at hview
    rw [hview.1]
    simp [hi]

theorem putSweep_before (i : Nat) :
    (sweep (putStep bus scom) ⟨m, 0, data⟩ i).m.cfg.configured i = m.cfg.configured i ∧
      (sweep (putStep bus scom) ⟨m, 0, data⟩ i).m.cfg.base = m.cfg.base := by
  have hpart : (sweep (putStep bus scom) ⟨m, 0, data⟩ i).m.part i = m.part i :=
    @view_sweep_of_le _ _ _ _ _ _ (fun k : PutState => k.m.part) (fun _ _ _ => putStep_part_of_ne) le_rfl
  simp only [Membufs.part, Prod.mk.injEq] at hpart
  exact ⟨hpart.1, @base_sweep _ _ PutState.m _ i fun _ _ => putStep_base⟩

theorem putSweep_data (n : Nat) : (sweep (putStep bus scom) ⟨m, 0, data⟩ n).data =
    if Even ((List.range n).countP fun j => m.cfg.configured j = true ∧ bus.sets j) then data else m.cfg.membufType.swap data := by
  induction n with
  | zero => simp [sweep]
  | succ n ih =>
    obtain ⟨hconf, hbase⟩ := @putSweep_before bus m scom data n
    have htype : (sweep (putStep bus scom) ⟨m, 0, data⟩ n).m.cfg.membufType = m.cfg.membufType := (Prod.mk.inj hbase).1
    rw [sweep, putStep_data, hconf, htype, ih, List.range_succ, List.countP_append, List.countP_singleton]
    by_cases hreach : m.cfg.configured n = true ∧ bus.sets n
    · simp only [hreach, and_self, if_true, decide_true, Nat.even_add_one]
      split <;> simp_all
    · simp only [hreach, if_false, decide_false, Nat.add_zero, Bool.false_eq_true]

theorem putAll_regs (hi : i < m.cfg.membufType.maxMb) (hc : m.cfg.configured i = true) (hs : bus.sets i) (ho : bus.write i = .done) :
    (membufPutScomAll bus m scom data).m.regs i (regAddr m.cfg scom i) = m.cfg.membufType.swap
      (if Even ((List.range i).countP fun j => m.cfg.configured j = true ∧ bus.sets j) then data else m.cfg.membufType.swap data) := by
  obtain ⟨hconf, hbase⟩ := @putSweep_before bus m scom data i
  have hview : (membufPutScomAll bus m scom data).m.part i = _ :=
    @view_sweep_of_lt _ _ _ _ _ _ (fun k : PutState => k.m.part) (fun _ _ _ => putStep_part_of_ne) hi
  simp only [Membufs.part, Prod.mk.injEq] at hview
  rw [hview.2, ← regAddr_congr hbase, putStep_regs (hconf.trans hc) hs ho, putSweep_data, (Prod.mk.inj hbase).1]

theorem putAll_configured (i : Nat) : (membufPutScomAll bus m scom data).m.cfg.configured i =
    (m.cfg.configured i && !(decide (i < m.cfg.membufType.maxMb) && (decide (bus.sets i) && (bus.write i).fails))) := by
  by_cases hi : i < m.cfg.membufType.maxMb
  · have hview : (membufPutScomAll bus m scom data).m.part i = _ :=
      @view_sweep_of_lt _ _ _ _ _ _ (fun k : PutState => k.m.part) (fun _ _ _ => putStep_part_of_ne) hi
    simp only [Membufs.part, Prod.mk.injEq] at hview
    rw [hview.1, putStep_configured, (putSweep_before i).1]
    simp [hi]
  · have hview : (membufPutScomAll bus m scom data).m.part i = m.part i :=
      @view_sweep_of_le _ _ _ _ _ _ (fun k : PutState => k.m.part) (fun _ _ _ => putStep_part_of_ne) (by omega)
    simp only [Membufs.part, Prod.mk.injEq] at hview
    rw [hview.1]
    simp [hi]

theorem rmwSweep_before (i : Nat) :
    (sweep (rmwStep bus scom mask data) ⟨m, 0, 0⟩ i).m.part i = m.part i ∧
      (sweep (rmwStep bus scom mask data) ⟨m, 0, 0⟩ i).m.cfg.base = m.cfg.base :=
  ⟨@view_sweep_of_le _ _ _ _ _ _ (fun k : RmwState => k.m.part) (fun _ _ _ => rmwStep_part_of_ne) le_rfl,
    @base_sweep _ _ RmwState.m _ i fun _ _ => rmwStep_base⟩

theorem rmwAll_regs (hi : i < m.cfg.membufType.maxMb) (hc : m.cfg.configured i = true) (hs : bus.sets i)
    (hr : bus.read i = .done) (hw : bus.write i = .done) :
    (membufScomRmwAll bus m scom mask data).m.regs i (regAddr m.cfg scom i) = m.cfg.membufType.swap
      (m.cfg.membufType.swap (m.regs i (regAddr m.cfg scom i)) &&& ~~~mask ||| data) := by
  obtain ⟨hpart, hbase⟩ := @rmwSweep_before bus m scom data mask i
  have hview : (membufScomRmwAll bus m scom mask data).m.part i = _ :=
    @view_sweep_of_lt _ _ _ _ _ _ (fun k : RmwState => k.m.part) (fun _ _ _ => rmwStep_part_of_ne) hi
  simp only [Membufs.part, Prod.mk.injEq] at hview hpart
  rw [hview.2, ← regAddr_congr hbase, rmwStep_regs (hpart.1.trans hc) hs hr hw, hpart.2, (Prod.mk.inj hbase).1]

theorem rmwAll_configured (i : Nat) : (membufScomRmwAll bus m scom mask data).m.cfg.configured i =
    (m.cfg.configured i && !(decide (i < m.cfg.membufType.maxMb) &&
      (decide (bus.sets i) && ((bus.read i).fails || (bus.write i).fails)))) := by
  by_cases hi : i < m.cfg.membufType.maxMb
  · have hview : (membufScomRmwAll bus m scom mask data).m.part i = _ :=
      @view_sweep_of_lt _ _ _ _ _ _ (fun k : RmwState => k.m.part) (fun _ _ _ => rmwStep_part_of_ne) hi
    have hpart := (@rmwSweep_before bus m scom data mask i).1
    simp only [Membufs.part, Prod.mk.injEq] at hview hpart
    rw [hview.1, rmwStep_configured, hpart.1]
    simp [hi]
  · have hview : (membufScomRmwAll bus m scom mask data).m.part i = m.part i :=
      @view_sweep_of_le _ _ _ _ _ _ (fun k : RmwState => k.m.part) (fun _ _ _ => rmwStep_part_of_ne) (by omega)
    simp only [Membufs.part, Prod.mk.injEq] at hview
    rw [hview.1]
    simp [hi]

end

end Occ.Gpe1
