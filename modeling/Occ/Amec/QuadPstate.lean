/-
The desired pstate of each quad (`amec_slv_freq_smh` of `amec_freq.c`), from the frequency requests of its cores and the
pstates requested by manufacturing (`cmdh_mnfg_request_quad_pstate`).
-/
import Occ.Lib.Transition
import Occ.Proc.PstateLaw
import Mathlib.Order.Bounds.Basic
import Mathlib.Data.List.ProdSigma

namespace Occ.Amec.Quad

open Occ Transition Proc
open Function (update)

/-! ## Data -/

/-- `MAXIMUM_QUADS` quads of `NUM_CORES_PER_QUAD` cores. -/
abbrev QuadId := Fin 6
abbrev CoreIdx := Fin 4

/-- `f_request` of each core, 0 for a core that was not online when the voting box ran. -/
abbrev Requests := QuadId → CoreIdx → BitVec 16

/-- `g_amec->mnfg_parms.quad_pstate` and `G_desired_pstate`. -/
structure State where
  mnfg : QuadId → BitVec 8
  desired : QuadId → BitVec 8

def State.boot : State := ⟨fun _ => 0, fun _ => 0⟩

/-- What both functions know of frequencies: the parameter block, and the minimum frequency of the modes. -/
structure Freqs where
  oppb : Oppb
  minFrequency : BitVec 16

/-- `proc_freq2pstate` on a frequency of 16 bits. -/
def Freqs.pstate (freqs : Freqs) (freqMhz : BitVec 16) : BitVec 8 :=
  procFreq2pstate freqs.oppb freqs.minFrequency (freqMhz.setWidth 32)

/-! ## The frequency state machine -/

/-- The local variables of the first loop. -/
structure Scan where
  pmax : QuadId → BitVec 8
  pmaxChip : BitVec 8
  atLeast1Core : QuadId → Bool
  atLeast1Quad : Bool

def Scan.start : Scan := ⟨fun _ => 0, 0, fun _ => false, false⟩

/-- One core of the first loop. -/
def Scan.core (freqs : Freqs) (requests : Requests) (scan : Scan) (place : QuadId × CoreIdx) : Scan :=
  let (quad, core) := place
  if requests quad core ≠ 0 then
    let pstate := freqs.pstate (requests quad core)
    let scan := { scan with atLeast1Core := update scan.atLeast1Core quad true, atLeast1Quad := true }
    if scan.pmax quad < pstate then
      { scan with
        pmax := update scan.pmax quad pstate
        pmaxChip := if scan.pmaxChip < pstate then pstate else scan.pmaxChip }
    else scan
  else scan

/-- The first loop, over the quads and the cores of each. -/
def scanCores (freqs : Freqs) (requests : Requests) : Scan :=
  (List.product (List.finRange 6) (List.finRange 4)).foldl (Scan.core freqs requests) Scan.start

/-- A request by manufacturing is used when it is a lower frequency; 0xFF is none. -/
def withRequest (request pmax : BitVec 8) : BitVec 8 := if request ≠ 0xFF ∧ request > pmax then request else pmax

/-- `amec_slv_freq_smh` -/
def amecSlvFreqSmh (freqs : Freqs) (requests : Requests) (s : State) : State :=
  let scan := scanCores freqs requests
  if scan.atLeast1Quad then
    { s with desired := fun quad =>
        withRequest (s.mnfg quad) (if scan.atLeast1Core quad then scan.pmax quad else scan.pmaxChip) }
  else s

/-! ## The requests by manufacturing -/

def errlRcSuccess : BitVec 8 := 0x00
def errlRcInvalidCmd : BitVec 8 := 0x11
def errlRcInvalidCmdLen : BitVec 8 := 0x12
def errlRcInvalidData : BitVec 8 := 0x13
def errlRcInvalidState : BitVec 8 := 0x16

def mfgQuadPstateVersion : BitVec 8 := 0

/-- `mnfg_quad_pstate_cmd_t` -/
structure QuadPstateCmd where
  dataLength : BitVec 16
  version : BitVec 8
  quadPstateIn : QuadId → BitVec 8

/-- What the command finds: whether the OCC is active and runs under KVM, and the frequency limits of the mode. -/
structure CmdEnv where
  active : Bool
  kvm : Bool
  fmin : BitVec 16
  fmax : BitVec 16

/-- A requested pstate clipped to those of the limits. -/
def clipRequest (pmin pmax request : BitVec 8) : BitVec 8 :=
  if request ≠ 0xFF then
    if request > pmin then pmin else if request < pmax then pmax else request
  else request

/-- `cmdh_mnfg_request_quad_pstate`, with the return code and the pstates of the response. -/
def cmdhMnfgRequestQuadPstate (freqs : Freqs) (env : CmdEnv) (s : State) (cmd : QuadPstateCmd) :
    State × BitVec 8 × Option (QuadId → BitVec 8) :=
  if ¬env.active then (s, errlRcInvalidState, none)
  else if env.kvm then (s, errlRcInvalidCmd, none)
  else if cmd.dataLength ≠ 8 then (s, errlRcInvalidCmdLen, none)
  else if cmd.version ≠ mfgQuadPstateVersion then (s, errlRcInvalidData, none)
  else
    let out := fun quad => clipRequest (freqs.pstate env.fmin) (freqs.pstate env.fmax) (cmd.quadPstateIn quad)
    ({ s with mnfg := out }, errlRcSuccess, some out)

/-- `SMGR_observation_to_active` gives all quads back to the OCC. -/
def clearMnfg (s : State) : State := { s with mnfg := fun _ => 0xFF }

/-! ## Runs -/

/-- What happens to the pstates: a tick, a command, and the way to the active state. -/
inductive Event
  | tick (requests : Requests)
  | request (env : CmdEnv) (cmd : QuadPstateCmd)
  | activate

/-- One event, with the minimum frequency that the modes have then. -/
def next (oppb : Oppb) (s : State) : BitVec 16 × Event → State
  | (minFrequency, .tick requests) => amecSlvFreqSmh ⟨oppb, minFrequency⟩ requests s
  | (minFrequency, .request env cmd) => (cmdhMnfgRequestQuadPstate ⟨oppb, minFrequency⟩ env s cmd).1
  | (_, .activate) => clearMnfg s

def Step (oppb : Oppb) (s : State) (e : BitVec 16 × Event) (t : State) : Prop := t = next oppb s e

/-! ## The law -/

variable {oppb : Oppb} {freqs : Freqs} {requests : Requests}

/-- The pstates of the requests of the online cores of a quad. -/
def QuadPstates (freqs : Freqs) (requests : Requests) (quad : QuadId) : Set (BitVec 8) :=
  {pstate | ∃ core, requests quad core ≠ 0 ∧ pstate = freqs.pstate (requests quad core)}

/-- Those of the chip. -/
def ChipPstates (freqs : Freqs) (requests : Requests) : Set (BitVec 8) :=
  {pstate | ∃ quad, pstate ∈ QuadPstates freqs requests quad}

/-- The pstates that a quad without online cores takes part with are those of the chip. -/
def Candidates (freqs : Freqs) (requests : Requests) (quad : QuadId) : Set (BitVec 8) :=
  {pstate | pstate ∈ QuadPstates freqs requests quad ∨
    (∀ core, requests quad core = 0) ∧ pstate ∈ ChipPstates freqs requests}

/-- One tick: the highest pstate of the candidates (the lowest frequency), or a request by manufacturing above it; nothing
when no core is online; and no pstate out of the range. -/
structure Law (freqs : Freqs) (requests : Requests) (s t : State) : Prop where
  chosen : (∃ quad core, requests quad core ≠ 0) → ∀ quad, ∃ pmax,
    IsGreatest (Candidates freqs requests quad) pmax ∧ t.desired quad = withRequest (s.mnfg quad) pmax
  offline : (∀ quad core, requests quad core = 0) → t = s
  legal : ∀ quad, (t.desired quad).toNat ≤ freqs.oppb.pMin
  requests : t.mnfg = s.mnfg

/-! ## The first loop -/

/-- The greatest of the values found so far, with 0 while there are none. -/
structure Top (values : Set (BitVec 8)) (found : Bool) (top : BitVec 8) : Prop where
  some : found = true → IsGreatest values top
  none : found = false → values = ∅ ∧ top = 0

theorem Top.empty : Top ∅ false 0 := ⟨fun h => Bool.noConfusion h, fun _ => ⟨rfl, rfl⟩⟩

/-- A value more. -/
theorem Top.insert {values : Set (BitVec 8)} {found : Bool} {top value : BitVec 8} (h : Top values found top) :
    Top (insert value values) true (if top < value then value else top) := by
  constructor
  case none => exact fun h => Bool.noConfusion h
  case some =>
    intro _
    by_cases hlt : top < value
    · rw [if_pos hlt]
      constructor
      · exact Set.mem_insert _ _
      · rintro other (rfl | hother)
        · exact BitVec.le_refl _
        · rcases found with _ | _
          · rw [(h.none rfl).1] at hother
            exact absurd hother (Set.notMem_empty _)
          · exact BitVec.le_trans ((h.some rfl).2 hother) (BitVec.le_of_lt hlt)
    · rw [if_neg hlt]
      have hle : value ≤ top := BitVec.not_lt.1 hlt
      rcases found with _ | _
      · obtain ⟨rfl, rfl⟩ := h.none rfl
        obtain rfl : value = 0 := BitVec.le_zero_iff.1 hle
        rw [insert_empty_eq]
        exact ⟨rfl, fun other hother => hother ▸ BitVec.le_refl _⟩
      · obtain ⟨hmem, hupper⟩ := h.some rfl
        constructor
        · exact Set.mem_insert_of_mem _ hmem
        · rintro other (rfl | hother)
          · exact hle
          · exact hupper hother

/-- The pstates of the cores of a quad that the loop is past. -/
def Seen (freqs : Freqs) (requests : Requests) (done : List (QuadId × CoreIdx)) (quad : QuadId) : Set (BitVec 8) :=
  {pstate | ∃ core, (quad, core) ∈ done ∧ requests quad core ≠ 0 ∧ pstate = freqs.pstate (requests quad core)}

/-- Those of the chip. -/
def SeenChip (freqs : Freqs) (requests : Requests) (done : List (QuadId × CoreIdx)) : Set (BitVec 8) :=
  {pstate | ∃ quad, pstate ∈ Seen freqs requests done quad}

/-- The invariant of the loop. -/
structure Scan.Of (freqs : Freqs) (requests : Requests) (done : List (QuadId × CoreIdx)) (scan : Scan) : Prop where
  quad : ∀ quad, Top (Seen freqs requests done quad) (scan.atLeast1Core quad) (scan.pmax quad)
  chip : Top (SeenChip freqs requests done) scan.atLeast1Quad scan.pmaxChip

variable {done : List (QuadId × CoreIdx)} {scan : Scan} {quad : QuadId} {core : CoreIdx}

theorem seen_online (h : requests quad core ≠ 0) :
    Seen freqs requests (done ++ [(quad, core)]) quad =
      insert (freqs.pstate (requests quad core)) (Seen freqs requests done quad) := by
  ext pstate
  constructor
  · rintro ⟨other, hmem, honline, rfl⟩
    rcases List.mem_append.1 hmem with hmem | hmem
    · exact .inr ⟨other, hmem, honline, rfl⟩
    · obtain ⟨-, rfl⟩ := Prod.mk.inj (List.mem_singleton.1 hmem)
      exact .inl rfl
  · rintro (rfl | ⟨other, hmem, honline, rfl⟩)
    · exact ⟨core, List.mem_append_right _ List.mem_cons_self, h, rfl⟩
    · exact ⟨other, List.mem_append_left _ hmem, honline, rfl⟩

theorem seen_other {other : QuadId} (h : other ≠ quad ∨ requests quad core = 0) :
    Seen freqs requests (done ++ [(quad, core)]) other = Seen freqs requests done other := by
  ext pstate
  constructor
  · rintro ⟨place, hmem, honline, rfl⟩
    rcases List.mem_append.1 hmem with hmem | hmem
    · exact ⟨place, hmem, honline, rfl⟩
    · obtain ⟨rfl, rfl⟩ := Prod.mk.inj (List.mem_singleton.1 hmem)
      rcases h with h | h
      · exact absurd rfl h
      · exact absurd h honline
  · rintro ⟨place, hmem, honline, rfl⟩
    exact ⟨place, List.mem_append_left _ hmem, honline, rfl⟩

theorem seenChip_online (h : requests quad core ≠ 0) :
    SeenChip freqs requests (done ++ [(quad, core)]) =
      insert (freqs.pstate (requests quad core)) (SeenChip freqs requests done) := by
  ext pstate
  constructor
  · rintro ⟨other, hmem⟩
    by_cases hquad : other = quad
    · subst hquad
      rw [seen_online h] at hmem
      rcases hmem with rfl | hmem
      · exact .inl rfl
      · exact .inr ⟨_, hmem⟩
    · rw [seen_other (.inl hquad)] at hmem
      exact .inr ⟨other, hmem⟩
  · rintro (rfl | ⟨other, place, hmem, honline, rfl⟩)
    · exact ⟨quad, core, List.mem_append_right _ List.mem_cons_self, h, rfl⟩
    · exact ⟨other, place, List.mem_append_left _ hmem, honline, rfl⟩

theorem seenChip_offline (h : requests quad core = 0) :
    SeenChip freqs requests (done ++ [(quad, core)]) = SeenChip freqs requests done := by
  unfold SeenChip
  simp only [seen_other (.inr h)]

theorem Scan.Of.pmax_le (h : Scan.Of freqs requests done scan) (quad : QuadId) : scan.pmax quad ≤ scan.pmaxChip := by
  rcases hfound : scan.atLeast1Core quad with _ | _
  · rw [((h.quad quad).none hfound).2]
    exact Nat.zero_le _
  · have hmem : scan.pmax quad ∈ SeenChip freqs requests done := ⟨quad, ((h.quad quad).some hfound).1⟩
    rcases hchip : scan.atLeast1Quad with _ | _
    · rw [(h.chip.none hchip).1] at hmem
      exact absurd hmem (Set.notMem_empty _)
    · exact (h.chip.some hchip).2 hmem

/-- One core keeps the invariant. -/
theorem Scan.Of.next (h : Scan.Of freqs requests done scan) (place : QuadId × CoreIdx) :
    Scan.Of freqs requests (done ++ [place]) (scan.core freqs requests place) := by
  obtain ⟨quad, core⟩ := place
  by_cases honline : requests quad core ≠ 0
  · have hcore : scan.core freqs requests (quad, core) =
        { pmax := update scan.pmax quad (if scan.pmax quad < freqs.pstate (requests quad core) then
            freqs.pstate (requests quad core) else scan.pmax quad)
          pmaxChip := if scan.pmaxChip < freqs.pstate (requests quad core) then
            freqs.pstate (requests quad core) else scan.pmaxChip
          atLeast1Core := update scan.atLeast1Core quad true
          atLeast1Quad := true } := by
      unfold Scan.core
      simp only [if_pos honline]
      by_cases hlt : scan.pmax quad < freqs.pstate (requests quad core)
      · rw [if_pos hlt, if_pos hlt]
      · -- a pstate that is not above that of the quad is not above that of the chip
        have hle := BitVec.le_trans (BitVec.not_lt.1 hlt) (h.pmax_le quad)
        rw [if_neg hlt, if_neg hlt, if_neg (BitVec.not_lt.2 hle), Function.update_eq_self]
    rw [hcore]
    constructor
    · intro other
      by_cases hquad : other = quad
      · subst hquad
        simp only [Function.update_self]
        rw [seen_online honline]
        exact (h.quad other).insert
      · simp only [Function.update_of_ne hquad]
        rw [seen_other (.inl hquad)]
        exact h.quad other
    · rw [seenChip_online honline]
      exact h.chip.insert
  · have hoffline := not_not.1 honline
    have hcore : scan.core freqs requests (quad, core) = scan := if_neg honline
    rw [hcore]
    constructor
    · intro other
      rw [seen_other (.inr hoffline)]
      exact h.quad other
    · rw [seenChip_offline hoffline]
      exact h.chip

theorem Scan.Of.start : Scan.Of freqs requests [] Scan.start := by
  have hseen : ∀ quad, Seen freqs requests [] quad = ∅ := by
    intro quad
    ext pstate
    constructor
    · rintro ⟨core, hmem, -⟩
      exact absurd hmem List.not_mem_nil
    · intro hmem
      exact absurd hmem (Set.notMem_empty _)
  constructor
  · intro quad
    rw [hseen]
    exact Top.empty
  · have hchip : SeenChip freqs requests [] = ∅ := by
      apply Set.eq_empty_of_forall_notMem
      rintro pstate ⟨quad, hmem⟩
      rw [hseen] at hmem
      exact Set.notMem_empty _ hmem
    rw [hchip]
    exact Top.empty

theorem Scan.Of.foldl (h : Scan.Of freqs requests done scan) (rest : List (QuadId × CoreIdx)) :
    Scan.Of freqs requests (done ++ rest) (rest.foldl (Scan.core freqs requests) scan) := by
  induction rest generalizing done scan with
  | nil =>
    rw [List.append_nil]
    exact h
  | cons place rest ih =>
    have := ih (h.next place)
    rwa [List.append_assoc] at this

theorem scanCores_of : Scan.Of freqs requests (List.product (List.finRange 6) (List.finRange 4))
    (scanCores freqs requests) :=
  Scan.Of.start.foldl _

theorem seen_all (quad : QuadId) :
    Seen freqs requests (List.product (List.finRange 6) (List.finRange 4)) quad = QuadPstates freqs requests quad := by
  ext pstate
  constructor
  · rintro ⟨core, -, honline, rfl⟩
    exact ⟨core, honline, rfl⟩
  · rintro ⟨core, honline, rfl⟩
    exact ⟨core, List.mem_product.2 ⟨List.mem_finRange _, List.mem_finRange _⟩, honline, rfl⟩

theorem scanCores_quad (quad : QuadId) : Top (QuadPstates freqs requests quad)
    ((scanCores freqs requests).atLeast1Core quad) ((scanCores freqs requests).pmax quad) := by
  rw [← seen_all]
  exact scanCores_of.quad quad

theorem scanCores_chip : Top (ChipPstates freqs requests) (scanCores freqs requests).atLeast1Quad
    (scanCores freqs requests).pmaxChip := by
  have h := (@scanCores_of freqs requests).chip
  unfold SeenChip at h
  simp only [seen_all] at h
  exact h

theorem Top.found_iff {values : Set (BitVec 8)} {found : Bool} {top : BitVec 8} (h : Top values found top) :
    found = true ↔ values.Nonempty := by
  constructor
  · intro hfound
    exact ⟨top, (h.some hfound).1⟩
  · rintro ⟨value, hmem⟩
    rcases found with _ | _
    · rw [(h.none rfl).1] at hmem
      exact absurd hmem (Set.notMem_empty _)
    · rfl

/-- The pstate of a quad, before the request by manufacturing, is the greatest of its candidates. -/
theorem candidates_greatest (honline : (scanCores freqs requests).atLeast1Quad = true) (quad : QuadId) :
    IsGreatest (Candidates freqs requests quad)
      (if (scanCores freqs requests).atLeast1Core quad then (scanCores freqs requests).pmax quad
        else (scanCores freqs requests).pmaxChip) := by
  have hquad := @scanCores_quad freqs requests quad
  have hchip := (@scanCores_chip freqs requests).some honline
  rcases hfound : (scanCores freqs requests).atLeast1Core quad with _ | _
  · have hnone : ∀ core, requests quad core = 0 := by
      intro core
      by_contra hcore
      have hmem : freqs.pstate (requests quad core) ∈ QuadPstates freqs requests quad := ⟨core, hcore, rfl⟩
      rw [(hquad.none hfound).1] at hmem
      exact Set.notMem_empty _ hmem
    constructor
    · exact .inr ⟨hnone, hchip.1⟩
    · rintro pstate (hmem | ⟨-, hmem⟩)
      · exact hchip.2 ⟨quad, hmem⟩
      · exact hchip.2 hmem
  · obtain ⟨hmem, hupper⟩ := hquad.some hfound
    constructor
    · exact .inl hmem
    · rintro pstate (hother | ⟨hnone, -⟩)
      · exact hupper hother
      · obtain ⟨core, hcore, -⟩ := hmem
        exact absurd (hnone core) hcore

/-! ## Legal pstates -/

theorem toNat_pstate_le (freqMhz : BitVec 16) : (freqs.pstate freqMhz).toNat ≤ freqs.oppb.pMin := by
  have hmin : (freqs.oppb.pstateMin.setWidth 8).toNat ≤ freqs.oppb.pMin := by
    rw [BitVec.toNat_setWidth]
    exact Nat.mod_le _ _
  unfold Freqs.pstate
  rcases @procFreq2pstate_cases freqs.oppb freqs.minFrequency (freqMhz.setWidth 32) with h | ⟨excess, h⟩
  · rw [h]
    exact hmin
  · rw [h]
    rcases @stepsBelow_cases freqs.oppb excess with h | h
    · rw [h]
      exact hmin
    · rw [toNat_signExtend_byte] at h
      split at h <;> omega

theorem clipRequest_legal (fmin fmax : BitVec 16) (request : BitVec 8) :
    clipRequest (freqs.pstate fmin) (freqs.pstate fmax) request = 0xFF ∨
      (clipRequest (freqs.pstate fmin) (freqs.pstate fmax) request).toNat ≤ freqs.oppb.pMin := by
  unfold clipRequest
  have hmin := @toNat_pstate_le freqs fmin
  by_cases hnone : request ≠ 0xFF
  · right
    rw [if_pos hnone]
    by_cases habove : request > freqs.pstate fmin
    · rw [if_pos habove]
      exact hmin
    · have hle : request.toNat ≤ (freqs.pstate fmin).toNat := BitVec.not_lt.1 habove
      rw [if_neg habove]
      split
      · exact toNat_pstate_le fmax
      · omega
  · left
    rw [if_neg hnone]
    exact not_not.1 hnone

/-- The requests and the desired pstates are legal. -/
structure Legal (oppb : Oppb) (s : State) : Prop where
  mnfg : ∀ quad, s.mnfg quad = 0xFF ∨ (s.mnfg quad).toNat ≤ oppb.pMin
  desired : ∀ quad, (s.desired quad).toNat ≤ oppb.pMin

theorem withRequest_le {request pmax : BitVec 8} (hrequest : request = 0xFF ∨ request.toNat ≤ oppb.pMin)
    (hpmax : pmax.toNat ≤ oppb.pMin) : (withRequest request pmax).toNat ≤ oppb.pMin := by
  unfold withRequest
  split
  case isTrue h =>
    rcases hrequest with hnone | hlegal
    · exact absurd hnone h.1
    · exact hlegal
  case isFalse => exact hpmax

/-- A tick keeps the law. -/
theorem law_amecSlvFreqSmh {s : State} (hs : Legal freqs.oppb s) : Law freqs requests s (amecSlvFreqSmh freqs requests s) := by
  have hchip := @scanCores_chip freqs requests
  have hflag : (scanCores freqs requests).atLeast1Quad = true ↔ ∃ quad core, requests quad core ≠ 0 := by
    rw [hchip.found_iff]
    constructor
    · rintro ⟨_, quad, core, honline, -⟩
      exact ⟨quad, core, honline⟩
    · rintro ⟨quad, core, honline⟩
      exact ⟨_, quad, core, honline, rfl⟩
  by_cases honline : (scanCores freqs requests).atLeast1Quad = true
  · have hstep : amecSlvFreqSmh freqs requests s =
        { s with
          desired := fun quad =>
            withRequest (s.mnfg quad)
              (if (scanCores freqs requests).atLeast1Core quad then (scanCores freqs requests).pmax quad
                else (scanCores freqs requests).pmaxChip) } := if_pos honline
    rw [hstep]
    constructor
    case chosen => exact fun _ quad => ⟨_, candidates_greatest honline quad, rfl⟩
    case offline =>
      intro hnone
      obtain ⟨quad, core, hcore⟩ := hflag.1 honline
      exact absurd (hnone quad core) hcore
    case legal =>
      intro quad
      apply withRequest_le (hs.mnfg quad)
      rcases (candidates_greatest honline quad).1 with ⟨_, _, h⟩ | ⟨_, _, _, _, h⟩
      · rw [h]
        exact toNat_pstate_le _
      · rw [h]
        exact toNat_pstate_le _
    case requests => rfl
  · have hstep : amecSlvFreqSmh freqs requests s = s := if_neg honline
    rw [hstep]
    constructor
    case chosen => exact fun h => absurd (hflag.2 h) honline
    case offline => exact fun _ => rfl
    case legal => exact hs.desired
    case requests => rfl

/-! ## Runs -/

theorem Legal.boot : Legal oppb State.boot := ⟨fun _ => .inr (Nat.zero_le _), fun _ => Nat.zero_le _⟩

/-- Every event keeps the pstates legal. -/
theorem Legal.next {s : State} (hs : Legal oppb s) (e : BitVec 16 × Event) : Legal oppb (next oppb s e) := by
  obtain ⟨minFrequency, e⟩ := e
  cases e with
  | tick requests =>
    have hlaw := @law_amecSlvFreqSmh ⟨oppb, minFrequency⟩ requests s hs
    constructor
    · intro quad
      rw [Quad.next, hlaw.requests]
      exact hs.mnfg quad
    · exact hlaw.legal
  | request env cmd =>
    change Legal oppb (cmdhMnfgRequestQuadPstate ⟨oppb, minFrequency⟩ env s cmd).1
    unfold cmdhMnfgRequestQuadPstate
    split
    · exact hs
    split
    · exact hs
    split
    · exact hs
    split
    · exact hs
    · constructor
      · intro quad
        exact @clipRequest_legal ⟨oppb, minFrequency⟩ env.fmin env.fmax (cmd.quadPstateIn quad)
      · exact hs.desired
  | activate => exact ⟨fun _ => .inl rfl, hs.desired⟩

/-- Every tick of every run keeps the law. -/
theorem choice_law {oppb : Oppb} {es : List (BitVec 16 × Event)} {minFrequency : BitVec 16} {requests : Requests}
    {s t : State} (hrun : Run (Step oppb) State.boot es s) (hstep : Step oppb s (minFrequency, .tick requests) t) :
    Law ⟨oppb, minFrequency⟩ requests s t := by
  have hs : Legal oppb s := by
    apply hrun.invariant _ Legal.boot
    rintro u e _ hu rfl
    exact hu.next e
  obtain rfl := hstep
  exact law_amecSlvFreqSmh hs

/-! ## Two cores of a quad -/

/-- Requests of the first two cores. -/
def twoCores (first second : BitVec 16) : Requests
  | 0, 0 => first
  | 0, 1 => second
  | _, _ => 0

/-- A tick with two cores of a quad at 3000 MHz and 4000 MHz. -/
theorem choice_law_twoCores : Law ⟨steppedOppb 2000000 119, 2000⟩ (twoCores 3000 4000) State.boot
    (amecSlvFreqSmh ⟨steppedOppb 2000000 119, 2000⟩ (twoCores 3000 4000) State.boot) :=
  @choice_law (steppedOppb 2000000 119) [] 2000 (twoCores 3000 4000) State.boot _ (.nil _) rfl

/-- The quad gets the pstate of 3000 MHz, although its second core asked for 4000 MHz; the quads without cores online get
it too. -/
theorem lowest_request_chosen :
    (amecSlvFreqSmh ⟨steppedOppb 2000000 119, 2000⟩ (twoCores 3000 4000) State.boot).desired 0 = 59 ∧
      (⟨steppedOppb 2000000 119, 2000⟩ : Freqs).pstate 3000 = 59 ∧
      (⟨steppedOppb 2000000 119, 2000⟩ : Freqs).pstate 4000 = 0 ∧
      (amecSlvFreqSmh ⟨steppedOppb 2000000 119, 2000⟩ (twoCores 3000 4000) State.boot).desired 5 = 59 := by
  decide

end Occ.Amec.Quad
