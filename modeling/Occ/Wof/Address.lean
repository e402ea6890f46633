/-
The addresses of VFRTs (`main.c`, `wof.c`): for which headers of the WOF tables, ratios and requested quads they are
those of tables, each with an address of its own.
-/
import Occ.Lib.Numeral
import Occ.Wof.PingPong

namespace Occ.Wof

/-! ## The header of the tables -/

/-- `PPMR_ADDRESS_HOMER + WOF_TABLES_OFFSET` -/
def wofTablesAddr : BitVec 32 := 0x803C0000

/-- `WOF_MAGIC_NUMBER` -/
def wofMagicNumber : BitVec 32 := 0x57465448

/-- `ACTIVE_QUAD_SZ_MIN` and `ACTIVE_QUAD_SZ_MAX` -/
def activeQuadSzMin : BitVec 8 := 1
def activeQuadSzMax : BitVec 8 := 6

/-- `WOF_RC_NO_WOF_HEADER_MASK` -/
def wofRcNoWofHeaderMask : BitVec 32 := 0x00000001

/-- What reading the header finds in main memory. -/
structure HeaderRead where
  bceCreated : Bool
  bceScheduled : Bool
  magicNumber : BitVec 32
  header : WofHeader
  /-- what scheduling a request to turn WOF off does -/
  off : ScheduleResult
deriving DecidableEq, Repr

/-- `read_wof_header`, and whether the header is accepted. -/
def AmecWof.readWofHeader (w : AmecWof) (r : HeaderRead) : AmecWof × Bool :=
  let w := { w with vfrtTblsMainMemAddr := wofTablesAddr }
  if w.vfrtTblsMainMemAddr ≠ 0 ∧ w.vfrtTblsMainMemAddr % 128 = 0 then
    if r.bceCreated ∧ r.bceScheduled ∧ r.magicNumber = wofMagicNumber ∧
        (r.header.activeQuadsSize = activeQuadSzMin ∨ r.header.activeQuadsSize = activeQuadSzMax) then
      ({ w with header := r.header, wofInitState := .wofDisabled }, true)
    else (w.setDisabled r.off wofRcNoWofHeaderMask, false)
  else (w.setDisabled r.off wofRcNoWofHeaderMask, false)

/-! ## Addresses of tables -/

/-- How many tables the header announces. -/
def WofHeader.tables (h : WofHeader) : Nat := h.vdnSize.toNat * h.vddSize.toNat * h.activeQuadsSize.toNat

/-- The table for the steps that have been calculated; the WOF characterization test uses the first one. -/
def AmecWof.tableIndex (w : AmecWof) (charTest : Bool) : Nat :=
  if charTest then 0
  else Radix.pair w.header.activeQuadsSize.toNat (Radix.pair w.header.vddSize.toNat w.vdnStepFromStart.toNat w.vddStepFromStart.toNat)
    w.quadStepFromStart.toNat

/-- The next VFRT is a table of the header, at an aligned address. -/
structure AmecWof.NextIsTable (w : AmecWof) (charTest : Bool) : Prop where
  aligned : w.nextVfrtMainMemAddr % 128 = 0
  addr : w.nextVfrtMainMemAddr.toNat =
    w.vfrtTblsMainMemAddr.toNat + wofHeaderSize.toNat + vfrtBlockSize.toNat * w.tableIndex charTest
  index : w.tableIndex charTest < w.header.tables

/-- The steps of a VFRT are within range. -/
structure AmecWof.StepsInRange (w : AmecWof) : Prop where
  vdn : w.vdnStepFromStart < w.header.vdnSize
  vdd : w.vddStepFromStart < w.header.vddSize
  quad : w.quadStepFromStart < w.header.activeQuadsSize

/-- With the steps from start as given. -/
def AmecWof.withSteps (w : AmecWof) (vdn vdd : BitVec 16) (quad : BitVec 8) : AmecWof :=
  { w with vdnStepFromStart := vdn, vddStepFromStart := vdd, quadStepFromStart := quad }

/-- What the algorithm and the initial VFRT ask for is a table, and no two tables share their address. -/
structure VfrtContained (w : AmecWof) (env : TickEnv) : Prop where
  main : ∀ charTest, (w.wofMain { env with charTest := charTest }).NextIsTable charTest
  initial : ∀ charTest, (w.sendInitialVfrtToPgpe { env with charTest := charTest }).NextIsTable charTest
  distinct : ∀ (vdn vdn' vdd vdd' : BitVec 16) (quad quad' : BitVec 8), (w.withSteps vdn vdd quad).StepsInRange →
    (w.withSteps vdn' vdd' quad').StepsInRange →
    (w.withSteps vdn vdd quad).calcVfrtMainstoreAddr false = (w.withSteps vdn' vdd' quad').calcVfrtMainstoreAddr false →
    vdn = vdn' ∧ vdd = vdd' ∧ quad = quad'

/-! ## The condition -/

/-- The steps of a ratio above the start, rounded up in 16 bits, up to the last one. -/
def stepsUp (ratio start step size : Nat) : Nat :=
  if ratio ≤ start ∨ step = 0 then 0 else min ((ratio + step - 1 - start) % 2 ^ 16 / step) (size - 1)

/-- The row of six tables for the ratios. -/
def rowOf (h : WofHeader) (env : TickEnv) : Nat :=
  let ratioVdn := if env.divideByZeroVdn then 0 else env.ceffRatioVdn.toNat % 2 ^ 16
  let ratioVdd := if env.divideByZeroVdd then 0 else env.ceffRatioVdd.toNat % 2 ^ 16
  Radix.pair h.vddSize.toNat (stepsUp ratioVdn h.vdnStart.toNat h.vdnStep.toNat h.vdnSize.toNat)
    (stepsUp ratioVdd h.vddStart.toNat h.vddStep.toNat h.vddSize.toNat)

/-- The tables are for six quads, there are some and they fit into the address space, and a quad is requested, or the
255th table on still exists. -/
structure VfrtFits (h : WofHeader) (env : TickEnv) : Prop where
  sixQuads : h.activeQuadsSize = activeQuadSzMax
  vdn : h.vdnSize ≠ 0
  vdd : h.vddSize ≠ 0
  room : wofTablesAddr.toNat + wofHeaderSize.toNat + vfrtBlockSize.toNat * (h.tables - 1) < 2 ^ 32
  requested : env.reqActiveQuads &&& 0xFC ≠ 0 ∨ rowOf h env + 43 ≤ h.vdnSize.toNat * h.vddSize.toNat

/-! ## What a tick leaves alone -/

/-- The tables, the active quads, the steps and the next VFRT are the same. -/
structure SameTable (w w' : AmecWof) : Prop where
  active : w'.numActiveQuads = w.numActiveQuads
  header : w'.header = w.header
  base : w'.vfrtTblsMainMemAddr = w.vfrtTblsMainMemAddr
  vdn : w'.vdnStepFromStart = w.vdnStepFromStart
  vdd : w'.vddStepFromStart = w.vddStepFromStart
  quad : w'.quadStepFromStart = w.quadStepFromStart
  next : w'.nextVfrtMainMemAddr = w.nextVfrtMainMemAddr

namespace SameTable

variable {w w' w'' : AmecWof}

theorem trans (h : SameTable w w') (h' : SameTable w' w'') : SameTable w w'' :=
  ⟨h'.active.trans h.active, h'.header.trans h.header, h'.base.trans h.base, h'.vdn.trans h.vdn, h'.vdd.trans h.vdd, h'.quad.trans h.quad,
    h'.next.trans h.next⟩

theorem logError (w : AmecWof) (bitMask : BitVec 32) : SameTable w (w.logError bitMask) := by
  unfold AmecWof.logError
  split <;> exact ⟨rfl, rfl, rfl, rfl, rfl, rfl, rfl⟩

theorem disableWof (w : AmecWof) (off : ScheduleResult) : SameTable w (w.disableWof off) := by
  unfold AmecWof.disableWof
  dsimp only
  split_ifs <;> exact ⟨rfl, rfl, rfl, rfl, rfl, rfl, rfl⟩

theorem setDisabled (w : AmecWof) (off : ScheduleResult) (bitMask : BitVec 32) : SameTable w (w.setDisabled off bitMask) := by
  have hset : SameTable w (w.setReason off bitMask) := by
    unfold AmecWof.setReason
    dsimp only
    have hreason : SameTable w { w with vfrtState := .standby, wofDisabled := w.wofDisabled ||| bitMask } :=
      ⟨rfl, rfl, rfl, rfl, rfl, rfl, rfl⟩
    have hoff := hreason.trans (disableWof _ off)
    split_ifs
    · exact hreason.trans (logError _ bitMask)
    · exact hreason
    · exact hreason
    · exact hreason
    · exact hoff.trans (logError _ bitMask)
    · exact hreason.trans (logError _ bitMask)
    · exact hoff
    · exact hreason
  exact hset.trans ⟨rfl, rfl, rfl, rfl, rfl, rfl, rfl⟩

theorem sendVfrtToPgpe (w : AmecWof) (env : TickEnv) (addr : BitVec 32) : SameTable w (w.sendVfrtToPgpe env addr) := by
  unfold AmecWof.sendVfrtToPgpe
  dsimp only
  split_ifs
  · exact setDisabled w env.off _
  · exact ⟨rfl, rfl, rfl, rfl, rfl, rfl, rfl⟩
  · exact setDisabled w env.off _
  · exact ⟨rfl, rfl, rfl, rfl, rfl, rfl, rfl⟩
  · refine SameTable.trans ?_ (setDisabled _ env.off _)
    exact ⟨rfl, rfl, rfl, rfl, rfl, rfl, rfl⟩
  · exact ⟨rfl, rfl, rfl, rfl, rfl, rfl, rfl⟩

theorem nextIsTable (h : SameTable w w') (charTest : Bool) : w'.NextIsTable charTest ↔ w.NextIsTable charTest := by
  have hindex : w'.tableIndex charTest = w.tableIndex charTest := by
    unfold AmecWof.tableIndex
    rw [h.header, h.vdn, h.vdd, h.quad]
  constructor
  · rintro ⟨haligned, haddr, hlt⟩
    rw [h.next] at haligned
    rw [h.next, h.base, hindex] at haddr
    rw [hindex, h.header] at hlt
    exact ⟨haligned, haddr, hlt⟩
  · rintro ⟨haligned, haddr, hlt⟩
    rw [← h.next] at haligned
    rw [← h.next, ← h.base, ← hindex] at haddr
    rw [← hindex, ← h.header] at hlt
    exact ⟨haligned, haddr, hlt⟩

end SameTable

/-! ## The address in numbers -/

/-- The next VFRT is the one that the steps give. -/
def AmecWof.withNext (w : AmecWof) (charTest : Bool) : AmecWof :=
  { w with nextVfrtMainMemAddr := w.calcVfrtMainstoreAddr charTest }

theorem vfrtMmOffset_eq (h : WofHeader) (vdn vdd : BitVec 16) (quad : BitVec 8) : vfrtMmOffset h vdn vdd quad =
    BitVec.ofNat 32 (vfrtBlockSize.toNat *
      Radix.pair h.activeQuadsSize.toNat (Radix.pair h.vddSize.toNat vdn.toNat vdd.toNat) quad.toNat) := by
  unfold vfrtMmOffset Radix.pair
  rw [Nat.mul_comm h.vddSize.toNat]
  simp only [BitVec.ofNat_add, BitVec.ofNat_mul, BitVec.ofNat_toNat, BitVec.setWidth_eq]

theorem calcVfrtMainstoreAddr_eq (w : AmecWof) (charTest : Bool) : w.calcVfrtMainstoreAddr charTest =
    BitVec.ofNat 32 (w.vfrtTblsMainMemAddr.toNat + wofHeaderSize.toNat + vfrtBlockSize.toNat * w.tableIndex charTest) := by
  unfold AmecWof.calcVfrtMainstoreAddr AmecWof.tableIndex
  cases charTest
  · dsimp only
    rw [if_neg Bool.false_ne_true, if_neg Bool.false_ne_true, vfrtMmOffset_eq, BitVec.ofNat_add, BitVec.ofNat_add,
      BitVec.ofNat_toNat, BitVec.setWidth_eq, BitVec.ofNat_toNat, BitVec.setWidth_eq]
  · dsimp only
    rw [if_pos rfl, if_pos rfl, Nat.mul_zero, Nat.add_zero, BitVec.ofNat_add, BitVec.ofNat_toNat, BitVec.setWidth_eq,
      BitVec.ofNat_toNat, BitVec.setWidth_eq]
    exact BitVec.add_zero _

/-- The next VFRT is a table when it is one of the tables and its address fits. -/
theorem nextIsTable_withNext {w : AmecWof} {charTest : Bool} (hbase : w.vfrtTblsMainMemAddr = wofTablesAddr) :
    (w.withNext charTest).NextIsTable charTest ↔
      wofTablesAddr.toNat + wofHeaderSize.toNat + vfrtBlockSize.toNat * w.tableIndex charTest < 2 ^ 32 ∧
        w.tableIndex charTest < w.header.tables := by
  have haddr := calcVfrtMainstoreAddr_eq w charTest
  rw [hbase] at haddr
  have hnat := congrArg BitVec.toNat haddr
  rw [BitVec.toNat_ofNat] at hnat
  constructor
  · rintro ⟨-, heq, hlt⟩
    change (w.calcVfrtMainstoreAddr charTest).toNat = w.vfrtTblsMainMemAddr.toNat + wofHeaderSize.toNat +
      vfrtBlockSize.toNat * w.tableIndex charTest at heq
    rw [hbase, hnat] at heq
    exact ⟨by rw [← heq]; exact Nat.mod_lt _ (by decide), hlt⟩
  · rintro ⟨hfits, hlt⟩
    rw [Nat.mod_eq_of_lt hfits] at hnat
    refine ⟨?_, ?_, hlt⟩
    · apply BitVec.eq_of_toNat_eq
      show (w.calcVfrtMainstoreAddr charTest).toNat % 128 = 0
      rw [hnat]
      have hconst : wofTablesAddr.toNat = 0x803C0000 ∧ wofHeaderSize.toNat = 128 ∧ vfrtBlockSize.toNat = 256 := by decide
      obtain ⟨h₁, h₂, h₃⟩ := hconst
      rw [h₁, h₂, h₃]
      omega
    · show (w.calcVfrtMainstoreAddr charTest).toNat = w.vfrtTblsMainMemAddr.toNat + wofHeaderSize.toNat +
        vfrtBlockSize.toNat * w.tableIndex charTest
      rw [hbase, hnat]

/-! ## The steps -/

theorem calculateStepFromStart_toNat {ratio step start size : BitVec 16} (hsize : size ≠ 0) :
    (calculateStepFromStart ratio step start size).toNat = stepsUp ratio.toNat start.toNat step.toNat size.toNat := by
  have hpos : 0 < size.toNat := by
    have hne : size.toNat ≠ 0 := fun h => hsize (BitVec.eq_of_toNat_eq h)
    omega
  unfold calculateStepFromStart stepsUp
  by_cases hlow : ratio ≤ start ∨ step = 0
  · have hlow' : ratio.toNat ≤ start.toNat ∨ step.toNat = 0 := hlow.imp id fun h => by rw [h]; rfl
    rw [if_pos hlow, if_pos hlow']
    rfl
  · obtain ⟨habove, hstep⟩ := not_or.1 hlow
    have hlow' : ¬(ratio.toNat ≤ start.toNat ∨ step.toNat = 0) :=
      not_or.2 ⟨habove, fun h => hstep (BitVec.eq_of_toNat_eq h)⟩
    rw [if_neg hlow, if_neg hlow']
    obtain ⟨habove', hstep'⟩ := not_or.1 hlow'
    have hone : (1 : BitVec 16).toNat = 1 := rfl
    have hnum : (ratio + step - 1 - start).toNat = (ratio.toNat + step.toNat - 1 - start.toNat) % 2 ^ 16 := by
      rw [BitVec.toNat_sub, BitVec.toNat_sub, BitVec.toNat_add, hone]
      omega
    have hq : ((ratio + step - 1 - start) / step).toNat =
        (ratio.toNat + step.toNat - 1 - start.toNat) % 2 ^ 16 / step.toNat := by
      rw [BitVec.toNat_udiv, hnum]
    dsimp only
    split
    · rename_i hle
      have hle : size.toNat ≤ ((ratio + step - 1 - start) / step).toNat := hle
      have hlast : (size - 1).toNat = size.toNat - 1 := by
        rw [BitVec.toNat_sub, hone]
        omega
      rw [hq] at hle
      rw [hlast, min_eq_right (by omega)]
    · rename_i hlt
      have hlt : ¬size.toNat ≤ ((ratio + step - 1 - start) / step).toNat := hlt
      rw [hq] at hlt ⊢
      rw [min_eq_left (by omega)]

theorem stepsUp_lt (ratio start step : Nat) {size : Nat} (hsize : 0 < size) : stepsUp ratio start step size < size := by
  unfold stepsUp
  split
  · exact hsize
  · omega

theorem countQuads_eq_zero_iff (req : BitVec 8) : countQuads req = 0 ↔ req &&& 0xFC = 0 := by
  revert req
  decide

theorem countQuads_le (req : BitVec 8) : (countQuads req).toNat ≤ 6 := by
  revert req
  decide

section
variable (w : AmecWof) (env : TickEnv)

/-- The steps that the algorithm calculates. -/
def AmecWof.mainSteps : AmecWof :=
  (((w.readReqActiveQuads env.reqActiveQuads).calculateCeffRatioVdd env).calculateCeffRatioVdn env).calculateSteps env

/-- The steps of the last VFRT. -/
def AmecWof.initialSteps : AmecWof := w.withSteps (w.header.vdnSize - 1) (w.header.vddSize - 1) (maximumQuads - 1)

theorem mainSteps_frame : (w.mainSteps env).header = w.header ∧
    (w.mainSteps env).vfrtTblsMainMemAddr = w.vfrtTblsMainMemAddr ∧
    (w.mainSteps env).quadStepFromStart = calcQuadStepFromStart w.header.activeQuadsSize (countQuads env.reqActiveQuads) ∧
    (w.mainSteps env).vdnStepFromStart = calculateStepFromStart
      ((if env.divideByZeroVdn then 0 else env.ceffRatioVdn).setWidth 16) w.header.vdnStep w.header.vdnStart w.header.vdnSize ∧
    (w.mainSteps env).vddStepFromStart = calculateStepFromStart
      ((if env.divideByZeroVdd then 0 else env.ceffRatioVdd).setWidth 16) w.header.vddStep w.header.vddStart w.header.vddSize := by
  let w₁ := w.readReqActiveQuads env.reqActiveQuads
  have hvdd : SameTable w₁ (w₁.calculateCeffRatioVdd env) := by
    unfold AmecWof.calculateCeffRatioVdd
    split
    · exact SameTable.setDisabled w₁ env.off _
    · exact ⟨rfl, rfl, rfl, rfl, rfl, rfl, rfl⟩
  have hvdn : SameTable w₁ ((w₁.calculateCeffRatioVdd env).calculateCeffRatioVdn env) := by
    refine hvdd.trans ?_
    unfold AmecWof.calculateCeffRatioVdn
    split
    · exact SameTable.setDisabled _ env.off _
    · exact ⟨rfl, rfl, rfl, rfl, rfl, rfl, rfl⟩
  have hheader : ((w₁.calculateCeffRatioVdd env).calculateCeffRatioVdn env).header = w.header := hvdn.header
  have hactive : ((w₁.calculateCeffRatioVdd env).calculateCeffRatioVdn env).numActiveQuads = countQuads env.reqActiveQuads :=
    hvdn.active
  refine ⟨hheader, hvdn.base, ?_, ?_, ?_⟩
  · show calcQuadStepFromStart ((w₁.calculateCeffRatioVdd env).calculateCeffRatioVdn env).header.activeQuadsSize _ = _
    rw [hheader, hactive]
  · show calculateStepFromStart _ ((w₁.calculateCeffRatioVdd env).calculateCeffRatioVdn env).header.vdnStep _ _ = _
    rw [hheader]
  · show calculateStepFromStart _ ((w₁.calculateCeffRatioVdd env).calculateCeffRatioVdn env).header.vddStep _ _ = _
    rw [hheader]

theorem wofMain_nextIsTable (charTest : Bool) : (w.wofMain { env with charTest := charTest }).NextIsTable charTest ↔
    ((w.mainSteps env).withNext charTest).NextIsTable charTest :=
  (SameTable.sendVfrtToPgpe ((w.mainSteps env).withNext charTest) { env with charTest := charTest } _).nextIsTable charTest

theorem sendInitialVfrtToPgpe_nextIsTable (charTest : Bool) :
    (w.sendInitialVfrtToPgpe { env with charTest := charTest }).NextIsTable charTest ↔
      (w.initialSteps.withNext charTest).NextIsTable charTest := by
  unfold AmecWof.sendInitialVfrtToPgpe
  dsimp only
  refine SameTable.nextIsTable ?_ charTest
  refine SameTable.trans ?_ (SameTable.sendVfrtToPgpe _ _ _)
  split <;> exact ⟨rfl, rfl, rfl, rfl, rfl, rfl, rfl⟩

theorem mainSteps_row (hvdn : w.header.vdnSize ≠ 0) (hvdd : w.header.vddSize ≠ 0) :
    Radix.pair w.header.vddSize.toNat (w.mainSteps env).vdnStepFromStart.toNat (w.mainSteps env).vddStepFromStart.toNat =
      rowOf w.header env := by
  have hratio : ∀ (b : Bool) (x : BitVec 32), ((if b then 0 else x).setWidth 16).toNat = if b then 0 else x.toNat % 2 ^ 16 := by
    intro b x
    rw [BitVec.toNat_setWidth]
    cases b <;> rfl
  obtain ⟨-, -, -, hn, hd⟩ := mainSteps_frame w env
  rw [hn, hd, calculateStepFromStart_toNat hvdn, calculateStepFromStart_toNat hvdd, hratio, hratio]
  rfl

end

/-! ## Containment -/

section
variable {w : AmecWof} {env : TickEnv}

theorem calcVfrtMainstoreAddr_inj {v v' : AmecWof} (hbase : v.vfrtTblsMainMemAddr = wofTablesAddr)
    (hbase' : v'.vfrtTblsMainMemAddr = wofTablesAddr) {tables : Nat} (hlt : v.tableIndex false < tables)
    (hlt' : v'.tableIndex false < tables)
    (hroom : wofTablesAddr.toNat + wofHeaderSize.toNat + vfrtBlockSize.toNat * (tables - 1) < 2 ^ 32)
    (h : v.calcVfrtMainstoreAddr false = v'.calcVfrtMainstoreAddr false) : v.tableIndex false = v'.tableIndex false := by
  have hblock : vfrtBlockSize.toNat = 256 := rfl
  have hfits : ∀ i < tables, wofTablesAddr.toNat + wofHeaderSize.toNat + vfrtBlockSize.toNat * i < 2 ^ 32 := by
    intro i hi
    have hle : vfrtBlockSize.toNat * i ≤ vfrtBlockSize.toNat * (tables - 1) := Nat.mul_le_mul_left _ (by omega)
    omega
  rw [calcVfrtMainstoreAddr_eq, calcVfrtMainstoreAddr_eq, hbase, hbase'] at h
  have hnat := congrArg BitVec.toNat h
  rw [BitVec.toNat_ofNat, BitVec.toNat_ofNat, Nat.mod_eq_of_lt (hfits _ hlt), Nat.mod_eq_of_lt (hfits _ hlt')] at hnat
  rw [hblock] at hnat
  omega

theorem AmecWof.StepsInRange.index_lt {v : AmecWof} (h : v.StepsInRange) : v.tableIndex false < v.header.tables := by
  have hrow := Radix.pair_lt (n := v.header.vddSize.toNat) (m := v.header.vdnSize.toNat) h.vdn h.vdd
  have hlt := Radix.pair_lt (n := v.header.activeQuadsSize.toNat) hrow h.quad
  unfold AmecWof.tableIndex WofHeader.tables
  rw [if_neg Bool.false_ne_true]
  calc _ < _ := hlt
    _ = _ := by rw [Nat.mul_comm v.header.vddSize.toNat, Nat.mul_comm]

theorem mainSteps_index (hvdn : w.header.vdnSize ≠ 0) (hvdd : w.header.vddSize ≠ 0)
    (hsix : w.header.activeQuadsSize = activeQuadSzMax) : (w.mainSteps env).tableIndex false =
      6 * rowOf w.header env + (countQuads env.reqActiveQuads - 1).toNat := by
  obtain ⟨hheader, -, hquad, -, -⟩ := mainSteps_frame w env
  unfold AmecWof.tableIndex
  rw [if_neg Bool.false_ne_true, hheader, mainSteps_row w env hvdn hvdd, hquad, hsix]
  rfl

theorem initialSteps_index (hvdn : w.header.vdnSize ≠ 0) (hvdd : w.header.vddSize ≠ 0) :
    w.initialSteps.tableIndex false =
      w.header.activeQuadsSize.toNat * (w.header.vdnSize.toNat * w.header.vddSize.toNat - 1) + 5 := by
  have hlast : ∀ size : BitVec 16, size ≠ 0 → (size - 1).toNat = size.toNat - 1 ∧ 0 < size.toNat := by
    intro size hsize
    have hne : size.toNat ≠ 0 := fun h => hsize (BitVec.eq_of_toNat_eq h)
    have hone : (1 : BitVec 16).toNat = 1 := rfl
    rw [BitVec.toNat_sub, hone]
    omega
  obtain ⟨hn, hnpos⟩ := hlast _ hvdn
  obtain ⟨hd, hdpos⟩ := hlast _ hvdd
  have hrow := Radix.pair_last hnpos hdpos
  rw [Nat.mul_comm w.header.vddSize.toNat] at hrow
  rw [← hrow, ← hn, ← hd]
  rfl

/-- The steps of `wof_main` lead to a table that the header counts, below 4 GiB. -/
theorem wofMain_isTable_iff (hbase : w.vfrtTblsMainMemAddr = wofTablesAddr) (charTest : Bool) :
    (w.wofMain { env with charTest := charTest }).NextIsTable charTest ↔
      wofTablesAddr.toNat + wofHeaderSize.toNat + vfrtBlockSize.toNat * (w.mainSteps env).tableIndex charTest < 2 ^ 32 ∧
        (w.mainSteps env).tableIndex charTest < w.header.tables := by
  obtain ⟨hheader, hbase', -, -, -⟩ := mainSteps_frame w env
  rw [wofMain_nextIsTable, nextIsTable_withNext (hbase'.trans hbase), hheader]

theorem sendInitialVfrtToPgpe_isTable_iff (hbase : w.vfrtTblsMainMemAddr = wofTablesAddr) (charTest : Bool) :
    (w.sendInitialVfrtToPgpe { env with charTest := charTest }).NextIsTable charTest ↔
      wofTablesAddr.toNat + wofHeaderSize.toNat + vfrtBlockSize.toNat * w.initialSteps.tableIndex charTest < 2 ^ 32 ∧
        w.initialSteps.tableIndex charTest < w.header.tables := by
  rw [sendInitialVfrtToPgpe_nextIsTable, nextIsTable_withNext (w := w.initialSteps) hbase]
  rfl

theorem tables_eq (h : WofHeader) : h.tables = h.vdnSize.toNat * h.vddSize.toNat * h.activeQuadsSize.toNat := rfl

/-- When the next VFRTs are tables, everything fits. -/
theorem vfrtFits_of_contained (hbase : w.vfrtTblsMainMemAddr = wofTablesAddr)
    (hquads : w.header.activeQuadsSize = activeQuadSzMin ∨ w.header.activeQuadsSize = activeQuadSzMax)
    (h : VfrtContained w env) : VfrtFits w.header env := by
  have htables := tables_eq w.header
  obtain ⟨hm, hi, -⟩ := h
  -- there is a first table
  have hpos : 0 < w.header.tables := ((wofMain_isTable_iff hbase true).1 (hm true)).2
  have hvdn : w.header.vdnSize ≠ 0 := by
    intro h
    rw [htables, h] at hpos
    simp at hpos
  have hvdd : w.header.vddSize ≠ 0 := by
    intro h
    rw [htables, h] at hpos
    simp at hpos
  obtain ⟨hfits, hlt⟩ := (sendInitialVfrtToPgpe_isTable_iff hbase false).1 (hi false)
  rw [initialSteps_index hvdn hvdd] at hfits hlt
  -- the initial VFRT is the sixth of the last row
  have hsix : w.header.activeQuadsSize = activeQuadSzMax := by
    refine hquads.resolve_left fun hone => ?_
    have honeNat : w.header.activeQuadsSize.toNat = 1 := by rw [hone]; rfl
    rw [htables, honeNat] at hlt
    omega
  have hsixNat : w.header.activeQuadsSize.toNat = 6 := by rw [hsix]; rfl
  rw [htables, hsixNat] at hpos
  refine ⟨hsix, hvdn, hvdd, ?_, ?_⟩
  · rw [hsixNat] at hfits
    rw [htables, hsixNat]
    have hlast : 6 * (w.header.vdnSize.toNat * w.header.vddSize.toNat - 1) + 5 =
        w.header.vdnSize.toNat * w.header.vddSize.toNat * 6 - 1 := by omega
    rwa [hlast] at hfits
  · obtain ⟨-, hindex⟩ := (wofMain_isTable_iff hbase false).1 (hm false)
    rw [mainSteps_index hvdn hvdd hsix, htables, hsixNat] at hindex
    by_cases hreq : env.reqActiveQuads &&& 0xFC = 0
    · right
      have hnone : (countQuads env.reqActiveQuads - 1).toNat = 255 := by rw [(countQuads_eq_zero_iff _).2 hreq]; rfl
      omega
    · exact .inl hreq

theorem VfrtFits.rows {h : WofHeader} (hfits : VfrtFits h env) :
    h.tables = h.vdnSize.toNat * h.vddSize.toNat * 6 ∧ rowOf h env < h.vdnSize.toNat * h.vddSize.toNat := by
  have hsix : h.activeQuadsSize.toNat = 6 := by rw [hfits.sixQuads]; rfl
  have hvdn : h.vdnSize.toNat ≠ 0 := fun h => hfits.vdn (BitVec.eq_of_toNat_eq h)
  have hvdd : h.vddSize.toNat ≠ 0 := fun h => hfits.vdd (BitVec.eq_of_toNat_eq h)
  constructor
  · rw [tables_eq, hsix]
  · rw [Nat.mul_comm]
    exact Radix.pair_lt (stepsUp_lt _ _ _ (Nat.pos_of_ne_zero hvdn)) (stepsUp_lt _ _ _ (Nat.pos_of_ne_zero hvdd))

/-- When everything fits, the steps of `wof_main` lead to a table of the header. -/
theorem mainSteps_index_lt (h : VfrtFits w.header env) (charTest : Bool) :
    (w.mainSteps env).tableIndex charTest < w.header.tables := by
  obtain ⟨htables, hrow⟩ := h.rows
  obtain ⟨hsix, hvdn, hvdd, -, hreq⟩ := h
  cases charTest with
  | true =>
    show 0 < w.header.tables
    omega
  | false =>
    rw [mainSteps_index hvdn hvdd hsix, htables]
    have hcount := countQuads_le env.reqActiveQuads
    obtain hon | hfar := hreq
    · have hne : (countQuads env.reqActiveQuads).toNat ≠ 0 := fun h =>
        hon ((countQuads_eq_zero_iff _).1 (BitVec.eq_of_toNat_eq h))
      have hone : (1 : BitVec 8).toNat = 1 := rfl
      rw [BitVec.toNat_sub, hone]
      omega
    · have hbyte := (countQuads env.reqActiveQuads - 1).isLt
      omega

theorem initialSteps_index_lt (h : VfrtFits w.header env) (charTest : Bool) :
    w.initialSteps.tableIndex charTest < w.header.tables := by
  have hsixNat : w.header.activeQuadsSize.toNat = 6 := by rw [h.sixQuads]; rfl
  obtain ⟨htables, hrow⟩ := h.rows
  cases charTest with
  | true =>
    show 0 < w.header.tables
    omega
  | false =>
    rw [initialSteps_index h.vdn h.vdd, htables, hsixNat]
    omega

theorem contained_of_vfrtFits (hbase : w.vfrtTblsMainMemAddr = wofTablesAddr) (h : VfrtFits w.header env) :
    VfrtContained w env := by
  have hroom := h.room
  have hfits : ∀ i < w.header.tables, wofTablesAddr.toNat + wofHeaderSize.toNat + vfrtBlockSize.toNat * i < 2 ^ 32 := by
    intro i hi
    have hle : vfrtBlockSize.toNat * i ≤ vfrtBlockSize.toNat * (w.header.tables - 1) := Nat.mul_le_mul_left _ (by omega)
    omega
  refine ⟨fun charTest => ?_, fun charTest => ?_, ?_⟩
  · have hindex := mainSteps_index_lt h charTest
    exact (wofMain_isTable_iff hbase charTest).2 ⟨hfits _ hindex, hindex⟩
  · have hindex := initialSteps_index_lt h charTest
    exact (sendInitialVfrtToPgpe_isTable_iff hbase charTest).2 ⟨hfits _ hindex, hindex⟩
  · intro vdn vdn' vdd vdd' quad quad' hrange hrange' heq
    have hindex := @calcVfrtMainstoreAddr_inj (w.withSteps vdn vdd quad) (w.withSteps vdn' vdd' quad') hbase hbase _
      hrange.index_lt hrange'.index_lt hroom heq
    obtain ⟨hpair, hquad⟩ := Radix.pair_inj hrange.quad hrange'.quad hindex
    obtain ⟨hn, hd⟩ := Radix.pair_inj hrange.vdd hrange'.vdd hpair
    exact ⟨BitVec.eq_of_toNat_eq hn, BitVec.eq_of_toNat_eq hd, BitVec.eq_of_toNat_eq hquad⟩

theorem vfrtContained_iff_fits (hbase : w.vfrtTblsMainMemAddr = wofTablesAddr)
    (hquads : w.header.activeQuadsSize = activeQuadSzMin ∨ w.header.activeQuadsSize = activeQuadSzMax) :
    VfrtContained w env ↔ VfrtFits w.header env :=
  ⟨vfrtFits_of_contained hbase hquads, contained_of_vfrtFits hbase⟩

end

/-- Of every header that is accepted, the next VFRTs are tables, each at an address of its own, exactly when the tables
are for six quads, there are some that fit, and a quad is requested or the 255th table on still exists. -/
theorem vfrtContained_iff {w : AmecWof} {r : HeaderRead} (hacc : (w.readWofHeader r).2 = true) (env : TickEnv) :
    VfrtContained (w.readWofHeader r).1 env ↔ VfrtFits r.header env := by
  have haligned : wofTablesAddr ≠ 0 ∧ wofTablesAddr % 128 = 0 := by decide
  unfold AmecWof.readWofHeader at hacc ⊢
  dsimp only at hacc ⊢
  rw [if_pos haligned] at hacc ⊢
  split at hacc
  · rename_i hread
    rw [if_pos hread]
    exact vfrtContained_iff_fits rfl hread.2.2.2
  · cases hacc

/-- The header for six quads. -/
def sixQuadsRead : HeaderRead :=
  { bceCreated := true, bceScheduled := true, magicNumber := wofMagicNumber, header := sixQuads, off := .started }

theorem vfrtContained_sixQuads : VfrtContained ((AmecWof.start sixQuads 0).readWofHeader sixQuadsRead).1 activeTick :=
  (vfrtContained_iff rfl activeTick).2 ⟨rfl, by decide, by decide, by decide, .inl (by decide)⟩

/-- No quad is requested. -/
def noQuadsTick : TickEnv := { activeTick with reqActiveQuads := 0, ceffRatioVdd := 10000, ceffRatioVdn := 10000 }

/-- The next VFRT is past the last table. -/
theorem not_vfrtContained_noQuads :
    (((AmecWof.start sixQuads 0).readWofHeader sixQuadsRead).1.wofMain noQuadsTick).tableIndex false = 1131 ∧
    sixQuads.tables = 1008 ∧
    ¬VfrtContained ((AmecWof.start sixQuads 0).readWofHeader sixQuadsRead).1 noQuadsTick :=
  ⟨by decide, by decide, fun h => absurd (h.main false).index (by decide)⟩

/-- A header for any number of quads. -/
def oneQuadRead : HeaderRead := { sixQuadsRead with header := { sixQuads with activeQuadsSize := 1 } }

theorem not_vfrtContained_oneQuad : ((AmecWof.start sixQuads 0).readWofHeader oneQuadRead).2 = true ∧
    (((AmecWof.start sixQuads 0).readWofHeader oneQuadRead).1.sendInitialVfrtToPgpe activeTick).tableIndex false = 172 ∧
    oneQuadRead.header.tables = 168 ∧
    ¬VfrtContained ((AmecWof.start sixQuads 0).readWofHeader oneQuadRead).1 activeTick :=
  ⟨rfl, by decide, by decide, fun h => absurd (h.initial false).index (by decide)⟩

end Occ.Wof
