/-
The leakage of the cores, caches and quads (`calculate_core_leakage` in `wof.c`): no quotient is by 0, and no step wraps, if and
only if the counts of good quads and cores and the values without limits allow it, and then the sums are exact.
-/
import Occ.Lib.Exact
import Occ.Wof.CoreLeakage
import Mathlib.Tactic.MkIffOfInductiveProp

namespace Occ.Wof

open Piecewise (line)

/-! ## Calls of `scale_and_interpolate` -/

/-- A product in `scale`. -/
def scaleProduct (t : MultTable) (current delta : BitVec 16) : BitVec 32 :=
  current.setWidth 32 * calculateMultiplier t (delta.signExtend 32)

/-- The product without limits. -/
def exactProduct (src : MultSource) (current delta : BitVec 16) : Int := current.toNat * src.multiplier delta.toInt

/-- A call for a voltage and the index that belongs to it. -/
structure LeakCall where
  row : LeakageRow
  base : SensorTemp
  voltage : BitVec 16

namespace LeakCall

variable (src : MultSource) (t : MultTable) (c : LeakCall)

def idx : Nat := getVoltageIndex (c.voltage.setWidth 32)

def value : BitVec 32 := scaleAndInterpolate t c.row c.idx c.base.sample c.voltage

def lowerDelta : BitVec 16 := c.row.deltaTemp c.idx c.base.sample
def upperDelta : BitVec 16 := c.row.deltaTemp (c.idx + 1) c.base.sample

/-- The scaled currents without limits, in mA. -/
def lowerLeak : Int := 5 * (exactProduct src (c.row.leak c.idx) c.lowerDelta / 1024)
def upperLeak : Int := 5 * (exactProduct src (c.row.leak (c.idx + 1)) c.upperDelta / 1024)

/-- The product of the interpolation without limits. -/
def product : Int := (c.voltage.toNat - (iddqVoltage c.idx).toNat) * (c.upperLeak src - c.lowerLeak src)

/-- The current without limits. -/
def exactValue : Int := (line (iddqVoltage c.idx).toNat (iddqVoltage (c.idx + 1)).toNat (c.lowerLeak src) (c.upperLeak src)
  c.voltage.toNat).tdiv 10

end LeakCall

/-- The steps of a call are exact. -/
structure CallLaw (src : MultSource) (t : MultTable) (c : LeakCall) : Prop where
  lower : Exact (scaleProduct t (c.row.leak c.idx) c.lowerDelta) (exactProduct src (c.row.leak c.idx) c.lowerDelta)
  upper : Exact (scaleProduct t (c.row.leak (c.idx + 1)) c.upperDelta)
    (exactProduct src (c.row.leak (c.idx + 1)) c.upperDelta)
  product : ((c.voltage.setWidth 32 - (iddqVoltage c.idx).setWidth 32) *
    (scale t (c.row.leak (c.idx + 1)) c.upperDelta * 5 - scale t (c.row.leak c.idx) c.lowerDelta * 5)).toInt = c.product src
  value : Exact (c.value t) (c.exactValue src)

/-- The values of a call without limits are in range. -/
@[mk_iff]
structure CallOk (src : MultSource) (c : LeakCall) : Prop where
  lower : InRange 32 (exactProduct src (c.row.leak c.idx) c.lowerDelta)
  upper : InRange 32 (exactProduct src (c.row.leak (c.idx + 1)) c.upperDelta)
  product : -2 ^ 31 ≤ c.product src ∧ c.product src < 2 ^ 31
  value : InRange 32 (c.exactValue src)

instance (src : MultSource) (c : LeakCall) : Decidable (CallOk src c) := decidable_of_iff' _ (callOk_iff src c)

theorem getVoltageIndex_lt (voltage : BitVec 16) : getVoltageIndex (voltage.setWidth 32) < 5 := by
  have hwidth : ∀ b : BitVec 16, (b.setWidth 32).toNat = b.toNat := fun b => BitVec.toNat_setWidth_of_le (by decide)
  have hlow := iddqVoltage_eq 0 (by decide)
  have hhigh := iddqVoltage_eq 5 (by decide)
  unfold getVoltageIndex
  split
  · decide
  · split
    · decide
    · rename_i habove hbelow
      rw [BitVec.le_def, hwidth, hwidth, hlow] at habove
      rw [BitVec.le_def, hwidth, hwidth, hhigh] at hbelow
      have hsome : ∃ i < 5, 6000 + 1000 * i ≤ voltage.toNat ∧ voltage.toNat ≤ 6000 + 1000 * (i + 1) :=
        ⟨(voltage.toNat - 6000) / 1000, by omega, by omega, by omega⟩
      obtain ⟨i, hi, hle, hge⟩ := hsome
      have hlength : (List.range 5).length = 5 := List.length_range
      refine Nat.lt_of_lt_of_eq (List.findIdx_lt_length_of_exists ⟨i, List.mem_range.2 hi, ?_⟩) hlength
      rw [decide_eq_true_eq, BitVec.le_def, BitVec.le_def, hwidth, hwidth, hwidth, iddqVoltage_eq i (by omega),
        iddqVoltage_eq (i + 1) (by omega)]
      exact ⟨hle, hge⟩

section
variable {src : MultSource} {t : MultTable}

theorem wraps_scaleProduct (h : src.table = some t) (current : BitVec 16) {delta : BitVec 16} (hd : Produced delta) :
    Wraps (scaleProduct t current delta) (exactProduct src current delta) := by
  have hmult := wraps_toInt (calculateMultiplier t (delta.signExtend 32))
  have heq := multiplierOf_eq h hd
  unfold multiplierOf at heq
  rw [heq] at hmult
  exact (exact_extend current (by decide)).wraps.mul hmult

theorem toInt_scale_five {current delta : BitVec 16} {p : Int} (h : Exact (scaleProduct t current delta) p) :
    (scale t current delta * 5).toInt = 5 * (p / 1024) ∧ 0 ≤ 5 * (p / 1024) ∧ 5 * (p / 1024) ≤ 25000000 := by
  have hscale : Exact (scale t current delta) (p / 1024) := h.shiftRight 10
  obtain ⟨hnonneg, hlt⟩ := h.inRange
  have hfive : (5 : BitVec 32).toInt = 5 := rfl
  have hsigned : (scale t current delta).toInt = p / 1024 := by
    unfold Exact at hscale
    rw [BitVec.toInt_eq_toNat_of_lt (by omega), hscale]
  refine ⟨?_, by omega, by omega⟩
  rw [toInt_mul_of (by rw [hfive]; omega) (by rw [hfive]; omega), hsigned, hfive]
  omega

theorem callLaw_iff (h : src.table = some t) (c : LeakCall) : CallLaw src t c ↔ CallOk src c := by
  have hlower := wraps_scaleProduct h (c.row.leak c.idx) (produced_deltaTemp c.row c.idx c.base)
  have hupper := wraps_scaleProduct h (c.row.leak (c.idx + 1)) (produced_deltaTemp c.row (c.idx + 1) c.base)
  constructor
  · rintro ⟨hl, hu, hp, hv⟩
    refine ⟨hl.inRange, hu.inRange, ?_, hv.inRange⟩
    rw [← hp]
    exact ⟨BitVec.le_toInt _, BitVec.toInt_lt⟩
  · rintro ⟨hl, hu, hp, hv⟩
    have hl' := hlower.exact_iff.2 hl
    have hu' := hupper.exact_iff.2 hu
    obtain ⟨hy₁, hlow₁, hhigh₁⟩ := toInt_scale_five hl'
    obtain ⟨hy₂, hlow₂, hhigh₂⟩ := toInt_scale_five hu'
    have hidx := getVoltageIndex_lt c.voltage
    have hvalue := wraps_toInt (c.value t)
    have hexact : (c.value t).toInt = c.exactValue src :=
      toInt_scaleAndInterpolate hidx hy₁ hy₂ ⟨hlow₁, hhigh₁⟩ ⟨hlow₂, hhigh₂⟩ hp
    rw [hexact] at hvalue
    exact ⟨hl', hu', toInt_interpolationProduct hidx hy₁ hy₂ ⟨hlow₁, hhigh₁⟩ ⟨hlow₂, hhigh₂⟩ hp, hvalue.exact_iff.2 hv⟩

end

/-! ## The values without limits -/

section
variable (src : MultSource) (v : LeakageVpd) (r : CoreReadings) (quad core : Nat)

/-- The calls for the nest: all cores and caches off, and the good caches on. -/
def cachesOffCall : LeakCall := ⟨v.allCoresOffCachesOff, r.tempnest, r.vCore quad⟩
def cachesOnCall : LeakCall := ⟨v.allGoodCoresOffGoodCachesOn, r.tempnest, r.vCore quad⟩

/-- The calls for a core: the good cores of its quad on, and all cores off. -/
def coresOnCall : LeakCall := ⟨v.quadGoodCoresOnGoodCachesOn quad, r.coreTemp quad core, r.vCore quad⟩
def coresOffCall : LeakCall := ⟨v.allGoodCoresOffGoodCachesOn, r.coreTemp quad core, r.vCore quad⟩

def exactOffBefore : Int := (cachesOffCall v r quad).exactValue src
def exactOffIso : Int := exactOffBefore src v r quad * v.nestLeakagePercent.toNat / 100
def exactCachesOn : Int := (cachesOnCall v r quad).exactValue src - exactOffIso src v r quad
def exactCachesOff : Int := exactOffBefore src v r quad - exactOffIso src v r quad
def exactIdcQuad : Int := exactCachesOff src v r quad / 6

/-- The product for the caches of quads that are not good. -/
def exactMissing : Int := exactCachesOff src v r quad * (6 - v.goodQuadsPerSort.toNat)

def exactQuadCache : Int :=
  (exactCachesOn src v r quad - exactMissing src v r quad / 6) / v.goodQuadsPerSort.toNat

/-- The leakage of the cores of a quad but for the part of the isolated ones. -/
def exactDifference : Int := (coresOnCall v r quad core).exactValue src - (coresOffCall v r quad core).exactValue src

def exactGoodCoresOnly : Int :=
  exactDifference src v r quad core + exactOffIso src v r quad * (v.goodNormalCores quad).toNat / 24

def exactOnCores : Int := exactGoodCoresOnly src v r quad core / (v.goodNormalCores quad).toNat

/-- The difference of the temperatures that the caches are scaled for. -/
def cacheDelta : BitVec 16 := (r.quadTemp quad).sample - r.tempnest.sample

/-- The product that scales the caches. -/
def exactCacheProduct : Int := exactQuadCache src v r quad * src.multiplier (cacheDelta r quad).toInt

/-- What a core adds. -/
def exactCore : Int := if r.corePoweredOn core then exactOnCores src v r quad core else 0

/-- What a quad adds. -/
def exactQuad : Int :=
  if r.quadIsOff quad then exactIdcQuad src v r quad + exactOffIso src v r quad * 4 / 24
  else ((CoreReadings.coresOf quad).map (exactCore src v r quad)).sum +
    exactOffIso src v r quad * r.numCoresOffInQuad quad / 24 + exactCacheProduct src v r quad / 1024

/-- The sum over all quads. -/
def exactIdcVdd : Int := ((List.range maximumQuads.toNat).map (exactQuad src v r)).sum

end

/-! ## The law -/

section
variable (src : MultSource) (t : MultTable) (v : LeakageVpd) (r : CoreReadings) (quad core : Nat)

/-- The steps for a core that is on are exact. -/
structure CoreLaw : Prop where
  on : CallLaw src t (coresOnCall v r quad core)
  off : CallLaw src t (coresOffCall v r quad core)
  difference : Exact ((coresOnCall v r quad core).value t - (coresOffCall v r quad core).value t)
    (exactDifference src v r quad core)
  isolated : Exact (allCoresOffIso t v r quad * (v.goodNormalCores quad).setWidth 32)
    (exactOffIso src v r quad * (v.goodNormalCores quad).toNat)
  goodCoresOnly : Exact (quadGoodCoresOnly t v r quad core) (exactGoodCoresOnly src v r quad core)
  onCores : Exact (quadOnCores t v r quad core) (exactOnCores src v r quad core)

/-- The steps for a quad that is on are exact. -/
structure QuadOnLaw : Prop where
  cachesOnCall : CallLaw src t (cachesOnCall v r quad)
  cachesOn : Exact (allGoodCachesOnIso t v r quad) (exactCachesOn src v r quad)
  missing : Exact (allCachesOffIso t v r quad * (6 - v.goodQuadsPerSort.setWidth 32)) (exactMissing src v r quad)
  remaining : Exact (allGoodCachesOnIso t v r quad - allCachesOffIso t v r quad * (6 - v.goodQuadsPerSort.setWidth 32) / 6)
    (exactCachesOn src v r quad - exactMissing src v r quad / 6)
  cache : Exact (quadCache t v r quad) (exactQuadCache src v r quad)
  cacheProduct : Exact (scaleProduct t (quadCache t v r quad) (cacheDelta r quad)) (exactCacheProduct src v r quad)
  coresOff : Exact (allCoresOffIso t v r quad * BitVec.ofNat 32 (r.numCoresOffInQuad quad))
    (exactOffIso src v r quad * r.numCoresOffInQuad quad)
  cores : ∀ core ∈ CoreReadings.coresOf quad, r.corePoweredOn core → CoreLaw src t v r quad core

/-- The steps for a quad are exact. -/
structure QuadLaw : Prop where
  cachesOffCall : CallLaw src t (cachesOffCall v r quad)
  percent : Exact (allCoresOffBefore t v r quad * v.nestLeakagePercent.setWidth 32)
    (exactOffBefore src v r quad * v.nestLeakagePercent.toNat)
  cachesOff : Exact (allCachesOffIso t v r quad) (exactCachesOff src v r quad)
  coresOff : r.quadIsOff quad → Exact (allCoresOffIso t v r quad * 4) (exactOffIso src v r quad * 4)
  on : ¬r.quadIsOff quad → QuadOnLaw src t v r quad

/-- All steps are exact, the function comes to its end, and so are the sums that it writes. -/
structure CoreLeakageLaw : Prop where
  quads : ∀ quad < maximumQuads.toNat, QuadLaw src t v r quad
  sums : ∀ wof, ∃ wof', calculateCoreLeakage t v r wof = some wof' ∧ Exact wof'.idcVdd (exactIdcVdd src v r) ∧
    Exact wof'.idcQuad (exactIdcQuad src v r (maximumQuads.toNat - 1))

end

/-! ## The condition -/

section
variable (src : MultSource) (v : LeakageVpd) (r : CoreReadings) (quad core : Nat)

/-- There are good cores, and the values for a core that is on are in range. -/
@[mk_iff]
structure CoreOk : Prop where
  goodCores : v.goodNormalCores quad ≠ 0
  on : CallOk src (coresOnCall v r quad core)
  off : CallOk src (coresOffCall v r quad core)
  difference : InRange 32 (exactDifference src v r quad core)
  isolated : InRange 32 (exactOffIso src v r quad * (v.goodNormalCores quad).toNat)
  goodCoresOnly : InRange 32 (exactGoodCoresOnly src v r quad core)
  onCores : InRange 16 (exactOnCores src v r quad core)

/-- The values for a quad that is on are in range. -/
@[mk_iff]
structure QuadOnOk : Prop where
  cachesOnCall : CallOk src (cachesOnCall v r quad)
  cachesOn : InRange 32 (exactCachesOn src v r quad)
  missing : InRange 32 (exactMissing src v r quad)
  remaining : InRange 32 (exactCachesOn src v r quad - exactMissing src v r quad / 6)
  cache : InRange 16 (exactQuadCache src v r quad)
  cacheProduct : InRange 32 (exactCacheProduct src v r quad)
  coresOff : InRange 32 (exactOffIso src v r quad * r.numCoresOffInQuad quad)
  cores : ∀ core ∈ CoreReadings.coresOf quad, r.corePoweredOn core → CoreOk src v r quad core

/-- The values for a quad are in range. -/
@[mk_iff]
structure QuadOk : Prop where
  cachesOffCall : CallOk src (cachesOffCall v r quad)
  percent : InRange 32 (exactOffBefore src v r quad * v.nestLeakagePercent.toNat)
  cachesOff : InRange 32 (exactCachesOff src v r quad)
  coresOff : r.quadIsOff quad → InRange 32 (exactOffIso src v r quad * 4)
  on : ¬r.quadIsOff quad → QuadOnOk src v r quad

/-- There are good quads, the values for all quads are in range, and the sum fits into 16 bits. -/
@[mk_iff]
structure CoreLeakageOk : Prop where
  goodQuads : v.goodQuadsPerSort ≠ 0
  quads : ∀ quad < maximumQuads.toNat, QuadOk src v r quad
  total : InRange 16 (exactIdcVdd src v r)

instance : Decidable (CoreOk src v r quad core) := decidable_of_iff' _ (coreOk_iff src v r quad core)
instance : Decidable (QuadOnOk src v r quad) := decidable_of_iff' _ (quadOnOk_iff src v r quad)
instance : Decidable (QuadOk src v r quad) := decidable_of_iff' _ (quadOk_iff src v r quad)
instance : Decidable (CoreLeakageOk src v r) := decidable_of_iff' _ (coreLeakageOk_iff src v r)

end

/-! ## A quad -/

section
variable {src : MultSource} {t : MultTable} {v : LeakageVpd} {r : CoreReadings} {quad core : Nat}

theorem exact_offIso (hbefore : Exact (allCoresOffBefore t v r quad * v.nestLeakagePercent.setWidth 32)
    (exactOffBefore src v r quad * v.nestLeakagePercent.toNat)) :
    Exact (allCoresOffIso t v r quad) (exactOffIso src v r quad) :=
  hbefore.div (exact_toNat (100 : BitVec 32))

theorem coreLaw_iff (h : src.table = some t) (hiso : Exact (allCoresOffIso t v r quad) (exactOffIso src v r quad))
    (hgood : v.goodNormalCores quad ≠ 0) : CoreLaw src t v r quad core ↔ CoreOk src v r quad core := by
  have hcores := exact_extend (v.goodNormalCores quad) (v := 32) (by decide)
  have hisolated := hiso.wraps.mul hcores.wraps
  constructor
  · rintro ⟨hon, hoff, hdifference, hisolated', hgoodOnly, honCores⟩
    exact ⟨hgood, (callLaw_iff h _).1 hon, (callLaw_iff h _).1 hoff, hdifference.inRange, hisolated'.inRange,
      hgoodOnly.inRange, honCores.inRange⟩
  · rintro ⟨-, hon, hoff, hdifference, hisolated', hgoodOnly, honCores⟩
    have hon' := (callLaw_iff h _).2 hon
    have hoff' := (callLaw_iff h _).2 hoff
    have hdiff := (hon'.value.wraps.sub hoff'.value.wraps).exact_iff.2 hdifference
    have hpart := hisolated.exact_iff.2 hisolated'
    have honly := (hdiff.wraps.add (hpart.div (exact_toNat (24 : BitVec 32))).wraps).exact_iff.2 hgoodOnly
    exact ⟨hon', hoff', hdiff, hpart, honly, ((honly.div hcores).setWidth 16).exact_iff.2 honCores⟩

theorem produced_cacheDelta : Produced (cacheDelta r quad) := produced_sub (r.quadTemp quad).valid r.tempnest.valid

/-- The steps for a quad that is on. -/
theorem quadOnLaw_iff (h : src.table = some t) (hiso : Exact (allCoresOffIso t v r quad) (exactOffIso src v r quad))
    (hoff : Exact (allCachesOffIso t v r quad) (exactCachesOff src v r quad))
    (hgood : ∀ core ∈ CoreReadings.coresOf quad, r.corePoweredOn core → v.goodNormalCores quad ≠ 0) :
    QuadOnLaw src t v r quad ↔ QuadOnOk src v r quad := by
  have hquads := exact_extend v.goodQuadsPerSort (v := 32) (by decide)
  have hmissing := hoff.wraps.mul ((exact_toNat (6 : BitVec 32)).wraps.sub hquads.wraps)
  have hnumOff : Wraps (BitVec.ofNat 32 (r.numCoresOffInQuad quad)) (r.numCoresOffInQuad quad) :=
    (BitVec.ofInt_natCast _ _).symm
  constructor
  · rintro ⟨hcall, hcachesOn, hmissing', hremaining, hcache, hproduct, hcoresOff, hcores⟩
    exact ⟨(callLaw_iff h _).1 hcall, hcachesOn.inRange, hmissing'.inRange, hremaining.inRange, hcache.inRange,
      hproduct.inRange, hcoresOff.inRange, fun core hcore hon => (coreLaw_iff h hiso (hgood core hcore hon)).1
        (hcores core hcore hon)⟩
  · rintro ⟨hcall, hcachesOn, hmissing', hremaining, hcache, hproduct, hcoresOff, hcores⟩
    have hcall' := (callLaw_iff h _).2 hcall
    have hon := (hcall'.value.wraps.sub hiso.wraps).exact_iff.2 hcachesOn
    have hlost := hmissing.exact_iff.2 hmissing'
    have hrest := (hon.wraps.sub (hlost.div (exact_toNat (6 : BitVec 32))).wraps).exact_iff.2 hremaining
    have hquadCache : Exact (quadCache t v r quad) (exactQuadCache src v r quad) :=
      ((hrest.div hquads).setWidth 16).exact_iff.2 hcache
    have hscaled := wraps_scaleProduct h (quadCache t v r quad) (@produced_cacheDelta r quad)
    unfold exactProduct at hscaled
    rw [hquadCache] at hscaled
    exact ⟨hcall', hon, hlost, hrest, hquadCache, hscaled.exact_iff.2 hproduct,
      (hiso.wraps.mul hnumOff).exact_iff.2 hcoresOff,
      fun core hcore hon => (coreLaw_iff h hiso (hgood core hcore hon)).2 (hcores core hcore hon)⟩

/-- The cores that are on have a quad with good cores. -/
def HasGoodCores (v : LeakageVpd) (r : CoreReadings) (quad : Nat) : Prop :=
  ¬r.quadIsOff quad → ∀ core ∈ CoreReadings.coresOf quad, r.corePoweredOn core → v.goodNormalCores quad ≠ 0

theorem QuadOk.hasGoodCores (hok : QuadOk src v r quad) : HasGoodCores v r quad :=
  fun hquad core hcore hon => ((hok.on hquad).cores core hcore hon).goodCores

theorem quadLaw_iff (h : src.table = some t) (hgood : HasGoodCores v r quad) :
    QuadLaw src t v r quad ↔ QuadOk src v r quad := by
  have hpercent := exact_extend v.nestLeakagePercent (v := 32) (by decide)
  constructor
  · rintro ⟨hcall, hproduct, hcachesOff, hcoresOff, hon⟩
    have hiso := exact_offIso hproduct
    exact ⟨(callLaw_iff h _).1 hcall, hproduct.inRange, hcachesOff.inRange, fun hquad => (hcoresOff hquad).inRange,
      fun hquad => (quadOnLaw_iff h hiso hcachesOff (hgood hquad)).1 (hon hquad)⟩
  · rintro ⟨hcall, hproduct, hcachesOff, hcoresOff, hon⟩
    have hcall' := (callLaw_iff h _).2 hcall
    have hproduct' := (hcall'.value.wraps.mul hpercent.wraps).exact_iff.2 hproduct
    have hiso := exact_offIso hproduct'
    have hcaches : Exact (allCachesOffIso t v r quad) (exactCachesOff src v r quad) :=
      (hcall'.value.wraps.sub hiso.wraps).exact_iff.2 hcachesOff
    exact ⟨hcall', hproduct', hcaches,
      fun hquad => (hiso.wraps.mul (exact_toNat (4 : BitVec 32)).wraps).exact_iff.2 (hcoresOff hquad),
      fun hquad => (quadOnLaw_iff h hiso hcaches (hgood hquad)).2 (hon hquad)⟩

end

/-! ## The loops -/

section
variable {src : MultSource} {t : MultTable} {v : LeakageVpd} {r : CoreReadings} {quad : Nat}

/-- The loop over cores adds what the cores add, and counts those that are off. -/
theorem coresLoop_spec {l : List Nat} (hgood : ∀ core ∈ l, r.corePoweredOn core → v.goodNormalCores quad ≠ 0)
    (hlaw : ∀ core ∈ l, r.corePoweredOn core → CoreLaw src t v r quad core) (s : LeakageLoop) {x : Int}
    (hx : Wraps s.idcVdd x) : ∃ s', l.foldlM (leakCore t v r quad) s = some s' ∧
      Wraps s'.idcVdd (x + (l.map (exactCore src v r quad)).sum) ∧
      s'.numCoresOff = s.numCoresOff + l.countP (!r.corePoweredOn ·) ∧ s'.wof.idcQuad = s.wof.idcQuad := by
  induction l generalizing s x with
  | nil =>
    refine ⟨s, rfl, ?_, rfl, rfl⟩
    rw [List.map_nil, List.sum_nil, Int.add_zero]
    exact hx
  | cons core l ih =>
    have hgood' := fun core' hcore' => hgood core' (List.mem_cons_of_mem _ hcore')
    have hlaw' := fun core' hcore' => hlaw core' (List.mem_cons_of_mem _ hcore')
    rw [List.foldlM_cons, List.map_cons, List.sum_cons, List.countP_cons, ← Int.add_assoc]
    by_cases hon : r.corePoweredOn core
    · have hcores := hgood core List.mem_cons_self hon
      have hcore := hlaw core List.mem_cons_self hon
      have hstep : ∃ s₁, leakCore t v r quad s core = some s₁ ∧ s₁.idcVdd = s.idcVdd + quadOnCores t v r quad core ∧
          s₁.numCoresOff = s.numCoresOff ∧ s₁.wof.idcQuad = s.wof.idcQuad := by
        unfold leakCore
        rw [if_pos hon, if_neg hcores]
        exact ⟨_, rfl, rfl, rfl, rfl⟩
      obtain ⟨s₁, hstep, hsum, hcount, hframe⟩ := hstep
      have hx₁ : Wraps s₁.idcVdd (x + exactCore src v r quad core) := by
        unfold exactCore
        rw [hsum, if_pos hon]
        exact hx.add hcore.onCores.wraps
      obtain ⟨s', hrun, hx', hcount', hframe'⟩ := ih hgood' hlaw' s₁ hx₁
      refine ⟨s', ?_, hx', ?_, hframe'.trans hframe⟩
      · rw [hstep]
        exact hrun
      · rw [hcount', hcount, hon]
        rfl
    · have hoff : r.corePoweredOn core = false := Bool.eq_false_iff.2 hon
      have hx₁ : Wraps s.idcVdd (x + exactCore src v r quad core) := by
        unfold exactCore
        rw [if_neg hon, Int.add_zero]
        exact hx
      obtain ⟨s', hrun, hx', hcount', hframe'⟩ := ih hgood' hlaw' { s with numCoresOff := s.numCoresOff + 1 } hx₁
      refine ⟨s', ?_, hx', ?_, hframe'⟩
      · unfold leakCore
        rw [if_neg hon]
        exact hrun
      · rw [hcount', hoff, Bool.not_false, if_pos rfl]
        show s.numCoresOff + 1 + _ = _
        omega

theorem coresLoop_defined {l : List Nat} {s s' : LeakageLoop} (h : l.foldlM (leakCore t v r quad) s = some s') :
    ∀ core ∈ l, r.corePoweredOn core → v.goodNormalCores quad ≠ 0 := by
  induction l generalizing s with
  | nil => exact fun core hcore => absurd hcore List.not_mem_nil
  | cons core l ih =>
    rw [List.foldlM_cons] at h
    obtain ⟨s₁, hstep, hrest⟩ := Option.bind_eq_some_iff.1 h
    rw [List.forall_mem_cons]
    constructor
    · intro hon hzero
      unfold leakCore at hstep
      rw [if_pos hon, if_pos hzero] at hstep
      exact absurd hstep nofun
    · exact ih hrest

/-- A quad adds what it should. -/
theorem leakQuad_spec (hquads : v.goodQuadsPerSort ≠ 0) (hgood : HasGoodCores v r quad) (hlaw : QuadLaw src t v r quad)
    (s : LeakageLoop) {x : Int} (hx : Wraps s.idcVdd x) : ∃ s', leakQuad t v r s quad = some s' ∧
      Wraps s'.idcVdd (x + exactQuad src v r quad) ∧ s'.wof.idcQuad = idcQuad t v r quad := by
  have hiso := exact_offIso hlaw.percent
  have hidc : Exact (idcQuad t v r quad) (exactIdcQuad src v r quad) := hlaw.cachesOff.div (exact_toNat (6 : BitVec 32))
  unfold leakQuad exactQuad
  rw [if_neg hquads]
  by_cases hquad : r.quadIsOff quad
  · rw [if_pos hquad, if_pos hquad, ← Int.add_assoc]
    have hfour := (hlaw.coresOff hquad).div (exact_toNat (24 : BitVec 32))
    exact ⟨_, rfl, (hx.add (hidc.setWidth 16)).add (hfour.setWidth 16), rfl⟩
  · have hon := hlaw.on hquad
    obtain ⟨s₁, hrun, hx₁, hcount, hframe⟩ := coresLoop_spec (hgood hquad) hon.cores { s with
        wof := { quadValues t v r s.wof quad with
          coresOnPerQuad := Function.update (quadValues t v r s.wof quad).coresOnPerQuad quad (r.numCoresOnInQuad quad)
          tempq := Function.update (quadValues t v r s.wof quad).tempq quad (r.quadTemp quad).sample }
        numCoresOff := 0 } hx
    rw [if_neg hquad, if_neg hquad, ← Int.add_assoc, ← Int.add_assoc]
    simp only [hrun]
    have hnum : s₁.numCoresOff = r.numCoresOffInQuad quad := hcount.trans (Nat.zero_add _)
    have hcoresOff := hon.coresOff.div (exact_toNat (24 : BitVec 32))
    have hcache : Exact (quadCacheScaled t v r quad) (exactCacheProduct src v r quad / 1024) := hon.cacheProduct.shiftRight 10
    refine ⟨_, rfl, ?_, hframe⟩
    show Wraps (_ + _ + _) _
    rw [hnum]
    exact (hx₁.add (hcoresOff.setWidth 16)).add (hcache.setWidth 16)

theorem leakQuad_defined {s s' : LeakageLoop} (h : leakQuad t v r s quad = some s') :
    v.goodQuadsPerSort ≠ 0 ∧ HasGoodCores v r quad := by
  unfold leakQuad at h
  obtain ⟨-, h⟩ | ⟨hquads, h⟩ := ite_eq_iff.1 h
  · exact absurd h nofun
  · refine ⟨hquads, fun hquad => ?_⟩
    rw [if_neg hquad] at h
    obtain ⟨s₁, hrun, -⟩ := Option.bind_eq_some_iff.1 h
    exact coresLoop_defined hrun

/-- The loop over quads adds what the quads add. -/
theorem quadsLoop_spec {l : List Nat} (hquads : v.goodQuadsPerSort ≠ 0) (hgood : ∀ quad ∈ l, HasGoodCores v r quad)
    (hlaw : ∀ quad ∈ l, QuadLaw src t v r quad) (s : LeakageLoop) {x : Int} (hx : Wraps s.idcVdd x) :
    ∃ s', l.foldlM (leakQuad t v r) s = some s' ∧ Wraps s'.idcVdd (x + (l.map (exactQuad src v r)).sum) ∧
      ∀ quad, l.getLast? = some quad → s'.wof.idcQuad = idcQuad t v r quad := by
  induction l generalizing s x with
  | nil =>
    refine ⟨s, rfl, ?_, nofun⟩
    rw [List.map_nil, List.sum_nil, Int.add_zero]
    exact hx
  | cons quad l ih =>
    obtain ⟨s₁, hstep, hx₁, hidc⟩ := leakQuad_spec hquads (hgood quad List.mem_cons_self) (hlaw quad List.mem_cons_self) s hx
    obtain ⟨s', hrun, hx', hlast⟩ := ih (fun quad' h => hgood quad' (List.mem_cons_of_mem _ h))
      (fun quad' h => hlaw quad' (List.mem_cons_of_mem _ h)) s₁ hx₁
    refine ⟨s', ?_, ?_, ?_⟩
    · rw [List.foldlM_cons, hstep]
      exact hrun
    · rw [List.map_cons, List.sum_cons, ← Int.add_assoc]
      exact hx'
    · intro quad' hquad'
      cases l with
      | nil =>
        obtain rfl := Option.some.inj hquad'
        obtain rfl := Option.some.inj hrun
        exact hidc
      | cons next l =>
        rw [List.getLast?_cons_cons] at hquad'
        exact hlast quad' hquad'

theorem quadsLoop_defined {l : List Nat} {s s' : LeakageLoop} (h : l.foldlM (leakQuad t v r) s = some s') :
    ∀ quad ∈ l, v.goodQuadsPerSort ≠ 0 ∧ HasGoodCores v r quad := by
  induction l generalizing s with
  | nil => exact fun quad hquad => absurd hquad List.not_mem_nil
  | cons quad l ih =>
    rw [List.foldlM_cons] at h
    obtain ⟨s₁, hstep, hrest⟩ := Option.bind_eq_some_iff.1 h
    rw [List.forall_mem_cons]
    exact ⟨leakQuad_defined hstep, ih hrest⟩

end

theorem goodQuads_of_done {t : MultTable} {v : LeakageVpd} {r : CoreReadings} {wof wof' : CoreLeakage}
    (h : calculateCoreLeakage t v r wof = some wof') : v.goodQuadsPerSort ≠ 0 := by
  obtain ⟨s, hrun, -⟩ := Option.bind_eq_some_iff.1 h
  exact (quadsLoop_defined hrun 0 (List.mem_range.2 (by decide))).1

/-- The leakage is calculated without a quotient by 0 and without a wrap, and its sums are exact, if and only if the condition
holds. -/
theorem coreLeakageLaw_iff (src : MultSource) (t : MultTable) (v : LeakageVpd) (r : CoreReadings) (h : src.table = some t) :
    CoreLeakageLaw src t v r ↔ CoreLeakageOk src v r := by
  constructor
  · rintro ⟨hlaw, hsums⟩
    obtain ⟨wof', hdone, hsum, -⟩ := hsums ⟨0, 0, 0, 0, 0, fun _ => 0, fun _ => 0, fun _ => 0, fun _ => 0, fun _ => 0, 0⟩
    obtain ⟨s, hrun, hwof⟩ := Option.bind_eq_some_iff.1 hdone
    obtain rfl := Option.some.inj hwof
    have hdefined := quadsLoop_defined hrun
    refine ⟨goodQuads_of_done hdone, ?_, ?_⟩
    · intro quad hquad
      exact (quadLaw_iff h (hdefined quad (List.mem_range.2 hquad)).2).1 (hlaw quad hquad)
    · have hsmall := exact_extend s.idcVdd (v := 32) (by decide)
      unfold Exact at hsum hsmall
      have heq : Exact s.idcVdd (exactIdcVdd src v r) := hsmall.symm.trans hsum
      exact heq.inRange
  · rintro ⟨hquads, hok, htotal⟩
    have hlaw := fun quad hquad => (quadLaw_iff h (hok quad hquad).hasGoodCores).2 (hok quad hquad)
    refine ⟨hlaw, fun wof => ?_⟩
    obtain ⟨s, hrun, hx, hlast⟩ := quadsLoop_spec hquads (l := List.range maximumQuads.toNat)
      (fun quad hquad => (hok quad (List.mem_range.1 hquad)).hasGoodCores) (fun quad hquad => hlaw quad (List.mem_range.1 hquad))
      ⟨wof, 0, 0⟩ (x := 0) rfl
    rw [Int.zero_add] at hx
    have hsum := hx.exact_iff.2 htotal
    unfold calculateCoreLeakage
    simp only [hrun]
    refine ⟨_, rfl, ?_, ?_⟩
    · have hsmall := exact_extend s.idcVdd (v := 32) (by decide)
      exact hsmall.trans hsum
    · have hidc := hlast (maximumQuads.toNat - 1) rfl
      show Exact s.wof.idcQuad _
      rw [hidc]
      exact (hlaw (maximumQuads.toNat - 1) (by decide)).cachesOff.div (exact_toNat (6 : BitVec 32))

/-- A chip with all quads and cores good, and the currents of its quads measured at `temp`, in 0.5 C. -/
def allGoodVpd (temp : BitVec 8) : LeakageVpd where
  goodQuadsPerSort := 6
  goodNormalCores := fun _ => 4
  allCoresOffCachesOff := ⟨fun _ => 1200, fun _ => 90⟩
  allGoodCoresOffGoodCachesOn := ⟨fun _ => 2400, fun _ => 90⟩
  quadGoodCoresOnGoodCachesOn := fun _ => ⟨fun _ => 4000, fun _ => temp⟩
  nestLeakagePercent := 50

/-- One quad is off, and of the others one core each. -/
def someCoresOff : CoreReadings where
  vCore := fun _ => 8500
  quadPstates := fun quad => if quad = 5 then quadPoweredOff else 20
  corePwrOn := 0xEEEEE000
  tempnest := ⟨45, by decide⟩
  tempq := fun _ => ⟨50, by decide⟩
  tempprocthrmc := fun core => if core = 0 then ⟨0, by decide⟩ else ⟨55, by decide⟩

theorem coreLeakageLaw_usual : CoreLeakageLaw .p9 wofIddqMultTable (allGoodVpd 90) someCoresOff :=
  (coreLeakageLaw_iff .p9 wofIddqMultTable (allGoodVpd 90) someCoresOff rfl).2 (by decide)

/-- No good quads are a divisor of 0. Currents measured at 85 C are less at 50 C than those of the cores that are off, and the
difference wraps. -/
theorem coreLeakage_wraps : ¬CoreLeakageLaw .p9 wofIddqMultTable { allGoodVpd 90 with goodQuadsPerSort := 0 } someCoresOff ∧
    ¬CoreLeakageLaw .p9 wofIddqMultTable (allGoodVpd 170) someCoresOff := by
  constructor
  · rintro ⟨-, hsums⟩
    obtain ⟨wof', hdone, -⟩ := hsums ⟨0, 0, 0, 0, 0, fun _ => 0, fun _ => 0, fun _ => 0, fun _ => 0, fun _ => 0, 0⟩
    exact goodQuads_of_done hdone rfl
  · rintro ⟨hquads, -⟩
    have hcore := ((hquads 0 (by decide)).on (by decide)).cores 0 (by decide) (by decide)
    exact absurd hcore.difference.inRange (by decide)

end Occ.Wof
