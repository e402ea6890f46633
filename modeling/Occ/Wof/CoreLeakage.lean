/-
The leakage of the cores, caches and quads (`calculate_core_leakage` in `wof.c`).
-/
import Occ.Wof.ScalingLaw
import Occ.Wof.Vfrt

namespace Occ.Wof

/-- `NUM_CORES_PER_QUAD` -/
def numCoresPerQuad : Nat := 4

/-- `QUAD_POWERED_OFF` -/
def quadPoweredOff : BitVec 8 := 0xFF

/-- What the OCC pstate parameter block says of leakage; nothing of it is checked when it is read. -/
structure LeakageVpd where
  goodQuadsPerSort : BitVec 8
  goodNormalCores : Nat → BitVec 8
  allCoresOffCachesOff : LeakageRow
  allGoodCoresOffGoodCachesOn : LeakageRow
  quadGoodCoresOnGoodCachesOn : Nat → LeakageRow
  nestLeakagePercent : BitVec 16

/-- What `calculate_core_leakage` reads of the quads and cores: the voltages of the quads in 100 uV, their pstates, the bits of
the cores that are powered on, and temperatures. -/
structure CoreReadings where
  vCore : Nat → BitVec 16
  quadPstates : Nat → BitVec 8
  corePwrOn : BitVec 32
  tempnest : SensorTemp
  tempq : Nat → SensorTemp
  tempprocthrmc : Nat → SensorTemp

namespace CoreReadings

variable (r : CoreReadings)

/-- `quad_v_idx` -/
def quadVIdx (quad : Nat) : Nat := getVoltageIndex ((r.vCore quad).setWidth 32)

/-- `core_powered_on` -/
def corePoweredOn (core : Nat) : Bool := r.corePwrOn &&& 0x80000000 >>> core ≠ 0

/-- The temperature of a quad; for 0 that of the nest. -/
def quadTemp (quad : Nat) : SensorTemp := if (r.tempq quad).sample = 0 then r.tempnest else r.tempq quad

/-- The temperature of a core; for 0 that of its quad. -/
def coreTemp (quad core : Nat) : SensorTemp :=
  if (r.tempprocthrmc core).sample = 0 then r.quadTemp quad else r.tempprocthrmc core

/-- The cores of a quad. -/
def coresOf (quad : Nat) : List Nat := (List.range numCoresPerQuad).map (quad * numCoresPerQuad + ·)

/-- `num_cores_on_in_quad` -/
def numCoresOnInQuad (quad : Nat) : Nat := (coresOf quad).countP r.corePoweredOn

def numCoresOffInQuad (quad : Nat) : Nat := (coresOf quad).countP (!r.corePoweredOn ·)

def quadIsOff (quad : Nat) : Bool := r.quadPstates quad = quadPoweredOff

end CoreReadings

/-! ## The values of a quad -/

section
variable (t : MultTable) (v : LeakageVpd) (r : CoreReadings)

/-- `all_cores_off_before` -/
def allCoresOffBefore (quad : Nat) : BitVec 32 :=
  scaleAndInterpolate t v.allCoresOffCachesOff (r.quadVIdx quad) r.tempnest.sample (r.vCore quad)

/-- `all_cores_off_iso` -/
def allCoresOffIso (quad : Nat) : BitVec 32 := allCoresOffBefore t v r quad * v.nestLeakagePercent.setWidth 32 / 100

/-- `all_good_caches_on_iso` -/
def allGoodCachesOnIso (quad : Nat) : BitVec 32 :=
  scaleAndInterpolate t v.allGoodCoresOffGoodCachesOn (r.quadVIdx quad) r.tempnest.sample (r.vCore quad) -
    allCoresOffIso t v r quad

/-- `all_caches_off_iso` -/
def allCachesOffIso (quad : Nat) : BitVec 32 := allCoresOffBefore t v r quad - allCoresOffIso t v r quad

/-- `idc_quad` -/
def idcQuad (quad : Nat) : BitVec 32 := allCachesOffIso t v r quad / 6

/-- `l_quad_cache`, for `good_quads_per_sort` that is not 0 -/
def quadCache (quad : Nat) : BitVec 16 :=
  ((allGoodCachesOnIso t v r quad - allCachesOffIso t v r quad * (6 - v.goodQuadsPerSort.setWidth 32) / 6) /
    v.goodQuadsPerSort.setWidth 32).setWidth 16

/-- `quad_good_cores_only` -/
def quadGoodCoresOnly (quad core : Nat) : BitVec 32 :=
  scaleAndInterpolate t (v.quadGoodCoresOnGoodCachesOn quad) (r.quadVIdx quad) (r.coreTemp quad core).sample (r.vCore quad) -
    scaleAndInterpolate t v.allGoodCoresOffGoodCachesOn (r.quadVIdx quad) (r.coreTemp quad core).sample (r.vCore quad) +
    allCoresOffIso t v r quad * (v.goodNormalCores quad).setWidth 32 / 24

/-- `quad_on_cores`, for `good_normal_cores` that is not 0 -/
def quadOnCores (quad core : Nat) : BitVec 16 :=
  (quadGoodCoresOnly t v r quad core / (v.goodNormalCores quad).setWidth 32).setWidth 16

/-- The leakage of the caches of a quad, for its temperature. -/
def quadCacheScaled (quad : Nat) : BitVec 32 :=
  scale t (quadCache t v r quad) ((r.quadTemp quad).sample - r.tempnest.sample)

end

/-! ## The loops -/

/-- What `calculate_core_leakage` writes into `g_wof`, but for the percentage. -/
structure CoreLeakage where
  allCoresOffBefore : BitVec 32
  allCoresOffIso : BitVec 32
  allGoodCachesOnIso : BitVec 32
  allCachesOffIso : BitVec 32
  idcQuad : BitVec 32
  coresOnPerQuad : Nat → Nat
  tempq : Nat → BitVec 16
  tempprocthrmc : Nat → BitVec 16
  quadGoodCoresOnly : Nat → BitVec 32
  quadOnCores : Nat → BitVec 16
  idcVdd : BitVec 32

/-- The sum and the count in the loops, with what they write. -/
structure LeakageLoop where
  wof : CoreLeakage
  idcVdd : BitVec 16
  numCoresOff : Nat

section
variable (t : MultTable) (v : LeakageVpd) (r : CoreReadings)

/-- The loop over the cores of a quad; there is no quotient for 0 good cores. -/
def leakCore (quad : Nat) (s : LeakageLoop) (core : Nat) : Option LeakageLoop :=
  if r.corePoweredOn core then
    if v.goodNormalCores quad = 0 then none
    else some { s with
      wof := { s.wof with
        tempprocthrmc := Function.update s.wof.tempprocthrmc core (r.coreTemp quad core).sample
        quadGoodCoresOnly := Function.update s.wof.quadGoodCoresOnly quad (quadGoodCoresOnly t v r quad core)
        quadOnCores := Function.update s.wof.quadOnCores quad (quadOnCores t v r quad core) }
      idcVdd := s.idcVdd + quadOnCores t v r quad core }
  else some { s with numCoresOff := s.numCoresOff + 1 }

/-- The values that are written for all quads. -/
def quadValues (wof : CoreLeakage) (quad : Nat) : CoreLeakage :=
  { wof with
    allCoresOffBefore := allCoresOffBefore t v r quad
    allCoresOffIso := allCoresOffIso t v r quad
    allGoodCachesOnIso := allGoodCachesOnIso t v r quad
    allCachesOffIso := allCachesOffIso t v r quad
    idcQuad := idcQuad t v r quad }

/-- The loop over the quads; there is no quotient for 0 good quads. -/
def leakQuad (s : LeakageLoop) (quad : Nat) : Option LeakageLoop :=
  if v.goodQuadsPerSort = 0 then none
  else if r.quadIsOff quad then
    some { s with
      wof := quadValues t v r s.wof quad
      idcVdd := s.idcVdd + (idcQuad t v r quad).setWidth 16 + (allCoresOffIso t v r quad * 4 / 24).setWidth 16 }
  else do
    let wof := quadValues t v r s.wof quad
    let s' ← (CoreReadings.coresOf quad).foldlM (leakCore t v r quad)
      { s with
        wof := { wof with
          coresOnPerQuad := Function.update wof.coresOnPerQuad quad (r.numCoresOnInQuad quad)
          tempq := Function.update wof.tempq quad (r.quadTemp quad).sample }
        numCoresOff := 0 }
    some { s' with
      idcVdd := s'.idcVdd + (allCoresOffIso t v r quad * BitVec.ofNat 32 s'.numCoresOff / 24).setWidth 16 +
        (quadCacheScaled t v r quad).setWidth 16 }

/-- `calculate_core_leakage` -/
def calculateCoreLeakage (wof : CoreLeakage) : Option CoreLeakage := do
  let s ← (List.range maximumQuads.toNat).foldlM (leakQuad t v r) ⟨wof, 0, 0⟩
  some { s.wof with idcVdd := s.idcVdd.setWidth 32 }

end

end Occ.Wof
