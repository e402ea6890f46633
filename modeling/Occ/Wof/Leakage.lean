/-
Leakage currents (`wof.c`): the multiplier for a temperature, the interpolation of the measured currents for a voltage, and
the leakage of all cores, caches and quads.
-/
import Occ.Lib.Piecewise
import Mathlib.Data.BitVec

namespace Occ.Wof

/-! ## Interpolation -/

/-- `interpolate_linear` -/
def interpolateLinear (X x1 x2 y1 y2 : BitVec 32) : BitVec 32 :=
  if x2 = x1 ∨ y2 = y1 then y1 else ((X - x1) * (y2 - y1)).sdiv (x2 - x1) + y1

/-- `G_iddq_voltages`, in 100 uV -/
def iddqVoltages : List (BitVec 16) := [6000, 7000, 8000, 9000, 10000, 11000]

def iddqVoltage (i : Nat) : BitVec 16 := iddqVoltages.getD i 0

/-- `get_voltage_index` -/
def getVoltageIndex (voltage : BitVec 32) : Nat :=
  if voltage ≤ (iddqVoltage 0).setWidth 32 then 0
  else if (iddqVoltage 5).setWidth 32 ≤ voltage then 4
  else (List.range 5).findIdx fun i =>
    (iddqVoltage i).setWidth 32 ≤ voltage ∧ voltage ≤ (iddqVoltage (i + 1)).setWidth 32

/-! ## The multipliers -/

/-- `G_wof_mft_full_leakage_08V`: full leakages in mA, and for each row of the other table the multipliers for them. -/
def mftFullLeakage08V : List (List (BitVec 32)) :=
  [[20000, 30000, 40000, 50000, 60000, 70000, 80000, 90000, 100000, 110000],
   [171, 191, 207, 220, 231, 241, 250, 258, 265, 272],
   [195, 216, 232, 245, 257, 267, 276, 285, 292, 299],
   [221, 243, 260, 274, 286, 296, 306, 314, 322, 329],
   [251, 274, 292, 306, 318, 328, 338, 347, 354, 362],
   [286, 309, 327, 341, 354, 364, 374, 382, 390, 398],
   [325, 348, 366, 381, 393, 404, 413, 422, 430, 437],
   [369, 393, 411, 425, 437, 448, 457, 466, 473, 480],
   [419, 443, 460, 474, 486, 497, 506, 514, 521, 528],
   [476, 499, 516, 530, 541, 551, 559, 567, 574, 581],
   [541, 563, 578, 591, 602, 611, 619, 626, 632, 638],
   [615, 634, 648, 660, 669, 677, 684, 691, 696, 701],
   [698, 715, 727, 736, 744, 751, 757, 762, 767, 771],
   [793, 806, 815, 822, 828, 833, 837, 841, 844, 847],
   [901, 908, 913, 917, 921, 923, 926, 928, 930, 932],
   [1024, 1024, 1024, 1024, 1024, 1024, 1024, 1024, 1024, 1024],
   [1163, 1154, 1148, 1143, 1139, 1136, 1133, 1130, 1128, 1126],
   [1322, 1301, 1287, 1276, 1267, 1259, 1253, 1247, 1242, 1237],
   [1502, 1467, 1442, 1424, 1409, 1396, 1385, 1376, 1368, 1360],
   [1706, 1654, 1617, 1589, 1567, 1548, 1532, 1518, 1506, 1495],
   [1939, 1864, 1813, 1774, 1743, 1717, 1695, 1676, 1659, 1643],
   [2203, 2101, 2032, 1980, 1938, 1904, 1874, 1849, 1826, 1806]]

def mftFullLeakage (row column : Nat) : BitVec 32 := (mftFullLeakage08V.getD row []).getD column 0

/-- `WOF_IDDQ_MULT_TABLE_N` -/
def wofIddqMultTableN : Nat := 21

/-- `G_wof_iddq_mult_table`: differences of temperatures, and multipliers. -/
abbrev MultTable := List (BitVec 16 × BitVec 16)

/-- The table as it is initialised. -/
def wofIddqMultTable : MultTable :=
  [(-70, 163), (-65, 186), (-60, 212), (-55, 242), (-50, 276), (-45, 314), (-40, 359), (-35, 409), (-30, 466), (-25, 531),
   (-20, 606), (-15, 691), (-10, 788), (-5, 898), (0, 1024), (5, 1168), (10, 1331), (15, 1518), (20, 1731), (25, 1973),
   (30, 2250)]

def MultTable.delta (t : MultTable) (i : Nat) : BitVec 32 := (t.getD i (0, 0)).1.signExtend 32
def MultTable.mult (t : MultTable) (i : Nat) : BitVec 32 := (t.getD i (0, 0)).2.signExtend 32

/-- The column of the leakage in `calculate_temperature_scaling_08V`. -/
def leakageIdx (fullLeakage : BitVec 32) : Nat :=
  if fullLeakage < mftFullLeakage 0 0 then 0
  else if mftFullLeakage 0 9 ≤ fullLeakage then 8
  else (List.range 9).findIdx fun i => mftFullLeakage 0 i ≤ fullLeakage ∧ fullLeakage ≤ mftFullLeakage 0 (i + 1)

/-- The table for a full leakage. -/
def scaledTable (fullLeakage : BitVec 32) : MultTable :=
  let idx := leakageIdx fullLeakage
  (List.range wofIddqMultTableN).map fun i => ((wofIddqMultTable.getD i (0, 0)).1,
    (interpolateLinear fullLeakage (mftFullLeakage 0 idx) (mftFullLeakage 0 (idx + 1)) (mftFullLeakage (i + 1) idx)
      (mftFullLeakage (i + 1) (idx + 1))).setWidth 16)

/-- `full_leakage_08v_mA`, from `allGoodCoresCachesOn[2]` and `good_normal_cores_per_sort` -/
def fullLeakage08V (allGoodCoresCachesOn : BitVec 16) (goodNormalCoresPerSort : BitVec 8) : BitVec 32 :=
  allGoodCoresCachesOn.setWidth 32 * 5 * 24 / goodNormalCoresPerSort.setWidth 32

/-- `calculate_temperature_scaling_08V`; there is no quotient for 0 cores. -/
def calculateTemperatureScaling08V (allGoodCoresCachesOn : BitVec 16) (goodNormalCoresPerSort : BitVec 8) : Option MultTable :=
  if goodNormalCoresPerSort = 0 then none
  else some (scaledTable (fullLeakage08V allGoodCoresCachesOn goodNormalCoresPerSort))

/-- The row in `calculate_multiplier`. -/
def multIdx (t : MultTable) (temp : BitVec 32) : Nat :=
  if temp.slt (t.delta 0) then 0
  else if (t.delta (wofIddqMultTableN - 1)).sle temp then wofIddqMultTableN - 2
  else (List.range (wofIddqMultTableN - 1)).findIdx fun i => (t.delta i).sle temp && temp.sle (t.delta (i + 1))

/-- `calculate_multiplier` -/
def calculateMultiplier (t : MultTable) (temp : BitVec 32) : BitVec 32 :=
  let i := multIdx t temp
  interpolateLinear temp (t.delta i) (t.delta (i + 1)) (t.mult i) (t.mult (i + 1))

/-! ## Scaling currents -/

/-- `scale` -/
def scale (t : MultTable) (current deltaTemp : BitVec 16) : BitVec 32 :=
  (current.setWidth 32 * calculateMultiplier t (deltaTemp.signExtend 32)) >>> 10

/-- A row of currents in 5 mA, and the temperatures in 0.5 C that they were measured at. -/
structure LeakageRow where
  leak : Nat → BitVec 16
  avgtemp : Nat → BitVec 8

/-- The difference to the temperature of a measurement. -/
def LeakageRow.deltaTemp (r : LeakageRow) (i : Nat) (base : BitVec 16) : BitVec 16 :=
  base - (r.avgtemp i >>> 1).setWidth 16

/-- `scale_and_interpolate`, in 10 mA -/
def scaleAndInterpolate (t : MultTable) (r : LeakageRow) (idx : Nat) (baseTemp voltage : BitVec 16) : BitVec 32 :=
  let scaledLowerLeak := scale t (r.leak idx) (r.deltaTemp idx baseTemp) * 5
  let scaledUpperLeak := scale t (r.leak (idx + 1)) (r.deltaTemp (idx + 1) baseTemp) * 5
  (interpolateLinear (voltage.setWidth 32) ((iddqVoltage idx).setWidth 32) ((iddqVoltage (idx + 1)).setWidth 32)
    scaledLowerLeak scaledUpperLeak).sdiv 10

end Occ.Wof
