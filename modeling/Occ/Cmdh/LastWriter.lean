/-
Two accepted packets of one format: the second one leaves the same state after the first one as without it exactly when
everything that only the first one writes is as it was before.
-/
import Occ.Cmdh.ApssResidue
import Occ.Cmdh.DataCnfg
import Occ.Cmdh.GpuResidue
import Occ.Cmdh.MemResidue

namespace Occ.Cmdh

/-- Two packets of one format, of those whose stores are spread over several globals. -/
inductive PacketPair
  | apssConfig (p q : ApssConfig) | memCfg (p q : MemConfig) | gpu (p q : GpuConfig)

namespace PacketPair

def first : PacketPair → CnfgPacket
  | .apssConfig p _ => .apssConfig p
  | .memCfg p _ => .memCfg p
  | .gpu p _ => .gpu p

def second : PacketPair → CnfgPacket
  | .apssConfig _ q => .apssConfig q
  | .memCfg _ q => .memCfg q
  | .gpu _ q => .gpu q

/-- Everything that only the first packet writes is as it was before. -/
def Covered (env : CnfgEnv) (s : DataCnfg) : PacketPair → Prop
  | .apssConfig p q => ApssCovered env.chipId s.apss p q
  | .memCfg p q => MemCovered s.mem (memWrites p.dataSets) (memWrites q.dataSets)
  | .gpu p q => GpuCovered s.gpu (p.writes (s.apss.pwrReadingType == pwrReadingTypeApss))
      (q.writes (s.apss.pwrReadingType == pwrReadingTypeApss))

end PacketPair

/-! ## Accepted packets -/

section Accepted

variable {env : CnfgEnv} {s t : DataCnfg}

theorem notifyAmec_stored_iff {mask : BitVec 32} {err : Option DataErrl}
    (hmask : mask ≠ dataMaskThrmThresholds ∧ mask ≠ dataMaskIpsCnfg) :
    notifyAmec mask (s.stored mask err) = (t, none) ↔ err = none ∧ t = { s with dataMask := s.dataMask ||| mask } := by
  rcases err with _ | err
  · simp [DataCnfg.stored, notifyAmec, DataCnfg.amecDataChange, hmask, eq_comm]
  · simp [DataCnfg.stored, notifyAmec]

theorem dataStoreCnfgdata_apssConfig {cmd : ApssConfig} :
    dataStoreCnfgdata env s (.apssConfig cmd) = (t, none) ↔
      ∃ apss, dataStoreApssConfig env.chipId s.apss cmd = (apss, none) ∧
        t = { s with apss := apss, dataMask := s.dataMask ||| dataMaskApssConfig } := by
  rcases h : dataStoreApssConfig env.chipId s.apss cmd with ⟨apss, err⟩
  simp only [dataStoreCnfgdata, h]
  rw [notifyAmec_stored_iff (by decide)]
  simp

theorem dataStoreCnfgdata_memCfg {cmd : MemConfig} :
    dataStoreCnfgdata env s (.memCfg cmd) = (t, none) ↔
      ∃ mem, dataStoreMemCfg s.mem cmd = (mem, none) ∧
        t = { s with mem := mem, dataMask := s.dataMask ||| dataMaskMemCfg } := by
  rcases h : dataStoreMemCfg s.mem cmd with ⟨mem, _ | stop⟩
  · simp only [dataStoreCnfgdata, h]
    rw [notifyAmec_stored_iff (by decide)]
    simp
  · simp [dataStoreCnfgdata, h]

theorem dataStoreCnfgdata_gpu {cmd : GpuConfig} :
    dataStoreCnfgdata env s (.gpu cmd) = (t, none) ↔
      ∃ gpu, dataStoreGpu s.apss.pwrReadingType s.gpu cmd = (gpu, none) ∧
        t = { s with gpu := gpu, dataMask := s.dataMask ||| dataMaskGpu } := by
  rcases h : dataStoreGpu s.apss.pwrReadingType s.gpu cmd with ⟨gpu, err⟩
  simp only [dataStoreCnfgdata, h]
  rw [notifyAmec_stored_iff (by decide)]
  simp

theorem or_or_self_right (mask bit : BitVec 32) : mask ||| bit ||| bit = mask ||| bit := by
  rw [BitVec.or_assoc, BitVec.or_self]

/-- The second packet is accepted without the first one, too; and the state after both is the state after the second alone
exactly when everything that only the first one writes is as it was. -/
theorem lastWriter_iff_covered (pair : PacketPair) {s' : DataCnfg}
    (hp : dataStoreCnfgdata env s pair.first = (s', none)) (hq : dataStoreCnfgdata env s' pair.second = (t, none)) :
    ∃ u, dataStoreCnfgdata env s pair.second = (u, none) ∧ (t = u ↔ pair.Covered env s) := by
  cases pair
  case apssConfig p q =>
    obtain ⟨apss, hp', rfl⟩ := dataStoreCnfgdata_apssConfig.1 hp
    obtain ⟨apss', hq', rfl⟩ := dataStoreCnfgdata_apssConfig.1 hq
    obtain ⟨u, hu, hiff⟩ := apss_eq_iff_covered hp' hq'
    refine ⟨_, dataStoreCnfgdata_apssConfig.2 ⟨u, hu, rfl⟩, ?_⟩
    rw [PacketPair.Covered, ← hiff]
    simp [or_or_self_right]
  case memCfg p q =>
    obtain ⟨mem, hp', rfl⟩ := dataStoreCnfgdata_memCfg.1 hp
    obtain ⟨mem', hq', rfl⟩ := dataStoreCnfgdata_memCfg.1 hq
    obtain ⟨u, hu, hiff⟩ := mem_eq_iff_covered hp' hq'
    refine ⟨_, dataStoreCnfgdata_memCfg.2 ⟨u, hu, rfl⟩, ?_⟩
    rw [PacketPair.Covered, ← hiff]
    simp [or_or_self_right]
  case gpu p q =>
    obtain ⟨gpu, hp', rfl⟩ := dataStoreCnfgdata_gpu.1 hp
    obtain ⟨gpu', hq', rfl⟩ := dataStoreCnfgdata_gpu.1 hq
    obtain ⟨u, hu, hiff⟩ := gpu_eq_iff_covered hp' hq'
    refine ⟨_, dataStoreCnfgdata_gpu.2 ⟨u, hu, rfl⟩, ?_⟩
    rw [PacketPair.Covered, ← hiff]
    simp [or_or_self_right]

end Accepted

/-! ## A fresh boot -/

/-- Chip 0 in standby. -/
def standbyEnv : CnfgEnv := ⟨true, true, 0, false, 4000000, 2000000⟩

/-- A packet of OCM memory with a sensor for each of these memory buffers. -/
def membufConfig (membufs : List (BitVec 8)) (h : membufs.length < 16) : MemConfig where
  dataLength := BitVec.ofNat 16 (3 + membufs.length * 12)
  version := dataMemCfgVersion20
  defaultMemPwrCtl := 0
  ipsMemPwrCtl := 0
  numDataSets := BitVec.ofNat 8 membufs.length
  dataSets := membufs.map fun membuf => ⟨0x1000 + membuf.setWidth 32, 0, memTypeOcm ||| membuf, 0xFF, dataFruCentaur, 0⟩
  len := by
    rw [List.length_map, BitVec.toNat_ofNat, Nat.mod_eq_of_lt]
    omega

/-- Two memory buffers, and then only the first one of them. -/
def membufPair : PacketPair := .memCfg (membufConfig [0, 1] (by decide)) (membufConfig [0] (by decide))

/-- The states after the first packet, after both, and after the second one alone. -/
def afterFirst : DataCnfg := (dataStoreCnfgdata standbyEnv (.boot standbyEnv) membufPair.first).1
def afterBoth : DataCnfg := (dataStoreCnfgdata standbyEnv afterFirst membufPair.second).1
def afterSecond : DataCnfg := (dataStoreCnfgdata standbyEnv (.boot standbyEnv) membufPair.second).1

theorem membufPair_accepted :
    (dataStoreCnfgdata standbyEnv (.boot standbyEnv) membufPair.first).2 = none ∧
      (dataStoreCnfgdata standbyEnv afterFirst membufPair.second).2 = none ∧
      (dataStoreCnfgdata standbyEnv (.boot standbyEnv) membufPair.second).2 = none := by
  decide

/-- The first packet sent again. -/
def resentPair : PacketPair := .memCfg (membufConfig [0, 1] (by decide)) (membufConfig [0, 1] (by decide))
def afterResent : DataCnfg := (dataStoreCnfgdata standbyEnv afterFirst resentPair.second).1

theorem resentPair_accepted :
    dataStoreCnfgdata standbyEnv (.boot standbyEnv) resentPair.first = (afterFirst, none) ∧
      dataStoreCnfgdata standbyEnv afterFirst resentPair.second = (afterResent, none) := by
  constructor
  · exact Prod.ext rfl membufPair_accepted.1
  · refine Prod.ext rfl ?_
    decide

theorem lastWriter_iff_covered_resent :
    ∃ u, dataStoreCnfgdata standbyEnv (.boot standbyEnv) resentPair.second = (u, none) ∧
      (afterResent = u ↔ resentPair.Covered standbyEnv (.boot standbyEnv)) :=
  lastWriter_iff_covered resentPair resentPair_accepted.1 resentPair_accepted.2

/-- The second memory buffer keeps its ID and is still marked as present. -/
theorem second_membuf_kept :
    dataStoreCnfgdata standbyEnv (.boot standbyEnv) membufPair.first = (afterFirst, none) ∧
      dataStoreCnfgdata standbyEnv afterFirst membufPair.second = (afterBoth, none) ∧
      dataStoreCnfgdata standbyEnv (.boot standbyEnv) membufPair.second = (afterSecond, none) ∧
      afterBoth.mem.centaurHuids 1 ≠ afterSecond.mem.centaurHuids 1 ∧
      afterBoth.mem.presentCentaurs 1 ≠ afterSecond.mem.presentCentaurs 1 ∧ afterBoth ≠ afterSecond := by
  obtain ⟨hfirst, hboth, hsecond⟩ := membufPair_accepted
  have hpresent : afterBoth.mem.presentCentaurs 1 ≠ afterSecond.mem.presentCentaurs 1 := by decide
  refine ⟨Prod.ext rfl hfirst, Prod.ext rfl hboth, Prod.ext rfl hsecond, by decide, hpresent, ?_⟩
  intro h
  exact hpresent (by rw [h])

end Occ.Cmdh
